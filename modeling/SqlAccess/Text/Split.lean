/-
Taking texts apart at separators and prefixes.

`splitOnChar` and `joinWith` are inverse to each other on fields that do not hold
the separator (`splitOnChar_joinWith`, `joinWith_splitOnChar`).
-/
namespace SqlAccess.Text

/-- The fields of a text between the occurrences of a separator; there is always
one field more than there are separators. -/
def splitOnChar (sep : Char) : List Char → List (List Char)
  | [] => [[]]
  | c :: cs =>
    if c = sep then [] :: splitOnChar sep cs
    else (splitOnChar sep cs).modifyHead (c :: ·)

/-- The fields with the separator between them. -/
def joinWith (sep : List Char) : List (List Char) → List Char
  | [] => []
  | [field] => field
  | field :: next :: rest => field ++ sep ++ joinWith sep (next :: rest)

/-- The rest of a text after a prefix that it starts with. -/
def stripPrefix? : List Char → List Char → Option (List Char)
  | [], cs => some cs
  | _ :: _, [] => none
  | p :: ps, c :: cs => if p = c then stripPrefix? ps cs else none

/-- A text without the byte order mark in front of it, if there is one. -/
def withoutMark (cs : List Char) : List Char := (stripPrefix? ['\ufeff'] cs).getD cs

/-- The texts before and after the first occurrence of a separator. -/
def splitOnce? (sep : List Char) : List Char → Option (List Char × List Char)
  | [] => (stripPrefix? sep []).map ([], ·)
  | c :: cs =>
    match stripPrefix? sep (c :: cs) with
    | some rest => some ([], rest)
    | none => (splitOnce? sep cs).map fun (before, after) => (c :: before, after)

/-- The text with every occurrence of a pair of characters, read from the left,
replaced by one character. -/
def replacePair (a b new : Char) : List Char → List Char
  | [] => []
  | [c] => [c]
  | c :: d :: rest =>
    if c = a ∧ d = b then new :: replacePair a b new rest
    else c :: replacePair a b new (d :: rest)

theorem splitOnChar_ne_nil (sep : Char) (cs : List Char) : splitOnChar sep cs ≠ [] := by
  induction cs with
  | nil => simp [splitOnChar]
  | cons c cs ih =>
    unfold splitOnChar
    split
    · simp
    · cases h : splitOnChar sep cs with
      | nil => exact absurd h ih
      | cons field rest => simp

theorem splitOnChar_append_sep {sep : Char} {field : List Char} (h : sep ∉ field)
    (rest : List Char) :
    splitOnChar sep (field ++ sep :: rest) = field :: splitOnChar sep rest := by
  induction field with
  | nil => simp [splitOnChar]
  | cons c field ih =>
    have hc : c ≠ sep := fun hcs => h (by simp [hcs])
    have hf : sep ∉ field := fun hm => h (by simp [hm])
    simp [splitOnChar, hc, ih hf]

theorem splitOnChar_of_notMem {sep : Char} {field : List Char} (h : sep ∉ field) :
    splitOnChar sep field = [field] := by
  induction field with
  | nil => rfl
  | cons c field ih =>
    have hc : c ≠ sep := fun hcs => h (by simp [hcs])
    have hf : sep ∉ field := fun hm => h (by simp [hm])
    simp [splitOnChar, hc, ih hf]

theorem notMem_of_mem_splitOnChar {sep : Char} {cs field : List Char}
    (h : field ∈ splitOnChar sep cs) : sep ∉ field := by
  induction cs generalizing field with
  | nil => simp_all [splitOnChar]
  | cons c cs ih =>
    rw [splitOnChar] at h
    split at h
    · rcases List.mem_cons.1 h with rfl | h
      · exact List.not_mem_nil
      · exact ih h
    · next hc =>
      obtain ⟨first, rest, hsplit⟩ := List.exists_cons_of_ne_nil (splitOnChar_ne_nil sep cs)
      rw [hsplit] at h ih
      rcases List.mem_cons.1 h with rfl | h
      · exact List.not_mem_cons_of_ne_of_not_mem (Ne.symm hc) (ih List.mem_cons_self)
      · exact ih (List.mem_cons_of_mem _ h)

/-- Fields without the separator come back from their joining. -/
theorem splitOnChar_joinWith {sep : Char} {fields : List (List Char)} (hne : fields ≠ [])
    (h : ∀ field ∈ fields, sep ∉ field) : splitOnChar sep (joinWith [sep] fields) = fields := by
  induction fields with
  | nil => exact absurd rfl hne
  | cons field rest ih =>
    cases rest with
    | nil => simpa [joinWith] using splitOnChar_of_notMem (h field (by simp))
    | cons next rest =>
      have hi := ih (by simp) fun f hf => h f (by simp [hf])
      rw [joinWith, List.append_assoc, List.singleton_append,
        splitOnChar_append_sep (h field (by simp)), hi]

/-- Joining the fields of a text gives the text. -/
theorem joinWith_splitOnChar (sep : Char) (cs : List Char) :
    joinWith [sep] (splitOnChar sep cs) = cs := by
  induction cs with
  | nil => rfl
  | cons c cs ih =>
    have hne := splitOnChar_ne_nil sep cs
    unfold splitOnChar
    cases h : splitOnChar sep cs with
    | nil => exact absurd h hne
    | cons field rest =>
      rw [h] at ih
      split
      · next hc =>
        subst hc
        simp [joinWith, ih]
      · cases rest with
        | nil => simpa [joinWith] using ih
        | cons next rest => simpa [joinWith] using ih

theorem joinWith_eq_intercalate (sep : List Char) (fields : List (List Char)) :
    joinWith sep fields = sep.intercalate fields := by
  induction fields with
  | nil => rfl
  | cons field rest ih =>
    cases rest with
    | nil => rw [joinWith, List.intercalate_singleton]
    | cons next rest => rw [joinWith, ih, List.intercalate_cons_cons]

theorem stripPrefix?_eq_some {p cs rest : List Char} :
    stripPrefix? p cs = some rest ↔ cs = p ++ rest := by
  induction p generalizing cs with
  | nil => simp [stripPrefix?]
  | cons a p ih =>
    cases cs with
    | nil => simp [stripPrefix?]
    | cons c cs =>
      by_cases hac : a = c
      · simp [stripPrefix?, hac, ih]
      · simp [stripPrefix?, hac, Ne.symm hac]

end SqlAccess.Text

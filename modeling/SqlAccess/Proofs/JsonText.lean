/-
JSON text, written and read.

`Json.parse?_compact` says that the compact text of a value reads back as the value, as far as
its numbers are read back and it is not nested too deeply.  The reader puts the fields of an
object one by one in the order of their keys, so what comes back is `Json.sorted`; a value that
is normal is sorted already (`Json.sorted_of_normal`).

The induction is on the value, with one statement for a value and one each for the items and
the fields behind the first (`Json.value?_print`).  What follows the text is left over, and
fuel is never short, since everything that is begun has a character of its own.
-/
import SqlAccess.Proofs.JsonTokens

namespace SqlAccess.Json

mutual

/-- The value with the fields of its objects in the order of their keys. -/
def sorted : Json → Json
  | array items => array (sortedItems items)
  | object fields => object (putFields [] fields)
  | j => j

def sortedItems : List Json → List Json
  | [] => []
  | item :: rest => sorted item :: sortedItems rest

/-- Fields put one by one among those that are there. -/
def putFields (there : List (String × Json)) : List (String × Json) → List (String × Json)
  | [] => there
  | (key, value) :: rest => putFields (putEntry key (sorted value) there) rest

end

mutual

/-- All numbers of the value are read back: its integers are of 64 bits, and its doubles come
back from their texts. -/
def Readable : Json → Prop
  | integer n => IsWide n
  | real x => x.ReadsBack
  | array items => ReadableItems items
  | object fields => ReadableFields fields
  | _ => True

def ReadableItems : List Json → Prop
  | [] => True
  | item :: rest => Readable item ∧ ReadableItems rest

def ReadableFields : List (String × Json) → Prop
  | [] => True
  | (_, value) :: rest => Readable value ∧ ReadableFields rest

end

/-! ### Sorted values -/

/-- A field with the greatest key is put behind the others. -/
theorem putEntry_of_lt {α : Type} {key : String} {v : α} {entries : List (String × α)}
    (h : ∀ e ∈ entries, e.1 < key) : putEntry key v entries = entries ++ [(key, v)] := by
  induction entries with
  | nil => rfl
  | cons e entries ih =>
    have hlt : e.1 < key := h e List.mem_cons_self
    have hnot : ¬key < e.1 := Std.Asymm.asymm _ _ hlt
    have hne : key ≠ e.1 := by
      intro heq
      rw [← heq] at hlt
      exact Std.Irrefl.irrefl (r := (· < ·)) _ hlt
    rw [putEntry, if_neg hnot, if_neg hne, ih fun e' he' => h e' (List.mem_cons_of_mem e he')]
    rfl

mutual

theorem sorted_of_normal : ∀ {j : Json}, Normal j → sorted j = j
  | null, _ => rfl
  | flag _, _ => rfl
  | integer _, _ => rfl
  | real _, _ => rfl
  | text _, _ => rfl
  | array items, h => by
    rw [Normal] at h
    rw [sorted, sortedItems_of_normal h]
  | object fields, h => by
    rw [Normal] at h
    rw [sorted, putFields_of_normal [] h.1 h.2]
    rfl

theorem sortedItems_of_normal : ∀ {items : List Json}, NormalItems items → sortedItems items = items
  | [], _ => rfl
  | item :: rest, h => by
    rw [NormalItems] at h
    rw [sortedItems, sorted_of_normal h.1, sortedItems_of_normal h.2]

/-- Fields in the order of their keys are put behind one another. -/
theorem putFields_of_normal : ∀ {fields : List (String × Json)} (there : List (String × Json)),
    Ascending (there ++ fields) → NormalFields fields → putFields there fields = there ++ fields
  | [], there, _, _ => by rw [putFields, List.append_nil]
  | (key, value) :: rest, there, hascending, h => by
    rw [NormalFields] at h
    have hlt : ∀ e ∈ there, e.1 < key := fun e he =>
      (List.pairwise_append.1 hascending).2.2 e he (key, value) List.mem_cons_self
    have hsplit : there ++ (key, value) :: rest = there ++ [(key, value)] ++ rest := by
      rw [List.append_assoc]
      rfl
    rw [putFields, sorted_of_normal h.1, putEntry_of_lt hlt, hsplit]
    rw [hsplit] at hascending
    exact putFields_of_normal (there ++ [(key, value)]) hascending h.2

end

/-! ### Values -/

theorem skipBlanks_cons {c : Char} (hc : c ≠ ' ' ∧ c ≠ '\t' ∧ c ≠ '\n' ∧ c ≠ '\r')
    (cs : List Char) : skipBlanks (c :: cs) = c :: cs := by
  rw [skipBlanks, List.dropWhile_cons_of_neg]
  simp [hc]

/-- A number starts with a character that starts nothing else. -/
theorem value?_of_number? {cs rest : List Char} {j : Json} (h : number? cs = some (j, rest))
    (fuel depth : Nat) : value? (fuel + 1) depth cs = some (j, rest) := by
  obtain ⟨c, cs, rfl, hc⟩ := head_of_number? h
  rw [value?.eq_def]
  -- all branches but that of the numbers are for other characters in front
  split
  case h_10 => exact h
  all_goals simp_all

/-- A value starts at once, and not as a list of items ends. -/
theorem exists_print_eq_cons {j : Json} (hj : j.Readable) :
    ∃ c cs, print j = c :: cs ∧ (c ≠ ' ' ∧ c ≠ '\t' ∧ c ≠ '\n' ∧ c ≠ '\r') ∧ c ≠ ']' := by
  have hnumber : ∀ {cs : List Char} {k : Json}, number? cs = some (k, []) →
      ∃ c cs', cs = c :: cs' ∧ (c ≠ ' ' ∧ c ≠ '\t' ∧ c ≠ '\n' ∧ c ≠ '\r') ∧ c ≠ ']' := by
    intro cs k h
    obtain ⟨c, cs', hcs, hc⟩ := head_of_number? h
    refine ⟨c, cs', hcs, ?_⟩
    refine ⟨⟨?_, ?_, ?_, ?_⟩, ?_⟩ <;> rintro rfl <;> revert hc <;> decide
  cases j with
  | null => exact ⟨_, _, rfl, by decide, by decide⟩
  | flag b => cases b <;> exact ⟨_, _, rfl, by decide, by decide⟩
  | integer n =>
    rw [Readable] at hj
    exact hnumber (number?_signed hj)
  | real x =>
    rw [Readable] at hj
    exact hnumber hj
  | text s => exact ⟨_, _, rfl, by decide, by decide⟩
  | array items => exact ⟨_, _, rfl, by decide, by decide⟩
  | object fields => exact ⟨_, _, rfl, by decide, by decide⟩

theorem value?_array_cons {c : Char} (hc : c ≠ ' ' ∧ c ≠ '\t' ∧ c ≠ '\n' ∧ c ≠ '\r')
    (hclose : c ≠ ']') (fuel depth : Nat) (cs : List Char) :
    value? (fuel + 1) (depth + 1) ('[' :: c :: cs) =
      (value? fuel depth (c :: cs)).bind fun p =>
        (moreItems? fuel depth (skipBlanks p.2)).map fun q => (array (p.1 :: q.1), q.2) := by
  rw [value?, skipBlanks_cons hc]
  split
  · simp_all
  · simp [Option.map_eq_bind]

theorem value?_object_cons (fuel depth : Nat) (cs : List Char) :
    value? (fuel + 1) (depth + 1) ('{' :: '"' :: cs) =
      (field? fuel depth ('"' :: cs)).bind fun p =>
        (moreFields? fuel depth (putEntry p.1 p.2.1 []) (skipBlanks p.2.2)).map fun q =>
          (object q.1, q.2) := by
  rw [value?, skipBlanks_cons (by decide)]
  simp [Option.map_eq_bind]

theorem printString_eq_cons (s : String) :
    printString s = '"' :: (s.toList.flatMap escape ++ ['"']) := rfl

/-- What follows a value in a list does not belong to it. -/
theorem ends_printMoreItems (items : List Json) (rest : List Char) :
    Ends (printMoreItems items ++ ']' :: rest) := by
  cases items <;> exact ends_cons (by decide)

theorem ends_printMoreFields (fields : List (String × Json)) (rest : List Char) :
    Ends (printMoreFields fields ++ '}' :: rest) := by
  rcases fields with _ | ⟨⟨key, value⟩, fields⟩ <;> exact ends_cons (by decide)

theorem skipBlanks_printMoreItems (items : List Json) (rest : List Char) :
    skipBlanks (printMoreItems items ++ ']' :: rest) = printMoreItems items ++ ']' :: rest := by
  cases items <;> exact skipBlanks_cons (by decide) _

theorem skipBlanks_printMoreFields (fields : List (String × Json)) (rest : List Char) :
    skipBlanks (printMoreFields fields ++ '}' :: rest) = printMoreFields fields ++ '}' :: rest := by
  rcases fields with _ | ⟨⟨key, value⟩, fields⟩ <;> exact skipBlanks_cons (by decide) _

theorem skipBlanks_print {j : Json} (hj : j.Readable) (rest : List Char) :
    skipBlanks (print j ++ rest) = print j ++ rest := by
  obtain ⟨c, cs, hprint, hblank, -⟩ := exists_print_eq_cons hj
  rw [hprint, List.cons_append, skipBlanks_cons hblank]

/-- A field is read back if its value is. -/
theorem field?_print {value : Json} (hvalue : value.Readable) {fuel depth : Nat}
    {rest : List Char} (h : value? fuel depth (print value ++ rest) = some (value.sorted, rest))
    (key : String) :
    field? (fuel + 1) depth (printString key ++ ':' :: (print value ++ rest)) =
      some (key, value.sorted, rest) := by
  rw [field?, string?_printString]
  simp [skipBlanks_cons, skipBlanks_print hvalue, h]

/-- An array is read back if its first item is, and the others behind it. -/
theorem value?_array {item : Json} {items : List Json} {fuel depth : Nat} {rest : List Char}
    (hread : item.Readable)
    (hitem : value? fuel depth (print item ++ (printMoreItems items ++ ']' :: rest)) =
      some (item.sorted, printMoreItems items ++ ']' :: rest))
    (hmore : moreItems? fuel depth (printMoreItems items ++ ']' :: rest) =
      some (sortedItems items, rest)) :
    value? (fuel + 1) (depth + 1) (print (array (item :: items)) ++ rest) =
      some (sorted (array (item :: items)), rest) := by
  obtain ⟨c, cs, hprint, hblank, hclose⟩ := exists_print_eq_cons hread
  have hsplit : print (array (item :: items)) ++ rest =
      '[' :: c :: (cs ++ (printMoreItems items ++ ']' :: rest)) := by
    simp [print, printItems, hprint]
  rw [hprint, List.cons_append] at hitem
  rw [hsplit, value?_array_cons hblank hclose, hitem, Option.bind_some,
    skipBlanks_printMoreItems, hmore, sorted, sortedItems]
  rfl

/-- An object is read back if the value of its first field is, and the other fields behind it. -/
theorem value?_object {key : String} {value : Json} {fields : List (String × Json)}
    {fuel depth : Nat} {rest : List Char} (hread : value.Readable)
    (hvalue : value? fuel depth (print value ++ (printMoreFields fields ++ '}' :: rest)) =
      some (value.sorted, printMoreFields fields ++ '}' :: rest))
    (hmore : moreFields? (fuel + 1) depth (putEntry key value.sorted [])
      (printMoreFields fields ++ '}' :: rest) =
        some (putFields (putEntry key value.sorted []) fields, rest)) :
    value? (fuel + 2) (depth + 1) (print (object ((key, value) :: fields)) ++ rest) =
      some (sorted (object ((key, value) :: fields)), rest) := by
  have hfield := field?_print hread hvalue key
  have hsplit : print (object ((key, value) :: fields)) ++ rest =
      '{' :: (printString key ++
        ':' :: (print value ++ (printMoreFields fields ++ '}' :: rest))) := by
    simp [print, printFields]
  rw [printString_eq_cons, List.cons_append] at hfield
  rw [hsplit, printString_eq_cons, List.cons_append, value?_object_cons, hfield,
    Option.bind_some, skipBlanks_printMoreFields, hmore, sorted, putFields]
  rfl

/-- The fields behind a field are read back if the value of the next one is, and those behind
it. -/
theorem moreFields?_cons {key : String} {value : Json} {fields there : List (String × Json)}
    {fuel depth : Nat} {rest : List Char} (hread : value.Readable)
    (hvalue : value? fuel depth (print value ++ (printMoreFields fields ++ '}' :: rest)) =
      some (value.sorted, printMoreFields fields ++ '}' :: rest))
    (hmore : moreFields? (fuel + 1) depth (putEntry key value.sorted there)
      (printMoreFields fields ++ '}' :: rest) =
        some (putFields (putEntry key value.sorted there) fields, rest)) :
    moreFields? (fuel + 2) depth there (printMoreFields ((key, value) :: fields) ++ '}' :: rest) =
      some (putFields there ((key, value) :: fields), rest) := by
  have hfield := field?_print hread hvalue key
  have hsplit : printMoreFields ((key, value) :: fields) ++ '}' :: rest =
      ',' :: (printString key ++
        ':' :: (print value ++ (printMoreFields fields ++ '}' :: rest))) := by
    simp [printMoreFields]
  have hblank : skipBlanks (printString key ++
      ':' :: (print value ++ (printMoreFields fields ++ '}' :: rest))) =
        printString key ++ ':' :: (print value ++ (printMoreFields fields ++ '}' :: rest)) :=
    skipBlanks_cons (by decide) _
  rw [hsplit, moreFields?, hblank, hfield, putFields]
  simp [skipBlanks_printMoreFields, hmore]

mutual

/-- A value is read back, whatever follows. -/
theorem value?_print {j : Json} {fuel depth : Nat} {rest : List Char} (hj : j.Readable)
    (hdepth : j.depth ≤ depth) (hfuel : (print j).length ≤ fuel) (hrest : Ends rest) :
    value? fuel depth (print j ++ rest) = some (j.sorted, rest) := by
  -- every value has a character, so there is fuel to begin it
  obtain ⟨fuel, rfl⟩ : ∃ k, fuel = k + 1 := by
    obtain ⟨c, cs, hprint, -, -⟩ := exists_print_eq_cons hj
    rw [hprint, List.length_cons] at hfuel
    exact ⟨fuel - 1, by omega⟩
  -- what is inside has less depth and less text, so there is depth and fuel for it too
  cases j with
  | null => simp [print, value?, sorted]
  | flag b => cases b <;> simp [print, value?, sorted]
  | integer n =>
    rw [Readable] at hj
    simp only [print, sorted]
    exact value?_of_number? (number?_append (number?_signed hj) hrest) fuel depth
  | real x =>
    rw [Readable] at hj
    simp only [print, sorted]
    exact value?_of_number? (number?_append hj hrest) fuel depth
  | text s =>
    have hstring := string?_printString s rest
    rw [printString_eq_cons] at hstring
    simp only [print, sorted, printString_eq_cons, List.cons_append, value?]
    rw [← List.cons_append, hstring]
    rfl
  | array items =>
    rw [Readable] at hj
    rw [Json.depth] at hdepth
    rw [print, List.length_append, List.length_cons] at hfuel
    obtain ⟨depth, rfl⟩ : ∃ k, depth = k + 1 := ⟨depth - 1, by omega⟩
    rw [print, sorted]
    cases items with
    | nil => simp [printItems, value?, sortedItems, skipBlanks_cons]
    | cons item items =>
      rw [ReadableItems] at hj
      rw [depthItems] at hdepth
      rw [printItems, List.length_append] at hfuel
      exact value?_array hj.1
        (value?_print hj.1 (by omega) (by omega) (ends_printMoreItems items rest))
        (moreItems?_print hj.2 (by omega) (by omega))
  | object fields =>
    rw [Readable] at hj
    rw [Json.depth] at hdepth
    rw [print, List.length_append, List.length_cons] at hfuel
    obtain ⟨depth, rfl⟩ : ∃ k, depth = k + 1 := ⟨depth - 1, by omega⟩
    rw [print, sorted]
    rcases fields with _ | ⟨⟨key, value⟩, fields⟩
    · simp [printFields, value?, putFields, skipBlanks_cons]
    · rw [ReadableFields] at hj
      rw [depthFields] at hdepth
      rw [printFields, List.length_append, List.length_append, List.length_cons,
        printString_eq_cons, List.length_cons] at hfuel
      obtain ⟨fuel, rfl⟩ : ∃ k, fuel = k + 1 := ⟨fuel - 1, by omega⟩
      exact value?_object hj.1
        (value?_print hj.1 (by omega) (by omega) (ends_printMoreFields fields rest))
        (moreFields?_print hj.2 (by omega) (by omega))

theorem moreItems?_print {items : List Json} {fuel depth : Nat} {rest : List Char}
    (hitems : ReadableItems items) (hdepth : depthItems items ≤ depth)
    (hfuel : (printMoreItems items).length ≤ fuel) :
    moreItems? fuel depth (printMoreItems items ++ ']' :: rest) =
      some (sortedItems items, rest) := by
  cases items with
  | nil => simp [printMoreItems, moreItems?, sortedItems]
  | cons item items =>
    rw [ReadableItems] at hitems
    rw [depthItems] at hdepth
    rw [printMoreItems, List.length_append, List.length_cons] at hfuel
    obtain ⟨fuel, rfl⟩ : ∃ k, fuel = k + 1 := ⟨fuel - 1, by omega⟩
    have hitem : value? fuel depth (print item ++ (printMoreItems items ++ ']' :: rest)) =
        some (item.sorted, printMoreItems items ++ ']' :: rest) :=
      value?_print hitems.1 (by omega) (by omega) (ends_printMoreItems items rest)
    have hmore : moreItems? fuel depth (printMoreItems items ++ ']' :: rest) =
        some (sortedItems items, rest) :=
      moreItems?_print hitems.2 (by omega) (by omega)
    rw [printMoreItems, List.append_assoc, List.cons_append, moreItems?, skipBlanks_print hitems.1,
      hitem, sortedItems]
    simp [skipBlanks_printMoreItems, hmore]

theorem moreFields?_print {fields there : List (String × Json)} {fuel depth : Nat}
    {rest : List Char} (hfields : ReadableFields fields) (hdepth : depthFields fields ≤ depth)
    (hfuel : (printMoreFields fields).length ≤ fuel) :
    moreFields? fuel depth there (printMoreFields fields ++ '}' :: rest) =
      some (putFields there fields, rest) := by
  cases fields with
  | nil => simp [printMoreFields, moreFields?, putFields]
  | cons field fields =>
    obtain ⟨key, value⟩ := field
    rw [ReadableFields] at hfields
    rw [depthFields] at hdepth
    rw [printMoreFields, List.length_append, List.length_append, List.length_cons,
      List.length_cons, printString_eq_cons, List.length_cons] at hfuel
    obtain ⟨fuel, rfl⟩ : ∃ k, fuel = k + 2 := ⟨fuel - 2, by omega⟩
    exact moreFields?_cons hfields.1
      (value?_print hfields.1 (by omega) (by omega) (ends_printMoreFields fields rest))
      (moreFields?_print hfields.2 (by omega) (by omega))

end

/-! ### Texts -/

/-- **JSON text reads back.**  The compact text of a value is read as the value with its fields
in the order of their keys. -/
theorem parse?_compact {j : Json} (hj : j.Readable) (hdepth : j.depth ≤ depthLimit) :
    parse? j.compact = some j.sorted := by
  have hvalue : value? (2 * (print j).length + 2) depthLimit (print j ++ []) =
      some (j.sorted, []) :=
    value?_print hj hdepth (by omega) ends_nil
  have hblank := skipBlanks_print hj []
  rw [List.append_nil] at hvalue hblank
  rw [parse?, parseWithin?, compact, String.toList_ofList, hblank, hvalue]
  rfl

end SqlAccess.Json

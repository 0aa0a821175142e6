/-
Literals and quoted identifiers hide what is in them from the scanner of placeholders.

`Placeholder.Closed` states without the scanner what a text is in which every quote that is opened
is closed, and how many question marks stand outside of its quotes.  These are the texts that the
scanner leaves as it entered them (`Placeholder.closed_iff`), so that what follows is counted as if
it stood alone.  A literal and a quoted identifier are such texts.  The scanner knows nothing of
doubled quotes: to it the first of the two closes one literal and the second opens another
(`Placeholder.scan_doubled`).  The main statement is `Placeholder.literals_hide_placeholders`.
-/
import SqlAccess.Proofs.Placeholders

namespace SqlAccess.Placeholder

/-- The characters that open a literal or a quoted identifier, and close it again. -/
def IsQuote (c : Char) : Prop := c = '\'' ∨ c = '"'

/-- Every quote that is opened is closed, and the text has `n` question marks outside of them.
Between two quotes of one kind the other kind is a character like any other. -/
inductive Closed : Nat → List Char → Prop
  | nil : Closed 0 []
  | question {n : Nat} {cs : List Char} (h : Closed n cs) : Closed (n + 1) ('?' :: cs)
  | plain {n : Nat} {c : Char} {cs : List Char} (hquestion : c ≠ '?') (hquote : ¬IsQuote c)
    (h : Closed n cs) : Closed n (c :: cs)
  | quoted {n : Nat} {q : Char} {body cs : List Char} (hquote : IsQuote q) (hbody : q ∉ body)
    (h : Closed n cs) : Closed n (q :: (body ++ q :: cs))

/-- The text with every quote of one kind doubled. -/
def doubled (q : Char) (t : List Char) : List Char :=
  t.flatMap fun c => if c = q then [q, q] else [c]

/-- The text between two quotes, with such quotes in it doubled. -/
def enclosed (q : Char) (t : String) : String := String.ofList (q :: (doubled q t.toList ++ [q]))

/-- The SQL literal of a text. -/
def literal (t : String) : String := enclosed '\'' t

/-- The quoted identifier of a text. -/
def identifier (t : String) : String := enclosed '"' t

variable {n : Nat} {c q : Char} {cs body : List Char}

/-! ### Inside and outside of quotes -/

theorem IsQuote.ne_question (h : IsQuote q) : q ≠ '?' := by
  rcases h with rfl | rfl <;> decide

theorem step_none_of_isQuote (h : IsQuote q) : step none q = some q := if_pos h

theorem step_none_of_not_isQuote (h : ¬IsQuote c) : step none c = none := if_neg h

theorem step_self (q : Char) : step (some q) q = none := if_pos rfl

theorem step_of_ne (h : c ≠ q) : step (some q) c = some q := if_neg h

/-- Between quotes nothing is counted. -/
theorem count_some_cons (q c : Char) (cs : List Char) :
    count (some q) (c :: cs) = count (step (some q) c) cs := by
  rw [count, if_neg fun h => Option.some_ne_none q h.1, Nat.zero_add]

theorem count_none_cons (h : c ≠ '?') (cs : List Char) :
    count none (c :: cs) = count (step none c) cs := by
  rw [count, if_neg fun hc => h hc.2, Nat.zero_add]

theorem stepAll_cons (mode : Mode) (c : Char) (cs : List Char) :
    stepAll mode (c :: cs) = stepAll (step mode c) cs := rfl

/-- What stands between two quotes is passed over. -/
theorem scan_body (h : q ∉ body) (rest : List Char) :
    count (some q) (body ++ q :: rest) = count none rest ∧
      stepAll (some q) (body ++ q :: rest) = stepAll none rest := by
  induction body with
  | nil =>
    rw [List.nil_append, count_some_cons, stepAll_cons, step_self]
    exact ⟨rfl, rfl⟩
  | cons c body ih =>
    have hne : c ≠ q := fun heq => h (heq ▸ List.mem_cons_self)
    rw [List.cons_append, count_some_cons, stepAll_cons, step_of_ne hne]
    exact ih fun hmem => h (List.mem_cons_of_mem c hmem)

/-- If the scanner gets out of a literal, there is a first quote that closes it. -/
theorem exists_closing (h : stepAll (some q) cs = none) :
    ∃ body rest, q ∉ body ∧ cs = body ++ q :: rest := by
  induction cs with
  | nil => cases h
  | cons c cs ih =>
    by_cases hc : c = q
    · exact ⟨[], cs, List.not_mem_nil, by rw [hc]; rfl⟩
    · rw [stepAll_cons, step_of_ne hc] at h
      obtain ⟨body, rest, hbody, rfl⟩ := ih h
      exact ⟨c :: body, rest, List.not_mem_cons_of_ne_of_not_mem (Ne.symm hc) hbody, rfl⟩

/-! ### Closed texts -/

theorem Closed.scan (h : Closed n cs) : count none cs = n ∧ stepAll none cs = none := by
  induction h with
  | nil => exact ⟨rfl, rfl⟩
  | @question n cs _ ih =>
    have hstep : step none '?' = none := step_none_of_not_isQuote (by rintro (h | h) <;> cases h)
    rw [count, if_pos ⟨rfl, rfl⟩, stepAll_cons, hstep, ih.1, Nat.add_comm]
    exact ⟨rfl, ih.2⟩
  | plain hquestion hquote _ ih =>
    rw [count_none_cons hquestion, stepAll_cons, step_none_of_not_isQuote hquote]
    exact ih
  | quoted hquote hbody _ ih =>
    rw [count_none_cons hquote.ne_question, stepAll_cons, step_none_of_isQuote hquote]
    obtain ⟨hcount, hmode⟩ := scan_body hbody _
    exact ⟨hcount.trans ih.1, hmode.trans ih.2⟩

/-- A text that leaves the scanner outside of quotes is closed.  The induction is on the length,
since a quote takes everything up to the next one of its kind along. -/
theorem closed_of_stepAll (h : stepAll none cs = none) : Closed (count none cs) cs := by
  induction hlength : cs.length using Nat.strongRecOn generalizing cs with
  | ind k ih =>
    subst hlength
    cases cs with
    | nil => exact .nil
    | cons c cs =>
      by_cases hquote : IsQuote c
      · rw [stepAll_cons, step_none_of_isQuote hquote] at h
        obtain ⟨body, rest, hbody, rfl⟩ := exists_closing h
        obtain ⟨hcount, hmode⟩ := scan_body hbody rest
        have hshorter : rest.length < (c :: (body ++ c :: rest)).length := by
          simp only [List.length_cons, List.length_append]
          omega
        have hrest := ih _ hshorter (hmode ▸ h) rfl
        rw [count_none_cons hquote.ne_question, step_none_of_isQuote hquote, hcount]
        exact .quoted hquote hbody hrest
      · rw [stepAll_cons, step_none_of_not_isQuote hquote] at h
        have hrest := ih _ (Nat.lt_succ_self _) h rfl
        by_cases hquestion : c = '?'
        · subst hquestion
          rw [count, if_pos ⟨rfl, rfl⟩, step_none_of_not_isQuote hquote, Nat.add_comm]
          exact .question hrest
        · rw [count_none_cons hquestion, step_none_of_not_isQuote hquote]
          exact .plain hquestion hquote hrest

/-- **The closed texts are those that the scanner leaves as it entered them.** -/
theorem closed_iff {s : String} : Closed n s.toList ↔ Spans n s := by
  constructor
  · intro h
    exact ⟨h.scan.1, h.scan.2⟩
  · rintro ⟨rfl, hmode⟩
    exact closed_of_stepAll hmode

/-! ### Literals -/

/-- A doubled quote closes a literal and opens another, so that the text between two quotes is
passed over with all that it holds. -/
theorem scan_doubled (hquote : IsQuote q) (t : List Char) :
    count (some q) (doubled q t) = 0 ∧ stepAll (some q) (doubled q t) = some q := by
  induction t with
  | nil => exact ⟨rfl, rfl⟩
  | cons c t ih =>
    rw [doubled, List.flatMap_cons]
    split
    · rw [List.cons_append, List.singleton_append, count_some_cons, stepAll_cons, step_self,
        count_none_cons hquote.ne_question, stepAll_cons, step_none_of_isQuote hquote]
      exact ih
    · next hne =>
      rw [List.singleton_append, count_some_cons, stepAll_cons, step_of_ne hne]
      exact ih

theorem spans_enclosed (hquote : IsQuote q) (t : String) : Spans 0 (enclosed q t) := by
  obtain ⟨hcount, hmode⟩ := scan_doubled hquote t.toList
  constructor
  · rw [placeholderCount, enclosed, String.toList_ofList, count_none_cons hquote.ne_question,
      step_none_of_isQuote hquote, count_append, hcount, hmode, count_some_cons]
    rfl
  · rw [enclosed, String.toList_ofList, stepAll_cons, step_none_of_isQuote hquote, stepAll_append,
      hmode, stepAll_cons, step_self]
    rfl

/-- A text without placeholders after a closed one changes nothing for what follows. -/
theorem placeholderCount_insert {s t : String} (hs : Spans n s) (ht : Spans 0 t) (s' : String) :
    placeholderCount (s ++ t ++ s') = placeholderCount s + placeholderCount s' := by
  rw [placeholderCount_append (hs.before ht), hs.count]

/-- **Placeholders add up, and literals hide theirs.**  If every quote that is opened in a text is
closed, the text has as many placeholders as question marks outside of its quotes, and what follows
has its own.  A literal or a quoted identifier between the two has none, whatever it is made of. -/
theorem literals_hide_placeholders {s : String} (h : Closed n s.toList) (s' : String) :
    placeholderCount s = n ∧
      placeholderCount (s ++ s') = placeholderCount s + placeholderCount s' ∧
      ∀ t, placeholderCount (s ++ literal t ++ s') = placeholderCount s + placeholderCount s' ∧
        placeholderCount (s ++ identifier t ++ s') = placeholderCount s + placeholderCount s' := by
  have hs : Spans n s := closed_iff.1 h
  refine ⟨hs.count, ?_, fun t => ⟨?_, ?_⟩⟩
  · rw [placeholderCount_append hs, hs.count]
  · exact placeholderCount_insert hs (spans_enclosed (.inl rfl) t) s'
  · exact placeholderCount_insert hs (spans_enclosed (.inr rfl) t) s'

/-- A literal with a quote of the other kind and a question mark in front, and texts with quotes of
their own kind. -/
theorem literals_hide_placeholders_of_mixed_quotes :
    Closed 1 "a = '\"?' OR b = ? OR c = ".toList ∧
      (literal "it's?" = "'it''s?'" ∧ identifier "x\"?" = "\"x\"\"?\"") ∧
      placeholderCount ("a = '\"?' OR b = ? OR c = " ++ literal "it's?" ++ " OR d = ?") = 2 ∧
      placeholderCount ("a = '\"?' OR b = ? OR c = " ++ identifier "x\"?" ++ " OR d = ?") = 2 := by
  have hclosed : Closed 1 "a = '\"?' OR b = ? OR c = ".toList := closed_iff.2 ⟨rfl, rfl⟩
  obtain ⟨hcount, -, hhidden⟩ := literals_hide_placeholders hclosed " OR d = ?"
  refine ⟨hclosed, ⟨rfl, rfl⟩, ?_, ?_⟩
  · rw [(hhidden "it's?").1, hcount]
    rfl
  · rw [(hhidden "x\"?").2, hcount]
    rfl

end SqlAccess.Placeholder

/-
Which templates are well formed.

An opening brace outside quotes begins a slot, and a slot has to be closed behind an index.  Here
this is said of every place where a template can be split at such a brace (`Template.SlotsClosed`),
without a scanner: a brace stands outside quotes if the number of quotes before it is even, which a
doubled quote leaves as it is.  The main statement, `Template.transcribe_plain_eq_ok`, is that the
templates which can be copied out are those whose slots are all closed, whatever the arguments.

The induction is on the cases of the scanner, and `Template.Mode.Closes` says for each mode what has
to come yet.
-/
import Mathlib.Algebra.Group.Nat.Even
import SqlAccess.Proofs.NumeralText
import SqlAccess.Template

namespace SqlAccess

namespace Template

/-- An index as it is written in a slot: a number of 64 bits, with a plus sign or without, and with
blanks around it. -/
def IsIndex (written : List Char) : Prop :=
  ∃ i < UInt64.size, ∃ core, Text.Around core written ∧ Text.Natural i core

/-- The text behind an opening brace begins with an index and a closing brace. -/
def SlotClosed (after : List Char) : Prop :=
  ∃ written rest, after = written ++ '}' :: rest ∧ IsIndex written

/-- Every slot that is opened in a text is closed, so many quotes standing before the text. -/
def SlotsClosed (quotes : Nat) (cs : List Char) : Prop :=
  ∀ before after, cs = before ++ '{' :: after → Even (quotes + before.count '\'') →
    SlotClosed after

/-- What has to come yet where the scanner stands. -/
def Mode.Closes : Mode → List Char → Prop
  | .plain, cs => SlotsClosed 0 cs
  | .quoted, cs => SlotsClosed 1 cs
  | .slot read, cs => ∃ written rest, cs = written ++ '}' :: rest ∧
      IsIndex (read.reverse ++ written) ∧ SlotsClosed 0 rest

/-! ### Indices -/

theorem index?_eq_some {written : List Char} {i : Nat} :
    index? written = some i ↔
      i < UInt64.size ∧ ∃ core, Text.Around core written ∧ Text.Natural i core := by
  rw [← Text.natural?_trim, index?]
  constructor
  · intro h
    split at h
    · next n hn =>
      split at h
      · next hlt =>
        cases h
        exact ⟨hlt, hn⟩
      · cases h
    · cases h
  · rintro ⟨hlt, hi⟩
    rw [hi]
    exact if_pos hlt

theorem isIndex_iff {written : List Char} : IsIndex written ↔ ∃ i, index? written = some i := by
  simp only [IsIndex, index?_eq_some]

/-- An index holds nothing that the scanner stops at. -/
theorem IsIndex.ne {written : List Char} (h : IsIndex written) {c : Char} (hc : c ∈ written) :
    c ≠ '\'' ∧ c ≠ '{' ∧ c ≠ '}' := by
  obtain ⟨i, -, core, ⟨before, after, hblank, rfl⟩, hcore⟩ := h
  have hkind : Text.isBlank c = true ∨ c ∈ core := by
    simp only [List.mem_append] at hc hblank
    rcases hc with (hc | hc) | hc
    · exact .inl (hblank c (.inl hc))
    · exact .inr hc
    · exact .inl (hblank c (.inr hc))
  rcases hkind with hc | hc
  · refine ⟨?_, ?_, ?_⟩ <;> rintro rfl <;> exact absurd hc (by decide)
  · rcases hcore.eq_plus_or_isDigit hc with rfl | hc
    · decide
    · refine ⟨?_, ?_, ?_⟩ <;> rintro rfl <;> cases hc

/-! ### Slots -/

variable {quotes : Nat} {c : Char} {cs : List Char}

theorem slotsClosed_nil : SlotsClosed quotes [] := by
  intro before after h
  simp at h

theorem slotsClosed_cons :
    SlotsClosed quotes (c :: cs) ↔
      (c = '{' → Even quotes → SlotClosed cs) ∧ SlotsClosed (quotes + [c].count '\'') cs := by
  constructor
  · intro h
    refine ⟨?_, fun before after hsplit heven => ?_⟩
    · rintro rfl heven
      exact h [] cs rfl heven
    · refine h (c :: before) after (by rw [hsplit, List.cons_append]) ?_
      rwa [← List.singleton_append, List.count_append, ← Nat.add_assoc]
  · rintro ⟨hhead, htail⟩ before after hsplit heven
    cases before with
    | nil =>
      obtain ⟨rfl, rfl⟩ := List.cons.inj hsplit
      exact hhead rfl heven
    | cons d before =>
      obtain ⟨rfl, rfl⟩ := List.cons.inj hsplit
      refine htail before after rfl ?_
      rwa [Nat.add_assoc, ← List.count_append, List.singleton_append]

theorem slotsClosed_quote : SlotsClosed quotes ('\'' :: cs) ↔ SlotsClosed (quotes + 1) cs := by
  rw [slotsClosed_cons]
  simp

/-- Two quotes more before a text leave its slots as they are. -/
theorem slotsClosed_add_two : SlotsClosed (quotes + 2) cs ↔ SlotsClosed quotes cs := by
  have heven (n : Nat) : Even (quotes + 2 + n) ↔ Even (quotes + n) := by
    rw [Nat.add_right_comm, Nat.even_add]
    simp
  simp only [SlotsClosed, heven]

/-- A character that opens nothing and closes nothing does not count. -/
theorem slotsClosed_literal (hquote : c ≠ '\'') (hbrace : c = '{' → ¬Even quotes) :
    SlotsClosed quotes (c :: cs) ↔ SlotsClosed quotes cs := by
  rw [slotsClosed_cons, List.count_singleton, if_neg (by simpa using hquote), Nat.add_zero]
  exact and_iff_right fun hc heven => absurd heven (hbrace hc)

theorem slotsClosed_append {text : List Char} (h : ∀ c ∈ text, c ≠ '\'' ∧ c ≠ '{') :
    SlotsClosed quotes (text ++ cs) ↔ SlotsClosed quotes cs := by
  induction text with
  | nil => rfl
  | cons c text ih =>
    obtain ⟨hquote, hbrace⟩ := h c List.mem_cons_self
    rw [List.cons_append, slotsClosed_literal hquote fun hc => absurd hc hbrace,
      ih fun d hd => h d (List.mem_cons_of_mem c hd)]

/-- Behind an opening brace outside quotes comes an index, its closing brace, and the rest. -/
theorem slotsClosed_open :
    SlotsClosed 0 ('{' :: cs) ↔
      ∃ written rest, cs = written ++ '}' :: rest ∧ IsIndex written ∧ SlotsClosed 0 rest := by
  have hrest {written rest : List Char} (h : IsIndex written) :
      SlotsClosed 0 (written ++ '}' :: rest) ↔ SlotsClosed 0 rest := by
    rw [slotsClosed_append fun d hd => ⟨(h.ne hd).1, (h.ne hd).2.1⟩,
      slotsClosed_literal (by decide) fun hc => absurd hc (by decide)]
  rw [slotsClosed_cons]
  constructor
  · rintro ⟨hslot, hcs⟩
    obtain ⟨written, rest, rfl, hindex⟩ := hslot rfl Even.zero
    exact ⟨written, rest, rfl, hindex, (hrest hindex).1 hcs⟩
  · rintro ⟨written, rest, rfl, hindex, h⟩
    exact ⟨fun _ _ => ⟨written, rest, rfl, hindex⟩, (hrest hindex).2 h⟩

/-! ### The scanner -/

theorem closes_slot_cons {read : List Char} (hc : c ≠ '}') :
    (Mode.slot read).Closes (c :: cs) ↔ (Mode.slot (c :: read)).Closes cs := by
  constructor
  · rintro ⟨written, rest, hsplit, hindex, hrest⟩
    cases written with
    | nil => exact absurd (List.cons.inj hsplit).1 hc
    | cons d written =>
      obtain ⟨rfl, rfl⟩ := List.cons.inj hsplit
      refine ⟨written, rest, rfl, ?_, hrest⟩
      rwa [List.reverse_cons, List.append_assoc, List.singleton_append]
  · rintro ⟨written, rest, rfl, hindex, hrest⟩
    refine ⟨c :: written, rest, rfl, ?_, hrest⟩
    rwa [List.reverse_cons, List.append_assoc, List.singleton_append] at hindex

theorem closes_slot_close {read : List Char} :
    (Mode.slot read).Closes ('}' :: cs) ↔ IsIndex read.reverse ∧ SlotsClosed 0 cs := by
  constructor
  · rintro ⟨written, rest, hsplit, hindex, hrest⟩
    cases written with
    | nil =>
      obtain ⟨-, rfl⟩ := List.cons.inj hsplit
      exact ⟨by rwa [List.append_nil] at hindex, hrest⟩
    | cons d written =>
      -- an index holds no closing brace
      obtain ⟨rfl, -⟩ := List.cons.inj hsplit
      exact absurd rfl (hindex.ne (List.mem_append_right _ List.mem_cons_self)).2.2
  · rintro ⟨hindex, hrest⟩
    exact ⟨[], cs, rfl, by rwa [List.append_nil], hrest⟩

theorem transcribe_eq_ok (args : List String) (mode : Mode) (out cs : List Char) :
    (∃ text, transcribe args mode out cs = .ok text) ↔ mode.Closes cs := by
  fun_induction transcribe args mode out cs with
  | case1 read out => simp [Mode.Closes]
  | case2 read out cs hindex =>
    rw [closes_slot_close, isIndex_iff, hindex]
    simp
  | case3 read out cs index hindex arg harg ih =>
    rw [ih, closes_slot_close, isIndex_iff, hindex]
    exact (and_iff_right ⟨index, rfl⟩).symm
  | case4 read out cs index hindex harg ih =>
    rw [ih, closes_slot_close, isIndex_iff, hindex]
    exact (and_iff_right ⟨index, rfl⟩).symm
  | case5 read out c cs hc ih => rw [ih, closes_slot_cons hc]
  | case6 mode out hslot =>
    cases mode with
    | slot read => exact absurd rfl (hslot read)
    | plain => exact iff_of_true ⟨out, rfl⟩ slotsClosed_nil
    | quoted => exact iff_of_true ⟨out, rfl⟩ slotsClosed_nil
  | case7 mode out cs hslot ih =>
    rw [ih]
    cases mode with
    | slot read => exact absurd rfl (hslot read)
    | plain => simp only [Mode.Closes, slotsClosed_quote, slotsClosed_add_two]
    | quoted => simp only [Mode.Closes, slotsClosed_quote, slotsClosed_add_two]
  | case8 out cs hquote ih =>
    rw [ih]
    exact slotsClosed_quote.symm
  | case9 out cs hquote ih =>
    rw [ih]
    exact (slotsClosed_quote.trans slotsClosed_add_two).symm
  | case10 out cs ih =>
    rw [ih]
    exact slotsClosed_open.symm
  | case11 mode out c cs hslot hquotes hopen hclose hbrace ih =>
    rw [ih]
    cases mode with
    | slot read => exact absurd rfl (hslot read)
    | plain => exact (slotsClosed_literal (hopen rfl) fun hc => (hbrace rfl hc).elim).symm
    | quoted =>
      -- between quotes a brace stands for itself
      exact (slotsClosed_literal (hclose rfl) fun _ => Nat.not_even_one).symm

/-- **A template can be copied out exactly if all its slots are closed.** -/
theorem transcribe_plain_eq_ok {template : String} {args : List String} :
    (∃ text, transcribe args .plain [] template.toList = .ok text) ↔
      SlotsClosed 0 template.toList :=
  transcribe_eq_ok args .plain [] template.toList

end Template

end SqlAccess

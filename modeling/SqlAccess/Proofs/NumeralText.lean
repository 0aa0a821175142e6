/-
Numbers in texts.

A text is trimmed before it is read as a number.  The numerals are stated here on their own: digits
(`Text.Digits`), with a plus sign in front of them or none (`Text.Natural`), or with a minus sign
(`Text.Integer`).  The readers read the numerals and nothing else, and with the trimming in front
of them the numerals with blanks around them: `Text.natural?_trim` and `Text.integer?_trim`.
-/
import SqlAccess.Proofs.Digits

namespace SqlAccess.Text

/-- The text is `core` with blanks around it. -/
def Around (core cs : List Char) : Prop :=
  ∃ before after, (∀ c ∈ before ++ after, isBlank c = true) ∧ cs = before ++ core ++ after

/-- Digits that write a number; there may be zeros in front. -/
structure Digits (n : Nat) (cs : List Char) : Prop where
  nonempty : cs ≠ []
  digits : ∀ c ∈ cs, c.isDigit = true
  value : digitsValue cs = n

/-- A numeral without a minus sign. -/
inductive Natural (n : Nat) : List Char → Prop
  | bare {cs : List Char} (h : Digits n cs) : Natural n cs
  | plus {cs : List Char} (h : Digits n cs) : Natural n ('+' :: cs)

/-- A numeral. -/
inductive Integer : Int → List Char → Prop
  | natural {n : Nat} {cs : List Char} (h : Natural n cs) : Integer n cs
  | minus {n : Nat} {cs : List Char} (h : Digits n cs) : Integer (-(n : Int)) ('-' :: cs)

variable {cs core : List Char}

/-! ### Trimming -/

/-- Trimming takes nothing but blanks away. -/
theorem around_trim (cs : List Char) : Around (trim cs) cs := by
  refine ⟨cs.takeWhile isBlank, ((trimStart cs).reverse.takeWhile isBlank).reverse, ?_, ?_⟩
  · intro c hc
    rcases List.mem_append.1 hc with hc | hc
    · exact List.all_eq_true.1 List.all_takeWhile c hc
    · exact List.all_eq_true.1 List.all_takeWhile c (List.mem_reverse.1 hc)
  · rw [List.append_assoc, trim, trimEnd_append_cut]
    exact List.takeWhile_append_dropWhile.symm

/-- A text without a blank at either end is what trimming leaves of it and the blanks around it. -/
theorem trim_of_ends (h : Around core cs) (hne : core ≠ [])
    (hhead : ∀ c ∈ core.head?, isBlank c = false)
    (hlast : ∀ c ∈ core.getLast?, isBlank c = false) : trim cs = core := by
  obtain ⟨before, after, hblank, rfl⟩ := h
  obtain ⟨c, rest, rfl⟩ := List.exists_cons_of_ne_nil hne
  rw [trim_pad (fun d hd => hblank d (List.mem_append_left after hd))
    (fun d hd => hblank d (List.mem_append_right before hd))
    ⟨c, List.mem_cons_self, hhead c rfl⟩]
  exact trim_eq_self hhead hlast

theorem trim_of_around (h : Around core cs) (hne : core ≠ [])
    (hcore : ∀ c ∈ core, isBlank c = false) : trim cs = core :=
  trim_of_ends h hne (fun d hd => hcore d (List.mem_of_mem_head? hd))
    (fun d hd => hcore d (List.mem_of_mem_getLast? hd))

/-! ### Numerals -/

variable {n : Nat} {i : Int}

theorem Digits.isBlank (h : Digits n cs) {c : Char} (hc : c ∈ cs) : isBlank c = false :=
  isBlank_of_isDigit (h.digits c hc)

theorem Natural.ne_nil (h : Natural n cs) : cs ≠ [] := by
  cases h with
  | bare h => exact h.nonempty
  | plus h => exact List.cons_ne_nil _ _

theorem Natural.eq_plus_or_isDigit (h : Natural n cs) {c : Char} (hc : c ∈ cs) :
    c = '+' ∨ c.isDigit = true := by
  cases h with
  | bare h => exact .inr (h.digits c hc)
  | plus h =>
    rcases List.mem_cons.1 hc with rfl | hc
    · exact .inl rfl
    · exact .inr (h.digits c hc)

theorem Natural.isBlank (h : Natural n cs) {c : Char} (hc : c ∈ cs) : isBlank c = false := by
  rcases h.eq_plus_or_isDigit hc with rfl | hdigit
  · decide
  · exact isBlank_of_isDigit hdigit

theorem Integer.ne_nil (h : Integer i cs) : cs ≠ [] := by
  cases h with
  | natural h => exact h.ne_nil
  | minus h => exact List.cons_ne_nil _ _

theorem Integer.isBlank (h : Integer i cs) {c : Char} (hc : c ∈ cs) : isBlank c = false := by
  cases h with
  | natural h => exact h.isBlank hc
  | minus h =>
    rcases List.mem_cons.1 hc with rfl | hc
    · decide
    · exact h.isBlank hc

theorem digits?_eq_some : digits? cs = some n ↔ Digits n cs := by
  rw [digits?]
  constructor
  · intro h
    split at h
    · next hcs => exact ⟨hcs.1, List.all_eq_true.1 hcs.2, Option.some.inj h⟩
    · cases h
  · rintro ⟨hne, hdigits, hvalue⟩
    rw [if_pos ⟨hne, List.all_eq_true.2 hdigits⟩, hvalue]

/-- Digits do not begin with a sign. -/
theorem Digits.head_ne {c : Char} (h : Digits n (c :: cs)) : c ≠ '+' ∧ c ≠ '-' := by
  have hc := h.digits c List.mem_cons_self
  constructor <;> rintro rfl <;> cases hc

theorem natural?_eq_some : natural? cs = some n ↔ Natural n cs := by
  constructor
  · intro h
    rw [natural?.eq_def] at h
    split at h
    · exact .plus (digits?_eq_some.1 h)
    · exact .bare (digits?_eq_some.1 h)
  · intro h
    cases h with
    | plus h => exact digits?_eq_some.2 h
    | bare h =>
      rw [natural?.eq_def]
      split
      · exact absurd rfl h.head_ne.1
      · exact digits?_eq_some.2 h

theorem Natural.head?_ne (h : Natural n cs) : cs.head? ≠ some '-' := by
  cases h with
  | plus h => simp
  | bare h =>
    intro hhead
    obtain ⟨rest, rfl⟩ := List.head?_eq_some_iff.1 hhead
    exact h.head_ne.2 rfl

theorem integer?_minus (cs : List Char) :
    integer? ('-' :: cs) = (digits? cs).map fun n : Nat => -(n : Int) := by
  rw [integer?]
  cases digits? cs <;> rfl

theorem integer?_of_head (h : cs.head? ≠ some '-') :
    integer? cs = (natural? cs).map fun n : Nat => (n : Int) := by
  rw [integer?.eq_def]
  split
  · exact absurd rfl h
  · cases natural? cs <;> rfl

theorem integer?_eq_some : integer? cs = some i ↔ Integer i cs := by
  constructor
  · intro h
    by_cases hhead : cs.head? = some '-'
    · obtain ⟨rest, rfl⟩ := List.head?_eq_some_iff.1 hhead
      rw [integer?_minus] at h
      obtain ⟨n, hn, rfl⟩ := Option.map_eq_some_iff.1 h
      exact .minus (digits?_eq_some.1 hn)
    · rw [integer?_of_head hhead] at h
      obtain ⟨n, hn, rfl⟩ := Option.map_eq_some_iff.1 h
      exact .natural (natural?_eq_some.1 hn)
  · intro h
    cases h with
    | minus h => rw [integer?_minus, digits?_eq_some.2 h, Option.map_some]
    | natural h => rw [integer?_of_head h.head?_ne, natural?_eq_some.2 h, Option.map_some]

/-- **A trimmed text is read as a natural number if it is a numeral with blanks around it.** -/
theorem natural?_trim :
    natural? (trim cs) = some n ↔ ∃ core, Around core cs ∧ Natural n core := by
  constructor
  · intro h
    exact ⟨trim cs, around_trim cs, natural?_eq_some.1 h⟩
  · rintro ⟨core, haround, hcore⟩
    rw [trim_of_around haround hcore.ne_nil fun c => hcore.isBlank]
    exact natural?_eq_some.2 hcore

/-- **A trimmed text is read as an integer if it is a numeral with blanks around it.** -/
theorem integer?_trim :
    integer? (trim cs) = some i ↔ ∃ core, Around core cs ∧ Integer i core := by
  constructor
  · intro h
    exact ⟨trim cs, around_trim cs, integer?_eq_some.1 h⟩
  · rintro ⟨core, haround, hcore⟩
    rw [trim_of_around haround hcore.ne_nil fun c => hcore.isBlank]
    exact integer?_eq_some.2 hcore

end SqlAccess.Text

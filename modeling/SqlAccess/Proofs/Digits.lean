/-
Numbers of a fixed width, written and read.

`Text.padded` writes a number with zeros in front, `Instant.digits?` reads the digits
in front of a text.  `Instant.digits?_append` says when the digits that are read are
those that stand there; the numbers of a width (`Instant.digits?_padded`), the fields of
a date or a time (`Instant.field?_padded`) and the fraction of a second
(`Instant.fraction?_padded`) are read back by it.
-/
import Mathlib.Tactic.IntervalCases
import SqlAccess.Instant.Parser

namespace SqlAccess.Text

theorem isDigit_of_mem_padded {width n : Nat} {c : Char} (h : c ∈ padded width n) :
    c.isDigit = true := by
  rcases List.mem_append.1 h with h | h
  · rw [List.eq_of_mem_replicate h]
    rfl
  · exact isDigit_of_mem_decimal h

@[simp] theorem digitsValue_padded (width n : Nat) : digitsValue (padded width n) = n := by
  rw [digitsValue, padded, Nat.ofDigitChars_append, Nat.ofDigitChars_replicate_zero, Nat.mul_zero]
  exact digitsValue_decimal n

theorem digitsValue_append (a b : List Char) :
    digitsValue (a ++ b) = 10 ^ b.length * digitsValue a + digitsValue b := by
  rw [digitsValue, Nat.ofDigitChars_append, Nat.ofDigitChars_eq_ofDigitChars_zero]
  rfl

/-- The number that digits write has no more digits than they are. -/
theorem digitsValue_lt {cs : List Char} (h : ∀ c ∈ cs, c.isDigit = true) :
    digitsValue cs < 10 ^ cs.length := by
  induction cs with
  | nil => exact Nat.one_pos
  | cons c cs ih =>
    have hc : 48 ≤ c.toNat ∧ c.toNat ≤ 57 := Char.isDigit_iff_toNat.1 (h c List.mem_cons_self)
    have hrest := ih fun d hd => h d (List.mem_cons_of_mem c hd)
    have hfirst : digitsValue [c] ≤ 9 := by
      show 10 * 0 + (c.toNat - 48) ≤ 9
      omega
    have hmul := Nat.mul_le_mul_left (10 ^ cs.length) hfirst
    rw [← List.singleton_append, digitsValue_append, List.singleton_append, List.length_cons,
      Nat.pow_succ]
    omega

/-- The first nine digits behind a point, filled up with zeros, are what the digits write to nine
digits. -/
theorem digitsValue_take_nine {cs : List Char} (h : ∀ c ∈ cs, c.isDigit = true) :
    digitsValue ((cs ++ List.replicate 9 '0').take 9) =
      digitsValue cs * 10 ^ 9 / 10 ^ cs.length := by
  have hzeros : ∀ n, digitsValue (List.replicate n '0') = 0 := fun n => by
    rw [digitsValue, Nat.ofDigitChars_replicate_zero, Nat.mul_zero]
  by_cases hlength : cs.length ≤ 9
  · have hpow : 10 ^ 9 = 10 ^ (9 - cs.length) * 10 ^ cs.length := by
      rw [← Nat.pow_add, Nat.sub_add_cancel hlength]
    rw [List.take_append, List.take_of_length_le hlength, List.take_replicate,
      Nat.min_eq_left (Nat.sub_le 9 _), digitsValue_append, hzeros, List.length_replicate, hpow,
      ← Nat.mul_assoc, Nat.mul_div_cancel _ (Nat.pow_pos (by decide)), Nat.add_zero, Nat.mul_comm]
  · -- what is cut off is less than one at the ninth digit
    have hpow : 10 ^ cs.length = 10 ^ (cs.length - 9) * 10 ^ 9 := by
      rw [← Nat.pow_add, Nat.sub_add_cancel (by omega)]
    have hcut : digitsValue (cs.drop 9) < 10 ^ (cs.length - 9) := by
      have hlt : digitsValue (cs.drop 9) < 10 ^ (cs.drop 9).length :=
        digitsValue_lt fun c hc => h c (List.mem_of_mem_drop hc)
      rwa [List.length_drop] at hlt
    have hvalue : digitsValue cs =
        10 ^ (cs.length - 9) * digitsValue (cs.take 9) + digitsValue (cs.drop 9) := by
      rw [← List.length_drop, ← digitsValue_append, List.take_append_drop]
    rw [List.take_append_of_le_length (by omega), hpow,
      Nat.mul_div_mul_right _ _ (by decide), hvalue, Nat.mul_add_div (Nat.pow_pos (by decide)),
      Nat.div_eq_of_lt hcut, Nat.add_zero]

theorem padded_ne_nil (width n : Nat) : padded width n ≠ [] :=
  List.append_ne_nil_of_right_ne_nil _ (decimal_ne_nil n)

theorem le_length_padded (width n : Nat) : width ≤ (padded width n).length := by
  rw [padded, List.length_append, List.length_replicate]
  omega

theorem length_padded {width n : Nat} (hw : 0 < width) (h : n < 10 ^ width) :
    (padded width n).length = width := by
  have hlength : (decimal n).length ≤ width :=
    (Nat.length_toDigits_le_iff (by decide) hw).2 h
  rw [padded, List.length_append, List.length_replicate]
  omega

/-- A digit is no blank. -/
theorem isBlank_of_isDigit {c : Char} (h : c.isDigit = true) : isBlank c = false := by
  have hc : 48 ≤ c.toNat ∧ c.toNat ≤ 57 := Char.isDigit_iff_toNat.1 h
  have hranges : ∀ r ∈ blankRanges, r.last < 48 ∨ 57 < r.first := by decide
  rw [Bool.eq_false_iff]
  intro hblank
  obtain ⟨r, hr, h1, h2⟩ := CharRange.cover_eq_true.1 hblank
  have := hranges r hr
  omega

/-- Trimming stops at a digit. -/
theorem trimStart_of_isDigit {ds rest : List Char} (hne : ds ≠ [])
    (hds : ∀ c ∈ ds, c.isDigit = true) : trimStart (ds ++ rest) = ds ++ rest := by
  obtain ⟨c, ds, rfl⟩ := List.exists_cons_of_ne_nil hne
  exact trimStart_of_head (isBlank_of_isDigit (hds c List.mem_cons_self))

end SqlAccess.Text

namespace SqlAccess.Instant

/-- What was read is handed on to the rest of a reader. -/
theorem bind_read {α β : Type} {read : Option α} {a : α} (h : read = some a)
    (next : α → Option β) : (read >>= next) = next a := by
  rw [h]
  rfl

/-- The text does not go on with a digit. -/
def NoDigit (rest : List Char) : Prop := ∀ c ∈ rest.head?, c.isDigit = false

theorem noDigit_nil : NoDigit [] := by
  simp [NoDigit]

theorem noDigit_cons {c : Char} {rest : List Char} (h : c.isDigit = false) :
    NoDigit (c :: rest) := by
  simpa [NoDigit] using h

theorem takeWhile_isDigit {ds rest : List Char} (hds : ∀ c ∈ ds, c.isDigit = true)
    (hrest : NoDigit rest) : (ds ++ rest).takeWhile Char.isDigit = ds := by
  rw [List.takeWhile_append_of_pos hds]
  cases rest with
  | nil => simp
  | cons c rest =>
    have hc : c.isDigit = false := hrest c rfl
    simp [hc]

theorem dropWhile_isDigit {ds rest : List Char} (hds : ∀ c ∈ ds, c.isDigit = true)
    (hrest : NoDigit rest) : (ds ++ rest).dropWhile Char.isDigit = rest := by
  rw [List.dropWhile_append_of_pos hds]
  cases rest with
  | nil => rfl
  | cons c rest =>
    have hc : c.isDigit = false := hrest c rfl
    simp [hc]

/-- Digits are read up to the end of the digits or up to the number that is read at most. -/
theorem digits?_append {least most : Nat} {ds : List Char} (rest : List Char)
    (hds : ∀ c ∈ ds, c.isDigit = true) (hleast : least ≤ ds.length) (hmost : ds.length ≤ most)
    (hrest : ds.length = most ∨ NoDigit rest) :
    digits? least most (ds ++ rest) = some (Text.digitsValue ds, rest) := by
  have htaken : ((ds ++ rest).take most).takeWhile Char.isDigit = ds := by
    rw [List.take_append, List.take_of_length_le hmost]
    -- the reader stops at its bound, or at the character that follows
    rcases hrest with hfull | hrest
    · simpa [hfull] using takeWhile_isDigit hds noDigit_nil
    · refine takeWhile_isDigit hds ?_
      intro c hc
      refine hrest c ?_
      rw [List.head?_take] at hc
      split at hc
      · cases hc
      · exact hc
  simp only [digits?, htaken, if_pos hleast, List.drop_left]

/-- A number of a fixed width is read back, whatever follows. -/
theorem digits?_padded {width n : Nat} (hw : 0 < width) (h : n < 10 ^ width) (rest : List Char) :
    digits? width width (Text.padded width n ++ rest) = some (n, rest) := by
  have hlength := Text.length_padded hw h
  rw [digits?_append rest (fun _ => Text.isDigit_of_mem_padded) hlength.ge hlength.le
    (.inl hlength), Text.digitsValue_padded]

theorem digits?_padded_two {n : Nat} (h : n < 100) (rest : List Char) :
    digits? 2 2 (Text.padded 2 n ++ rest) = some (n, rest) :=
  digits?_padded (by decide) h rest

/-- A field of two digits is read back, whatever follows. -/
theorem field?_padded {n : Nat} (h : n < 100) (rest : List Char) :
    field? (Text.padded 2 n ++ rest) = some (n, rest) := by
  have hlength : (Text.padded 2 n).length = 2 := Text.length_padded (by decide) h
  rw [field?, Text.trimStart_of_isDigit (Text.padded_ne_nil 2 n)
      fun _ => Text.isDigit_of_mem_padded,
    digits?_append rest (fun _ => Text.isDigit_of_mem_padded) (by omega) hlength.le (.inl hlength),
    Text.digitsValue_padded]

/-- The digits of a fraction are read in nanoseconds, those behind the ninth being cut off. -/
theorem fraction?_digits {ds rest : List Char} (hne : ds ≠ [])
    (hds : ∀ c ∈ ds, c.isDigit = true) (hrest : NoDigit rest) :
    fraction? ('.' :: (ds ++ rest)) =
      some (Text.digitsValue ds * 10 ^ 9 / 10 ^ ds.length, rest) := by
  simp only [fraction?, takeWhile_isDigit hds hrest, dropWhile_isDigit hds hrest, if_neg hne,
    Text.digitsValue_take_nine hds]

/-- A fraction of up to nine digits is read back in nanoseconds. -/
theorem fraction?_padded {width n : Nat} (hw : 0 < width) (hw9 : width ≤ 9)
    (h : n < 10 ^ width) {rest : List Char} (hrest : NoDigit rest) :
    fraction? ('.' :: (Text.padded width n ++ rest)) = some (n * 10 ^ (9 - width), rest) := by
  have hpow : 10 ^ 9 = 10 ^ (9 - width) * 10 ^ width := by
    rw [← Nat.pow_add, Nat.sub_add_cancel hw9]
  rw [fraction?_digits (Text.padded_ne_nil width n) (fun _ => Text.isDigit_of_mem_padded) hrest,
    Text.digitsValue_padded, Text.length_padded hw h, hpow, ← Nat.mul_assoc,
    Nat.mul_div_cancel _ (Nat.pow_pos (by decide))]

end SqlAccess.Instant

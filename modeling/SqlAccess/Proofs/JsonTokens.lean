/-
The numbers and strings of JSON text, written and read.

A reader of JSON does not know where a number ends: it goes on as long as the text does.
`Json.number?_append` says that a number which is read from a text of its own is read from
the front of a longer text as well, unless the text goes on with a digit, a point or an
exponent (`Json.Ends`).  So reading numbers back is a matter of the number alone, and

* `Json.number?_signed`: the integers of 64 bits are read back;
* `Json.string?_printString`: every string is read back, whatever it escapes.

Not all doubles are read back, because a number is rounded twice on its way into a double
(`FiniteDouble.ReadsBack`).
-/
import Mathlib.Data.Option.Basic
import SqlAccess.Json.Parser
import SqlAccess.Json.Printer
import SqlAccess.Proofs.Digits

namespace SqlAccess

open Instant (NoDigit)

/-! ### The end of a number -/

namespace Text

theorem takeWhile_append_of_noDigit {rest : List Char} (hrest : NoDigit rest) (cs : List Char) :
    (cs ++ rest).takeWhile Char.isDigit = cs.takeWhile Char.isDigit := by
  induction cs with
  | nil =>
    have hnone : ∀ c ∈ ([] : List Char), c.isDigit = true := by simp
    exact Instant.takeWhile_isDigit hnone hrest
  | cons c cs ih =>
    rw [List.cons_append, List.takeWhile_cons, List.takeWhile_cons, ih]

theorem dropWhile_append_of_noDigit {rest : List Char} (hrest : NoDigit rest) (cs : List Char) :
    (cs ++ rest).dropWhile Char.isDigit = cs.dropWhile Char.isDigit ++ rest := by
  induction cs with
  | nil =>
    have hnone : ∀ c ∈ ([] : List Char), c.isDigit = true := by simp
    exact Instant.dropWhile_isDigit hnone hrest
  | cons c cs ih =>
    rw [List.cons_append, List.dropWhile_cons, List.dropWhile_cons, ih]
    split <;> rfl

/-- Only zero is written with a zero in front. -/
theorem head?_decimal {n : Nat} (hn : 0 < n) : (decimal n).head? ≠ some '0' := by
  induction n using Nat.strong_induction_on with
  | _ n ih =>
    by_cases hsmall : n < 10
    · rw [decimal, Nat.toDigits_of_lt_base hsmall]
      interval_cases n <;> decide
    · have hfront := ih (n / 10) (by omega) (by omega)
      obtain ⟨c, ds, hds⟩ := List.exists_cons_of_ne_nil (decimal_ne_nil (n / 10))
      have hsplit : decimal n = c :: ds ++ [(n % 10).digitChar] := by
        rw [← hds, decimal, Nat.toDigits_of_base_le (by decide) (by omega)]
        rfl
      rw [hds] at hfront
      rw [hsplit]
      exact hfront

end Text

namespace Json

/-- The text does not go on with what could belong to a number. -/
def Ends (rest : List Char) : Prop :=
  ∀ c ∈ rest.head?, c.isDigit = false ∧ c ≠ '.' ∧ c ≠ 'e' ∧ c ≠ 'E'

theorem ends_nil : Ends [] := by
  intro c hc
  cases hc

theorem ends_cons {c : Char} {rest : List Char}
    (h : c.isDigit = false ∧ c ≠ '.' ∧ c ≠ 'e' ∧ c ≠ 'E') : Ends (c :: rest) := by
  intro d hd
  obtain rfl : c = d := Option.some.inj hd
  exact h

variable {cs cs' rest : List Char}

theorem Ends.noDigit (h : Ends rest) : NoDigit rest := fun c hc => (h c hc).1

theorem fraction?_of_ne {c : Char} (hc : c ≠ '.') (cs : List Char) :
    fraction? (c :: cs) = some (none, c :: cs) := by
  rw [fraction?]
  simpa using hc

theorem fraction?_append {f : Option (List Char)} (h : fraction? cs = some (f, cs'))
    (hrest : Ends rest) : fraction? (cs ++ rest) = some (f, cs' ++ rest) := by
  rcases cs with _ | ⟨c, cs⟩
  · cases h
    rcases rest with _ | ⟨c, rest⟩
    · rfl
    · exact fraction?_of_ne (hrest c rfl).2.1 rest
  · by_cases hc : c = '.'
    · subst hc
      rw [fraction?] at h
      rw [List.cons_append, fraction?, Text.takeWhile_append_of_noDigit hrest.noDigit,
        Text.dropWhile_append_of_noDigit hrest.noDigit]
      split at h
      · cases h
      · next hdigits =>
        cases h
        exact if_neg hdigits
    · rw [fraction?_of_ne hc] at h
      cases h
      exact fraction?_of_ne hc (cs ++ rest)

/-- The sign of an exponent, and what stands behind it. -/
def exponentSign : List Char → Bool × List Char
  | '+' :: cs => (false, cs)
  | '-' :: cs => (true, cs)
  | cs => (false, cs)

theorem exponent?_cons {c : Char} (hc : c = 'e' ∨ c = 'E') (cs : List Char) :
    exponent? (c :: cs) =
      if (exponentSign cs).2.takeWhile Char.isDigit = [] then none
      else
        let n : Int := Text.digitsValue ((exponentSign cs).2.takeWhile Char.isDigit)
        some (some (if (exponentSign cs).1 then -n else n),
          (exponentSign cs).2.dropWhile Char.isDigit) := by
  rw [exponent?.eq_def]
  exact if_pos hc

theorem exponent?_of_not {c : Char} (hc : ¬(c = 'e' ∨ c = 'E')) (cs : List Char) :
    exponent? (c :: cs) = some (none, c :: cs) := by
  rw [exponent?.eq_def]
  exact if_neg hc

theorem exponentSign_cons_append (c : Char) (cs rest : List Char) :
    exponentSign (c :: cs ++ rest) =
      ((exponentSign (c :: cs)).1, (exponentSign (c :: cs)).2 ++ rest) := by
  rw [List.cons_append, exponentSign.eq_def, exponentSign.eq_def (c :: cs)]
  split <;> simp_all

theorem exponent?_append {e : Option Int} (h : exponent? cs = some (e, cs'))
    (hrest : Ends rest) : exponent? (cs ++ rest) = some (e, cs' ++ rest) := by
  rcases cs with _ | ⟨c, cs⟩
  · cases h
    rcases rest with _ | ⟨c, rest⟩
    · rfl
    · exact exponent?_of_not (fun hc => hc.elim (hrest c rfl).2.2.1 (hrest c rfl).2.2.2) rest
  · by_cases hc : c = 'e' ∨ c = 'E'
    · rw [exponent?_cons hc] at h
      split at h
      · cases h
      · next hdigits =>
        -- there is a digit, so the sign is not sought in what follows
        rcases cs with _ | ⟨d, cs⟩
        · exact absurd rfl hdigits
        · cases h
          rw [List.cons_append, exponent?_cons hc, exponentSign_cons_append,
            Text.takeWhile_append_of_noDigit hrest.noDigit,
            Text.dropWhile_append_of_noDigit hrest.noDigit, if_neg hdigits]
    · rw [exponent?_of_not hc] at h
      cases h
      exact exponent?_of_not hc (cs ++ rest)

/-- The number with these digits, and with the fraction and the exponent if there are any. -/
def numberOf? (negative : Bool) (whole : List Char) (fraction : Option (List Char))
    (e : Option Int) : Option Json :=
  match fraction, e with
  | none, none => integer? negative whole
  | fraction, e => real? negative whole (fraction.getD []) (e.getD 0)

/-- What is read as a number: digits without a zero in front, a fraction and an exponent. -/
theorem unsigned?_eq_some {negative : Bool} {j : Json} :
    unsigned? negative cs = some (j, rest) ↔
      cs.takeWhile Char.isDigit ≠ [] ∧
        ((cs.takeWhile Char.isDigit).length = 1 ∨
          (cs.takeWhile Char.isDigit).head? ≠ some '0') ∧
        ∃ fraction e after, fraction? (cs.dropWhile Char.isDigit) = some (fraction, after) ∧
          exponent? after = some (e, rest) ∧
          numberOf? negative (cs.takeWhile Char.isDigit) fraction e = some j := by
  rw [unsigned?]
  simp only [Option.bind_eq_bind, Option.bind_eq_some_iff, Option.guard_eq_some', Prod.exists,
    exists_const]
  refine and_congr_right fun _ => and_congr_right fun _ => ?_
  -- with or without a fraction and an exponent, the number is made from what was read of them
  constructor
  · rintro ⟨fraction, after, hfraction, e, after', hexponent, hnumber⟩
    refine ⟨fraction, e, after, hfraction, ?_⟩
    rcases fraction with _ | fraction <;> rcases e with _ | e <;>
      obtain ⟨j', hj, hpair⟩ := Option.bind_eq_some_iff.1 hnumber <;> cases hpair <;>
      exact ⟨hexponent, hj⟩
  · rintro ⟨fraction, e, after, hfraction, hexponent, hj⟩
    refine ⟨fraction, after, hfraction, e, rest, hexponent, ?_⟩
    rcases fraction with _ | fraction <;> rcases e with _ | e <;>
      exact Option.bind_eq_some_iff.2 ⟨j, hj, rfl⟩

theorem unsigned?_append {negative : Bool} {j : Json} (h : unsigned? negative cs = some (j, []))
    (hrest : Ends rest) : unsigned? negative (cs ++ rest) = some (j, rest) := by
  obtain ⟨hne, hzero, fraction, e, after, hfraction, hexponent, hj⟩ := unsigned?_eq_some.1 h
  rw [unsigned?_eq_some, Text.takeWhile_append_of_noDigit hrest.noDigit,
    Text.dropWhile_append_of_noDigit hrest.noDigit]
  exact ⟨hne, hzero, fraction, e, after ++ rest, fraction?_append hfraction hrest,
    exponent?_append hexponent hrest, hj⟩

theorem number?_of_ne {c : Char} (hc : c ≠ '-') (cs : List Char) :
    number? (c :: cs) = unsigned? false (c :: cs) := by
  rw [number?]
  simpa using hc

/-- A number that is read from a text of its own is read from the front of a longer one. -/
theorem number?_append {j : Json} (h : number? cs = some (j, [])) (hrest : Ends rest) :
    number? (cs ++ rest) = some (j, rest) := by
  rcases cs with _ | ⟨c, cs⟩
  · cases h
  · by_cases hc : c = '-'
    · subst hc
      exact unsigned?_append h hrest
    · rw [number?_of_ne hc] at h
      rw [List.cons_append, number?_of_ne hc]
      exact unsigned?_append h hrest

/-- A number starts with a minus sign or a digit. -/
theorem head_of_number? {j : Json} (h : number? cs = some (j, rest)) :
    ∃ c cs', cs = c :: cs' ∧ (c = '-' ∨ c.isDigit = true) := by
  rcases cs with _ | ⟨c, cs⟩
  · cases h
  · refine ⟨c, cs, rfl, ?_⟩
    by_cases hc : c = '-'
    · exact .inl hc
    · rw [number?_of_ne hc] at h
      obtain ⟨hne, _⟩ := unsigned?_eq_some.1 h
      refine .inr ?_
      by_contra hdigit
      exact hne (List.takeWhile_cons_of_neg hdigit)

/-! ### Integers -/

theorem unsigned?_decimal {negative : Bool} {k : Nat} {j : Json}
    (h : integer? negative (Text.decimal k) = some j) :
    unsigned? negative (Text.decimal k) = some (j, []) := by
  have hdigits : ∀ c ∈ Text.decimal k, c.isDigit = true := fun c => Text.isDigit_of_mem_decimal
  have hwhole : (Text.decimal k).takeWhile Char.isDigit = Text.decimal k := by
    have htaken := Instant.takeWhile_isDigit hdigits Instant.noDigit_nil
    rwa [List.append_nil] at htaken
  have hafter : (Text.decimal k).dropWhile Char.isDigit = [] := by
    have hdropped := Instant.dropWhile_isDigit hdigits Instant.noDigit_nil
    rwa [List.append_nil] at hdropped
  rw [unsigned?_eq_some, hwhole, hafter]
  refine ⟨Text.decimal_ne_nil k, ?_, none, none, [], rfl, rfl, h⟩
  rcases Nat.eq_zero_or_pos k with rfl | hk
  · exact .inl rfl
  · exact .inr (Text.head?_decimal hk)

/-- An integer of 64 bits is read back as it was written. -/
theorem number?_signed {n : Int} (hn : IsWide n) :
    number? (Text.signed n) = some (integer n, []) := by
  rw [Text.signed]
  split
  · next hneg =>
    refine unsigned?_decimal ?_
    have hvalue : -(n.natAbs : Int) = n := by omega
    rw [integer?, Text.digitsValue_decimal]
    simp only [if_true, hvalue]
    -- the text is not that of a negative zero, which would be a double
    rw [if_pos ⟨hn, fun h => by omega⟩]
  · next hneg =>
    obtain ⟨c, cs, hcs⟩ := List.exists_cons_of_ne_nil (Text.decimal_ne_nil n.natAbs)
    have hvalue : (n.natAbs : Int) = n := by omega
    rw [hcs, number?_of_ne (Text.head_decimal hcs).2, ← hcs]
    refine unsigned?_decimal ?_
    rw [integer?, Text.digitsValue_decimal]
    simp only [Bool.false_eq_true, if_false, hvalue]
    rw [if_pos ⟨hn, fun h => h.1⟩]

/-! ### Strings -/

theorem stringBody?_letter {c d : Char} (hc : unescape? c = some d) (cs : List Char) :
    stringBody? ('\\' :: c :: cs) = (stringBody? cs).map fun p => (d :: p.1, p.2) := by
  have hu : c ≠ 'u' := by
    rintro rfl
    cases hc
  simp [stringBody?, hu, hc, Option.map_eq_bind]

theorem unit?_control : ∀ n < 32, unit? '0' '0' (hexDigit (n / 16)) (hexDigit n) = some n := by
  decide

theorem stringBody?_control {c : Char} (hc : c.toNat < 32) (cs : List Char) :
    stringBody? ('\\' :: 'u' :: '0' :: '0' :: hexDigit (c.toNat / 16) :: hexDigit c.toNat :: cs) =
      (stringBody? cs).map fun p => (c :: p.1, p.2) := by
  have hhigh : isHighSurrogate c.toNat = false := by
    rw [isHighSurrogate, decide_eq_false (by omega), Bool.false_and]
  have hlow : isLowSurrogate c.toNat = false := by
    rw [isLowSurrogate, decide_eq_false (by omega), Bool.false_and]
  rw [stringBody?, unit?_control c.toNat hc]
  simp [hhigh, hlow, Option.map_eq_bind]

theorem stringBody?_plain {c : Char} (hquote : c ≠ '"') (hbackslash : c ≠ '\\')
    (hc : 32 ≤ c.toNat) (cs : List Char) :
    stringBody? (c :: cs) = (stringBody? cs).map fun p => (c :: p.1, p.2) := by
  simp [stringBody?, hbackslash, hc, Option.map_eq_bind]

/-- A character is read back from the text by which it is written. -/
theorem stringBody?_escape (c : Char) (cs : List Char) :
    stringBody? (escape c ++ cs) = (stringBody? cs).map fun p => (c :: p.1, p.2) := by
  -- some characters are escaped by a letter, the other controls by their numbers
  by_cases hletter : c ∈ ['"', '\\', '\x08', '\x0c', '\n', '\r', '\t']
  · simp only [List.mem_cons, List.not_mem_nil, or_false] at hletter
    rcases hletter with rfl | rfl | rfl | rfl | rfl | rfl | rfl <;>
      exact stringBody?_letter rfl cs
  · simp only [List.mem_cons, List.not_mem_nil, or_false, not_or] at hletter
    obtain ⟨hquote, hbackslash, hb, hf, hn, hr, ht⟩ := hletter
    rw [escape, if_neg hquote, if_neg hbackslash, if_neg hb, if_neg hf, if_neg hn, if_neg hr,
      if_neg ht]
    by_cases hcontrol : c.toNat < 32
    · rw [if_pos hcontrol]
      exact stringBody?_control hcontrol cs
    · rw [if_neg hcontrol]
      exact stringBody?_plain hquote hbackslash (by omega) cs

theorem stringBody?_flatMap_escape (cs rest : List Char) :
    stringBody? (cs.flatMap escape ++ '"' :: rest) = some (cs, rest) := by
  induction cs with
  | nil => rfl
  | cons c cs ih =>
    rw [List.flatMap_cons, List.append_assoc, stringBody?_escape, ih]
    rfl

/-- Every string is read back, whatever follows it. -/
theorem string?_printString (s : String) (rest : List Char) :
    string? (printString s ++ rest) = some (s, rest) := by
  have hbody := stringBody?_flatMap_escape s.toList rest
  have hsplit : printString s ++ rest = '"' :: (s.toList.flatMap escape ++ '"' :: rest) := by
    simp [printString]
  rw [hsplit, string?, hbody, Option.map_some]
  simp

end Json

/-! ### Doubles -/

namespace FiniteDouble

/-- The reader of numbers gives the double back from the text by which it is written. -/
def ReadsBack (x : FiniteDouble) : Prop :=
  Json.number? (Double.Layout.json.write x) = some (.real x, [])

/-- Whether a number was read as the double, to the end of the text. -/
def isRead (x : FiniteDouble) : Option (Json × List Char) → Bool
  | some (.real y, []) => y == x
  | _ => false

instance (x : FiniteDouble) : Decidable x.ReadsBack :=
  decidable_of_iff (x.isRead (Json.number? (Double.Layout.json.write x)) = true) <| by
    rw [ReadsBack, isRead.eq_def]
    split <;> simp_all

/-- The double 1.0119448283819217e-290 is read as its neighbour. -/
example : ¬ReadsBack ⟨false, ⟨268314896632963788, by decide⟩⟩ := by decide +kernel

end FiniteDouble

end SqlAccess

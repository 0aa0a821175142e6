/-
Columns of integers.

A column of integers keeps 32 bits.  What counts as an integer at all is stated value by value in
`Value.Counts`: flags, wide integers, doubles without their fraction, numerals with blanks around
them and instants in milliseconds.  `ColumnType.integers_cast_alike` says that writing and reading
both keep the low 32 bits of this integer, where writing refuses any other value and reading leaves
it alone, and that a value which is an integer of 32 bits is never changed by the cast.
-/
import SqlAccess.Proofs.EpochMillis
import SqlAccess.Proofs.NumeralText

namespace SqlAccess

/-- The two integers have the same lowest 32 bits. -/
def SameLowBits (m n : Int) : Prop := m % Int32.size = n % Int32.size

instance (m n : Int) : Decidable (SameLowBits m n) :=
  inferInstanceAs (Decidable (m % Int32.size = n % Int32.size))

/-- The integer is the number without its fraction: it does not lie beyond the number, seen from
zero, and the next one does. -/
structure FiniteDouble.Truncates (x : FiniteDouble) (n : Int) : Prop where
  sign : if x.negative then n ≤ 0 else 0 ≤ n
  within : n.natAbs * x.denominator ≤ x.numerator
  beyond : x.numerator < (n.natAbs + 1) * x.denominator

namespace Value

/-- The value counts as an integer of 64 bits. -/
inductive Counts : Value → Int → Prop
  | long (n : Int64) : Counts (.long n) n.toInt
  | int (n : Int32) : Counts (.int n) n.toInt
  | no : Counts (.flag false) 0
  | yes : Counts (.flag true) 1
  | nan : Counts (.double .nan) 0
  | lowest : Counts (.double (.infinite true)) Int64.minValue.toInt
  | highest : Counts (.double (.infinite false)) Int64.maxValue.toInt
  /-- Beyond the integers of 64 bits the nearest of them counts. -/
  | double {x : FiniteDouble} {n : Int} (h : x.Truncates n) :
    Counts (.double (.finite x)) (max Int64.minValue.toInt (min Int64.maxValue.toInt n))
  | text {s : String} {core : List Char} {n : Int} (around : Text.Around core s.toList)
    (numeral : Text.Integer n core)
    (fits : Int64.minValue.toInt ≤ n ∧ n ≤ Int64.maxValue.toInt) : Counts (.text s) n
  /-- The nanoseconds are rounded down to milliseconds. -/
  | instant (t : Instant) :
    Counts (.instant t) ((t.seconds * 1000000000 + t.nanos) / 1000000)

end Value

/-- Of the integers of 32 bits exactly one has the low bits of an integer of 64. -/
theorem sameLowBits_iff {n : Int64} {w : Int32} :
    SameLowBits w.toInt n.toInt ↔ w = n.toInt32 := by
  have hcast : n.toInt32.toInt % Int32.size = n.toInt % Int32.size := by
    rw [Int64.toInt_toInt32]
    exact Int.bmod_emod
  rw [SameLowBits, ← hcast, ← Int32.toInt_inj]
  constructor
  · intro h
    have hw := w.le_toInt
    have hw' := w.toInt_lt
    have hn := n.toInt32.le_toInt
    have hn' := n.toInt32.toInt_lt
    simp only [Int32.size] at h
    omega
  · intro h
    rw [h]

/-! ### Doubles -/

theorem FiniteDouble.denominator_pos (x : FiniteDouble) : 0 < x.denominator := by
  rw [denominator, Nat.shiftLeft_eq, Nat.one_mul]
  exact Nat.two_pow_pos _

theorem FiniteDouble.natAbs_truncate (x : FiniteDouble) :
    x.truncate.natAbs = x.numerator / x.denominator := by
  rw [truncate]
  cases x.negative
  · exact Int.natAbs_natCast _
  · exact Int.natAbs_neg _

theorem FiniteDouble.truncates_truncate (x : FiniteDouble) : x.Truncates x.truncate := by
  refine ⟨?_, ?_, ?_⟩
  · rw [truncate]
    cases x.negative
    · exact Int.natCast_nonneg _
    · exact Int.neg_nonpos_of_nonneg (Int.natCast_nonneg _)
  · rw [natAbs_truncate]
    exact Nat.div_mul_le_self _ _
  · rw [natAbs_truncate, Nat.mul_comm]
    exact Nat.lt_mul_div_succ _ x.denominator_pos

theorem FiniteDouble.Truncates.eq {x : FiniteDouble} {n : Int} (h : x.Truncates n) :
    n = x.truncate := by
  have habs : x.truncate.natAbs = n.natAbs :=
    x.natAbs_truncate.trans (Nat.div_eq_of_lt_le h.within h.beyond)
  have hsign := h.sign
  have hsign' := x.truncates_truncate.sign
  cases hneg : x.negative with
  | false =>
    rw [hneg] at hsign hsign'
    simp only [Bool.false_eq_true, if_false] at hsign hsign'
    omega
  | true =>
    rw [hneg] at hsign hsign'
    simp only [if_true] at hsign hsign'
    omega

/-! ### Values -/

namespace Value

variable {v : Value} {n : Int64} {w : Int32}

theorem toInt_toInt64_finite (x : FiniteDouble) :
    (Double.finite x).toInt64.toInt =
      max Int64.minValue.toInt (min Int64.maxValue.toInt x.truncate) := by
  have hlow : Int64.minValue.toInt = -9223372036854775808 := rfl
  have hhigh : Int64.maxValue.toInt = 9223372036854775807 := rfl
  rw [Double.toInt64]
  exact Int64.toInt_ofInt_of_le (by omega) (by omega)

/-- An integer of 64 bits is read from exactly the values that count as it. -/
theorem asLong?_eq_some : v.asLong? = some n ↔ v.Counts n.toInt := by
  constructor
  · intro h
    cases v with
    | long m =>
      cases h
      exact .long n
    | int m =>
      cases h
      rw [Int32.toInt_toInt64]
      exact .int m
    | flag b =>
      cases h
      cases b
      · exact .no
      · exact .yes
    | double x =>
      cases h
      cases x with
      | nan => exact .nan
      | infinite negative =>
        cases negative
        · exact .highest
        · exact .lowest
      | finite x =>
        rw [toInt_toInt64_finite]
        exact .double x.truncates_truncate
    | text s =>
      obtain ⟨m, hm, hfits⟩ := Option.bind_eq_some_iff.1 h
      obtain ⟨core, haround, hnumeral⟩ := Text.integer?_trim.1 hm
      cases int64?_eq_some.1 hfits
      exact .text haround hnumeral ⟨n.minValue_le_toInt, n.toInt_le⟩
    | instant t =>
      cases h
      rw [Instant.toInt_ofInt_epochMillis, Instant.epochMillis_eq_floor]
      exact .instant t
    | null => cases h
    | bytes content => cases h
    | object j => cases h
  · intro h
    -- the number that counts is the value of `n`, and no other integer has it
    generalize hi : n.toInt = i at h
    have hread {m : Int64} (hm : m.toInt = i) : some m = some n :=
      congrArg some (Int64.toInt_inj.1 (hm.trans hi.symm))
    cases h with
    | long m => exact hread rfl
    | int m => exact hread m.toInt_toInt64
    | no => exact hread rfl
    | yes => exact hread rfl
    | nan => exact hread rfl
    | lowest => exact hread rfl
    | highest => exact hread rfl
    | double htruncates =>
      cases htruncates.eq
      exact hread (toInt_toInt64_finite _)
    | text haround hnumeral hfits =>
      refine Option.bind_eq_some_iff.2 ⟨i, ?_, int64?_eq_some.2 hi⟩
      exact Text.integer?_trim.2 ⟨_, haround, hnumeral⟩
    | instant t =>
      refine hread ?_
      rw [Instant.toInt_ofInt_epochMillis, Instant.epochMillis_eq_floor]

/-- An integer of 32 bits is read if the integer of 64 bits lies within its range. -/
theorem asInt?_eq_some : v.asInt? = some w ↔
    ∃ n : Int64, v.asLong? = some n ∧
      (Int32.minValue.toInt ≤ n.toInt ∧ n.toInt ≤ Int32.maxValue.toInt) ∧ n.toInt = w.toInt := by
  have hwide : v.asInt? = v.asLong?.bind fun n => int32? n.toInt := by
    cases v with
    | int m =>
      show some m = int32? m.toInt64.toInt
      rw [Int32.toInt_toInt64, int32?_toInt]
    | flag b => cases b <;> rfl
    | _ => rfl
  rw [hwide, Option.bind_eq_some_iff]
  refine exists_congr fun n => and_congr_right fun _ => ?_
  rw [int32?_eq_some]
  constructor
  · intro h
    rw [← h]
    exact ⟨⟨w.minValue_le_toInt, w.toInt_le⟩, rfl⟩
  · intro h
    exact h.2.symm

end Value

namespace ColumnType

variable {m : Marshaller} {v w : Value}

/-! ### Columns of integers -/

/-- Both conversions cast the integer that the value counts as; without one, writing fails and
reading leaves the value alone. -/
theorem integer_cases (m : Marshaller) (hv : v.isNull = false) :
    (∃ n, v.asLong? = some n ∧ toSql m .integer v = .ok (.int n.toInt32) ∧
        fromSql m .integer v = .ok (some (.int n.toInt32))) ∨
      (v.asLong? = none ∧
        toSql m .integer v = .error (.typeMismatch "integer" v.typeName) ∧
        fromSql m .integer v = .ok (some v)) := by
  simp only [toSql, fromSql, hv, Value.narrow?]
  cases v.asLong? with
  | some n => exact .inl ⟨n, rfl, rfl, rfl⟩
  | none => exact .inr ⟨rfl, rfl, rfl⟩

/-- **A column of integers casts alike in both directions.**  A value is written if it counts as an
integer of 64 bits, and then as the only integer of 32 bits with the same low bits; it is read as
this integer too, and any other value is read as it is.  What was written or read does not change
when it is written or read again.  A value is an integer of 32 bits if it counts as an integer
between the least and the greatest of them, and it is then written and read as this integer. -/
theorem integers_cast_alike (m : Marshaller) {v : Value} (hv : v.isNull = false) :
    (∀ n : Int64, v.asLong? = some n ↔ v.Counts n.toInt) ∧
      (∀ e, toSql m .integer v = .error e ↔
        v.asLong? = none ∧ e = .typeMismatch "integer" v.typeName) ∧
      (∀ n : Int64, v.asLong? = some n → ∃ w : Int32,
        (∀ w' : Int32, SameLowBits w'.toInt n.toInt ↔ w' = w) ∧
          toSql m .integer v = .ok (.int w)) ∧
      (∀ w, toSql m .integer v = .ok w →
        fromSql m .integer v = .ok (some w) ∧ toSql m .integer w = .ok w) ∧
      (∀ e, toSql m .integer v = .error e → fromSql m .integer v = .ok (some v)) ∧
      (∀ w, fromSql m .integer v = .ok (some w) → fromSql m .integer w = .ok (some w)) ∧
      ∀ w : Int32,
        (v.asInt? = some w ↔ ∃ n : Int64, v.asLong? = some n ∧
          (Int32.minValue.toInt ≤ n.toInt ∧ n.toInt ≤ Int32.maxValue.toInt) ∧
            n.toInt = w.toInt) ∧
        (v.asInt? = some w → toSql m .integer v = .ok (.int w) ∧
          fromSql m .integer v = .ok (some (.int w))) := by
  refine ⟨fun n => Value.asLong?_eq_some, ?_⟩
  obtain ⟨n, hlong, hto, hfrom⟩ | ⟨hlong, hto, hfrom⟩ := integer_cases m hv
  · rw [hto, hfrom]
    refine ⟨fun e => ?_, ?_, ?_, nofun, ?_, fun w => ⟨Value.asInt?_eq_some, fun hw => ?_⟩⟩
    · rw [hlong]
      exact ⟨nofun, fun h => nomatch h.1⟩
    · intro n' hn'
      cases hlong.symm.trans hn'
      exact ⟨n.toInt32, fun w' => sameLowBits_iff, rfl⟩
    · rintro _ ⟨⟩
      exact ⟨rfl, toSql_integer_int m n.toInt32⟩
    · rintro _ ⟨⟩
      exact fromSql_integer_int m n.toInt32
    · obtain ⟨n', hn', -, hvalue⟩ := Value.asInt?_eq_some.1 hw
      cases hlong.symm.trans hn'
      have hlow : SameLowBits w.toInt n.toInt := by
        rw [hvalue, SameLowBits]
      rw [sameLowBits_iff.1 hlow]
      exact ⟨rfl, rfl⟩
  · rw [hto, hfrom]
    refine ⟨fun e => ?_, ?_, fun w h => ?_, fun e _ => rfl, ?_,
      fun w => ⟨Value.asInt?_eq_some, fun hw => ?_⟩⟩
    · rw [hlong, Except.error.injEq, eq_comm]
      exact (and_iff_right rfl).symm
    · intro n hn
      cases hlong.symm.trans hn
    · cases h
    · rintro _ ⟨⟩
      exact hfrom
    · obtain ⟨n, hn, -⟩ := Value.asInt?_eq_some.1 hw
      cases hlong.symm.trans hn

/-- A wide integer written with a sign and blanks keeps its low bits, and an infinite double those
of the greatest integer; neither is an integer of 32 bits. -/
theorem integers_cast_alike_of_wide :
    let wide := Value.text "\t+4294967301 "
    let infinite := Value.double (.infinite false)
    (wide.isNull = false ∧ wide.asLong? = some 4294967301 ∧ wide.asInt? = none ∧
        toSql .json .integer wide = .ok (.int 5) ∧
        fromSql .json .integer wide = .ok (some (.int 5))) ∧
      infinite.isNull = false ∧ infinite.asLong? = some 9223372036854775807 ∧
        infinite.asInt? = none ∧ toSql .json .integer infinite = .ok (.int (-1)) := by
  intro wide infinite
  have hwide : wide.asLong? = some 4294967301 := by decide +kernel
  have hinfinite : infinite.asLong? = some 9223372036854775807 := rfl
  obtain ⟨-, -, hcast, hread, -, -, -⟩ := integers_cast_alike .json (v := wide) rfl
  obtain ⟨-, -, hcast', -, -, -, -⟩ := integers_cast_alike .json (v := infinite) rfl
  obtain ⟨w, hw, hto⟩ := hcast _ hwide
  obtain ⟨w', hw', hto'⟩ := hcast' _ hinfinite
  cases (hw 5).1 (by decide)
  cases (hw' (-1)).1 (by decide)
  exact ⟨⟨rfl, hwide, by decide +kernel, hto, (hread _ hto).1⟩, rfl, hinfinite, rfl, hto'⟩

end ColumnType

end SqlAccess

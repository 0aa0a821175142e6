/-
Milliseconds in columns of instants.

A column of instants takes numbers of milliseconds since 1970-01-01 and gives them back.
`ColumnType.timestamp_keeps_millis` says which numbers: those of the instants from
`Instant.earliest` to `Instant.latest`, the ends of the calendar, and every one of them comes
back as it was.  The numbers may be negative, so seconds are rounded down and their fraction
counts upwards (`Instant.epochMillis_eq_floor`).

On the way there and back no number leaves its machine word: with a check of every number the
conversions never fail, and give the same (`Instant.checkedOfMillis?_eq`,
`Instant.checkedMillis?_eq`).
-/
import SqlAccess.Column.Conversion
import SqlAccess.Proofs.InstantText

namespace SqlAccess

/-- The 32-bit number without a sign that has the value of an integer, if there is one. -/
def uint32? (n : Int) : Option UInt32 :=
  if 0 ≤ n ∧ n < UInt32.size then some (UInt32.ofNat n.toNat) else none

theorem exists_int64? {n : Int} (hlow : -9223372036854775808 ≤ n)
    (hhigh : n < 9223372036854775808) : ∃ w, int64? n = some w ∧ w.toInt = n :=
  ⟨Int64.ofInt n, if_pos ⟨hlow, Int.le_of_lt_add_one hhigh⟩, Int64.toInt_ofInt_of_le hlow hhigh⟩

theorem exists_int32? {n : Int} (hlow : -2147483648 ≤ n) (hhigh : n < 2147483648) :
    ∃ w, int32? n = some w ∧ w.toInt = n :=
  ⟨Int32.ofInt n, if_pos ⟨hlow, Int.le_of_lt_add_one hhigh⟩, Int32.toInt_ofInt_of_le hlow hhigh⟩

theorem exists_uint32? {n : Int} (hlow : 0 ≤ n) (hhigh : n < 4294967296) :
    ∃ w, uint32? n = some w ∧ (w.toNat : Int) = n := by
  refine ⟨UInt32.ofNat n.toNat, if_pos ⟨hlow, hhigh⟩, ?_⟩
  have hsize : n.toNat < UInt32.size := (Int.toNat_lt hlow).2 hhigh
  rw [UInt32.toNat_ofNat_of_lt' hsize, Int.toNat_of_nonneg hlow]

namespace Instant

/-- The first instant, -262143-01-01 00:00:00. -/
def earliest : Instant := ⟨firstSecond, 0, by decide⟩

/-- The last millisecond, 262142-12-31 23:59:59.999.  Only a leap second could follow. -/
def latest : Instant := ⟨lastSecond, 999000000, by decide⟩

theorem midnight_earliest :
    (LocalTime.midnight ⟨-262143, 1, 1⟩).toInstant? 0 = some earliest := by decide

theorem toInstant?_latest :
    LocalTime.toInstant? ⟨⟨262142, 12, 31⟩, 23, 59, 59, 999000000⟩ 0 = some latest := by decide

/-- A number of milliseconds between those of the first instant and those of the last. -/
def IsMillis (n : Int) : Prop := earliest.epochMillis ≤ n ∧ n ≤ latest.epochMillis

theorem isMillis_iff {n : Int} :
    IsMillis n ↔ -8334601228800000 ≤ n ∧ n ≤ 8210266876799999 := Iff.rfl

/-! ### From milliseconds to instants and back -/

variable {n : Int} {t : Instant}

/-- The limits of the seconds are those of the milliseconds, since no number of milliseconds is
in a leap second. -/
theorem inRange_iff_isMillis :
    InstantInRange (n / 1000) ((n % 1000).toNat * 1000000) ↔ IsMillis n := by
  rw [isMillis_iff, InstantInRange, firstSecond, lastSecond]
  omega

theorem exists_ofEpochMillis? (h : IsMillis n) :
    ∃ t, ofEpochMillis? n = some t ∧ t.epochMillis = n := by
  refine ⟨⟨n / 1000, (n % 1000).toNat * 1000000, inRange_iff_isMillis.2 h⟩,
    ofSeconds?_eq_some.2 ⟨rfl, rfl⟩, ?_⟩
  simp only [epochMillis]
  omega

theorem ofEpochMillis?_eq_none (h : ¬ IsMillis n) : ofEpochMillis? n = none :=
  dif_neg fun hrange => h (inRange_iff_isMillis.1 hrange)

/-- The milliseconds of an instant are its nanoseconds, rounded down. -/
theorem epochMillis_eq_floor (t : Instant) :
    t.epochMillis = (t.seconds * 1000000000 + t.nanos) / 1000000 := by
  simp only [epochMillis]
  omega

/-! ### Machine words -/

/-- The days from the first day of the year 1 to 1970-01-01. -/
def epochDay : Int := 719163

/-- The instant at a number of milliseconds, with a check of every number on the way: the seconds
and the day, counted from the first day of the year 1, have 64 bits with a sign; the second of the
day and the fraction have 32 bits without one.  The answer is `none` if a number does not fit, and
`some none` if there is no instant. -/
def checkedOfMillis? (n : Int64) : Option (Option Instant) := do
  let seconds ← int64? (n.toInt / 1000)
  let millis ← uint32? (n.toInt % 1000)
  let nanos ← uint32? (millis.toNat * 1000000)
  let day ← int64? (seconds.toInt / 86400 + epochDay)
  let secondOfDay ← uint32? (seconds.toInt % 86400)
  return ofSeconds? ((day.toInt - epochDay) * 86400 + secondOfDay.toNat) nanos.toNat

/-- The milliseconds of an instant, with a check of every number on the way: the day, counted from
the first day of the year 1, has 32 bits with a sign; everything else has 64. -/
def checkedMillis? (t : Instant) : Option Int64 := do
  let day ← int32? (t.day + epochDay)
  let days ← int64? (day.toInt - epochDay)
  let midnight ← int64? (days.toInt * 86400)
  let seconds ← int64? (midnight.toInt + t.secondOfDay)
  let scaled ← int64? (seconds.toInt * 1000)
  int64? (scaled.toInt + (t.nanos / 1000000 : Nat))

/-- No number on the way to an instant leaves its machine word. -/
theorem checkedOfMillis?_eq (n : Int64) : checkedOfMillis? n = some (ofEpochMillis? n.toInt) := by
  have hlow := n.le_toInt
  have hhigh := n.toInt_lt
  obtain ⟨seconds, hseconds, hs⟩ := exists_int64? (n := n.toInt / 1000) (by omega) (by omega)
  obtain ⟨millis, hmillis, hm⟩ := exists_uint32? (n := n.toInt % 1000) (by omega) (by omega)
  obtain ⟨nanos, hnanos, hn⟩ :=
    exists_uint32? (n := millis.toNat * 1000000) (by omega) (by omega)
  obtain ⟨day, hday, hd⟩ := exists_int64? (n := seconds.toInt / 86400 + epochDay)
    (by rw [epochDay]; omega) (by rw [epochDay]; omega)
  obtain ⟨clock, hclock, hc⟩ :=
    exists_uint32? (n := seconds.toInt % 86400) (by omega) (by omega)
  -- the day and the second of the day make up the seconds again
  have hsum : (day.toInt - epochDay) * 86400 + clock.toNat = n.toInt / 1000 := by omega
  have hfraction : nanos.toNat = (n.toInt % 1000).toNat * 1000000 := by omega
  refine (bind_read hseconds _).trans ?_
  refine (bind_read hmillis _).trans ?_
  refine (bind_read hnanos _).trans ?_
  refine (bind_read hday _).trans ?_
  refine (bind_read hclock _).trans ?_
  rw [hsum, hfraction]
  rfl

/-- No number on the way to the milliseconds leaves its machine word. -/
theorem checkedMillis?_eq (t : Instant) :
    t.checkedMillis? = some (Int64.ofInt t.epochMillis) := by
  obtain ⟨hfirst, hlast, -, -⟩ := t.inRange
  simp only [firstSecond, lastSecond] at hfirst hlast
  have hsplit : t.day * 86400 + t.secondOfDay = t.seconds := by
    rw [Instant.day, secondOfDay]
    omega
  have hdays : -96465292 ≤ t.day ∧ t.day ≤ 95026236 := by
    rw [Instant.day]
    omega
  obtain ⟨day, hday, hd⟩ :=
    exists_int32? (n := t.day + epochDay) (by rw [epochDay]; omega) (by rw [epochDay]; omega)
  obtain ⟨days, hread, hr⟩ := exists_int64? (n := day.toInt - epochDay) (by omega) (by omega)
  obtain ⟨midnight, hmidnight, hm⟩ := exists_int64? (n := days.toInt * 86400) (by omega) (by omega)
  obtain ⟨seconds, hseconds, hs⟩ :=
    exists_int64? (n := midnight.toInt + t.secondOfDay) (by omega) (by omega)
  obtain ⟨scaled, hscaled, hc⟩ := exists_int64? (n := seconds.toInt * 1000) (by omega) (by omega)
  have hmillis : scaled.toInt + (t.nanos / 1000000 : Nat) = t.epochMillis := by
    rw [epochMillis]
    omega
  refine (bind_read hday _).trans ?_
  refine (bind_read hread _).trans ?_
  refine (bind_read hmidnight _).trans ?_
  refine (bind_read hseconds _).trans ?_
  refine (bind_read hscaled _).trans ?_
  rw [hmillis, ← toInt_ofInt_epochMillis, int64?_toInt, Int64.ofInt_toInt]

end Instant

/-- The value is an instant, or a number that counts milliseconds. -/
def Value.CountsTime : Value → Prop
  | .instant _ => True
  | .int _ => True
  | .long _ => True
  | _ => False

namespace ColumnType

open Instant (IsMillis ofEpochMillis?)

variable {m : Marshaller} {n : Int} {v : Value}

/-! ### Columns of instants -/

/-- A column of instants takes the value, and reads what it has taken as the number. -/
def KeepsMillis (m : Marshaller) (v : Value) (n : Int64) : Prop :=
  ∃ t, toSql m .timestamp v = .ok (.instant t) ∧
    fromSql m .timestamp (.instant t) = .ok (some (.long n))

/-- What is bound for a number of milliseconds. -/
def boundMillis (n : Int) : Result Value :=
  match ofEpochMillis? n with
  | some t => .ok (.instant t)
  | none => .error (.typeMismatch "timestamp" "out of range")

theorem toSql_timestamp_long (m : Marshaller) (n : Int64) :
    toSql m .timestamp (.long n) = boundMillis n.toInt := rfl

theorem toSql_timestamp_int (m : Marshaller) (n : Int32) :
    toSql m .timestamp (.int n) = boundMillis n.toInt := rfl

theorem fromSql_timestamp_instant (m : Marshaller) (t : Instant) :
    fromSql m .timestamp (.instant t) = .ok (some (.long (Int64.ofInt t.epochMillis))) := rfl

theorem boundMillis_of_not_isMillis (h : ¬ IsMillis n) :
    boundMillis n = .error (.typeMismatch "timestamp" "out of range") := by
  rw [boundMillis, Instant.ofEpochMillis?_eq_none h]

theorem keepsMillis_of_isMillis (hv : toSql m .timestamp v = boundMillis n) (h : IsMillis n) :
    KeepsMillis m v (Int64.ofInt n) := by
  obtain ⟨t, ht, hmillis⟩ := Instant.exists_ofEpochMillis? h
  refine ⟨t, ?_, ?_⟩
  · rw [hv, boundMillis, ht]
  · rw [fromSql_timestamp_instant, hmillis]

theorem toSql_timestamp_of_not_countsTime (hnull : v.isNull = false) (hv : ¬ v.CountsTime) :
    toSql m .timestamp v = .error (.typeMismatch "timestamp" v.typeName) := by
  cases v with
  | null => cases hnull
  | instant t => exact absurd trivial hv
  | int n => exact absurd trivial hv
  | long n => exact absurd trivial hv
  | _ => rfl

/-- All numbers of 32 bits are milliseconds of the calendar: less than a month around 1970. -/
theorem isMillis_int32 (n : Int32) : IsMillis n.toInt := by
  have hlow := n.le_toInt
  have hhigh := n.toInt_lt
  rw [Instant.isMillis_iff]
  omega

theorem KeepsMillis.toSql_ne_error {n : Int64} (h : KeepsMillis m v n) (e : Error) :
    toSql m .timestamp v ≠ .error e := by
  obtain ⟨t, ht, -⟩ := h
  intro herror
  cases ht.symm.trans herror

theorem keepsMillis_long {n : Int64} (h : IsMillis n.toInt) : KeepsMillis m (.long n) n := by
  have hkeeps := keepsMillis_of_isMillis (toSql_timestamp_long m n) h
  rwa [Int64.ofInt_toInt] at hkeeps

/-- A number of 64 bits is kept within the calendar and out of range elsewhere. -/
theorem keepsMillis_or_error (m : Marshaller) (n : Int64) :
    IsMillis n.toInt ∧ KeepsMillis m (.long n) n ∨
      ¬ IsMillis n.toInt ∧
        toSql m .timestamp (.long n) = .error (.typeMismatch "timestamp" "out of range") := by
  by_cases h : IsMillis n.toInt
  · exact .inl ⟨h, keepsMillis_long h⟩
  · exact .inr ⟨h, (toSql_timestamp_long m n).trans (boundMillis_of_not_isMillis h)⟩

theorem keepsMillis_int (m : Marshaller) (n : Int32) : KeepsMillis m (.int n) n.toInt64 := by
  have hwide : Int64.ofInt n.toInt = n.toInt64 := by
    rw [← n.toInt_toInt64, Int64.ofInt_toInt]
  exact hwide ▸ keepsMillis_of_isMillis (toSql_timestamp_int m n) (isMillis_int32 n)

/-- **A column of instants keeps milliseconds, exactly within the calendar.**  A number of 64
bits is taken if it lies between the milliseconds of the first and the last instant, and is then
read back; any other is out of range.  A number of 32 bits is always taken.  An instant is taken
as it is and read back in milliseconds, rounded down.  Nothing else but the null value is taken.
With a check of every number on the way the conversions are the same, so no number leaves its
machine word. -/
theorem timestamp_keeps_millis (m : Marshaller) :
    (LocalTime.midnight ⟨-262143, 1, 1⟩).toInstant? 0 = some Instant.earliest ∧
      LocalTime.toInstant? ⟨⟨262142, 12, 31⟩, 23, 59, 59, 999000000⟩ 0 = some Instant.latest ∧
      (∀ n : Int64,
        (KeepsMillis m (.long n) n ↔ IsMillis n.toInt) ∧
        (toSql m .timestamp (.long n) = .error (.typeMismatch "timestamp" "out of range") ↔
          ¬ IsMillis n.toInt)) ∧
      (∀ n : Int32, IsMillis n.toInt ∧ KeepsMillis m (.int n) n.toInt64) ∧
      (∀ t : Instant, ∃ n : Int64,
        n.toInt = (t.seconds * 1000000000 + t.nanos) / 1000000 ∧
          toSql m .timestamp (.instant t) = .ok (.instant t) ∧
          fromSql m .timestamp (.instant t) = .ok (some (.long n))) ∧
      (∀ v : Value, v.isNull = false → ¬ v.CountsTime →
        toSql m .timestamp v = .error (.typeMismatch "timestamp" v.typeName)) ∧
      (∀ n : Int64, Instant.checkedOfMillis? n = some (ofEpochMillis? n.toInt)) ∧
      ∀ t : Instant, t.checkedMillis? = some (Int64.ofInt t.epochMillis) := by
  refine ⟨Instant.midnight_earliest, Instant.toInstant?_latest, fun n => ?_,
    fun n => ⟨isMillis_int32 n, keepsMillis_int m n⟩, fun t => ?_,
    fun v => toSql_timestamp_of_not_countsTime, Instant.checkedOfMillis?_eq,
    Instant.checkedMillis?_eq⟩
  · rcases keepsMillis_or_error m n with ⟨h, hkeeps⟩ | ⟨h, herror⟩
    · exact ⟨iff_of_true hkeeps h, iff_of_false (hkeeps.toSql_ne_error _) (not_not_intro h)⟩
    · exact ⟨iff_of_false (fun hkeeps => hkeeps.toSql_ne_error _ herror) h, iff_of_true herror h⟩
  · refine ⟨Int64.ofInt t.epochMillis, ?_, rfl, fromSql_timestamp_instant m t⟩
    rw [Instant.toInt_ofInt_epochMillis, Instant.epochMillis_eq_floor]

/-- The millisecond before 1970 is kept, the one after the last is out of range, and the text of a
number counts no milliseconds. -/
theorem timestamp_keeps_millis_of_limits :
    KeepsMillis .json (.long (-1)) (-1) ∧
      toSql .json .timestamp (.long 8210266876800000) =
        .error (.typeMismatch "timestamp" "out of range") ∧
      toSql .json .timestamp (.text "5") = .error (.typeMismatch "timestamp" "string") := by
  obtain ⟨-, -, hlong, -, -, hother, -⟩ := timestamp_keeps_millis .json
  have hbefore : IsMillis (-1 : Int64).toInt := Instant.isMillis_iff.2 (by decide)
  have hafter : ¬ IsMillis (8210266876800000 : Int64).toInt :=
    fun h => absurd (Instant.isMillis_iff.1 h) (by decide)
  exact ⟨(hlong _).1.2 hbefore, (hlong _).2.2 hafter, hother _ rfl id⟩

end ColumnType

end SqlAccess

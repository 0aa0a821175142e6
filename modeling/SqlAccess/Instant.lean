/-
Instants of time.

An instant is a number of seconds since 1970-01-01 00:00:00 UTC and a fraction in
nanoseconds.  A fraction of a second or more is a leap second: it belongs to the
second after the last one of a minute.  The instants reach from the year -262143
to the year 262142.
-/
import SqlAccess.Calendar

namespace SqlAccess

/-- The first second: -262143-01-01 00:00:00. -/
def firstSecond : Int := -8334601228800

/-- The last second: 262142-12-31 23:59:59. -/
def lastSecond : Int := 8210266876799

/-- A second and a fraction of it that an instant may have. -/
def InstantInRange (seconds : Int) (nanos : Nat) : Prop :=
  firstSecond ≤ seconds ∧ seconds ≤ lastSecond ∧ nanos < 2000000000 ∧
    (1000000000 ≤ nanos → seconds % 60 = 59)

instance (seconds : Int) (nanos : Nat) : Decidable (InstantInRange seconds nanos) :=
  inferInstanceAs (Decidable (_ ∧ _))

/-- An instant of time. -/
structure Instant where
  seconds : Int
  nanos : Nat
  inRange : InstantInRange seconds nanos
  deriving DecidableEq

namespace Instant

/-- The instant at a second and a fraction of it, if there is one. -/
def ofSeconds? (seconds : Int) (nanos : Nat) : Option Instant :=
  if h : InstantInRange seconds nanos then some ⟨seconds, nanos, h⟩ else none

/-- Milliseconds since 1970-01-01, rounded down.  The fraction of a leap second counts
as it is. -/
def epochMillis (t : Instant) : Int := t.seconds * 1000 + (t.nanos / 1000000 : Nat)

/-- The instant at a number of milliseconds, if it lies in the range. -/
def ofEpochMillis? (millis : Int) : Option Instant :=
  ofSeconds? (millis / 1000) ((millis % 1000).toNat * 1000000)

/-- The day of the instant, counted from 1970-01-01. -/
def day (t : Instant) : Int := t.seconds / 86400

/-- The date of the instant. -/
def date (t : Instant) : Date := .ofDay t.day

/-- The seconds since midnight. -/
def secondOfDay (t : Instant) : Nat := (t.seconds % 86400).toNat

/-- The hour, the minute and the second, a leap second being the second 60. -/
def clock (t : Instant) : Nat × Nat × Nat :=
  let s := t.secondOfDay
  (s / 3600, s / 60 % 60, s % 60 + t.nanos / 1000000000)

/-- The fraction of the second shown by the clock, in nanoseconds. -/
def fraction (t : Instant) : Nat := t.nanos % 1000000000

theorem ofSeconds?_eq_some {seconds : Int} {nanos : Nat} {t : Instant} :
    ofSeconds? seconds nanos = some t ↔ t.seconds = seconds ∧ t.nanos = nanos := by
  unfold ofSeconds?
  constructor
  · intro h
    split at h
    · cases h
      exact ⟨rfl, rfl⟩
    · cases h
  · rintro ⟨rfl, rfl⟩
    rw [dif_pos t.inRange]

end Instant

/-- A date and a time of day, as they are written. -/
structure LocalTime where
  date : Date
  hour : Nat
  minute : Nat
  second : Nat
  nanos : Nat
  deriving DecidableEq, Repr

namespace LocalTime

/-- Midnight of a date. -/
def midnight (d : Date) : LocalTime := ⟨d, 0, 0, 0, 0⟩

/-- All fields lie in their ranges; the second 60 stands in any minute. -/
def Valid (t : LocalTime) : Prop :=
  t.date.Valid ∧ t.hour < 24 ∧ t.minute < 60 ∧ t.second ≤ 60 ∧ t.nanos < 1000000000

instance (t : LocalTime) : Decidable t.Valid := inferInstanceAs (Decidable (_ ∧ _))

/-- The seconds since 1970-01-01 of the time read as UTC; the second 60 counts as 59. -/
def seconds (t : LocalTime) : Int :=
  t.date.dayNumber * 86400 + t.hour * 3600 + t.minute * 60 + min t.second 59

/-- The instant that the time names at an offset of so many minutes east of UTC. -/
def toInstant? (t : LocalTime) (offsetMinutes : Int) : Option Instant :=
  if t.Valid then
    Instant.ofSeconds? (t.seconds - offsetMinutes * 60)
      (if t.second = 60 then t.nanos + 1000000000 else t.nanos)
  else none

end LocalTime

end SqlAccess

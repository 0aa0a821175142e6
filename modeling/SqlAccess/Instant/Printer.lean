/-
The text of instants.

A year from 0 to 9999 has four digits; any other has a sign and at least four.
The SQL form separates date and time by a space and has three digits of
fraction, the rest being cut off.  The wire form separates them by `T`, ends
in `Z`, and has no fraction or the shortest of 3, 6 and 9 digits that is exact.
-/
import SqlAccess.Instant
import SqlAccess.Text.Numeral

namespace SqlAccess

/-- A year. -/
def yearText (year : Int) : List Char :=
  if 0 ≤ year ∧ year ≤ 9999 then Text.padded 4 year.toNat
  else (if year < 0 then '-' else '+') :: Text.padded 4 year.natAbs

namespace Instant

/-- The date, as year, month and day between hyphens. -/
def dateText (t : Instant) : List Char :=
  yearText t.date.year ++ '-' :: Text.padded 2 t.date.month ++ '-' :: Text.padded 2 t.date.day

/-- The time of day, as hour, minute and second between colons. -/
def clockText (t : Instant) : List Char :=
  let (hour, minute, second) := t.clock
  Text.padded 2 hour ++ ':' :: Text.padded 2 minute ++ ':' :: Text.padded 2 second

/-- The SQL form. -/
def sqlText (t : Instant) : List Char :=
  t.dateText ++ ' ' :: t.clockText ++ '.' :: Text.padded 3 (t.fraction / 1000000)

/-- The shortest exact fraction. -/
def fractionText (nanos : Nat) : List Char :=
  if nanos = 0 then []
  else if nanos % 1000000 = 0 then '.' :: Text.padded 3 (nanos / 1000000)
  else if nanos % 1000 = 0 then '.' :: Text.padded 6 (nanos / 1000)
  else '.' :: Text.padded 9 nanos

/-- The wire form. -/
def wireText (t : Instant) : List Char :=
  t.dateText ++ 'T' :: t.clockText ++ fractionText t.fraction ++ ['Z']

/-- The SQL form as a string. -/
def sql (t : Instant) : String := String.ofList t.sqlText

/-- The wire form as a string. -/
def wire (t : Instant) : String := String.ofList t.wireText

end Instant

end SqlAccess

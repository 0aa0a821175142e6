/-
The text of a real as SQLite writes it.

A real has 15 significant digits, the last one rounded and a half going up; zeros
at the end are left out, but one digit stays behind the point.  Below 1e-4 and
from 1e15 on it has an exponent, with a sign and two digits or more.
-/
import SqlAccess.Double.Rounding

namespace SqlAccess.Sqlite

/-- How many digits of a real are written. -/
def significantDigits : Nat := 15

/-- The place of the first digit of `num / den`: the largest power of ten that is not
above it. -/
def firstPlace (num den : Nat) : Int :=
  let guess : Int := (floorLog2 num den + 1) * 30103 / 100000 + 1
  let fits (place : Int) : Bool :=
    decide (den * tenTo place.toNat ≤ num * tenTo (-place).toNat)
  if fits guess then guess else if fits (guess - 1) then guess - 1 else guess - 2

/-- The significant digits of `num / den`, as one number, and the place of the first. -/
def significand (num den : Nat) : Nat × Int :=
  let place := firstPlace num den
  let unit := place - (significantDigits - 1 : Nat)
  let num := num * tenTo (-unit).toNat
  let den := den * tenTo unit.toNat
  let digits := (2 * num + den) / (2 * den)
  if digits < tenTo significantDigits then (digits, place) else (digits / 10, place + 1)

/-- Digits without the zeros at their end, but at least one. -/
def fractionDigits (digits : List Char) : List Char :=
  match (digits.reverse.dropWhile (· == '0')).reverse with
  | [] => ['0']
  | kept => kept

/-- The digits of a real with its point and, where it needs one, its exponent. -/
def setReal (digits : List Char) (place : Int) : List Char :=
  if -4 ≤ place ∧ place < 0 then
    ['0', '.'] ++ fractionDigits (List.replicate (-place - 1).toNat '0' ++ digits)
  else if 0 ≤ place ∧ place < significantDigits then
    digits.take (place.toNat + 1) ++ '.' :: fractionDigits (digits.drop (place.toNat + 1))
  else
    digits.take 1 ++ '.' :: fractionDigits (digits.drop 1) ++
      ['e', if place < 0 then '-' else '+'] ++ Text.padded 2 place.natAbs

/-- The text of a real; both zeros are written alike, and there is none for a NaN. -/
def realText : Double → List Char
  | .nan => []
  | .infinite negative => (if negative then ['-'] else []) ++ ['I', 'n', 'f']
  | .finite x =>
    if x.isZero then ['0', '.', '0']
    else
      let (digits, place) := significand x.numerator x.denominator
      (if x.negative then ['-'] else []) ++ setReal (Text.decimal digits) place

end SqlAccess.Sqlite

/-
The double nearest to a fraction.

`nearestMagnitude` rounds a fraction of natural numbers to the nearest magnitude,
a tie to the even one.  All other roundings are instances of it: of integers, of
decimal numbers, of products and of quotients.
-/
import SqlAccess.Double
import SqlAccess.Text.Numeral

namespace SqlAccess

/-- A power of ten. -/
def tenTo (n : Nat) : Nat := Nat.pow 10 n

/-- The whole number nearest to `num / den`; of two equally near ones the even one. -/
def roundHalfEven (num den : Nat) : Nat :=
  let whole := num / den
  let twice := 2 * (num % den)
  if twice < den then whole else if den < twice then whole + 1 else whole + whole % 2

/-- The exponent of the largest power of two that is not above `num / den`. -/
def floorLog2 (num den : Nat) : Int :=
  let k : Int := num.log2 - den.log2
  if den <<< k.toNat ≤ num <<< (-k).toNat then k else k - 1

/-- The place of the magnitude nearest to `num / den`.  Places from `finiteMagnitudes`
on stand for fractions that round to infinity. -/
def nearestMagnitude (num den : Nat) : Nat :=
  if num = 0 then 0
  else
    let unit : Int := max (-1074) (floorLog2 num den - 52)
    roundHalfEven (num <<< (-unit).toNat) (den <<< unit.toNat) + (unit + 1074).toNat * fractions

namespace Double

/-- The double nearest to a fraction with a sign. -/
def ofRatio (negative : Bool) (num den : Nat) : Double :=
  ofMagnitude negative (nearestMagnitude num den)

/-- The double nearest to an integer. -/
def ofInt (n : Int) : Double := ofRatio (decide (n < 0)) n.natAbs 1

/-- The double nearest to `digits * 10 ^ exponent`.  Numbers of more than 310 places
before the point, or that start more than 400 places behind it, need no computation. -/
def ofDecimal (negative : Bool) (digits : Nat) (exponent : Int) : Double :=
  let places : Int := (Text.decimal digits).length + exponent
  if digits = 0 ∨ places < -400 then finite (.zero negative)
  else if 310 < places then infinite negative
  else ofRatio negative (digits * tenTo exponent.toNat) (tenTo (-exponent).toNat)

end Double

namespace FiniteDouble

/-- The double nearest to a product, with the sign of the first factor. -/
def scaleUp (x y : FiniteDouble) : Double :=
  .ofRatio x.negative (x.numerator * y.numerator) (x.denominator * y.denominator)

/-- The double nearest to a quotient, with the sign of the dividend. -/
def scaleDown (x y : FiniteDouble) : Double :=
  .ofRatio x.negative (x.numerator * y.denominator) (x.denominator * y.numerator)

end FiniteDouble

end SqlAccess

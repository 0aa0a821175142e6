/-
Double-precision numbers.

A finite double is a sign and a magnitude.  The finite magnitudes are counted
from zero upwards, and a magnitude is given by its place in this count, which is
also its bit pattern: 52 bits of fraction below the exponent.  There is one NaN.
-/
namespace SqlAccess

/-- How many fractions belong to an exponent: 2^52. -/
def fractions : Nat := 0x10000000000000

/-- How many finite magnitudes there are: 2047 exponents with their fractions. -/
def finiteMagnitudes : Nat := 2047 * fractions

/-- What a sign adds to a bit pattern: 2^63. -/
def signBit : Nat := 0x8000000000000000

/-- A finite double, by its sign and the place of its magnitude. -/
structure FiniteDouble where
  negative : Bool
  magnitude : Fin finiteMagnitudes
  deriving DecidableEq, Repr

/-- A double. -/
inductive Double where
  | nan
  | infinite (negative : Bool)
  | finite (x : FiniteDouble)
  deriving DecidableEq, Repr

namespace FiniteDouble

/-- Zero, with either sign. -/
def zero (negative : Bool) : FiniteDouble := ⟨negative, ⟨0, by decide⟩⟩

/-- Whether the number is zero. -/
def isZero (x : FiniteDouble) : Bool := x.magnitude.val == 0

/-- The whole number that the power `exponent` of two multiplies.  Below the
magnitude 2^52 the fraction has no leading one. -/
def significand (x : FiniteDouble) : Nat :=
  if x.magnitude.val < fractions then x.magnitude.val
  else fractions + x.magnitude.val % fractions

/-- The power of two: the magnitude is `significand * 2 ^ exponent`. -/
def exponent (x : FiniteDouble) : Int :=
  max 1 (x.magnitude.val / fractions : Nat) - 1075

/-- The numerator of the magnitude as a fraction. -/
def numerator (x : FiniteDouble) : Nat := x.significand <<< x.exponent.toNat

/-- The denominator of the magnitude as a fraction. -/
def denominator (x : FiniteDouble) : Nat := 1 <<< (-x.exponent).toNat

/-- The number without its fraction. -/
def truncate (x : FiniteDouble) : Int :=
  let whole : Int := (x.numerator / x.denominator : Nat)
  if x.negative then -whole else whole

/-- Numeric equality: the two zeros are equal. -/
def equals (x y : FiniteDouble) : Bool := x == y || x.isZero && y.isZero

end FiniteDouble

namespace Double

/-- The double with this sign and magnitude; beyond the finite ones it is infinite. -/
def ofMagnitude (negative : Bool) (m : Nat) : Double :=
  if h : m < finiteMagnitudes then finite ⟨negative, ⟨m, h⟩⟩ else infinite negative

/-- The double with this bit pattern. -/
def ofBits (bits : UInt64) : Double :=
  let negative := decide (signBit ≤ bits.toNat)
  let m := bits.toNat % signBit
  if finiteMagnitudes < m then nan else ofMagnitude negative m

/-- The bit pattern as a number below 2^64. -/
def pattern : Double → Nat
  | nan => finiteMagnitudes + fractions / 2
  | infinite negative => (if negative then signBit else 0) + finiteMagnitudes
  | finite x => (if x.negative then signBit else 0) + x.magnitude.val

/-- The bit pattern. -/
def toBits (x : Double) : UInt64 := UInt64.ofNat x.pattern

/-- Numeric equality: a NaN equals nothing, and the two zeros are equal. -/
def equals : Double → Double → Bool
  | infinite a, infinite b => a == b
  | finite x, finite y => x.equals y
  | _, _ => false

/-- The number without its fraction, as the nearest 64-bit integer; a NaN counts as zero. -/
def toInt64 : Double → Int64
  | nan => 0
  | infinite negative => if negative then Int64.minValue else Int64.maxValue
  | finite x => Int64.ofInt (max Int64.minValue.toInt (min Int64.maxValue.toInt x.truncate))

end Double

end SqlAccess

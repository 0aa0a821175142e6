/-
The shortest decimal of a finite double, and its layouts.

A decimal stands for a double if it rounds to it.  `shortest` searches the grids
of the powers of ten from coarse to fine, and on each tests the two neighbours of
the double: the first grid with a neighbour that stands for the double gives the
fewest digits, and of two such neighbours the nearer is taken.  How the digits
are set, and which way a tie goes, is the matter of a `Layout`.
-/
import SqlAccess.Double.Rounding

namespace SqlAccess

/-- The number `digits * 10 ^ exponent`. -/
structure Decimal where
  digits : Nat
  exponent : Int
  deriving DecidableEq, Repr

/-- What to take when two neighbours are equally near. -/
inductive TieRule where
  | up
  | even
  deriving DecidableEq, Repr

/-- The place of the magnitude that a decimal rounds to. -/
def Decimal.magnitude (d : Decimal) : Nat :=
  nearestMagnitude (d.digits * tenTo d.exponent.toNat) (tenTo (-d.exponent).toNat)

namespace FiniteDouble

/-- Whether a decimal rounds to the magnitude of the double. -/
def readsFrom (x : FiniteDouble) (d : Decimal) : Bool := d.magnitude == x.magnitude.val

/-- The neighbour of the double on the grid of the multiples of `10 ^ unit` that stands
for it, the nearer if both do. -/
def onGrid? (tie : TieRule) (x : FiniteDouble) (unit : Int) : Option Decimal :=
  let num := x.numerator * tenTo (-unit).toNat
  let den := x.denominator * tenTo unit.toNat
  let below : Decimal := ⟨num / den, unit⟩
  let above : Decimal := ⟨num / den + 1, unit⟩
  let twice := 2 * (num % den)
  let aboveNearer :=
    decide (den < twice) || (twice == den && (tie == .up || below.digits % 2 == 1))
  match x.readsFrom below, x.readsFrom above with
  | true, true => some (if aboveNearer then above else below)
  | true, false => some below
  | false, true => some above
  | false, false => none

/-- The first hit on the grids from `unit` down, at most `steps` of them. -/
def searchGrids (tie : TieRule) (x : FiniteDouble) : Nat → Int → Decimal
  | 0, _ => ⟨0, 0⟩
  | steps + 1, unit => (x.onGrid? tie unit).getD (searchGrids tie x steps (unit - 1))

/-- The shortest decimal of the magnitude.  The first grid lies above the magnitude; on
the grid of the last binary place, at 10^-1074, the magnitude itself lies. -/
def shortest (tie : TieRule) (x : FiniteDouble) : Decimal :=
  if x.isZero then ⟨0, 0⟩
  else
    let top : Int := (floorLog2 x.numerator x.denominator + 1) * 30103 / 100000 + 2
    searchGrids tie x (top + 1075).toNat top

end FiniteDouble

namespace Double

/-- How a double is set in digits. -/
structure Layout where
  /-- Which way a tie between two shortest decimals goes. -/
  tie : TieRule
  /-- Whether a number with this place of its first digit is written without an exponent. -/
  positional : Int → Bool
  /-- Whether a whole number keeps a point and a zero. -/
  keepsPoint : Bool
  /-- Whether an exponent that is not negative has a plus sign. -/
  signsExponent : Bool

namespace Layout

/-- Digits with the point after the first `point` of them. -/
def setPoint (l : Layout) (digits : List Char) (point : Int) : List Char :=
  if point ≤ 0 then
    ['0', '.'] ++ List.replicate (-point).toNat '0' ++ digits
  else if digits.length ≤ point.toNat then
    digits ++ List.replicate (point.toNat - digits.length) '0' ++
      if l.keepsPoint then ['.', '0'] else []
  else
    digits.take point.toNat ++ ['.'] ++ digits.drop point.toNat

/-- Digits with the point after the first of them, and the exponent. -/
def setExponent (l : Layout) (digits : List Char) (first : Int) : List Char :=
  digits.take 1 ++ (if digits.length ≤ 1 then [] else '.' :: digits.drop 1) ++
    ['e'] ++ (if l.signsExponent && decide (0 ≤ first) then ['+'] else []) ++ Text.signed first

/-- A finite double in this layout. -/
def write (l : Layout) (x : FiniteDouble) : List Char :=
  let d := x.shortest l.tie
  let digits := Text.decimal d.digits
  let point := digits.length + d.exponent
  (if x.negative then ['-'] else []) ++
    if l.positional (point - 1) then l.setPoint digits point else l.setExponent digits (point - 1)

/-- Plain text: never an exponent, whole numbers without a point. -/
def plain : Layout := ⟨.up, fun _ => true, false, false⟩

/-- JSON: an exponent below 1e-5 and from 1e16 on, whole numbers with a point. -/
def json : Layout := ⟨.even, fun first => decide (-5 ≤ first) && decide (first < 16), true, true⟩

/-- Inspection: an exponent below 1e-4 and from 1e16 on, whole numbers with a point. -/
def inspection : Layout :=
  ⟨.up, fun first => decide (-4 ≤ first) && decide (first < 16), true, false⟩

end Layout

/-- A double as text. -/
def text (l : Layout) : Double → String
  | nan => "NaN"
  | infinite negative => if negative then "-inf" else "inf"
  | finite x => String.ofList (l.write x)

end Double

end SqlAccess

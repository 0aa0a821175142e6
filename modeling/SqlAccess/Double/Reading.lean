/-
Reading doubles written as text.

A number has an optional sign, digits with an optional point among or around
them, and an optional exponent; `inf`, `infinity` and `nan` are read in any case
of their letters.  The number is rounded once, to the nearest double.
-/
import SqlAccess.Double.Rounding

namespace SqlAccess.Double

/-- Reads the exponent at the end of a number; no text is the exponent zero. -/
def exponent? : List Char → Option Int
  | [] => some 0
  | c :: cs => if c = 'e' ∨ c = 'E' then Text.integer? cs else none

/-- Reads a number without its sign. -/
def unsigned? (negative : Bool) (cs : List Char) : Option Double :=
  let whole := cs.takeWhile Char.isDigit
  let rest := cs.dropWhile Char.isDigit
  let (fraction, rest) :=
    match rest with
    | '.' :: rest => (rest.takeWhile Char.isDigit, rest.dropWhile Char.isDigit)
    | rest => ([], rest)
  if whole ++ fraction = [] then none
  else (exponent? rest).map fun e =>
    ofDecimal negative (Text.digitsValue (whole ++ fraction)) (e - fraction.length)

/-- Reads a word or a number without its sign. -/
def magnitude? (negative : Bool) (cs : List Char) : Option Double :=
  let word := String.ofList (cs.map Char.toLower)
  if word = "inf" ∨ word = "infinity" then some (infinite negative)
  else if word = "nan" then some nan
  else unsigned? negative cs

/-- Reads a double. -/
def ofText? : List Char → Option Double
  | '-' :: cs => magnitude? true cs
  | '+' :: cs => magnitude? false cs
  | cs => magnitude? false cs

end SqlAccess.Double

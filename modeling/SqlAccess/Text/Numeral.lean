/-
Integers written in decimal.

`decimal` and `signed` write; `digits?`, `natural?` and `integer?` read.  Reading
is more generous than writing: leading zeros and a plus sign are accepted.
-/
namespace SqlAccess.Text

/-- The decimal digits of a number, without leading zeros. -/
def decimal (n : Nat) : List Char := Nat.toDigits 10 n

/-- An integer in decimal, with a minus sign if it is negative. -/
def signed (n : Int) : List Char :=
  if n < 0 then '-' :: decimal n.natAbs else decimal n.natAbs

/-- The decimal digits, with zeros in front up to the width. -/
def padded (width n : Nat) : List Char :=
  List.replicate (width - (decimal n).length) '0' ++ decimal n

/-- `decimal` as a string. -/
def decimalText (n : Nat) : String := String.ofList (decimal n)

/-- `signed` as a string. -/
def signedText (n : Int) : String := String.ofList (signed n)

/-- The number written by a list of digits; the empty list is zero. -/
def digitsValue (cs : List Char) : Nat := Nat.ofDigitChars 10 cs 0

/-- Reads one or more ASCII digits, to the end of the text. -/
def digits? (cs : List Char) : Option Nat :=
  if cs ≠ [] ∧ cs.all Char.isDigit then some (digitsValue cs) else none

/-- Reads digits after an optional plus sign. -/
def natural? : List Char → Option Nat
  | '+' :: cs => digits? cs
  | cs => digits? cs

/-- Reads digits after an optional sign. -/
def integer? : List Char → Option Int
  | '-' :: cs => (digits? cs).map fun n => -(n : Int)
  | cs => (natural? cs).map fun n => (n : Int)

theorem decimal_ne_nil (n : Nat) : decimal n ≠ [] := by
  intro h
  have := Nat.length_toDigits_pos (b := 10) (n := n)
  simp [show Nat.toDigits 10 n = [] from h] at this

theorem isDigit_of_mem_decimal {n : Nat} {c : Char} (h : c ∈ decimal n) : c.isDigit = true :=
  Nat.isDigit_of_mem_toDigits (by decide) (by decide) h

@[simp] theorem digitsValue_decimal (n : Nat) : digitsValue (decimal n) = n :=
  Nat.ofDigitChars_toDigits (by decide) (by decide)

/-- Digits start with neither sign. -/
theorem head_decimal {n : Nat} {c : Char} {cs : List Char} (h : decimal n = c :: cs) :
    c ≠ '+' ∧ c ≠ '-' := by
  have hc : c.isDigit = true := isDigit_of_mem_decimal (n := n) (by simp [h])
  constructor <;> rintro rfl <;> simp at hc

end SqlAccess.Text

/-
Reading instants.

SQL engines return timestamps in one of four layouts: RFC 3339 with an offset, a
date and a time separated by blanks or by `T`, and a date alone.  The last three
are read as UTC; their fields may have blanks in front and fewer digits than
usual.  `parse?` takes the first layout that accepts the text.  The wire form is
read by a fifth layout, which is as generous as these and needs an offset.
-/
import SqlAccess.Instant
import SqlAccess.Text.Blank
import SqlAccess.Text.Numeral

namespace SqlAccess.Instant

/-- Reads a character. -/
def char? (expected : Char) : List Char → Option (List Char)
  | c :: cs => if c = expected then some cs else none
  | [] => none

/-- Reads from `least` to `most` digits, as many as there are. -/
def digits? (least most : Nat) (cs : List Char) : Option (Nat × List Char) :=
  let digits := (cs.take most).takeWhile Char.isDigit
  if least ≤ digits.length then
    some (Text.digitsValue digits, cs.drop digits.length)
  else none

/-- Reads a field of one or two digits, with blanks in front. -/
def field? (cs : List Char) : Option (Nat × List Char) := digits? 1 2 (Text.trimStart cs)

/-- Reads a year, with blanks in front: up to four digits, or any number after a sign. -/
def year? (cs : List Char) : Option (Int × List Char) :=
  match Text.trimStart cs with
  | '-' :: cs => (digits? 1 cs.length cs).map fun (n, cs) => (-(n : Int), cs)
  | '+' :: cs => (digits? 1 cs.length cs).map fun (n, cs) => ((n : Int), cs)
  | cs => (digits? 1 4 cs).map fun (n, cs) => ((n : Int), cs)

/-- Reads a point and a fraction of a second in nanoseconds, if there is a point; digits
behind the ninth are passed over. -/
def fraction? : List Char → Option (Nat × List Char)
  | '.' :: cs =>
    let digits := cs.takeWhile Char.isDigit
    if digits = [] then none
    else
      some (Text.digitsValue ((digits ++ List.replicate 9 '0').take 9),
        cs.dropWhile Char.isDigit)
  | cs => some (0, cs)

/-- Reads an hour of two digits, a separator, and a minute of two digits, and gives the
minutes. -/
def offsetMinutes? (separator : List Char → Option (List Char)) (cs : List Char) :
    Option (Int × List Char) := do
  let (hours, cs) ← digits? 2 2 cs
  let cs ← separator cs
  let (minutes, cs) ← digits? 2 2 cs
  guard (hours < 24 ∧ minutes < 60)
  return ((hours * 60 + minutes : Nat), cs)

/-- Reads an offset from UTC, in minutes: `Z`, or a sign, hours and minutes. -/
def offset? (separator : List Char → Option (List Char)) : List Char → Option (Int × List Char)
  | 'Z' :: cs => some (0, cs)
  | 'z' :: cs => some (0, cs)
  | '+' :: cs => offsetMinutes? separator cs
  | '-' :: cs => (offsetMinutes? separator cs).map fun (n, cs) => (-n, cs)
  | '\u2212' :: cs => (offsetMinutes? separator cs).map fun (n, cs) => (-n, cs)
  | _ => none

/-- Reads a date with fields of any width. -/
def date? (cs : List Char) : Option (Date × List Char) := do
  let (year, cs) ← year? cs
  let cs ← char? '-' cs
  let (month, cs) ← field? cs
  let cs ← char? '-' cs
  let (day, cs) ← field? cs
  return (⟨year, month, day⟩, cs)

/-- Reads a time of day with fields of any width. -/
def time? (date : Date) (cs : List Char) : Option (LocalTime × List Char) := do
  let (hour, cs) ← field? cs
  let cs ← char? ':' cs
  let (minute, cs) ← field? cs
  let cs ← char? ':' cs
  let (second, cs) ← field? cs
  let (nanos, cs) ← fraction? cs
  return (⟨date, hour, minute, second, nanos⟩, cs)

/-- RFC 3339: four digits of year, two of all other fields, and an offset. -/
def rfc3339? (cs : List Char) : Option Instant := do
  let (year, cs) ← digits? 4 4 cs
  let cs ← char? '-' cs
  let (month, cs) ← digits? 2 2 cs
  let cs ← char? '-' cs
  let (day, cs) ← digits? 2 2 cs
  let cs ← (char? 'T' cs).or ((char? 't' cs).or (char? ' ' cs))
  let (hour, cs) ← digits? 2 2 cs
  let cs ← char? ':' cs
  let (minute, cs) ← digits? 2 2 cs
  let cs ← char? ':' cs
  let (second, cs) ← digits? 2 2 cs
  let (nanos, cs) ← fraction? cs
  let (offset, cs) ← offset? (char? ':') cs
  guard (cs = [])
  LocalTime.toInstant? ⟨⟨year, month, day⟩, hour, minute, second, nanos⟩ offset

/-- A date and a time of day, with blanks between them or none. -/
def spaced? (cs : List Char) : Option Instant := do
  let (date, cs) ← date? cs
  let (t, cs) ← time? date (Text.trimStart cs)
  guard (cs = [])
  t.toInstant? 0

/-- A date and a time of day with `T` between them. -/
def lettered? (cs : List Char) : Option Instant := do
  let (date, cs) ← date? cs
  let cs ← char? 'T' cs
  let (t, cs) ← time? date cs
  guard (cs = [])
  t.toInstant? 0

/-- A date, standing for its midnight. -/
def dateOnly? (cs : List Char) : Option Instant := do
  let (date, cs) ← date? cs
  guard (cs = [])
  (LocalTime.midnight date).toInstant? 0

/-- The layouts, in the order in which they are tried. -/
def layouts : List (List Char → Option Instant) := [rfc3339?, spaced?, lettered?, dateOnly?]

/-- Reads an instant in the first layout that accepts the text; blanks around it do not
count. -/
def parse? (s : String) : Option Instant :=
  layouts.findSome? (· (Text.trim s.toList))

/-- Reads the wire form: a date, a separator, a time and an offset.  Blanks may stand
before every sign of the date and the time, and around the offset. -/
def ofWire? (s : String) : Option Instant := do
  let cs := s.toList
  let (year, cs) ← year? cs
  let cs ← char? '-' (Text.trimStart cs)
  let (month, cs) ← field? cs
  let cs ← char? '-' (Text.trimStart cs)
  let (day, cs) ← field? cs
  let cs ← (char? 'T' cs).or ((char? 't' cs).or (char? ' ' cs))
  let (hour, cs) ← field? cs
  let cs ← char? ':' (Text.trimStart cs)
  let (minute, cs) ← field? cs
  let cs ← char? ':' (Text.trimStart cs)
  let (second, cs) ← field? cs
  let (nanos, cs) ← fraction? cs
  let cs := Text.trimStart cs
  let (offset, cs) ←
    if (cs.take 3).map Char.toLower = ['u', 't', 'c'] then some (0, cs.drop 3)
    else offset? (fun cs => some (cs.dropWhile fun c => c == ':' || Text.isBlank c)) cs
  guard (Text.allBlank cs)
  LocalTime.toInstant? ⟨⟨year, month, day⟩, hour, minute, second, nanos⟩ offset

end SqlAccess.Instant

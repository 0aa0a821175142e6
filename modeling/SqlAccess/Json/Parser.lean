/-
Reading JSON text.

The grammar is strict: blanks are the space, the tab and the two line breaks,
numbers have no leading zeros, strings hold no raw controls and no half of a
surrogate pair.  A value may nest 127 arrays and objects.  Of fields with one key
the last counts.

A number that is an integer of 64 bits stays an integer, except minus zero.  Any
other number becomes a double in two roundings: the leading digits that fit into
64 bits are rounded, and the result is scaled by the double nearest to the power
of ten.
-/
import SqlAccess.Json
import SqlAccess.Double.Rounding

namespace SqlAccess.Json

/-- How many arrays and objects may be nested. -/
def depthLimit : Nat := 127

/-- Drops the blanks in front. -/
def skipBlanks (cs : List Char) : List Char :=
  cs.dropWhile fun c => c == ' ' || c == '\t' || c == '\n' || c == '\r'

/-! ### Numbers -/

/-- The leading digits that fit into 64 bits, as a number, and the digits after them. -/
def takeSignificand (n : Nat) : List Char → Nat × List Char
  | [] => (n, [])
  | c :: cs =>
    let next := 10 * n + (c.toNat - '0'.toNat)
    if next < UInt64.size then takeSignificand next cs else (n, c :: cs)

/-- Divides by 10^308 until the exponent lies within the powers of ten that are doubles. -/
def reduce : Nat → FiniteDouble → Int → FiniteDouble × Int
  | 0, x, e => (x, e)
  | steps + 1, x, e =>
    if x.isZero || decide (-308 ≤ e) then (x, e)
    else
      match Double.ofDecimal false 1 308 with
      | .finite p =>
        match x.scaleDown p with
        | .finite y => reduce steps y (e + 308)
        | _ => (x, e)
      | _ => (x, e)

/-- Scales a double by a power of ten; there is no result beyond the finite doubles. -/
def scale (x : FiniteDouble) (e : Int) : Option FiniteDouble :=
  let (x, e) := reduce 3 x e
  if x.isZero then some x
  else if 308 < e then none
  else
    match Double.ofDecimal false 1 e.natAbs with
    | .finite p =>
      match if 0 ≤ e then x.scaleUp p else x.scaleDown p with
      | .finite y => some y
      | _ => none
    | _ => none

/-- A number from its sign, its digits before and behind the point, and its exponent. -/
def real? (negative : Bool) (whole fraction : List Char) (e : Int) : Option Json :=
  let (n, excess) := takeSignificand 0 whole
  let (n, shift) :=
    let (m, dropped) := takeSignificand n fraction
    (m, (excess.length : Int) - (fraction.length - dropped.length))
  match Double.ofRatio negative n 1 with
  | .finite x => (scale x (e + shift)).map real
  | _ => none

/-- An integer from its sign and its digits. -/
def integer? (negative : Bool) (whole : List Char) : Option Json :=
  let n : Int := Text.digitsValue whole
  let value := if negative then -n else n
  if IsWide value ∧ ¬(negative ∧ n = 0) then some (integer value)
  else real? negative whole [] 0

/-- Reads the exponent of a number, if there is one. -/
def exponent? : List Char → Option (Option Int × List Char)
  | c :: cs =>
    if c = 'e' ∨ c = 'E' then
      let (negative, cs) :=
        match cs with
        | '+' :: cs => (false, cs)
        | '-' :: cs => (true, cs)
        | cs => (false, cs)
      let digits := cs.takeWhile Char.isDigit
      if digits = [] then none
      else
        let n : Int := Text.digitsValue digits
        some (some (if negative then -n else n), cs.dropWhile Char.isDigit)
    else some (none, c :: cs)
  | [] => some (none, [])

/-- Reads the point and the digits behind it, if there is a point. -/
def fraction? : List Char → Option (Option (List Char) × List Char)
  | '.' :: cs =>
    let digits := cs.takeWhile Char.isDigit
    if digits = [] then none else some (some digits, cs.dropWhile Char.isDigit)
  | cs => some (none, cs)

/-- Reads a number without its sign. -/
def unsigned? (negative : Bool) (cs : List Char) : Option (Json × List Char) := do
  let whole := cs.takeWhile Char.isDigit
  guard (whole ≠ [])
  guard (whole.length = 1 ∨ whole.head? ≠ some '0')
  let (fraction, cs) ← fraction? (cs.dropWhile Char.isDigit)
  let (e, cs) ← exponent? cs
  let value ←
    match fraction, e with
    | none, none => integer? negative whole
    | fraction, e => real? negative whole (fraction.getD []) (e.getD 0)
  return (value, cs)

/-- Reads a number. -/
def number? : List Char → Option (Json × List Char)
  | '-' :: cs => unsigned? true cs
  | cs => unsigned? false cs

/-! ### Strings -/

/-- The value of a hexadecimal digit. -/
def hexValue? (c : Char) : Option Nat :=
  if c.isDigit then some (c.toNat - '0'.toNat)
  else if 'a' ≤ c ∧ c ≤ 'f' then some (c.toNat - 'a'.toNat + 10)
  else if 'A' ≤ c ∧ c ≤ 'F' then some (c.toNat - 'A'.toNat + 10)
  else none

/-- The number of four hexadecimal digits. -/
def unit? (a b c d : Char) : Option Nat := do
  let a ← hexValue? a
  let b ← hexValue? b
  let c ← hexValue? c
  let d ← hexValue? d
  return ((a * 16 + b) * 16 + c) * 16 + d

/-- The character behind a backslash that is written by one letter. -/
def unescape? (c : Char) : Option Char :=
  if c = '"' ∨ c = '\\' ∨ c = '/' then some c
  else if c = 'b' then some '\x08'
  else if c = 'f' then some '\x0c'
  else if c = 'n' then some '\n'
  else if c = 'r' then some '\r'
  else if c = 't' then some '\t'
  else none

/-- Whether a number is the first half of a surrogate pair. -/
def isHighSurrogate (n : Nat) : Bool := decide (0xD800 ≤ n) && decide (n < 0xDC00)

/-- Whether a number is the second half of a surrogate pair. -/
def isLowSurrogate (n : Nat) : Bool := decide (0xDC00 ≤ n) && decide (n < 0xE000)

/-- Reads the rest of a string, up to its closing quote. -/
def stringBody? : List Char → Option (List Char × List Char)
  | [] => none
  | '"' :: cs => some ([], cs)
  | '\\' :: 'u' :: a :: b :: c :: d :: cs => do
    let n ← unit? a b c d
    if isHighSurrogate n then
      match cs with
      | '\\' :: 'u' :: a :: b :: c :: d :: cs =>
        let m ← unit? a b c d
        guard (isLowSurrogate m)
        let (body, rest) ← stringBody? cs
        return (Char.ofNat (0x10000 + (n - 0xD800) * 0x400 + (m - 0xDC00)) :: body, rest)
      | _ => none
    else
      guard (!isLowSurrogate n)
      let (body, rest) ← stringBody? cs
      return (Char.ofNat n :: body, rest)
  | '\\' :: c :: cs => do
    let c ← unescape? c
    let (body, rest) ← stringBody? cs
    return (c :: body, rest)
  | c :: cs => do
    guard (0x20 ≤ c.toNat ∧ c ≠ '\\')
    let (body, rest) ← stringBody? cs
    return (c :: body, rest)

/-- Reads a string with its quotes. -/
def string? : List Char → Option (String × List Char)
  | '"' :: cs => (stringBody? cs).map fun (body, rest) => (String.ofList body, rest)
  | _ => none

/-! ### Values -/

mutual

/-- Reads a value that starts at once.  `fuel` bounds the number of values that are
begun; `depth` is how many arrays and objects may still be nested. -/
def value? : Nat → Nat → List Char → Option (Json × List Char)
  | 0, _, _ => none
  | _, _, 'n' :: 'u' :: 'l' :: 'l' :: cs => some (null, cs)
  | _, _, 't' :: 'r' :: 'u' :: 'e' :: cs => some (flag true, cs)
  | _, _, 'f' :: 'a' :: 'l' :: 's' :: 'e' :: cs => some (flag false, cs)
  | _, _, '"' :: cs => (string? ('"' :: cs)).map fun (s, rest) => (text s, rest)
  | _, 0, '[' :: _ => none
  | fuel + 1, depth + 1, '[' :: cs =>
    match skipBlanks cs with
    | ']' :: rest => some (array [], rest)
    | cs => do
      let (item, cs) ← value? fuel depth cs
      let (items, cs) ← moreItems? fuel depth (skipBlanks cs)
      return (array (item :: items), cs)
  | _, 0, '{' :: _ => none
  | fuel + 1, depth + 1, '{' :: cs =>
    match skipBlanks cs with
    | '}' :: rest => some (object [], rest)
    | cs => do
      let (key, value, cs) ← field? fuel depth cs
      let (fields, cs) ← moreFields? fuel depth (putEntry key value []) (skipBlanks cs)
      return (object fields, cs)
  | _, _, cs => number? cs

/-- Reads the items behind the first one, up to the closing bracket. -/
def moreItems? : Nat → Nat → List Char → Option (List Json × List Char)
  | _, _, ']' :: rest => some ([], rest)
  | fuel + 1, depth, ',' :: cs => do
    let (item, cs) ← value? fuel depth (skipBlanks cs)
    let (items, cs) ← moreItems? fuel depth (skipBlanks cs)
    return (item :: items, cs)
  | _, _, _ => none

/-- Reads a key, a colon and a value. -/
def field? : Nat → Nat → List Char → Option (String × Json × List Char)
  | 0, _, _ => none
  | fuel + 1, depth, cs => do
    let (key, cs) ← string? cs
    match skipBlanks cs with
    | ':' :: cs =>
      let (value, cs) ← value? fuel depth (skipBlanks cs)
      return (key, value, cs)
    | _ => none

/-- Reads the fields behind the first one, up to the closing brace, and adds them to
those already read. -/
def moreFields? : Nat → Nat → List (String × Json) → List Char →
    Option (List (String × Json) × List Char)
  | _, _, fields, '}' :: rest => some (fields, rest)
  | fuel + 1, depth, fields, ',' :: cs => do
    let (key, value, cs) ← field? fuel depth (skipBlanks cs)
    moreFields? fuel depth (putEntry key value fields) (skipBlanks cs)
  | _, _, _, _ => none

end

/-- Reads a text that is one value, with `depth` arrays and objects nested at most. -/
def parseWithin? (depth : Nat) (cs : List Char) : Option Json := do
  let (value, rest) ← value? (2 * cs.length + 2) depth (skipBlanks cs)
  guard (skipBlanks rest = [])
  return value

/-- Reads a text that is one value. -/
def parse? (s : String) : Option Json := parseWithin? depthLimit s.toList

end SqlAccess.Json

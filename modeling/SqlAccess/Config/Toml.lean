/-
Reading TOML.

Tables are opened by headers, keys may be dotted, and values are strings,
numbers, booleans and arrays.  A key is given once, and a header too; a table that
other headers pass through may still be opened by its own.
-/
import SqlAccess.Config.Tree
import SqlAccess.Double.Reading
import SqlAccess.Json.Parser

namespace SqlAccess.Toml

/-! ### Blanks and comments -/

/-- Drops spaces and tabs in front. -/
def skipSpace (cs : List Char) : List Char := cs.dropWhile fun c => c == ' ' || c == '\t'

/-- Whether a character may stand in a comment or, as it is, in a string: no controls but
the tab. -/
def isTextChar (c : Char) : Bool := c == '\t' || decide (0x20 ≤ c.toNat) && c != '\x7f'

/-- Drops a comment in front, up to the end of its line. -/
def skipComment : List Char → List Char
  | '#' :: cs => cs.dropWhile isTextChar
  | cs => cs

/-- Drops blanks, line breaks and comments in front. -/
def skipLines : Nat → List Char → List Char
  | 0, cs => cs
  | fuel + 1, cs =>
    match skipComment (skipSpace cs) with
    | '\n' :: rest => skipLines fuel rest
    | '\r' :: '\n' :: rest => skipLines fuel rest
    | rest => rest

/-- Drops the end of a line, which may hold a comment; nothing else may stand there. -/
def endLine? (cs : List Char) : Option (List Char) :=
  match skipComment (skipSpace cs) with
  | [] => some []
  | '\n' :: rest => some rest
  | '\r' :: '\n' :: rest => some rest
  | _ => none

/-! ### Numbers -/

/-- Reads digits of a base to the end; an underscore may stand between two digits. -/
def digits? (isDigit : Char → Bool) : List Char → Option (List Char)
  | [] => none
  | [c] => if isDigit c then some [c] else none
  | c :: '_' :: rest => if isDigit c then (digits? isDigit rest).map (c :: ·) else none
  | c :: rest => if isDigit c then (digits? isDigit rest).map (c :: ·) else none

/-- Reads decimal digits without leading zeros. -/
def whole? (cs : List Char) : Option (List Char) := do
  let digits ← digits? Char.isDigit cs
  guard (digits.length = 1 ∨ digits.head? ≠ some '0')
  return digits

/-- The value of digits in a base. -/
def valueIn (base : Nat) (digits : List Char) : Nat :=
  digits.foldl (fun n c => base * n + (Json.hexValue? c).getD 0) 0

/-- Whether a character is a digit of a base up to sixteen. -/
def isDigitOf (base : Nat) (c : Char) : Bool :=
  match Json.hexValue? c with
  | some n => decide (n < base)
  | none => false

/-- An integer, if it has 64 bits. -/
def integer64? (n : Int) : Option Setting :=
  if Int64.minValue.toInt ≤ n ∧ n ≤ Int64.maxValue.toInt then some (.integer n) else none

/-- Reads an exponent with its sign. -/
def exponent? : List Char → Option Int
  | '-' :: cs => (digits? Char.isDigit cs).map fun d => -(Text.digitsValue d : Int)
  | '+' :: cs => (digits? Char.isDigit cs).map fun d => (Text.digitsValue d : Int)
  | cs => (digits? Char.isDigit cs).map fun d => (Text.digitsValue d : Int)

/-- Reads a floating-point number without its sign; it must not overflow. -/
def real? (negative : Bool) (cs : List Char) : Option Setting := do
  let isMark := fun c => c == 'e' || c == 'E'
  let mantissa := cs.takeWhile (!isMark ·)
  let e ←
    match cs.dropWhile (!isMark ·) with
    | [] => some 0
    | _ :: cs => exponent? cs
  let whole ← whole? (mantissa.takeWhile (· != '.'))
  let fraction ←
    match mantissa.dropWhile (· != '.') with
    | [] => some []
    | _ :: cs => digits? Char.isDigit cs
  match Double.ofDecimal negative (Text.digitsValue (whole ++ fraction)) (e - fraction.length) with
  | .finite x => some (.real (.finite x))
  | _ => none

/-- Reads a decimal number without its sign. -/
def number? (negative : Bool) (cs : List Char) : Option Setting :=
  if cs = ['i', 'n', 'f'] then some (.real (.infinite negative))
  else if cs = ['n', 'a', 'n'] then some (.real .nan)
  else
    match whole? cs with
    | some digits =>
      let n : Int := Text.digitsValue digits
      integer64? (if negative then -n else n)
    | none => real? negative cs

/-- Reads a word: a boolean or a number. -/
def word? : List Char → Option Setting
  | ['t', 'r', 'u', 'e'] => some (.flag true)
  | ['f', 'a', 'l', 's', 'e'] => some (.flag false)
  | '0' :: 'x' :: cs => (digits? (isDigitOf 16) cs).bind fun d => integer64? (valueIn 16 d)
  | '0' :: 'o' :: cs => (digits? (isDigitOf 8) cs).bind fun d => integer64? (valueIn 8 d)
  | '0' :: 'b' :: cs => (digits? (isDigitOf 2) cs).bind fun d => integer64? (valueIn 2 d)
  | '-' :: cs => number? true cs
  | '+' :: cs => number? false cs
  | cs => number? false cs

/-! ### Strings -/

/-- Reads a character by its code point, in hexadecimal digits. -/
def codePoint? (digits : List Char) : Option Char := do
  guard (digits.all (isDigitOf 16))
  let n := valueIn 16 digits
  guard (n < 0xD800 ∨ 0xE000 ≤ n ∧ n < 0x110000)
  return Char.ofNat n

/-- The character behind a backslash that is written by one letter. -/
def unescape? (c : Char) : Option Char :=
  if c = '/' then none else if c = 'e' then some '\x1b' else Json.unescape? c

/-- Reads the rest of a string in double quotes. -/
def basicBody? : List Char → Option (List Char × List Char)
  | [] => none
  | '"' :: cs => some ([], cs)
  | '\\' :: 'u' :: a :: b :: c :: d :: cs => do
    let x ← codePoint? [a, b, c, d]
    let (body, rest) ← basicBody? cs
    return (x :: body, rest)
  | '\\' :: 'U' :: a :: b :: c :: d :: e :: f :: g :: h :: cs => do
    let x ← codePoint? [a, b, c, d, e, f, g, h]
    let (body, rest) ← basicBody? cs
    return (x :: body, rest)
  | '\\' :: 'x' :: a :: b :: cs => do
    let x ← codePoint? [a, b]
    let (body, rest) ← basicBody? cs
    return (x :: body, rest)
  | '\\' :: c :: cs => do
    let x ← unescape? c
    let (body, rest) ← basicBody? cs
    return (x :: body, rest)
  | c :: cs => do
    guard (c ≠ '\\' ∧ isTextChar c)
    let (body, rest) ← basicBody? cs
    return (c :: body, rest)

/-- Reads a string in double or single quotes. -/
def string? : List Char → Option (String × List Char)
  | '"' :: cs => (basicBody? cs).map fun (body, rest) => (String.ofList body, rest)
  | '\'' :: cs =>
    let body := cs.takeWhile fun c => c != '\'' && isTextChar c
    match cs.drop body.length with
    | '\'' :: rest => some (String.ofList body, rest)
    | _ => none
  | _ => none

/-! ### Values -/

/-- Whether a character may stand in a word. -/
def isWordChar (c : Char) : Bool := Setting.isPathChar c || c == '+' || c == '.'

/-- How many arrays may be nested. -/
def depthLimit : Nat := 80

mutual

/-- Reads a value.  The fuel bounds the number of values and separators, `depth` how many
arrays may be nested in the value. -/
def value? : Nat → Nat → List Char → Option (Setting × List Char)
  | 0, _, _ => none
  | fuel + 1, depth, '[' :: cs => do
    guard (0 < depth)
    return (.list, ← items? fuel (depth - 1) cs)
  | _, _, '"' :: cs => (string? ('"' :: cs)).map fun (s, rest) => (.text s, rest)
  | _, _, '\'' :: cs => (string? ('\'' :: cs)).map fun (s, rest) => (.text s, rest)
  | _, _, cs => (word? (cs.takeWhile isWordChar)).map (·, cs.dropWhile isWordChar)

/-- Passes over the items of an array and its closing bracket. -/
def items? : Nat → Nat → List Char → Option (List Char)
  | 0, _, _ => none
  | fuel + 1, depth, cs =>
    match skipLines cs.length cs with
    | ']' :: rest => some rest
    | cs => do
      let (_, cs) ← value? fuel depth cs
      match skipLines cs.length cs with
      | ',' :: cs => items? fuel depth cs
      | ']' :: rest => some rest
      | _ => none

end

/-! ### Documents -/

/-- Reads a key, bare or in quotes. -/
def key? (cs : List Char) : Option (String × List Char) := (string? cs).or (Setting.pathKey? cs)

/-- Reads keys with dots between them. -/
def keys? : Nat → List Char → Option (List String × List Char)
  | 0, _ => none
  | fuel + 1, cs => do
    let (key, cs) ← key? (skipSpace cs)
    match skipSpace cs with
    | '.' :: cs =>
      let (keys, cs) ← keys? fuel cs
      return (key :: keys, cs)
    | cs => return ([key], cs)

/-- What has been read of a document. -/
structure Document where
  entries : List (String × Setting)
  /-- The table that keys go to. -/
  here : List String
  /-- The tables that are finished: they get no second header and no keys from elsewhere. -/
  finished : List (List String)
  /-- The tables that the dotted keys below the last header have made. -/
  dotted : List (List String)

/-- Opens the table at a path; only tables may stand in the way. -/
def openTable? (entries : List (String × Setting)) : List String → Option (List (String × Setting))
  | [] => some entries
  | key :: keys =>
    match valueOf? key entries with
    | none => (openTable? [] keys).map fun inner => putEntry key (.table inner) entries
    | some (.table inner) =>
      (openTable? inner keys).map fun inner => putEntry key (.table inner) entries
    | some _ => none

/-- Sets the value at a path, where nothing may stand yet. -/
def setValue? (value : Setting) (entries : List (String × Setting)) :
    List String → Option (List (String × Setting))
  | [] => none
  | [key] => if (valueOf? key entries).isSome then none else some (putEntry key value entries)
  | key :: next :: keys =>
    match valueOf? key entries with
    | none =>
      (setValue? value [] (next :: keys)).map fun inner => putEntry key (.table inner) entries
    | some (.table inner) =>
      (setValue? value inner (next :: keys)).map fun inner => putEntry key (.table inner) entries
    | some _ => none

/-- Reads the header of a table. -/
def header? (d : Document) (cs : List Char) : Option (Document × List Char) := do
  let (path, cs) ← keys? (cs.length + 1) cs
  match cs with
  | ']' :: cs =>
    let finished := d.dotted ++ d.finished
    guard (!finished.contains path)
    let entries ← openTable? d.entries path
    return (⟨entries, path, path :: finished, []⟩, cs)
  | _ => none

/-- The tables that a dotted key goes through, below the table where it stands. -/
def tablesOf (here path : List String) : List (List String) :=
  (List.range (path.length - 1)).map fun n => here ++ path.take (n + 1)

/-- Reads a key and its value. -/
def assignment? (d : Document) (cs : List Char) : Option (Document × List Char) := do
  let (path, cs) ← keys? (cs.length + 1) cs
  match cs with
  | '=' :: cs =>
    let cs := skipSpace cs
    let (value, cs) ← value? (2 * cs.length + 2) depthLimit cs
    let tables := tablesOf d.here path
    guard (!tables.any d.finished.contains)
    let entries ← setValue? value d.entries (d.here ++ path)
    return ({ d with entries, dotted := tables ++ d.dotted }, cs)
  | _ => none

/-- Reads the lines of a document. -/
def lines? : Nat → Document → List Char → Option Document
  | 0, _, _ => none
  | fuel + 1, d, cs =>
    match skipLines cs.length cs with
    | [] => some d
    | '[' :: cs => do
      let (d, cs) ← header? d cs
      lines? fuel d (← endLine? cs)
    | cs => do
      let (d, cs) ← assignment? d cs
      lines? fuel d (← endLine? cs)

/-- Reads a document, as the entries of its root table; a byte order mark may stand at its
start. -/
def parse? (s : String) : Option (List (String × Setting)) :=
  let cs := Text.withoutMark s.toList
  (lines? (cs.length + 1) ⟨[], [], [], []⟩ cs).map (·.entries)

end SqlAccess.Toml

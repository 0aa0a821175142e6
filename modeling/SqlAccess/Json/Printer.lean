/-
Compact JSON text.

No blanks are written.  Strings escape the quote, the backslash and the controls
below the space, and nothing else; doubles are written by `Double.Layout.json`.
-/
import SqlAccess.Json
import SqlAccess.Double.Decimal
import SqlAccess.Text.Inspect

namespace SqlAccess.Json

/-- The digit of a number below sixteen. -/
def hexDigit (n : Nat) : Char := Nat.digitChar (n % 16)

/-- A character inside a string. -/
def escape (c : Char) : List Char :=
  if c = '"' then ['\\', '"']
  else if c = '\\' then ['\\', '\\']
  else if c = '\x08' then ['\\', 'b']
  else if c = '\x0c' then ['\\', 'f']
  else if c = '\n' then ['\\', 'n']
  else if c = '\r' then ['\\', 'r']
  else if c = '\t' then ['\\', 't']
  else if c.toNat < 0x20 then ['\\', 'u', '0', '0', hexDigit (c.toNat / 16), hexDigit c.toNat]
  else [c]

/-- A string between quotes. -/
def printString (s : String) : List Char := '"' :: s.toList.flatMap escape ++ ['"']

mutual

/-- A value. -/
def print : Json → List Char
  | null => ['n', 'u', 'l', 'l']
  | flag true => ['t', 'r', 'u', 'e']
  | flag false => ['f', 'a', 'l', 's', 'e']
  | integer n => Text.signed n
  | real x => Double.Layout.json.write x
  | text s => printString s
  | array items => '[' :: printItems items ++ [']']
  | object fields => '{' :: printFields fields ++ ['}']

/-- Values between commas. -/
def printItems : List Json → List Char
  | [] => []
  | item :: rest => print item ++ printMoreItems rest

/-- Values each after a comma. -/
def printMoreItems : List Json → List Char
  | [] => []
  | item :: rest => ',' :: print item ++ printMoreItems rest

/-- Fields between commas. -/
def printFields : List (String × Json) → List Char
  | [] => []
  | (key, value) :: rest => printString key ++ ':' :: print value ++ printMoreFields rest

/-- Fields each after a comma. -/
def printMoreFields : List (String × Json) → List Char
  | [] => []
  | (key, value) :: rest => ',' :: printString key ++ ':' :: print value ++ printMoreFields rest

end

/-- The compact text of a value. -/
def compact (j : Json) : String := String.ofList j.print

mutual

/-- A value as it is shown in logs. -/
def inspect : Json → String
  | null => "Null"
  | flag b => Text.inspectCall "Bool" [Text.inspectFlag b]
  | integer n => Text.inspectCall "Number" [Text.signedText n]
  | real x => Text.inspectCall "Number" [String.ofList (Double.Layout.json.write x)]
  | text s => Text.inspectCall "String" [Text.quoted s]
  | array items => "Array " ++ Text.inspectList (inspectItems items)
  | object fields => "Object \x7b" ++ ", ".intercalate (inspectFields fields) ++ "\x7d"

/-- The items as they are shown in logs. -/
def inspectItems : List Json → List String
  | [] => []
  | item :: rest => inspect item :: inspectItems rest

/-- The fields as they are shown in logs. -/
def inspectFields : List (String × Json) → List String
  | [] => []
  | (key, value) :: rest => (Text.quoted key ++ ": " ++ inspect value) :: inspectFields rest

end

end SqlAccess.Json

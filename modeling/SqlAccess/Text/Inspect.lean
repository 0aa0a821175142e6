/-
How values are shown to a reader of logs.

Strings are quoted: quotes, backslashes and line breaks are escaped, and
characters that cannot be seen are written by their code points.  Records show
their name and their fields, options and lists their contents.
-/
import SqlAccess.Text.Unprintable

namespace SqlAccess.Text

/-- A character inside a quoted text. -/
def escapeQuoted (c : Char) : List Char :=
  if c = '"' then ['\\', '"']
  else if c = '\\' then ['\\', '\\']
  else if c = '\n' then ['\\', 'n']
  else if c = '\r' then ['\\', 'r']
  else if c = '\t' then ['\\', 't']
  else if c = '\x00' then ['\\', '0']
  else if isUnprintable c then ['\\', 'u', '{'] ++ Nat.toDigits 16 c.toNat ++ ['}']
  else [c]

/-- A text between quotes. -/
def quoted (s : String) : String :=
  String.ofList ('"' :: s.toList.flatMap escapeQuoted ++ ['"'])

/-- A name with arguments in parentheses. -/
def inspectCall (name : String) (args : List String) : String :=
  name ++ "(" ++ ", ".intercalate args ++ ")"

/-- An option of a value already shown as text. -/
def inspectOption : Option String → String
  | none => "None"
  | some s => inspectCall "Some" [s]

/-- A list of values already shown as texts. -/
def inspectList (items : List String) : String :=
  "[" ++ ", ".intercalate items ++ "]"

/-- A flag. -/
def inspectFlag (b : Bool) : String := if b then "true" else "false"

/-- A record: its name, then its fields in order. -/
def inspectRecord (name : String) (fields : List (String × String)) : String :=
  name ++ " \x7b " ++ ", ".intercalate (fields.map fun (field, value) => field ++ ": " ++ value)
    ++ " \x7d"

end SqlAccess.Text

/-
The cells of an SQLite database.

Values are bound as integers, reals, texts and blobs; SQLite keeps what it is
given, except that a NaN becomes null.  A text cell is only bytes to SQLite: bytes
that are no valid text come back as they are.
-/
import SqlAccess.Value

namespace SqlAccess.Sqlite

/-- What SQLite can keep in a cell. -/
inductive Cell where
  | null
  | integer (n : Int64)
  | real (x : Double)
  | text (content : List UInt8)
  | blob (content : List UInt8)
  deriving DecidableEq

namespace Cell

/-- The cell that a value is bound as. -/
def ofValue : Value → Cell
  | .null => null
  | .flag b => integer (if b then 1 else 0)
  | .int n => integer n.toInt64
  | .long n => integer n
  | .double x => real x
  | .text s => text (Text.utf8 s)
  | .bytes content => blob content
  | .instant t => text (Text.utf8 t.sql)
  | .object j => text (Text.utf8 j.compact)

/-- What SQLite keeps of a bound cell. -/
def kept : Cell → Cell
  | real .nan => null
  | c => c

/-- The value that is read from a cell. -/
def toValue : Cell → Value
  | null => .null
  | integer n => .long n
  | real x => .double x
  | text content =>
    match Text.ofUtf8? content with
    | some s => .text s
    | none => .bytes content
  | blob content => .bytes content

end Cell

/-- The value that comes back after a value was stored. -/
def stored (v : Value) : Value := (Cell.ofValue v).kept.toValue

end SqlAccess.Sqlite

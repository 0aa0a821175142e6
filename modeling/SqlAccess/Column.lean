/-
Columns: their types, and which of them the database fills in itself.
-/
import SqlAccess.Json
import SqlAccess.Text.Inspect

namespace SqlAccess

/-- What a column holds. -/
inductive ColumnType where
  /-- Binary content. -/
  | binary
  /-- A point in time, read back as milliseconds. -/
  | timestamp
  /-- An integer of 32 bits. -/
  | integer
  /-- A flag; a missing one is stored as false. -/
  | boolean
  /-- A business object, stored through a marshaller. -/
  | marshalled
  /-- Anything, left as it is. -/
  | other
  deriving DecidableEq, Repr, Inhabited

namespace ColumnType

/-- The name of the type. -/
def name : ColumnType → String
  | binary => "Binary"
  | timestamp => "Timestamp"
  | integer => "Integer"
  | boolean => "Boolean"
  | marshalled => "Marshalled"
  | other => "Other"

/-- All types. -/
def all : List ColumnType := [binary, timestamp, integer, boolean, marshalled, other]

/-- The type with a name. -/
def ofName? (s : String) : Option ColumnType := all.find? (·.name == s)

end ColumnType

/-- A column of a table. -/
structure Column where
  name : String
  type : ColumnType
  /-- The database numbers the rows. -/
  sequence : Bool
  /-- The database notes the time of the insertion. -/
  createDate : Bool
  /-- The database notes the time of the last change. -/
  modifyDate : Bool
  deriving DecidableEq, Repr

namespace Column

/-- A column that callers fill in. -/
def plain (name : String) (type : ColumnType) : Column := ⟨name, type, false, false, false⟩

/-- Whether the value comes from the database and never from a caller. -/
def isGenerated (c : Column) : Bool := c.sequence || c.createDate || c.modifyDate

/-- The column as JSON. -/
def toJson (c : Column) : Json :=
  .object [("column_type", .text c.type.name), ("create_date", .flag c.createDate),
    ("modify_date", .flag c.modifyDate), ("name", .text c.name), ("sequence", .flag c.sequence)]

/-- The column as it is shown in logs. -/
def inspect (c : Column) : String :=
  Text.inspectRecord "ColumnMetadata"
    [("name", Text.quoted c.name), ("column_type", c.type.name),
      ("sequence", Text.inspectFlag c.sequence), ("create_date", Text.inspectFlag c.createDate),
      ("modify_date", Text.inspectFlag c.modifyDate)]

end Column

end SqlAccess

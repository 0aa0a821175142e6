/-
The SQL of a query.

Values never stand in the SQL: they are bound to placeholders.  What stands there
literally are names, clauses, and the expressions of the dialect for the columns
that the database fills in.
-/
import SqlAccess.Query

namespace SqlAccess.Query

/-- What stands for the limit when there is only an offset: the largest count that every
dialect takes. -/
def unboundedLimit : Nat := 9223372036854775807

/-- The condition, if there is one that is not blank. -/
def condition? (q : Query) : Option String :=
  match q.whereClause with
  | some clause => if Text.allBlank clause.toList then none else some clause
  | none => none

/-- The condition with its keyword. -/
def whereText (q : Query) : String :=
  match q.condition? with
  | some clause => " WHERE " ++ clause
  | none => ""

/-- The tables to read from, and the condition. -/
def fromText (q : Query) : String :=
  " FROM " ++ q.table ++ String.join (q.joins.map (", " ++ ·)) ++ q.whereText

/-- A column in a SELECT, with its property as label. -/
def selectItem (property : String) (c : Column) : String :=
  if property = c.name then property else c.name ++ " AS " ++ property

/-- What a SELECT reads. -/
def selectList (q : Query) : String :=
  (if q.distinct then "DISTINCT " else "") ++
    if q.columns = [] then "*"
    else ", ".intercalate (q.columns.map fun (property, c) => selectItem property c)

/-- The limit and the offset. -/
def pagingText (q : Query) : String :=
  match q.limit, q.offset with
  | some limit, some offset =>
    " LIMIT " ++ Text.decimalText limit.toNat ++ " OFFSET " ++ Text.decimalText offset.toNat
  | some limit, none => " LIMIT " ++ Text.decimalText limit.toNat
  | none, some offset =>
    " LIMIT " ++ Text.decimalText unboundedLimit ++ " OFFSET " ++ Text.decimalText offset.toNat
  | none, none => ""

/-- The SELECT. -/
def selectSql (q : Query) : String :=
  "SELECT " ++ q.selectList ++ q.fromText ++
    (match q.supplement with
      | some clause => " " ++ clause
      | none => "") ++
    q.pagingText

/-- The SELECT that counts the rows of the SELECT, without paging. -/
def countSql (q : Query) : String :=
  if q.distinct then
    "SELECT COUNT(*) FROM (SELECT " ++ q.selectList ++ q.fromText ++ ") AS counted"
  else "SELECT COUNT(*)" ++ q.fromText

/-- The DELETE. -/
def deleteSql (q : Query) : String := "DELETE FROM " ++ q.table ++ q.whereText

/-- What an INSERT writes for a column. -/
def insertItem (d : Dialect) (c : Column) : String :=
  if c.sequence then d.sequenceValue
  else if c.createDate || c.modifyDate then d.currentTimestamp
  else "?"

/-- The columns, which must not be missing. -/
def requireColumns (q : Query) : Result (List Column) :=
  if q.columns = [] then .error (.dataAccess (.missingColumns q.table))
  else .ok (q.columns.map (·.2))

/-- The INSERT of all columns. -/
def insertSql (q : Query) : Result String := do
  let columns ← q.requireColumns
  return "INSERT INTO " ++ q.table ++
    " (" ++ ", ".intercalate (columns.map (·.name)) ++
    ") VALUES (" ++ ", ".intercalate (columns.map (insertItem q.handle.dialect)) ++ ")"

/-- Whether an UPDATE sets a column. -/
def isUpdatable (c : Column) : Bool := !c.sequence && !c.createDate

/-- What an UPDATE sets a column to. -/
def updateItem (d : Dialect) (c : Column) : String :=
  c.name ++ " = " ++ if c.modifyDate then d.currentTimestamp else "?"

/-- The UPDATE of the columns that can be updated. -/
def updateSql (q : Query) : Result String := do
  let columns ← q.requireColumns
  let items := (columns.filter isUpdatable).map (updateItem q.handle.dialect)
  if items = [] then .error (.dataAccess (.noUpdatableColumns q.table))
  else
    return "UPDATE " ++ q.table ++ " SET " ++ ", ".intercalate items ++ q.whereText

/-- The value that is bound for a column; the database fills in a null value of its own. -/
def columnParam (m : Marshaller) (values : Row) (property : String) (c : Column) :
    Result Value :=
  match values.get? property with
  | some v => if v.isNull then .ok c.type.nullValue else c.type.toSql m v
  | none => .ok c.type.nullValue

/-- The values that are bound for the columns that callers fill in. -/
def columnParams (q : Query) (values : Row) : Result (List Value) :=
  (q.columns.filter (!·.2.isGenerated)).mapM fun (property, c) =>
    columnParam q.marshaller values property c

end SqlAccess.Query

/-
Queries.

A query is bound to one table and knows columns by property.  It builds SQL from
them, binds values and reads rows through them.  It holds a connection, its own or
one lent to it, and at most one statement of that connection.

This module holds the state of a query and its setters; none of them touches the
connection.
-/
import SqlAccess.Binds
import SqlAccess.Column.Conversion
import SqlAccess.Database

namespace SqlAccess

/-- The connection of a query. -/
inductive Handle where
  /-- Opened by the query on a database; `none` after it was closed. -/
  | owned (database : Database) (connection : Option Connection)
  /-- Lent by a caller, who closes it. -/
  | borrowed (connection : Connection)

namespace Handle

/-- The connection, while there is one. -/
def connection? : Handle → Option Connection
  | owned _ c => c
  | borrowed c => some c

/-- The connection, or the complaint that the query is closed. -/
def get : Handle → Result Connection
  | owned _ (some c) => .ok c
  | owned database none => .error (.connection (.queryClosed database.name))
  | borrowed c => .ok c

/-- Whether the query closes the connection. -/
def isOwned : Handle → Bool
  | owned .. => true
  | borrowed _ => false

/-- The dialect of the connection; without one, no dialect in particular. -/
def dialect (h : Handle) : Dialect :=
  match h.connection? with
  | some c => c.dialect
  | none => .generic

end Handle

/-- A query on one table. -/
structure Query where
  handle : Handle
  table : String
  /-- Further tables to read from. -/
  joins : List String
  distinct : Bool
  /-- The columns by property, in the order in which the properties were first added. -/
  columns : List (String × Column)
  whereClause : Option String
  /-- What follows the condition of a SELECT, such as an order. -/
  supplement : Option String
  /-- The converted values of the placeholders of the clauses. -/
  binds : List Value
  offset : Option UInt64
  limit : Option UInt64
  statement : Option Statement
  marshaller : Marshaller
  /-- What traces the statements that return rows. -/
  tracer : Option Tracer

namespace Query

/-- A query without columns and clauses. -/
def fresh (handle : Handle) (table : String) (m : Marshaller) (tracer : Option Tracer) :
    Query where
  handle := handle
  table := table
  joins := []
  distinct := false
  columns := []
  whereClause := none
  supplement := none
  binds := []
  offset := none
  limit := none
  statement := none
  marshaller := m
  tracer := tracer

/-- A query on a connection that is lent to it. -/
def onConnection (c : Connection) (table : String) (m : Marshaller) (tracer : Option Tracer) :
    Query :=
  fresh (.borrowed c) table m tracer

/-- A query on a connection of its own. -/
def onDatabase (d : Database) (table : String) (m : Marshaller) (tracer : Option Tracer)
    (s : Session) : Result Query × Session :=
  match d.connect s with
  | (.ok c, s) => (.ok (fresh (.owned d (some c)) table m tracer), s)
  | (.error e, s) => (.error e, s)

/-- The query without its columns, clauses, values and paging. -/
def cleared (q : Query) : Query :=
  { q with
    joins := []
    distinct := false
    columns := []
    whereClause := none
    supplement := none
    binds := []
    offset := none
    limit := none }

/-- What is left of a query that holds no statement is a new one. -/
theorem cleared_eq_fresh {q : Query} (h : q.statement = none) :
    q.cleared = fresh q.handle q.table q.marshaller q.tracer := by
  rw [cleared, fresh, h]

/-- Sets the table. -/
def setTable (q : Query) (table : String) : Query := { q with table }

/-- Adds a table to read from. -/
def addJoin (q : Query) (table : String) : Query := { q with joins := q.joins ++ [table] }

/-- Sets whether rows are read once. -/
def setDistinct (q : Query) (distinct : Bool) : Query := { q with distinct }

/-- Sets the condition. -/
def setWhere (q : Query) (clause : String) : Query := { q with whereClause := some clause }

/-- Sets what follows the condition of a SELECT. -/
def setSupplement (q : Query) (clause : String) : Query := { q with supplement := some clause }

/-- Sets how many rows are passed over. -/
def setOffset (q : Query) (offset : Option UInt64) : Query := { q with offset }

/-- Sets how many rows are read at most. -/
def setLimit (q : Query) (limit : Option UInt64) : Query := { q with limit }

/-- Sets the column of a property in a list of columns; a property keeps its place. -/
def putColumn (property : String) (column : Column) :
    List (String × Column) → List (String × Column)
  | [] => [(property, column)]
  | (p, c) :: rest =>
    if p = property then (p, column) :: rest else (p, c) :: putColumn property column rest

/-- Maps a property to a column. -/
def addColumn (q : Query) (property : String) (column : Column) : Query :=
  { q with columns := putColumn property column q.columns }

/-- Adds columns under their own names. -/
def addColumns (q : Query) (columns : List Column) : Query :=
  columns.foldl (fun q c => q.addColumn c.name c) q

/-- The column of a property. -/
def column? (q : Query) (property : String) : Option Column :=
  (q.columns.find? (·.1 == property)).map (·.2)

/-- Converts and adds the value of the next placeholder. -/
def addBind (q : Query) (type : ColumnType) (v : Value) : Result Query :=
  (type.toSql q.marshaller v).map fun v => { q with binds := q.binds ++ [v] }

/-- Converts and adds values until one cannot be converted; those before it stay. -/
def addBinds (q : Query) : List (ColumnType × Value) → Result Unit × Query
  | [] => (.ok (), q)
  | (type, v) :: rest =>
    match q.addBind type v with
    | .ok q => q.addBinds rest
    | .error e => (.error e, q)

/-- Replaces the values of the placeholders: the old ones go first, then the new ones are
added one by one. -/
def setBinds (q : Query) (b : Binds) : Result Unit × Query :=
  { q with binds := [] }.addBinds b.entries

/-- The query as it is shown in logs. -/
def inspect (q : Query) : String :=
  Text.inspectRecord "Query"
    [("table", Text.quoted q.table),
      ("owns_connection", Text.inspectFlag q.handle.isOwned),
      ("columns", Text.inspectList
        (q.columns.map fun (p, c) => Text.inspectCall "" [Text.quoted p, c.inspect])),
      ("where_clause", Text.inspectOption (q.whereClause.map Text.quoted)),
      ("bind_values", Text.inspectList (q.binds.map Value.inspect))]

end Query

end SqlAccess

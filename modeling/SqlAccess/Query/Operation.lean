/-
Running queries.

Every operation releases the statement that the query holds before it asks for a
new one, and every operation that changes rows, fetches a page or ends a cursor
closes the query, whatever the outcome.  A query that has closed its own connection
refuses all work until `reset` opens a new one.  Failures to close are passed over.

The operations are values of the type `Operation`, and `step` does one of them.
-/
import SqlAccess.Page
import SqlAccess.Query.Extraction
import SqlAccess.Query.Sql

namespace SqlAccess.Query

/-- The query without its statement. -/
def dropStatement (q : Query) : Query := { q with statement := none }

/-- Gives the statement back to the connection. -/
def release (q : Query) (s : Session) : Query × Session :=
  match q.statement with
  | none => (q, s)
  | some _ =>
    match q.handle.connection? with
    | some c => (q.dropStatement, (s.closeStatement c).2)
    | none => (q.dropStatement, s)

/-- Releases the statement, then closes the connection if it is the query's own. -/
def close (q : Query) (s : Session) : Query × Session :=
  let (q, s) := q.release s
  match q.handle with
  | .owned d (some c) => ({ q with handle := .owned d none }, (s.close c).2)
  | .owned _ none => (q, s)
  | .borrowed _ => (q, s)

/-- Prepares a statement, binds the parameters and runs it by `exec`.  The query holds the
statement afterwards, even if it failed. -/
def execute {α : Type} (exec : Session → Connection → Statement → Result α × Session)
    (q : Query) (s : Session) (sql : String) (params : List Value) :
    Result α × Query × Session :=
  let (q, s) := q.release s
  match q.handle.get with
  | .error e => (.error e, q, s)
  | .ok c =>
    match s.prepare c sql with
    | (.error e, s) => (.error e, q, s)
    | (.ok statement, s) =>
      let statement := statement.bind params
      let (answer, s) := exec s c statement
      (answer, { q with statement := some statement }, s)

/-- Runs a statement that returns no rows. -/
def runUpdate : Query → Session → String → List Value → Result UInt64 × Query × Session :=
  execute Session.update

/-- Runs a statement that returns rows, under the tracer of the query if it has one. -/
def runQuery (q : Query) : Session → String → List Value → Result ResultSet × Query × Session :=
  match q.tracer with
  | some t => execute (Session.queryBy t) q
  | none => execute Session.query q

/-- Tracing makes no difference to what is read. -/
theorem runQuery_eq (q : Query) : q.runQuery = execute Session.query q := by
  rw [runQuery]
  cases q.tracer with
  | none => rfl
  | some t => simp only [Session.queryBy_eq]

/-- Closes the query after work on it. -/
def closing {α : Type} (work : Result α × Query × Session) : Result α × Query × Session :=
  let (answer, q, s) := work
  let (q, s) := q.close s
  (answer, q, s)

/-- Forgets columns, clauses, values and paging; opens a new connection if the query has
closed its own. -/
def reset (q : Query) (s : Session) : Result Unit × Query × Session :=
  let (q, s) := q.release s
  let q := q.cleared
  match q.handle with
  | .owned d none =>
    match d.connect s with
    | (.ok c, s) => (.ok (), { q with handle := .owned d (some c) }, s)
    | (.error e, s) => (.error e, q, s)
  | .owned _ (some _) => (.ok (), q, s)
  | .borrowed _ => (.ok (), q, s)

/-- The SQL of an INSERT and its parameters. -/
def insertion (q : Query) (values : Row) : Result (String × List Value) := do
  let sql ← q.insertSql
  let params ← q.columnParams values
  return (sql, params)

/-- The SQL of an UPDATE and its parameters: the values of the columns, then those of the
condition. -/
def modification (q : Query) (values : Row) : Result (String × List Value) := do
  let sql ← q.updateSql
  let params ← q.columnParams values
  return (sql, params ++ q.binds)

/-- Runs a statement that changes rows once it could be built. -/
def runBuilt (q : Query) (s : Session) (built : Result (String × List Value)) :
    Result UInt64 × Query × Session :=
  match built with
  | .ok (sql, params) => q.runUpdate s sql params
  | .error e => (.error e, q, s)

/-- Inserts a row. -/
def insert (q : Query) (s : Session) (values : Row) : Result UInt64 × Query × Session :=
  closing (q.runBuilt s (q.insertion values))

/-- Updates the rows of the condition. -/
def update (q : Query) (s : Session) (values : Row) : Result UInt64 × Query × Session :=
  closing (q.runBuilt s (q.modification values))

/-- Deletes the rows of the condition. -/
def delete (q : Query) (s : Session) : Result UInt64 × Query × Session :=
  closing (q.runUpdate s q.deleteSql q.binds)

/-- Runs a statement of the caller that changes rows. -/
def executeUpdate (q : Query) (s : Session) (sql : String) : Result UInt64 × Query × Session :=
  closing (q.runUpdate s sql q.binds)

/-- The number in the first cell of the first row; a negative one counts as zero. -/
def countOf (sql : String) (r : ResultSet) : Result UInt64 :=
  match (r.rows.head?.bind List.head?).bind Value.asLong? with
  | some n => .ok (UInt64.ofNat n.toInt.toNat)
  | none => .error (.query (.noCount sql))

/-- Counts the rows of the SELECT.  The statement is released, the connection stays open. -/
def count (q : Query) (s : Session) : Result UInt64 × Query × Session :=
  let sql := q.countSql
  let (answer, q, s) := q.runQuery s sql q.binds
  let (q, s) := q.release s
  (answer.bind (countOf sql), q, s)

/-- Opens a cursor on the rows of a statement of the caller. -/
def openCursor (q : Query) (s : Session) (sql : String) : Result Cursor × Query × Session :=
  let (answer, q, s) := q.runQuery s sql q.binds
  (answer.map Cursor.start, q, s)

/-- Opens a cursor, does actions with it, and closes the query at its end.  If no cursor
could be opened, the query stays open. -/
def withCursor (q : Query) (s : Session) (sql : String) (actions : List Cursor.Action) :
    Result (List Cursor.Answer) × Query × Session :=
  match q.openCursor s sql with
  | (.error e, q, s) => (.error e, q, s)
  | (.ok cursor, q, s) => closing (.ok (cursor.play q actions), q, s)

/-- Reads the rows of the SELECT, and closes the query if a cursor could be opened. -/
def allRows (q : Query) (s : Session) : Result (List Row) × Query × Session :=
  match q.openCursor s q.selectSql with
  | (.error e, q, s) => (.error e, q, s)
  | (.ok cursor, q, s) => closing (cursor.intoRows q, q, s)

/-- The total of a page, if it is known or could be counted. -/
def total (q : Query) (s : Session) (known : Option UInt64) : Result UInt64 × Query × Session :=
  match known with
  | some n => (.ok n, q, s)
  | none => q.count s

/-- Fetches `size` rows from `offset` on. -/
def fetchPage (q : Query) (s : Session) (known : Option UInt64) (offset size : UInt64) :
    Result (Page Row) × Query × Session :=
  match q.total s known with
  | (.error e, q, s) => (.error e, q, s)
  | (.ok total, q, s) =>
    let (rows, q, s) := ((q.setOffset (some offset)).setLimit (some size)).allRows s
    (rows.map (⟨·, total⟩), q, s)

/-- Fetches a page and closes the query. -/
def selectPage (q : Query) (s : Session) (known : Option UInt64) (offset size : UInt64) :
    Result (Page Row) × Query × Session :=
  closing (q.fetchPage s known offset size)

/-! ### Operations as values -/

/-- What a caller does with a query. -/
inductive Operation where
  | addColumn (property : String) (column : Column)
  | addColumns (columns : List Column)
  | setTable (table : String)
  | addJoin (table : String)
  | setDistinct (distinct : Bool)
  | setWhere (clause : String)
  | setSupplement (clause : String)
  | setOffset (offset : Option UInt64)
  | setLimit (limit : Option UInt64)
  | addBind (type : ColumnType) (v : Value)
  | setBinds (b : Binds)
  | reset
  | close
  | insert (values : Row)
  | update (values : Row)
  | delete
  | executeUpdate (sql : String)
  | count
  | select (actions : List Cursor.Action)
  | executeQuery (sql : String) (actions : List Cursor.Action)
  | selectPage (known : Option UInt64) (offset size : UInt64)

/-- What an operation gives. -/
inductive Answer where
  | done
  | failed (e : Error)
  | affected (n : UInt64)
  | counted (n : UInt64)
  | cursor (answers : List Cursor.Answer)
  | page (p : Page Row)

/-- The answer for a result. -/
def answerOf {α : Type} (answer : α → Answer) (work : Result α × Query × Session) :
    Answer × Query × Session :=
  match work with
  | (.ok a, q, s) => (answer a, q, s)
  | (.error e, q, s) => (.failed e, q, s)

/-- Does one operation. -/
def step (op : Operation) (q : Query) (s : Session) : Answer × Query × Session :=
  match op with
  | .addColumn property column => (.done, q.addColumn property column, s)
  | .addColumns columns => (.done, q.addColumns columns, s)
  | .setTable table => (.done, q.setTable table, s)
  | .addJoin table => (.done, q.addJoin table, s)
  | .setDistinct distinct => (.done, q.setDistinct distinct, s)
  | .setWhere clause => (.done, q.setWhere clause, s)
  | .setSupplement clause => (.done, q.setSupplement clause, s)
  | .setOffset offset => (.done, q.setOffset offset, s)
  | .setLimit limit => (.done, q.setLimit limit, s)
  | .addBind type v =>
    match q.addBind type v with
    | .ok q => (.done, q, s)
    | .error e => (.failed e, q, s)
  | .setBinds b =>
    let (answer, q) := q.setBinds b
    answerOf (fun _ => .done) (answer, q, s)
  | .reset => answerOf (fun _ => .done) (q.reset s)
  | .close =>
    let (q, s) := q.close s
    (.done, q, s)
  | .insert values => answerOf .affected (q.insert s values)
  | .update values => answerOf .affected (q.update s values)
  | .delete => answerOf .affected (q.delete s)
  | .executeUpdate sql => answerOf .affected (q.executeUpdate s sql)
  | .count => answerOf .counted (q.count s)
  | .select actions => answerOf .cursor (q.withCursor s q.selectSql actions)
  | .executeQuery sql actions => answerOf .cursor (q.withCursor s sql actions)
  | .selectPage known offset size => answerOf .page (q.selectPage s known offset size)

end SqlAccess.Query

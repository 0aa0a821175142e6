/-
An SQLite connection.

What the SQLite library does with a statement is not said here.  It is given by its
answers on each database (`Answers`), and an answer may depend on all that was run
on the connection before.  What the driver makes of the answers is said: which
database a connection string names, what is run when a connection is opened, how values are
bound and read, and what is refused once the connection is closed.
-/
import SqlAccess.Error
import SqlAccess.Sqlite.Cell
import SqlAccess.Statement
import SqlAccess.Text.Split

namespace SqlAccess.Sqlite

/-- What the library is asked to run: a statement with its parameters. -/
inductive Request where
  /-- As a statement without rows. -/
  | execute (sql : String) (params : List Cell)
  /-- As a statement with rows. -/
  | query (sql : String) (params : List Cell)
  deriving DecidableEq

/-- What the library answers on a database, after what it was asked to run there, the latest
first.  An answer is missing where the library has an error. -/
structure Answers where
  /-- The labels of the columns of a statement. -/
  prepare : List Request → String → Option (List String)
  /-- The number of rows that a statement changes. -/
  execute : List Request → String → List Cell → Option UInt64
  /-- The rows of a statement. -/
  query : List Request → String → List Cell → Option (List (List Cell))

/-- A database that the library has opened, and what it was asked to run there. -/
structure Store where
  answers : Answers
  past : List Request

namespace Store

/-- An answer of the library; one that is missing is its error. -/
def answer {α : Type} : Option α → Result α
  | some a => .ok a
  | none => .error .sqlite

/-- The labels of the columns of a statement. -/
def prepare (s : Store) (sql : String) : Result (List String) :=
  answer (s.answers.prepare s.past sql)

/-- Runs a statement without rows. -/
def execute (s : Store) (sql : String) (params : List Cell) : Result UInt64 × Store :=
  (answer (s.answers.execute s.past sql params), { s with past := .execute sql params :: s.past })

/-- Runs a statement with rows. -/
def query (s : Store) (sql : String) (params : List Cell) : Result (List (List Cell)) × Store :=
  (answer (s.answers.query s.past sql params), { s with past := .query sql params :: s.past })

end Store

/-- A connection to a database, or one that is closed. -/
structure Engine where
  store : Option Store

namespace Engine

/-- Whether the connection is closed. -/
def isClosed (e : Engine) : Bool := e.store.isNone

/-- The database of an open connection. -/
def store? (e : Engine) : Result Store :=
  match e.store with
  | some s => .ok s
  | none => .error (.connection .notConnected)

/-- The statement with a text, if the library can prepare it. -/
def prepare (e : Engine) (sql : String) : Result Statement := do
  let store ← e.store?
  let _ ← store.prepare sql
  return ⟨sql, []⟩

/-- A prepared statement is the text that was asked for, without parameters. -/
theorem prepare_eq_ok {e : Engine} {sql : String} {st : Statement} (h : e.prepare sql = .ok st) :
    st = ⟨sql, []⟩ := by
  rw [prepare] at h
  obtain ⟨store, -, h⟩ := bind_eq_ok h
  obtain ⟨labels, -, h⟩ := bind_eq_ok h
  cases h
  rfl

/-- The database of an open connection and the labels of a statement there. -/
def parsed (e : Engine) (st : Statement) : Result (Store × List String) := do
  let store ← e.store?
  return (store, ← store.prepare st.sql)

/-- Runs a statement that returns no rows, and gives the number of rows changed. -/
def update (e : Engine) (st : Statement) : Result UInt64 × Engine :=
  match e.parsed st with
  | .error err => (.error err, e)
  | .ok (store, _) =>
    let (affected, store) := store.execute st.sql (st.params.map Cell.ofValue)
    (affected, ⟨some store⟩)

/-- Runs a statement and gives its rows. -/
def query (e : Engine) (st : Statement) : Result ResultSet × Engine :=
  match e.parsed st with
  | .error err => (.error err, e)
  | .ok (store, labels) =>
    let (rows, store) := store.query st.sql (st.params.map Cell.ofValue)
    (rows.map fun rows => ⟨labels, rows.map (·.map Cell.toValue)⟩, ⟨some store⟩)

/-- Closes the connection; closing it again changes nothing. -/
def close (_ : Engine) : Engine := ⟨none⟩

/-- The connection as it is shown in logs. -/
def inspect (e : Engine) : String :=
  Text.inspectRecord "SqliteConnection" [("closed", Text.inspectFlag e.isClosed)]

end Engine

/-- Where a database lies. -/
inductive Location where
  | memory
  | file (path : String)
  deriving DecidableEq, Repr

/-- The location that a connection string names. -/
def Location.ofUrl (url : String) : Location :=
  let path := (Text.stripPrefix? "sqlite:".toList url.toList).getD url.toList
  if path = [] ∨ path = ":memory:".toList then memory else file (String.ofList path)

/-- What is run on every connection that is opened: rows must refer to rows that there are. -/
def foreignKeys : String := "PRAGMA foreign_keys = ON"

/-- Opens a connection to the database that a connection string names, among those that the
library can open. -/
def openUrl (databases : Location → Option Answers) (url : String) : Result Engine := do
  let answers ← Store.answer (databases (Location.ofUrl url))
  let (done, store) := Store.execute ⟨answers, []⟩ foreignKeys []
  let _ ← done
  return ⟨some store⟩

end SqlAccess.Sqlite

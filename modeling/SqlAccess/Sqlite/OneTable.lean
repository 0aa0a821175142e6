/-
A small SQLite database.

The library's answers on a database that has at most one table `t` with one column `v`.
Five statements are known besides the one that every connection runs: they make
the table, store a value, list the values, and hand parameters back.  Any other
statement is refused, as is one with the wrong number of parameters.  The state of the
database is what the requests so far have left.
-/
import SqlAccess.Sqlite.Engine
import SqlAccess.Sqlite.RealText

namespace SqlAccess.Sqlite

/-- The cell as a text cell: the bytes of a blob become those of the text. -/
def Cell.castText : Cell → Cell
  | null => null
  | integer n => text (Text.utf8 (Text.signedText n.toInt))
  | real x => text (Text.utf8 (String.ofList (realText x)))
  | text content => text content
  | blob content => text content

namespace OneTable

/-- The statements that are known. -/
inductive Command where
  | foreignKeys
  | create
  | store
  | load
  | echo
  | castText
  deriving DecidableEq, Repr

namespace Command

/-- The text of a statement. -/
def sql : Command → String
  | foreignKeys => Sqlite.foreignKeys
  | create => "CREATE TABLE t (v)"
  | store => "INSERT INTO t VALUES (?)"
  | load => "SELECT v FROM t ORDER BY rowid"
  | echo => "SELECT ?, ?"
  | castText => "SELECT CAST(? AS TEXT)"

/-- All statements. -/
def all : List Command := [foreignKeys, create, store, load, echo, castText]

/-- The statement with a text. -/
def ofSql? (sql : String) : Option Command := all.find? (·.sql == sql)

/-- How many parameters the statement has. -/
def parameters (c : Command) : Nat := placeholderCount c.sql

/-- The labels of the rows that the statement returns. -/
def labels : Command → List String
  | load => ["v"]
  | echo => ["?", "?"]
  | castText => ["CAST(? AS TEXT)"]
  | _ => []

end Command

/-- The cells of the table, once it is made. -/
abbrev Table := Option (List Cell)

/-- The statement with a text, if it can run on the table. -/
def command? (t : Table) (sql : String) : Option Command :=
  match Command.ofSql? sql with
  | some .create => if t.isSome then none else some .create
  | some .store => if t.isSome then some .store else none
  | some .load => if t.isSome then some .load else none
  | c => c

/-- What a statement that ran has done and found. -/
structure Outcome where
  affected : UInt64
  rows : List (List Cell)
  table : Table

/-- Runs a statement with its parameters. -/
def run (t : Table) (c : Command) (params : List Cell) : Option Outcome :=
  let cells := params.map Cell.kept
  if cells.length ≠ c.parameters then none
  else
    match c with
    | .foreignKeys => some ⟨0, [], t⟩
    | .create => some ⟨0, [], some []⟩
    | .store => some ⟨1, [], t.map (· ++ cells)⟩
    | .load => some ⟨0, (t.getD []).map ([·]), t⟩
    | .echo => some ⟨0, [cells], t⟩
    | .castText => some ⟨0, [cells.map Cell.castText], t⟩

/-- Does what is asked.  A statement with columns is refused where no rows are expected. -/
def respond (t : Table) : Request → Option Outcome
  | .execute sql params => do
    let c ← command? t sql
    if c.labels = [] then run t c params else none
  | .query sql params => do
    let c ← command? t sql
    run t c params

/-- The table after a request; one that is refused leaves it as it is. -/
def step (r : Request) (t : Table) : Table := ((respond t r).map (·.table)).getD t

/-- The table after all requests so far, the latest first. -/
def after (past : List Request) : Table := past.foldr step none

/-- The library's answers. -/
def answers : Answers where
  prepare past sql := (command? (after past) sql).map (·.labels)
  execute past sql params := (respond (after past) (.execute sql params)).map (·.affected)
  query past sql params := (respond (after past) (.query sql params)).map (·.rows)

end OneTable

end SqlAccess.Sqlite

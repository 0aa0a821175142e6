/-
SQL dialects, and the expressions that differ between them.
-/
import SqlAccess.Text.Lowercase

namespace SqlAccess

/-- The SQL that a connection speaks. -/
inductive Dialect where
  /-- No engine in particular. -/
  | generic
  | postgres
  /-- MySQL and MariaDB. -/
  | mysql
  | sqlite
  deriving DecidableEq, Repr, Inhabited

namespace Dialect

/-- The name of the dialect. -/
def name : Dialect → String
  | generic => "none"
  | postgres => "postgres"
  | mysql => "mysql"
  | sqlite => "sqlite"

/-- The names that a dialect goes by, in lower case. -/
def names : Dialect → List String
  | generic => ["none"]
  | postgres => ["postgres", "postgresql"]
  | mysql => ["mysql", "mariadb"]
  | sqlite => ["sqlite", "sqlite3"]

/-- All dialects. -/
def all : List Dialect := [generic, postgres, mysql, sqlite]

/-- The dialect with a name, in any case. -/
def ofName? (s : String) : Option Dialect :=
  all.find? fun d => d.names.contains (Text.lowered s)

/-- The complaint about a name that no dialect has. -/
def unknownName (s : String) : String := "Invalid database type: '" ++ s ++ "'"

/-- The expression for the current time on the server.  SQLite has no `NOW()`, and its
expression keeps the milliseconds. -/
def currentTimestamp : Dialect → String
  | sqlite => "strftime('%Y-%m-%d %H:%M:%f', 'now')"
  | _ => "NOW()"

/-- What an insertion writes for a column that the database numbers. -/
def sequenceValue : Dialect → String
  | postgres => "DEFAULT"
  | _ => "NULL"

end Dialect

end SqlAccess

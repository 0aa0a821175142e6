/-
Statements and the rows that they return.
-/
import SqlAccess.Value

namespace SqlAccess

namespace Placeholder

/-- Where the scanner of placeholders stands: between literals or inside one, with the
quote that ends it. -/
abbrev Mode := Option Char

/-- The mode after a character. -/
def step (mode : Mode) (c : Char) : Mode :=
  match mode with
  | some quote => if c = quote then none else some quote
  | none => if c = '\'' ∨ c = '"' then some c else none

/-- How many question marks outside of literals there are, from a mode on. -/
def count (mode : Mode) : List Char → Nat
  | [] => 0
  | c :: cs => (if mode = none ∧ c = '?' then 1 else 0) + count (step mode c) cs

/-- The mode after a text. -/
def stepAll (mode : Mode) (cs : List Char) : Mode := cs.foldl step mode

end Placeholder

/-- How many placeholders an SQL text has. -/
def placeholderCount (sql : String) : Nat := Placeholder.count none sql.toList

/-- An SQL text and the values of its placeholders, in their order. -/
structure Statement where
  sql : String
  params : List Value

namespace Statement

/-- Binds the next placeholders. -/
def bind (s : Statement) (values : List Value) : Statement :=
  { s with params := s.params ++ values }

/-- How many placeholders the statement has. -/
def placeholders (s : Statement) : Nat := placeholderCount s.sql

end Statement

/-- The rows of a query that are not fetched yet. -/
structure ResultSet where
  labels : List String
  rows : List (List Value)
  deriving Inhabited

namespace ResultSet

/-- No columns and no rows. -/
def empty : ResultSet := ⟨[], []⟩

/-- Fetches the next row. -/
def next (r : ResultSet) : Option (List Value) × ResultSet :=
  (r.rows.head?, { r with rows := r.rows.tail })

/-- How many rows are left. -/
def remaining (r : ResultSet) : Nat := r.rows.length

end ResultSet

end SqlAccess

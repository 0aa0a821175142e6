/-
Values for the placeholders of a clause written by hand, with their types.
-/
import SqlAccess.Column
import SqlAccess.Value

namespace SqlAccess

/-- Types and values in the order of the placeholders. -/
structure Binds where
  entries : List (ColumnType × Value)

namespace Binds

/-- Nothing to bind. -/
def empty : Binds := ⟨[]⟩

/-- Adds the value of the next placeholder. -/
def add (b : Binds) (type : ColumnType) (v : Value) : Binds := ⟨b.entries ++ [(type, v)]⟩

/-- How many values there are. -/
def size (b : Binds) : Nat := b.entries.length

/-- Whether there are none. -/
def isEmpty (b : Binds) : Bool := b.entries.isEmpty

/-- The type at an index. -/
def type? (b : Binds) (index : Nat) : Option ColumnType := b.entries[index]?.map (·.1)

/-- The value at an index. -/
def value? (b : Binds) (index : Nat) : Option Value := b.entries[index]?.map (·.2)

/-- Equality of entries, values being compared by `Value.equals`. -/
def equalEntries : List (ColumnType × Value) → List (ColumnType × Value) → Bool
  | [], [] => true
  | (s, v) :: xs, (t, w) :: ys => s == t && v.equals w && equalEntries xs ys
  | _, _ => false

/-- Equality of the values and types in their order. -/
def equals (a b : Binds) : Bool := equalEntries a.entries b.entries

/-- The values added one by one in their order. -/
def rebuild (b : Binds) : Binds := b.entries.foldl (fun b e => b.add e.1 e.2) empty

end Binds

end SqlAccess

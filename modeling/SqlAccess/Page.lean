/-
Pages of results.
-/
import SqlAccess.Value.Wire

namespace SqlAccess

/-- Some items of a result, and how many items the whole result has. -/
structure Page (α : Type) where
  items : List α
  total : UInt64

namespace Page

variable {α β : Type}

/-- No items, of nothing. -/
def empty : Page α := ⟨[], 0⟩

/-- The items alone, the size of the whole being unknown. -/
def ofList (items : List α) : Page α := ⟨items, 0⟩

/-- Adds an item at the end. -/
def push (p : Page α) (item : α) : Page α := { p with items := p.items ++ [item] }

/-- Takes the last item away. -/
def pop (p : Page α) : Page α := { p with items := p.items.dropLast }

/-- Takes all items away. -/
def clear (p : Page α) : Page α := { p with items := [] }

/-- Changes every item and keeps the size of the whole. -/
def map (f : α → β) (p : Page α) : Page β := ⟨p.items.map f, p.total⟩

/-- The page as JSON. -/
def toJson (item : α → Json) (p : Page α) : Json :=
  .object [("items", .array (p.items.map item)), ("total_size", .integer p.total.toNat)]

end Page

/-- A row as JSON, its values in their wire form. -/
def Row.toJson (r : Row) : Json := .object (r.entries.map fun (k, v) => (k, v.toWire))

end SqlAccess

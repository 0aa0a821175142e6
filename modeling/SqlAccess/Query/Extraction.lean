/-
Reading rows.

A cell is converted by the type of the column that its label names: a property
first, the name of a column second, in any case of ASCII letters.  Cells without a
value leave the row as it is.  A cursor holds one row, which every advance clears
and fills again.
-/
import SqlAccess.Query

namespace SqlAccess

namespace Query

/-- The column that a label names. -/
def columnOfLabel? (q : Query) (label : String) : Option Column :=
  ((q.columns.find? fun (p, _) => Text.eqIgnoreAsciiCase p label).or
    (q.columns.find? fun (_, c) => Text.eqIgnoreAsciiCase c.name label)).map (·.2)

/-- The type by which a cell under a label is read. -/
def typeOfLabel (q : Query) (label : String) : ColumnType :=
  match q.columnOfLabel? label with
  | some c => c.type
  | none => .other

/-- Reads cells into a row until one cannot be read; those before it stay in the row. -/
def extractCells (q : Query) : List (String × Value) → Row → Result Unit × Row
  | [], row => (.ok (), row)
  | (label, raw) :: rest, row =>
    match (q.typeOfLabel label).fromSql q.marshaller raw with
    | .error e => (.error e, row)
    | .ok none => q.extractCells rest row
    | .ok (some v) => q.extractCells rest (row.insert label v)

/-- Reads a raw row into a row; labels and cells are paired as far as both go. -/
def extractRow (q : Query) (labels : List String) (raw : List Value) (row : Row) :
    Result Unit × Row :=
  q.extractCells (labels.zip raw) row

end Query

/-- A position in the rows of a query, and the row that was read last. -/
structure Cursor where
  results : ResultSet
  row : Row

namespace Cursor

/-- A cursor before the first row. -/
def start (results : ResultSet) : Cursor := ⟨results, ∅⟩

/-- Reads the next row; false if there is none. -/
def advance (c : Cursor) (q : Query) : Result Bool × Cursor :=
  match c.results.next with
  | (none, results) => (.ok false, ⟨results, ∅⟩)
  | (some raw, results) =>
    match q.extractRow c.results.labels raw ∅ with
    | (.ok (), row) => (.ok true, ⟨results, row⟩)
    | (.error e, row) => (.error e, ⟨results, row⟩)

/-- Reads raw rows, each into a row of its own. -/
def readRows (q : Query) (labels : List String) : List (List Value) → Result (List Row)
  | [] => .ok []
  | raw :: rest =>
    match q.extractRow labels raw ∅ with
    | (.ok (), row) => (readRows q labels rest).map (row :: ·)
    | (.error e, _) => .error e

/-- Reads all rows that are left. -/
def intoRows (c : Cursor) (q : Query) : Result (List Row) :=
  readRows q c.results.labels c.results.rows

/-- What a caller does with a cursor. -/
inductive Action where
  | advance
  | row
  | labels
  /-- Reads all rows that are left, and ends the cursor. -/
  | rows
  /-- Ends the cursor. -/
  | close
  deriving DecidableEq, Repr

/-- What an action gives. -/
inductive Answer where
  | advanced (more : Result Bool) (row : Row)
  | row (row : Row)
  | labels (labels : List String)
  | rows (rows : Result (List Row))
  | closed

/-- Does actions until one ends the cursor. -/
def play (q : Query) : List Action → Cursor → List Answer
  | [], _ => []
  | .advance :: rest, c =>
    let (more, c) := c.advance q
    .advanced more c.row :: play q rest c
  | .row :: rest, c => .row c.row :: play q rest c
  | .labels :: rest, c => .labels c.results.labels :: play q rest c
  | .rows :: _, c => [.rows (c.intoRows q)]
  | .close :: _, _ => [.closed]

end Cursor

end SqlAccess

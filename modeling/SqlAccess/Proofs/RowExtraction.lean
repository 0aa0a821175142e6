/-
What reading a raw row does to a row.

A raw row is read cell by cell, and each cell that gives a value stores it under its label.
`Query.extractCells_eq_ok_iff` and `Query.extractCells_eq_error_iff` say when reading comes to its
end and where it stops: at the first cell that cannot be read, with what the cells before it gave.

Reading depends on the columns and the marshaller of a query and on nothing else
(`Query.ReadsAlike`).
-/
import SqlAccess.Query.Extraction

namespace SqlAccess

/-- Stores what a cell gave under its label, if it gave anything. -/
def Row.store (row : Row) (label : String) : Option Value → Row
  | some v => Dict.insert row label v
  | none => row

theorem Row.get?_store (row : Row) (label : String) (v : Option Value) (key : String) :
    Dict.get? (row.store label v) key =
      if key = label then v.or (row.get? key) else row.get? key := by
  cases v with
  | none => simp [store]
  | some v => simp [store, Dict.get?_insert]

namespace Query

/-- What a cell gives, converted by the type of its label. -/
def readCell (q : Query) (cell : String × Value) : Result (Option Value) :=
  (q.typeOfLabel cell.1).fromSql q.marshaller cell.2

/-- A raw row read into a row of its own. -/
def extracted (q : Query) (labels : List String) (raw : List Value) : Result Row :=
  match q.extractRow labels raw ∅ with
  | (.ok (), row) => .ok row
  | (.error e, _) => .error e

variable {q : Query}

/-! ### Cells -/

theorem extractCells_cons (q : Query) (cell : String × Value) (rest : List (String × Value))
    (row : Row) :
    q.extractCells (cell :: rest) row =
      match q.readCell cell with
      | .ok v => q.extractCells rest (row.store cell.1 v)
      | .error e => (.error e, row) := by
  rw [extractCells, readCell]
  cases (q.typeOfLabel cell.1).fromSql q.marshaller cell.2 with
  | error e => rfl
  | ok v => cases v <;> rfl

theorem extractCells_append (q : Query) (before rest : List (String × Value)) (row : Row) :
    q.extractCells (before ++ rest) row =
      match q.extractCells before row with
      | (.ok (), row) => q.extractCells rest row
      | (.error e, row) => (.error e, row) := by
  induction before generalizing row with
  | nil => rfl
  | cons cell before ih =>
    rw [List.cons_append, extractCells_cons, extractCells_cons]
    cases q.readCell cell with
    | error e => rfl
    | ok v => exact ih (row.store cell.1 v)

/-- Reading comes to its end if and only if every cell can be read. -/
theorem extractCells_eq_ok_iff {cells : List (String × Value)} {row : Row} :
    (q.extractCells cells row).1 = .ok () ↔ ∀ cell ∈ cells, ∃ v, q.readCell cell = .ok v := by
  induction cells generalizing row with
  | nil => simp [extractCells]
  | cons cell cells ih =>
    rw [extractCells_cons, List.forall_mem_cons]
    cases hcell : q.readCell cell with
    | error e => simp
    | ok v => simpa using ih

/-- Reading stops at the first cell that cannot be read; what the cells before it gave stays in
the row, and nothing behind it is read. -/
theorem extractCells_eq_error_iff {cells : List (String × Value)} {row row' : Row} {e : Error} :
    q.extractCells cells row = (.error e, row') ↔
      ∃ before cell rest, cells = before ++ cell :: rest ∧ q.readCell cell = .error e ∧
        q.extractCells before row = (.ok (), row') := by
  constructor
  · intro h
    induction cells generalizing row with
    | nil => cases h
    | cons cell cells ih =>
      rw [extractCells_cons] at h
      cases hcell : q.readCell cell with
      | error e' =>
        rw [hcell] at h
        cases h
        exact ⟨[], cell, cells, rfl, hcell, rfl⟩
      | ok v =>
        rw [hcell] at h
        obtain ⟨before, failing, rest, rfl, hfailing, hbefore⟩ := ih h
        refine ⟨cell :: before, failing, rest, rfl, hfailing, ?_⟩
        rw [extractCells_cons, hcell]
        exact hbefore
  · rintro ⟨before, cell, rest, rfl, hcell, hbefore⟩
    rw [extractCells_append, hbefore]
    simp only [extractCells_cons, hcell]

/-! ### Rows -/

theorem extracted_eq_ok {labels : List String} {raw : List Value} {row : Row} :
    q.extracted labels raw = .ok row ↔ q.extractRow labels raw ∅ = (.ok (), row) := by
  rw [extracted]
  rcases q.extractRow labels raw ∅ with ⟨_ | _, row'⟩
  · simp
  · simp

theorem extracted_eq_error {labels : List String} {raw : List Value} {e : Error} :
    q.extracted labels raw = .error e ↔ ∃ row, q.extractRow labels raw ∅ = (.error e, row) := by
  rw [extracted]
  rcases q.extractRow labels raw ∅ with ⟨_ | _, row'⟩
  · simp
  · simp

/-- Reading rows gives all of them, or the error of the first that cannot be read. -/
theorem readRows_eq_mapM (q : Query) (labels : List String) (rows : List (List Value)) :
    Cursor.readRows q labels rows = rows.mapM (q.extracted labels) := by
  induction rows with
  | nil => rfl
  | cons raw rows ih =>
    rw [Cursor.readRows, List.mapM_cons, ih, extracted]
    rcases q.extractRow labels raw ∅ with ⟨_ | _, row⟩
    · rfl
    · cases rows.mapM (q.extracted labels) <;> rfl

/-! ### What reading depends on -/

/-- Two queries have the same columns and the same marshaller. -/
structure ReadsAlike (q q' : Query) : Prop where
  columns : q'.columns = q.columns
  marshaller : q'.marshaller = q.marshaller

namespace ReadsAlike

variable {q' q'' : Query}

theorem refl (q : Query) : ReadsAlike q q := ⟨rfl, rfl⟩

theorem trans (h : ReadsAlike q q') (h' : ReadsAlike q' q'') : ReadsAlike q q'' :=
  ⟨h'.columns.trans h.columns, h'.marshaller.trans h.marshaller⟩

theorem readCell (h : ReadsAlike q q') (cell : String × Value) :
    q'.readCell cell = q.readCell cell := by
  rw [Query.readCell, Query.readCell, typeOfLabel, typeOfLabel, columnOfLabel?, columnOfLabel?,
    h.columns, h.marshaller]

theorem extractCells (h : ReadsAlike q q') (cells : List (String × Value)) (row : Row) :
    q'.extractCells cells row = q.extractCells cells row := by
  induction cells generalizing row with
  | nil => rfl
  | cons cell cells ih =>
    rw [extractCells_cons, extractCells_cons, h.readCell]
    cases q.readCell cell with
    | error e => rfl
    | ok v => exact ih (row.store cell.1 v)

theorem extractRow (h : ReadsAlike q q') : q'.extractRow = q.extractRow := by
  funext labels raw row
  exact h.extractCells (labels.zip raw) row

theorem extracted (h : ReadsAlike q q') : q'.extracted = q.extracted := by
  funext labels raw
  rw [Query.extracted, Query.extracted, h.extractRow]

theorem readRows (h : ReadsAlike q q') (labels : List String) (rows : List (List Value)) :
    Cursor.readRows q' labels rows = Cursor.readRows q labels rows := by
  rw [readRows_eq_mapM, readRows_eq_mapM, h.extracted]

theorem advance (h : ReadsAlike q q') (cursor : Cursor) : cursor.advance q' = cursor.advance q := by
  rw [Cursor.advance, Cursor.advance, h.extractRow]

theorem play (h : ReadsAlike q q') (actions : List Cursor.Action) (cursor : Cursor) :
    cursor.play q' actions = cursor.play q actions := by
  induction actions generalizing cursor with
  | nil => rfl
  | cons action actions ih =>
    cases action with
    | advance => simp only [Cursor.play, h.advance, ih]
    | row => simp only [Cursor.play, ih]
    | labels => simp only [Cursor.play, ih]
    | rows => simp only [Cursor.play, Cursor.intoRows, h.readRows]
    | close => rfl

end ReadsAlike

end Query

end SqlAccess

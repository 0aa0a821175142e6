/-
Rows by their labels.

A raw row is read under the labels of its cells.  The labels need not be those of the query: a join
may give one twice, a cell may hold nothing, and there may be more labels than cells or more cells
than labels.  `Query.last_value_wins` says what the row holds when reading has come to its end:
under each label the last value that a cell of the label has given, and where there is none what
the row held before.

The type of a cell depends on its label alone (`Query.ReadsAs`), and places are those of the labels
and the cells as far as both go (`Query.Converts`).
-/
import SqlAccess.Proofs.RowExtraction

namespace SqlAccess.Query

/-- The type by which the cells of a label are read. -/
inductive ReadsAs (q : Query) (label : String) : ColumnType → Prop
  /-- The label is a property, up to the case of ASCII letters; the first counts. -/
  | property {before after : List (String × Column)} {e : String × Column}
    (columns : q.columns = before ++ e :: after)
    (same : Text.eqIgnoreAsciiCase e.1 label = true)
    (first : ∀ e' ∈ before, ¬ Text.eqIgnoreAsciiCase e'.1 label = true) :
    ReadsAs q label e.2.type
  /-- The label is no property but the name of a column; the first counts. -/
  | name {before after : List (String × Column)} {e : String × Column}
    (noProperty : ∀ e' ∈ q.columns, ¬ Text.eqIgnoreAsciiCase e'.1 label = true)
    (columns : q.columns = before ++ e :: after)
    (same : Text.eqIgnoreAsciiCase e.2.name label = true)
    (first : ∀ e' ∈ before, ¬ Text.eqIgnoreAsciiCase e'.2.name label = true) :
    ReadsAs q label e.2.type
  | unknown (noProperty : ∀ e ∈ q.columns, ¬ Text.eqIgnoreAsciiCase e.1 label = true)
    (noName : ∀ e ∈ q.columns, ¬ Text.eqIgnoreAsciiCase e.2.name label = true) :
    ReadsAs q label .other

/-- A label and a cell stand at a place, and the conversion of the cell comes to a result. -/
inductive Converts (q : Query) (labels : List String) (raw : List Value) (i : Nat)
    (label : String) : Result (Option Value) → Prop
  | intro {cell : Value} {type : ColumnType} (labelled : labels[i]? = some label)
    (present : raw[i]? = some cell) (reads : q.ReadsAs label type) :
    Converts q labels raw i label (type.fromSql q.marshaller cell)

variable {q : Query} {labels : List String} {raw : List Value} {row row' : Row} {key : String}

/-! ### Labels -/

theorem typeOfLabel_eq (q : Query) (label : String) :
    q.typeOfLabel label =
      (((q.columns.find? fun e => Text.eqIgnoreAsciiCase e.1 label).or
        (q.columns.find? fun e => Text.eqIgnoreAsciiCase e.2.name label)).map (·.2.type)).getD
          .other := by
  rw [typeOfLabel, columnOfLabel?]
  cases (q.columns.find? fun e => Text.eqIgnoreAsciiCase e.1 label).or
    (q.columns.find? fun e => Text.eqIgnoreAsciiCase e.2.name label) <;> rfl

theorem find?_eq_some_iff_first {α : Type} {p : α → Bool} {xs : List α} {x : α} :
    xs.find? p = some x ↔
      p x = true ∧ ∃ before after, xs = before ++ x :: after ∧ ∀ y ∈ before, ¬ p y = true := by
  simp [List.find?_eq_some_iff_append]

/-- Every label is read by one type. -/
theorem readsAs_iff {label : String} {type : ColumnType} :
    q.ReadsAs label type ↔ q.typeOfLabel label = type := by
  rw [typeOfLabel_eq]
  constructor
  · intro h
    cases h with
    | @property before after e hcolumns hsame hfirst =>
      have hfind : (q.columns.find? fun e => Text.eqIgnoreAsciiCase e.1 label) = some e :=
        find?_eq_some_iff_first.2 ⟨hsame, before, after, hcolumns, hfirst⟩
      rw [hfind]
      rfl
    | @name before after e hnone hcolumns hsame hfirst =>
      have hfind : (q.columns.find? fun e => Text.eqIgnoreAsciiCase e.2.name label) = some e :=
        find?_eq_some_iff_first.2 ⟨hsame, before, after, hcolumns, hfirst⟩
      rw [List.find?_eq_none.2 hnone, hfind]
      rfl
    | unknown hproperty hname =>
      rw [List.find?_eq_none.2 hproperty, List.find?_eq_none.2 hname]
      rfl
  · rintro rfl
    cases hproperty : q.columns.find? fun e => Text.eqIgnoreAsciiCase e.1 label with
    | some e =>
      obtain ⟨hsame, before, after, hcolumns, hfirst⟩ := find?_eq_some_iff_first.1 hproperty
      exact .property hcolumns hsame hfirst
    | none =>
      have hnone := List.find?_eq_none.1 hproperty
      cases hname : q.columns.find? fun e => Text.eqIgnoreAsciiCase e.2.name label with
      | some e =>
        obtain ⟨hsame, before, after, hcolumns, hfirst⟩ := find?_eq_some_iff_first.1 hname
        exact .name hnone hcolumns hsame hfirst
      | none => exact .unknown hnone (List.find?_eq_none.1 hname)

/-! ### Last values -/

/-- What a cell gives to a key: its value, if it has one and the key is its label. -/
def given? (q : Query) (key : String) (cell : String × Value) : Option Value :=
  if cell.1 = key then (q.readCell cell).toOption.join else none

theorem given?_eq_some {cell : String × Value} {v : Value} :
    q.given? key cell = some v ↔ cell.1 = key ∧ q.readCell cell = .ok (some v) := by
  rw [given?]
  split
  · next hkey =>
    cases q.readCell cell <;> simp [Except.toOption, hkey]
  · next hkey => simp [hkey]

/-- The last value that cells give to a key. -/
def lastGiven? (q : Query) (key : String) (cells : List (String × Value)) : Option Value :=
  cells.reverse.findSome? (q.given? key)

theorem lastGiven?_cons (q : Query) (key : String) (cell : String × Value)
    (cells : List (String × Value)) :
    q.lastGiven? key (cell :: cells) = (q.lastGiven? key cells).or (q.given? key cell) := by
  rw [lastGiven?, List.reverse_cons, List.findSome?_append, List.findSome?_singleton, lastGiven?]

/-- A row that was read holds the last values, and elsewhere what it held before. -/
theorem get?_of_extractCells {cells : List (String × Value)}
    (h : q.extractCells cells row = (.ok (), row')) (key : String) :
    Dict.get? row' key = (q.lastGiven? key cells).or (row.get? key) := by
  induction cells generalizing row with
  | nil =>
    cases h
    rfl
  | cons cell cells ih =>
    rw [extractCells_cons] at h
    cases hcell : q.readCell cell with
    | error e =>
      rw [hcell] at h
      cases h
    | ok v =>
      rw [hcell] at h
      -- the cell is stored first, so what the rest gives goes over it
      have hgiven : q.given? key cell = if cell.1 = key then v else none := by
        rw [given?, hcell]
        rfl
      rw [ih h, lastGiven?_cons, Option.or_assoc, Row.get?_store, hgiven]
      by_cases hkey : cell.1 = key
      · rw [if_pos hkey, if_pos hkey.symm]
      · rw [if_neg hkey, if_neg (Ne.symm hkey), Option.none_or]

theorem lastGiven?_eq_none {cells : List (String × Value)} :
    q.lastGiven? key cells = none ↔
      ∀ (i : Nat) cell, cells[i]? = some cell → q.given? key cell = none := by
  rw [lastGiven?, List.findSome?_eq_none_iff]
  constructor
  · intro h i cell hi
    exact h cell (List.mem_reverse.2 (List.mem_of_getElem? hi))
  · intro h cell hcell
    obtain ⟨i, hi⟩ := List.mem_iff_getElem?.1 (List.mem_reverse.1 hcell)
    exact h i cell hi

/-- The last value is given at a place behind which there is no other. -/
theorem lastGiven?_eq_some {cells : List (String × Value)} {v : Value} :
    q.lastGiven? key cells = some v ↔
      ∃ (i : Nat) (cell : String × Value), cells[i]? = some cell ∧ q.given? key cell = some v ∧
        ∀ (j : Nat) cell', i < j → cells[j]? = some cell' → q.given? key cell' = none := by
  induction cells with
  | nil => simp [lastGiven?]
  | cons first cells ih =>
    -- the places behind the first are those of the rest, each one further on
    rw [lastGiven?_cons, Option.or_eq_some_iff, ih, lastGiven?_eq_none]
    constructor
    · rintro (⟨i, cell, hi, hv, hlater⟩ | ⟨hnone, hv⟩)
      · refine ⟨i + 1, cell, hi, hv, fun j cell' hj hget => ?_⟩
        obtain ⟨j, rfl⟩ := Nat.exists_eq_add_one.2 (Nat.zero_lt_of_lt hj)
        exact hlater j cell' (Nat.lt_of_succ_lt_succ hj) hget
      · refine ⟨0, first, rfl, hv, fun j cell' hj hget => ?_⟩
        obtain ⟨j, rfl⟩ := Nat.exists_eq_add_one.2 hj
        exact hnone j cell' hget
    · rintro ⟨i, cell, hi, hv, hlater⟩
      cases i with
      | zero =>
        cases hi
        exact .inr ⟨fun j cell' => hlater (j + 1) cell' (Nat.succ_pos j), hv⟩
      | succ i =>
        exact .inl ⟨i, cell, hi, hv, fun j cell' hj =>
          hlater (j + 1) cell' (Nat.succ_lt_succ hj)⟩

/-! ### Places -/

/-- A conversion is that of a cell with its label. -/
theorem converts_iff {i : Nat} {label : String} {r : Result (Option Value)} :
    q.Converts labels raw i label r ↔
      ∃ cell, (labels.zip raw)[i]? = some (label, cell) ∧ q.readCell (label, cell) = r := by
  constructor
  · rintro ⟨hlabel, hcell, hreads⟩
    refine ⟨_, List.getElem?_zip_eq_some.2 ⟨hlabel, hcell⟩, ?_⟩
    rw [readCell, readsAs_iff.1 hreads]
  · rintro ⟨cell, hplace, rfl⟩
    obtain ⟨hlabel, hcell⟩ := List.getElem?_zip_eq_some.1 hplace
    exact .intro hlabel hcell (readsAs_iff.2 rfl)

/-- A value is given to a label where a cell of the label has it. -/
theorem converts_some_iff {i : Nat} {v : Value} :
    q.Converts labels raw i key (.ok (some v)) ↔
      ∃ cell, (labels.zip raw)[i]? = some cell ∧ q.given? key cell = some v := by
  rw [converts_iff]
  constructor
  · rintro ⟨cell, hplace, hread⟩
    exact ⟨(key, cell), hplace, given?_eq_some.2 ⟨rfl, hread⟩⟩
  · rintro ⟨⟨label, cell⟩, hplace, hgiven⟩
    obtain ⟨rfl, hread⟩ := given?_eq_some.1 hgiven
    exact ⟨cell, hplace, hread⟩

theorem not_converts_iff {i : Nat} :
    (∀ w, ¬ q.Converts labels raw i key (.ok (some w))) ↔
      ∀ cell, (labels.zip raw)[i]? = some cell → q.given? key cell = none := by
  constructor
  · intro h cell hplace
    rw [Option.eq_none_iff_forall_ne_some]
    exact fun w hw => h w (converts_some_iff.2 ⟨cell, hplace, hw⟩)
  · intro h w hw
    obtain ⟨cell, hplace, hgiven⟩ := converts_some_iff.1 hw
    rw [h cell hplace] at hgiven
    cases hgiven

/-- **The last value of a label wins.**  A label is read by the type of one column, or of none;
reading comes to its end if every cell converts by the type of its label; and then the row holds
under each label the value of the last place where a cell of the label has one, or what it held
before if there is no such place. -/
theorem last_value_wins (q : Query) (labels : List String) (raw : List Value) (row : Row) :
    (∀ label type, q.ReadsAs label type ↔ q.typeOfLabel label = type) ∧
      ((q.extractRow labels raw row).1 = .ok () ↔
        ∀ i label r, q.Converts labels raw i label r → ∃ v, r = .ok v) ∧
      ((q.extractRow labels raw row).1 = .ok () → ∀ key v,
        Dict.get? (q.extractRow labels raw row).2 key = some v ↔
          (∃ i, q.Converts labels raw i key (.ok (some v)) ∧
            ∀ j w, i < j → ¬ q.Converts labels raw j key (.ok (some w))) ∨
          (∀ i w, ¬ q.Converts labels raw i key (.ok (some w))) ∧ row.get? key = some v) := by
  refine ⟨fun label type => readsAs_iff, ?_, fun h key v => ?_⟩
  · rw [extractRow, extractCells_eq_ok_iff]
    constructor
    · intro h i label r hr
      obtain ⟨cell, hplace, rfl⟩ := converts_iff.1 hr
      exact h (label, cell) (List.mem_of_getElem? hplace)
    · rintro h ⟨label, cell⟩ hmem
      obtain ⟨i, hplace⟩ := List.mem_iff_getElem?.1 hmem
      exact h i label _ (converts_iff.2 ⟨cell, hplace, rfl⟩)
  · have hread : q.extractRow labels raw row = (.ok (), (q.extractRow labels raw row).2) :=
      Prod.ext h rfl
    rw [get?_of_extractCells hread, Option.or_eq_some_iff, lastGiven?_eq_some, lastGiven?_eq_none]
    refine or_congr (exists_congr fun i => ?_)
      (and_congr_left fun _ => forall_congr' fun i => not_converts_iff.symm)
    rw [converts_some_iff]
    constructor
    · rintro ⟨cell, hplace, hv, hlater⟩
      refine ⟨⟨cell, hplace, hv⟩, fun j w hj => ?_⟩
      exact not_converts_iff.2 (fun cell' => hlater j cell' hj) w
    · rintro ⟨⟨cell, hplace, hv⟩, hlater⟩
      exact ⟨cell, hplace, hv, fun j cell' hj => not_converts_iff.1 (fun w => hlater j w hj) cell'⟩

/-- A label that is given twice, in two cases of its letters, and a third time without a value; one
that is the name of a column; and more labels than cells. -/
theorem last_value_wins_of_join :
    let columns : List (String × Column) :=
      [("id", .plain "hand" .integer), ("seat", .plain "ID" .other)]
    let q : Query := { fresh (.borrowed ⟨0, .scripted, .generic⟩) "hands" .json none with columns }
    let labels := ["HAND", "ID", "id", "id", "id", "name"]
    let raw : List Value := [.text "007", .text "9", .text "1", .long 4294967298, .null]
    let row : Row := .ofList [("id", .text "old"), ("name", .text "ann")]
    let read := q.extractRow labels raw row
    read.1 = .ok () ∧ Dict.get? read.2 "HAND" = some (.int 7) ∧
      Dict.get? read.2 "ID" = some (.int 9) ∧ Dict.get? read.2 "id" = some (.int 2) ∧
      Dict.get? read.2 "name" = some (.text "ann") := by
  intro columns q labels raw row read
  obtain ⟨-, -, hkeys⟩ := last_value_wins q labels raw row
  have hdone : read.1 = .ok () := rfl
  have hzip : labels.zip raw = [("HAND", .text "007"), ("ID", .text "9"), ("id", .text "1"),
    ("id", .long 4294967298), ("id", .null)] := rfl
  have hplace : q.Converts labels raw 3 "id" (.ok (some (.int 2))) :=
    converts_iff.2 ⟨.long 4294967298, rfl, rfl⟩
  have hlast : ∀ j w, 3 < j → ¬ q.Converts labels raw j "id" (.ok (some w)) := by
    intro j w hj h
    obtain ⟨cell, hplace, hread⟩ := converts_iff.1 h
    rw [hzip] at hplace
    match j, hj with
    | 4, _ =>
      cases hplace
      cases hread
    | j + 5, _ => cases hplace
  have hname : ∀ i w, ¬ q.Converts labels raw i "name" (.ok (some w)) := by
    intro i w h
    obtain ⟨cell, hplace, -⟩ := converts_iff.1 h
    rw [hzip] at hplace
    simpa using List.mem_of_getElem? hplace
  refine ⟨hdone, rfl, rfl, ?_, ?_⟩
  · exact (hkeys hdone "id" (.int 2)).2 (.inl ⟨3, hplace, hlast⟩)
  · exact (hkeys hdone "name" (.text "ann")).2 (.inr ⟨hname, rfl⟩)

end SqlAccess.Query

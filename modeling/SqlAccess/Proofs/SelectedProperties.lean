/-
Reading back the properties that a SELECT asks for.

The SELECT of a query labels every column with its property.  The label is looked up without
regard to the case of ASCII letters, so a cell is converted for the first property that is the
same in this sense (`Query.leaders`), and stored under its own property.  A property is never
taken for the name of a column, not even of one that is called like it.

`Query.properties_read_by_leaders` compares the look-up with a reader that knows the columns by
their places (`Query.readByPlace`).  If no two properties differ in the case of letters alone,
each leads itself; `Query.property_misread` shows two that do.
-/
import SqlAccess.Proofs.ColumnList

namespace SqlAccess.Query

/-- The column by which a property is read. -/
def leader (q : Query) (e : String × Column) : Column :=
  ((q.columns.find? fun e' => Text.eqIgnoreAsciiCase e'.1 e.1).getD e).2

/-- The properties with the columns by which they are read. -/
def leaders (q : Query) : List (String × Column) := q.columns.map fun e => (e.1, q.leader e)

/-- Reads cells by their places: each is converted for the column at its place and stored under
the property there, until one cannot be read. -/
def readByPlace (m : Marshaller) :
    List (String × Column) → List Value → Row → Result Unit × Row
  | (property, c) :: columns, raw :: rest, row =>
    match c.type.fromSql m raw with
    | .ok v => readByPlace m columns rest (row.store property v)
    | .error e => (.error e, row)
  | [], _, row => (.ok (), row)
  | _, [], row => (.ok (), row)

variable {q : Query}

/-! ### Leaders -/

/-- The leader of a property is the first that is the same up to the case of ASCII letters. -/
theorem leader_place {i : Nat} {e : String × Column} (hi : q.columns[i]? = some e) :
    ∃ j e', j ≤ i ∧ q.columns[j]? = some e' ∧ Text.eqIgnoreAsciiCase e'.1 e.1 = true ∧
      (∀ k e'', k < j → q.columns[k]? = some e'' →
        Text.eqIgnoreAsciiCase e''.1 e.1 = false) ∧ q.leader e = e'.2 := by
  have hsome : (q.columns.find? fun e' => Text.eqIgnoreAsciiCase e'.1 e.1).isSome = true :=
    List.find?_isSome.2 ⟨e, List.mem_of_getElem? hi, Text.eqIgnoreAsciiCase_refl e.1⟩
  obtain ⟨e', he'⟩ := Option.isSome_iff_exists.1 hsome
  obtain ⟨hsame, j, hj, hget, hfirst⟩ := List.find?_eq_some_iff_getElem.1 he'
  refine ⟨j, e', ?_, List.getElem?_eq_some_iff.2 ⟨hj, hget⟩, hsame, ?_, ?_⟩
  · -- the property itself stands at `i`, so its leader does not stand behind it
    refine Nat.le_of_not_lt fun hlt => ?_
    obtain ⟨hi', hget'⟩ := List.getElem?_eq_some_iff.1 hi
    have hnot := hfirst i hlt
    rw [hget', Text.eqIgnoreAsciiCase_refl] at hnot
    cases hnot
  · intro k e'' hk hget''
    obtain ⟨hk', rfl⟩ := List.getElem?_eq_some_iff.1 hget''
    simpa using hfirst k hk
  · rw [leader, he']
    rfl

theorem leaders_getElem? {i : Nat} {e : String × Column} (hi : q.columns[i]? = some e) :
    q.leaders[i]? = some (e.1, q.leader e) := by
  rw [leaders, List.getElem?_map, hi]
  rfl

/-- Among properties that differ by more than case each leads itself. -/
theorem leaders_eq_columns
    (h : q.columns.Pairwise fun e e' => Text.eqIgnoreAsciiCase e.1 e'.1 = false) :
    q.leaders = q.columns := by
  refine List.ext_getElem? fun i => ?_
  cases hi : q.columns[i]? with
  | none => rw [leaders, List.getElem?_map, hi, Option.map_none]
  | some e =>
    obtain ⟨j, e', hji, hj, hsame, -, hleader⟩ := leader_place hi
    rw [leaders_getElem? hi, hleader]
    rcases Nat.lt_or_eq_of_le hji with hlt | rfl
    · obtain ⟨hi', hgeti⟩ := List.getElem?_eq_some_iff.1 hi
      obtain ⟨hj', hgetj⟩ := List.getElem?_eq_some_iff.1 hj
      have hdiffer := List.pairwise_iff_getElem.1 h j i hj' hi' hlt
      rw [hgeti, hgetj, hsame] at hdiffer
      cases hdiffer
    · rw [hi] at hj
      cases hj
      rfl

/-! ### Labels -/

/-- A property that was selected is found as a property, whatever the columns are called. -/
theorem typeOfLabel_of_mem {e : String × Column} (he : e ∈ q.columns) :
    q.typeOfLabel e.1 = (q.leader e).type := by
  have hsome : (q.columns.find? fun e' => Text.eqIgnoreAsciiCase e'.1 e.1).isSome = true :=
    List.find?_isSome.2 ⟨e, he, Text.eqIgnoreAsciiCase_refl e.1⟩
  obtain ⟨e', he'⟩ := Option.isSome_iff_exists.1 hsome
  rw [typeOfLabel, columnOfLabel?, leader, he']
  rfl

theorem extractCells_zip {columns : List (String × Column)} (h : ∀ e ∈ columns, e ∈ q.columns)
    (raw : List Value) (row : Row) :
    q.extractCells ((columns.map (·.1)).zip raw) row =
      readByPlace q.marshaller (columns.map fun e => (e.1, q.leader e)) raw row := by
  induction columns generalizing raw row with
  | nil => rfl
  | cons e columns ih =>
    cases raw with
    | nil => rfl
    | cons v raw =>
      rw [List.map_cons, List.zip_cons_cons, extractCells_cons, List.map_cons, readByPlace,
        readCell, typeOfLabel_of_mem (h e List.mem_cons_self)]
      cases (q.leader e).type.fromSql q.marshaller v with
      | error e => rfl
      | ok o => exact ih (fun e he => h e (List.mem_cons_of_mem _ he)) raw (row.store _ o)

/-! ### Reading by place -/

/-- Each cell is found under the property of its place, and no other key has changed. -/
theorem get?_of_readByPlace {m : Marshaller} {columns : List (String × Column)}
    {raw : List Value} {row row' : Row} (hdistinct : (columns.map (·.1)).Nodup)
    (h : readByPlace m columns raw row = (.ok (), row')) :
    (∀ (i : Nat) (property : String) (c : Column) (v : Value),
        columns[i]? = some (property, c) → raw[i]? = some v →
          ∃ o, c.type.fromSql m v = .ok o ∧
            Dict.get? row' property = o.or (Dict.get? row property)) ∧
      ∀ key, key ∉ columns.map (·.1) → Dict.get? row' key = Dict.get? row key := by
  induction columns generalizing raw row with
  | nil =>
    cases h
    exact ⟨fun i property c v hi => by simp at hi, fun key hkey => rfl⟩
  | cons e columns ih =>
    obtain ⟨p, c₀⟩ := e
    cases raw with
    | nil =>
      cases h
      exact ⟨fun i property c v _ hv => by simp at hv, fun key hkey => rfl⟩
    | cons v₀ raw =>
      rw [List.map_cons, List.nodup_cons] at hdistinct
      rw [readByPlace] at h
      cases hv₀ : c₀.type.fromSql m v₀ with
      | error e =>
        rw [hv₀] at h
        cases h
      | ok o₀ =>
        rw [hv₀] at h
        obtain ⟨hcells, hothers⟩ := ih hdistinct.2 h
        constructor
        · intro i property c v hi hv
          cases i with
          | zero =>
            cases hi
            cases hv
            refine ⟨o₀, hv₀, ?_⟩
            rw [hothers p hdistinct.1, Row.get?_store, if_pos rfl]
          | succ i =>
            rw [List.getElem?_cons_succ] at hi hv
            obtain ⟨o, ho, hget⟩ := hcells i property c v hi hv
            have hmem : property ∈ columns.map (·.1) :=
              List.mem_map_of_mem (f := (·.1)) (List.mem_of_getElem? hi)
            have hne : property ≠ p := fun heq => hdistinct.1 (heq ▸ hmem)
            refine ⟨o, ho, ?_⟩
            rw [hget, Row.get?_store, if_neg hne]
        · intro key hkey
          rw [List.map_cons, List.mem_cons, not_or] at hkey
          rw [hothers key hkey.2, Row.get?_store, if_neg hkey.1]

/-! ### Selected rows -/

theorem keys_leaders (q : Query) : q.leaders.map (·.1) = q.properties := by
  rw [leaders, List.map_map]
  rfl

/-- **Selected properties are read by their leaders.**  In a row of the SELECT each cell is
converted for the first property that is the same as its own up to the case of ASCII letters, and
stored under its own.  If no two properties are the same in this sense, each is read by its own
column. -/
theorem properties_read_by_leaders (ops : List Operation) (handle : Handle) (table : String)
    (m : Marshaller) (tracer : Option Tracer) (s : Session) :
    let q := (run ops (fresh handle table m tracer) s).2.1
    (∀ (raw : List Value) (row : Row),
        q.extractRow q.properties raw row = readByPlace q.marshaller q.leaders raw row) ∧
      (∀ (i : Nat) (property : String) (c : Column), q.columns[i]? = some (property, c) →
        ∃ j property' c', j ≤ i ∧ q.columns[j]? = some (property', c') ∧
          Text.eqIgnoreAsciiCase property' property = true ∧
          (∀ k e, k < j → q.columns[k]? = some e →
            Text.eqIgnoreAsciiCase e.1 property = false) ∧
          q.leaders[i]? = some (property, c')) ∧
      (∀ (raw : List Value) (row row' : Row),
        q.extractRow q.properties raw row = (.ok (), row') →
          (∀ (i : Nat) (property : String) (c : Column) (v : Value),
            q.leaders[i]? = some (property, c) → raw[i]? = some v →
              ∃ o, c.type.fromSql q.marshaller v = .ok o ∧
                Dict.get? row' property = o.or (Dict.get? row property)) ∧
          ∀ key, key ∉ q.properties → Dict.get? row' key = Dict.get? row key) ∧
      ((q.columns.Pairwise fun e e' => Text.eqIgnoreAsciiCase e.1 e'.1 = false) →
        q.leaders = q.columns) := by
  intro q
  have hread : ∀ raw row,
      q.extractRow q.properties raw row = readByPlace q.marshaller q.leaders raw row :=
    fun raw row => extractCells_zip (fun e he => he) raw row
  have hdistinct : q.properties.Nodup := nodup_properties_run ops s List.nodup_nil
  refine ⟨hread, ?_, ?_, leaders_eq_columns⟩
  · intro i property c hi
    obtain ⟨j, e', hji, hj, hsame, hfirst, hleader⟩ := leader_place hi
    exact ⟨j, e'.1, e'.2, hji, hj, hsame, hfirst, hleader ▸ leaders_getElem? hi⟩
  · intro raw row row' h
    rw [hread] at h
    have hrow := get?_of_readByPlace (q.keys_leaders.symm ▸ hdistinct) h
    rwa [keys_leaders] at hrow

/-- A nick and a name, each kept in the column that is called like the other. -/
theorem properties_read_of_swapped_names :
    let ops : List Operation :=
      [.addColumn "name" (.plain "nick" .other), .addColumn "nick" (.plain "name" .integer)]
    let s := Session.start ⟨.generic, 1, fun _ _ => false, fun _ => none⟩ []
    let q := (run ops (fresh (.borrowed ⟨0, .scripted, .generic⟩) "players" .json none) s).2.1
    let read := q.extractRow q.properties [.text "007", .text "007"] ∅
    q.columns.Pairwise (fun e e' => Text.eqIgnoreAsciiCase e.1 e'.1 = false) ∧
      q.leaders = q.columns ∧ read = (.ok (), read.2) ∧
      Dict.get? read.2 "name" = some (.text "007") ∧ Dict.get? read.2 "nick" = some (.int 7) := by
  intro ops s q read
  obtain ⟨hread, -, hrow, hleaders⟩ := properties_read_by_leaders ops
    (.borrowed ⟨0, .scripted, .generic⟩) "players" .json none s
  have hdiffer : q.columns.Pairwise fun e e' => Text.eqIgnoreAsciiCase e.1 e'.1 = false := by
    have hcolumns : q.columns =
        [("name", .plain "nick" .other), ("nick", .plain "name" .integer)] := rfl
    rw [hcolumns]
    exact List.pairwise_pair.2 rfl
  have hdone : read = (.ok (), read.2) := rfl
  obtain ⟨hcells, -⟩ := hrow [.text "007", .text "007"] ∅ read.2 hdone
  refine ⟨hdiffer, hleaders hdiffer, hdone, ?_, ?_⟩
  · obtain ⟨o, ho, hget⟩ := hcells 0 "name" (.plain "nick" .other) (.text "007") rfl rfl
    cases ho
    exact hget
  · obtain ⟨o, ho, hget⟩ := hcells 1 "nick" (.plain "name" .integer) (.text "007") rfl rfl
    cases ho
    exact hget

/-- Of two properties that differ in case alone the second is read by the column of the first,
an integer: its text loses the zeros in front. -/
theorem property_misread :
    let ops : List Operation :=
      [.addColumn "id" (.plain "id" .integer), .addColumn "ID" (.plain "code" .other)]
    let s := Session.start ⟨.generic, 1, fun _ _ => false, fun _ => none⟩ []
    let q := (run ops (fresh (.borrowed ⟨0, .scripted, .generic⟩) "players" .json none) s).2.1
    let read := q.extractRow q.properties [.long 1, .text "007"] ∅
    q.column? "ID" = some (.plain "code" .other) ∧
      ColumnType.other.fromSql q.marshaller (.text "007") = .ok (some (.text "007")) ∧
      read.1 = .ok () ∧ Dict.get? read.2 "ID" = some (.int 7) ∧
      read ≠ readByPlace q.marshaller q.columns [.long 1, .text "007"] ∅ := by
  intro ops s q read
  have hget : Dict.get? read.2 "ID" = some (.int 7) := rfl
  refine ⟨rfl, rfl, rfl, hget, fun heq => ?_⟩
  have hplace : Dict.get? (readByPlace q.marshaller q.columns [.long 1, .text "007"] ∅).2 "ID" =
      some (.text "007") := rfl
  rw [← heq, hget] at hplace
  cases hplace

end SqlAccess.Query

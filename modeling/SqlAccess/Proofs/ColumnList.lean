/-
The columns of a query during its life.

A query knows its columns by property.  Adding a column puts it at the end or in the place of the
one that had the property before, resetting forgets all of them, and no other operation touches
them (`Query.columns_step`).  So the properties stay pairwise distinct in every run
(`Query.nodup_properties_run`).
-/
import SqlAccess.Proofs.QueryMoves
import SqlAccess.Proofs.QueryStatements
import SqlAccess.Proofs.RowExtraction

namespace SqlAccess.Query

/-- The properties, in the order in which they were first added. -/
def properties (q : Query) : List String := q.columns.map (·.1)

/-- What an operation makes of the columns. -/
def Operation.columns (op : Operation) (columns : List (String × Column)) :
    List (String × Column) :=
  match op with
  | .addColumn property c => putColumn property c columns
  | .addColumns added => added.foldl (fun columns c => putColumn c.name c columns) columns
  | .reset => []
  | _ => columns

/-! ### Adding -/

/-- A property that is there keeps its place, and a new one goes to the end. -/
theorem keys_putColumn (property : String) (c : Column) (columns : List (String × Column)) :
    (putColumn property c columns).map (·.1) =
      if property ∈ columns.map (·.1) then columns.map (·.1)
      else columns.map (·.1) ++ [property] := by
  induction columns with
  | nil => rfl
  | cons e columns ih =>
    obtain ⟨p, c'⟩ := e
    rw [putColumn]
    by_cases hp : p = property
    · subst hp
      simp
    · rw [if_neg hp, List.map_cons, ih]
      have hne : property ≠ p := Ne.symm hp
      by_cases hmem : property ∈ columns.map (·.1)
      · simp [hmem]
      · simp [hmem, hne]

theorem nodup_putColumn {columns : List (String × Column)} (h : (columns.map (·.1)).Nodup)
    (property : String) (c : Column) : ((putColumn property c columns).map (·.1)).Nodup := by
  rw [keys_putColumn]
  split
  · exact h
  · next hnew =>
    refine List.nodup_append.2 ⟨h, List.pairwise_singleton _ property, ?_⟩
    intro p hp p' hp' heq
    rw [List.mem_singleton.1 hp'] at heq
    exact hnew (heq ▸ hp)

theorem columns_addColumns (q : Query) (added : List Column) :
    (q.addColumns added).columns =
      added.foldl (fun columns c => putColumn c.name c columns) q.columns := by
  induction added generalizing q with
  | nil => rfl
  | cons c added ih => exact ih (q.addColumn c.name c)

/-! ### Work on the connection -/

variable {α : Type}

theorem readsAlike_of_dropStatement {q q' : Query} (h : q'.dropStatement = q.dropStatement) :
    ReadsAlike q q' := by
  have hcolumns : q'.dropStatement.columns = q.dropStatement.columns := by rw [h]
  have hmarshaller : q'.dropStatement.marshaller = q.dropStatement.marshaller := by rw [h]
  exact ⟨hcolumns, hmarshaller⟩

theorem readsAlike_release (q : Query) (s : Session) : ReadsAlike q (q.release s).1 := by
  rw [release_fst]
  exact ⟨rfl, rfl⟩

theorem readsAlike_close (q : Query) (s : Session) : ReadsAlike q (q.close s).1 := by
  have hrelease := q.readsAlike_release s
  rw [close]
  simp only
  split
  · exact ⟨hrelease.columns, hrelease.marshaller⟩
  · exact hrelease
  · exact hrelease

theorem ReadsAlike.closing {q : Query} {work : Result α × Query × Session}
    (h : ReadsAlike q work.2.1) : ReadsAlike q (closing work).2.1 :=
  h.trans (work.2.1.readsAlike_close work.2.2)

theorem readsAlike_execute (exec : Session → Connection → Statement → Result α × Session)
    (q : Query) (s : Session) (sql : String) (params : List Value) :
    ReadsAlike q (execute exec q s sql params).2.1 :=
  readsAlike_of_dropStatement (dropStatement_execute exec q s sql params)

theorem readsAlike_runBuilt (q : Query) (s : Session) (built : Result (String × List Value)) :
    ReadsAlike q (q.runBuilt s built).2.1 := by
  cases built with
  | ok b => exact readsAlike_execute Session.update q s b.1 b.2
  | error e => exact .refl q

theorem readsAlike_count (q : Query) (s : Session) : ReadsAlike q (q.count s).2.1 := by
  rw [count_query]
  exact ⟨rfl, rfl⟩

theorem readsAlike_openCursor (q : Query) (s : Session) (sql : String) :
    ReadsAlike q (q.openCursor s sql).2.1 := by
  rw [openCursor, runQuery_eq]
  exact readsAlike_execute Session.query q s sql q.binds

theorem ReadsAlike.reading {q : Query} {work : Result Cursor × Query × Session}
    (h : ReadsAlike q work.2.1) (read : Cursor → Query → Result α) :
    ReadsAlike q (reading read work).2.1 := by
  obtain ⟨_ | cursor, q', s⟩ := work
  · exact h
  · exact h.trans (q'.readsAlike_close s)

theorem readsAlike_fetchPage (q : Query) (s : Session) (known : Option UInt64)
    (offset size : UInt64) : ReadsAlike q (q.fetchPage s known offset size).2.1 := by
  have htotal : ReadsAlike q (q.total s known).2.1 := by
    cases known with
    | some n => exact .refl q
    | none => exact q.readsAlike_count s
  rw [fetchPage]
  split
  · next hs =>
    rw [hs] at htotal
    exact htotal
  · next total q' s' hs =>
    rw [hs] at htotal
    -- the offset and the limit of the page concern no column
    have hpage : ReadsAlike q (q'.page offset size) := ⟨htotal.columns, htotal.marshaller⟩
    exact hpage.trans (((q'.page offset size).readsAlike_openCursor s' _).reading Cursor.intoRows)

theorem columns_reset (q : Query) (s : Session) : (q.reset s).2.1.columns = [] := by
  rw [reset]
  simp only
  split
  · split <;> rfl
  · rfl
  · rfl

theorem readsAlike_addBind {q q' : Query} {type : ColumnType} {v : Value}
    (h : q.addBind type v = .ok q') : ReadsAlike q q' := by
  rw [addBind] at h
  cases hv : type.toSql q.marshaller v with
  | ok w =>
    rw [hv] at h
    cases h
    exact ⟨rfl, rfl⟩
  | error e =>
    rw [hv] at h
    cases h

theorem readsAlike_addBinds (q : Query) (entries : List (ColumnType × Value)) :
    ReadsAlike q (q.addBinds entries).2 := by
  induction entries generalizing q with
  | nil => exact .refl q
  | cons entry entries ih =>
    rw [addBinds]
    split
    · next q' hq' => exact (readsAlike_addBind hq').trans (ih q')
    · exact .refl q

/-! ### Steps and runs -/

theorem columns_step (op : Operation) (q : Query) (s : Session) :
    (step op q s).2.1.columns = op.columns q.columns := by
  cases op with
  | addColumn | setTable | addJoin | setDistinct | setWhere | setSupplement | setOffset
  | setLimit => rfl
  | addColumns added => exact q.columns_addColumns added
  | addBind type v =>
    rw [step]
    split
    · next hq' => exact (readsAlike_addBind hq').columns
    · rfl
  | setBinds b =>
    rw [step]
    simp only [answerOf_snd]
    exact (readsAlike_addBinds { q with binds := [] } b.entries).columns
  | reset =>
    rw [step, answerOf_snd]
    exact q.columns_reset s
  | close => exact (q.readsAlike_close s).columns
  | insert values =>
    rw [step, answerOf_snd]
    exact (q.readsAlike_runBuilt s _).closing.columns
  | update values =>
    rw [step, answerOf_snd]
    exact (q.readsAlike_runBuilt s _).closing.columns
  | delete =>
    rw [step, answerOf_snd]
    exact (readsAlike_execute Session.update q s _ _).closing.columns
  | executeUpdate sql =>
    rw [step, answerOf_snd]
    exact (readsAlike_execute Session.update q s _ _).closing.columns
  | count =>
    rw [step, answerOf_snd]
    exact (q.readsAlike_count s).columns
  | select actions =>
    rw [step, answerOf_snd, withCursor_eq_reading]
    exact ((q.readsAlike_openCursor s _).reading _).columns
  | executeQuery sql actions =>
    rw [step, answerOf_snd, withCursor_eq_reading]
    exact ((q.readsAlike_openCursor s sql).reading _).columns
  | selectPage known offset size =>
    rw [step, answerOf_snd]
    exact (q.readsAlike_fetchPage s known offset size).closing.columns

theorem Operation.nodup_columns (op : Operation) {columns : List (String × Column)}
    (h : (columns.map (·.1)).Nodup) : ((op.columns columns).map (·.1)).Nodup := by
  cases op with
  | addColumn property c => exact nodup_putColumn h property c
  | addColumns added =>
    rw [Operation.columns]
    induction added generalizing columns with
    | nil => exact h
    | cons c added ih => exact ih (nodup_putColumn h c.name c)
  | reset => exact List.nodup_nil
  | _ => exact h

/-- Whatever is done with a query, no property has two columns. -/
theorem nodup_properties_run (ops : List Operation) {q : Query} (s : Session)
    (h : q.properties.Nodup) : (run ops q s).2.1.properties.Nodup := by
  induction ops generalizing q s with
  | nil => exact h
  | cons op ops ih =>
    refine ih (q := (step op q s).2.1) (step op q s).2.2 ?_
    rw [properties, columns_step]
    exact op.nodup_columns h

end SqlAccess.Query

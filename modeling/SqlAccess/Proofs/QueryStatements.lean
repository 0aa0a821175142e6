/-
Which statements an operation runs.

An operation runs the statement that it builds or none at all: what it does besides, to
give back an earlier statement or to close the query, runs nothing.  So a property of
all statements that an operation runs is one of the SQL and the parameters that it was
built from (`Query.runsOnly_execute`).  An operation that succeeds has run its statement
(`Query.ran_execute`).
-/
import SqlAccess.Proofs.SessionHistory
import SqlAccess.Query.Operation

namespace SqlAccess.Query

variable {P : Statement → Prop}

theorem runsOnly_release (q : Query) (s : Session) : Session.RunsOnly P s (q.release s).2 := by
  rw [release]
  split
  · exact .refl P s
  · split
    · next c _ => exact .of_adds (s.adds_closeStatement c) fun st h => by cases h
    · exact .refl P s

theorem runsOnly_close (q : Query) (s : Session) : Session.RunsOnly P s (q.close s).2 := by
  have hrelease : Session.RunsOnly P s (q.release s).2 := q.runsOnly_release s
  rw [close]
  simp only
  split
  · next c _ => exact hrelease.trans (.of_adds (Session.adds_close _ c) fun st h => by cases h)
  · exact hrelease
  · exact hrelease

theorem runsOnly_closing {α : Type} {s : Session} {work : Result α × Query × Session}
    (h : Session.RunsOnly P s work.2.2) : Session.RunsOnly P s (closing work).2.2 :=
  h.trans (runsOnly_close work.2.1 work.2.2)

/-- What is run is the SQL with the parameters. -/
theorem runsOnly_execute {α : Type}
    {exec : Session → Connection → Statement → Result α × Session}
    (hexec : ∀ (s : Session) (c : Connection) (st : Statement),
      ∃ call, s.Adds call (exec s c st).2 ∧ call.statement? = some st)
    (q : Query) (s : Session) {sql : String} {params : List Value} (h : P ⟨sql, params⟩) :
    Session.RunsOnly P s (execute exec q s sql params).2.2 := by
  have hrelease : Session.RunsOnly P s (q.release s).2 := q.runsOnly_release s
  rw [execute]
  simp only
  split
  · exact hrelease
  · next c _ =>
    have hprepare : Session.RunsOnly P s ((q.release s).2.prepare c sql).2 :=
      hrelease.trans (.of_history (Session.prepare_history _ c sql) fun st h => by cases h)
    split
    · next e s' hs =>
      rw [hs] at hprepare
      exact hprepare
    · next st s' hs =>
      rw [hs] at hprepare
      have hst : st = ⟨sql, []⟩ := Session.prepare_eq_ok (congrArg Prod.fst hs)
      -- a statement is prepared without parameters, so it is run with these alone
      obtain ⟨call, hadds, hcall⟩ := hexec s' c (st.bind params)
      refine hprepare.trans (.of_adds hadds fun st' h' => ?_)
      rw [hcall, Option.some.injEq, hst] at h'
      rw [← h']
      exact h

/-- Work that succeeds has run its statement. -/
theorem ran_execute {α : Type} {exec : Session → Connection → Statement → Result α × Session}
    (hexec : ∀ (s : Session) (c : Connection) (st : Statement),
      ∃ call, s.Adds call (exec s c st).2 ∧ call.statement? = some st)
    {q : Query} {s : Session} {sql : String} {params : List Value}
    (h : Session.isOk (execute exec q s sql params).1 = true) :
    s.Ran (execute exec q s sql params).2.2 ⟨sql, params⟩ := by
  have hrelease : Session.RunsOnly (fun _ => True) s (q.release s).2 := q.runsOnly_release s
  rw [execute] at h ⊢
  simp only at h ⊢
  cases hget : (q.release s).1.handle.get with
  | error e =>
    rw [hget] at h
    cases h
  | ok c =>
    have hprepare : Session.RunsOnly (fun _ => True) s ((q.release s).2.prepare c sql).2 :=
      hrelease.trans (.of_history (Session.prepare_history _ c sql) fun st h => by cases h)
    rw [hget] at h
    simp only at h ⊢
    rcases hs : (q.release s).2.prepare c sql with ⟨e | st, s'⟩
    · rw [hs] at h
      cases h
    · rw [hs] at hprepare
      have hst : st = ⟨sql, []⟩ := Session.prepare_eq_ok (congrArg Prod.fst hs)
      obtain ⟨call, hadds, hcall⟩ := hexec s' c (st.bind params)
      rw [hst] at hadds hcall ⊢
      exact .of_adds hprepare hadds hcall

theorem runsOnly_runUpdate (q : Query) (s : Session) {sql : String} {params : List Value}
    (h : P ⟨sql, params⟩) : Session.RunsOnly P s (q.runUpdate s sql params).2.2 :=
  runsOnly_execute (fun s c st => ⟨.update c st, s.adds_update c st, rfl⟩) q s h

theorem ran_runUpdate {q : Query} {s : Session} {sql : String} {params : List Value}
    (h : Session.isOk (q.runUpdate s sql params).1 = true) :
    s.Ran (q.runUpdate s sql params).2.2 ⟨sql, params⟩ :=
  ran_execute (fun s c st => ⟨.update c st, s.adds_update c st, rfl⟩) h

theorem runsOnly_runQuery (q : Query) (s : Session) {sql : String} {params : List Value}
    (h : P ⟨sql, params⟩) : Session.RunsOnly P s (q.runQuery s sql params).2.2 := by
  rw [runQuery_eq]
  exact runsOnly_execute (fun s c st => ⟨.query c st, s.adds_query c st, rfl⟩) q s h

theorem ran_runQuery {q : Query} {s : Session} {sql : String} {params : List Value}
    (h : Session.isOk (q.runQuery s sql params).1 = true) :
    s.Ran (q.runQuery s sql params).2.2 ⟨sql, params⟩ := by
  rw [runQuery_eq] at h ⊢
  exact ran_execute (fun s c st => ⟨.query c st, s.adds_query c st, rfl⟩) h

theorem runsOnly_runBuilt (q : Query) (s : Session) {built : Result (String × List Value)}
    (h : ∀ sql params, built = .ok (sql, params) → P ⟨sql, params⟩) :
    Session.RunsOnly P s (q.runBuilt s built).2.2 := by
  cases built with
  | ok b => exact q.runsOnly_runUpdate s (h b.1 b.2 rfl)
  | error e => exact .refl P s

theorem ran_runBuilt {q : Query} {s : Session} {built : Result (String × List Value)}
    (h : Session.isOk (q.runBuilt s built).1 = true) :
    ∃ st, s.Ran (q.runBuilt s built).2.2 st := by
  cases built with
  | ok b => exact ⟨_, ran_runUpdate h⟩
  | error e => cases h

theorem runsOnly_insert (q : Query) (s : Session) (values : Row)
    (h : ∀ sql params, q.insertion values = .ok (sql, params) → P ⟨sql, params⟩) :
    Session.RunsOnly P s (q.insert s values).2.2 :=
  runsOnly_closing (q.runsOnly_runBuilt s h)

theorem runsOnly_update (q : Query) (s : Session) (values : Row)
    (h : ∀ sql params, q.modification values = .ok (sql, params) → P ⟨sql, params⟩) :
    Session.RunsOnly P s (q.update s values).2.2 :=
  runsOnly_closing (q.runsOnly_runBuilt s h)

theorem runsOnly_delete (q : Query) (s : Session) (h : P ⟨q.deleteSql, q.binds⟩) :
    Session.RunsOnly P s (q.delete s).2.2 :=
  runsOnly_closing (q.runsOnly_runUpdate s h)

/-- Closing the query changes neither the answer nor what was run. -/
theorem ran_closing {α : Type} {s : Session} {work : Result α × Query × Session}
    (h : ∃ st, s.Ran work.2.2 st) : ∃ st, s.Ran (closing work).2.2 st := by
  obtain ⟨st, hst⟩ := h
  exact ⟨st, hst.mono (work.2.1.runsOnly_close (P := fun _ => True) work.2.2)⟩

theorem ran_insert {q : Query} {s : Session} {values : Row}
    (h : Session.isOk (q.insert s values).1 = true) :
    ∃ st, s.Ran (q.insert s values).2.2 st :=
  ran_closing (ran_runBuilt h)

theorem ran_update {q : Query} {s : Session} {values : Row}
    (h : Session.isOk (q.update s values).1 = true) :
    ∃ st, s.Ran (q.update s values).2.2 st :=
  ran_closing (ran_runBuilt h)

theorem ran_delete {q : Query} {s : Session} (h : Session.isOk (q.delete s).1 = true) :
    ∃ st, s.Ran (q.delete s).2.2 st :=
  ran_closing ⟨_, ran_runUpdate h⟩

/-! ### Reading -/

theorem release_fst (q : Query) (s : Session) : (q.release s).1 = q.dropStatement := by
  rw [release]
  split
  · next hq => rw [dropStatement, ← hq]
  · split <;> rfl

/-- Running a statement changes nothing about the query but the statement that it holds. -/
theorem dropStatement_execute {α : Type}
    (exec : Session → Connection → Statement → Result α × Session) (q : Query) (s : Session)
    (sql : String) (params : List Value) :
    (execute exec q s sql params).2.1.dropStatement = q.dropStatement := by
  have hrelease : (q.release s).1.dropStatement = q.dropStatement := by
    rw [release_fst]
    rfl
  rw [execute]
  simp only
  split
  · exact hrelease
  · split
    · exact hrelease
    · exact hrelease

theorem count_query (q : Query) (s : Session) : (q.count s).2.1 = q.dropStatement := by
  rw [count, runQuery_eq]
  exact (release_fst _ _).trans (dropStatement_execute Session.query q s q.countSql q.binds)

/-- What is read with a cursor, which closes the query at its end.  Without a cursor nothing is
read and the query stays open. -/
def reading {α : Type} (read : Cursor → Query → Result α)
    (work : Result Cursor × Query × Session) : Result α × Query × Session :=
  match work with
  | (.error e, q, s) => (.error e, q, s)
  | (.ok cursor, q, s) => closing (read cursor q, q, s)

theorem withCursor_eq_reading (q : Query) (s : Session) (sql : String)
    (actions : List Cursor.Action) :
    q.withCursor s sql actions =
      reading (fun cursor q => .ok (cursor.play q actions)) (q.openCursor s sql) := rfl

theorem allRows_eq_reading (q : Query) (s : Session) :
    q.allRows s = reading Cursor.intoRows (q.openCursor s q.selectSql) := rfl

theorem runsOnly_openCursor (q : Query) (s : Session) {sql : String} (h : P ⟨sql, q.binds⟩) :
    Session.RunsOnly P s (q.openCursor s sql).2.2 :=
  q.runsOnly_runQuery s h

theorem runsOnly_reading {α : Type} {s : Session} {work : Result Cursor × Query × Session}
    (read : Cursor → Query → Result α) (h : Session.RunsOnly P s work.2.2) :
    Session.RunsOnly P s (reading read work).2.2 := by
  obtain ⟨_ | _, q, s'⟩ := work
  · exact h
  · exact runsOnly_closing h

theorem runsOnly_withCursor (q : Query) (s : Session) {sql : String}
    (actions : List Cursor.Action) (h : P ⟨sql, q.binds⟩) :
    Session.RunsOnly P s (q.withCursor s sql actions).2.2 :=
  runsOnly_reading _ (q.runsOnly_openCursor s h)

theorem runsOnly_allRows (q : Query) (s : Session) (h : P ⟨q.selectSql, q.binds⟩) :
    Session.RunsOnly P s (q.allRows s).2.2 :=
  runsOnly_reading _ (q.runsOnly_openCursor s h)

theorem runsOnly_count (q : Query) (s : Session) (h : P ⟨q.countSql, q.binds⟩) :
    Session.RunsOnly P s (q.count s).2.2 :=
  (q.runsOnly_runQuery s h).trans (runsOnly_release _ _)

/-- The query that reads a page. -/
def page (q : Query) (offset size : UInt64) : Query :=
  (q.setOffset (some offset)).setLimit (some size)

/-- A page is counted first if the total is not known, and then read. -/
theorem runsOnly_selectPage (q : Query) (s : Session) (known : Option UInt64)
    (offset size : UInt64) (hcount : known = none → P ⟨q.countSql, q.binds⟩)
    (hselect : P ⟨(q.page offset size).selectSql, q.binds⟩) :
    Session.RunsOnly P s (q.selectPage s known offset size).2.2 := by
  refine runsOnly_closing ?_
  cases known with
  | some n => exact runsOnly_allRows (q.page offset size) s hselect
  | none =>
    have htotal : Session.RunsOnly P s (q.count s).2.2 := q.runsOnly_count s (hcount rfl)
    have hquery := q.count_query s
    rw [fetchPage, total]
    split
    · next hs =>
      rw [hs] at htotal
      exact htotal
    · next n q' s' hs =>
      rw [hs] at htotal hquery
      -- counting leaves the clauses and the values as they are
      obtain rfl : q' = q.dropStatement := hquery
      exact htotal.trans (runsOnly_allRows (q.dropStatement.page offset size) s' hselect)

theorem isOk_map {α β : Type} (f : α → β) (answer : Result α) :
    Session.isOk (answer.map f) = Session.isOk answer := by
  cases answer <;> rfl

theorem ran_openCursor {q : Query} {s : Session} {sql : String}
    (h : Session.isOk (q.openCursor s sql).1 = true) :
    s.Ran (q.openCursor s sql).2.2 ⟨sql, q.binds⟩ := by
  refine ran_runQuery ?_
  rw [← isOk_map Cursor.start]
  exact h

/-- What was read came from a cursor, so its statement was run. -/
theorem ran_reading {α : Type} {s : Session} {st : Statement}
    {work : Result Cursor × Query × Session} {read : Cursor → Query → Result α}
    (hwork : Session.isOk work.1 = true → s.Ran work.2.2 st)
    (h : Session.isOk (reading read work).1 = true) : s.Ran (reading read work).2.2 st := by
  obtain ⟨_ | cursor, q, s'⟩ := work
  · cases h
  · exact (hwork rfl).mono (runsOnly_close (P := fun _ => True) q s')

theorem ran_withCursor {q : Query} {s : Session} {sql : String} {actions : List Cursor.Action}
    (h : Session.isOk (q.withCursor s sql actions).1 = true) :
    s.Ran (q.withCursor s sql actions).2.2 ⟨sql, q.binds⟩ :=
  ran_reading ran_openCursor h

theorem ran_allRows {q : Query} {s : Session} (h : Session.isOk (q.allRows s).1 = true) :
    s.Ran (q.allRows s).2.2 ⟨q.selectSql, q.binds⟩ :=
  ran_reading ran_openCursor h

theorem ran_count {q : Query} {s : Session} (h : Session.isOk (q.count s).1 = true) :
    s.Ran (q.count s).2.2 ⟨q.countSql, q.binds⟩ := by
  have hrun : Session.isOk (q.runQuery s q.countSql q.binds).1 = true := by
    rw [count] at h
    simp only at h
    cases hanswer : (q.runQuery s q.countSql q.binds).1 with
    | ok r => rfl
    | error e =>
      rw [hanswer] at h
      cases h
  exact (ran_runQuery hrun).mono (runsOnly_release (P := fun _ => True) _ _)

theorem ran_selectPage {q : Query} {s : Session} {known : Option UInt64} {offset size : UInt64}
    (h : Session.isOk (q.selectPage s known offset size).1 = true) :
    s.Ran (q.selectPage s known offset size).2.2 ⟨(q.page offset size).selectSql, q.binds⟩ := by
  have hfetch : Session.isOk (q.fetchPage s known offset size).1 = true := h
  suffices hran : s.Ran (q.fetchPage s known offset size).2.2
      ⟨(q.page offset size).selectSql, q.binds⟩ from
    hran.mono (runsOnly_close (P := fun _ => True) _ _)
  cases known with
  | some n =>
    have hrows : Session.isOk ((q.page offset size).allRows s).1 = true := by
      rw [← isOk_map]
      exact hfetch
    exact ran_allRows hrows
  | none =>
    have htotal : Session.RunsOnly (fun _ => True) s (q.count s).2.2 :=
      q.runsOnly_count s trivial
    have hquery := q.count_query s
    rw [fetchPage, total] at hfetch ⊢
    rcases hs : q.count s with ⟨e | n, q', s'⟩
    · rw [hs] at hfetch
      cases hfetch
    · rw [hs] at hfetch htotal hquery
      obtain rfl : q' = q.dropStatement := hquery
      have hrows : Session.isOk ((q.dropStatement.page offset size).allRows s').1 = true := by
        rw [← isOk_map]
        exact hfetch
      exact .since htotal (ran_allRows hrows)

end SqlAccess.Query

/-
Queries and sessions that are seen through a view.

A view of sessions is a map that every call respects (`Session.View`): a session answers as it
does, and what it becomes is seen as what the other becomes.  An operation of a query comes to its
calls, so it respects the view as well, and the tracer of the query does not matter to it
(`Query.view_step`).  So do runs of operations (`Query.view_run`).

A query changes its connection and keeps its tracer, and apart from that neither matters to what
it builds and reads: with others put in their place it is the same query (`Query.rehold`).
-/
import SqlAccess.Proofs.QueryMoves
import SqlAccess.Proofs.QueryStatements
import SqlAccess.Proofs.RowExtraction

namespace SqlAccess

/-- A map of sessions that every call respects. -/
structure Session.View (g : Session → Session) : Prop where
  connect (s : Session) (driver : Driver) (request : ConnectRequest) :
    (g s).connect driver request =
      ((s.connect driver request).1, g (s.connect driver request).2)
  prepare (s : Session) (c : Connection) (sql : String) :
    (g s).prepare c sql = ((s.prepare c sql).1, g (s.prepare c sql).2)
  update (s : Session) (c : Connection) (st : Statement) :
    (g s).update c st = ((s.update c st).1, g (s.update c st).2)
  query (s : Session) (c : Connection) (st : Statement) :
    (g s).query c st = ((s.query c st).1, g (s.query c st).2)
  closeStatement (s : Session) (c : Connection) :
    ((g s).closeStatement c).2 = g (s.closeStatement c).2
  close (s : Session) (c : Connection) : ((g s).close c).2 = g (s.close c).2

variable {g : Session → Session}

theorem Database.view_connect (h : Session.View g) (d : Database) (s : Session) :
    d.connect (g s) = ((d.connect s).1, g (d.connect s).2) := by
  rw [connect, connect]
  cases d.access with
  | refuses e => rfl
  | asks driver request word =>
    simp only [h.connect]
    rcases s.connect driver request with ⟨_ | _, s'⟩ <;> rfl

namespace Query

variable {α : Type}

/-! ### Other handles and tracers -/

/-- The query with its handle and its tracer exchanged. -/
def rehold (f : Handle → Handle) (k : Option Tracer → Option Tracer) (q : Query) : Query :=
  { q with handle := f q.handle, tracer := k q.tracer }

section Rehold

variable (f : Handle → Handle) (k : Option Tracer → Option Tracer) (q : Query)

/-- Reading rows has nothing to do with the handle and the tracer. -/
theorem readsAlike_rehold : ReadsAlike q (q.rehold f k) := ⟨rfl, rfl⟩

theorem addColumns_rehold (columns : List Column) :
    (q.rehold f k).addColumns columns = (q.addColumns columns).rehold f k := by
  induction columns generalizing q with
  | nil => rfl
  | cons c columns ih => exact ih (q.addColumn c.name c)

theorem addBind_rehold (type : ColumnType) (v : Value) :
    (q.rehold f k).addBind type v = (q.addBind type v).map (rehold f k) := by
  rw [addBind, addBind, show (q.rehold f k).marshaller = q.marshaller from rfl]
  cases type.toSql q.marshaller v <;> rfl

theorem addBinds_rehold (entries : List (ColumnType × Value)) :
    (q.rehold f k).addBinds entries =
      ((q.addBinds entries).1, (q.addBinds entries).2.rehold f k) := by
  induction entries generalizing q with
  | nil => rfl
  | cons entry entries ih =>
    rw [addBinds, addBinds, addBind_rehold]
    cases q.addBind entry.1 entry.2 with
    | ok q' => exact ih q'
    | error e => rfl

theorem setBinds_rehold (b : Binds) :
    (q.rehold f k).setBinds b = ((q.setBinds b).1, (q.setBinds b).2.rehold f k) :=
  addBinds_rehold f k { q with binds := [] } b.entries

end Rehold

/-! ### Views -/

/-- The query with another tracer. -/
def retraced (k : Option Tracer → Option Tracer) : Query → Query := rehold id k

/-- Work as it is seen, under another tracer. -/
def viewed (k : Option Tracer → Option Tracer) (g : Session → Session)
    (work : α × Query × Session) : α × Query × Session :=
  (work.1, work.2.1.retraced k, g work.2.2)

section Views

variable (h : Session.View g) (k : Option Tracer → Option Tracer)

include h

theorem view_release (q : Query) (s : Session) :
    (q.retraced k).release (g s) = ((q.release s).1.retraced k, g (q.release s).2) := by
  have hstatement : (q.retraced k).statement = q.statement := rfl
  have hhandle : (q.retraced k).handle = q.handle := rfl
  rw [release, release, hstatement, hhandle]
  cases q.statement with
  | none => rfl
  | some st =>
    cases q.handle.connection? with
    | none => rfl
    | some c => exact congrArg (Prod.mk _) (h.closeStatement s c)

theorem view_close (q : Query) (s : Session) :
    (q.retraced k).close (g s) = ((q.close s).1.retraced k, g (q.close s).2) := by
  rw [close, close]
  simp only [view_release h k]
  rcases q.release s with ⟨q', s'⟩
  have hhandle : (q'.retraced k).handle = q'.handle := rfl
  simp only [hhandle]
  rcases q'.handle with ⟨d, _ | c⟩ | c
  · rfl
  · exact congrArg (Prod.mk _) (h.close s' c)
  · rfl

theorem view_closing (work : Result α × Query × Session) :
    closing (viewed k g work) = viewed k g (closing work) := by
  rw [closing, closing]
  simp only [viewed, view_close h k]

theorem view_execute {exec : Session → Connection → Statement → Result α × Session}
    (hexec : ∀ (s : Session) (c : Connection) (st : Statement),
      exec (g s) c st = ((exec s c st).1, g (exec s c st).2))
    (q : Query) (s : Session) (sql : String) (params : List Value) :
    execute exec (q.retraced k) (g s) sql params = viewed k g (execute exec q s sql params) := by
  rw [execute, execute]
  simp only [view_release h k]
  have hhandle : ((q.release s).1.retraced k).handle = (q.release s).1.handle := rfl
  simp only [hhandle]
  cases (q.release s).1.handle.get with
  | error e => rfl
  | ok c =>
    simp only [h.prepare]
    rcases (q.release s).2.prepare c sql with ⟨_ | st, s'⟩
    · rfl
    · simp only [hexec]
      rfl

theorem view_runUpdate (q : Query) (s : Session) (sql : String) (params : List Value) :
    (q.retraced k).runUpdate (g s) sql params = viewed k g (q.runUpdate s sql params) :=
  view_execute h k h.update q s sql params

/-- Whether a statement is traced makes no difference to what is read. -/
theorem view_runQuery (q : Query) (s : Session) (sql : String) (params : List Value) :
    (q.retraced k).runQuery (g s) sql params = viewed k g (q.runQuery s sql params) := by
  rw [runQuery_eq, runQuery_eq]
  exact view_execute h k h.query q s sql params

theorem view_runBuilt (q : Query) (s : Session) (built : Result (String × List Value)) :
    (q.retraced k).runBuilt (g s) built = viewed k g (q.runBuilt s built) := by
  cases built with
  | ok b => exact view_runUpdate h k q s b.1 b.2
  | error e => rfl

theorem view_reset (q : Query) (s : Session) :
    (q.retraced k).reset (g s) = viewed k g (q.reset s) := by
  rw [reset, reset]
  simp only [view_release h k]
  rcases q.release s with ⟨q', s'⟩
  have hhandle : ((q'.retraced k).cleared).handle = q'.cleared.handle := rfl
  simp only [hhandle]
  rcases q'.cleared.handle with ⟨d, _ | c⟩ | c
  · simp only [d.view_connect h]
    rcases d.connect s' with ⟨_ | _, s''⟩ <;> rfl
  · rfl
  · rfl

theorem view_count (q : Query) (s : Session) :
    (q.retraced k).count (g s) = viewed k g (q.count s) := by
  have hsql : (q.retraced k).countSql = q.countSql := rfl
  have hbinds : (q.retraced k).binds = q.binds := rfl
  rw [count, count]
  simp only [hsql, hbinds, view_runQuery h k, viewed, view_release h k]

theorem view_openCursor (q : Query) (s : Session) (sql : String) :
    (q.retraced k).openCursor (g s) sql = viewed k g (q.openCursor s sql) := by
  have hbinds : (q.retraced k).binds = q.binds := rfl
  rw [openCursor, openCursor]
  simp only [hbinds, view_runQuery h k, viewed]

theorem view_reading {read : Cursor → Query → Result α}
    (hread : ∀ cursor q, read cursor (retraced k q) = read cursor q)
    (work : Result Cursor × Query × Session) :
    reading read (viewed k g work) = viewed k g (reading read work) := by
  obtain ⟨_ | cursor, q, s⟩ := work
  · rfl
  · show closing (read cursor (q.retraced k), q.retraced k, g s) = _
    rw [hread]
    exact view_closing h k (read cursor q, q, s)

theorem view_withCursor (q : Query) (s : Session) (sql : String) (actions : List Cursor.Action) :
    (q.retraced k).withCursor (g s) sql actions = viewed k g (q.withCursor s sql actions) := by
  rw [withCursor_eq_reading, view_openCursor h k, withCursor_eq_reading]
  refine view_reading h k (fun cursor q => ?_) _
  rw [retraced, (q.readsAlike_rehold id k).play]

theorem view_allRows (q : Query) (s : Session) :
    (q.retraced k).allRows (g s) = viewed k g (q.allRows s) := by
  rw [allRows_eq_reading, view_openCursor h k, allRows_eq_reading]
  exact view_reading h k (fun cursor q => (q.readsAlike_rehold id k).readRows _ _) _

theorem view_total (q : Query) (s : Session) (known : Option UInt64) :
    (q.retraced k).total (g s) known = viewed k g (q.total s known) := by
  cases known with
  | some n => rfl
  | none => exact view_count h k q s

theorem view_fetchPage (q : Query) (s : Session) (known : Option UInt64)
    (offset size : UInt64) :
    (q.retraced k).fetchPage (g s) known offset size =
      viewed k g (q.fetchPage s known offset size) := by
  rw [fetchPage, fetchPage, view_total h k]
  rcases q.total s known with ⟨_ | n, q', s'⟩
  · rfl
  · have hrows := view_allRows h k (q'.page offset size) s'
    exact congrArg (fun rows => (rows.1.map fun items => (⟨items, n⟩ : Page Row), rows.2)) hrows

omit h in
theorem view_answerOf (answer : α → Answer) (work : Result α × Query × Session) :
    answerOf answer (viewed k g work) = viewed k g (answerOf answer work) := by
  obtain ⟨_ | _, q, s⟩ := work <;> rfl

/-- Every operation does to what is seen what it does to the session. -/
theorem view_step (op : Operation) (q : Query) (s : Session) :
    step op (q.retraced k) (g s) = viewed k g (step op q s) := by
  cases op with
  | addColumn | setTable | addJoin | setDistinct | setWhere | setSupplement | setOffset
  | setLimit => rfl
  | addColumns columns =>
    exact congrArg (fun q => (Answer.done, q, g s)) (addColumns_rehold id k q columns)
  | addBind type v =>
    rw [step, retraced, addBind_rehold, step]
    cases q.addBind type v <;> rfl
  | setBinds b =>
    rw [step, retraced, setBinds_rehold]
    exact view_answerOf (g := g) k _ ((q.setBinds b).1, (q.setBinds b).2, s)
  | reset => rw [step, view_reset h k, view_answerOf (g := g) k, step]
  | close =>
    rw [step, view_close h k]
    rfl
  | insert values =>
    have hbuilt := view_runBuilt h k q s (q.insertion values)
    show answerOf _ (closing ((q.retraced k).runBuilt (g s) (q.insertion values))) = _
    rw [hbuilt, view_closing h k, view_answerOf (g := g) k]
    rfl
  | update values =>
    have hbuilt := view_runBuilt h k q s (q.modification values)
    show answerOf _ (closing ((q.retraced k).runBuilt (g s) (q.modification values))) = _
    rw [hbuilt, view_closing h k, view_answerOf (g := g) k]
    rfl
  | delete =>
    have hrun := view_runUpdate h k q s q.deleteSql q.binds
    show answerOf _ (closing ((q.retraced k).runUpdate (g s) q.deleteSql q.binds)) = _
    rw [hrun, view_closing h k, view_answerOf (g := g) k]
    rfl
  | executeUpdate sql =>
    have hrun := view_runUpdate h k q s sql q.binds
    show answerOf _ (closing ((q.retraced k).runUpdate (g s) sql q.binds)) = _
    rw [hrun, view_closing h k, view_answerOf (g := g) k]
    rfl
  | count => rw [step, view_count h k, view_answerOf (g := g) k, step]
  | select actions =>
    have hcursor := view_withCursor h k q s q.selectSql actions
    show answerOf _ ((q.retraced k).withCursor (g s) q.selectSql actions) = _
    rw [hcursor, view_answerOf (g := g) k, step]
  | executeQuery sql actions => rw [step, view_withCursor h k, view_answerOf (g := g) k, step]
  | selectPage known offset size =>
    rw [step, selectPage, view_fetchPage h k, view_closing h k, view_answerOf (g := g) k]
    rfl

theorem view_run (ops : List Operation) (q : Query) (s : Session) :
    run ops (q.retraced k) (g s) = viewed k g (run ops q s) := by
  induction ops generalizing q s with
  | nil => rfl
  | cons op rest ih =>
    rw [run, view_step h k, viewed]
    simp only [ih]
    rfl

end Views

end Query

end SqlAccess

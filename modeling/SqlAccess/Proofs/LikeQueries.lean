/-
Queries that cannot be told apart.

Two queries are alike if they differ in their connections and tracers alone and the connections
are twins of `LikeSessions`.  Alike queries build the same SQL and read rows alike
(`Query.SameTexts`), and every operation gives them the same answer and leaves them alike
(`Query.Alike.step`), so the same holds of every run (`Query.Alike.run`).
-/
import SqlAccess.Proofs.LikeSessions
import SqlAccess.Proofs.QueryViews

namespace SqlAccess.Query

variable {α : Type} {s₀ t₀ : Session} {x y : Query × Session}

/-- The query with another handle and another tracer. -/
def on (h : Handle) (tracer : Option Tracer) : Query → Query := rehold (fun _ => h) fun _ => tracer

/-- Two queries that differ in their handles and tracers alone, and the handles are twins. -/
def Alike (s₀ t₀ : Session) (x y : Query × Session) : Prop :=
  ∃ h tracer t, y = (x.1.on h tracer, t) ∧ Session.Twins s₀ t₀ x.2 x.1.handle t h

/-- The same answer, and queries that stay alike. -/
def AlikeWork (s₀ t₀ : Session) (work work' : α × Query × Session) : Prop :=
  work'.1 = work.1 ∧ Alike s₀ t₀ work.2 work'.2

theorem Alike.asked (h : Alike s₀ t₀ x y) : Session.AskedAlike s₀ t₀ x.2 y.2 := by
  obtain ⟨h₂, tracer, t, rfl, h⟩ := h
  exact h.asked

theorem Alike.release (h : Alike s₀ t₀ x y) :
    Alike s₀ t₀ (x.1.release x.2) (y.1.release y.2) := by
  obtain ⟨q, s⟩ := x
  obtain ⟨h₂, tracer, t, rfl, h⟩ := h
  have hst : (q.on h₂ tracer).statement = q.statement := rfl
  have hh : (q.on h₂ tracer).handle = h₂ := rfl
  simp only [Query.release, hst, hh]
  cases q.statement with
  | none => exact ⟨h₂, _, _, rfl, h⟩
  | some st =>
    rcases h.connection_cases with ⟨hc, hc'⟩ | ⟨c, c', hc, hc'⟩
    · simp only [hc, hc']
      exact ⟨h₂, _, _, rfl, h⟩
    · simp only [hc, hc']
      exact ⟨h₂, _, _, rfl, h.closeStatement hc hc'⟩

theorem Alike.close (h : Alike s₀ t₀ x y) : Alike s₀ t₀ (x.1.close x.2) (y.1.close y.2) := by
  rw [Query.close, Query.close]
  obtain ⟨h₂, tracer, t, hy, h⟩ := h.release
  rw [hy]
  generalize x.1.release x.2 = x' at h ⊢
  obtain ⟨q, s⟩ := x'
  have hh : (q.on h₂ tracer).handle = h₂ := rfl
  simp only [hh] at h ⊢
  rcases h.kind_cases with ⟨c, c', hc, rfl⟩ | ⟨d, hc, rfl⟩ | ⟨d, c, c', hc, rfl⟩
  · simp only [hc]
    exact ⟨_, _, _, rfl, h⟩
  · simp only [hc]
    exact ⟨_, _, _, rfl, h⟩
  · simp only [hc]
    rw [hc] at h
    exact ⟨_, _, _, rfl, (h.close rfl rfl).drop⟩

theorem AlikeWork.closing {work work' : Result α × Query × Session}
    (h : AlikeWork s₀ t₀ work work') : AlikeWork s₀ t₀ (closing work) (closing work') :=
  ⟨h.1, h.2.close⟩

/-- Running a statement keeps queries alike if its execution does. -/
theorem Alike.execute {exec : Session → Connection → Statement → Result α × Session}
    (hexec : ∀ {s t : Session} {h₁ h₂ : Handle} {c c' : Connection},
      Session.Twins s₀ t₀ s h₁ t h₂ → h₁.connection? = some c → h₂.connection? = some c' →
        ∀ st, (exec t c' st).1 = (exec s c st).1 ∧
          Session.Twins s₀ t₀ (exec s c st).2 h₁ (exec t c' st).2 h₂)
    (h : Alike s₀ t₀ x y) (sql : String) (params : List Value) :
    AlikeWork s₀ t₀ (Query.execute exec x.1 x.2 sql params)
      (Query.execute exec y.1 y.2 sql params) := by
  rw [Query.execute, Query.execute]
  obtain ⟨h₂, tracer, t, hy, h⟩ := h.release
  rw [hy]
  generalize x.1.release x.2 = x' at h ⊢
  obtain ⟨q, s⟩ := x'
  have hh : (q.on h₂ tracer).handle = h₂ := rfl
  simp only [hh] at h ⊢
  rcases h.get_cases with ⟨e, hget, hget'⟩ | ⟨c, c', hget, hget', hc, hc'⟩
  · simp only [hget, hget']
    exact ⟨rfl, h₂, _, _, rfl, h⟩
  · simp only [hget, hget']
    obtain ⟨hanswer, hprepared⟩ := h.prepare hc hc' sql
    rw [show t.prepare c' sql = ((s.prepare c sql).1, (t.prepare c' sql).2) by rw [← hanswer]]
    revert hprepared
    generalize (t.prepare c' sql).2 = t'
    rcases s.prepare c sql with ⟨_ | st, s'⟩
    · intro hprepared
      exact ⟨rfl, h₂, _, _, rfl, hprepared⟩
    · intro hprepared
      obtain ⟨hresult, hdone⟩ := hexec hprepared hc hc' (st.bind params)
      exact ⟨hresult, h₂, _, _, rfl, hdone⟩

theorem Alike.runUpdate (h : Alike s₀ t₀ x y) (sql : String) (params : List Value) :
    AlikeWork s₀ t₀ (x.1.runUpdate x.2 sql params) (y.1.runUpdate y.2 sql params) :=
  Alike.execute (fun h hc hc' st => h.update hc hc' st) h sql params

theorem Alike.runQuery (h : Alike s₀ t₀ x y) (sql : String) (params : List Value) :
    AlikeWork s₀ t₀ (x.1.runQuery x.2 sql params) (y.1.runQuery y.2 sql params) := by
  rw [runQuery_eq, runQuery_eq]
  exact Alike.execute (fun h hc hc' st => h.query hc hc' st) h sql params

theorem Alike.runBuilt (h : Alike s₀ t₀ x y) (built : Result (String × List Value)) :
    AlikeWork s₀ t₀ (x.1.runBuilt x.2 built) (y.1.runBuilt y.2 built) := by
  cases built with
  | ok b => exact h.runUpdate b.1 b.2
  | error e => exact ⟨rfl, h⟩

/-! ### Texts -/

/-- Queries that build the same SQL, bind the same values and read rows alike. -/
structure SameTexts (q q' : Query) : Prop where
  insertSql : q'.insertSql = q.insertSql
  updateSql : q'.updateSql = q.updateSql
  deleteSql : q'.deleteSql = q.deleteSql
  selectSql : q'.selectSql = q.selectSql
  countSql : q'.countSql = q.countSql
  columns : q'.columns = q.columns
  binds : q'.binds = q.binds
  inspect : q'.inspect = q.inspect
  columnParams (values : Row) : q'.columnParams values = q.columnParams values
  extractRow (labels : List String) (raw : List Value) (row : Row) :
    q'.extractRow labels raw row = q.extractRow labels raw row

theorem Alike.sameTexts (h : Alike s₀ t₀ x y) : SameTexts x.1 y.1 := by
  obtain ⟨q, s⟩ := x
  obtain ⟨h₂, tracer, t, rfl, h⟩ := h
  have hdialect : (q.on h₂ tracer).handle.dialect = q.handle.dialect := h.dialect
  constructor
  case insertSql =>
    rw [Query.insertSql, Query.insertSql, hdialect]
    rfl
  case updateSql =>
    rw [Query.updateSql, Query.updateSql, hdialect]
    rfl
  case inspect =>
    have howned : (q.on h₂ tracer).handle.isOwned = q.handle.isOwned := by
      rcases h.kind_cases with ⟨c, c', hc, rfl⟩ | ⟨d, hc, rfl⟩ | ⟨d, c, c', hc, rfl⟩
      · exact hc ▸ rfl
      · exact hc ▸ rfl
      · exact hc ▸ rfl
    rw [Query.inspect, Query.inspect, howned]
    rfl
  case extractRow =>
    intro labels raw row
    rw [on, (q.readsAlike_rehold _ _).extractRow]
  case columnParams => exact fun values => rfl
  all_goals rfl

/-! ### Operations -/

theorem Alike.openCursor (h : Alike s₀ t₀ x y) (sql : String) :
    AlikeWork s₀ t₀ (x.1.openCursor x.2 sql) (y.1.openCursor y.2 sql) := by
  have hrun := h.runQuery sql x.1.binds
  rw [Query.openCursor, Query.openCursor, h.sameTexts.binds]
  exact ⟨congrArg (Except.map Cursor.start) hrun.1, hrun.2⟩

/-- What is read with a cursor does not depend on the handle and the tracer. -/
theorem AlikeWork.reading {read : Cursor → Query → Result α}
    {work work' : Result Cursor × Query × Session} (h : AlikeWork s₀ t₀ work work')
    (hread : ∀ cursor q h tracer, read cursor (on h tracer q) = read cursor q) :
    AlikeWork s₀ t₀ (Query.reading read work) (Query.reading read work') := by
  obtain ⟨_, x⟩ := work
  obtain ⟨answer, y⟩ := work'
  obtain ⟨rfl, h⟩ := h
  cases answer with
  | error e => exact ⟨rfl, h⟩
  | ok cursor =>
    refine AlikeWork.closing ⟨?_, h⟩
    obtain ⟨h₂, tracer, t, hy, _⟩ := h
    obtain rfl : y = (x.1.on h₂ tracer, t) := hy
    exact hread cursor x.1 h₂ tracer

theorem Alike.withCursor (h : Alike s₀ t₀ x y) (sql : String) (actions : List Cursor.Action) :
    AlikeWork s₀ t₀ (x.1.withCursor x.2 sql actions) (y.1.withCursor y.2 sql actions) := by
  rw [withCursor_eq_reading, withCursor_eq_reading]
  refine (h.openCursor sql).reading fun cursor q h tracer => ?_
  rw [on, (q.readsAlike_rehold _ _).play]

theorem Alike.allRows (h : Alike s₀ t₀ x y) :
    AlikeWork s₀ t₀ (x.1.allRows x.2) (y.1.allRows y.2) := by
  rw [allRows_eq_reading, allRows_eq_reading, h.sameTexts.selectSql]
  exact (h.openCursor x.1.selectSql).reading fun cursor q h tracer =>
    (q.readsAlike_rehold _ _).readRows _ _

theorem Alike.count (h : Alike s₀ t₀ x y) : AlikeWork s₀ t₀ (x.1.count x.2) (y.1.count y.2) := by
  have hrun := h.runQuery x.1.countSql x.1.binds
  rw [Query.count, Query.count, h.sameTexts.countSql, h.sameTexts.binds]
  exact ⟨congrArg (·.bind (countOf x.1.countSql)) hrun.1, hrun.2.release⟩

theorem Alike.total (h : Alike s₀ t₀ x y) (known : Option UInt64) :
    AlikeWork s₀ t₀ (x.1.total x.2 known) (y.1.total y.2 known) := by
  cases known with
  | some n => exact ⟨rfl, h⟩
  | none => exact h.count

/-- A change of the queries that has nothing to do with their handles and tracers. -/
theorem Alike.map (h : Alike s₀ t₀ x y) {f : Query → Query}
    (hf : ∀ q h tracer, f (on h tracer q) = (f q).on h tracer)
    (hhandle : ∀ q, (f q).handle = q.handle) : Alike s₀ t₀ (f x.1, x.2) (f y.1, y.2) := by
  obtain ⟨h₂, tracer, t, rfl, htwins⟩ := h
  refine ⟨h₂, tracer, t, ?_, ?_⟩
  · rw [hf]
  · rw [hhandle]
    exact htwins

theorem Alike.fetchPage (h : Alike s₀ t₀ x y) (known : Option UInt64) (offset size : UInt64) :
    AlikeWork s₀ t₀ (x.1.fetchPage x.2 known offset size)
      (y.1.fetchPage y.2 known offset size) := by
  rw [Query.fetchPage, Query.fetchPage]
  have htotal := h.total known
  revert htotal
  generalize x.1.total x.2 known = work
  generalize y.1.total y.2 known = work'
  obtain ⟨_, x'⟩ := work
  obtain ⟨answer, y'⟩ := work'
  rintro ⟨rfl, h⟩
  cases answer with
  | error e => exact ⟨rfl, h⟩
  | ok n =>
    have hrows := (h.map (f := fun q => q.page offset size) (fun _ _ _ => rfl) fun _ => rfl).allRows
    exact ⟨congrArg (Except.map fun rows => (⟨rows, n⟩ : Page Row)) hrows.1, hrows.2⟩

theorem Alike.reset (h : Alike s₀ t₀ x y) : AlikeWork s₀ t₀ (x.1.reset x.2) (y.1.reset y.2) := by
  rw [Query.reset, Query.reset]
  obtain ⟨h₂, tracer, t, hy, h⟩ := h.release
  rw [hy]
  generalize x.1.release x.2 = x' at h ⊢
  obtain ⟨q, s⟩ := x'
  replace h : Session.Twins s₀ t₀ s q.handle t h₂ := h
  -- what is cleared has nothing to do with the handle
  have hhandle : q.cleared.handle = q.handle := rfl
  have hcleared : (q.on h₂ tracer).cleared = q.cleared.on h₂ tracer := rfl
  have hh : (q.cleared.on h₂ tracer).handle = h₂ := rfl
  simp only [hhandle, hcleared, hh]
  rcases h.kind_cases with ⟨c, c', hc, rfl⟩ | ⟨d, hc, rfl⟩ | ⟨d, c, c', hc, rfl⟩
  · simp only [hc]
    exact ⟨rfl, _, _, _, rfl, h⟩
  · simp only [hc] at h ⊢
    rcases h.connect with ⟨e, s', t', hs, ht, h'⟩ | ⟨c, c', s', t', hs, ht, h'⟩
    · simp only [hs, ht]
      refine ⟨rfl, _, _, _, rfl, ?_⟩
      rw [hhandle, hc]
      exact h'
    · simp only [hs, ht]
      exact ⟨rfl, _, _, _, rfl, h'⟩
  · simp only [hc]
    exact ⟨rfl, _, _, _, rfl, h⟩

theorem AlikeWork.answerOf {work work' : Result α × Query × Session} (answer : α → Answer)
    (h : AlikeWork s₀ t₀ work work') :
    AlikeWork s₀ t₀ (answerOf answer work) (answerOf answer work') := by
  obtain ⟨_, x⟩ := work
  obtain ⟨result, y⟩ := work'
  obtain ⟨rfl, h⟩ := h
  cases result with
  | ok a => exact ⟨rfl, h⟩
  | error e => exact ⟨rfl, h⟩

theorem Alike.insertion (h : Alike s₀ t₀ x y) (values : Row) :
    y.1.insertion values = x.1.insertion values := by
  rw [Query.insertion, Query.insertion, h.sameTexts.insertSql, h.sameTexts.columnParams]

theorem Alike.modification (h : Alike s₀ t₀ x y) (values : Row) :
    y.1.modification values = x.1.modification values := by
  rw [Query.modification, Query.modification, h.sameTexts.updateSql, h.sameTexts.columnParams,
    h.sameTexts.binds]

/-- Every operation gives alike queries the same answer and leaves them alike. -/
theorem Alike.step (h : Alike s₀ t₀ x y) (op : Operation) :
    AlikeWork s₀ t₀ (step op x.1 x.2) (step op y.1 y.2) := by
  cases op with
  | addColumn | setTable | addJoin | setDistinct | setWhere | setSupplement | setOffset
  | setLimit =>
    obtain ⟨q, s⟩ := x
    obtain ⟨h₂, tracer, t, rfl, h⟩ := h
    exact ⟨rfl, h₂, _, _, rfl, h⟩
  | addColumns columns =>
    exact ⟨rfl, h.map (f := fun q => q.addColumns columns)
      (fun q h tracer => addColumns_rehold _ _ q columns)
      fun q => (q.sameHold_addColumns columns).1⟩
  | addBind type v =>
    obtain ⟨q, s⟩ := x
    obtain ⟨h₂, tracer, t, rfl, h⟩ := h
    simp only [Query.step, on, addBind_rehold]
    cases hadd : q.addBind type v with
    | ok q' => exact ⟨rfl, h₂, _, _, rfl, (sameHold_addBind hadd).1 ▸ h⟩
    | error e => exact ⟨rfl, h₂, _, _, rfl, h⟩
  | setBinds b =>
    obtain ⟨q, s⟩ := x
    obtain ⟨h₂, tracer, t, rfl, h⟩ := h
    simp only [Query.step, on, setBinds_rehold]
    exact AlikeWork.answerOf _ ⟨rfl, h₂, _, _, rfl, (q.sameHold_setBinds b).1 ▸ h⟩
  | reset => exact h.reset.answerOf _
  | close => exact ⟨rfl, h.close⟩
  | insert values =>
    rw [Query.step, Query.step, Query.insert, Query.insert, h.insertion]
    exact (h.runBuilt _).closing.answerOf _
  | update values =>
    rw [Query.step, Query.step, Query.update, Query.update, h.modification]
    exact (h.runBuilt _).closing.answerOf _
  | delete =>
    rw [Query.step, Query.step, Query.delete, Query.delete, h.sameTexts.deleteSql,
      h.sameTexts.binds]
    exact (h.runUpdate _ _).closing.answerOf _
  | executeUpdate sql =>
    rw [Query.step, Query.step, Query.executeUpdate, Query.executeUpdate, h.sameTexts.binds]
    exact (h.runUpdate _ _).closing.answerOf _
  | count => exact h.count.answerOf _
  | select actions =>
    rw [Query.step, Query.step, h.sameTexts.selectSql]
    exact (h.withCursor _ actions).answerOf _
  | executeQuery sql actions => exact (h.withCursor sql actions).answerOf _
  | selectPage known offset size => exact (h.fetchPage known offset size).closing.answerOf _

theorem Alike.run (h : Alike s₀ t₀ x y) (ops : List Operation) :
    AlikeWork s₀ t₀ (run ops x.1 x.2) (run ops y.1 y.2) := by
  induction ops generalizing x y with
  | nil => exact ⟨rfl, h⟩
  | cons op ops ih =>
    obtain ⟨hanswer, hstep⟩ := h.step op
    obtain ⟨hanswers, hrun⟩ := ih hstep
    exact ⟨congrArg₂ List.cons hanswer hanswers, hrun⟩

end SqlAccess.Query

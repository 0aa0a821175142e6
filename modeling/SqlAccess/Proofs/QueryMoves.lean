/-
What the operations of a query come to for its connection.

However many branches an operation has, it does only a handful of things to the
connection and the statement that the query holds.  `Query.Move` lists them, each with
the state of the query in which it happens.  `Query.moves_step` says that every
operation is a chain of moves, and `Query.moves_run` that every run of operations is.

What the moves keep, the operations keep: a property of all runs needs a proof for the
moves alone.
-/
import Mathlib.Logic.Relation
import SqlAccess.Proofs.SessionHistory
import SqlAccess.Query.Operation

namespace SqlAccess.Query

/-- What a query does at once to its connection and its statement. -/
inductive Move : Query × Session → Query × Session → Prop where
  /-- It changes nothing about either. -/
  | configure {q q' : Query} {s : Session} (hhandle : q'.handle = q.handle)
      (hstatement : q'.statement = q.statement) : Move (q, s) (q', s)
  /-- It gives the statement back. -/
  | release {q : Query} {s : Session} {c : Connection} (hq : q.statement.isSome = true)
      (hc : q.handle.connection? = some c) : Move (q, s) (q.dropStatement, (s.closeStatement c).2)
  /-- It forgets a statement because there is no connection to give it back to. -/
  | forget {q : Query} {s : Session} (hq : q.statement.isSome = true)
      (hc : q.handle.connection? = none) : Move (q, s) (q.dropStatement, s)
  /-- It asks for a statement in vain. -/
  | refused {q : Query} {s : Session} {c : Connection} {sql : String} (hq : q.statement = none)
      (hc : q.handle.connection? = some c) (hs : Session.isOk (s.prepare c sql).1 = false) :
      Move (q, s) (q, (s.prepare c sql).2)
  /-- It asks for a statement and holds it. -/
  | prepare {q : Query} {s : Session} {c : Connection} {sql : String} (st : Statement)
      (hq : q.statement = none) (hc : q.handle.connection? = some c)
      (hs : Session.isOk (s.prepare c sql).1 = true) :
      Move (q, s) ({ q with statement := some st }, (s.prepare c sql).2)
  /-- It runs the statement that it holds, and rows change. -/
  | update {q : Query} {s : Session} {c : Connection} {st : Statement}
      (hq : q.statement = some st) (hc : q.handle.connection? = some c) :
      Move (q, s) (q, (s.update c st).2)
  /-- It runs the statement that it holds, and rows are read. -/
  | query {q : Query} {s : Session} {c : Connection} {st : Statement}
      (hq : q.statement = some st) (hc : q.handle.connection? = some c) :
      Move (q, s) (q, (s.query c st).2)
  /-- It closes its own connection. -/
  | close {q : Query} {s : Session} {d : Database} {c : Connection} (hq : q.statement = none)
      (hc : q.handle = .owned d (some c)) :
      Move (q, s) ({ q with handle := .owned d none }, (s.close c).2)
  /-- It asks its database for a connection in vain. -/
  | unconnected {q : Query} {s s' : Session} {d : Database} {e : Error} (hq : q.statement = none)
      (hc : q.handle = .owned d none) (hs : d.connect s = (.error e, s')) :
      Move (q, s) (q, s')
  /-- It asks its database for a connection and holds it. -/
  | connect {q : Query} {s s' : Session} {d : Database} {c : Connection} (hq : q.statement = none)
      (hc : q.handle = .owned d none) (hs : d.connect s = (.ok c, s')) :
      Move (q, s) ({ q with handle := .owned d (some c) }, s')

/-- Any number of moves. -/
abbrev Moves : Query × Session → Query × Session → Prop := Relation.ReflTransGen Move

/-! ### Statements and connections -/

theorem handle_release (q : Query) (s : Session) : (q.release s).1.handle = q.handle := by
  rw [release]
  split
  · rfl
  · split <;> rfl

theorem statement_release (q : Query) (s : Session) : (q.release s).1.statement = none := by
  rw [release]
  split
  · assumption
  · split <;> rfl

theorem moves_release (q : Query) (s : Session) : Moves (q, s) (q.release s) := by
  rw [release]
  split
  · exact .refl
  · next hq =>
    have hsome : q.statement.isSome = true := by rw [hq]; rfl
    split
    · next hc => exact .single (.release hsome hc)
    · next hc => exact .single (.forget hsome hc)

theorem statement_close (q : Query) (s : Session) : (q.close s).1.statement = none := by
  have hstatement := q.statement_release s
  rw [close]
  simp only
  split
  · exact hstatement
  · exact hstatement
  · exact hstatement

/-- A closed query has no connection of its own; a connection that was lent stays. -/
theorem handle_close (q : Query) (s : Session) :
    (q.close s).1.handle =
      match q.handle with
      | .owned d _ => .owned d none
      | .borrowed c => .borrowed c := by
  have hhandle := q.handle_release s
  rw [close]
  simp only [hhandle]
  split <;> simp_all

theorem moves_close (q : Query) (s : Session) : Moves (q, s) (q.close s) := by
  have hstatement := q.statement_release s
  rw [close]
  simp only
  split
  · next hc => exact (q.moves_release s).tail (.close hstatement hc)
  · exact q.moves_release s
  · exact q.moves_release s

theorem moves_closing {α : Type} {x : Query × Session} {work : Result α × Query × Session}
    (h : Moves x work.2) : Moves x (closing work).2 :=
  h.trans (moves_close work.2.1 work.2.2)

theorem connection?_of_get {h : Handle} {c : Connection} (hc : h.get = .ok c) :
    h.connection? = some c := by
  rcases h with ⟨d, _ | c'⟩ | c'
  · cases hc
  · cases hc
    rfl
  · cases hc
    rfl

theorem get_of_connection? {h : Handle} {c : Connection} (hc : h.connection? = some c) :
    h.get = .ok c := by
  rcases h with ⟨d, _ | c'⟩ | c'
  · cases hc
  · cases hc
    rfl
  · cases hc
    rfl

/-- Running a statement is a chain of moves if its execution is one. -/
theorem moves_execute {α : Type} {exec : Session → Connection → Statement → Result α × Session}
    (hexec : ∀ {q : Query} {s : Session} {c : Connection} {st : Statement},
      q.statement = some st → q.handle.connection? = some c → Move (q, s) (q, (exec s c st).2))
    (q : Query) (s : Session) (sql : String) (params : List Value) :
    Moves (q, s) (execute exec q s sql params).2 := by
  have hrelease := q.moves_release s
  have hstatement := q.statement_release s
  rw [execute]
  simp only
  split
  · exact hrelease
  · next c hget =>
    have hc := connection?_of_get hget
    split
    · next e s' hs =>
      -- nothing is held after a refusal
      have hmove := @Move.refused _ (q.release s).2 _ sql hstatement hc
      rw [hs] at hmove
      exact hrelease.tail (hmove rfl)
    · next st s' hs =>
      -- the statement is held before it runs, though the query is given it only afterwards
      have hmove := @Move.prepare _ (q.release s).2 _ sql (st.bind params) hstatement hc
      rw [hs] at hmove
      exact (hrelease.tail (hmove rfl)).tail (hexec rfl hc)

theorem moves_runUpdate (q : Query) (s : Session) (sql : String) (params : List Value) :
    Moves (q, s) (q.runUpdate s sql params).2 :=
  moves_execute Move.update q s sql params

theorem moves_runQuery (q : Query) (s : Session) (sql : String) (params : List Value) :
    Moves (q, s) (q.runQuery s sql params).2 := by
  rw [runQuery_eq]
  exact moves_execute Move.query q s sql params

/-! ### Operations -/

theorem moves_runBuilt (q : Query) (s : Session) (built : Result (String × List Value)) :
    Moves (q, s) (q.runBuilt s built).2 := by
  cases built with
  | ok b => exact q.moves_runUpdate s b.1 b.2
  | error e => exact .refl

theorem moves_reset (q : Query) (s : Session) : Moves (q, s) (q.reset s).2 := by
  have hrelease := q.moves_release s
  have hstatement := q.statement_release s
  -- what `reset` forgets concerns neither the connection nor the released statement
  have hcleared : Moves (q, s) ((q.release s).1.cleared, (q.release s).2) :=
    hrelease.tail (.configure rfl rfl)
  rw [reset]
  simp only
  split
  · next d hd =>
    split
    · next c s' hs => exact hcleared.tail (.connect hstatement hd hs)
    · next e s' hs => exact hcleared.tail (.unconnected hstatement hd hs)
  · exact hcleared
  · exact hcleared

theorem moves_count (q : Query) (s : Session) : Moves (q, s) (q.count s).2 :=
  (q.moves_runQuery s q.countSql q.binds).trans (moves_release _ _)

theorem moves_openCursor (q : Query) (s : Session) (sql : String) :
    Moves (q, s) (q.openCursor s sql).2 :=
  q.moves_runQuery s sql q.binds

theorem moves_withCursor (q : Query) (s : Session) (sql : String)
    (actions : List Cursor.Action) : Moves (q, s) (q.withCursor s sql actions).2 := by
  have hopen := q.moves_openCursor s sql
  rw [withCursor]
  split
  · next hcursor =>
    rw [hcursor] at hopen
    exact hopen
  · next hcursor =>
    rw [hcursor] at hopen
    exact moves_closing hopen

theorem moves_allRows (q : Query) (s : Session) : Moves (q, s) (q.allRows s).2 := by
  have hopen := q.moves_openCursor s q.selectSql
  rw [allRows]
  split
  · next hcursor =>
    rw [hcursor] at hopen
    exact hopen
  · next hcursor =>
    rw [hcursor] at hopen
    exact moves_closing hopen

theorem moves_total (q : Query) (s : Session) (known : Option UInt64) :
    Moves (q, s) (q.total s known).2 := by
  cases known with
  | none => exact q.moves_count s
  | some n => exact .refl

theorem moves_fetchPage (q : Query) (s : Session) (known : Option UInt64) (offset size : UInt64) :
    Moves (q, s) (q.fetchPage s known offset size).2 := by
  have htotal := q.moves_total s known
  rw [fetchPage]
  split
  · next hs =>
    rw [hs] at htotal
    exact htotal
  · next total q' s' hs =>
    rw [hs] at htotal
    -- the offset and the limit stay behind even if no row can be read
    have hpaged : Moves (q, s) ((q'.setOffset (some offset)).setLimit (some size), s') :=
      htotal.tail (.configure rfl rfl)
    exact hpaged.trans (moves_allRows _ _)

/-! ### Setters -/

/-- A query with the connection and the statement of another. -/
def SameHold (q q' : Query) : Prop := q'.handle = q.handle ∧ q'.statement = q.statement

theorem sameHold_addColumns (q : Query) (columns : List Column) :
    SameHold q (q.addColumns columns) := by
  induction columns generalizing q with
  | nil => exact ⟨rfl, rfl⟩
  | cons c columns ih => exact ih (q.addColumn c.name c)

theorem sameHold_addBind {q q' : Query} {type : ColumnType} {v : Value}
    (h : q.addBind type v = .ok q') : SameHold q q' := by
  rw [addBind] at h
  cases hv : type.toSql q.marshaller v with
  | ok w =>
    rw [hv] at h
    cases h
    exact ⟨rfl, rfl⟩
  | error e =>
    rw [hv] at h
    cases h

theorem sameHold_addBinds (q : Query) (entries : List (ColumnType × Value)) :
    SameHold q (q.addBinds entries).2 := by
  induction entries generalizing q with
  | nil => exact ⟨rfl, rfl⟩
  | cons entry entries ih =>
    rw [addBinds]
    split
    · next q' hq' =>
      have hadd := sameHold_addBind hq'
      have hrest := ih q'
      exact ⟨hrest.1.trans hadd.1, hrest.2.trans hadd.2⟩
    · exact ⟨rfl, rfl⟩

theorem sameHold_setBinds (q : Query) (b : Binds) : SameHold q (q.setBinds b).2 :=
  sameHold_addBinds { q with binds := [] } b.entries

theorem moves_of_sameHold (q q' : Query) (h : SameHold q q') (s : Session) :
    Moves (q, s) (q', s) :=
  .single (.configure h.1 h.2)

/-! ### Steps and runs -/

theorem answerOf_snd {α : Type} (answer : α → Answer) (work : Result α × Query × Session) :
    (answerOf answer work).2 = work.2 := by
  obtain ⟨_ | _, q, s⟩ := work <;> rfl

/-- Every operation is a chain of moves. -/
theorem moves_step (op : Operation) (q : Query) (s : Session) : Moves (q, s) (step op q s).2 := by
  cases op with
  | addColumn property column =>
    exact q.moves_of_sameHold (q.addColumn property column) ⟨rfl, rfl⟩ s
  | addColumns columns => exact q.moves_of_sameHold _ (q.sameHold_addColumns columns) s
  | setTable table => exact q.moves_of_sameHold (q.setTable table) ⟨rfl, rfl⟩ s
  | addJoin table => exact q.moves_of_sameHold (q.addJoin table) ⟨rfl, rfl⟩ s
  | setDistinct distinct => exact q.moves_of_sameHold (q.setDistinct distinct) ⟨rfl, rfl⟩ s
  | setWhere clause => exact q.moves_of_sameHold (q.setWhere clause) ⟨rfl, rfl⟩ s
  | setSupplement clause => exact q.moves_of_sameHold (q.setSupplement clause) ⟨rfl, rfl⟩ s
  | setOffset offset => exact q.moves_of_sameHold (q.setOffset offset) ⟨rfl, rfl⟩ s
  | setLimit limit => exact q.moves_of_sameHold (q.setLimit limit) ⟨rfl, rfl⟩ s
  | addBind type v =>
    rw [step]
    split
    · next hq' => exact q.moves_of_sameHold _ (sameHold_addBind hq') s
    · exact .refl
  | setBinds b =>
    rw [step]
    simp only [answerOf_snd]
    exact q.moves_of_sameHold _ (q.sameHold_setBinds b) s
  | reset =>
    rw [step, answerOf_snd]
    exact q.moves_reset s
  | close => exact q.moves_close s
  | insert values =>
    rw [step, answerOf_snd]
    exact moves_closing (q.moves_runBuilt s _)
  | update values =>
    rw [step, answerOf_snd]
    exact moves_closing (q.moves_runBuilt s _)
  | delete =>
    rw [step, answerOf_snd]
    exact moves_closing (q.moves_runUpdate s _ _)
  | executeUpdate sql =>
    rw [step, answerOf_snd]
    exact moves_closing (q.moves_runUpdate s _ _)
  | count =>
    rw [step, answerOf_snd]
    exact q.moves_count s
  | select actions =>
    rw [step, answerOf_snd]
    exact q.moves_withCursor s _ actions
  | executeQuery sql actions =>
    rw [step, answerOf_snd]
    exact q.moves_withCursor s sql actions
  | selectPage known offset size =>
    rw [step, answerOf_snd]
    exact moves_closing (q.moves_fetchPage s known offset size)

/-- Does operations in their order. -/
def run : List Operation → Query → Session → List Answer × Query × Session
  | [], q, s => ([], q, s)
  | op :: rest, q, s =>
    let (answer, q, s) := step op q s
    let (answers, q, s) := run rest q s
    (answer :: answers, q, s)

/-- Every run of operations is a chain of moves. -/
theorem moves_run (ops : List Operation) (q : Query) (s : Session) :
    Moves (q, s) (run ops q s).2 := by
  induction ops generalizing q s with
  | nil => exact .refl
  | cons op rest ih => exact (moves_step op q s).trans (ih _ _)

end SqlAccess.Query

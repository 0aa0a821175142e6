/-
What an operation leaves of the connection and the statement of a query.

`Query.Leaves` lists it by operation, and `Query.leaves_step` says that every operation
does, whatever the connection answers.  Work that ends a query leaves it closed also when
it fails; a cursor closes it once it was opened; a count gives back its statement and
keeps the connection.
-/
import SqlAccess.Proofs.QueryMoves

namespace SqlAccess.Query

/-- The query holds no statement, and no connection of its own. -/
def Closed (q : Query) : Prop :=
  q.statement = none ∧ ∀ d c, q.handle = .owned d c → c = none

/-- What an operation leaves of a query. -/
def Leaves (op : Operation) (answer : Answer) (q q' : Query) : Prop :=
  match op with
  | .close => q'.Closed
  | .insert _ => q'.Closed
  | .update _ => q'.Closed
  | .delete => q'.Closed
  | .executeUpdate _ => q'.Closed
  | .selectPage .. => q'.Closed
  | .select _ => (∃ answers, answer = .cursor answers) → q'.Closed
  | .executeQuery .. => (∃ answers, answer = .cursor answers) → q'.Closed
  | .count => q'.statement = none ∧ q'.handle = q.handle
  | .reset => q'.statement = none
  | _ => SameHold q q'

/-! ### Closing -/

theorem closed_close (q : Query) (s : Session) : (q.close s).1.Closed := by
  refine ⟨q.statement_close s, fun d c h => ?_⟩
  rw [handle_close] at h
  cases hhandle : q.handle with
  | owned d' c' =>
    rw [hhandle] at h
    cases h
    rfl
  | borrowed c' =>
    rw [hhandle] at h
    cases h

theorem closed_closing {α : Type} (work : Result α × Query × Session) :
    (closing work).2.1.Closed :=
  closed_close work.2.1 work.2.2

/-- A query that is closed has a connection only if it was lent. -/
theorem connection?_of_closed {q : Query} {d : Database} {c : Option Connection} (h : q.Closed)
    (hq : q.handle = .owned d c) : q.handle.connection? = none := by
  rw [hq]
  exact h.2 d c hq

/-- Closing a query again does nothing. -/
theorem Closed.close {q : Query} (h : q.Closed) (s : Session) : q.close s = (q, s) := by
  obtain ⟨hstatement, hhandle⟩ := h
  rw [Query.close, release, hstatement]
  simp only
  rcases hq : q.handle with ⟨d, _ | c⟩ | c
  · rfl
  · cases hhandle d _ hq
  · rfl

theorem closing_of_closed {α : Type} {q : Query} (h : q.Closed) (answer : Result α)
    (s : Session) : closing (answer, q, s) = (answer, q, s) := by
  rw [closing]
  simp only [h.close]

/-- A cursor that was opened closes the query at its end. -/
theorem closed_withCursor {q : Query} {s : Session} {sql : String} {actions : List Cursor.Action}
    {answers : List Cursor.Answer} (h : (q.withCursor s sql actions).1 = .ok answers) :
    (q.withCursor s sql actions).2.1.Closed := by
  rw [withCursor] at h ⊢
  -- without a cursor there would be no answers
  split at h
  · cases h
  · exact closed_closing _

/-! ### Keeping the connection -/

theorem handle_execute {α : Type} (exec : Session → Connection → Statement → Result α × Session)
    (q : Query) (s : Session) (sql : String) (params : List Value) :
    (execute exec q s sql params).2.1.handle = q.handle := by
  have hhandle := q.handle_release s
  rw [execute]
  simp only
  split
  · exact hhandle
  · split
    · exact hhandle
    · exact hhandle

theorem statement_count (q : Query) (s : Session) : (q.count s).2.1.statement = none :=
  statement_release _ _

theorem handle_count (q : Query) (s : Session) : (q.count s).2.1.handle = q.handle := by
  rw [count, runQuery_eq]
  exact (handle_release _ _).trans (handle_execute Session.query q s q.countSql q.binds)

theorem statement_reset (q : Query) (s : Session) : (q.reset s).2.1.statement = none := by
  have hstatement := q.statement_release s
  rw [reset]
  simp only
  split
  · split <;> exact hstatement
  · exact hstatement
  · exact hstatement

/-! ### Steps -/

theorem answerOf_cursor {work : Result (List Cursor.Answer) × Query × Session}
    {answers : List Cursor.Answer} (h : (answerOf .cursor work).1 = .cursor answers) :
    work.1 = .ok answers := by
  obtain ⟨_ | _, q, s⟩ := work
  · cases h
  · cases h
    rfl

/-- Every operation leaves what it should, whatever the connection answers. -/
theorem leaves_step (op : Operation) (q : Query) (s : Session) :
    Leaves op (step op q s).1 q (step op q s).2.1 := by
  cases op with
  | addColumn property column => exact ⟨rfl, rfl⟩
  | addColumns columns => exact q.sameHold_addColumns columns
  | setTable table => exact ⟨rfl, rfl⟩
  | addJoin table => exact ⟨rfl, rfl⟩
  | setDistinct distinct => exact ⟨rfl, rfl⟩
  | setWhere clause => exact ⟨rfl, rfl⟩
  | setSupplement clause => exact ⟨rfl, rfl⟩
  | setOffset offset => exact ⟨rfl, rfl⟩
  | setLimit limit => exact ⟨rfl, rfl⟩
  | addBind type v =>
    rw [step]
    split
    · next hq' => exact sameHold_addBind hq'
    · exact ⟨rfl, rfl⟩
  | setBinds b =>
    rw [step]
    simp only [answerOf_snd]
    exact q.sameHold_setBinds b
  | reset =>
    rw [step, answerOf_snd]
    exact q.statement_reset s
  | close => exact q.closed_close s
  | insert values =>
    rw [step, answerOf_snd]
    exact closed_closing _
  | update values =>
    rw [step, answerOf_snd]
    exact closed_closing _
  | delete =>
    rw [step, answerOf_snd]
    exact closed_closing _
  | executeUpdate sql =>
    rw [step, answerOf_snd]
    exact closed_closing _
  | count =>
    rw [step, answerOf_snd]
    exact ⟨q.statement_count s, q.handle_count s⟩
  | select actions =>
    rintro ⟨answers, hanswer⟩
    rw [step, answerOf_snd]
    exact closed_withCursor (answerOf_cursor hanswer)
  | executeQuery sql actions =>
    rintro ⟨answers, hanswer⟩
    rw [step, answerOf_snd]
    exact closed_withCursor (answerOf_cursor hanswer)
  | selectPage known offset size =>
    rw [step, answerOf_snd]
    exact closed_closing _

end SqlAccess.Query

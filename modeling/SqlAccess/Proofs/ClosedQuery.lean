/-
Queries that have closed their own connection.

Such a query holds nothing (`Query.Shut`), and keeps to it: until it is reset, whatever is done with
it makes no call of any kind, and every operation that would run a statement is refused
(`Query.Shut.step`, `Query.Shut.run`).  What cannot call, such as building SQL or reading cells,
has no session to begin with.

A reset asks the database for one connection, and what the query does from then on it does there:
`Query.nothing_after_close`.
-/
import SqlAccess.Proofs.PageFetch
import SqlAccess.Proofs.QueryCalls
import SqlAccess.Proofs.ResetQuery

namespace SqlAccess.Query

/-- The query has closed the connection that it had from a database, and holds nothing. -/
structure Shut (d : Database) (q : Query) : Prop where
  handle : q.handle = .owned d none
  statement : q.statement = none

/-- Why a closed query refuses an operation: the SQL cannot be built, or there is no connection
to run it on. -/
def refusal (d : Database) : Result String → Error
  | .ok _ => .connection (.queryClosed d.name)
  | .error e => e

/-- The operation has closed the query.  The end of a cursor does, but it has to be opened. -/
def Operation.Closes (op : Operation) (answer : Answer) : Prop :=
  match op with
  | .close => True
  | .insert _ => True
  | .update _ => True
  | .delete => True
  | .executeUpdate _ => True
  | .selectPage .. => True
  | .select _ => ∃ answers, answer = .cursor answers
  | .executeQuery .. => ∃ answers, answer = .cursor answers
  | _ => False

variable {q q' : Query} {d : Database} {c : Option Connection} {s s' : Session} {op : Operation}

/-! ### What closing leaves -/

theorem closed_of_closes (h : op.Closes (step op q s).1) : (step op q s).2.1.Closed := by
  have hleaves := leaves_step op q s
  cases op with
  | close => exact hleaves
  | insert values => exact hleaves
  | update values => exact hleaves
  | delete => exact hleaves
  | executeUpdate sql => exact hleaves
  | selectPage known offset size => exact hleaves
  | select actions => exact hleaves h
  | executeQuery sql actions => exact hleaves h
  | _ => cases h

/-- A query never changes the database that it has its connections from. -/
theorem owned_of_moves {x y : Query × Session} (hmoves : Moves x y)
    (hx : x.1.handle = .owned d c) : ∃ c', y.1.handle = .owned d c' := by
  induction hmoves with
  | refl => exact ⟨c, hx⟩
  | tail _ hmove ih =>
    obtain ⟨c', hc'⟩ := ih
    cases hmove with
    | configure hhandle _ => exact ⟨c', hhandle.trans hc'⟩
    | close _ hc =>
      cases hc.symm.trans hc'
      exact ⟨none, rfl⟩
    | connect _ hc _ =>
      cases hc.symm.trans hc'
      exact ⟨_, rfl⟩
    | _ => exact ⟨c', hc'⟩

theorem shut_of_closes (hq : q.handle = .owned d c) (h : op.Closes (step op q s).1) :
    Shut d (step op q s).2.1 := by
  obtain ⟨hstatement, hconnection⟩ := closed_of_closes h
  obtain ⟨c', hc'⟩ := owned_of_moves (moves_step op q s) hq
  refine ⟨?_, hstatement⟩
  rw [hc', hconnection d c' hc']

/-! ### What a closed query does -/

namespace Shut

theorem closed (h : Shut d q) : q.Closed := by
  refine ⟨h.statement, fun d' c hc => ?_⟩
  rw [h.handle] at hc
  cases hc
  rfl

theorem of_sameHold (h : Shut d q) (hhold : SameHold q q') : Shut d q' :=
  ⟨hhold.1.trans h.handle, hhold.2.trans h.statement⟩

theorem release (h : Shut d q) (s : Session) : q.release s = (q, s) := by
  rw [Query.release, h.statement]

theorem execute (h : Shut d q) {α : Type}
    (exec : Session → Connection → Statement → Result α × Session) (s : Session) (sql : String)
    (params : List Value) :
    Query.execute exec q s sql params = (.error (.connection (.queryClosed d.name)), q, s) := by
  rw [Query.execute]
  simp only [h.release, h.handle, Handle.get]

theorem runBuilt (h : Shut d q) (s : Session) (built : Result (String × List Value)) :
    q.runBuilt s built = (.error (refusal d (built.map (·.1))), q, s) := by
  cases built with
  | ok b => exact h.execute Session.update s b.1 b.2
  | error e => rfl

theorem openCursor (h : Shut d q) (s : Session) (sql : String) :
    q.openCursor s sql = (.error (.connection (.queryClosed d.name)), q, s) := by
  rw [Query.openCursor, runQuery_eq, h.execute]
  rfl

theorem count (h : Shut d q) (s : Session) :
    q.count s = (.error (.connection (.queryClosed d.name)), q, s) := by
  rw [Query.count, runQuery_eq, h.execute]
  simp only [h.release]
  rfl

theorem withCursor (h : Shut d q) (s : Session) (sql : String) (actions : List Cursor.Action) :
    q.withCursor s sql actions = (.error (.connection (.queryClosed d.name)), q, s) := by
  rw [Query.withCursor, h.openCursor]

/-- A page is refused as well, though its place is noted if the rows need not be counted. -/
theorem selectPage (h : Shut d q) (s : Session) (known : Option UInt64) (offset size : UInt64) :
    ∃ q', q.selectPage s known offset size =
        (.error (.connection (.queryClosed d.name)), q', s) ∧ Shut d q' := by
  cases known with
  | none =>
    refine ⟨q, ?_, h⟩
    rw [selectPage_of_no_count (h.count s), h.closed.close]
  | some total =>
    have hpage : Shut d (q.page offset size) := h.of_sameHold ⟨rfl, rfl⟩
    have hrows : (q.page offset size).allRows s =
        (.error (.connection (.queryClosed d.name)), q.page offset size, s) := by
      rw [allRows, hpage.openCursor]
    refine ⟨q.page offset size, ?_, hpage⟩
    rw [page] at hrows hpage ⊢
    rw [Query.selectPage, fetchPage, Query.total]
    simp only [hrows]
    exact closing_of_closed hpage.closed _ s

/-- Until it is reset, a closed query makes no call, stays closed, and refuses to run anything. -/
theorem step (h : Shut d q) (hop : op ≠ .reset) (s : Session) :
    (Query.step op q s).2.2 = s ∧ Shut d (Query.step op q s).2.1 ∧
      ∀ built, op.sql? q = some built → (Query.step op q s).1 = .failed (refusal d built) := by
  cases hsets : op.isSetter with
  | true =>
    obtain ⟨hhold, hsession⟩ := step_of_isSetter hsets q s
    refine ⟨hsession, h.of_sameHold hhold, fun built hbuilt => ?_⟩
    rw [sql?_of_isSetter hsets] at hbuilt
    cases hbuilt
  | false =>
    cases op with
    | reset => exact absurd rfl hop
    | close =>
      rw [Query.step, h.closed.close]
      exact ⟨rfl, h, fun built hbuilt => by cases hbuilt⟩
    | insert values =>
      rw [Query.step, Query.insert, h.runBuilt, closing_of_closed h.closed]
      exact ⟨rfl, h, fun built hbuilt => by cases hbuilt; rfl⟩
    | update values =>
      rw [Query.step, Query.update, h.runBuilt, closing_of_closed h.closed]
      exact ⟨rfl, h, fun built hbuilt => by cases hbuilt; rfl⟩
    | delete =>
      rw [Query.step, Query.delete, runUpdate, h.execute, closing_of_closed h.closed]
      exact ⟨rfl, h, fun built hbuilt => by cases hbuilt; rfl⟩
    | executeUpdate sql =>
      rw [Query.step, Query.executeUpdate, runUpdate, h.execute, closing_of_closed h.closed]
      exact ⟨rfl, h, fun built hbuilt => by cases hbuilt; rfl⟩
    | count =>
      rw [Query.step, h.count]
      exact ⟨rfl, h, fun built hbuilt => by cases hbuilt; rfl⟩
    | select actions =>
      rw [Query.step, h.withCursor]
      exact ⟨rfl, h, fun built hbuilt => by cases hbuilt; rfl⟩
    | executeQuery sql actions =>
      rw [Query.step, h.withCursor]
      exact ⟨rfl, h, fun built hbuilt => by cases hbuilt; rfl⟩
    | selectPage known offset size =>
      obtain ⟨q', hpage, hq'⟩ := h.selectPage s known offset size
      rw [Query.step, hpage]
      refine ⟨rfl, hq', fun built hbuilt => ?_⟩
      cases known <;> cases hbuilt <;> rfl
    | _ => cases hsets

theorem run {ops : List Operation} (h : Shut d q) (hops : .reset ∉ ops) (s : Session) :
    (Query.run ops q s).2.2 = s ∧ Shut d (Query.run ops q s).2.1 := by
  induction ops generalizing q with
  | nil => exact ⟨rfl, h⟩
  | cons op rest ih =>
    have hop : op ≠ .reset := fun hreset => hops (hreset ▸ List.mem_cons_self)
    obtain ⟨hsession, hshut, -⟩ := h.step hop s
    have hrest := ih hshut fun hmem => hops (List.mem_cons_of_mem _ hmem)
    rw [Query.run]
    simp only [hsession]
    exact hrest

/-- A reset that succeeds has asked the database for one connection and for nothing else. -/
theorem reset_eq_ok (h : Shut d q) (hreset : q.reset s = (.ok (), q', s')) :
    ∃ c driver request, q'.handle = .owned d (some c) ∧ c.id = s.opened ∧
      s'.opened = s.opened + 1 ∧ s'.history = ⟨.connect driver request, true⟩ :: s.history := by
  rw [reset_of_closed h.handle, h.release] at hreset
  rcases d.connect_cases s with ⟨e, t, hconnect, -⟩ |
    ⟨c, t, driver, request, hconnect, hid, hopened, hhistory⟩
  · rw [hconnect] at hreset
    cases hreset
  · rw [hconnect] at hreset
    cases hreset
    exact ⟨c, driver, request, rfl, hid, hopened, hhistory⟩

end Shut

/-! ### After a reset -/

/-- Between two states the query called this connection only.  As long as it has it, every
operation that runs a statement asks the connection for it; the query may also have closed it. -/
structure RunsOn (d : Database) (c : Connection) (x y : Query × Session) : Prop where
  calls : Session.CallsOnly (some c) x.2 y.2
  keeps : y.1.handle = .owned d (some c) ∨ y.1.handle = .owned d none
  asks : y.1.handle = .owned d (some c) → ∀ op sql, op.sql? y.1 = some (.ok sql) →
    Session.Asked c sql y.2 (Query.step op y.1 y.2).2.2

theorem runsOn_run {c : Connection} {ops : List Operation} (hq : q.handle = .owned d (some c))
    (hops : .reset ∉ ops) (s : Session) : RunsOn d c (q, s) (run ops q s).2 := by
  obtain ⟨hconnection, hcalls⟩ := stays_run hops q s
  have hc : q.handle.connection? = some c := by rw [hq]; rfl
  rw [hc] at hconnection hcalls
  obtain ⟨c', hc'⟩ := owned_of_moves (moves_run ops q s) hq
  refine ⟨hcalls, ?_, fun hkept op sql hsql => asked_step (by rw [hkept]; rfl) hsql _⟩
  rw [hc'] at hconnection ⊢
  rcases hconnection with hsame | hnone
  · exact .inl (congrArg _ hsame)
  · exact .inr (congrArg _ hnone)

/-- **A closed query touches nothing.**  Let a query with a connection of its own be closed by an
operation.  Whatever is then done with it, a reset apart, makes no call of any kind: the session
is the one that the operation left.  The query keeps to holding nothing, and whatever would run a
statement is refused.  If it is then reset, exactly one connection is requested in between, and
the query runs on it. -/
theorem nothing_after_close {ops : List Operation} (howned : q.handle = .owned d c)
    (hcloses : op.Closes (step op q s).1) (hops : .reset ∉ ops) :
    let closed := (step op q s).2
    let later := (run ops closed.1 closed.2).2
    later.2 = closed.2 ∧ Shut d later.1 ∧
      (∀ op built, op.sql? later.1 = some built →
        (step op later.1 later.2).1 = .failed (refusal d built)) ∧
      ∀ q' s', later.1.reset later.2 = (.ok (), q', s') →
        ∃ c' driver request, q'.handle = .owned d (some c') ∧ c'.id = later.2.opened ∧
          s'.opened = later.2.opened + 1 ∧
          s'.history = ⟨.connect driver request, true⟩ :: later.2.history ∧
          ∀ more : List Operation, .reset ∉ more → RunsOn d c' (q', s') (run more q' s').2 := by
  intro closed later
  have hshut : Shut d closed.1 := shut_of_closes howned hcloses
  obtain ⟨hsession, hlater⟩ := hshut.run hops closed.2
  refine ⟨hsession, hlater, fun op built hbuilt => ?_, fun q' s' hreset => ?_⟩
  · have hop : op ≠ .reset := fun hreset => by
      subst hreset
      cases hbuilt
    exact (hlater.step hop later.2).2.2 built hbuilt
  · obtain ⟨c', driver, request, hc', hid, hopened, hhistory⟩ := hlater.reset_eq_ok hreset
    exact ⟨c', driver, request, hc', hid, hopened, hhistory, fun more hmore =>
      runsOn_run hc' hmore s'⟩

/-- An update of all players closes the query.  A condition, a count and another close then change
nothing, the count is refused, and after a reset it is run on a second connection. -/
theorem nothing_after_close_of_update :
    let d : Database := ((StandardDatabase.new "main").settled ⟨.scripted, "db:main"⟩).toDatabase
    let s₀ := Session.start ⟨.generic, 1, fun _ _ => false, fun _ => none⟩ [⟨["COUNT(*)"], []⟩]
    let s := (d.connect s₀).2
    let onConnection (id : Nat) : Query :=
      fresh (.owned d (some ⟨id, .scripted, .generic⟩)) "players" .json none
    let closed := (step (.executeUpdate "UPDATE players SET chips = 0") (onConnection 0) s).2
    let later := (run [.setWhere "chips >= 9", .count, .close] closed.1 closed.2).2
    later.2 = closed.2 ∧
      (step .count later.1 later.2).1 = .failed (.connection (.queryClosed "main")) ∧
      RunsOn d ⟨1, .scripted, .generic⟩ (onConnection 1, (d.connect closed.2).2)
        (run [.count] (onConnection 1) (d.connect closed.2).2).2 := by
  intro d s₀ s onConnection closed later
  have hops : Operation.reset ∉ [Operation.setWhere "chips >= 9", .count, .close] := by simp
  have hmore : Operation.reset ∉ [Operation.count] := by simp
  have howned : (onConnection 0).handle = .owned d (some ⟨0, .scripted, .generic⟩) := rfl
  have hcloses : (Operation.executeUpdate "UPDATE players SET chips = 0").Closes
      (step (.executeUpdate "UPDATE players SET chips = 0") (onConnection 0) s).1 := trivial
  obtain ⟨hsession, -, hrefused, hreset⟩ := nothing_after_close howned hcloses hops
  obtain ⟨c', _, _, hc', -, -, -, hruns⟩ := hreset (onConnection 1) _ rfl
  cases hc'
  exact ⟨hsession, hrefused .count _ rfl, hruns [.count] hmore⟩

end SqlAccess.Query

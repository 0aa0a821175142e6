/-
Which connection the operations of a query call.

An operation other than a reset calls the connection that the query has and no other, and asks no
database for another (`Query.stays_step`).  So a query without a connection calls nothing, and one
with a connection keeps to it until it is closed.

An operation that runs a statement asks the connection for it as soon as the SQL is built, whatever
becomes of it (`Query.asked_step`).
-/
import SqlAccess.Proofs.QueryOutcome
import SqlAccess.Proofs.QueryStatements

namespace SqlAccess

namespace Session

variable {s s' s'' : Session} {o : Option Connection} {c : Connection} {call : Call}

/-- All calls between two states went to a connection; without one there were none. -/
def CallsOnly (o : Option Connection) (s s' : Session) : Prop :=
  ∃ events, s'.history = events ++ s.history ∧
    ∀ e ∈ events, ∃ c, o = some c ∧ e.call.connection? = some c

theorem CallsOnly.refl (o : Option Connection) (s : Session) : CallsOnly o s s :=
  ⟨[], rfl, fun e he => by cases he⟩

theorem CallsOnly.trans (h : CallsOnly o s s') (h' : CallsOnly o s' s'') : CallsOnly o s s'' := by
  obtain ⟨events, hhistory, hevents⟩ := h
  obtain ⟨events', hhistory', hevents'⟩ := h'
  refine ⟨events' ++ events, by rw [hhistory', hhistory, List.append_assoc], fun e he => ?_⟩
  rcases List.mem_append.1 he with he | he
  · exact hevents' e he
  · exact hevents e he

/-- The call is all that is new. -/
theorem CallsOnly.of_history {ok : Bool} (h : s'.history = ⟨call, ok⟩ :: s.history)
    (hcall : call.connection? = some c) : CallsOnly (some c) s s' := by
  refine ⟨[⟨call, ok⟩], h, fun e he => ?_⟩
  rw [List.mem_singleton.1 he]
  exact ⟨c, rfl, hcall⟩

theorem CallsOnly.of_adds (h : s.Adds call s') (hcall : call.connection? = some c) :
    CallsOnly (some c) s s' := by
  obtain ⟨ok, hhistory, _⟩ := h
  exact .of_history hhistory hcall

/-- Without a connection there were no calls at all. -/
theorem CallsOnly.weaken (h : CallsOnly none s s') (o : Option Connection) : CallsOnly o s s' := by
  obtain ⟨events, hhistory, hevents⟩ := h
  refine ⟨events, hhistory, fun e he => ?_⟩
  obtain ⟨c, hc, _⟩ := hevents e he
  cases hc

/-- A connection was asked for a statement between two states, in vain or not. -/
def Asked (c : Connection) (sql : String) (s s' : Session) : Prop :=
  ∃ events, s'.history = events ++ s.history ∧ ∃ ok, ⟨.prepare c sql, ok⟩ ∈ events

/-- What was asked for stays in the history. -/
theorem Asked.mono {P : Statement → Prop} {sql : String} (h : Asked c sql s s')
    (hlater : RunsOnly P s' s'') : Asked c sql s s'' := by
  obtain ⟨events, hhistory, ok, hmem⟩ := h
  obtain ⟨events', hhistory', _⟩ := hlater
  refine ⟨events' ++ events, by rw [hhistory', hhistory, List.append_assoc], ok, ?_⟩
  exact List.mem_append_right events' hmem

end Session

namespace Query

/-- Work on a query called its connection only, and left it with this connection or with none. -/
structure Stays (x y : Query × Session) : Prop where
  connection : y.1.handle.connection? = x.1.handle.connection? ∨ y.1.handle.connection? = none
  calls : Session.CallsOnly x.1.handle.connection? x.2 y.2

namespace Stays

variable {x y z : Query × Session}

theorem refl (x : Query × Session) : Stays x x := ⟨.inl rfl, .refl _ _⟩

theorem trans (h : Stays x y) (h' : Stays y z) : Stays x z := by
  rcases h.connection with hsame | hnone
  · exact ⟨hsame ▸ h'.connection, h.calls.trans (hsame ▸ h'.calls)⟩
  · -- nothing can be called after the connection is gone
    have hlater := h'.calls
    have hconnection := h'.connection
    rw [hnone] at hlater hconnection
    exact ⟨.inr (or_self_iff.1 hconnection), h.calls.trans (hlater.weaken _)⟩

end Stays

/-! ### One connection -/

theorem stays_release (q : Query) (s : Session) : Stays (q, s) (q.release s) := by
  refine ⟨.inl (congrArg Handle.connection? (q.handle_release s)), ?_⟩
  rw [release]
  split
  · exact .refl _ s
  · split
    · next c hc =>
      rw [hc]
      exact .of_adds (s.adds_closeStatement c) rfl
    · exact .refl _ s

theorem stays_close (q : Query) (s : Session) : Stays (q, s) (q.close s) := by
  have hrelease : Stays (q, s) (q.release s) := q.stays_release s
  rw [close]
  simp only
  split
  · next d c hc =>
    have hcalls : Session.CallsOnly (q.release s).1.handle.connection? (q.release s).2
        ((q.release s).2.close c).2 := by
      rw [hc]
      exact .of_adds (Session.adds_close _ c) rfl
    exact hrelease.trans ⟨.inr rfl, hcalls⟩
  · exact hrelease
  · exact hrelease

theorem stays_closing {α : Type} {x : Query × Session} {work : Result α × Query × Session}
    (h : Stays x work.2) : Stays x (closing work).2 :=
  h.trans (stays_close work.2.1 work.2.2)

/-- Running a statement calls the connection only if its execution does. -/
theorem stays_execute {α : Type} {exec : Session → Connection → Statement → Result α × Session}
    (hexec : ∀ (s : Session) (c : Connection) (st : Statement),
      ∃ call, s.Adds call (exec s c st).2 ∧ call.connection? = some c)
    (q : Query) (s : Session) (sql : String) (params : List Value) :
    Stays (q, s) (execute exec q s sql params).2 := by
  have hrelease : Stays (q, s) (q.release s) := q.stays_release s
  refine ⟨.inl (congrArg Handle.connection? (handle_execute exec q s sql params)), ?_⟩
  rw [execute]
  simp only
  split
  · exact hrelease.calls
  · next c hget =>
    have hc : q.handle.connection? = some c := by
      rw [← q.handle_release s]
      exact connection?_of_get hget
    have hprepare := hrelease.calls
    rw [hc] at hprepare ⊢
    replace hprepare := hprepare.trans
      (.of_history (Session.prepare_history (q.release s).2 c sql) rfl)
    split
    · next e s' hs =>
      rw [hs] at hprepare
      exact hprepare
    · next st s' hs =>
      rw [hs] at hprepare
      obtain ⟨call, hadds, hcall⟩ := hexec s' c (st.bind params)
      exact hprepare.trans (.of_adds hadds hcall)

theorem stays_runUpdate (q : Query) (s : Session) (sql : String) (params : List Value) :
    Stays (q, s) (q.runUpdate s sql params).2 :=
  stays_execute (fun s c st => ⟨.update c st, s.adds_update c st, rfl⟩) q s sql params

theorem stays_openCursor (q : Query) (s : Session) (sql : String) :
    Stays (q, s) (q.openCursor s sql).2 := by
  rw [openCursor, runQuery_eq]
  exact stays_execute (fun s c st => ⟨.query c st, s.adds_query c st, rfl⟩) q s sql q.binds

theorem stays_runBuilt (q : Query) (s : Session) (built : Result (String × List Value)) :
    Stays (q, s) (q.runBuilt s built).2 := by
  cases built with
  | ok b => exact q.stays_runUpdate s b.1 b.2
  | error e => exact .refl _

theorem stays_count (q : Query) (s : Session) : Stays (q, s) (q.count s).2 :=
  (q.stays_openCursor s q.countSql).trans (stays_release _ _)

theorem stays_reading {α : Type} {x : Query × Session} {work : Result Cursor × Query × Session}
    (read : Cursor → Query → Result α) (h : Stays x work.2) : Stays x (reading read work).2 := by
  obtain ⟨_ | _, q, s⟩ := work
  · exact h
  · exact stays_closing h

theorem stays_fetchPage (q : Query) (s : Session) (known : Option UInt64)
    (offset size : UInt64) : Stays (q, s) (q.fetchPage s known offset size).2 := by
  have htotal : Stays (q, s) (q.total s known).2 := by
    cases known with
    | none => exact q.stays_count s
    | some n => exact .refl _
  rw [fetchPage]
  split
  · next hs =>
    rw [hs] at htotal
    exact htotal
  · next total q' s' hs =>
    rw [hs] at htotal
    -- the offset and the limit have no part in what is called
    have hpage : Stays (q, s) (q'.page offset size, s') := ⟨htotal.connection, htotal.calls⟩
    exact hpage.trans (stays_reading Cursor.intoRows (stays_openCursor _ s' _))

/-! ### Steps and runs -/

/-- Whether an operation only sets something. -/
def Operation.isSetter : Operation → Bool
  | .reset => false
  | .close => false
  | .insert _ => false
  | .update _ => false
  | .delete => false
  | .executeUpdate _ => false
  | .count => false
  | .select _ => false
  | .executeQuery .. => false
  | .selectPage .. => false
  | _ => true

/-- Setting something concerns neither the connection nor the statement, and calls nothing. -/
theorem step_of_isSetter {op : Operation} (h : op.isSetter = true) (q : Query) (s : Session) :
    SameHold q (step op q s).2.1 ∧ (step op q s).2.2 = s := by
  have hleaves := leaves_step op q s
  cases op with
  | addBind type v =>
    refine ⟨hleaves, ?_⟩
    rw [step]
    cases q.addBind type v <;> rfl
  | setBinds b =>
    refine ⟨hleaves, ?_⟩
    rw [step]
    simp only [answerOf_snd]
  | reset => cases h
  | close => cases h
  | insert values => cases h
  | update values => cases h
  | delete => cases h
  | executeUpdate sql => cases h
  | count => cases h
  | select actions => cases h
  | executeQuery sql actions => cases h
  | selectPage known offset size => cases h
  | _ => exact ⟨hleaves, rfl⟩

/-- An operation other than a reset calls the connection of the query and no other. -/
theorem stays_step {op : Operation} (hop : op ≠ .reset) (q : Query) (s : Session) :
    Stays (q, s) (step op q s).2 := by
  cases hsets : op.isSetter with
  | true =>
    obtain ⟨hhold, hsession⟩ := step_of_isSetter hsets q s
    refine ⟨.inl (congrArg Handle.connection? hhold.1), ?_⟩
    show Session.CallsOnly q.handle.connection? s (step op q s).2.2
    rw [hsession]
    exact .refl _ s
  | false =>
    cases op with
    | reset => exact absurd rfl hop
    | close => exact q.stays_close s
    | insert values =>
      rw [step, answerOf_snd]
      exact stays_closing (q.stays_runBuilt s _)
    | update values =>
      rw [step, answerOf_snd]
      exact stays_closing (q.stays_runBuilt s _)
    | delete =>
      rw [step, answerOf_snd]
      exact stays_closing (q.stays_runUpdate s _ _)
    | executeUpdate sql =>
      rw [step, answerOf_snd]
      exact stays_closing (q.stays_runUpdate s _ _)
    | count =>
      rw [step, answerOf_snd]
      exact q.stays_count s
    | select actions =>
      rw [step, answerOf_snd]
      exact stays_reading _ (q.stays_openCursor s _)
    | executeQuery sql actions =>
      rw [step, answerOf_snd]
      exact stays_reading _ (q.stays_openCursor s _)
    | selectPage known offset size =>
      rw [step, answerOf_snd]
      exact stays_closing (q.stays_fetchPage s known offset size)
    | _ => cases hsets

/-- So does a run of operations without a reset. -/
theorem stays_run {ops : List Operation} (hops : .reset ∉ ops) (q : Query) (s : Session) :
    Stays (q, s) (run ops q s).2 := by
  induction ops generalizing q s with
  | nil => exact .refl _
  | cons op rest ih =>
    have hop : op ≠ .reset := fun h => hops (h ▸ List.mem_cons_self)
    have hrest : .reset ∉ rest := fun h => hops (List.mem_cons_of_mem _ h)
    exact (stays_step hop q s).trans (ih hrest _ _)

/-! ### Asking for statements -/

/-- The SQL of the first statement that an operation runs, or why it cannot be built; `none` for
an operation that runs no statement. -/
def Operation.sql? (q : Query) : Operation → Option (Result String)
  | .insert values => some ((q.insertion values).map (·.1))
  | .update values => some ((q.modification values).map (·.1))
  | .delete => some (.ok q.deleteSql)
  | .executeUpdate sql => some (.ok sql)
  | .count => some (.ok q.countSql)
  | .select _ => some (.ok q.selectSql)
  | .executeQuery sql _ => some (.ok sql)
  | .selectPage none _ _ => some (.ok q.countSql)
  | .selectPage (some _) offset size => some (.ok (q.page offset size).selectSql)
  | _ => none

theorem sql?_of_isSetter {op : Operation} (h : op.isSetter = true) (q : Query) :
    op.sql? q = none := by
  cases op <;> first | rfl | cases h

variable {q : Query} {s : Session} {c : Connection} {sql : String}

theorem asked_execute {α : Type} {exec : Session → Connection → Statement → Result α × Session}
    (hexec : ∀ (s : Session) (c : Connection) (st : Statement),
      ∃ call, s.Adds call (exec s c st).2)
    (hc : q.handle.connection? = some c) (s : Session) (params : List Value) :
    Session.Asked c sql s (execute exec q s sql params).2.2 := by
  have hget : (q.release s).1.handle.get = .ok c := by
    rw [handle_release]
    exact get_of_connection? hc
  have hprepare : Session.Asked c sql s ((q.release s).2.prepare c sql).2 := by
    obtain ⟨events, hhistory, _⟩ := q.runsOnly_release (P := fun _ => True) s
    let asked : Event := ⟨.prepare c sql, Session.isOk ((q.release s).2.prepare c sql).1⟩
    refine ⟨asked :: events, ?_, _, List.mem_cons_self⟩
    rw [Session.prepare_history, hhistory]
    rfl
  rw [execute]
  simp only [hget]
  split
  · next e s' hs =>
    rw [hs] at hprepare
    exact hprepare
  · next st s' hs =>
    rw [hs] at hprepare
    -- the statement was asked for before it is run
    obtain ⟨call, hadds⟩ := hexec s' c (st.bind params)
    exact hprepare.mono (.of_adds (P := fun _ => True) hadds fun _ _ => trivial)

theorem asked_runUpdate (hc : q.handle.connection? = some c) (s : Session)
    (params : List Value) : Session.Asked c sql s (q.runUpdate s sql params).2.2 :=
  asked_execute (fun s c st => ⟨.update c st, s.adds_update c st⟩) hc s params

theorem asked_openCursor (hc : q.handle.connection? = some c) (s : Session) :
    Session.Asked c sql s (q.openCursor s sql).2.2 := by
  rw [openCursor, runQuery_eq]
  exact asked_execute (fun s c st => ⟨.query c st, s.adds_query c st⟩) hc s q.binds

theorem asked_closing {α : Type} {work : Result α × Query × Session}
    (h : Session.Asked c sql s work.2.2) : Session.Asked c sql s (closing work).2.2 :=
  h.mono (runsOnly_close (P := fun _ => True) work.2.1 work.2.2)

theorem asked_runBuilt (hc : q.handle.connection? = some c) (s : Session)
    {built : Result (String × List Value)} (hbuilt : built.map (·.1) = .ok sql) :
    Session.Asked c sql s (q.runBuilt s built).2.2 := by
  cases built with
  | ok b =>
    cases hbuilt
    exact asked_runUpdate hc s b.2
  | error e => cases hbuilt

theorem asked_reading {α : Type} {work : Result Cursor × Query × Session}
    (read : Cursor → Query → Result α) (h : Session.Asked c sql s work.2.2) :
    Session.Asked c sql s (reading read work).2.2 := by
  obtain ⟨_ | _, q, s'⟩ := work
  · exact h
  · exact asked_closing h

theorem asked_count (hc : q.handle.connection? = some c) (s : Session) :
    Session.Asked c q.countSql s (q.count s).2.2 :=
  (asked_openCursor hc s).mono (runsOnly_release (P := fun _ => True) _ _)

/-- What counting the rows of a page has asked for stays asked for when they are read. -/
theorem asked_fetchPage_none (hc : q.handle.connection? = some c) (s : Session)
    (offset size : UInt64) :
    Session.Asked c q.countSql s (q.fetchPage s none offset size).2.2 := by
  have hcount := asked_count hc s
  rw [fetchPage, total]
  split
  · next hs =>
    rw [hs] at hcount
    exact hcount
  · next n q' s' hs =>
    rw [hs] at hcount
    exact hcount.mono (runsOnly_allRows (P := fun _ => True) (q'.page offset size) s' trivial)

/-- An operation that runs a statement asks the connection for it. -/
theorem asked_step {op : Operation} (hc : q.handle.connection? = some c)
    (hsql : op.sql? q = some (.ok sql)) (s : Session) :
    Session.Asked c sql s (step op q s).2.2 := by
  cases op with
  | insert values =>
    rw [step, answerOf_snd]
    exact asked_closing (asked_runBuilt hc s (Option.some.inj hsql))
  | update values =>
    rw [step, answerOf_snd]
    exact asked_closing (asked_runBuilt hc s (Option.some.inj hsql))
  | delete =>
    cases hsql
    rw [step, answerOf_snd]
    exact asked_closing (asked_runUpdate hc s _)
  | executeUpdate sql =>
    cases hsql
    rw [step, answerOf_snd]
    exact asked_closing (asked_runUpdate hc s _)
  | count =>
    cases hsql
    rw [step, answerOf_snd]
    exact asked_count hc s
  | select actions =>
    cases hsql
    rw [step, answerOf_snd]
    exact asked_reading _ (asked_openCursor hc s)
  | executeQuery sql actions =>
    cases hsql
    rw [step, answerOf_snd]
    exact asked_reading _ (asked_openCursor hc s)
  | selectPage known offset size =>
    rw [step, answerOf_snd]
    cases known with
    | none =>
      cases hsql
      exact asked_closing (asked_fetchPage_none hc s offset size)
    | some total =>
      cases hsql
      have hpage : (q.page offset size).handle.connection? = some c := hc
      exact asked_closing (asked_reading Cursor.intoRows (asked_openCursor hpage s))
  | _ => cases hsql

end Query

end SqlAccess

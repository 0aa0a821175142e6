/-
What a call adds to the history of a session.

Every call to a connection adds one event to the history, whether it succeeds or not,
and leaves the number of connections as it was (`Session.Adds`).  Only a driver that is
asked for a connection and grants it raises that number, and the connection takes the
next one (`Session.connect_cases`).

Which statements were run between two states of a session is read off what is new in the
history (`Session.Ran`).
-/
import SqlAccess.Database

namespace SqlAccess

/-- The statement that a call runs. -/
def Call.statement? : Call → Option Statement
  | update _ st => some st
  | query _ st => some st
  | _ => none

namespace Event

/-- Whether the event is a call of a method. -/
def made (m : Method) (e : Event) : Bool := e.call.method == m

/-- Whether the event is a call of a method that succeeded. -/
def granted (m : Method) (e : Event) : Bool := e.made m && e.succeeded

/-- Whether the event is a call to the connection with a number. -/
def isOn (id : Nat) (e : Event) : Bool := e.call.connection?.any (·.id == id)

theorem isOn_of_connection? {e : Event} {c : Connection} (h : e.call.connection? = some c)
    (id : Nat) : e.isOn id = (c.id == id) := by
  simp [isOn, h]

end Event

namespace Session

/-! ### Calls to connections -/

/-- A call became the latest event, and no connection was opened. -/
def Adds (s : Session) (call : Call) (s' : Session) : Prop :=
  ∃ ok, s'.history = ⟨call, ok⟩ :: s.history ∧ s'.opened = s.opened

theorem adds_closeStatement (s : Session) (c : Connection) :
    s.Adds (.closeStatement c) (s.closeStatement c).2 := ⟨_, rfl, rfl⟩

theorem adds_close (s : Session) (c : Connection) : s.Adds (.close c) (s.close c).2 := by
  rw [close]
  cases c.endpoint <;> exact ⟨_, rfl, rfl⟩

theorem adds_update (s : Session) (c : Connection) (st : Statement) :
    s.Adds (.update c st) (s.update c st).2 := by
  rw [update]
  split
  · exact ⟨_, rfl, rfl⟩
  · split
    · split <;> exact ⟨_, rfl, rfl⟩
    · exact ⟨_, rfl, rfl⟩

theorem adds_query (s : Session) (c : Connection) (st : Statement) :
    s.Adds (.query c st) (s.query c st).2 := by
  rw [query]
  split
  · exact ⟨_, rfl, rfl⟩
  · split
    · split <;> exact ⟨_, rfl, rfl⟩
    · exact ⟨_, rfl, rfl⟩

theorem prepare_history (s : Session) (c : Connection) (sql : String) :
    (s.prepare c sql).2.history = ⟨.prepare c sql, isOk (s.prepare c sql).1⟩ :: s.history := rfl

theorem prepare_opened (s : Session) (c : Connection) (sql : String) :
    (s.prepare c sql).2.opened = s.opened := rfl

/-- A prepared statement is the text that was asked for, without parameters. -/
theorem prepare_eq_ok {s : Session} {c : Connection} {sql : String} {st : Statement}
    (h : (s.prepare c sql).1 = .ok st) : st = ⟨sql, []⟩ := by
  rw [prepare] at h
  simp only at h
  split at h
  · cases h
  · split at h
    · split at h
      · cases h
      · cases h
        rfl
    · exact Sqlite.Engine.prepare_eq_ok h

/-! ### Statements that were run -/

/-- A statement was run on a connection between two states, whether it succeeded or not. -/
def Ran (s s' : Session) (st : Statement) : Prop :=
  ∃ events, s'.history = events ++ s.history ∧ ∃ e ∈ events, e.call.statement? = some st

/-- Every statement that was run between two states has a property. -/
def RunsOnly (P : Statement → Prop) (s s' : Session) : Prop :=
  ∃ events, s'.history = events ++ s.history ∧
    ∀ e ∈ events, ∀ st, e.call.statement? = some st → P st

variable {P : Statement → Prop} {s s' s'' : Session}

theorem RunsOnly.refl (P : Statement → Prop) (s : Session) : RunsOnly P s s :=
  ⟨[], rfl, fun e he => by cases he⟩

theorem RunsOnly.trans (h : RunsOnly P s s') (h' : RunsOnly P s' s'') : RunsOnly P s s'' := by
  obtain ⟨events, hhistory, hevents⟩ := h
  obtain ⟨events', hhistory', hevents'⟩ := h'
  refine ⟨events' ++ events, by rw [hhistory', hhistory, List.append_assoc], fun e he => ?_⟩
  rcases List.mem_append.1 he with he | he
  · exact hevents' e he
  · exact hevents e he

/-- The event of a call is all that is new. -/
theorem RunsOnly.of_history {e : Event} (h : s'.history = e :: s.history)
    (he : ∀ st, e.call.statement? = some st → P st) : RunsOnly P s s' := by
  refine ⟨[e], h, fun x hx => ?_⟩
  rw [List.mem_singleton.1 hx]
  exact he

theorem RunsOnly.of_adds {call : Call} (h : s.Adds call s')
    (hcall : ∀ st, call.statement? = some st → P st) : RunsOnly P s s' := by
  obtain ⟨ok, hhistory, _⟩ := h
  exact .of_history hhistory hcall

/-- What was run stays in the history. -/
theorem Ran.mono {st : Statement} (h : s.Ran s' st) (hlater : RunsOnly P s' s'') :
    s.Ran s'' st := by
  obtain ⟨events, hhistory, e, he, hst⟩ := h
  obtain ⟨events', hhistory', _⟩ := hlater
  refine ⟨events' ++ events, by rw [hhistory', hhistory, List.append_assoc], e, ?_, hst⟩
  exact List.mem_append_right events' he

/-- What was run since a state was run since an earlier one. -/
theorem Ran.since {st : Statement} (hearlier : RunsOnly P s s') (h : s'.Ran s'' st) :
    s.Ran s'' st := by
  obtain ⟨events, hhistory, e, he, hst⟩ := h
  obtain ⟨events', hhistory', _⟩ := hearlier
  refine ⟨events ++ events', by rw [hhistory, hhistory', List.append_assoc], e, ?_, hst⟩
  exact List.mem_append_left events' he

theorem Ran.of_adds {call : Call} {st : Statement} (h : RunsOnly P s s') (hadds : s'.Adds call s'')
    (hcall : call.statement? = some st) : s.Ran s'' st := by
  obtain ⟨events, hhistory, _⟩ := h
  obtain ⟨ok, hhistory', _⟩ := hadds
  refine ⟨⟨call, ok⟩ :: events, ?_, _, List.mem_cons_self, hcall⟩
  rw [hhistory', hhistory, List.cons_append]

theorem Ran.of_runsOnly {st : Statement} (h : s.Ran s' st) (honly : RunsOnly P s s') : P st := by
  obtain ⟨events, hhistory, e, he, hst⟩ := h
  obtain ⟨events', hhistory', hevents'⟩ := honly
  obtain rfl : events' = events := List.append_cancel_right (hhistory'.symm.trans hhistory)
  exact hevents' e he st hst

/-! ### Calls to drivers -/

/-- A driver refuses, or it grants a connection with the next number. -/
theorem connect_cases (s : Session) (driver : Driver) (request : ConnectRequest) :
    (∃ e s', s.connect driver request = (.error e, s') ∧
        s'.history = ⟨.connect driver request, false⟩ :: s.history ∧ s'.opened = s.opened) ∨
      ∃ c s', s.connect driver request = (.ok c, s') ∧ c.id = s.opened ∧
        s'.history = ⟨.connect driver request, true⟩ :: s.history ∧
        s'.opened = s.opened + 1 := by
  rw [connect]
  simp only
  split
  · exact .inl ⟨_, _, rfl, rfl, rfl⟩
  · split
    · exact .inl ⟨_, _, rfl, rfl, rfl⟩
    · exact .inr ⟨_, _, rfl, rfl, rfl, rfl⟩
    · split
      · exact .inr ⟨_, _, rfl, rfl, rfl, rfl⟩
      · exact .inl ⟨_, _, rfl, rfl, rfl⟩

end Session

/-- A database hands out no connection, and at most asks its driver in vain, or it hands out
one with the next number. -/
theorem Database.connect_cases (d : Database) (s : Session) :
    (∃ e s', d.connect s = (.error e, s') ∧ s'.opened = s.opened ∧
        (s'.history = s.history ∨
          ∃ driver request, s'.history = ⟨.connect driver request, false⟩ :: s.history)) ∨
      ∃ c s' driver request, d.connect s = (.ok c, s') ∧ c.id = s.opened ∧
        s'.opened = s.opened + 1 ∧
        s'.history = ⟨.connect driver request, true⟩ :: s.history := by
  rw [Database.connect]
  cases d.access with
  | refuses e => exact .inl ⟨e, s, rfl, rfl, .inl rfl⟩
  | asks driver request word =>
    rcases s.connect_cases driver request with
      ⟨e, s', hs, hhistory, hopened⟩ | ⟨c, s', hs, hid, hhistory, hopened⟩
    · refine .inl ⟨word e, s', ?_, hopened, .inr ⟨_, _, hhistory⟩⟩
      simp only [hs]
    · refine .inr ⟨c, s', _, _, ?_, hid, hopened, hhistory⟩
      simp only [hs]

end SqlAccess

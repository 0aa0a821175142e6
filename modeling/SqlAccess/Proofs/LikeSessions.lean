/-
Sessions that answer alike.

What a session answers depends on its past, but not on all of it: on how often each method was
called, on the results that are left, and on the connection that is asked.  `Session.Alike` and
`Session.SameState` compare two sessions in just that, and `Session.Twins` is their comparison
for the connection that a handle has or will have.

Each call keeps twins: the answers are the same, and so are the calls that were made, up to the
numbers of the connections.
-/
import SqlAccess.Proofs.SessionHistory
import SqlAccess.Query

namespace SqlAccess

/-- The connection without its number. -/
def Connection.unnumbered (c : Connection) : Connection := { c with id := 0 }

/-- The call, whatever the number of the connection. -/
def Call.unnumbered : Call → Call
  | connect driver request => connect driver request
  | prepare c sql => prepare c.unnumbered sql
  | update c st => update c.unnumbered st
  | query c st => query c.unnumbered st
  | closeStatement c => closeStatement c.unnumbered
  | close c => close c.unnumbered

def Event.unnumbered (e : Event) : Event := { e with call := e.call.unnumbered }

theorem Call.method_unnumbered (call : Call) : call.unnumbered.method = call.method := by
  cases call <;> rfl

namespace Session

/-- Two sessions answer alike from now on, as far as it does not depend on a connection. -/
structure Alike (s t : Session) : Prop where
  dialect : t.script.dialect = s.script.dialect
  affected : t.script.affected = s.script.affected
  databases : t.script.databases = s.script.databases
  /-- The calls to come fail alike, though more may have been made in one session so far. -/
  fails : ∀ m n, t.script.fails m (t.calls m + n) = s.script.fails m (s.calls m + n)
  results : t.results = s.results

/-- A connection of one session is in the same state as one of another session. -/
structure SameState (s t : Session) (c c' : Connection) : Prop where
  endpoint : c'.endpoint = c.endpoint
  dialect : c'.dialect = c.dialect
  closed : t.isClosed c' = s.isClosed c
  engine : t.engine c' = s.engine c

/-- The connections that two sessions will open are in the same state. -/
def SameToCome (s t : Session) : Prop :=
  ∀ n endpoint dialect,
    s.SameState t ⟨s.opened + n, endpoint, dialect⟩ ⟨t.opened + n, endpoint, dialect⟩

/-- Since two earlier sessions the same was asked with the same success, up to the numbers of the
connections. -/
def AskedAlike (s₀ t₀ s t : Session) : Prop :=
  ∃ events events', s.history = events ++ s₀.history ∧ t.history = events' ++ t₀.history ∧
    events'.map Event.unnumbered = events.map Event.unnumbered

end Session

/-- Behind two handles everything is in the same state: the connections, and those that their
database may open later. -/
inductive Handle.SameState (s t : Session) : Handle → Handle → Prop where
  | lent {c c' : Connection} (hc : s.SameState t c c') : SameState s t (.borrowed c) (.borrowed c')
  | closed {d : Database} (hcome : s.SameToCome t) : SameState s t (.owned d none) (.owned d none)
  | opened {d : Database} {c c' : Connection} (hc : s.SameState t c c') (hcome : s.SameToCome t) :
      SameState s t (.owned d (some c)) (.owned d (some c'))

namespace Session

/-- The connection that a handle has opened is one of the session. -/
def Numbered (s : Session) (h : Handle) : Prop :=
  ∀ d c, h = .owned d (some c) → c.id < s.opened

/-- Two handles in two sessions that have been alike since two earlier sessions. -/
structure Twins (s₀ t₀ s : Session) (h : Handle) (t : Session) (h' : Handle) : Prop where
  alike : s.Alike t
  state : Handle.SameState s t h h'
  numbered : s.Numbered h
  numbered' : t.Numbered h'
  asked : AskedAlike s₀ t₀ s t

variable {s t s₀ t₀ : Session} {c c' : Connection} {call call' : Call} {h₁ h₂ : Handle}

/-! ### What a call changes -/

theorem calls_record (s : Session) (call : Call) (ok : Bool) (m : Method) :
    (s.record call ok).calls m = s.calls m + if call.method == m then 1 else 0 := by
  rw [calls, calls, record, List.countP_cons]

theorem isClosed_record (s : Session) (call : Call) (ok : Bool) (c : Connection) :
    (s.record call ok).isClosed c =
      ((call.method == .close && call.connection? == some c) || s.isClosed c) := by
  rw [isClosed, isClosed, record, List.any_cons]

theorem engine_setEngine (s : Session) (c : Connection) (e : Sqlite.Engine) (c' : Connection) :
    (s.setEngine c e).engine c' = if c'.id = c.id then e else s.engine c' := by
  rw [engine, setEngine, List.find?_cons]
  by_cases hid : c'.id = c.id
  · rw [if_pos hid, hid, beq_self_eq_true]
    rfl
  · rw [if_neg hid, beq_false_of_ne (Ne.symm hid), engine, List.find?_filter]
    -- what was dropped belongs to the other connection
    simp only
    congr 3
    funext entry
    by_cases hentry : entry.1 = c'.id
    · simp [hentry, hid]
    · simp [hentry]

/-! ### Calls keep sessions alike -/

theorem Alike.failing (h : s.Alike t) (m : Method) : t.failing m = s.failing m := h.fails m 0

theorem Alike.record (h : s.Alike t) (hcall : call'.unnumbered = call.unnumbered) (ok : Bool) :
    (s.record call ok).Alike (t.record call' ok) := by
  have hmethod : call'.method = call.method := by
    rw [← call'.method_unnumbered, hcall, call.method_unnumbered]
  refine ⟨h.dialect, h.affected, h.databases, fun m n => ?_, h.results⟩
  -- one call more has been made on either side
  rw [calls_record, calls_record, hmethod, Nat.add_assoc, Nat.add_assoc]
  exact h.fails m _

theorem SameState.unnumbered (h : s.SameState t c c') : c'.unnumbered = c.unnumbered := by
  rw [Connection.unnumbered, Connection.unnumbered, h.endpoint, h.dialect]

theorem SameState.record (h : s.SameState t c c') (hmethod : call'.method = call.method)
    (hon : call'.connection? = some c' ↔ call.connection? = some c) (ok : Bool) :
    (s.record call ok).SameState (t.record call' ok) c c' := by
  refine ⟨h.endpoint, h.dialect, ?_, h.engine⟩
  have hon' : (call'.connection? == some c') = (call.connection? == some c) := by
    rw [Bool.eq_iff_iff, beq_iff_eq, beq_iff_eq, hon]
  rw [isClosed_record, isClosed_record, h.closed, hmethod, hon']

/-- A call concerns no connection with a number that is not there yet. -/
theorem SameToCome.record (h : s.SameToCome t) (hmethod : call'.method = call.method)
    (hold : ∀ c, call.connection? = some c → c.id < s.opened)
    (hold' : ∀ c, call'.connection? = some c → c.id < t.opened) (ok : Bool) :
    (s.record call ok).SameToCome (t.record call' ok) := by
  intro n endpoint dialect
  refine (h n endpoint dialect).record hmethod ⟨fun hon => ?_, fun hon => ?_⟩ ok
  · have hlt := hold' _ hon
    simp only at hlt
    omega
  · have hlt := hold _ hon
    simp only at hlt
    omega

theorem AskedAlike.record (h : AskedAlike s₀ t₀ s t) (hcall : call'.unnumbered = call.unnumbered)
    (ok : Bool) : AskedAlike s₀ t₀ (s.record call ok) (t.record call' ok) := by
  obtain ⟨events, events', hs, ht, hevents⟩ := h
  refine ⟨⟨call, ok⟩ :: events, ⟨call', ok⟩ :: events', ?_, ?_, ?_⟩
  · rw [Session.record, hs, List.cons_append]
  · rw [Session.record, ht, List.cons_append]
  · rw [List.map_cons, List.map_cons, hevents, Event.unnumbered, Event.unnumbered, hcall]

/-! ### Twins -/

theorem Twins.kind_cases (h : Twins s₀ t₀ s h₁ t h₂) :
    (∃ c c', h₁ = .borrowed c ∧ h₂ = .borrowed c') ∨
      (∃ d, h₁ = .owned d none ∧ h₂ = .owned d none) ∨
        ∃ d c c', h₁ = .owned d (some c) ∧ h₂ = .owned d (some c') := by
  cases h.state with
  | lent hsame => exact .inl ⟨_, _, rfl, rfl⟩
  | closed hcome => exact .inr (.inl ⟨_, rfl, rfl⟩)
  | opened hsame hcome => exact .inr (.inr ⟨_, _, _, rfl, rfl⟩)

theorem Twins.sameState (h : Twins s₀ t₀ s h₁ t h₂) (hc : h₁.connection? = some c)
    (hc' : h₂.connection? = some c') : s.SameState t c c' := by
  cases h.state with
  | lent hsame =>
    cases hc
    cases hc'
    exact hsame
  | closed hcome => cases hc
  | opened hsame hcome =>
    cases hc
    cases hc'
    exact hsame

theorem Twins.connection_cases (h : Twins s₀ t₀ s h₁ t h₂) :
    (h₁.connection? = none ∧ h₂.connection? = none) ∨
      ∃ c c', h₁.connection? = some c ∧ h₂.connection? = some c' := by
  rcases h.kind_cases with ⟨c, c', rfl, rfl⟩ | ⟨d, rfl, rfl⟩ | ⟨d, c, c', rfl, rfl⟩
  · exact .inr ⟨c, c', rfl, rfl⟩
  · exact .inl ⟨rfl, rfl⟩
  · exact .inr ⟨c, c', rfl, rfl⟩

theorem Twins.get_cases (h : Twins s₀ t₀ s h₁ t h₂) :
    (∃ e, h₁.get = .error e ∧ h₂.get = .error e) ∨
      ∃ c c', h₁.get = .ok c ∧ h₂.get = .ok c' ∧ h₁.connection? = some c ∧
        h₂.connection? = some c' := by
  rcases h.kind_cases with ⟨c, c', rfl, rfl⟩ | ⟨d, rfl, rfl⟩ | ⟨d, c, c', rfl, rfl⟩
  · exact .inr ⟨c, c', rfl, rfl, rfl, rfl⟩
  · exact .inl ⟨_, rfl, rfl⟩
  · exact .inr ⟨c, c', rfl, rfl, rfl, rfl⟩

theorem Twins.dialect (h : Twins s₀ t₀ s h₁ t h₂) : h₂.dialect = h₁.dialect := by
  cases h.state with
  | lent hsame => exact hsame.dialect
  | closed hcome => rfl
  | opened hsame hcome => exact hsame.dialect

/-- The same call to the connections of the handles. -/
theorem Twins.record (h : Twins s₀ t₀ s h₁ t h₂) (hc : h₁.connection? = some c)
    (hc' : h₂.connection? = some c') (f : Connection → Call)
    (hon : ∀ c, (f c).connection? = some c) (hf : ∀ c, (f c).unnumbered = f c.unnumbered)
    (ok : Bool) : Twins s₀ t₀ (s.record (f c) ok) h₁ (t.record (f c') ok) h₂ := by
  have hcall : (f c').unnumbered = (f c).unnumbered := by
    rw [hf, hf, (h.sameState hc hc').unnumbered]
  have hmethod : (f c').method = (f c).method := by
    rw [← (f c').method_unnumbered, hcall, (f c).method_unnumbered]
  have hboth : (f c').connection? = some c' ↔ (f c).connection? = some c :=
    iff_of_true (hon c') (hon c)
  refine ⟨h.alike.record hcall ok, ?_, h.numbered, h.numbered', h.asked.record hcall ok⟩
  cases h.state with
  | lent hsame =>
    cases hc
    cases hc'
    exact .lent (hsame.record hmethod hboth ok)
  | closed hcome => cases hc
  | opened hsame hcome =>
    cases hc
    cases hc'
    refine .opened (hsame.record hmethod hboth ok) (hcome.record hmethod ?_ ?_ ok)
    · intro d hd
      rw [hon, Option.some.injEq] at hd
      exact hd ▸ h.numbered _ _ rfl
    · intro d hd
      rw [hon, Option.some.injEq] at hd
      exact hd ▸ h.numbered' _ _ rfl

theorem SameState.setEngine (h : s.SameState t c c') (e : Sqlite.Engine) :
    (s.setEngine c e).SameState (t.setEngine c' e) c c' := by
  refine ⟨h.endpoint, h.dialect, h.closed, ?_⟩
  rw [engine_setEngine, engine_setEngine, if_pos rfl, if_pos rfl]

theorem SameToCome.setEngine (h : s.SameToCome t) (hc : c.id < s.opened) (hc' : c'.id < t.opened)
    (e : Sqlite.Engine) : (s.setEngine c e).SameToCome (t.setEngine c' e) := by
  intro n endpoint dialect
  have hsame := h n endpoint dialect
  have hne : s.opened + n ≠ c.id := by omega
  have hne' : t.opened + n ≠ c'.id := by omega
  refine ⟨rfl, rfl, hsame.closed, ?_⟩
  have hengine := (s.engine_setEngine c e ⟨s.opened + n, endpoint, dialect⟩).trans (if_neg hne)
  have hengine' := (t.engine_setEngine c' e ⟨t.opened + n, endpoint, dialect⟩).trans (if_neg hne')
  exact hengine'.trans (hsame.engine.trans hengine.symm)

theorem Twins.setEngine (h : Twins s₀ t₀ s h₁ t h₂) (hc : h₁.connection? = some c)
    (hc' : h₂.connection? = some c') (e : Sqlite.Engine) :
    Twins s₀ t₀ (s.setEngine c e) h₁ (t.setEngine c' e) h₂ := by
  have ha := h.alike
  refine ⟨⟨ha.dialect, ha.affected, ha.databases, ha.fails, ha.results⟩, ?_, h.numbered,
    h.numbered', h.asked⟩
  cases h.state with
  | lent hsame =>
    cases hc
    cases hc'
    exact .lent (hsame.setEngine e)
  | closed hcome => cases hc
  | opened hsame hcome =>
    cases hc
    cases hc'
    exact .opened (hsame.setEngine e)
      (hcome.setEngine (h.numbered _ _ rfl) (h.numbered' _ _ rfl) e)

/-! ### Calls of a query -/

theorem Twins.closeStatement (h : Twins s₀ t₀ s h₁ t h₂) (hc : h₁.connection? = some c)
    (hc' : h₂.connection? = some c') :
    Twins s₀ t₀ (s.closeStatement c).2 h₁ (t.closeStatement c').2 h₂ := by
  rw [Session.closeStatement, Session.closeStatement, h.alike.failing]
  exact h.record hc hc' .closeStatement (fun _ => rfl) (fun _ => rfl) _

theorem Twins.prepare (h : Twins s₀ t₀ s h₁ t h₂) (hc : h₁.connection? = some c)
    (hc' : h₂.connection? = some c') (sql : String) :
    (t.prepare c' sql).1 = (s.prepare c sql).1 ∧
      Twins s₀ t₀ (s.prepare c sql).2 h₁ (t.prepare c' sql).2 h₂ := by
  have hsame := h.sameState hc hc'
  have hanswer : (t.prepare c' sql).1 = (s.prepare c sql).1 := by
    rw [Session.prepare, Session.prepare, h.alike.failing, hsame.endpoint, hsame.closed,
      hsame.engine]
  refine ⟨hanswer, ?_⟩
  show Twins s₀ t₀ (s.record (.prepare c sql) (isOk (s.prepare c sql).1)) h₁
    (t.record (.prepare c' sql) (isOk (t.prepare c' sql).1)) h₂
  rw [hanswer]
  exact h.record hc hc' (.prepare · sql) (fun _ => rfl) (fun _ => rfl) _

theorem Twins.update (h : Twins s₀ t₀ s h₁ t h₂) (hc : h₁.connection? = some c)
    (hc' : h₂.connection? = some c') (st : Statement) :
    (t.update c' st).1 = (s.update c st).1 ∧
      Twins s₀ t₀ (s.update c st).2 h₁ (t.update c' st).2 h₂ := by
  have hsame := h.sameState hc hc'
  have hrecord := h.record hc hc' (.update · st) (fun _ => rfl) (fun _ => rfl)
  rw [Session.update, Session.update, h.alike.failing, hsame.endpoint, hsame.closed,
    hsame.engine, h.alike.affected]
  cases s.failing .update with
  | true => exact ⟨rfl, hrecord false⟩
  | false =>
    cases c.endpoint with
    | scripted =>
      cases s.isClosed c with
      | true => exact ⟨rfl, hrecord false⟩
      | false => exact ⟨rfl, hrecord true⟩
    | sqlite =>
      obtain ⟨answer, engine⟩ := (s.engine c).update st
      exact ⟨rfl, (hrecord (isOk answer)).setEngine hc hc' engine⟩

theorem Twins.takeResult (h : Twins s₀ t₀ s h₁ t h₂) :
    Twins s₀ t₀ { s with results := s.results.tail } h₁
      { t with results := t.results.tail } h₂ := by
  have ha := h.alike
  refine ⟨⟨ha.dialect, ha.affected, ha.databases, ha.fails, ?_⟩, ?_, h.numbered, h.numbered',
    h.asked⟩
  · rw [ha.results]
  · cases h.state with
    | lent hsame => exact .lent ⟨hsame.endpoint, hsame.dialect, hsame.closed, hsame.engine⟩
    | closed hcome =>
      exact .closed fun n e d => ⟨rfl, rfl, (hcome n e d).closed, (hcome n e d).engine⟩
    | opened hsame hcome =>
      exact .opened ⟨hsame.endpoint, hsame.dialect, hsame.closed, hsame.engine⟩
        fun n e d => ⟨rfl, rfl, (hcome n e d).closed, (hcome n e d).engine⟩

theorem Twins.query (h : Twins s₀ t₀ s h₁ t h₂) (hc : h₁.connection? = some c)
    (hc' : h₂.connection? = some c') (st : Statement) :
    (t.query c' st).1 = (s.query c st).1 ∧
      Twins s₀ t₀ (s.query c st).2 h₁ (t.query c' st).2 h₂ := by
  have hsame := h.sameState hc hc'
  have hrecord := h.record hc hc' (.query · st) (fun _ => rfl) (fun _ => rfl)
  rw [Session.query, Session.query, h.alike.failing, hsame.endpoint, hsame.closed, hsame.engine]
  cases s.failing .query with
  | true => exact ⟨rfl, hrecord false⟩
  | false =>
    cases c.endpoint with
    | scripted =>
      cases s.isClosed c with
      | true => exact ⟨rfl, hrecord false⟩
      | false =>
        refine ⟨?_, (hrecord true).takeResult⟩
        show Except.ok (t.results.head?.getD .empty) = Except.ok (s.results.head?.getD .empty)
        rw [h.alike.results]
    | sqlite =>
      obtain ⟨answer, engine⟩ := (s.engine c).query st
      exact ⟨rfl, (hrecord (isOk answer)).setEngine hc hc' engine⟩

theorem Twins.close (h : Twins s₀ t₀ s h₁ t h₂) (hc : h₁.connection? = some c)
    (hc' : h₂.connection? = some c') :
    Twins s₀ t₀ (s.close c).2 h₁ (t.close c').2 h₂ := by
  have hsame := h.sameState hc hc'
  have hrecord := h.record hc hc' .close (fun _ => rfl) (fun _ => rfl)
  rw [Session.close, Session.close, h.alike.failing, hsame.endpoint, hsame.closed]
  cases c.endpoint with
  | scripted => exact hrecord _
  | sqlite =>
    show Twins s₀ t₀ ((s.record (.close c) _).setEngine c (s.engine c).close) h₁
      ((t.record (.close c') _).setEngine c' (t.engine c').close) h₂
    rw [hsame.engine]
    exact (hrecord _).setEngine hc hc' _

/-- What a query that opens its connections loses with one of them is alike on both sides. -/
theorem Twins.drop {d d' : Database}
    (h : Twins s₀ t₀ s (.owned d (some c)) t (.owned d' (some c'))) :
    Twins s₀ t₀ s (.owned d none) t (.owned d' none) := by
  have hnone : ∀ (s : Session) (d : Database), s.Numbered (.owned d none) := by
    intro s d d' c hc
    cases hc
  refine ⟨h.alike, ?_, hnone s d, hnone t d', h.asked⟩
  cases h.state with
  | opened hsame hcome => exact .closed hcome

/-! ### Opening connections -/

variable {d : Database}

theorem Twins.ask (h : Twins s₀ t₀ s (.owned d none) t (.owned d none)) (driver : Driver)
    (request : ConnectRequest) (ok : Bool) :
    Twins s₀ t₀ (s.record (.connect driver request) ok) (.owned d none)
      (t.record (.connect driver request) ok) (.owned d none) := by
  refine ⟨h.alike.record rfl ok, ?_, h.numbered, h.numbered', h.asked.record rfl ok⟩
  cases h.state with
  | closed hcome =>
    refine .closed (hcome.record rfl ?_ ?_ ok)
    · intro c hc
      cases hc
    · intro c hc
      cases hc

theorem Twins.next (h : Twins s₀ t₀ s (.owned d none) t (.owned d none)) (endpoint : Endpoint)
    (dialect : Dialect) :
    Twins s₀ t₀ { s with opened := s.opened + 1 } (.owned d (some ⟨s.opened, endpoint, dialect⟩))
      { t with opened := t.opened + 1 } (.owned d (some ⟨t.opened, endpoint, dialect⟩)) := by
  have ha := h.alike
  refine ⟨⟨ha.dialect, ha.affected, ha.databases, ha.fails, ha.results⟩, ?_, ?_, ?_, h.asked⟩
  · cases h.state with
    | closed hcome =>
      have hfirst := hcome 0 endpoint dialect
      refine .opened ⟨rfl, rfl, hfirst.closed, hfirst.engine⟩ fun n e d => ?_
      -- what is to come begins one number later
      have hlater := hcome (1 + n) e d
      rw [← Nat.add_assoc, ← Nat.add_assoc] at hlater
      exact ⟨rfl, rfl, hlater.closed, hlater.engine⟩
  · intro d' c hc
    cases hc
    exact Nat.lt_succ_self s.opened
  · intro d' c hc
    cases hc
    exact Nat.lt_succ_self t.opened

/-- A driver refuses alike, or it grants connections that are in the same state. -/
theorem Twins.connect_driver (h : Twins s₀ t₀ s (.owned d none) t (.owned d none))
    (driver : Driver) (request : ConnectRequest) :
    (∃ e s' t', s.connect driver request = (.error e, s') ∧
        t.connect driver request = (.error e, t') ∧
        Twins s₀ t₀ s' (.owned d none) t' (.owned d none)) ∨
      ∃ c c' s' t', s.connect driver request = (.ok c, s') ∧
        t.connect driver request = (.ok c', t') ∧
        Twins s₀ t₀ s' (.owned d (some c)) t' (.owned d (some c')) := by
  have hrefused := h.ask driver request false
  have hgranted := (h.ask driver request true).next
  rw [Session.connect, Session.connect, h.alike.failing, h.alike.dialect, h.alike.databases]
  cases s.failing .connect with
  | true => exact .inl ⟨_, _, _, rfl, rfl, hrefused⟩
  | false =>
    cases driver with
    | scripted => exact .inr ⟨_, _, _, _, rfl, rfl, hgranted .scripted s.script.dialect⟩
    | refusing => exact .inl ⟨_, _, _, rfl, rfl, hrefused⟩
    | sqlite =>
      cases Sqlite.openUrl s.script.databases request.url with
      | ok engine =>
        exact .inr ⟨_, _, _, _, rfl, rfl, (hgranted .sqlite .sqlite).setEngine rfl rfl engine⟩
      | error e => exact .inl ⟨_, _, _, rfl, rfl, hrefused⟩

/-- A database refuses alike, or it hands out connections that are in the same state. -/
theorem Twins.connect (h : Twins s₀ t₀ s (.owned d none) t (.owned d none)) :
    (∃ e s' t', d.connect s = (.error e, s') ∧ d.connect t = (.error e, t') ∧
        Twins s₀ t₀ s' (.owned d none) t' (.owned d none)) ∨
      ∃ c c' s' t', d.connect s = (.ok c, s') ∧ d.connect t = (.ok c', t') ∧
        Twins s₀ t₀ s' (.owned d (some c)) t' (.owned d (some c')) := by
  rw [Database.connect, Database.connect]
  cases d.access with
  | refuses e => exact .inl ⟨e, s, t, rfl, rfl, h⟩
  | asks driver request word =>
    rcases h.connect_driver driver request with
      ⟨e, s', t', hs, ht, h'⟩ | ⟨c, c', s', t', hs, ht, h'⟩
    · simp only [hs, ht]
      exact .inl ⟨word e, s', t', rfl, rfl, h'⟩
    · simp only [hs, ht]
      exact .inr ⟨c, c', s', t', rfl, rfl, h'⟩

end Session

end SqlAccess

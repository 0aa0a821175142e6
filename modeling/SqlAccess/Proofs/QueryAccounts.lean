/-
The accounts of a query: what it takes from a connection it gives back.

`Query.Accounts` is the state of the accounts of a query after the calls that it has
made: which statements and connections it has taken, which of them it has given back,
and that what is left is what it holds.  Creating a query opens the accounts, every
move keeps them (`Query.Accounts.move`), and so does every run of operations.

`Query.resources_accounted` puts this together for the whole life of a query, from its
creation to the final close.
-/
import SqlAccess.Proofs.QueryOutcome

namespace SqlAccess

/-- Where a query has its connection from. -/
inductive Origin where
  /-- From a caller. -/
  | lent (c : Connection)
  /-- From a database, which it asks for every new connection. -/
  | database (d : Database)

/-- Where the connection is from. -/
def Handle.origin : Handle → Origin
  | owned d _ => .database d
  | borrowed c => .lent c

/-- A new query. -/
def Origin.query (origin : Origin) (table : String) (m : Marshaller) (tracer : Option Tracer)
    (s : Session) : Result Query × Session :=
  match origin with
  | lent c => (.ok (Query.onConnection c table m tracer), s)
  | database d => Query.onDatabase d table m tracer s

namespace Query

/-- The number of the connection, while there is one. -/
def connectionId? (q : Query) : Option Nat := q.handle.connection?.map (·.id)

/-- How many statements the query holds. -/
def held (q : Query) : Nat := if q.statement.isSome then 1 else 0

/-- The accounts of a query that was created in one session and has made some calls since,
the latest first. -/
structure Accounts (origin : Origin) (s₀ : Session) (q : Query) (s : Session)
    (events : List Event) : Prop where
  /-- The calls are what is new in the history. -/
  history : s.history = events ++ s₀.history
  /-- The query keeps its kind of connection. -/
  kind : q.handle.origin = origin
  /-- Every statement was given back once, but for the one that the query holds. -/
  statements : events.countP (Event.granted .prepare) =
    events.countP (Event.made .closeStatement) + q.held
  /-- It was given back to the connection that it is from. -/
  statementsOn (id : Nat) : events.countP (fun e => e.granted .prepare && e.isOn id) =
    events.countP (fun e => e.made .closeStatement && e.isOn id) +
      if q.connectionId? = some id then q.held else 0
  /-- Who holds a statement has its connection. -/
  connected : q.statement.isSome = true → q.connectionId?.isSome = true
  /-- No call goes to a connection after it was closed. -/
  ended : ∀ later earlier c ok, events = later ++ ⟨.close c, ok⟩ :: earlier →
    ∀ e ∈ later, e.isOn c.id = false
  /-- A connection that was lent takes all calls, and is not closed. -/
  lent : ∀ c, origin = .lent c → ∀ e ∈ events, e.call.connection? = some c ∧ e.made .close = false
  /-- The connections of the session since the creation are those that the query acquired. -/
  opened : s.opened = s₀.opened + events.countP (Event.granted .connect)
  /-- A query with connections of its own uses no others. -/
  own : ∀ d, origin = .database d → ∀ id,
    (q.connectionId? = some id ∨ ∃ e ∈ events, e.isOn id = true) → s₀.opened ≤ id ∧ id < s.opened
  /-- Every connection that was acquired was closed once, but for the one that the query has. -/
  closedOnce : ∀ id, s₀.opened ≤ id → id < s.opened →
    events.countP (fun e => e.made .close && e.isOn id) =
      if q.connectionId? = some id then 0 else 1

namespace Accounts

variable {origin : Origin} {s₀ s s' : Session} {q q' : Query} {events : List Event} {e : Event}

/-- A connection that was closed is not the one that the query has. -/
theorem ne_of_closed (h : Accounts origin s₀ q s events) {c : Connection} {ok : Bool}
    (hmem : ⟨.close c, ok⟩ ∈ events) : q.connectionId? ≠ some c.id := by
  cases horigin : origin with
  | lent c' =>
    have hnot := (h.lent c' horigin _ hmem).2
    cases hnot
  | database d =>
    intro hid
    have hon : (Event.mk (.close c) ok).isOn c.id = true := by simp [Event.isOn, Call.connection?]
    obtain ⟨hfirst, hlast⟩ := h.own d horigin c.id (.inr ⟨_, hmem, hon⟩)
    have hcount := h.closedOnce c.id hfirst hlast
    rw [if_pos hid, List.countP_eq_zero] at hcount
    exact hcount _ hmem (by rw [hon]; rfl)

/-- A query has the connection that was lent to it. -/
theorem connection?_of_lent (h : Accounts origin s₀ q s events) {c : Connection}
    (horigin : origin = .lent c) : q.handle.connection? = some c := by
  have hkind := h.kind
  rw [horigin] at hkind
  cases hhandle : q.handle with
  | owned d c' =>
    rw [hhandle] at hkind
    cases hkind
  | borrowed c' =>
    rw [hhandle] at hkind
    cases hkind
    rfl

theorem connectionId?_eq {c : Connection} (hc : q.handle.connection? = some c) :
    q.connectionId? = some c.id := by
  rw [connectionId?, hc, Option.map_some]

/-- An event that concerns no connection but that of the query follows no closing of its
connection. -/
theorem ended_cons (h : Accounts origin s₀ q s events)
    (hon : ∀ id, e.isOn id = true → q.connectionId? = some id) :
    ∀ later earlier c ok, e :: events = later ++ ⟨.close c, ok⟩ :: earlier →
      ∀ x ∈ later, x.isOn c.id = false := by
  intro later earlier c ok hsplit x hx
  cases later with
  | nil => cases hx
  | cons y later =>
    obtain ⟨rfl, hrest⟩ := List.cons.inj hsplit
    rcases List.mem_cons.1 hx with rfl | hx
    · have hmem : Event.mk (.close c) ok ∈ events :=
        hrest ▸ List.mem_append_right later List.mem_cons_self
      rw [Bool.eq_false_iff]
      exact fun hxon => h.ne_of_closed hmem (hon c.id hxon)
    · exact h.ended later earlier c ok hrest x hx

/-- An event that concerns no connection but that of the query concerns one of its own. -/
theorem own_cons (h : Accounts origin s₀ q s events)
    (hon : ∀ id, e.isOn id = true → q.connectionId? = some id) {d : Database}
    (horigin : origin = .database d) {id : Nat} (hid : ∃ x ∈ e :: events, x.isOn id = true) :
    s₀.opened ≤ id ∧ id < s.opened := by
  obtain ⟨x, hx, hxon⟩ := hid
  rcases List.mem_cons.1 hx with rfl | hx
  · exact h.own d horigin id (.inl (hon id hxon))
  · exact h.own d horigin id (.inr ⟨x, hx, hxon⟩)

/-- A call to the connection that the query has, other than closing it. -/
theorem call (h : Accounts origin s₀ q s events) {c : Connection}
    (hc : q.handle.connection? = some c) (he : e.call.connection? = some c)
    (hclose : e.made .close = false) (hhandle : q'.handle = q.handle)
    (hheld : (if e.granted .prepare = true then 1 else 0) + q.held =
      (if e.made .closeStatement = true then 1 else 0) + q'.held)
    (hhistory : s'.history = e :: s.history) (hopened : s'.opened = s.opened) :
    Accounts origin s₀ q' s' (e :: events) := by
  have hid := connectionId?_eq hc
  have hid' : q'.connectionId? = q.connectionId? := by rw [connectionId?, connectionId?, hhandle]
  have hon : ∀ id, e.isOn id = (c.id == id) := Event.isOn_of_connection? he
  -- only a call to a driver, which is no call to a connection, can open one
  have hconnect : e.granted .connect = false := by
    obtain ⟨call, ok⟩ := e
    cases call <;> first | rfl | cases he
  constructor
  case history => rw [hhistory, h.history, List.cons_append]
  case kind => rw [hhandle, h.kind]
  case statements =>
    have hstatements := h.statements
    simp only [List.countP_cons]
    omega
  case statementsOn =>
    intro id
    have hstatements := h.statementsOn id
    simp only [List.countP_cons, hon, hid', hid, Option.some.injEq] at hstatements ⊢
    by_cases hcid : c.id = id
    · -- the calls to the connection of the query go on as all calls do
      simp only [hcid, beq_self_eq_true, Bool.and_true, if_true] at hstatements ⊢
      omega
    · simp only [hcid, beq_false_of_ne hcid, Bool.and_false, Bool.false_eq_true, if_false]
        at hstatements ⊢
      omega
  case connected =>
    intro _
    rw [hid', hid]
    rfl
  case ended =>
    refine h.ended_cons fun id hxon => ?_
    rw [hon] at hxon
    rw [hid, beq_iff_eq.1 hxon]
  case lent =>
    intro c' horigin x hx
    rcases List.mem_cons.1 hx with rfl | hx
    · have hlent := h.connection?_of_lent horigin
      rw [hc, Option.some.injEq] at hlent
      exact ⟨hlent ▸ he, hclose⟩
    · exact h.lent c' horigin x hx
  case opened =>
    rw [hopened, h.opened, List.countP_cons, hconnect]
    simp
  case own =>
    intro d horigin id hcase
    rw [hopened]
    rw [hid'] at hcase
    rcases hcase with hcase | hcase
    · exact h.own d horigin id (.inl hcase)
    · refine h.own_cons (fun id hxon => ?_) horigin hcase
      rw [hon] at hxon
      rw [hid, beq_iff_eq.1 hxon]
  case closedOnce =>
    intro id hfirst hlast
    rw [hopened] at hlast
    have hcount := h.closedOnce id hfirst hlast
    simp only [List.countP_cons, hclose, Bool.false_and, hid']
    simpa using hcount

/-- No call, and no change of what the query holds. -/
theorem idle (h : Accounts origin s₀ q s events) (hhandle : q'.handle = q.handle)
    (hstatement : q'.statement = q.statement) (hhistory : s'.history = s.history)
    (hopened : s'.opened = s.opened) : Accounts origin s₀ q' s' events := by
  have hid : q'.connectionId? = q.connectionId? := by rw [connectionId?, connectionId?, hhandle]
  have hheld : q'.held = q.held := by rw [held, held, hstatement]
  constructor
  case history => rw [hhistory, h.history]
  case kind => rw [hhandle, h.kind]
  case statements => rw [hheld, h.statements]
  case statementsOn =>
    intro id
    rw [hheld, hid, h.statementsOn id]
  case connected =>
    rw [hstatement, hid]
    exact h.connected
  case ended => exact h.ended
  case lent => exact h.lent
  case opened => rw [hopened, h.opened]
  case own =>
    rw [hid, hopened]
    exact h.own
  case closedOnce =>
    rw [hid, hopened]
    exact h.closedOnce

/-! A query calls its own connections and its database only while it holds no statement. -/

/-- A call that concerns no statement while none is held. -/
theorem statements_cons (h : Accounts origin s₀ q s events) (hq : q.statement = none)
    (hq' : q'.statement = none) (hprepare : e.granted .prepare = false)
    (hclose : e.made .closeStatement = false) :
    (e :: events).countP (Event.granted .prepare) =
      (e :: events).countP (Event.made .closeStatement) + q'.held := by
  have hheld : q.held = 0 := by rw [held, hq]; rfl
  have hheld' : q'.held = 0 := by rw [held, hq']; rfl
  have hstatements := h.statements
  rw [List.countP_cons_of_neg (Bool.eq_false_iff.1 hprepare),
    List.countP_cons_of_neg (Bool.eq_false_iff.1 hclose)]
  omega

theorem statementsOn_cons (h : Accounts origin s₀ q s events) (hq : q.statement = none)
    (hq' : q'.statement = none) (hprepare : e.granted .prepare = false)
    (hclose : e.made .closeStatement = false) (id : Nat) :
    (e :: events).countP (fun e => e.granted .prepare && e.isOn id) =
      (e :: events).countP (fun e => e.made .closeStatement && e.isOn id) +
        if q'.connectionId? = some id then q'.held else 0 := by
  have hheld : q.held = 0 := by rw [held, hq]; rfl
  have hheld' : q'.held = 0 := by rw [held, hq']; rfl
  have hstatements := h.statementsOn id
  rw [hheld, ite_self] at hstatements
  rw [hheld', ite_self, List.countP_cons_of_neg (by simp [hprepare]),
    List.countP_cons_of_neg (by simp [hclose]), hstatements]

theorem origin_of_owned (h : Accounts origin s₀ q s events) {d : Database}
    {c : Option Connection} (hc : q.handle = .owned d c) : origin = .database d := by
  rw [← h.kind, hc]
  rfl

/-- Closing the query's own connection. -/
theorem close (h : Accounts origin s₀ q s events) {d : Database} {c : Connection} {ok : Bool}
    (hc : q.handle = .owned d (some c)) (hstatement : q.statement = none)
    (hhistory : s'.history = ⟨.close c, ok⟩ :: s.history) (hopened : s'.opened = s.opened) :
    Accounts origin s₀ { q with handle := .owned d none } s' (⟨.close c, ok⟩ :: events) := by
  have horigin := h.origin_of_owned hc
  have hid : q.connectionId? = some c.id := connectionId?_eq (by rw [hc]; rfl)
  have hisOn : ∀ id, (Event.mk (.close c) ok).isOn id = (c.id == id) :=
    Event.isOn_of_connection? rfl
  have hon : ∀ id, (Event.mk (.close c) ok).isOn id = true → q.connectionId? = some id := by
    intro id h
    rw [hisOn] at h
    rw [hid, beq_iff_eq.1 h]
  constructor
  case history => rw [hhistory, h.history, List.cons_append]
  case kind => exact horigin.symm
  case statements => exact h.statements_cons hstatement hstatement rfl rfl
  case statementsOn => exact h.statementsOn_cons hstatement hstatement rfl rfl
  case connected =>
    intro hsome
    rw [hstatement] at hsome
    cases hsome
  case ended => exact h.ended_cons hon
  case lent =>
    intro c' hlent
    rw [horigin] at hlent
    cases hlent
  case opened => rw [hopened, h.opened, List.countP_cons_of_neg Bool.false_ne_true]
  case own =>
    intro d' horigin' id hcase
    rw [hopened]
    rcases hcase with hcase | hcase
    · cases hcase
    · exact h.own_cons hon horigin' hcase
  case closedOnce =>
    intro id hfirst hlast
    rw [hopened] at hlast
    have hcount := h.closedOnce id hfirst hlast
    rw [hid] at hcount
    rw [List.countP_cons, hcount, hisOn]
    -- the connection of the query is closed now, all others were before
    by_cases hcid : c.id = id
    · simp [connectionId?, Handle.connection?, Event.made, Call.method, hcid]
    · simp [connectionId?, Handle.connection?, hcid]

/-- Asking for a connection in vain. -/
theorem unconnected (h : Accounts origin s₀ q s events) {driver : Driver}
    {request : ConnectRequest} {d : Database} (hc : q.handle = .owned d none)
    (hstatement : q.statement = none)
    (hhistory : s'.history = ⟨.connect driver request, false⟩ :: s.history)
    (hopened : s'.opened = s.opened) :
    Accounts origin s₀ q s' (⟨.connect driver request, false⟩ :: events) := by
  have horigin := h.origin_of_owned hc
  have hon : ∀ id, (Event.mk (.connect driver request) false).isOn id = true →
      q.connectionId? = some id := fun id h => by cases h
  constructor
  case history => rw [hhistory, h.history, List.cons_append]
  case kind => exact h.kind
  case statements => exact h.statements_cons hstatement hstatement rfl rfl
  case statementsOn => exact h.statementsOn_cons hstatement hstatement rfl rfl
  case connected => exact h.connected
  case ended => exact h.ended_cons hon
  case lent =>
    intro c' hlent
    rw [horigin] at hlent
    cases hlent
  case opened => rw [hopened, h.opened, List.countP_cons_of_neg Bool.false_ne_true]
  case own =>
    intro d' horigin' id hcase
    rw [hopened]
    rcases hcase with hcase | hcase
    · exact h.own d' horigin' id (.inl hcase)
    · exact h.own_cons hon horigin' hcase
  case closedOnce =>
    intro id hfirst hlast
    rw [hopened] at hlast
    rw [List.countP_cons_of_neg Bool.false_ne_true, h.closedOnce id hfirst hlast]

/-- Acquiring a connection, which takes the next number of the session. -/
theorem connect (h : Accounts origin s₀ q s events) {driver : Driver} {request : ConnectRequest}
    {d : Database} {c : Connection} (hc : q.handle = .owned d none)
    (hstatement : q.statement = none) (hid : c.id = s.opened)
    (hhistory : s'.history = ⟨.connect driver request, true⟩ :: s.history)
    (hopened : s'.opened = s.opened + 1) :
    Accounts origin s₀ { q with handle := .owned d (some c) } s'
      (⟨.connect driver request, true⟩ :: events) := by
  have horigin := h.origin_of_owned hc
  have hnone : q.connectionId? = none := by
    rw [connectionId?, hc]
    rfl
  have hnew : connectionId? { q with handle := .owned d (some c) } = some s.opened := by
    rw [← hid]
    rfl
  have hon : ∀ id, (Event.mk (.connect driver request) true).isOn id = true →
      q.connectionId? = some id := fun id h => by cases h
  constructor
  case history => rw [hhistory, h.history, List.cons_append]
  case kind => exact horigin.symm
  case statements => exact h.statements_cons hstatement hstatement rfl rfl
  case statementsOn => exact h.statementsOn_cons hstatement hstatement rfl rfl
  case connected => exact fun _ => rfl
  case ended => exact h.ended_cons hon
  case lent =>
    intro c' hlent
    rw [horigin] at hlent
    cases hlent
  case opened =>
    rw [hopened, h.opened, List.countP_cons_of_pos rfl]
    omega
  case own =>
    intro d' horigin' id hcase
    rw [hopened]
    rcases hcase with hcase | hcase
    · rw [hnew, Option.some.injEq] at hcase
      have := h.opened
      omega
    · have := h.own_cons hon horigin' hcase
      omega
  case closedOnce =>
    intro id hfirst hlast
    rw [List.countP_cons_of_neg Bool.false_ne_true, hnew]
    by_cases hlt : id < s.opened
    · rw [h.closedOnce id hfirst hlt, hnone, if_neg (by simp), if_neg (by simp; omega)]
    · -- no call can have gone to a connection before there was one
      obtain rfl : id = s.opened := by omega
      rw [if_pos rfl, List.countP_eq_zero]
      intro x hx hclosed
      have hxon : x.isOn s.opened = true := (Bool.and_eq_true_iff.1 hclosed).2
      have := h.own d horigin s.opened (.inr ⟨x, hx, hxon⟩)
      omega

/-! ### Moves -/

/-- Every move keeps the accounts. -/
theorem move (h : Accounts origin s₀ q s events) (hmove : Move (q, s) (q', s')) :
    ∃ events', Accounts origin s₀ q' s' events' := by
  cases hmove with
  | configure hhandle hstatement => exact ⟨events, h.idle hhandle hstatement rfl rfl⟩
  | @release _ _ c hq hc =>
    obtain ⟨ok, hhistory, hopened⟩ := s.adds_closeStatement c
    refine ⟨_, h.call hc rfl rfl rfl ?_ hhistory hopened⟩
    rw [held, if_pos hq]
    rfl
  | forget hq hc =>
    -- who holds a statement has a connection
    have hid := h.connected hq
    rw [connectionId?, hc] at hid
    cases hid
  | @refused _ _ c sql hq hc hs =>
    refine ⟨_, h.call hc rfl rfl rfl ?_ (s.prepare_history c sql) (s.prepare_opened c sql)⟩
    rw [hs]
    rfl
  | @prepare _ _ c sql st hq hc hs =>
    refine ⟨_, h.call hc rfl rfl rfl ?_ (s.prepare_history c sql) (s.prepare_opened c sql)⟩
    rw [hs, held, hq]
    rfl
  | @update _ _ c st hq hc =>
    obtain ⟨ok, hhistory, hopened⟩ := s.adds_update c st
    exact ⟨_, h.call hc rfl rfl rfl rfl hhistory hopened⟩
  | @query _ _ c st hq hc =>
    obtain ⟨ok, hhistory, hopened⟩ := s.adds_query c st
    exact ⟨_, h.call hc rfl rfl rfl rfl hhistory hopened⟩
  | @close _ _ d c hq hc =>
    obtain ⟨ok, hhistory, hopened⟩ := s.adds_close c
    exact ⟨_, h.close hc hq hhistory hopened⟩
  | @unconnected _ _ _ d e hq hc hs =>
    rcases d.connect_cases s with ⟨e', s'', hs', hopened, hhistory⟩ | ⟨c, s'', _, _, hs', _⟩
    · rw [hs] at hs'
      cases hs'
      rcases hhistory with hhistory | ⟨driver, request, hhistory⟩
      · exact ⟨events, h.idle rfl rfl hhistory hopened⟩
      · exact ⟨_, h.unconnected hc hq hhistory hopened⟩
    · rw [hs] at hs'
      cases hs'
  | @connect _ _ _ d c hq hc hs =>
    rcases d.connect_cases s with ⟨e, s'', hs', _⟩ |
      ⟨c', s'', driver, request, hs', hid, hopened, hhistory⟩
    · rw [hs] at hs'
      cases hs'
    · rw [hs] at hs'
      cases hs'
      exact ⟨_, h.connect hc hq hid hhistory hopened⟩

/-- A query on a lent connection starts with nothing to account for. -/
theorem of_onConnection (c : Connection) (table : String) (m : Marshaller)
    (tracer : Option Tracer) (s : Session) :
    Accounts (.lent c) s (onConnection c table m tracer) s [] where
  history := rfl
  kind := rfl
  statements := rfl
  statementsOn id := by
    rw [List.countP_nil, List.countP_nil,
      show held (Query.onConnection c table m tracer) = 0 from rfl, ite_self]
  connected h := by cases h
  ended later earlier c ok h := by simp at h
  lent c _ e he := by cases he
  opened := rfl
  own d h := by cases h
  closedOnce id hfirst hlast := absurd hlast (by omega)

/-- So does a query on a database before it has a connection. -/
theorem of_unopened (d : Database) (table : String) (m : Marshaller) (tracer : Option Tracer)
    (s : Session) : Accounts (.database d) s (fresh (.owned d none) table m tracer) s [] where
  history := rfl
  kind := rfl
  statements := rfl
  statementsOn id := rfl
  connected h := by cases h
  ended later earlier c ok h := by simp at h
  lent c h := by cases h
  opened := rfl
  own d _ id h := by
    rcases h with h | ⟨e, he, _⟩
    · cases h
    · cases he
  closedOnce id hfirst hlast := absurd hlast (by omega)

/-! ### Closing -/

/-- A closed query has given back every statement. -/
theorem statements_of_closed (h : Accounts origin s₀ q s events) (hq : q.Closed) :
    events.countP (Event.granted .prepare) = events.countP (Event.made .closeStatement) := by
  rw [h.statements, held, hq.1]
  rfl

/-- A query on a lent connection acquires none. -/
theorem opened_of_lent (h : Accounts origin s₀ q s events) {c : Connection}
    (horigin : origin = .lent c) : s.opened = s₀.opened := by
  have hnone : events.countP (Event.granted .connect) = 0 := by
    rw [List.countP_eq_zero]
    intro e he hgranted
    have hc := (h.lent c horigin e he).1
    obtain ⟨call, ok⟩ := e
    cases call
    case connect => cases hc
    all_goals exact Bool.false_ne_true hgranted
  rw [h.opened, hnone]
  rfl

/-- A closed query has closed every connection that it acquired. -/
theorem closedOnce_of_closed (h : Accounts origin s₀ q s events) (hq : q.Closed) {id : Nat}
    (hfirst : s₀.opened ≤ id) (hlast : id < s.opened) :
    events.countP (fun e => e.made .close && e.isOn id) = 1 := by
  have hcount := h.closedOnce id hfirst hlast
  cases hhandle : q.handle with
  | owned d c =>
    rw [connectionId?, connection?_of_closed hq hhandle] at hcount
    exact hcount
  | borrowed c =>
    have horigin : origin = .lent c := by
      rw [← h.kind, hhandle]
      rfl
    have hopened := h.opened_of_lent horigin
    omega

end Accounts

/-! ### Lives of queries -/

variable {origin : Origin} {s₀ : Session}

/-- The accounts of a query balance. -/
def Balanced (origin : Origin) (s₀ : Session) (x : Query × Session) : Prop :=
  ∃ events, Accounts origin s₀ x.1 x.2 events

/-- The accounts of a query balance and are closed: it holds nothing, every statement was given
back, and every connection that was acquired was closed once. -/
def Settled (origin : Origin) (s₀ : Session) (x : Query × Session) : Prop :=
  x.1.Closed ∧ ∃ events, Accounts origin s₀ x.1 x.2 events ∧
    events.countP (Event.granted .prepare) = events.countP (Event.made .closeStatement) ∧
    ∀ id, s₀.opened ≤ id → id < x.2.opened →
      events.countP (fun e => e.made .close && e.isOn id) = 1

theorem balanced_of_moves {x y : Query × Session} (h : Balanced origin s₀ x)
    (hmoves : Moves x y) : Balanced origin s₀ y := by
  -- every move keeps the accounts, so the induction is on the chain
  induction hmoves with
  | refl => exact h
  | tail _ hmove ih =>
    obtain ⟨events, hevents⟩ := ih
    exact hevents.move hmove

/-- Closing a query settles its accounts. -/
theorem settled_close {q : Query} {s : Session} (h : Balanced origin s₀ (q, s)) :
    Settled origin s₀ (q.close s) := by
  obtain ⟨events, hevents⟩ := balanced_of_moves h (q.moves_close s)
  have hq := q.closed_close s
  exact ⟨hq, events, hevents, hevents.statements_of_closed hq,
    fun id hfirst hlast => hevents.closedOnce_of_closed hq hfirst hlast⟩

/-- A query is balanced from its creation on.  If it cannot be created, no connection is left
behind. -/
theorem balanced_query (origin : Origin) (table : String) (m : Marshaller)
    (tracer : Option Tracer) (s₀ : Session) :
    match origin.query table m tracer s₀ with
    | (.error _, s) =>
      s.opened = s₀.opened ∧ (s.history = s₀.history ∨
        ∃ driver request, s.history = ⟨.connect driver request, false⟩ :: s₀.history)
    | (.ok q, s) => Balanced origin s₀ (q, s) := by
  cases origin with
  | lent c => exact ⟨[], .of_onConnection c table m tracer s₀⟩
  | database d =>
    rcases d.connect_cases s₀ with ⟨e, s, hs, hopened, hhistory⟩ | ⟨c, s, _, _, hs, _⟩
    · rw [Origin.query, onDatabase, hs]
      exact ⟨hopened, hhistory⟩
    · rw [Origin.query, onDatabase, hs]
      exact (Accounts.of_unopened d table m tracer s₀).move (.connect rfl rfl hs)

/-- **The resources of a query are accounted for.**  After every run of operations, and while a
cursor is open after it, the accounts of a query balance, and whatever it does next it leaves
what it should.  When it is closed for good, its accounts are settled. -/
theorem resources_accounted (origin : Origin) (table : String) (m : Marshaller)
    (tracer : Option Tracer) (s₀ : Session) :
    match origin.query table m tracer s₀ with
    | (.error _, s) =>
      s.opened = s₀.opened ∧ (s.history = s₀.history ∨
        ∃ driver request, s.history = ⟨.connect driver request, false⟩ :: s₀.history)
    | (.ok q, s) =>
      ∀ ops : List Operation,
        let x := (run ops q s).2
        Balanced origin s₀ x ∧
          (∀ sql, Balanced origin s₀ (x.1.openCursor x.2 sql).2) ∧
          (∀ op, Leaves op (step op x.1 x.2).1 x.1 (step op x.1 x.2).2.1) ∧
          Settled origin s₀ (x.1.close x.2) := by
  have hquery := balanced_query origin table m tracer s₀
  split at hquery
  · exact hquery
  · next q s _ =>
    intro ops
    have hrun := balanced_of_moves hquery (moves_run ops q s)
    exact ⟨hrun, fun sql => balanced_of_moves hrun (moves_openCursor _ _ sql),
      fun op => leaves_step op _ _, settled_close hrun⟩

end Query

end SqlAccess

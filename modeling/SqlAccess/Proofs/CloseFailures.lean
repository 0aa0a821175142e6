/-
Failures to close.

A statement or a connection may fail to close.  The failure stands in the history, but nothing
that a query does depends on it: `Query.close_failures_invisible` compares two lives of a query
that differ in which attempts to close fail, and finds the same answers, the same queries and
the same logs after every operation.

The comparison goes over a third life, in which every attempt to close succeeds
(`Session.smooth`).  Smoothing a session is a view that every call respects
(`Session.view_smooth`), hence every operation of a query.  It forgets which attempts to close
have failed, and the log does not show it.
-/
import SqlAccess.Proofs.QueryAccounts
import SqlAccess.Proofs.QueryViews

namespace SqlAccess

/-- Whether the method closes something. -/
def Method.closes : Method → Bool
  | closeStatement => true
  | close => true
  | _ => false

/-- The event with an attempt to close taken for a success. -/
def Event.smooth (e : Event) : Event := { e with succeeded := e.succeeded || e.call.method.closes }

namespace Session

/-- The session with other failures to close from now on. -/
def closingBy (s : Session) (fails : Method → Nat → Bool) : Session :=
  { s with script.fails := fun m n => if m.closes then fails m n else s.script.fails m n }

/-- The session in which every attempt to close succeeds, and has always succeeded. -/
def smooth (s : Session) : Session :=
  { s.closingBy fun _ _ => false with history := s.history.map Event.smooth }

theorem smooth_closingBy (s : Session) (fails : Method → Nat → Bool) :
    (s.closingBy fails).smooth = s.smooth := by
  have hfails : ∀ m n, (if m.closes then false else
      if m.closes then fails m n else s.script.fails m n) =
        if m.closes then false else s.script.fails m n := by
    intro m n
    cases m.closes <;> rfl
  simp only [smooth, closingBy, hfails]

/-! ### Calls -/

variable (s : Session)

theorem calls_smooth (m : Method) : s.smooth.calls m = s.calls m := by
  rw [calls, calls, smooth, List.countP_map]
  rfl

theorem failing_smooth {m : Method} (hm : m.closes = false) :
    s.smooth.failing m = s.failing m := by
  rw [failing, failing, calls_smooth]
  simp [smooth, closingBy, hm]

theorem isClosed_smooth (c : Connection) : s.smooth.isClosed c = s.isClosed c := by
  rw [isClosed, isClosed, smooth, List.any_map]
  rfl

theorem engine_smooth (c : Connection) : s.smooth.engine c = s.engine c := rfl

theorem databases_smooth : s.smooth.script.databases = s.script.databases := rfl

theorem connect_smooth (driver : Driver) (request : ConnectRequest) :
    s.smooth.connect driver request =
      ((s.connect driver request).1, (s.connect driver request).2.smooth) := by
  rw [connect, connect, failing_smooth s rfl, databases_smooth]
  cases s.failing .connect with
  | true => rfl
  | false =>
    cases driver with
    | scripted => rfl
    | refusing => rfl
    | sqlite => cases Sqlite.openUrl s.script.databases request.url <;> rfl

theorem prepare_smooth (c : Connection) (sql : String) :
    s.smooth.prepare c sql = ((s.prepare c sql).1, (s.prepare c sql).2.smooth) := by
  have hanswer : (s.smooth.prepare c sql).1 = (s.prepare c sql).1 := by
    rw [prepare, prepare, failing_smooth s rfl, isClosed_smooth, engine_smooth]
  refine Prod.ext hanswer ?_
  show s.smooth.record (.prepare c sql) (isOk (s.smooth.prepare c sql).1) =
    s.smooth.record (.prepare c sql) (isOk (s.prepare c sql).1 || false)
  rw [hanswer, Bool.or_false]

theorem update_smooth (c : Connection) (st : Statement) :
    s.smooth.update c st = ((s.update c st).1, (s.update c st).2.smooth) := by
  rw [update, update, failing_smooth s rfl, isClosed_smooth, engine_smooth]
  cases s.failing .update with
  | true => rfl
  | false =>
    cases c.endpoint with
    | scripted => cases s.isClosed c <;> rfl
    | sqlite =>
      rcases (s.engine c).update st with ⟨_ | _, _⟩ <;> rfl

theorem query_smooth (c : Connection) (st : Statement) :
    s.smooth.query c st = ((s.query c st).1, (s.query c st).2.smooth) := by
  rw [query, query, failing_smooth s rfl, isClosed_smooth, engine_smooth]
  cases s.failing .query with
  | true => rfl
  | false =>
    cases c.endpoint with
    | scripted => cases s.isClosed c <;> rfl
    | sqlite =>
      rcases (s.engine c).query st with ⟨_ | _, _⟩ <;> rfl

/-- A statement that fails to close is given back all the same. -/
theorem closeStatement_smooth (c : Connection) :
    (s.smooth.closeStatement c).2 = (s.closeStatement c).2.smooth := by
  show s.smooth.record (.closeStatement c) _ = s.smooth.record (.closeStatement c) (_ || true)
  rw [Bool.or_true]
  rfl

/-- A connection that fails to close is closed all the same. -/
theorem close_smooth (c : Connection) : (s.smooth.close c).2 = (s.close c).2.smooth := by
  have hrecord : ∀ ok, (s.record (.close c) ok).smooth = s.smooth.record (.close c) true := by
    intro ok
    show s.smooth.record (.close c) (ok || true) = _
    rw [Bool.or_true]
  rw [close, close, isClosed_smooth]
  cases c.endpoint with
  | scripted =>
    simp only [hrecord]
    cases s.isClosed c <;> rfl
  | sqlite =>
    show _ = ((s.record (.close c) _).smooth).setEngine c _
    rw [hrecord]
    cases s.isClosed c <;> rfl

theorem view_smooth : View smooth where
  connect := connect_smooth
  prepare := prepare_smooth
  update := update_smooth
  query := query_smooth
  closeStatement := closeStatement_smooth
  close := close_smooth

/-! ### The log -/

theorem scriptedEvents_smooth : s.smooth.scriptedEvents = s.scriptedEvents.map Event.smooth := by
  rw [scriptedEvents, scriptedEvents, smooth, ← List.map_reverse, List.filter_map]
  rfl

/-- What succeeded and closes nothing is the same in the smooth events. -/
theorem filterMap_succeeded_smooth {α : Type} (events : List Event) (f : Event → Option α)
    (hf : ∀ e, f e.smooth = f e) (hcloses : ∀ e, e.call.method.closes = true → f e = none) :
    ((events.map Event.smooth).filter (·.succeeded)).filterMap f =
      (events.filter (·.succeeded)).filterMap f := by
  rw [List.filterMap_filter, List.filterMap_filter, List.filterMap_map]
  congr 1
  funext e
  show (if (e.succeeded || e.call.method.closes) = true then f e.smooth else none) = _
  rw [hf]
  cases hclose : e.call.method.closes with
  | false => rw [Bool.or_false]
  | true => rw [hcloses e hclose, ite_self, ite_self]

/-- The log shows what succeeded, and every attempt to close. -/
theorem log_smooth : s.smooth.log = s.log := by
  rw [log, log]
  simp only [scriptedEvents_smooth]
  congr 1
  · refine filterMap_succeeded_smooth _ _ (fun _ => rfl) fun e he => ?_
    cases hcall : e.call <;> simp_all [Call.method, Method.closes]
  · refine filterMap_succeeded_smooth _ _ (fun _ => rfl) fun e he => ?_
    cases hcall : e.call <;> simp_all [Call.method, Method.closes]
  · refine filterMap_succeeded_smooth _ _ (fun _ => rfl) fun e he => ?_
    cases hcall : e.call <;> simp_all [Call.method, Method.closes]
  · exact List.countP_map
  · rw [List.filter_map, List.map_map]
    rfl

end Session

theorem Origin.query_smooth (origin : Origin) (table : String) (m : Marshaller)
    (tracer : Option Tracer) (s : Session) :
    origin.query table m tracer s.smooth =
      ((origin.query table m tracer s).1, (origin.query table m tracer s).2.smooth) := by
  cases origin with
  | lent c => rfl
  | database d =>
    rw [query, Query.onDatabase, d.view_connect Session.view_smooth]
    rw [query, Query.onDatabase]
    rcases d.connect s with ⟨_ | _, s'⟩ <;> rfl

namespace Query

variable {α : Type}

/-- The work with its session smooth. -/
def smoothed (work : α × Query × Session) : α × Query × Session :=
  (work.1, work.2.1, work.2.2.smooth)

theorem openCursor_smooth (q : Query) (s : Session) (sql : String) :
    q.openCursor s.smooth sql = smoothed (q.openCursor s sql) :=
  view_openCursor Session.view_smooth id q s sql

theorem run_smooth (ops : List Operation) (q : Query) (s : Session) :
    run ops q s.smooth = smoothed (run ops q s) :=
  view_run Session.view_smooth id ops q s

/-- What is seen of work: the answer, the query and the log. -/
def seen (work : α × Query × Session) : α × Query × Session.Log :=
  (work.1, work.2.1, work.2.2.log)

theorem seen_smoothed (work : α × Query × Session) : seen (smoothed work) = seen work := by
  rw [seen, smoothed, Session.log_smooth]
  rfl

/-- **Failures to close are invisible.**  Whichever attempts to close a statement or a connection
fail, a query is created alike, every run of operations gives the same answers and leaves the
same query and the same log, and so does a cursor that is opened after it. -/
theorem close_failures_invisible (origin : Origin) (table : String) (m : Marshaller)
    (tracer : Option Tracer) (s : Session) (fails : Method → Nat → Bool) :
    let created := origin.query table m tracer s
    let created' := origin.query table m tracer (s.closingBy fails)
    created'.1 = created.1 ∧ created'.2.log = created.2.log ∧
      ∀ (ops : List Operation) (q : Query),
        let x := run ops q created.2
        let x' := run ops q created'.2
        seen x' = seen x ∧
          ∀ sql, seen (x'.2.1.openCursor x'.2.2 sql) = seen (x.2.1.openCursor x.2.2 sql) := by
  -- both lives have the same smooth life
  have hcreated : origin.query table m tracer s.smooth =
      ((origin.query table m tracer s).1, (origin.query table m tracer s).2.smooth) :=
    origin.query_smooth table m tracer s
  rw [← s.smooth_closingBy fails, origin.query_smooth, Prod.mk.injEq] at hcreated
  obtain ⟨hanswer, hsession⟩ := hcreated
  refine ⟨hanswer, ?_, fun ops q => ?_⟩
  · rw [← Session.log_smooth, hsession, Session.log_smooth]
  · have hrun : smoothed (run ops q (origin.query table m tracer (s.closingBy fails)).2) =
        smoothed (run ops q (origin.query table m tracer s).2) := by
      rw [← run_smooth, hsession, run_smooth]
    have hquery : (run ops q (origin.query table m tracer (s.closingBy fails)).2).2.1 =
        (run ops q (origin.query table m tracer s).2).2.1 := congrArg (·.2.1) hrun
    have hsmooth : (run ops q (origin.query table m tracer (s.closingBy fails)).2).2.2.smooth =
        (run ops q (origin.query table m tracer s).2).2.2.smooth := congrArg (·.2.2) hrun
    refine ⟨by rw [← seen_smoothed, hrun, seen_smoothed], fun sql => ?_⟩
    rw [← seen_smoothed, ← openCursor_smooth, hsmooth, hquery, openCursor_smooth, seen_smoothed]

end Query

end SqlAccess

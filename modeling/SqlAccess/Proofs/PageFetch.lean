/-
What fetching a page does on a connection that serves it.

`Session.Made` lists the calls that were made between two states of a session, and a page is
fetched by few of them (`Query.page_fetched`): a statement that is still held is given back; the
rows are counted if the total is not known; the rows of the page are read; and the query is
closed.  Every statement is given back before the next one is prepared.
-/
import SqlAccess.Proofs.CloseFailures
import SqlAccess.Proofs.CursorRows
import SqlAccess.Proofs.LikeSessions

namespace SqlAccess

/-- The calls by which a connection runs a statement that returns rows. -/
def Connection.serve (c : Connection) (st : Statement) : List Call :=
  [.prepare c st.sql, .query c st, .closeStatement c]

/-- The number in the first cell of the first row. -/
def ResultSet.firstNumber? (r : ResultSet) : Option Int64 :=
  (r.rows.head?.bind List.head?).bind Value.asLong?

namespace Session

variable {s s' s'' : Session} {c : Connection} {call : Call} {calls calls' : List Call}

/-! ### Calls in their order -/

/-- These calls were made between two states, in this order.  None of them failed, unless it was
to close something. -/
def Made (s : Session) (calls : List Call) (s' : Session) : Prop :=
  ∃ events : List Event, s'.history = events.reverse ++ s.history ∧ events.map (·.call) = calls ∧
    ∀ e ∈ events, e.succeeded = true ∨ e.call.method.closes = true

theorem Made.refl (s : Session) : s.Made [] s := ⟨[], rfl, rfl, fun e he => by cases he⟩

theorem Made.trans (h : s.Made calls s') (h' : s'.Made calls' s'') :
    s.Made (calls ++ calls') s'' := by
  obtain ⟨events, hhistory, hcalls, hevents⟩ := h
  obtain ⟨events', hhistory', hcalls', hevents'⟩ := h'
  refine ⟨events ++ events', ?_, ?_, fun e he => ?_⟩
  · rw [hhistory', hhistory, List.reverse_append, List.append_assoc]
  · rw [List.map_append, hcalls, hcalls']
  · rcases List.mem_append.1 he with he | he
    · exact hevents e he
    · exact hevents' e he

theorem Made.of_history {ok : Bool} (h : s'.history = ⟨call, ok⟩ :: s.history)
    (hok : ok = true ∨ call.method.closes = true) : s.Made [call] s' := by
  refine ⟨[⟨call, ok⟩], h, rfl, fun e he => ?_⟩
  rw [List.mem_singleton.1 he]
  exact hok

/-- An attempt to close may have failed. -/
theorem Made.of_adds (h : s.Adds call s') (hcall : call.method.closes = true) :
    s.Made [call] s' := by
  obtain ⟨ok, hhistory, _⟩ := h
  exact .of_history hhistory (.inr hcall)

/-! ### Connections that serve -/

/-- The connection is open, and it prepares every statement and runs every one that returns rows.
Attempts to close may fail. -/
structure Serves (s : Session) (c : Connection) : Prop where
  scripted : c.endpoint = .scripted
  isOpen : s.isClosed c = false
  prepares : ∀ n, s.script.fails .prepare n = false
  runs : ∀ n, s.script.fails .query n = false

theorem Serves.record (h : s.Serves c) (hcall : call.method ≠ .close) (ok : Bool) :
    (s.record call ok).Serves c where
  scripted := h.scripted
  isOpen := by simp [isClosed_record, h.isOpen, hcall]
  prepares := h.prepares
  runs := h.runs

/-- The result that answers the statement with a number, counted from zero, among those still to
be run. -/
def result (s : Session) (n : Nat) : ResultSet := s.results[n]?.getD .empty

/-- These calls were made and `n` results were taken, and the connection serves on. -/
structure Served (s : Session) (c : Connection) (calls : List Call) (n : Nat) (s' : Session) :
    Prop where
  serves : s'.Serves c
  results : s'.results = s.results.drop n
  made : s.Made calls s'

variable {m n : Nat}

theorem Served.refl (hs : s.Serves c) : s.Served c [] 0 s where
  serves := hs
  results := rfl
  made := .refl s

theorem Served.trans (h : s.Served c calls n s') (h' : s'.Served c calls' m s'') :
    s.Served c (calls ++ calls') (n + m) s'' where
  serves := h'.serves
  results := by rw [h'.results, h.results, List.drop_drop]
  made := h.made.trans h'.made

theorem Served.result (h : s.Served c calls n s') (m : Nat) : s'.result m = s.result (n + m) := by
  rw [Session.result, h.results, List.getElem?_drop, Session.result]

theorem Serves.closeStatement (h : s.Serves c) :
    s.Served c [.closeStatement c] 0 (s.closeStatement c).2 where
  serves := h.record (fun h => by cases h) _
  results := rfl
  made := .of_adds (s.adds_closeStatement c) rfl

theorem Serves.prepare (h : s.Serves c) (sql : String) :
    ∃ s', s.prepare c sql = (.ok ⟨sql, []⟩, s') ∧ s.Served c [.prepare c sql] 0 s' := by
  have hfailing : s.failing .prepare = false := h.prepares _
  refine ⟨s.record (.prepare c sql) true, ?_, h.record (fun h => by cases h) true, rfl, ?_⟩
  · simp [Session.prepare, hfailing, h.scripted, h.isOpen, isOk]
  · exact .of_history rfl (.inl rfl)

theorem Serves.query (h : s.Serves c) (st : Statement) :
    ∃ s', s.query c st = (.ok (s.result 0), s') ∧ s.Served c [.query c st] 1 s' := by
  have hfailing : s.failing .query = false := h.runs _
  have hrecord : (s.record (.query c st) true).Serves c := h.record (fun h => by cases h) true
  refine ⟨{ s.record (.query c st) true with results := s.results.tail }, ?_, ?_, ?_, ?_⟩
  · simp [Session.query, hfailing, h.scripted, h.isOpen, Session.result,
      List.head?_eq_getElem?]
  · exact ⟨hrecord.scripted, hrecord.isOpen, hrecord.prepares, hrecord.runs⟩
  · exact List.drop_one.symm
  · exact .of_history rfl (.inl rfl)

end Session

namespace Query

variable {q q' : Query} {s : Session} {c : Connection}

/-- What gives back the statement that a query holds. -/
def giveBack (q : Query) (c : Connection) : List Call :=
  if q.statement.isSome then [.closeStatement c] else []

/-- What closes the connection that is a query's own. -/
def leave (q : Query) (c : Connection) : List Call := if q.handle.isOwned then [.close c] else []

/-- The SELECT of a page: that of the query without paging, and the paging of the page. -/
def pageSql (q : Query) (offset size : UInt64) : String :=
  ((q.setLimit none).setOffset none).selectSql ++
    (" LIMIT " ++ Text.decimalText size.toNat ++ " OFFSET " ++ Text.decimalText offset.toNat)

theorem selectSql_page (q : Query) (offset size : UInt64) :
    (q.page offset size).selectSql = q.pageSql offset size := by
  have hunpaged : ((q.setLimit none).setOffset none).pagingText = "" := rfl
  rw [pageSql, selectSql, selectSql, hunpaged, String.append_empty]
  rfl

/-! ### Giving back and closing -/

theorem release_of_serves (hq : q.handle.connection? = some c) (hs : s.Serves c) :
    ∃ s', q.release s = (q.dropStatement, s') ∧ s.Served c (q.giveBack c) 0 s' := by
  refine ⟨(q.release s).2, Prod.ext (q.release_fst s) rfl, ?_⟩
  rw [release, giveBack]
  cases q.statement with
  | none => exact .refl hs
  | some st =>
    simp only [hq]
    exact hs.closeStatement

theorem made_close (hq : q.handle.connection? = some c) (hs : s.Serves c) :
    s.Made (q.giveBack c ++ q.leave c) (q.close s).2 := by
  obtain ⟨s₁, hrelease, h₁⟩ := release_of_serves hq hs
  rw [close, hrelease, leave]
  simp only [dropStatement]
  rcases hhandle : q.handle with ⟨d, _ | c'⟩ | c'
  · rw [hhandle] at hq
    cases hq
  · rw [hhandle] at hq
    cases hq
    exact h₁.made.trans (.of_adds (s₁.adds_close c) rfl)
  · exact h₁.made.trans (.refl s₁)

/-! ### Running a statement -/

/-- The query holding a statement. -/
def holding (q : Query) (st : Statement) : Query := { q with statement := some st }

/-- A query whose connection serves it gets the next result, and holds the statement. -/
theorem runQuery_of_serves (hq : q.handle.connection? = some c) (hs : s.Serves c) (sql : String)
    (params : List Value) :
    ∃ s', q.runQuery s sql params = (.ok (s.result 0), q.holding ⟨sql, params⟩, s') ∧
      s.Served c (q.giveBack c ++ [.prepare c sql, .query c ⟨sql, params⟩]) 1 s' := by
  obtain ⟨s₁, hrelease, h₁⟩ := release_of_serves hq hs
  obtain ⟨s₂, hprepare, h₂⟩ := h₁.serves.prepare sql
  obtain ⟨s₃, hquery, h₃⟩ := h₂.serves.query ⟨sql, params⟩
  have hget : q.dropStatement.handle.get = .ok c := get_of_connection? hq
  have hserved := (h₁.trans h₂).trans h₃
  rw [List.append_assoc] at hserved
  refine ⟨s₃, ?_, hserved⟩
  rw [runQuery_eq, execute]
  simp only [hrelease, hget, hprepare, Statement.bind, List.nil_append, hquery, h₂.result,
    h₁.result]
  rfl

/-- Counting takes a result, and the statement is given back. -/
theorem count_of_serves (hq : q.handle.connection? = some c) (hs : s.Serves c) :
    ∃ s', q.count s = (countOf q.countSql (s.result 0), q.dropStatement, s') ∧
      s.Served c (q.giveBack c ++ c.serve ⟨q.countSql, q.binds⟩) 1 s' := by
  obtain ⟨s₁, hrun, h₁⟩ := runQuery_of_serves hq hs q.countSql q.binds
  have hholding : (q.holding ⟨q.countSql, q.binds⟩).handle.connection? = some c := hq
  obtain ⟨s₂, hrelease, h₂⟩ := release_of_serves hholding h₁.serves
  have hserved := h₁.trans h₂
  rw [List.append_assoc] at hserved
  refine ⟨s₂, ?_, hserved⟩
  rw [count]
  simp only [hrun, hrelease]
  rfl

/-- Reading all rows takes a result, and the query is closed even if a row cannot be read. -/
theorem allRows_of_serves (hq : q.handle.connection? = some c) (hs : s.Serves c) :
    ∃ q' s', q.allRows s =
        ((s.result 0).rows.mapM (q.extracted (s.result 0).labels), q', s') ∧ q'.Closed ∧
      s.Made (q.giveBack c ++ c.serve ⟨q.selectSql, q.binds⟩ ++ q.leave c) s' := by
  let q₁ := q.holding ⟨q.selectSql, q.binds⟩
  obtain ⟨s₁, hrun, h₁⟩ := runQuery_of_serves hq hs q.selectSql q.binds
  have hrows : (Cursor.start (s.result 0)).intoRows q₁ =
      (s.result 0).rows.mapM (q.extracted (s.result 0).labels) := by
    have halike : ReadsAlike q q₁ := ⟨rfl, rfl⟩
    rw [← halike.extracted]
    exact Cursor.intoRows_after q₁ (s.result 0) 0
  have hholding : q₁.handle.connection? = some c := hq
  have hmade := h₁.made.trans (made_close hholding h₁.serves)
  refine ⟨(q₁.close s₁).1, (q₁.close s₁).2, ?_, q₁.closed_close s₁, ?_⟩
  · rw [allRows, openCursor, hrun, ← hrows]
    rfl
  · rw [← List.append_assoc, List.append_assoc (q.giveBack c)] at hmade
    exact hmade

/-! ### Counting -/

theorem countOf_of_some (sql : String) {r : ResultSet} {n : Int64}
    (h : r.firstNumber? = some n) :
    ∃ total : UInt64, countOf sql r = .ok total ∧ total.toNat = n.toInt.toNat := by
  have hlt : n.toInt.toNat < UInt64.size := by
    have hn := n.toInt_lt
    have hsize : UInt64.size = 2 ^ 64 := rfl
    omega
  refine ⟨UInt64.ofNat n.toInt.toNat, ?_, UInt64.toNat_ofNat_of_lt hlt⟩
  rw [ResultSet.firstNumber?] at h
  rw [countOf, h]

theorem countOf_of_none (sql : String) {r : ResultSet} (h : r.firstNumber? = none) :
    countOf sql r = .error (.query (.noCount sql)) := by
  rw [ResultSet.firstNumber?] at h
  rw [countOf, h]

theorem release_of_sameHold (h : SameHold q q') (s : Session) :
    SameHold (q.release s).1 (q'.release s).1 ∧ (q'.release s).2 = (q.release s).2 := by
  refine ⟨⟨?_, ?_⟩, ?_⟩
  · rw [handle_release, handle_release, h.1]
  · rw [statement_release, statement_release]
  · rw [release, release, h.1, h.2]
    cases q.statement with
    | none => rfl
    | some st => cases q.handle.connection? <;> rfl

/-- Only the connection and the statement of a query matter to what it runs. -/
theorem runQuery_of_sameHold (h : SameHold q q') (s : Session) (sql : String)
    (params : List Value) :
    (q'.runQuery s sql params).1 = (q.runQuery s sql params).1 ∧
      SameHold (q.runQuery s sql params).2.1 (q'.runQuery s sql params).2.1 ∧
      (q'.runQuery s sql params).2.2 = (q.runQuery s sql params).2.2 := by
  obtain ⟨hhold, hsession⟩ := release_of_sameHold h s
  rw [runQuery_eq, runQuery_eq, execute, execute]
  simp only [hsession, hhold.1]
  cases (q.release s).1.handle.get with
  | error e => exact ⟨rfl, hhold, rfl⟩
  | ok c =>
    simp only
    rcases (q.release s).2.prepare c sql with ⟨e | st, s'⟩
    · exact ⟨rfl, hhold, rfl⟩
    · exact ⟨rfl, ⟨rfl, rfl⟩, rfl⟩

/-- Of the clauses of a query, those of its count alone matter to the count. -/
theorem count_of_sameHold (h : SameHold q q') (hsql : q'.countSql = q.countSql)
    (hbinds : q'.binds = q.binds) (s : Session) :
    (q'.count s).1 = (q.count s).1 ∧ (q'.count s).2.2 = (q.count s).2.2 := by
  obtain ⟨hanswer, hhold, hsession⟩ := runQuery_of_sameHold h s q.countSql q.binds
  rw [count, count, hsql, hbinds]
  refine ⟨?_, ?_⟩
  · show (q'.runQuery s q.countSql q.binds).1.bind _ = _
    rw [hanswer]
  · show ((q'.runQuery s q.countSql q.binds).2.1.release _).2 = _
    rw [hsession]
    exact (release_of_sameHold hhold _).2

/-! ### Pages -/

/-- A page whose total is known takes one result. -/
theorem selectPage_of_total (hq : q.handle.connection? = some c) (hs : s.Serves c)
    (total offset size : UInt64) :
    (q.selectPage s (some total) offset size).1 =
        ((s.result 0).rows.mapM (q.extracted (s.result 0).labels)).map (⟨·, total⟩) ∧
      s.Made (q.giveBack c ++ c.serve ⟨q.pageSql offset size, q.binds⟩ ++ q.leave c)
        (q.selectPage s (some total) offset size).2.2 := by
  have hpage : (q.page offset size).handle.connection? = some c := hq
  obtain ⟨q', s', hrows, hclosed, hmade⟩ := allRows_of_serves hpage hs
  have halike : ReadsAlike q (q.page offset size) := ⟨rfl, rfl⟩
  rw [halike.extracted] at hrows
  rw [selectSql_page] at hmade
  have hfetch : q.fetchPage s (some total) offset size =
      (((s.result 0).rows.mapM (q.extracted (s.result 0).labels)).map (⟨·, total⟩), q', s') := by
    rw [page] at hrows
    rw [fetchPage, Query.total]
    simp only [hrows]
  -- reading the rows has closed the query
  rw [selectPage, hfetch, closing_of_closed hclosed]
  exact ⟨rfl, hmade⟩

theorem selectPage_of_count {s' : Session} {total : UInt64} (h : q.count s = (.ok total, q', s'))
    (offset size : UInt64) :
    q.selectPage s none offset size = q'.selectPage s' (some total) offset size := by
  rw [selectPage, fetchPage, Query.total, h]
  rfl

theorem selectPage_of_no_count {s' : Session} {e : Error} (h : q.count s = (.error e, q', s'))
    (offset size : UInt64) : q.selectPage s none offset size = (.error e, q'.close s') := by
  rw [selectPage, fetchPage, Query.total, h]
  rfl

/-- **What fetching a page takes.**  With a total that is known, one statement is run, the SELECT
of the page.  Otherwise the count is run first, and the SELECT only if there is a number in the
first cell of the result.  Both have the values of the query for their parameters, and the first
is given back before the second is prepared.  The items are the rows of the SELECT in their order;
if the count has no number or a row cannot be read, there is no page, and nothing more is run.  The
paging and the supplement of the query do not matter to the count. -/
theorem page_fetched (hq : q.handle.connection? = some c) (hs : s.Serves c)
    (offset size : UInt64) :
    let count : Statement := ⟨q.countSql, q.binds⟩
    let select : Statement := ⟨q.pageSql offset size, q.binds⟩
    let items (n : Nat) : Result (List Row) :=
      (s.result n).rows.mapM (q.extracted (s.result n).labels)
    let known (total : UInt64) := q.selectPage s (some total) offset size
    let counted := q.selectPage s none offset size
    (∀ total, (known total).1 = (items 0).map (⟨·, total⟩) ∧
        s.Made (q.giveBack c ++ c.serve select ++ q.leave c) (known total).2.2) ∧
      (∀ n, (s.result 0).firstNumber? = some n →
        ∃ total, total.toNat = n.toInt.toNat ∧ counted.1 = (items 1).map (⟨·, total⟩) ∧
          s.Made (q.giveBack c ++ c.serve count ++ c.serve select ++ q.leave c) counted.2.2) ∧
      ((s.result 0).firstNumber? = none →
        counted.1 = .error (.query (.noCount q.countSql)) ∧
          s.Made (q.giveBack c ++ c.serve count ++ q.leave c) counted.2.2) ∧
      ∀ limit offset supplement,
        let q' : Query := { q with limit := limit, offset := offset, supplement := supplement }
        q'.countSql = q.countSql ∧ (q'.count s).1 = (q.count s).1 ∧
          (q'.count s).2.2 = (q.count s).2.2 := by
  intro count select items known counted
  obtain ⟨s', hcount, hserved⟩ := count_of_serves hq hs
  have hdropped : q.dropStatement.handle.connection? = some c := hq
  refine ⟨fun total => selectPage_of_total hq hs total offset size, fun n hn => ?_, fun hn => ?_,
    fun limit offset supplement => ?_⟩
  · obtain ⟨total, htotal, hnumber⟩ := countOf_of_some q.countSql hn
    rw [htotal] at hcount
    have hcounted : counted = q.dropStatement.selectPage s' (some total) offset size :=
      selectPage_of_count hcount offset size
    obtain ⟨hanswer, hmade⟩ := selectPage_of_total hdropped hserved.serves total offset size
    have halike : ReadsAlike q q.dropStatement := ⟨rfl, rfl⟩
    rw [hserved.result, halike.extracted] at hanswer
    -- the count has given back its statement, so nothing stands between it and the SELECT
    have hnothing : q.dropStatement.giveBack c = [] := rfl
    rw [hnothing, List.nil_append] at hmade
    have hcalls := hserved.made.trans hmade
    rw [← List.append_assoc] at hcalls
    rw [hcounted]
    exact ⟨total, hnumber, hanswer, hcalls⟩
  · rw [countOf_of_none q.countSql hn] at hcount
    have hcounted : counted = (.error _, q.dropStatement.close s') :=
      selectPage_of_no_count hcount offset size
    rw [hcounted]
    exact ⟨rfl, hserved.made.trans (made_close hdropped hserved.serves)⟩
  · have hhold : SameHold q { q with limit := limit, offset := offset, supplement := supplement } :=
      ⟨rfl, rfl⟩
    exact ⟨rfl, count_of_sameHold hhold rfl rfl s⟩

/-- A page of guests from the third on, for which three are counted.  The statement of an earlier
query is given back first. -/
theorem page_fetched_of_guests :
    let s := Session.start ⟨.generic, 1, fun _ _ => false, fun _ => none⟩
      [⟨["COUNT(*)"], [[.long 3]]⟩, ⟨["id"], [[.long 7]]⟩]
    let c : Connection := ⟨0, .scripted, .generic⟩
    let q : Query :=
      { (onConnection c "guests" .json none).addColumn "id" (.plain "id" .integer) with
        whereClause := some "floor > ?", binds := [.int 1], limit := some 9
        statement := some ⟨"SELECT 1", []⟩ }
    let page := q.selectPage s none 2 5
    q.handle.connection? = some c ∧ s.Serves c ∧ (s.result 0).firstNumber? = some 3 ∧
      ∃ total : UInt64, total.toNat = 3 ∧
        page.1 = ((s.result 1).rows.mapM (q.extracted (s.result 1).labels)).map (⟨·, total⟩) ∧
        s.Made
          [.closeStatement c,
            .prepare c "SELECT COUNT(*) FROM guests WHERE floor > ?",
            .query c ⟨"SELECT COUNT(*) FROM guests WHERE floor > ?", [.int 1]⟩,
            .closeStatement c,
            .prepare c "SELECT id FROM guests WHERE floor > ? LIMIT 5 OFFSET 2",
            .query c ⟨"SELECT id FROM guests WHERE floor > ? LIMIT 5 OFFSET 2", [.int 1]⟩,
            .closeStatement c]
          page.2.2 := by
  intro s c q page
  have hq : q.handle.connection? = some c := rfl
  have hs : s.Serves c := ⟨rfl, rfl, fun n => rfl, fun n => rfl⟩
  have hnumber : (s.result 0).firstNumber? = some 3 := rfl
  exact ⟨hq, hs, hnumber, (page_fetched hq hs 2 5).2.1 3 hnumber⟩

end Query

end SqlAccess

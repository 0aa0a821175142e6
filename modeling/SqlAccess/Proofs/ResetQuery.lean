/-
Resetting a query.

A query that was used can be reset: it forgets its columns, clauses, values and paging, gives its
statement back, and opens a connection if it has closed its own.  What is left is a new query
(`Query.reset_eq_ok`), and `Query.reset_as_good_as_new` says that its past cannot be seen in
anything that it does from then on.
-/
import SqlAccess.Proofs.LikeQueries
import SqlAccess.Proofs.QueryAccounts

namespace SqlAccess

/-- Only a handle that opens connections can be without one. -/
theorem Handle.closed_of_connection? {h : Handle} (hc : h.connection? = none) :
    ∃ d, h = .owned d none := by
  rcases h with ⟨d, _ | c⟩ | c
  · exact ⟨d, rfl⟩
  · cases hc
  · cases hc

namespace Query

/-- What a query is cleared to, once its statement is released, is a new query. -/
theorem cleared_release (q : Query) (s : Session) :
    (q.release s).1.cleared = fresh q.handle q.table q.marshaller q.tracer := by
  rw [cleared_eq_fresh (q.statement_release s), release_fst]
  rfl

/-- A query with a connection keeps it, and nothing else. -/
theorem reset_of_connected {q : Query} {c : Connection} (hc : q.handle.connection? = some c)
    (s : Session) :
    q.reset s = (.ok (), fresh q.handle q.table q.marshaller q.tracer, (q.release s).2) := by
  have hhandle : (fresh q.handle q.table q.marshaller q.tracer).handle = q.handle := rfl
  rw [reset]
  simp only [cleared_release, hhandle]
  rcases hq : q.handle with ⟨d, _ | c'⟩ | c'
  · rw [hq] at hc
    cases hc
  · rfl
  · rfl

/-- A query that has closed its connection asks for a new one. -/
theorem reset_of_closed {q : Query} {d : Database} (hq : q.handle = .owned d none) (s : Session) :
    q.reset s =
      match d.connect (q.release s).2 with
      | (.ok c, s) => (.ok (), fresh (.owned d (some c)) q.table q.marshaller q.tracer, s)
      | (.error e, s) => (.error e, fresh q.handle q.table q.marshaller q.tracer, s) := by
  have hhandle : (fresh q.handle q.table q.marshaller q.tracer).handle = .owned d none := hq
  rw [reset]
  simp only [cleared_release, hhandle]
  rcases d.connect (q.release s).2 with ⟨_ | c, s'⟩ <;> rfl

/-- A query that was reset is fresh, and has a connection of the same origin. -/
theorem reset_eq_ok {q q' : Query} {s s' : Session} (h : q.reset s = (.ok (), q', s')) :
    q' = fresh q'.handle q.table q.marshaller q.tracer ∧ q'.handle.origin = q.handle.origin ∧
      q'.handle.connection?.isSome = true := by
  cases hc : q.handle.connection? with
  | some c =>
    rw [reset_of_connected hc] at h
    cases h
    exact ⟨rfl, rfl, by rw [fresh, hc]; rfl⟩
  | none =>
    obtain ⟨d, hq⟩ := Handle.closed_of_connection? hc
    rw [reset_of_closed hq] at h
    rcases hd : d.connect (q.release s).2 with ⟨e | c, s''⟩
    · rw [hd] at h
      cases h
    · rw [hd] at h
      cases h
      exact ⟨rfl, hq ▸ rfl, rfl⟩

theorem Balanced.numbered {origin : Origin} {q : Query} {s₀ s : Session}
    (h : Balanced origin s₀ (q, s)) : s.Numbered q.handle := by
  obtain ⟨events, hevents⟩ := h
  intro d c hc
  have hid : q.connectionId? = some c.id := Accounts.connectionId?_eq (by rw [hc]; rfl)
  exact (hevents.own d (hevents.origin_of_owned hc) c.id (.inl hid)).2

theorem query_eq_fresh {origin : Origin} {table : String} {m : Marshaller}
    {tracer : Option Tracer} {s s' : Session} {q : Query}
    (h : origin.query table m tracer s = (.ok q, s')) : q = fresh q.handle table m tracer := by
  cases origin with
  | lent c =>
    cases h
    rfl
  | database d =>
    rw [Origin.query, onDatabase] at h
    rcases hd : d.connect s with ⟨e | c, s''⟩
    · rw [hd] at h
      cases h
    · rw [hd] at h
      cases h
      rfl

theorem balanced_of_query {origin : Origin} {table : String} {m : Marshaller}
    {tracer : Option Tracer} {s s' : Session} {q : Query}
    (h : origin.query table m tracer s = (.ok q, s')) : Balanced origin s (q, s') := by
  have hquery := balanced_query origin table m tracer s
  rw [h] at hquery
  exact hquery

/-- **A query that was reset is as good as new.**  Whatever was done with it before, it now has
neither columns nor clauses, and it cannot be told from a new query on the same table whose
connection is in the same state, whatever traces either of them. -/
theorem reset_as_good_as_new {origin : Origin} {table : String} {m : Marshaller}
    {tracer : Option Tracer} {s₀ s₁ s : Session} {q₀ q : Query} {ops : List Operation}
    (hcreated : origin.query table m tracer s₀ = (.ok q₀, s₁))
    (hreset : (run ops q₀ s₁).2.1.reset (run ops q₀ s₁).2.2 = (.ok (), q, s)) :
    let used := (run ops q₀ s₁).2.1
    q = fresh q.handle used.table used.marshaller used.tracer ∧ q.handle.origin = origin ∧
      q.handle.connection?.isSome = true ∧
      ∀ (origin' : Origin) (tracer' : Option Tracer) (t₀ t : Session) (new : Query),
        origin'.query used.table used.marshaller tracer' t₀ = (.ok new, t) →
        s.Alike t → Handle.SameState s t q.handle new.handle →
        ∀ more : List Operation,
          let x := run more q s
          let y := run more new t
          y.1 = x.1 ∧ SameTexts x.2.1 y.2.1 ∧ Session.AskedAlike s t x.2.2 y.2.2 ∧
            ∀ sql,
              (y.2.1.openCursor y.2.2 sql).1 = (x.2.1.openCursor x.2.2 sql).1 ∧
                Session.AskedAlike s t (x.2.1.openCursor x.2.2 sql).2.2
                  (y.2.1.openCursor y.2.2 sql).2.2 := by
  intro used
  obtain ⟨hq, horigin, hconnection⟩ := reset_eq_ok hreset
  have hlife := balanced_of_moves (balanced_of_query hcreated)
    ((moves_run ops q₀ s₁).trans (moves_reset _ _))
  rw [hreset] at hlife
  refine ⟨hq, ?_, hconnection, ?_⟩
  · obtain ⟨events, hevents⟩ := hlife
    exact hevents.kind
  intro origin' tracer' t₀ t new hnew halike hstate more x y
  have hfresh : new = q.on new.handle tracer' := by
    rw [query_eq_fresh hnew, hq]
    rfl
  have htwins : Alike s t (q, s) (new, t) :=
    ⟨new.handle, tracer', t, Prod.ext hfresh rfl, halike, hstate, hlife.numbered,
      (balanced_of_query hnew).numbered, [], [], rfl, rfl, rfl⟩
  obtain ⟨hanswers, hafter⟩ := htwins.run more
  refine ⟨hanswers, hafter.sameTexts, hafter.asked, fun sql => ?_⟩
  obtain ⟨hopened, hcursor⟩ := hafter.openCursor sql
  exact ⟨hopened, hcursor.asked⟩

/-- A page closes the query on players, so resetting it opens a second connection; a count on it
then runs as on a new query. -/
theorem reset_as_good_as_new_of_page :
    let d : Database := ((StandardDatabase.new "main").settled ⟨.scripted, "db:main"⟩).toDatabase
    let script : Script := ⟨.generic, 1, fun _ _ => false, fun _ => none⟩
    let three : ResultSet := ⟨["COUNT(*)"], [[.long 3]]⟩
    let s₀ := Session.start script [⟨["name"], [[.text "ann"]]⟩, three]
    let t₀ := Session.start script [three]
    let ops : List Operation :=
      [.setWhere "chips >= ?", .addBind .integer (.int 5), .selectPage (some 9) 20 10]
    let onConnection (id : Nat) : Query :=
      fresh (.owned d (some ⟨id, .scripted, .generic⟩)) "players" .json none
    let s₁ := (d.connect s₀).2
    let used := (run ops (onConnection 0) s₁).2
    let s := (used.1.reset used.2).2.2
    let t := (d.connect t₀).2
    (Origin.database d).query "players" .json none s₀ = (.ok (onConnection 0), s₁) ∧
      used.1.reset used.2 = (.ok (), onConnection 1, s) ∧
      (Origin.database d).query used.1.table used.1.marshaller none t₀ = (.ok (onConnection 0), t) ∧
      s.Alike t ∧ Handle.SameState s t (onConnection 1).handle (onConnection 0).handle ∧
      (run [.count] (onConnection 0) t).1 = (run [.count] (onConnection 1) s).1 := by
  intro d script three s₀ t₀ ops onConnection s₁ used s t
  have hcreated : (Origin.database d).query "players" .json none s₀ =
      (.ok (onConnection 0), s₁) := rfl
  have hreset : used.1.reset used.2 = (.ok (), onConnection 1, s) := rfl
  have hnew : (Origin.database d).query used.1.table used.1.marshaller none t₀ =
      (.ok (onConnection 0), t) := rfl
  have halike : s.Alike t := ⟨rfl, rfl, rfl, fun _ _ => rfl, rfl⟩
  have hstate : Handle.SameState s t (onConnection 1).handle (onConnection 0).handle := by
    refine .opened ⟨rfl, rfl, rfl, rfl⟩ fun n endpoint dialect => ⟨rfl, rfl, ?_, rfl⟩
    -- the one connection that was closed has the number 0
    have hclosed : s.isClosed ⟨2 + n, endpoint, dialect⟩ = false := by
      rw [Nat.add_comm]
      rfl
    exact hclosed.symm
  refine ⟨hcreated, hreset, hnew, halike, hstate, ?_⟩
  exact ((reset_as_good_as_new hcreated hreset).2.2.2 _ none t₀ t _ hnew halike hstate [.count]).1

end Query

end SqlAccess

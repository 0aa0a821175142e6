/-
Tracing.

A query may be under a tracer, and a registry puts its queries under its own.  A tracer that is
switched on reports the statements that return rows, and nothing else depends on it:
`Query.tracing_unseen` compares a query with the same query under another tracer or under none,
and `Registry.tracing_unseen` two registries that differ in their tracers.
-/
import SqlAccess.Proofs.QueryViews
import SqlAccess.Registry

namespace SqlAccess

/-- Every call respects a session that is seen as it is. -/
theorem Session.view_id : View id where
  connect _ _ _ := rfl
  prepare _ _ _ := rfl
  update _ _ _ := rfl
  query _ _ _ := rfl
  closeStatement _ _ := rfl
  close _ _ := rfl

/-- **Tracing changes no answer.**  Under another tracer, or under none, every run of operations
gives the same answers and leaves the same session and the same query, which keeps its tracer.  So
does a cursor that is opened. -/
theorem Query.tracing_unseen (q : Query) (s : Session) (tracer : Option Tracer) :
    (∀ ops : List Operation,
        let x := run ops q s
        run ops { q with tracer } s = (x.1, { x.2.1 with tracer }, x.2.2)) ∧
      ∀ sql,
        let x := q.openCursor s sql
        { q with tracer }.openCursor s sql = (x.1, { x.2.1 with tracer }, x.2.2) :=
  ⟨fun ops => view_run Session.view_id (fun _ => tracer) ops q s,
    fun sql => view_openCursor Session.view_id (fun _ => tracer) q s sql⟩

/-- A registry with another tracer hands out the same queries, but for their tracer, and runs the
statements of its callers alike. -/
theorem Registry.tracing_unseen (r : Registry) (t : Tracer) (s : Session) :
    (∀ name table,
        let x := r.query name table s
        { r with tracer := t }.query name table s =
          (x.1.map fun q => { q with tracer := some t }, x.2)) ∧
      ∀ c st, { r with tracer := t }.executeQuery s c st = r.executeQuery s c st := by
  refine ⟨fun name table => ?_, fun c st => ?_⟩
  · have hdatabase : { r with tracer := t }.database? name = r.database? name := rfl
    rw [query, query, hdatabase]
    cases r.database? name with
    | none => rfl
    | some d =>
      simp only [Query.onDatabase]
      rcases d.connect s with ⟨_ | c, s'⟩ <;> rfl
  · rw [executeQuery, executeQuery, Session.queryBy_eq, Session.queryBy_eq]

end SqlAccess

/-
Replacing the bind values of a query.

The old values go first, then the new ones are converted and added one by one.  If all of them
can be converted, they are what the query binds from then on; if not, the query is left with
those before the first that cannot be (`Query.binds_up_to_failure`).  Either way nothing is left
of the old values, and nothing else about the query changes.

A query whose new values failed therefore binds fewer values than it was given:
`Query.failed_binds_shorten` shows a DELETE that runs with one.
-/
import Mathlib.Data.List.Forall2
import SqlAccess.Proofs.QueryStatements

namespace SqlAccess.Query

/-- The values that entries are converted to, in their order. -/
def Converted (q : Query) (entries : List (ColumnType × Value)) (vs : List Value) : Prop :=
  List.Forall₂ (fun entry v => entry.1.toSql q.marshaller entry.2 = .ok v) entries vs

/-- The first entry that cannot be converted, behind some that are converted to `vs`. -/
def Fails (q : Query) (entries : List (ColumnType × Value)) (vs : List Value) (e : Error) : Prop :=
  ∃ before type v rest, entries = before ++ (type, v) :: rest ∧ q.Converted before vs ∧
    type.toSql q.marshaller v = .error e

variable {q : Query} {before : List (ColumnType × Value)} {vs : List Value}

theorem addBinds_cons (q : Query) (type : ColumnType) (v : Value)
    (rest : List (ColumnType × Value)) :
    q.addBinds ((type, v) :: rest) =
      match type.toSql q.marshaller v with
      | .ok w => { q with binds := q.binds ++ [w] }.addBinds rest
      | .error e => (.error e, q) := by
  rw [addBinds, addBind]
  cases type.toSql q.marshaller v <;> rfl

/-- Entries that can be converted are added to the values that are there, and the rest follows. -/
theorem addBinds_append (h : q.Converted before vs) (rest : List (ColumnType × Value)) :
    q.addBinds (before ++ rest) = { q with binds := q.binds ++ vs }.addBinds rest := by
  induction before generalizing q vs with
  | nil =>
    cases h
    rw [List.append_nil]
    rfl
  | cons entry before ih =>
    cases h with
    | @cons _ w _ ws hentry hbefore =>
      -- the conversions need the marshaller only, which adding a value does not change
      have hrest := ih (q := { q with binds := q.binds ++ [w] }) hbefore
      rw [List.cons_append, addBinds_cons, hentry]
      simpa only [List.append_assoc, List.singleton_append] using hrest

/-- Either all entries can be converted, or there is a first one that cannot be. -/
theorem converted_or_fails (q : Query) (entries : List (ColumnType × Value)) :
    (∃ vs, q.Converted entries vs) ∨ ∃ vs e, q.Fails entries vs e := by
  induction entries with
  | nil => exact .inl ⟨[], .nil⟩
  | cons entry entries ih =>
    cases hentry : entry.1.toSql q.marshaller entry.2 with
    | error e => exact .inr ⟨[], e, [], entry.1, entry.2, entries, rfl, .nil, hentry⟩
    | ok w =>
      rcases ih with ⟨ws, hws⟩ | ⟨ws, e, before, type, v, rest, rfl, hws, he⟩
      · exact .inl ⟨w :: ws, .cons hentry hws⟩
      · exact .inr ⟨w :: ws, e, entry :: before, type, v, rest, rfl, .cons hentry hws, he⟩

theorem setBinds_of_converted {b : Binds} (h : q.Converted b.entries vs) :
    q.setBinds b = (.ok (), { q with binds := vs }) := by
  have hadded := addBinds_append (q := { q with binds := [] }) h []
  rw [List.append_nil] at hadded
  rw [setBinds, hadded]
  rfl

theorem setBinds_of_fails {b : Binds} {e : Error} (h : q.Fails b.entries vs e) :
    q.setBinds b = (.error e, { q with binds := vs }) := by
  obtain ⟨before, type, v, rest, hentries, hbefore, he⟩ := h
  rw [setBinds, hentries, addBinds_append (q := { q with binds := [] }) hbefore, addBinds_cons, he]
  rfl

/-- **Bind values are replaced up to the first that cannot be converted.**  Nothing is left of the
values before, whether or not all entries can be converted, and nothing but the values changes. -/
theorem binds_up_to_failure (q : Query) (b : Binds) :
    (∀ old, { q with binds := old }.setBinds b = q.setBinds b) ∧
      ((∃ vs, q.Converted b.entries vs ∧ q.setBinds b = (.ok (), { q with binds := vs })) ∨
        ∃ vs e, q.Fails b.entries vs e ∧ q.setBinds b = (.error e, { q with binds := vs })) := by
  refine ⟨fun old => rfl, ?_⟩
  rcases q.converted_or_fails b.entries with ⟨vs, hvs⟩ | ⟨vs, e, hfails⟩
  · exact .inl ⟨vs, hvs, setBinds_of_converted hvs⟩
  · exact .inr ⟨vs, e, hfails, setBinds_of_fails hfails⟩

/-- The hand of a player cannot be converted, and the seat alone is bound: a DELETE by seat and
hand then runs with one parameter for two placeholders. -/
theorem failed_binds_shorten :
    let q : Query :=
      { onConnection ⟨0, .scripted, .generic⟩ "players" .json none with
        whereClause := some "seat = ? AND hand = ?"
        binds := [.int 1, .bytes [7]] }
    let b : Binds := ⟨[(.integer, .int 5), (.binary, .int 3)]⟩
    let s := Session.start ⟨.generic, 1, fun _ _ => false, fun _ => none⟩ []
    let st : Statement := ⟨"DELETE FROM players WHERE seat = ? AND hand = ?", [.int 5]⟩
    (q.setBinds b).1 = .error (.typeMismatch "bytes" "int") ∧
      (q.setBinds b).2.binds = [.int 5] ∧ (q.setBinds b).2.binds ≠ q.binds ∧
      s.Ran ((q.setBinds b).2.delete s).2.2 st ∧ st.placeholders = 2 := by
  intro q b s st
  have hbinds : (q.setBinds b).2.binds = [.int 5] := rfl
  refine ⟨rfl, hbinds, fun hsame => ?_, ?_, by decide⟩
  · rw [hbinds] at hsame
    cases hsame
  · let work := (q.setBinds b).2.runUpdate s st.sql st.params
    have hran : s.Ran work.2.2 st := ran_runUpdate rfl
    exact hran.mono (runsOnly_close (P := fun _ => True) work.2.1 work.2.2)

end SqlAccess.Query

/-
The rows that a cursor gives.

However often a cursor was advanced, and whether or not rows could be read, it stands behind as
many rows of the result (`Cursor.advance_after`).  So the rows come in turn, each read into an
empty row, and those that are left can be read at once at any time: `Cursor.rows_in_turn`.

A row that cannot be read is left behind in part.  `Cursor.row_after_advance` says which part it
is, and `Cursor.part_of_row_left` shows one.
-/
import SqlAccess.Proofs.ColumnList
import SqlAccess.Proofs.QueryOutcome

namespace SqlAccess

namespace Cursor

variable {q : Query}

/-- The cursor after a number of advances. -/
def after (q : Query) : Nat → Cursor → Cursor
  | 0, c => c
  | n + 1, c => after q n (c.advance q).2

/-- Whether an action ends the cursor. -/
def Action.isLast : Action → Bool
  | rows => true
  | close => true
  | _ => false

/-! ### Advancing -/

/-- An advance takes a row from the result, also if it cannot be read. -/
theorem results_advance (q : Query) (c : Cursor) :
    (c.advance q).2.results = { c.results with rows := c.results.rows.tail } := by
  rw [advance, ResultSet.next]
  cases c.results.rows with
  | nil => rfl
  | cons raw rows =>
    simp only [List.head?_cons]
    rcases q.extractRow c.results.labels raw ∅ with ⟨_ | _, row⟩ <;> rfl

theorem results_after (q : Query) (n : Nat) (c : Cursor) :
    (c.after q n).results = { c.results with rows := c.results.rows.drop n } := by
  induction n generalizing c with
  | zero => rfl
  | succ n ih => rw [after, ih, results_advance, List.drop_tail]

/-- What an advance comes to when `n` rows of the result are behind the cursor. -/
inductive Advanced (q : Query) (r : ResultSet) (n : Nat) : Result Bool × Cursor → Prop where
  | read {raw : List Value} {row : Row} (hraw : r.rows[n]? = some raw)
      (hrow : q.extractRow r.labels raw ∅ = (.ok (), row)) :
      Advanced q r n (.ok true, ⟨⟨r.labels, r.rows.drop (n + 1)⟩, row⟩)
  | failed {raw : List Value} {e : Error} {row : Row} (hraw : r.rows[n]? = some raw)
      (hrow : q.extractRow r.labels raw ∅ = (.error e, row)) :
      Advanced q r n (.error e, ⟨⟨r.labels, r.rows.drop (n + 1)⟩, row⟩)
  | ended (hend : r.rows[n]? = none) :
      Advanced q r n (.ok false, ⟨⟨r.labels, r.rows.drop (n + 1)⟩, ∅⟩)

/-- The next advance reads the row behind as many rows as there were advances. -/
theorem advance_after (q : Query) (r : ResultSet) (n : Nat) :
    Advanced q r n (((start r).after q n).advance q) := by
  have hresults : ((start r).after q n).results = ⟨r.labels, r.rows.drop n⟩ :=
    results_after q n (start r)
  rw [advance, hresults, ResultSet.next]
  simp only [List.head?_drop, List.tail_drop]
  cases hraw : r.rows[n]? with
  | none => exact .ended hraw
  | some raw =>
    simp only
    rcases hrow : q.extractRow r.labels raw ∅ with ⟨e | _, row⟩
    · exact .failed hraw hrow
    · exact .read hraw hrow

/-! ### Reading all rows -/

theorem intoRows_after (q : Query) (r : ResultSet) (n : Nat) :
    ((start r).after q n).intoRows q = (r.rows.drop n).mapM (q.extracted r.labels) := by
  rw [intoRows, results_after, Query.readRows_eq_mapM]
  rfl

/-- Reading all rows is advancing to the end and taking each row out. -/
theorem intoRows_eq (q : Query) (c : Cursor) :
    c.intoRows q =
      match c.advance q with
      | (.ok true, c') => (c'.intoRows q).map (c'.row :: ·)
      | (.ok false, _) => .ok []
      | (.error e, _) => .error e := by
  rw [intoRows, advance, ResultSet.next]
  cases c.results.rows with
  | nil => rfl
  | cons raw rows =>
    rw [readRows]
    simp only [List.head?_cons]
    rcases q.extractRow c.results.labels raw ∅ with ⟨_ | _, row⟩
    · rfl
    · rfl

theorem play_advance (q : Query) (rest : List Action) (c : Cursor) :
    c.play q (.advance :: rest) =
      .advanced (c.advance q).1 (c.advance q).2.row :: (c.advance q).2.play q rest := rfl

/-- Actions that do not end the cursor come one after another, and only advances move it. -/
theorem play_append (q : Query) {actions : List Action} (h : ∀ a ∈ actions, a.isLast = false)
    (rest : List Action) (c : Cursor) :
    c.play q (actions ++ rest) =
      c.play q actions ++ (c.after q (actions.count .advance)).play q rest := by
  induction actions generalizing c with
  | nil => rfl
  | cons a actions ih =>
    have hrest := ih fun a ha => h a (List.mem_cons_of_mem _ ha)
    cases a with
    | advance =>
      rw [List.cons_append, List.count_cons_self, after, play_advance, play_advance, hrest]
      rfl
    | row =>
      rw [List.cons_append, List.count_cons_of_ne (by decide), play, play, hrest]
      rfl
    | labels =>
      rw [List.cons_append, List.count_cons_of_ne (by decide), play, play, hrest]
      rfl
    | rows => exact absurd (h .rows List.mem_cons_self) (by decide)
    | close => exact absurd (h .close List.mem_cons_self) (by decide)

end Cursor

namespace Query

/-- A cursor that was opened closes the query when the rows that are left were read, also if one
of them could not be read. -/
theorem withCursor_rows {q q' : Query} {s s' : Session} {sql : String} {r : ResultSet}
    (hopened : q.openCursor s sql = (.ok (Cursor.start r), q', s'))
    {actions : List Cursor.Action} (hactions : ∀ a ∈ actions, a.isLast = false) :
    q.withCursor s sql (actions ++ [.rows]) =
      (.ok ((Cursor.start r).play q actions ++
        [.rows ((r.rows.drop (actions.count .advance)).mapM (q.extracted r.labels))]),
        q'.close s') := by
  have halike : ReadsAlike q q' := by
    have h := q.readsAlike_openCursor s sql
    rwa [hopened] at h
  rw [withCursor, hopened]
  simp only
  rw [halike.play, Cursor.play_append q hactions, Cursor.play, Cursor.intoRows_after]
  rfl

end Query

namespace Cursor

/-- **The rows of a cursor come in turn.**  The next advance reads the next row, and what stands
in the row then is the raw row read into an empty one; behind the last row there is nothing.  The
rows that are left can be read at once, which is advancing to the end, and closes the query. -/
theorem rows_in_turn (q : Query) (r : ResultSet) :
    (∀ n,
      let next := ((start r).after q n).advance q
      next.2.results = ⟨r.labels, r.rows.drop (n + 1)⟩ ∧
        (∀ raw, r.rows[n]? = some raw →
          (∀ row, q.extracted r.labels raw = .ok row → next.1 = .ok true ∧ next.2.row = row) ∧
          ∀ e, q.extracted r.labels raw = .error e → next.1 = .error e) ∧
        (r.rows[n]? = none → next.1 = .ok false ∧ next.2.row = ∅)) ∧
      (∀ n, ((start r).after q n).intoRows q =
        (r.rows.drop n).mapM (q.extracted r.labels)) ∧
      (∀ c : Cursor, c.intoRows q =
        match c.advance q with
        | (.ok true, c') => (c'.intoRows q).map (c'.row :: ·)
        | (.ok false, _) => .ok []
        | (.error e, _) => .error e) ∧
      ∀ (s s' : Session) (sql : String) (q' : Query) (actions : List Action),
        q.openCursor s sql = (.ok (start r), q', s') → (∀ a ∈ actions, a.isLast = false) →
          q.withCursor s sql (actions ++ [.rows]) =
            (.ok ((start r).play q actions ++
              [.rows ((r.rows.drop (actions.count .advance)).mapM (q.extracted r.labels))]),
              q'.close s') ∧
            (q'.close s').1.Closed := by
  refine ⟨fun n => ?_, intoRows_after q r, intoRows_eq q, ?_⟩
  · intro next
    have hnext : Advanced q r n next := advance_after q r n
    clear_value next
    cases hnext with
    | read hraw hrow =>
      have hextracted := Query.extracted_eq_ok.2 hrow
      refine ⟨rfl, fun raw' hraw' => ?_, fun hend => ?_⟩
      · rw [hraw] at hraw'
        cases hraw'
        rw [hextracted]
        exact ⟨fun row' hrow' => ⟨rfl, Except.ok.inj hrow'⟩, fun e he => by cases he⟩
      · rw [hraw] at hend
        cases hend
    | failed hraw hrow =>
      have hextracted := Query.extracted_eq_error.2 ⟨_, hrow⟩
      refine ⟨rfl, fun raw' hraw' => ?_, fun hend => ?_⟩
      · rw [hraw] at hraw'
        cases hraw'
        rw [hextracted]
        exact ⟨fun row' hrow' => (by cases hrow'), fun e he => by cases he; rfl⟩
      · rw [hraw] at hend
        cases hend
    | ended hend =>
      refine ⟨rfl, fun raw hraw => ?_, fun _ => ⟨rfl, rfl⟩⟩
      rw [hend] at hraw
      cases hraw
  · intro s s' sql q' actions hopened hactions
    exact ⟨Query.withCursor_rows hopened hactions, q'.closed_close s'⟩

/-- Of three hands the second cannot be read; after two advances the third is left, and it alone
is read with the rest. -/
theorem rows_in_turn_of_hands :
    let hands : ResultSet := ⟨["name", "played"],
      [[.text "ann", .long 5], [.text "bob", .flag true], [.text "cid", .null]]⟩
    let s := Session.start ⟨.generic, 1, fun _ _ => false, fun _ => none⟩ [hands]
    let q := (Query.onConnection ⟨0, .scripted, .generic⟩ "hands" .json none).addColumn "played"
      (.plain "played_at" .timestamp)
    let opened := q.openCursor s q.selectSql
    let actions : List Action := [.advance, .advance]
    opened = (.ok (start hands), opened.2) ∧ (∀ a ∈ actions, a.isLast = false) ∧
      q.withCursor s q.selectSql (actions ++ [.rows]) =
        (.ok ((start hands).play q actions ++
          [.rows ([[.text "cid", .null]].mapM (q.extracted hands.labels))]),
          opened.2.1.close opened.2.2) := by
  intro hands s q opened actions
  have hopened : opened = (.ok (start hands), opened.2) := rfl
  have hactions : ∀ a ∈ actions, a.isLast = false := by decide
  exact ⟨hopened, hactions,
    ((rows_in_turn q hands).2.2.2 s opened.2.2 q.selectSql opened.2.1 actions hopened hactions).1⟩

/-- **What an advance leaves in the row.**  After a success it is the whole row, behind the last
row it is empty, and after a failure it is what the cells before the failing one gave. -/
theorem row_after_advance (q : Query) (r : ResultSet) (n : Nat) :
    let next := ((start r).after q n).advance q
    (next.1 = .ok true →
        ∃ raw, r.rows[n]? = some raw ∧ q.extracted r.labels raw = .ok next.2.row) ∧
      (next.1 = .ok false → r.rows[n]? = none ∧ next.2.row = ∅) ∧
      ∀ e, next.1 = .error e →
        ∃ raw before cell rest, r.rows[n]? = some raw ∧
          r.labels.zip raw = before ++ cell :: rest ∧ q.readCell cell = .error e ∧
          q.extractCells before ∅ = (.ok (), next.2.row) := by
  intro next
  have hnext : Advanced q r n next := advance_after q r n
  clear_value next
  cases hnext with
  | read hraw hrow =>
    refine ⟨fun _ => ⟨_, hraw, Query.extracted_eq_ok.2 hrow⟩, fun h => ?_, fun e h => ?_⟩
    · cases h
    · cases h
  | failed hraw hrow =>
    refine ⟨fun h => ?_, fun h => ?_, fun e h => ?_⟩
    · cases h
    · cases h
    · cases h
      obtain ⟨before, cell, rest, hcells, hcell, hbefore⟩ :=
        Query.extractCells_eq_error_iff.1 hrow
      exact ⟨_, before, cell, rest, hraw, hcells, hcell, hbefore⟩
  | ended hend =>
    refine ⟨fun h => ?_, fun _ => ⟨hend, rfl⟩, fun e h => ?_⟩
    · cases h
    · cases h

/-- The second of two hands fails at the time at which it was played, and its name is left. -/
theorem row_after_advance_of_hands :
    let hands : ResultSet := ⟨["name", "played"],
      [[.text "ann", .long 5], [.text "bob", .flag true]]⟩
    let q := (Query.onConnection ⟨0, .scripted, .generic⟩ "hands" .json none).addColumn "played"
      (.plain "played_at" .timestamp)
    let next := ((start hands).after q 1).advance q
    next.1 = .error (.typeMismatch "timestamp" "bool") ∧
      ∃ raw before cell rest, hands.rows[1]? = some raw ∧
        hands.labels.zip raw = before ++ cell :: rest ∧
        q.readCell cell = .error (.typeMismatch "timestamp" "bool") ∧
        q.extractCells before ∅ = (.ok (), next.2.row) := by
  intro hands q next
  have hnext : next.1 = .error (.typeMismatch "timestamp" "bool") := rfl
  exact ⟨hnext, (row_after_advance q hands 1).2.2 _ hnext⟩

/-- After a failed advance the row is not empty: it holds the name of a hand whose time could not
be read. -/
theorem part_of_row_left :
    let hands : ResultSet := ⟨["name", "played"], [[.text "bob", .flag true]]⟩
    let q := (Query.onConnection ⟨0, .scripted, .generic⟩ "hands" .json none).addColumn "played"
      (.plain "played_at" .timestamp)
    let next := (start hands).advance q
    next.1 = .error (.typeMismatch "timestamp" "bool") ∧
      Dict.get? next.2.row "name" = some (.text "bob") ∧ next.2.row ≠ ∅ := by
  intro hands q next
  have hname : Dict.get? next.2.row "name" = some (.text "bob") := rfl
  refine ⟨rfl, hname, fun hempty => ?_⟩
  rw [hempty] at hname
  cases hname

end Cursor

end SqlAccess

/-
The columns of a query are an insertion-ordered map.

What was added to a query since its last reset is a list of properties with their columns
(`Query.additions`), and a property may come in it more than once.  The query knows each property
once: at the place where it was added first, with the column that was added last
(`Query.Records`).  One addition keeps this (`Query.Records.put`), and so does every operation
(`Query.Records.step`).

The main statement is `Query.columns_follow_additions`.
-/
import Mathlib.Data.List.DropRight
import Mathlib.Data.List.Nodup
import SqlAccess.Proofs.ColumnList

namespace SqlAccess.Query

/-- What an operation adds, in this order. -/
def Operation.added : Operation → List (String × Column)
  | .addColumn property c => [(property, c)]
  | .addColumns columns => columns.map fun c => (c.name, c)
  | _ => []

/-- Whether the operation forgets what was added. -/
def Operation.isReset : Operation → Bool
  | .reset => true
  | _ => false

/-- The operations after the last reset; all of them if there is none. -/
def sinceReset (ops : List Operation) : List Operation := ops.rtakeWhile (!·.isReset)

/-- What was added since the last reset, the oldest first. -/
def additions (ops : List Operation) : List (String × Column) :=
  (sinceReset ops).flatMap Operation.added

/-- The place of the first addition under a property. -/
def firstPlace (added : List (String × Column)) (property : String) : Nat :=
  (added.map (·.1)).idxOf property

/-- The addition at a place is the last one under its property. -/
structure LastAt (added : List (String × Column)) (i : Nat) (property : String) (c : Column) :
    Prop where
  place : added[i]? = some (property, c)
  last : ∀ j e, i < j → added[j]? = some e → e.1 ≠ property

/-- The columns are what was added, with one entry for each property. -/
structure Records (added columns : List (String × Column)) : Prop where
  /-- The entries stand in the order of the first additions. -/
  ordered : (columns.map (·.1)).Pairwise fun p p' => firstPlace added p < firstPlace added p'
  /-- An entry has the column that was added last. -/
  latest : ∀ property c, (property, c) ∈ columns ↔ ∃ i, LastAt added i property c

variable {added columns : List (String × Column)} {property : String} {c : Column} {i : Nat}

/-! ### Last additions -/

theorem getElem?_concat_eq_some {e e' : String × Column} :
    (added ++ [e])[i]? = some e' ↔ added[i]? = some e' ∨ i = added.length ∧ e = e' := by
  rcases Nat.lt_trichotomy i added.length with hi | rfl | hi
  · simp [List.getElem?_append_left hi, Nat.ne_of_lt hi]
  · simp
  · have hlength : (added ++ [e]).length ≤ i := by
      rw [List.length_append]
      exact hi
    simp [List.getElem?_eq_none hlength, List.getElem?_eq_none (Nat.le_of_lt hi), Nat.ne_of_gt hi]

theorem lt_length_of_getElem? {e : String × Column} (h : added[i]? = some e) :
    i < added.length :=
  (List.getElem?_eq_some_iff.1 h).1

/-- A new addition is the last one under its property, and nothing changes for the others. -/
theorem lastAt_concat {e : String × Column} :
    LastAt (added ++ [e]) i property c ↔
      i = added.length ∧ e = (property, c) ∨ e.1 ≠ property ∧ LastAt added i property c := by
  constructor
  · rintro ⟨hplace, hlast⟩
    rcases getElem?_concat_eq_some.1 hplace with hplace | hend
    · have hnew : (added ++ [e])[added.length]? = some e :=
        getElem?_concat_eq_some.2 (.inr ⟨rfl, rfl⟩)
      exact .inr ⟨hlast _ e (lt_length_of_getElem? hplace) hnew, hplace,
        fun j e' hj he' => hlast j e' hj (getElem?_concat_eq_some.2 (.inl he'))⟩
    · exact .inl hend
  · rintro (⟨rfl, rfl⟩ | ⟨hne, hplace, hlast⟩)
    · refine ⟨getElem?_concat_eq_some.2 (.inr ⟨rfl, rfl⟩), fun j e' hj he' => ?_⟩
      rcases getElem?_concat_eq_some.1 he' with he' | ⟨rfl, -⟩
      · exact absurd (lt_length_of_getElem? he') (Nat.lt_asymm hj)
      · exact absurd hj (Nat.lt_irrefl _)
    · refine ⟨getElem?_concat_eq_some.2 (.inl hplace), fun j e' hj he' => ?_⟩
      rcases getElem?_concat_eq_some.1 he' with he' | ⟨-, rfl⟩
      · exact hlast j e' hj he'
      · exact hne

/-- Where something was added under a property, that or something later was added last. -/
theorem exists_lastAt (h : added[i]? = some (property, c)) :
    ∃ j c', i ≤ j ∧ LastAt added j property c' := by
  induction added using List.reverseRecOn with
  | nil => cases h
  | append_singleton added e ih =>
    by_cases he : e.1 = property
    · have hi : i ≤ added.length := by
        have hlt := lt_length_of_getElem? h
        rw [List.length_append] at hlt
        exact Nat.le_of_lt_succ hlt
      exact ⟨added.length, e.2, hi, lastAt_concat.2 (.inl ⟨rfl, he ▸ rfl⟩)⟩
    · rcases getElem?_concat_eq_some.1 h with h | ⟨-, rfl⟩
      · obtain ⟨j, c', hij, hlast⟩ := ih h
        exact ⟨j, c', hij, lastAt_concat.2 (.inr ⟨he, hlast⟩)⟩
      · exact absurd rfl he

/-! ### One addition -/

theorem Records.nodup (h : Records added columns) : (columns.map (·.1)).Nodup :=
  List.Pairwise.imp (fun hlt heq => Nat.ne_of_lt hlt (congrArg _ heq)) h.ordered

theorem Records.mem_properties (h : Records added columns) :
    property ∈ columns.map (·.1) ↔ ∃ c, (property, c) ∈ added := by
  constructor
  · intro hmem
    obtain ⟨⟨_, c⟩, he, rfl⟩ := List.mem_map.1 hmem
    obtain ⟨i, hlast⟩ := (h.latest _ c).1 he
    exact ⟨c, List.mem_of_getElem? hlast.place⟩
  · rintro ⟨c, hmem⟩
    obtain ⟨i, hi⟩ := List.mem_iff_getElem?.1 hmem
    obtain ⟨j, c', -, hlast⟩ := exists_lastAt hi
    exact List.mem_map_of_mem (f := (·.1)) ((h.latest property c').2 ⟨j, hlast⟩)

/-- Adding a column replaces the one of its property and no other. -/
theorem mem_putColumn (h : (columns.map (·.1)).Nodup) {e : String × Column} :
    e ∈ putColumn property c columns ↔ e = (property, c) ∨ e.1 ≠ property ∧ e ∈ columns := by
  induction columns with
  | nil => simp [putColumn]
  | cons first columns ih =>
    rw [List.map_cons, List.nodup_cons] at h
    rw [putColumn]
    by_cases hfirst : first.1 = property
    · have hrest : e ∈ columns → e.1 ≠ property := fun hmem heq =>
        h.1 (hfirst.trans heq.symm ▸ List.mem_map_of_mem hmem)
      rw [if_pos hfirst, List.mem_cons, List.mem_cons, hfirst]
      constructor
      · exact Or.imp_right fun hmem => ⟨hrest hmem, .inr hmem⟩
      · rintro (rfl | ⟨hne, rfl | hmem⟩)
        · exact .inl rfl
        · exact absurd hfirst hne
        · exact .inr hmem
    · rw [if_neg hfirst, List.mem_cons, List.mem_cons, ih h.2]
      constructor
      · rintro (rfl | heq | ⟨hne, hmem⟩)
        · exact .inr ⟨hfirst, .inl rfl⟩
        · exact .inl heq
        · exact .inr ⟨hne, .inr hmem⟩
      · rintro (heq | ⟨hne, rfl | hmem⟩)
        · exact .inr (.inl heq)
        · exact .inl rfl
        · exact .inr (.inr ⟨hne, hmem⟩)

theorem firstPlace_lt_length (h : (property, c) ∈ added) :
    firstPlace added property < added.length := by
  have hlt := List.idxOf_lt_length_of_mem (List.mem_map_of_mem (f := (·.1)) h)
  rwa [List.length_map] at hlt

theorem firstPlace_concat_of_mem (h : (property, c) ∈ added) (e : String × Column) :
    firstPlace (added ++ [e]) property = firstPlace added property := by
  rw [firstPlace, List.map_append, List.idxOf_append_of_mem (List.mem_map_of_mem (f := (·.1)) h),
    firstPlace]

theorem firstPlace_concat_of_new {e : String × Column} (h : ¬∃ c, (e.1, c) ∈ added) :
    firstPlace (added ++ [e]) e.1 = added.length := by
  have hnew : e.1 ∉ added.map (·.1) := by
    intro hmem
    obtain ⟨⟨_, c⟩, he, heq⟩ := List.mem_map.1 hmem
    exact h ⟨c, heq ▸ he⟩
  rw [firstPlace, List.map_append, List.idxOf_append_of_notMem hnew, List.length_map,
    List.map_singleton, List.idxOf_cons_self, Nat.add_zero]

/-- The order after one more addition is that of the first additions. -/
theorem Records.ordered_put (h : Records added columns) (e : String × Column) :
    ((putColumn e.1 e.2 columns).map (·.1)).Pairwise fun p p' =>
      firstPlace (added ++ [e]) p < firstPlace (added ++ [e]) p' := by
  have hold : (columns.map (·.1)).Pairwise fun p p' =>
      firstPlace (added ++ [e]) p < firstPlace (added ++ [e]) p' := by
    refine h.ordered.imp_of_mem fun hp hp' hlt => ?_
    obtain ⟨_, hc⟩ := h.mem_properties.1 hp
    obtain ⟨_, hc'⟩ := h.mem_properties.1 hp'
    rwa [firstPlace_concat_of_mem hc, firstPlace_concat_of_mem hc']
  rw [keys_putColumn]
  split
  · exact hold
  · next hnew =>
    refine List.pairwise_append.2 ⟨hold, List.pairwise_singleton _ e.1, fun p hp p' hp' => ?_⟩
    obtain ⟨_, hc⟩ := h.mem_properties.1 hp
    rw [List.mem_singleton.1 hp', firstPlace_concat_of_mem hc,
      firstPlace_concat_of_new fun hmem => hnew (h.mem_properties.2 hmem)]
    exact firstPlace_lt_length hc

/-- One more addition is recorded: at the end if its property is new, and else in the place of the
column that the property had. -/
theorem Records.put (h : Records added columns) (e : String × Column) :
    Records (added ++ [e]) (putColumn e.1 e.2 columns) := by
  refine ⟨h.ordered_put e, fun property c => ?_⟩
  rw [mem_putColumn h.nodup, h.latest]
  constructor
  · rintro (heq | ⟨hne, i, hlast⟩)
    · exact ⟨added.length, lastAt_concat.2 (.inl ⟨rfl, heq.symm⟩)⟩
    · exact ⟨i, lastAt_concat.2 (.inr ⟨hne.symm, hlast⟩)⟩
  · rintro ⟨i, hlast⟩
    rcases lastAt_concat.1 hlast with ⟨-, rfl⟩ | ⟨hne, hlast⟩
    · exact .inl rfl
    · exact .inr ⟨hne.symm, i, hlast⟩

/-! ### Steps and runs -/

theorem records_nil : Records [] [] where
  ordered := .nil
  latest property c := by
    refine ⟨fun hmem => absurd hmem List.not_mem_nil, fun ⟨i, hlast⟩ => ?_⟩
    cases hlast.place

theorem Records.foldl_put (h : Records added columns) (more : List (String × Column)) :
    Records (added ++ more) (more.foldl (fun columns e => putColumn e.1 e.2 columns) columns) := by
  induction more generalizing added columns with
  | nil => rwa [List.append_nil]
  | cons e more ih =>
    rw [List.append_cons]
    exact ih (h.put e)

theorem additions_concat (ops : List Operation) (op : Operation) :
    additions (ops ++ [op]) = if op.isReset then [] else additions ops ++ op.added := by
  rw [additions, sinceReset, List.rtakeWhile_concat]
  cases op.isReset with
  | true => rfl
  | false => exact List.flatMap_append.trans (congrArg (_ ++ ·) (List.flatMap_singleton _ op))

/-- What an operation makes of the columns records what it adds, and a reset begins anew. -/
theorem Records.step {ops : List Operation} (h : Records (additions ops) columns)
    (op : Operation) : Records (additions (ops ++ [op])) (op.columns columns) := by
  rw [additions_concat]
  cases op with
  | addColumn property c => exact h.put (property, c)
  | addColumns added =>
    have hfold := h.foldl_put (added.map fun c => (c.name, c))
    rwa [List.foldl_map] at hfold
  | reset => exact records_nil
  | _ => exact (List.append_nil (additions ops)).symm ▸ h

theorem columns_run (ops : List Operation) (q : Query) (s : Session) :
    (run ops q s).2.1.columns = ops.foldl (fun columns op => op.columns columns) q.columns := by
  induction ops generalizing q s with
  | nil => rfl
  | cons op ops ih =>
    rw [List.foldl_cons, ← columns_step op q s]
    exact ih _ _

/-- **Whatever is done with a query, its columns record what was added since the last reset.** -/
theorem records_run (ops : List Operation) {q : Query} (h : q.columns = []) (s : Session) :
    Records (additions ops) (run ops q s).2.1.columns := by
  rw [columns_run, h]
  -- the last operation decides what the ones before it leave, so the list is taken from its end
  induction ops using List.reverseRecOn with
  | nil => exact records_nil
  | append_singleton ops op ih =>
    rw [List.foldl_concat]
    exact ih.step op

/-! ### Looking up -/

theorem of_find?_property {e : String × Column} (h : columns.find? (·.1 == property) = some e) :
    e ∈ columns ∧ e.1 = property := by
  have hproperty := List.find?_some h
  exact ⟨List.mem_of_find?_eq_some h, beq_iff_eq.1 hproperty⟩

theorem column?_eq_some {q : Query} (h : q.properties.Nodup) :
    q.column? property = some c ↔ (property, c) ∈ q.columns := by
  rw [column?, Option.map_eq_some_iff]
  constructor
  · rintro ⟨e, he, rfl⟩
    obtain ⟨hmem, rfl⟩ := of_find?_property he
    exact hmem
  · intro hmem
    have hsome : (q.columns.find? (·.1 == property)).isSome = true :=
      List.find?_isSome.2 ⟨_, hmem, beq_self_eq_true property⟩
    obtain ⟨e, he⟩ := Option.isSome_iff_exists.1 hsome
    obtain ⟨hmem', hproperty⟩ := of_find?_property he
    exact ⟨e, he, congrArg Prod.snd (List.inj_on_of_nodup_map h hmem' hmem hproperty)⟩

theorem column?_eq_none {q : Query} : q.column? property = none ↔ property ∉ q.properties := by
  rw [column?, Option.map_eq_none_iff, List.find?_eq_none, properties, List.mem_map, not_exists]
  simp only [beq_iff_eq, not_and]

/-- What was added last under a property is one entry of the columns. -/
theorem Records.existsUnique (h : Records added columns) (hlast : LastAt added i property c) :
    ∃! k : Nat, columns[k]? = some (property, c) := by
  obtain ⟨k, hk⟩ := List.mem_iff_getElem?.1 ((h.latest property c).2 ⟨i, hlast⟩)
  refine ⟨k, hk, fun k' hk' => ?_⟩
  exact (List.getElem?_inj (lt_length_of_getElem? hk') (.of_map _ h.nodup)).1 (hk'.trans hk.symm)

/-- **The columns follow the additions since the last reset.**  Each property that was added is
there once, in the order of the first additions; it is looked up as the column that was added last;
and so an addition is one entry of the columns, or a later one has taken its place. -/
theorem columns_follow_additions (ops : List Operation) (handle : Handle) (table : String)
    (m : Marshaller) (tracer : Option Tracer) (s : Session) :
    let q := (run ops (fresh handle table m tracer) s).2.1
    let added := additions ops
    q.properties.Nodup ∧
      (∀ property, property ∈ q.properties ↔ ∃ c, (property, c) ∈ added) ∧
      q.properties.Pairwise (fun p p' => firstPlace added p < firstPlace added p') ∧
      (∀ property c, q.column? property = some c ↔ ∃ i, LastAt added i property c) ∧
      (∀ property, q.column? property = none ↔ ∀ c, (property, c) ∉ added) ∧
      ∀ (i : Nat) (property : String) (c : Column), added[i]? = some (property, c) →
        LastAt added i property c ∧ (∃! k : Nat, q.columns[k]? = some (property, c)) ∨
          ∃ j c', i < j ∧ LastAt added j property c' := by
  intro q added
  have hrecords : Records added q.columns := records_run ops rfl s
  refine ⟨hrecords.nodup, fun property => hrecords.mem_properties, hrecords.ordered, ?_, ?_, ?_⟩
  · intro property c
    rw [column?_eq_some hrecords.nodup, hrecords.latest]
  · intro property
    rw [column?_eq_none, properties, hrecords.mem_properties, not_exists]
  · intro i property c hi
    obtain ⟨j, c', hij, hlast⟩ := exists_lastAt hi
    rcases Nat.lt_or_eq_of_le hij with hlt | rfl
    · exact .inr ⟨j, c', hlt, hlast⟩
    · cases hi.symm.trans hlast.place
      exact .inl ⟨hlast, hrecords.existsUnique hlast⟩

/-- A property that a reset has forgotten, one that is replaced by a list of columns, and a value
that cannot be bound in between. -/
theorem columns_follow_additions_of_seats :
    let ops : List Operation :=
      [.addColumn "table" (.plain "table_no" .integer), .reset,
        .addColumn "seat" (.plain "seat_no" .integer), .addBind .binary (.int 3),
        .addColumns [.plain "name" .other, .plain "seat" .other], .setWhere "seat = ?"]
    let s := Session.start ⟨.generic, 1, fun _ _ => false, fun _ => none⟩ []
    let q := (run ops (fresh (.borrowed ⟨0, .scripted, .generic⟩) "players" .json none) s).2.1
    additions ops = [("seat", .plain "seat_no" .integer), ("name", .plain "name" .other),
        ("seat", .plain "seat" .other)] ∧
      LastAt (additions ops) 2 "seat" (.plain "seat" .other) ∧
      q.column? "seat" = some (.plain "seat" .other) ∧ q.column? "table" = none ∧
      q.properties = ["seat", "name"] ∧
      ∃ j c, 0 < j ∧ LastAt (additions ops) j "seat" c := by
  intro ops s q
  obtain ⟨-, -, -, hcolumn, hnone, hadded⟩ := columns_follow_additions ops
    (.borrowed ⟨0, .scripted, .generic⟩) "players" .json none s
  have hadditions : additions ops = [("seat", .plain "seat_no" .integer),
    ("name", .plain "name" .other), ("seat", .plain "seat" .other)] := rfl
  have hlast : LastAt (additions ops) 2 "seat" (.plain "seat" .other) := by
    refine ⟨rfl, fun j e hj he => ?_⟩
    have hlt := lt_length_of_getElem? he
    rw [hadditions] at hlt
    exact absurd hj (Nat.not_lt.2 (Nat.le_of_lt_succ hlt))
  refine ⟨hadditions, hlast, (hcolumn "seat" _).2 ⟨2, hlast⟩, (hnone "table").2 fun c => ?_, rfl,
    ?_⟩
  · simp [hadditions]
  · rcases hadded 0 "seat" (.plain "seat_no" .integer) rfl with ⟨hfirst, -⟩ | hlater
    · exact absurd rfl (hfirst.last 2 _ (by decide) rfl)
    · exact hlater

end SqlAccess.Query

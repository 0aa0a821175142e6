/-
Finite maps from texts, in the order of their keys.

A `Dict` holds its entries in strictly ascending order of the keys, so two of
them with the same entries are equal (`Dict.ext_get?`), whatever the order in
which the entries were put in.  The view of a `Dict` is `get?`.
-/
namespace SqlAccess

universe u

/-- Puts an entry into a list of entries in ascending order, in place of an entry
with the same key. -/
def putEntry {α : Type u} (k : String) (v : α) : List (String × α) → List (String × α)
  | [] => [(k, v)]
  | (k', v') :: rest =>
    if k < k' then (k, v) :: (k', v') :: rest
    else if k = k' then (k, v) :: rest
    else (k', v') :: putEntry k v rest

/-- The value at a key. -/
def valueOf? {α : Type u} (k : String) : List (String × α) → Option α
  | [] => none
  | (k', v) :: rest => if k = k' then some v else valueOf? k rest

/-- The keys of the entries ascend. -/
def Ascending {α : Type u} (entries : List (String × α)) : Prop :=
  entries.Pairwise fun a b => a.1 < b.1

section Entries

variable {α : Type u}

theorem mem_putEntry {k : String} {v : α} {entries : List (String × α)} {e : String × α}
    (h : e ∈ putEntry k v entries) : e = (k, v) ∨ e ∈ entries := by
  induction entries with
  | nil => simpa [putEntry] using h
  | cons head rest ih =>
    obtain ⟨k', v'⟩ := head
    unfold putEntry at h
    split at h
    · simpa using h
    · split at h
      · rcases List.mem_cons.1 h with h | h
        · exact .inl h
        · exact .inr (by simp [h])
      · rcases List.mem_cons.1 h with h | h
        · exact .inr (by simp [h])
        · exact (ih h).imp_right fun h => by simp [h]

/-- Putting an entry keeps the order. -/
theorem Ascending.putEntry {entries : List (String × α)} (h : Ascending entries) (k : String)
    (v : α) : Ascending (putEntry k v entries) := by
  induction entries with
  | nil => simp [SqlAccess.putEntry, Ascending]
  | cons head rest ih =>
    obtain ⟨k', v'⟩ := head
    have hrest : Ascending rest := (List.pairwise_cons.1 h).2
    have hhead := (List.pairwise_cons.1 h).1
    unfold SqlAccess.putEntry
    split
    · next hlt =>
      refine List.pairwise_cons.2 ⟨fun e he => ?_, h⟩
      rcases List.mem_cons.1 he with rfl | he
      · exact hlt
      · exact Trans.trans hlt (hhead e he)
    · next hnlt =>
      split
      · next heq =>
        subst heq
        exact List.pairwise_cons.2 ⟨fun e he => hhead e he, hrest⟩
      · next hne =>
        refine List.pairwise_cons.2 ⟨fun e he => ?_, ih hrest⟩
        rcases mem_putEntry he with rfl | he
        · exact Decidable.byContradiction fun hlt =>
            hne (Std.Trichotomous.trichotomous (r := (· < ·)) k k' hnlt hlt)
        · exact hhead e he

theorem valueOf?_putEntry (k : String) (v : α) (entries : List (String × α)) (k₀ : String) :
    valueOf? k₀ (putEntry k v entries) = if k₀ = k then some v else valueOf? k₀ entries := by
  induction entries with
  | nil => simp [putEntry, valueOf?]
  | cons head rest ih =>
    obtain ⟨k', v'⟩ := head
    unfold putEntry
    split
    · simp [valueOf?]
    · split
      · next heq =>
        subst heq
        by_cases h : k₀ = k <;> simp [valueOf?, h]
      · next hne =>
        by_cases h : k₀ = k'
        · subst h
          simp [valueOf?, Ne.symm hne]
        · simp [valueOf?, h, ih]

theorem keys_putEntry (k : String) (v v' : α) (entries : List (String × α)) :
    (putEntry k v' entries).map (·.1) = (putEntry k v entries).map (·.1) := by
  induction entries with
  | nil => rfl
  | cons head rest ih =>
    unfold putEntry
    split
    · rfl
    · split
      · rfl
      · exact congrArg (head.1 :: ·) ih

/-- Putting an entry with a new key adds it to the others. -/
theorem putEntry_perm {k : String} {v : α} {entries : List (String × α)}
    (h : k ∉ entries.map (·.1)) : (putEntry k v entries).Perm ((k, v) :: entries) := by
  induction entries with
  | nil => exact .refl _
  | cons e rest ih =>
    have hne : k ≠ e.1 := fun heq => h (heq ▸ List.mem_cons_self)
    have hrest : k ∉ rest.map (·.1) := fun hmem => h (List.mem_cons_of_mem _ hmem)
    rw [putEntry, if_neg hne]
    split
    · exact .refl _
    · exact ((ih hrest).cons e).trans (.swap _ _ _)

theorem valueOf?_eq_some {entries : List (String × α)} (h : Ascending entries) {k : String}
    {v : α} : valueOf? k entries = some v ↔ (k, v) ∈ entries := by
  induction entries with
  | nil => simp [valueOf?]
  | cons head rest ih =>
    obtain ⟨k', v'⟩ := head
    have hhead := (List.pairwise_cons.1 h).1
    have hrest : Ascending rest := (List.pairwise_cons.1 h).2
    by_cases hk : k = k'
    · subst hk
      have hnot : (k, v) ∉ rest := fun hm =>
        Std.Irrefl.irrefl (r := (· < ·)) k (hhead (k, v) hm)
      simp [valueOf?, hnot, eq_comm]
    · simp [valueOf?, hk, ih hrest]

end Entries

/-- A finite map from texts, its entries in ascending order of the keys. -/
structure Dict (α : Type u) where
  entries : List (String × α)
  ascending : Ascending entries

namespace Dict

variable {α : Type u}

/-- The map without entries. -/
def empty : Dict α := ⟨[], List.Pairwise.nil⟩

instance : EmptyCollection (Dict α) := ⟨empty⟩
instance : Inhabited (Dict α) := ⟨empty⟩

/-- The value at a key. -/
def get? (d : Dict α) (k : String) : Option α := valueOf? k d.entries

/-- Whether there is a value at a key. -/
def contains (d : Dict α) (k : String) : Bool := (d.get? k).isSome

/-- Sets the value at a key. -/
def insert (d : Dict α) (k : String) (v : α) : Dict α :=
  ⟨putEntry k v d.entries, d.ascending.putEntry k v⟩

/-- The keys, in ascending order. -/
def keys (d : Dict α) : List String := d.entries.map (·.1)

/-- The map that holds the entries of a list; of two with one key the later counts. -/
def ofList (entries : List (String × α)) : Dict α :=
  entries.foldl (fun d e => d.insert e.1 e.2) ∅

/-- Setting a value changes the map at its key and nowhere else. -/
theorem get?_insert (d : Dict α) (k : String) (v : α) (k₀ : String) :
    (d.insert k v).get? k₀ = if k₀ = k then some v else d.get? k₀ :=
  valueOf?_putEntry k v d.entries k₀

/-- The keys of a map do not depend on its values. -/
theorem keys_insert (d : Dict α) (k : String) (v v' : α) :
    (d.insert k v').keys = (d.insert k v).keys :=
  keys_putEntry k v v' d.entries

theorem insert_perm {d : Dict α} {k : String} {v : α} (h : k ∉ d.keys) :
    (d.insert k v).entries.Perm ((k, v) :: d.entries) :=
  putEntry_perm h

theorem get?_eq_some {d : Dict α} {k : String} {v : α} :
    d.get? k = some v ↔ (k, v) ∈ d.entries :=
  valueOf?_eq_some d.ascending

theorem mem_keys {d : Dict α} {k : String} : k ∈ d.keys ↔ ∃ v, d.get? k = some v := by
  simp [keys, get?_eq_some]

/-- The keys ascend; in particular none occurs twice. -/
theorem pairwise_keys (d : Dict α) : d.keys.Pairwise (· < ·) :=
  List.pairwise_map.2 d.ascending

/-- Maps that agree at every key are equal. -/
theorem ext_get? {d e : Dict α} (h : ∀ k, d.get? k = e.get? k) : d = e := by
  obtain ⟨ds, hd⟩ := d
  obtain ⟨es, he⟩ := e
  congr
  have hmem : ∀ x : String × α, x ∈ ds ↔ x ∈ es := fun ⟨k, v⟩ => by
    rw [← valueOf?_eq_some hd, ← valueOf?_eq_some he]
    exact Eq.to_iff (congrArg (· = some v) (h k))
  clear h
  induction ds generalizing es with
  | nil =>
    cases es with
    | nil => rfl
    | cons y es => exact absurd ((hmem y).2 (by simp)) (by simp)
  | cons x ds ih =>
    cases es with
    | nil => exact absurd ((hmem x).1 (by simp)) (by simp)
    | cons y es =>
      have hx := (List.pairwise_cons.1 hd).1
      have hy := (List.pairwise_cons.1 he).1
      have hirr : ∀ k : String, ¬ k < k := Std.Irrefl.irrefl (r := (· < ·))
      have hxy : x = y := by
        rcases List.mem_cons.1 ((hmem x).1 (by simp)) with h | hxe
        · exact h
        · rcases List.mem_cons.1 ((hmem y).2 (by simp)) with h | hyd
          · exact h.symm
          · exact absurd (Trans.trans (hx y hyd) (hy x hxe)) (hirr _)
      subst hxy
      congr 1
      refine ih (List.pairwise_cons.1 hd).2 es (List.pairwise_cons.1 he).2 fun z => ?_
      have hz := hmem z
      simp only [List.mem_cons] at hz
      constructor
      · intro hm
        rcases hz.1 (.inr hm) with rfl | h
        · exact absurd (hx _ hm) (hirr _)
        · exact h
      · intro hm
        rcases hz.2 (.inr hm) with rfl | h
        · exact absurd (hy _ hm) (hirr _)
        · exact h

instance [DecidableEq α] : DecidableEq (Dict α) := fun d e =>
  decidable_of_iff (d.entries = e.entries)
    ⟨fun h => by obtain ⟨_, _⟩ := d; obtain ⟨_, _⟩ := e; cases h; rfl, fun h => h ▸ rfl⟩

end Dict

end SqlAccess

/-
What flattening makes of a tree of tables.

The leaves of a tree are listed here with the paths to them (`Setting.leaves`).  If keys are not
empty, hold no dot and do not occur twice in a table (`Setting.WellKeyed`), then a path is known
from its keys joined by dots, and the parameters hold every leaf once.  So neither the order of the
entries of a table nor a table without entries makes a difference.  The main statement is
`Setting.flatten_keeps_leaves`.

All inductions on trees are by `Setting.entries_induction`: the first entry is a leaf or a table.
-/
import Mathlib.Data.List.Nodup
import SqlAccess.Config.Tree

namespace SqlAccess.Setting

/-! ### Trees -/

/-- The value is no table. -/
def IsLeaf (value : Setting) : Prop := ∀ inner, value ≠ table inner

mutual

/-- The leaves of a value, each with the path to it. -/
def leavesOf : Setting → List (List String × Setting)
  | table entries => leaves entries
  | leaf => [([], leaf)]

/-- The leaves of the entries of a table, each with the path to it. -/
def leaves : List (String × Setting) → List (List String × Setting)
  | [] => []
  | (key, value) :: rest =>
    (leavesOf value).map (fun leaf => (key :: leaf.1, leaf.2)) ++ leaves rest

end

/-- A leaf stands at the end of a path. -/
inductive LeafAt : List (String × Setting) → List String → Setting → Prop
  | here {entries : List (String × Setting)} {key : String} {leaf : Setting}
    (hmem : (key, leaf) ∈ entries) (hleaf : IsLeaf leaf) : LeafAt entries [key] leaf
  | inside {entries inner : List (String × Setting)} {key : String} {path : List String}
    {leaf : Setting} (hmem : (key, table inner) ∈ entries) (h : LeafAt inner path leaf) :
    LeafAt entries (key :: path) leaf

/-- The keys of all tables can be told apart: in no table a key occurs twice, and no key is empty or
holds a dot. -/
inductive WellKeyed : List (String × Setting) → Prop
  | intro {entries : List (String × Setting)} (hdistinct : (entries.map (·.1)).Nodup)
    (hkeys : ∀ e ∈ entries, e.1 ≠ "" ∧ '.' ∉ e.1.toList)
    (htables : ∀ key inner, (key, table inner) ∈ entries → WellKeyed inner) : WellKeyed entries

/-- The same tree with the entries of its tables in another order, and with tables without entries
left out. -/
inductive Rearranged : List (String × Setting) → List (String × Setting) → Prop
  | perm {entries entries' : List (String × Setting)} (h : entries.Perm entries') :
    Rearranged entries entries'
  | inside {inner inner' : List (String × Setting)} (key : String)
    (rest : List (String × Setting)) (h : Rearranged inner inner') :
    Rearranged ((key, table inner) :: rest) ((key, table inner') :: rest)
  | empty (key : String) (rest : List (String × Setting)) :
    Rearranged ((key, table []) :: rest) rest
  | trans {entries entries' entries'' : List (String × Setting)}
    (h : Rearranged entries entries') (h' : Rearranged entries' entries'') :
    Rearranged entries entries''

/-- Puts the text of a leaf under a key. -/
def put (out : Parameters) (leaf : String × Setting) : Result Parameters :=
  match leaf.2.leafText? with
  | some s => .ok (out.insert leaf.1 s)
  | none => .error (.configurationFrom (.unsupportedValue leaf.1) .foreign)

variable {above key : String} {path : List String} {out p : Parameters} {value : Setting}
variable {entries entries' rest inner : List (String × Setting)}

@[elab_as_elim]
theorem entries_induction {motive : List (String × Setting) → Prop} (nil : motive [])
    (leaf : ∀ key value rest, IsLeaf value → motive rest → motive ((key, value) :: rest))
    (table : ∀ key inner rest, motive inner → motive rest →
      motive ((key, .table inner) :: rest)) :
    ∀ entries, motive entries
  | [] => nil
  | (key, value) :: rest => by
    have hrest := entries_induction nil leaf table rest
    cases value with
    | table inner => exact table key inner rest (entries_induction nil leaf table inner) hrest
    | _ => exact leaf key _ rest nofun hrest

theorem leaves_leaf (h : IsLeaf value) :
    leaves ((key, value) :: rest) = ([key], value) :: leaves rest := by
  cases value with
  | table inner => exact absurd rfl (h inner)
  | _ => rfl

theorem leaves_table :
    leaves ((key, table inner) :: rest) =
      (leaves inner).map (fun leaf => (key :: leaf.1, leaf.2)) ++ leaves rest := rfl

/-! ### The leaves of a tree -/

theorem not_leafAt_nil : ¬LeafAt [] path value := by
  intro h
  cases h with
  | here hmem _ => cases hmem
  | inside hmem _ => cases hmem

theorem LeafAt.tail {e : String × Setting} (h : LeafAt rest path value) :
    LeafAt (e :: rest) path value := by
  cases h with
  | here hmem hleaf => exact .here (List.mem_cons_of_mem _ hmem) hleaf
  | inside hmem h => exact .inside (List.mem_cons_of_mem _ hmem) h

theorem leafAt_leaf {leaf : Setting} (hleaf : IsLeaf leaf) :
    LeafAt ((key, leaf) :: rest) path value ↔
      (path, value) = ([key], leaf) ∨ LeafAt rest path value := by
  constructor
  · intro h
    cases h with
    | here hmem hvalue =>
      rcases List.mem_cons.1 hmem with heq | hmem
      · cases heq
        exact .inl rfl
      · exact .inr (.here hmem hvalue)
    | inside hmem h =>
      rcases List.mem_cons.1 hmem with heq | hmem
      · cases heq
        exact absurd rfl (hleaf _)
      · exact .inr (.inside hmem h)
  · rintro (heq | h)
    · cases heq
      exact .here List.mem_cons_self hleaf
    · exact h.tail

theorem leafAt_table :
    LeafAt ((key, table inner) :: rest) path value ↔
      (∃ below, path = key :: below ∧ LeafAt inner below value) ∨ LeafAt rest path value := by
  constructor
  · intro h
    cases h with
    | here hmem hvalue =>
      rcases List.mem_cons.1 hmem with heq | hmem
      · cases heq
        exact absurd rfl (hvalue _)
      · exact .inr (.here hmem hvalue)
    | inside hmem h =>
      rcases List.mem_cons.1 hmem with heq | hmem
      · cases heq
        exact .inl ⟨_, rfl, h⟩
      · exact .inr (.inside hmem h)
  · rintro (⟨below, rfl, h⟩ | h)
    · exact .inside List.mem_cons_self h
    · exact h.tail

/-- The list of the leaves holds every leaf that is there, and nothing else. -/
theorem mem_leaves : (path, value) ∈ leaves entries ↔ LeafAt entries path value := by
  induction entries using entries_induction generalizing path with
  | nil => exact iff_of_false List.not_mem_nil not_leafAt_nil
  | leaf key leaf rest hleaf ih => rw [leaves_leaf hleaf, List.mem_cons, ih, leafAt_leaf hleaf]
  | table key inner rest ihinner ihrest =>
    rw [leaves_table, List.mem_append, ihrest, leafAt_table, List.mem_map]
    refine or_congr_left ⟨?_, ?_⟩
    · rintro ⟨leaf, hleaf, heq⟩
      cases heq
      exact ⟨leaf.1, rfl, ihinner.1 hleaf⟩
    · rintro ⟨below, rfl, h⟩
      exact ⟨(below, value), ihinner.2 h, rfl⟩

/-! ### The walk -/

theorem flattenEntries_leaf (h : IsLeaf value) :
    flattenEntries above out ((key, value) :: rest) =
      put out (joinKey above key, value) >>= fun out => flattenEntries above out rest := by
  cases value with
  | table inner => exact absurd rfl (h inner)
  | _ => rfl

theorem flattenEntries_table :
    flattenEntries above out ((key, table inner) :: rest) =
      flattenEntries (joinKey above key) out inner >>= fun out =>
        flattenEntries above out rest := rfl

/-- The leaves are put into the parameters in the order of the walk. -/
theorem flattenEntries_eq (above : String) (out : Parameters) (entries : List (String × Setting)) :
    flattenEntries above out entries =
      ((leaves entries).map fun leaf => (leaf.1.foldl joinKey above, leaf.2)).foldlM put out := by
  induction entries using entries_induction generalizing above out with
  | nil => rfl
  | leaf key value rest hleaf ih =>
    rw [flattenEntries_leaf hleaf, leaves_leaf hleaf, List.map_cons, List.foldlM_cons]
    exact bind_congr fun out => ih above out
  | table key inner rest ihinner ihrest =>
    rw [flattenEntries_table, leaves_table, List.map_append, List.map_map, List.foldlM_append,
      ihinner]
    exact bind_congr fun out => ihrest above out

/-! ### Paths -/

/-- A key with keys behind it is the path of them all. -/
theorem foldl_joinKey (path : List String) (h : above ≠ "") :
    path.foldl joinKey above = ".".intercalate (above :: path) := by
  induction path generalizing above with
  | nil => rw [String.intercalate_singleton, List.foldl_nil]
  | cons key path ih =>
    have hjoin : joinKey above key = above ++ "." ++ key := if_neg (by simpa using h)
    rw [List.foldl_cons, hjoin, ih (by simp), String.intercalate_cons_append,
      String.intercalate_cons_cons]

/-- A path of keys that are not empty and hold no dot. -/
structure IsPath (path : List String) : Prop where
  ne_nil : path ≠ []
  keys : ∀ key ∈ path, key ≠ "" ∧ '.' ∉ key.toList

theorem IsPath.foldl_joinKey (h : IsPath path) :
    path.foldl joinKey "" = ".".intercalate path := by
  obtain ⟨key, path, rfl⟩ := List.exists_cons_of_ne_nil h.ne_nil
  exact Setting.foldl_joinKey path (h.keys key List.mem_cons_self).1

/-- A path is known from its keys joined by dots. -/
theorem IsPath.eq {path' : List String} (h : IsPath path) (h' : IsPath path')
    (heq : ".".intercalate path = ".".intercalate path') : path = path' := by
  have hsplit {path : List String} (h : IsPath path) :
      (".".intercalate path).toList.splitOn '.' = path.map String.toList := by
    rw [String.toList_intercalate]
    refine List.splitOn_intercalate '.' ?_ (by simpa using h.ne_nil)
    simpa using fun key hkey => (h.keys key hkey).2
  have hmap : path.map String.toList = path'.map String.toList := by
    rw [← hsplit h, ← hsplit h', heq]
  exact (List.map_inj_right fun _ _ => String.toList_inj.1).1 hmap

theorem WellKeyed.tail {e : String × Setting} (h : WellKeyed (e :: rest)) : WellKeyed rest := by
  obtain ⟨hdistinct, hkeys, htables⟩ := h
  exact ⟨(List.nodup_cons.1 hdistinct).2, fun e he => hkeys e (List.mem_cons_of_mem _ he),
    fun key inner hmem => htables key inner (List.mem_cons_of_mem _ hmem)⟩

theorem WellKeyed.inside (h : WellKeyed ((key, table inner) :: rest)) : WellKeyed inner := by
  obtain ⟨-, -, htables⟩ := h
  exact htables key inner List.mem_cons_self

theorem WellKeyed.head (h : WellKeyed ((key, value) :: rest)) :
    (key ≠ "" ∧ '.' ∉ key.toList) ∧ key ∉ rest.map (·.1) := by
  obtain ⟨hdistinct, hkeys, -⟩ := h
  exact ⟨hkeys _ List.mem_cons_self, (List.nodup_cons.1 hdistinct).1⟩

/-- The path to a leaf begins with a key of the table. -/
theorem LeafAt.exists_cons (h : LeafAt entries path value) :
    ∃ key rest, path = key :: rest ∧ key ∈ entries.map (·.1) := by
  cases h with
  | here hmem _ => exact ⟨_, [], rfl, List.mem_map_of_mem hmem⟩
  | inside hmem _ => exact ⟨_, _, rfl, List.mem_map_of_mem hmem⟩

theorem LeafAt.isLeaf (h : LeafAt entries path value) : IsLeaf value := by
  induction h with
  | here _ hleaf => exact hleaf
  | inside _ _ ih => exact ih

theorem LeafAt.isPath (h : LeafAt entries path value) (hkeyed : WellKeyed entries) :
    IsPath path := by
  induction h with
  | here hmem _ =>
    obtain ⟨-, hkeys, -⟩ := hkeyed
    exact ⟨List.cons_ne_nil _ _, by simpa using hkeys _ hmem⟩
  | inside hmem _ ih =>
    obtain ⟨-, hkeys, htables⟩ := hkeyed
    exact ⟨List.cons_ne_nil _ _,
      List.forall_mem_cons.2 ⟨hkeys _ hmem, (ih (htables _ _ hmem)).keys⟩⟩

/-- No two leaves are at the end of one path. -/
theorem WellKeyed.nodup_paths (h : WellKeyed entries) : ((leaves entries).map (·.1)).Nodup := by
  -- a path that begins with the first key does not lead into the other entries
  have hapart {key : String} {rest : List (String × Setting)} (hkey : key ∉ rest.map (·.1))
      (path : List String) : key :: path ∉ (leaves rest).map (·.1) := by
    intro hmem
    obtain ⟨leaf, hleaf, hpath⟩ := List.mem_map.1 hmem
    obtain ⟨key', path', hpath', hkey'⟩ := (mem_leaves.1 hleaf).exists_cons
    rw [hpath] at hpath'
    exact hkey ((List.cons.inj hpath').1 ▸ hkey')
  induction entries using entries_induction with
  | nil => exact List.nodup_nil
  | leaf key value rest hvalue ih =>
    rw [leaves_leaf hvalue, List.map_cons, List.nodup_cons]
    exact ⟨hapart h.head.2 [], ih h.tail⟩
  | table key inner rest ihinner ihrest =>
    have hmap : (leaves ((key, table inner) :: rest)).map (·.1) =
        ((leaves inner).map (·.1)).map (key :: ·) ++ (leaves rest).map (·.1) := by
      simp [leaves_table, Function.comp_def]
    rw [hmap, List.nodup_append]
    refine ⟨(ihinner h.inside).map (List.cons_injective), ihrest h.tail, ?_⟩
    rintro _ hpath path' hpath' rfl
    obtain ⟨path, -, rfl⟩ := List.mem_map.1 hpath
    exact hapart h.head.2 path hpath'

/-- Leaves of other paths have other keys. -/
theorem WellKeyed.nodup_keys (h : WellKeyed entries) :
    ((leaves entries).map fun leaf => ".".intercalate leaf.1).Nodup := by
  have hmap : (leaves entries).map (fun leaf => ".".intercalate leaf.1) =
      ((leaves entries).map (·.1)).map (".".intercalate ·) := by rw [List.map_map]; rfl
  rw [hmap]
  refine h.nodup_paths.map_on ?_
  intro path hpath path' hpath' heq
  obtain ⟨leaf, hleaf, rfl⟩ := List.mem_map.1 hpath
  obtain ⟨leaf', hleaf', rfl⟩ := List.mem_map.1 hpath'
  exact ((mem_leaves.1 hleaf).isPath h).eq ((mem_leaves.1 hleaf').isPath h) heq

/-! ### Orders -/

theorem leaves_eq_flatMap (entries : List (String × Setting)) :
    leaves entries =
      entries.flatMap fun e => (leavesOf e.2).map fun leaf => (e.1 :: leaf.1, leaf.2) := by
  induction entries with
  | nil => rfl
  | cons e rest ih => rw [leaves, ih, List.flatMap_cons]

theorem Rearranged.leaves_perm (h : Rearranged entries entries') :
    (leaves entries).Perm (leaves entries') := by
  induction h with
  | perm h =>
    rw [leaves_eq_flatMap, leaves_eq_flatMap]
    exact h.flatMap_right _
  | inside key rest h ih =>
    rw [leaves_table, leaves_table]
    exact (ih.map _).append_right _
  | empty key rest => exact .refl _
  | trans h h' ih ih' => exact ih.trans ih'

theorem Rearranged.wellKeyed (h : Rearranged entries entries') (hkeyed : WellKeyed entries) :
    WellKeyed entries' := by
  induction h with
  | perm h =>
    obtain ⟨hdistinct, hkeys, htables⟩ := hkeyed
    exact ⟨(h.map _).nodup_iff.1 hdistinct, fun e he => hkeys e (h.mem_iff.2 he),
      fun key inner hmem => htables key inner (h.mem_iff.2 hmem)⟩
  | inside key rest h ih =>
    have hinner := ih hkeyed.inside
    have hkey := hkeyed.head.1
    obtain ⟨hdistinct, hkeys, htables⟩ := hkeyed
    refine ⟨hdistinct, ?_, ?_⟩
    · exact List.forall_mem_cons.2 ⟨hkey, fun e he => hkeys e (List.mem_cons_of_mem _ he)⟩
    · intro key' inner hmem
      rcases List.mem_cons.1 hmem with heq | hmem
      · cases heq
        exact hinner
      · exact htables key' inner (List.mem_cons_of_mem _ hmem)
  | empty key rest => exact hkeyed.tail
  | trans h h' ih ih' => exact ih' (ih hkeyed)

/-! ### Parameters -/

theorem exists_text_iff (h : IsLeaf value) :
    (∃ s, value.leafText? = some s) ↔ value ≠ missing ∧ value ≠ list := by
  cases value with
  | table inner => exact absurd rfl (h inner)
  | _ => simp [leafText?]

theorem put_eq_ok {leaf : String × Setting} :
    put out leaf = .ok p ↔ ∃ s, leaf.2.leafText? = some s ∧ p = out.insert leaf.1 s := by
  rw [put]
  cases leaf.2.leafText? <;> simp [eq_comm]

theorem foldlM_put (items : List (String × Setting)) (out : Parameters) :
    (∃ p, items.foldlM put out = .ok p) ↔ ∀ leaf ∈ items, ∃ s, leaf.2.leafText? = some s := by
  induction items generalizing out with
  | nil => exact iff_of_true ⟨out, rfl⟩ (List.forall_mem_nil _)
  | cons leaf items ih =>
    rw [List.foldlM_cons, List.forall_mem_cons]
    constructor
    · rintro ⟨p, h⟩
      obtain ⟨out', hput, h⟩ := bind_eq_ok h
      obtain ⟨s, hs, -⟩ := put_eq_ok.1 hput
      exact ⟨⟨s, hs⟩, (ih out').1 ⟨p, h⟩⟩
    · rintro ⟨⟨s, hs⟩, hitems⟩
      rw [put_eq_ok.2 ⟨s, hs, rfl⟩]
      exact (ih _).2 hitems

/-- Texts that are put under different keys are all there in the end. -/
theorem perm_of_foldlM_put {items : List (String × Setting)}
    (hkeys : (items.map (·.1) ++ out.keys).Nodup) (h : items.foldlM put out = .ok p) :
    (p.entries.map fun e => (e.1, some e.2)).Perm
      (items.map (fun leaf => (leaf.1, leaf.2.leafText?)) ++
        out.entries.map fun e => (e.1, some e.2)) := by
  induction items generalizing out with
  | nil =>
    cases h
    exact .refl _
  | cons leaf items ih =>
    rw [List.foldlM_cons] at h
    obtain ⟨out', hput, h⟩ := bind_eq_ok h
    obtain ⟨s, hs, rfl⟩ := put_eq_ok.1 hput
    obtain ⟨hnew, -⟩ := List.nodup_cons.1 hkeys
    have hinsert : (out.insert leaf.1 s).entries.Perm ((leaf.1, s) :: out.entries) :=
      Dict.insert_perm fun hmem => hnew (List.mem_append_right _ hmem)
    have hinsertKeys : (out.insert leaf.1 s).keys.Perm (leaf.1 :: out.keys) :=
      hinsert.map Prod.fst
    have hkeys' : (items.map (·.1) ++ (out.insert leaf.1 s).keys).Nodup :=
      ((hinsertKeys.append_left _).trans List.perm_middle).nodup_iff.2 hkeys
    refine (ih hkeys' h).trans (((hinsert.map _).append_left _).trans ?_)
    rw [List.map_cons, List.map_cons, hs]
    exact List.perm_middle

theorem flatten_eq (h : WellKeyed entries) :
    flatten entries =
      ((leaves entries).map fun leaf => (".".intercalate leaf.1, leaf.2)).foldlM put ∅ := by
  rw [flatten, flattenEntries_eq]
  congr 1
  exact List.map_congr_left fun leaf hleaf => by
    rw [((mem_leaves.1 hleaf).isPath h).foldl_joinKey]

/-- The parameters hold the text of every leaf under the path to it, and nothing else. -/
theorem flatten_perm (h : WellKeyed entries) (hp : flatten entries = .ok p) :
    (p.entries.map fun e => (e.1, some e.2)).Perm
      ((leaves entries).map fun leaf => (".".intercalate leaf.1, leaf.2.leafText?)) := by
  rw [flatten_eq h] at hp
  have hkeys : (((leaves entries).map fun leaf => (".".intercalate leaf.1, leaf.2)).map (·.1) ++
      (∅ : Parameters).keys).Nodup := by
    rw [List.map_map]
    exact (List.append_nil _).symm ▸ h.nodup_keys
  have hperm := perm_of_foldlM_put hkeys hp
  rw [List.map_map] at hperm
  exact hperm.trans (.of_eq (List.append_nil _))

theorem get?_flatten {text : String} (h : WellKeyed entries) (hp : flatten entries = .ok p) :
    p.get? key = some text ↔
      (key, some text) ∈ (leaves entries).map fun leaf =>
        (".".intercalate leaf.1, leaf.2.leafText?) := by
  rw [Dict.get?_eq_some, ← (flatten_perm h hp).mem_iff]
  simp

theorem flatten_eq_ok (h : WellKeyed entries) :
    (∃ p, flatten entries = .ok p) ↔
      ∀ leaf ∈ leaves entries, leaf.2 ≠ missing ∧ leaf.2 ≠ list := by
  rw [flatten_eq h, foldlM_put, List.forall_mem_map]
  exact forall₂_congr fun leaf hleaf => exists_text_iff (mem_leaves.1 hleaf).isLeaf

/-- The parameters depend on which leaves there are, and not on their order. -/
theorem flatten_of_perm (h : WellKeyed entries) (h' : WellKeyed entries')
    (hperm : (leaves entries).Perm (leaves entries')) (hp : flatten entries = .ok p) :
    flatten entries' = .ok p := by
  have hleaves := (flatten_eq_ok h).1 ⟨p, hp⟩
  obtain ⟨p', hp'⟩ := (flatten_eq_ok h').2 fun leaf hleaf => hleaves leaf (hperm.mem_iff.2 hleaf)
  have heq : p' = p := Dict.ext_get? fun key => Option.ext fun text => by
    rw [get?_flatten h hp, get?_flatten h' hp']
    exact (hperm.map _).mem_iff.symm
  rw [hp', heq]

/-- **Flattening loses nothing and does not depend on the order of tables.**  A tree whose keys can
be told apart is flattened exactly if every leaf has a text.  Then there is one parameter for each
leaf, with the text of the leaf under the path to it, and no two leaves have one key; and whatever
the order of the entries, and with tables without entries left out, the parameters are the same. -/
theorem flatten_keeps_leaves (h : WellKeyed entries) :
    (∀ path leaf, (path, leaf) ∈ leaves entries ↔ LeafAt entries path leaf) ∧
    ((∃ p, flatten entries = .ok p) ↔
      ∀ leaf ∈ leaves entries, leaf.2 ≠ missing ∧ leaf.2 ≠ list) ∧
    (∀ p, flatten entries = .ok p →
      (p.entries.map fun e => (e.1, some e.2)).Perm
        ((leaves entries).map fun leaf => (".".intercalate leaf.1, leaf.2.leafText?))) ∧
    ((leaves entries).map fun leaf => ".".intercalate leaf.1).Nodup ∧
    ∀ entries', Rearranged entries entries' →
      WellKeyed entries' ∧ ∀ p, flatten entries' = .ok p ↔ flatten entries = .ok p := by
  refine ⟨?leaves, ?succeeds, ?once, ?keys, ?rearranged⟩
  case leaves => exact fun path leaf => mem_leaves
  case succeeds => exact flatten_eq_ok h
  case once => exact fun p => flatten_perm h
  case keys => exact h.nodup_keys
  case rearranged =>
    intro entries' hre
    have h' : WellKeyed entries' := hre.wellKeyed h
    have hperm : (leaves entries).Perm (leaves entries') := hre.leaves_perm
    exact ⟨h', fun p => ⟨flatten_of_perm h' h hperm.symm, flatten_of_perm h h' hperm⟩⟩

/-- A table in another order, and without the empty table in it. -/
theorem flatten_keeps_leaves_of_two_orders :
    let database := [("port", integer (-5)), ("url", text "db:\x7b0\x7d")]
    let entries := [("init", text "main"), ("settings", table
      [("empty", table []), ("debug", flag true), ("database", table database)])]
    let entries' := [("settings", table [("database", table database), ("debug", flag true)]),
      ("init", text "main")]
    WellKeyed entries ∧ Rearranged entries entries' ∧ ∃ p, flatten entries = .ok p ∧
      p.keys = ["init", "settings.database.port", "settings.database.url", "settings.debug"] ∧
      p.get? "settings.database.port" = some "-5" ∧ flatten entries' = .ok p := by
  intro database entries entries'
  have hdatabase : WellKeyed database := ⟨by decide, by decide, by simp [database]⟩
  have hempty : WellKeyed [] := ⟨List.nodup_nil, by simp, by simp⟩
  have hsettings : WellKeyed
      [("empty", table []), ("debug", flag true), ("database", table database)] := by
    refine ⟨by simp, by simp, ?_⟩
    simp only [List.mem_cons, Prod.mk.injEq, table.injEq, List.not_mem_nil, or_false]
    rintro key inner (⟨-, rfl⟩ | ⟨-, ⟨⟩⟩ | ⟨-, rfl⟩)
    · exact hempty
    · exact hdatabase
  have hentries : WellKeyed entries := by
    refine ⟨by simp [entries], by simp [entries], ?_⟩
    simp only [entries, List.mem_cons, Prod.mk.injEq, table.injEq, List.not_mem_nil, or_false]
    rintro key inner (⟨-, ⟨⟩⟩ | ⟨-, rfl⟩)
    exact hsettings
  have hre : Rearranged entries entries' :=
    .trans (.perm (.swap _ _ _)) (.inside _ _ (.trans (.empty _ _) (.perm (.swap _ _ _))))
  have hp : flatten entries = .ok _ := rfl
  exact ⟨hentries, hre, _, hp, rfl, rfl,
    (((flatten_keeps_leaves hentries).2.2.2.2 entries' hre).2 _).2 hp⟩

end SqlAccess.Setting

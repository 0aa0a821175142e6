/-
What setting a parameter changes.

All databases share one flat map, in which the qualified key of a parameter holds the name of its
database as it is, with whatever dots are in it.  Since the name of a parameter has no dot, the last
dot of a qualified key tells where the name of the database ends (`Parameters.qualifiedKey_eq_iff`),
and no qualified key is a bare one or one that concerns all databases.  Hence setting a parameter
under a qualified key changes one look-up (`Parameters.lookup?_insert_qualified`), and setting it
under its bare name changes the look-ups that fall back on it (`Parameters.lookup?_insert_bare`).
The main statement is `Parameters.overrides_stay_apart`.
-/
import SqlAccess.Settings

namespace SqlAccess.Parameters

/-! ### Keys -/

/-- The first dot of a text in which no dot follows it has nothing in front of it. -/
theorem eq_nil_of_dot {between name name' : List Char} (hname : '.' ∉ name)
    (h : '.' :: name = between ++ '.' :: name') : between = [] ∧ name = name' := by
  cases between with
  | nil => exact ⟨rfl, (List.cons.inj h).2⟩
  | cons c between =>
    have hmem : '.' ∈ name :=
      (List.cons.inj h).2 ▸ List.mem_append_right between List.mem_cons_self
    exact absurd hmem hname

/-- What stands before and behind the last dot of a text. -/
theorem eq_of_append_dot {a b name name' : List Char} (hname : '.' ∉ name) (hname' : '.' ∉ name')
    (h : a ++ '.' :: name = b ++ '.' :: name') : a = b ∧ name = name' := by
  -- if one of the dots stood farther left, the other would follow it
  rcases List.append_eq_append_iff.1 h with ⟨between, hb, hrest⟩ | ⟨between, ha, hrest⟩
  · obtain ⟨rfl, heq⟩ := eq_nil_of_dot hname hrest
    exact ⟨(hb.trans (List.append_nil a)).symm, heq⟩
  · obtain ⟨rfl, heq⟩ := eq_nil_of_dot hname' hrest
    exact ⟨ha.trans (List.append_nil b), heq.symm⟩

variable {database database' parameter parameter' value : String} {p : Parameters}

/-- A qualified key belongs to one database and one parameter. -/
theorem qualifiedKey_eq_iff (h : '.' ∉ parameter.toList) (h' : '.' ∉ parameter'.toList) :
    qualifiedKey database' parameter' = qualifiedKey database parameter ↔
      database' = database ∧ parameter' = parameter := by
  constructor
  · intro heq
    have hlists := congrArg String.toList heq
    simp only [qualifiedKey_toList, List.append_assoc, List.append_cancel_left_eq,
      List.singleton_append] at hlists
    obtain ⟨hdatabase, hparameter⟩ := eq_of_append_dot h' h hlists
    exact ⟨String.toList_inj.1 hdatabase, String.toList_inj.1 hparameter⟩
  · rintro ⟨rfl, rfl⟩
    rfl

theorem dot_mem_qualifiedKey (database parameter : String) :
    '.' ∈ (qualifiedKey database parameter).toList := by
  simp [qualifiedKey_toList]

/-- A qualified key is not the name of a parameter. -/
theorem qualifiedKey_ne_bare (h : '.' ∉ parameter'.toList) :
    qualifiedKey database parameter ≠ parameter' :=
  fun heq => h (heq ▸ dot_mem_qualifiedKey database parameter)

/-- A qualified key is not the key of a parameter that concerns all databases. -/
theorem qualifiedKey_ne_global {name : String} (h : '.' ∉ name.toList) :
    qualifiedKey database parameter ≠ keyPrefix ++ name := by
  intro heq
  have hlists := congrArg String.toList heq
  rw [qualifiedKey_toList, String.toList_append, List.append_assoc, List.append_assoc] at hlists
  have hname := List.append_cancel_left hlists
  exact h (hname ▸ List.mem_append_right _ List.mem_cons_self)

theorem qualifiedKey_ne_tracingKey : qualifiedKey database parameter ≠ tracingKey := by
  intro heq
  have hlists := congrArg String.toList heq
  rw [qualifiedKey_toList, List.append_assoc, List.append_assoc] at hlists
  -- `settings.da` here and `settings.de` there
  have hprefix : (keyPrefix.toList).take 11 = tracingKey.toList.take 11 := by
    rw [← hlists, List.take_append_of_le_length (by decide)]
  exact absurd hprefix (by decide)

/-! ### Look-ups after a change -/

/-- **A parameter set under a qualified key** is found by one look-up, and the others do not see
it. -/
theorem lookup?_insert_qualified (h : '.' ∉ parameter.toList) (h' : '.' ∉ parameter'.toList) :
    lookup? (p.insert (qualifiedKey database parameter) value) database' parameter' =
      if database' = database ∧ parameter' = parameter then some value
      else p.lookup? database' parameter' := by
  have hbare : (p.insert (qualifiedKey database parameter) value).get? parameter' =
      p.get? parameter' := by
    rw [Dict.get?_insert, if_neg (qualifiedKey_ne_bare h').symm]
  rw [lookup?, Dict.get?_insert, hbare]
  simp only [qualifiedKey_eq_iff h h']
  split
  · rfl
  · rfl

/-- What concerns all databases does not see a parameter set under a qualified key. -/
theorem global?_insert_qualified {name : String} (h : '.' ∉ name.toList) :
    global? (p.insert (qualifiedKey database parameter) value) name = p.global? name := by
  rw [global?, Dict.get?_insert, Dict.get?_insert, if_neg (qualifiedKey_ne_global h).symm,
    if_neg (qualifiedKey_ne_bare h).symm, global?]

theorem tracing_insert_qualified :
    tracing (p.insert (qualifiedKey database parameter) value) = p.tracing := by
  rw [tracing, Dict.get?_insert, if_neg qualifiedKey_ne_tracingKey.symm, tracing]

/-- **A parameter set under its bare name** is found by the look-ups that have no qualified key of
their own. -/
theorem lookup?_insert_bare (h : '.' ∉ parameter.toList) :
    lookup? (p.insert parameter value) database' parameter' =
      if parameter' = parameter ∧ p.get? (qualifiedKey database' parameter') = none then some value
      else p.lookup? database' parameter' := by
  have hqualified : (p.insert parameter value).get? (qualifiedKey database' parameter') =
      p.get? (qualifiedKey database' parameter') := by
    rw [Dict.get?_insert, if_neg (qualifiedKey_ne_bare h)]
  rw [lookup?, hqualified, Dict.get?_insert, lookup?]
  cases p.get? (qualifiedKey database' parameter') with
  | some own => rw [Option.some_or, if_neg fun h => Option.some_ne_none own h.2, Option.some_or]
  | none => simp only [Option.none_or, and_true]

/-- The settings of a database do not see a parameter set for another. -/
theorem ofParameters_insert_qualified (h : '.' ∉ parameter.toList) (hne : database' ≠ database) :
    Settings.ofParameters database' (p.insert (qualifiedKey database parameter) value) =
      Settings.ofParameters database' p := by
  have hsame : ∀ name : String, '.' ∉ name.toList →
      lookup? (p.insert (qualifiedKey database parameter) value) database' name =
        p.lookup? database' name := by
    intro name hname
    rw [lookup?_insert_qualified h hname, if_neg fun heq => hne heq.1]
  simp only [Settings.ofParameters, hsame "driver" (by decide), hsame "url" (by decide),
    hsame "username" (by decide), hsame "password" (by decide), hsame "key" (by decide)]

/-- **Overrides of one database do not reach another.**  A parameter that is set under a qualified
key is found for its database and changes nothing else that is looked up, neither for another
database or another parameter nor for all databases.  A parameter that is set under its bare name
is found for the databases that have no qualified key for it, and changes nothing else that is
looked up for a database. -/
theorem overrides_stay_apart (p : Parameters) (database parameter value : String)
    (h : '.' ∉ parameter.toList) :
    (let q : Parameters := p.insert ("settings.database." ++ database ++ "." ++ parameter) value
     q.lookup? database parameter = some value ∧
     (∀ database' parameter', '.' ∉ parameter'.toList →
       ¬(database' = database ∧ parameter' = parameter) →
       q.lookup? database' parameter' = p.lookup? database' parameter') ∧
     (∀ database' ≠ database,
       Settings.ofParameters database' q = Settings.ofParameters database' p) ∧
     q.initDatabases = p.initDatabases ∧ q.defaultDatabase? = p.defaultDatabase? ∧
     q.tracing = p.tracing) ∧
    let q : Parameters := p.insert parameter value
    ∀ database' parameter', q.lookup? database' parameter' =
      if parameter' = parameter ∧
        p.get? ("settings.database." ++ database' ++ "." ++ parameter') = none then some value
      else p.lookup? database' parameter' := by
  refine ⟨?_, fun database' parameter' => lookup?_insert_bare h⟩
  intro q
  refine ⟨?_, fun database' parameter' h' hne => ?_, fun database' hne => ?_, ?_, ?_, ?_⟩
  · exact (lookup?_insert_qualified h h).trans (if_pos ⟨rfl, rfl⟩)
  · exact (lookup?_insert_qualified h h').trans (if_neg hne)
  · exact ofParameters_insert_qualified h hne
  · have hinit : q.global? "init" = p.global? "init" := global?_insert_qualified (by decide)
    rw [initDatabases, hinit, initDatabases]
  · exact global?_insert_qualified (by decide)
  · exact tracing_insert_qualified

/-- A database whose name ends like a qualified key of another. -/
theorem overrides_stay_apart_of_nested_name :
    let p : Parameters := .ofList
      [("settings.database.init", "main"), ("settings.database.main.url", "old"), ("url", "shared")]
    let q : Parameters := p.insert "settings.database.main.settings.database.main.url" "new"
    let r : Parameters := p.insert "url" "new"
    '.' ∉ "url".toList ∧
      (q.lookup? "main.settings.database.main" "url" = some "new" ∧
        q.lookup? "main" "url" = some "old" ∧ q.initDatabases = ["main"]) ∧
      r.lookup? "main" "url" = some "old" ∧ r.lookup? "archive" "url" = some "new" := by
  intro p q r
  have hdot : '.' ∉ "url".toList := by decide
  obtain ⟨⟨hset, hothers, -, hinit, -⟩, hbare⟩ :=
    overrides_stay_apart p "main.settings.database.main" "url" "new" hdot
  refine ⟨hdot, ⟨hset, ?_, ?_⟩, ?_, ?_⟩
  · exact (hothers "main" "url" hdot fun hsame => absurd hsame.1 (by decide)).trans rfl
  · exact hinit.trans rfl
  · exact (hbare "main" "url").trans rfl
  · exact (hbare "archive" "url").trans rfl

end SqlAccess.Parameters

/-
The history of a registry.

Databases are added to a registry one by one or loaded by a configuration, in any order with
factories, drivers and names of a default.  An attempt to add a database may fail in many places,
and a load may stop in the middle.  The main statement, `Registry.serves_last_loaded`, reads off the
history which databases are there: of each name the one that was made last, whatever failed since.
-/
import SqlAccess.Registry

namespace SqlAccess

namespace Registry

/-- A call that changes a registry. -/
inductive Change where
  | add (name : String) (p : Parameters)
  | load (p : Parameters)
  | registerFactory (className : String) (factory : Factory)
  | registerDriver (id : String) (driver : Driver)
  | setDefault (name : String)

def after (r : Registry) : Change → Registry
  | .add name p => (r.add name p).2
  | .load p => (r.load p).2
  | .registerFactory className factory => r.registerFactory className factory
  | .registerDriver id driver => r.registerDriver id driver
  | .setDefault name => r.setDefault name

def run (r : Registry) (changes : List Change) : Registry := changes.foldl after r

/-- An attempt to add the database of a name, and what came of it. -/
structure Attempt where
  name : String
  result : Result Database

/-- The database that an attempt gives to a name. -/
def Attempt.gives? (name : String) (a : Attempt) : Option Database :=
  if a.name = name then a.result.toOption else none

/-- The database of the latest attempt at a name that succeeded. -/
def latest? (name : String) (attempts : List Attempt) : Option Database :=
  attempts.reverse.findSome? (Attempt.gives? name)

/-- The registry with the switch and the default name of a configuration. -/
def switched (r : Registry) (p : Parameters) : Registry :=
  { r with
    tracer := r.tracer.setEnabled p.tracing
    defaultName := p.defaultDatabase?.or r.defaultName }

/-- The attempts at listed names: those that succeed, and the first that fails. -/
def listedAttempts (r : Registry) (p : Parameters) : List String → List Attempt
  | [] => []
  | name :: rest =>
    match r.add name p with
    | (.ok d, r) => ⟨name, .ok d⟩ :: r.listedAttempts p rest
    | (.error e, _) => [⟨name, .error e⟩]

/-- The attempts of a call. -/
def attempts (r : Registry) : Change → List Attempt
  | .add name p => [⟨name, (r.add name p).1⟩]
  | .load p => (r.switched p).listedAttempts p p.initDatabases
  | _ => []

def history (r : Registry) : List Change → List Attempt
  | [] => []
  | change :: rest => r.attempts change ++ (r.after change).history rest

/-- A load stopped: it has added the names in `before` one after the other, and failed with `e` at
`name`. -/
structure Stops (r : Registry) (p : Parameters) (before : List String) (name : String)
    (e : Error) : Prop where
  listed : ∃ rest, p.initDatabases = before ++ name :: rest
  inOrder : (r.load p).2 = (r.switched p).run ((before ++ [name]).map (.add · p))
  refused : (((r.switched p).run (before.map (.add · p))).add name p).1 = .error e
  registered : ∀ n ∈ before, ∃ d, (r.add n p).1 = .ok d ∧ (r.load p).2.database? n = some d
  others : ∀ n ∉ before, (r.load p).2.database? n = r.database? n
  tracing : (r.load p).2.tracing = p.tracing
  defaultName : (r.load p).2.defaultName = p.defaultDatabase?.or r.defaultName

variable {r : Registry} {name : String} {p : Parameters} {d : Database} {e : Error}

/-! ### One add -/

theorem add_of_ok (h : r.prepare name p = .ok d) :
    r.add name p =
      (.ok d, { r with initialized := true, databases := r.databases.insert name d }) := by
  have h' : { r with initialized := true }.prepare name p = .ok d := h
  rw [add, h']

theorem add_of_error (h : r.prepare name p = .error e) :
    r.add name p = (.error e, { r with initialized := true }) := by
  have h' : { r with initialized := true }.prepare name p = .error e := h
  rw [add, h']

theorem add_fst (r : Registry) (name : String) (p : Parameters) :
    (r.add name p).1 = r.prepare name p := by
  cases h : r.prepare name p with
  | ok d => rw [add_of_ok h]
  | error e => rw [add_of_error h]

theorem database?_add (r : Registry) (name : String) (p : Parameters) (n : String) :
    (r.add name p).2.database? n =
      if n = name then (r.prepare name p).toOption.or (r.database? n) else r.database? n := by
  cases h : r.prepare name p with
  | ok d =>
    rw [add_of_ok h]
    exact Dict.get?_insert r.databases name d n
  | error e =>
    rw [add_of_error h]
    exact (ite_self _).symm

/-! ### Adds in a row -/

/-- What adds leave alone. -/
structure SameSetUp (r r' : Registry) : Prop where
  factories : r'.factories = r.factories
  drivers : r'.drivers = r.drivers
  tracer : r'.tracer = r.tracer
  defaultName : r'.defaultName = r.defaultName

theorem SameSetUp.prepare {r r' : Registry} (h : SameSetUp r r') (name : String)
    (p : Parameters) : r'.prepare name p = r.prepare name p := by
  rw [Registry.prepare, Registry.prepare, create, create, h.factories, h.drivers]

theorem sameSetUp_add (r : Registry) (name : String) (p : Parameters) :
    SameSetUp r (r.add name p).2 := by
  cases h : r.prepare name p with
  | ok d => rw [add_of_ok h]; exact ⟨rfl, rfl, rfl, rfl⟩
  | error e => rw [add_of_error h]; exact ⟨rfl, rfl, rfl, rfl⟩

theorem run_adds_cons (r : Registry) (p : Parameters) (name : String) (names : List String) :
    r.run ((name :: names).map (.add · p)) = (r.add name p).2.run (names.map (.add · p)) := rfl

theorem sameSetUp_adds (r : Registry) (p : Parameters) (names : List String) :
    SameSetUp r (r.run (names.map (.add · p))) := by
  induction names generalizing r with
  | nil => exact ⟨rfl, rfl, rfl, rfl⟩
  | cons name names ih =>
    rw [run_adds_cons]
    have hadd := sameSetUp_add r name p
    have hrest := ih (r.add name p).2
    exact ⟨hrest.factories.trans hadd.factories, hrest.drivers.trans hadd.drivers,
      hrest.tracer.trans hadd.tracer, hrest.defaultName.trans hadd.defaultName⟩

theorem database?_adds (r : Registry) (p : Parameters) (names : List String) (n : String) :
    (r.run (names.map (.add · p))).database? n =
      if n ∈ names then (r.prepare n p).toOption.or (r.database? n) else r.database? n := by
  induction names generalizing r with
  | nil => rfl
  | cons name names ih =>
    rw [run_adds_cons, ih, (sameSetUp_add r name p).prepare, database?_add]
    by_cases hn : n = name
    · subst hn
      simp only [List.mem_cons, true_or]
      split
      · cases r.prepare n p <;> rfl
      · rfl
    · simp [hn]

/-- Adding listed names adds them all one by one, or stops at the first that fails. -/
theorem addAll_cases (r : Registry) (p : Parameters) (names : List String) :
    ((∀ n ∈ names, ∃ d, r.prepare n p = .ok d) ∧
        r.addAll p names = (.ok (), r.run (names.map (.add · p)))) ∨
      ∃ before name rest e, names = before ++ name :: rest ∧
        (∀ n ∈ before, ∃ d, r.prepare n p = .ok d) ∧ r.prepare name p = .error e ∧
        r.addAll p names = (.error e, r.run ((before ++ [name]).map (.add · p))) := by
  induction names generalizing r with
  | nil => exact .inl ⟨by simp, rfl⟩
  | cons first names ih =>
    cases hfirst : r.prepare first p with
    | error e =>
      refine .inr ⟨[], first, names, e, rfl, by simp, hfirst, ?_⟩
      rw [addAll, List.nil_append, run_adds_cons, add_of_error hfirst]
      rfl
    | ok d =>
      have hsame := sameSetUp_add r first p
      have hadd (before : List String) (h : ∀ n ∈ before, ∃ d,
          (r.add first p).2.prepare n p = .ok d) :
          ∀ n ∈ first :: before, ∃ d, r.prepare n p = .ok d := by
        intro n hn
        rcases List.mem_cons.1 hn with rfl | hn
        · exact ⟨d, hfirst⟩
        · rw [← hsame.prepare]
          exact h n hn
      have hall : r.addAll p (first :: names) = (r.add first p).2.addAll p names := by
        rw [addAll, add_of_ok hfirst]
      rw [hall]
      obtain ⟨hnames, hrun⟩ | ⟨before, name, rest, e, hnames, hbefore, hname, hrun⟩ :=
        ih (r.add first p).2
      · exact .inl ⟨hadd names hnames, hrun⟩
      · refine .inr ⟨first :: before, name, rest, e, by rw [hnames]; rfl, hadd before hbefore,
          ?_, hrun⟩
        rw [← hsame.prepare]
        exact hname

/-! ### The databases that are there -/

theorem latest?_append (name : String) (xs ys : List Attempt) :
    latest? name (xs ++ ys) = (latest? name ys).or (latest? name xs) := by
  rw [latest?, List.reverse_append, List.findSome?_append]
  rfl

theorem latest?_single (n : String) (a : Attempt) : latest? n [a] = a.gives? n :=
  List.findSome?_singleton

theorem load_eq (r : Registry) (p : Parameters) :
    r.load p = (r.switched p).addAll p p.initDatabases := by
  rw [load, switched]
  cases p.defaultDatabase? <;> rfl

theorem database?_add_latest (r : Registry) (name : String) (p : Parameters) (n : String) :
    (r.add name p).2.database? n =
      (latest? n [⟨name, (r.add name p).1⟩]).or (r.database? n) := by
  rw [latest?_single, Attempt.gives?, add_fst, database?_add]
  by_cases hn : n = name
  · rw [if_pos hn, if_pos hn.symm]
  · rw [if_neg hn, if_neg (Ne.symm hn), Option.none_or]

theorem database?_addAll (r : Registry) (p : Parameters) (names : List String) (n : String) :
    (r.addAll p names).2.database? n =
      (latest? n (r.listedAttempts p names)).or (r.database? n) := by
  induction names generalizing r with
  | nil => rfl
  | cons name names ih =>
    have hadd := database?_add_latest r name p n
    rw [addAll, listedAttempts]
    rcases h : r.add name p with ⟨e | d, r'⟩
    · rw [h] at hadd
      exact hadd
    · rw [h] at hadd
      show (r'.addAll p names).2.database? n =
        (latest? n ([⟨name, .ok d⟩] ++ r'.listedAttempts p names)).or (r.database? n)
      rw [ih, hadd, latest?_append, Option.or_assoc]

theorem database?_after (r : Registry) (change : Change) (n : String) :
    (r.after change).database? n = (latest? n (r.attempts change)).or (r.database? n) := by
  cases change with
  | add name p => exact database?_add_latest r name p n
  | load p =>
    rw [after, load_eq]
    exact database?_addAll (r.switched p) p p.initDatabases n
  | registerFactory className factory => rfl
  | registerDriver id driver => rfl
  | setDefault name => rfl

theorem database?_run (r : Registry) (changes : List Change) (n : String) :
    (r.run changes).database? n = (latest? n (r.history changes)).or (r.database? n) := by
  induction changes generalizing r with
  | nil => rfl
  | cons change changes ih =>
    show ((r.after change).run changes).database? n = _
    rw [ih, database?_after, history, latest?_append, Option.or_assoc]

theorem mem_names (r : Registry) (n : String) : n ∈ r.names ↔ (r.database? n).isSome := by
  rw [names, Dict.mem_keys, Option.isSome_iff_exists]
  rfl

/-! ### Loads -/

/-- A load that ends well has added every database that is listed. -/
theorem load_ends (h : (r.load p).1 = .ok ()) :
    ∀ n ∈ p.initDatabases, ∃ d, (r.add n p).1 = .ok d ∧ (r.load p).2.database? n = some d := by
  rw [load_eq] at h ⊢
  obtain ⟨hlisted, hrun⟩ | ⟨_, _, _, e, -, -, -, hrun⟩ :=
    addAll_cases (r.switched p) p p.initDatabases
  · intro n hn
    obtain ⟨d, hd⟩ := hlisted n hn
    refine ⟨d, (add_fst r n p).trans hd, ?_⟩
    rw [hrun, database?_adds, if_pos hn, hd]
    rfl
  · rw [hrun] at h
    cases h

theorem load_stops (h : (r.load p).1 = .error e) : ∃ before name, r.Stops p before name e := by
  obtain ⟨-, hrun⟩ | ⟨before, name, rest, e', hlisted, hbefore, hname, hrun⟩ :=
    addAll_cases (r.switched p) p p.initDatabases
  · rw [load_eq, hrun] at h
    cases h
  rw [← load_eq] at hrun
  rw [hrun] at h
  cases h
  have hsame := sameSetUp_adds (r.switched p) p (before ++ [name])
  have hdatabase (n : String) : (r.load p).2.database? n =
      if n ∈ before ++ [name] then (r.prepare n p).toOption.or (r.database? n)
      else r.database? n := by
    rw [hrun]
    exact database?_adds (r.switched p) p (before ++ [name]) n
  refine ⟨before, name, ⟨rest, hlisted⟩, by rw [hrun], ?_, ?_, ?_, ?_, ?_⟩
  · rw [add_fst, (sameSetUp_adds (r.switched p) p before).prepare]
    exact hname
  · intro n hn
    obtain ⟨d, hd⟩ := hbefore n hn
    have hprepare : r.prepare n p = .ok d := hd
    refine ⟨d, (add_fst r n p).trans hprepare, ?_⟩
    rw [hdatabase, if_pos (List.mem_append_left _ hn), hprepare]
    rfl
  · intro n hn
    rw [hdatabase]
    split
    · next hmem =>
      -- the name that failed keeps the database that it had
      have hn' : n = name := by simpa [hn] using hmem
      have hprepare : r.prepare n p = .error e := by
        rw [hn']
        exact hname
      rw [hprepare]
      rfl
    · rfl
  · rw [hrun]
    exact congrArg Tracer.enabled hsame.tracer
  · rw [hrun]
    exact hsame.defaultName

/-- **A registry serves the last database of each name that was loaded.**  Of a name there is the
database of the latest attempt that succeeded; an add that fails changes no database; the names are
those of the databases, in ascending order; and a load adds all the databases that it lists, or
those listed before the one that it fails at. -/
theorem serves_last_loaded (drivers : DriverTable) (changes : List Change) :
    let r := (new drivers).run changes
    (∀ n, r.database? n = latest? n ((new drivers).history changes)) ∧
      (∀ name p, (r.add name p).1 = r.prepare name p) ∧
      (∀ name p e, (r.add name p).1 = .error e →
        ∀ n, (r.add name p).2.database? n = r.database? n) ∧
      (r.names.Pairwise (· < ·) ∧ ∀ n, n ∈ r.names ↔ (r.database? n).isSome) ∧
      (∀ p, (r.load p).1 = .ok () → ∀ n ∈ p.initDatabases,
        ∃ d, (r.add n p).1 = .ok d ∧ (r.load p).2.database? n = some d) ∧
      ∀ p e, (r.load p).1 = .error e → ∃ before name, r.Stops p before name e := by
  intro r
  refine ⟨fun n => ?_, r.add_fst, fun name p e h n => ?_,
    ⟨r.databases.pairwise_keys, mem_names r⟩, fun p h => load_ends h, fun p e h => load_stops h⟩
  · rw [database?_run]
    exact Option.or_none
  · rw [add_fst] at h
    rw [add_of_error h]
    rfl

/-- A load of three databases that stops at the second: only the first is there afterwards. -/
theorem serves_last_loaded_of_three :
    let r := (new .defaults).run [.setDefault "old"]
    let p : Parameters := .ofList
      [("init", "main, spare, last"), ("settings.database.main.driver", "SQLite"),
        ("url", "db:\x7b0\x7d"), ("username", "ann"), ("password", "")]
    let e := Error.configuration (.missingParameter "spare" "driver")
    (r.load p).1 = .error e ∧ (r.load p).2.names = ["main"] ∧
      ∃ before name, r.Stops p before name e := by
  intro r p e
  have hload : (r.load p).1 = .error e := rfl
  have hnames : (r.load p).2.names = ["main"] := rfl
  exact ⟨hload, hnames, (serves_last_loaded .defaults [.setDefault "old"]).2.2.2.2.2 p e hload⟩

end Registry

end SqlAccess

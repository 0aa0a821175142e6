/-
When a database loads.

A database of no class loads exactly if nothing is missing (`Registry.Complete`): its driver, the
template of its connection string and its credentials are among the parameters, under a qualified
key or a bare one, the driver is registered, and the slots of the template are closed.  Otherwise
the error says what is missing (`Registry.Lacks`).  The main statement is
`Registry.standard_loads_iff`.
-/
import SqlAccess.Proofs.DatabaseLifecycle
import SqlAccess.Proofs.RegistryHistory
import SqlAccess.Proofs.TemplateSlots

namespace SqlAccess

theorem exists_map_eq_ok {ε α β : Type} {x : Except ε α} {f : α → β} :
    (∃ b, x.map f = .ok b) ↔ ∃ a, x = .ok a := by
  cases x with
  | error e => simp [Except.map]
  | ok a => simp [Except.map]

/-- A parameter of a database has a value: under its qualified key, or under its bare name if there
is nothing under the qualified key. -/
inductive Parameters.Gives (p : Parameters) (database parameter value : String) : Prop
  | qualified
    (h : p.get? ("settings.database." ++ database ++ "." ++ parameter) = some value)
  | bare (hnone : p.get? ("settings.database." ++ database ++ "." ++ parameter) = none)
    (h : p.get? parameter = some value)

/-- There is a driver with the identifier, whatever the case of its letters. -/
def DriverTable.Registered (t : DriverTable) (id : String) : Prop :=
  ∃ driver, t.drivers.get? (Text.lowered id) = some driver

namespace Registry

/-- The parameters that a database needs, in the order in which they are asked for. -/
def needed : List String := ["driver", "url", "username", "password"]

/-- Nothing is missing for a database of no class. -/
inductive Complete (r : Registry) (name : String) (p : Parameters) : Prop
  | intro {id template username password : String}
    (hdriver : p.Gives name "driver" id) (hurl : p.Gives name "url" template)
    (husername : p.Gives name "username" username) (hpassword : p.Gives name "password" password)
    (hregistered : r.drivers.Registered id)
    (hslots : Template.SlotsClosed 0 template.toList)

/-- What is missing for a database of no class, and the error that says so.  The driver is looked
for when all parameters are there, and the template is read when the driver is found. -/
inductive Lacks (r : Registry) (name : String) (p : Parameters) : Error → Prop
  | parameter (before : List String) (parameter : String) (after : List String)
    (hneeded : needed = before ++ parameter :: after)
    (hbefore : ∀ given ∈ before, ∃ value, p.Gives name given value)
    (hmissing : ∀ value, ¬p.Gives name parameter value) :
    Lacks r name p (.configuration (.missingParameter name parameter))
  | driver {id : String} (hgiven : ∀ given ∈ needed, ∃ value, p.Gives name given value)
    (hdriver : p.Gives name "driver" id) (hunknown : ¬r.drivers.Registered id) :
    Lacks r name p
      (.configurationFrom (.driverNotLoaded name id) (.configuration (.unknownDriver id)))
  | slot {id template : String} (flaw : TemplateFlaw)
    (hgiven : ∀ given ∈ needed, ∃ value, p.Gives name given value)
    (hdriver : p.Gives name "driver" id) (hregistered : r.drivers.Registered id)
    (hurl : p.Gives name "url" template) (hopen : ¬Template.SlotsClosed 0 template.toList) :
    Lacks r name p (.configuration (.malformedTemplate template flaw))

end Registry

/-! ### Parameters and drivers -/

theorem Parameters.lookup?_eq_some {p : Parameters} {database parameter value : String} :
    p.lookup? database parameter = some value ↔ p.Gives database parameter value := by
  have hkey : qualifiedKey database parameter =
      "settings.database." ++ database ++ "." ++ parameter := rfl
  rw [lookup?, hkey, Option.or_eq_some_iff]
  constructor
  · rintro (h | ⟨hnone, h⟩)
    · exact .qualified h
    · exact .bare hnone h
  · rintro (h | ⟨hnone, h⟩)
    · exact .inl h
    · exact .inr ⟨hnone, h⟩

theorem Parameters.lookup?_eq_none {p : Parameters} {database parameter : String} :
    p.lookup? database parameter = none ↔ ∀ value, ¬p.Gives database parameter value := by
  simp only [Option.eq_none_iff_forall_ne_some, ne_eq, lookup?_eq_some]

theorem Parameters.Gives.eq {p : Parameters} {database parameter value value' : String}
    (h : p.Gives database parameter value) (h' : p.Gives database parameter value') :
    value = value' := by
  rw [← lookup?_eq_some] at h h'
  exact Option.some.inj (h.symm.trans h')

theorem DriverTable.registered_register {t : DriverTable} {id id' : String} {driver : Driver} :
    (t.register id driver).Registered id' ↔
      Text.lowered id' = Text.lowered id ∨ t.Registered id' := by
  have hget : (t.register id driver).drivers.get? (Text.lowered id') =
      if Text.lowered id' = Text.lowered id then some driver
      else t.drivers.get? (Text.lowered id') := Dict.get?_insert _ _ _ _
  rw [Registered, hget]
  split
  · next heq => exact iff_of_true ⟨driver, rfl⟩ (.inl heq)
  · next hne => exact (or_iff_right hne).symm

theorem connectionUrl_eq_ok {template : String} {args : List String} :
    (∃ url, connectionUrl template args = .ok url) ↔
      Template.SlotsClosed 0 template.toList := by
  rw [← Template.transcribe_plain_eq_ok, connectionUrl]
  cases Template.transcribe args .plain [] template.toList <;> simp

theorem StandardDatabase.resolve_eq_ok {d : StandardDatabase} {drivers : DriverTable} :
    (∃ target, d.resolve drivers = .ok target) ↔
      ∃ driver request, d.Resolves drivers driver request := by
  constructor
  · rintro ⟨target, h⟩
    exact ⟨_, _, resolves_of_resolve h⟩
  · rintro ⟨driver, request, h⟩
    exact ⟨_, resolve_of_resolves h⟩

namespace Registry

variable {r : Registry} {name : String} {p : Parameters} {e : Error}

/-! ### Databases of no class -/

/-- A database of the name with its parameters, before it is initialized. -/
def pending (name : String) (p : Parameters) : StandardDatabase :=
  .withSettings name (.ofParameters name p)

theorem add_standard (h : ∀ className, ¬p.Gives name "class" className) :
    (r.add name p).1 = ((pending name p).resolve r.drivers).map fun target =>
      ((pending name p).settled target).toDatabase := by
  have hcreate : r.create name p = .ok (StandardDatabase.draft name) := by
    rw [create, Parameters.lookup?_eq_none.2 h]
  rw [add_fst, prepare, hcreate]
  exact StandardDatabase.draft_eq name _ r.drivers

theorem resolves_iff_complete :
    (∃ driver request, (pending name p).Resolves r.drivers driver request) ↔
      r.Complete name p := by
  constructor
  · rintro ⟨driver, request, hid, htemplate, husername, hpassword, hdriver, hurl⟩
    exact ⟨Parameters.lookup?_eq_some.1 hid, Parameters.lookup?_eq_some.1 htemplate,
      Parameters.lookup?_eq_some.1 husername, Parameters.lookup?_eq_some.1 hpassword,
      ⟨driver, hdriver⟩, connectionUrl_eq_ok.1 ⟨_, hurl⟩⟩
  · rintro ⟨hid, htemplate, husername, hpassword, ⟨driver, hdriver⟩, hslots⟩
    obtain ⟨url, hurl⟩ := connectionUrl_eq_ok.2 hslots
    exact ⟨driver, _, Parameters.lookup?_eq_some.2 hid, Parameters.lookup?_eq_some.2 htemplate,
      Parameters.lookup?_eq_some.2 husername, Parameters.lookup?_eq_some.2 hpassword, hdriver, hurl⟩

theorem gives_of_required {parameter text : String}
    (h : (pending name p).required parameter (p.lookup? name parameter) = .ok text) :
    p.Gives name parameter text :=
  Parameters.lookup?_eq_some.1 (StandardDatabase.required_eq_ok.1 h)

theorem lacks_of_required (before after : List String) {parameter : String}
    (hneeded : needed = before ++ parameter :: after)
    (hbefore : ∀ given ∈ before, ∃ value, p.Gives name given value)
    (h : (pending name p).required parameter (p.lookup? name parameter) = .error e) :
    r.Lacks name p e := by
  obtain ⟨hnone, rfl⟩ := StandardDatabase.required_eq_error.1 h
  exact .parameter before parameter after hneeded hbefore (Parameters.lookup?_eq_none.1 hnone)

/-- The parameters are asked for in their order, and each error comes with what is there by then. -/
theorem lacks_of_resolve (h : (pending name p).resolve r.drivers = .error e) :
    r.Lacks name p e := by
  rw [StandardDatabase.resolve] at h
  obtain h | ⟨id, hid, h⟩ := bind_eq_error h
  · exact lacks_of_required [] _ rfl (List.forall_mem_nil _) h
  have hdriver := gives_of_required hid
  obtain h | ⟨template, htemplate, h⟩ := bind_eq_error h
  · exact lacks_of_required ["driver"] _ rfl (by simpa using ⟨id, hdriver⟩) h
  have hurl := gives_of_required htemplate
  obtain h | ⟨username, husername, h⟩ := bind_eq_error h
  · exact lacks_of_required ["driver", "url"] _ rfl
      (by simpa using ⟨⟨id, hdriver⟩, template, hurl⟩) h
  have huser := gives_of_required husername
  obtain h | ⟨password, hpassword, h⟩ := bind_eq_error h
  · exact lacks_of_required ["driver", "url", "username"] _ rfl
      (by simpa using ⟨⟨id, hdriver⟩, ⟨template, hurl⟩, username, huser⟩) h
  have hgiven : ∀ given ∈ needed, ∃ value, p.Gives name given value := by
    simpa [needed] using
      ⟨⟨id, hdriver⟩, ⟨template, hurl⟩, ⟨username, huser⟩, password, gives_of_required hpassword⟩
  split at h
  · next e' hunknown =>
    cases h
    rw [DriverTable.driver_eq_error hunknown]
    refine .driver hgiven hdriver ?_
    rintro ⟨driver, hfound⟩
    rw [DriverTable.driver_eq_ok.2 hfound] at hunknown
    cases hunknown
  · next driver hfound =>
    obtain h | ⟨url, -, h⟩ := bind_eq_error h
    · have hopen : ¬Template.SlotsClosed 0 template.toList := by
        intro hslots
        obtain ⟨url, hok⟩ := connectionUrl_eq_ok.2 hslots
        rw [hok] at h
        cases h
      rw [connectionUrl] at h
      split at h
      · cases h
      · next flaw _ =>
        cases h
        exact .slot flaw hgiven hdriver ⟨driver, DriverTable.driver_eq_ok.1 hfound⟩ hurl hopen
    · cases h

theorem Lacks.isConfiguration (h : r.Lacks name p e) : e.isConfiguration = true := by
  cases h <;> rfl

theorem Lacks.eq_of_unknown {id : String} (h : r.Lacks name p e)
    (hgiven : ∀ given ∈ needed, ∃ value, p.Gives name given value)
    (hdriver : p.Gives name "driver" id) (hunknown : ¬r.drivers.Registered id) :
    e = .configurationFrom (.driverNotLoaded name id) (.configuration (.unknownDriver id)) := by
  cases h with
  | parameter before parameter after hneeded hbefore hmissing =>
    obtain ⟨value, hvalue⟩ := hgiven parameter (by simp [hneeded])
    exact absurd hvalue (hmissing value)
  | driver hgiven' hdriver' hunknown' => rw [hdriver'.eq hdriver]
  | slot flaw hgiven' hdriver' hregistered hurl hopen =>
    exact absurd (hdriver'.eq hdriver ▸ hregistered) hunknown

theorem loads_iff_complete (hclass : ∀ className, ¬p.Gives name "class" className) :
    (∃ d, (r.add name p).1 = .ok d) ↔ r.Complete name p := by
  rw [add_standard hclass, exists_map_eq_ok, StandardDatabase.resolve_eq_ok, resolves_iff_complete]

theorem lacks_of_add (hclass : ∀ className, ¬p.Gives name "class" className)
    (h : (r.add name p).1 = .error e) : r.Lacks name p e := by
  rw [add_standard hclass] at h
  cases hresolve : (pending name p).resolve r.drivers with
  | ok target =>
    rw [hresolve] at h
    cases h
  | error e' =>
    rw [hresolve] at h
    cases h
    exact lacks_of_resolve hresolve

/-- If it is the driver alone that is not there, the error has a cause. -/
theorem add_unknown_driver {id : String} (hclass : ∀ className, ¬p.Gives name "class" className)
    (hgiven : ∀ given ∈ needed, ∃ value, p.Gives name given value)
    (hdriver : p.Gives name "driver" id) (hunknown : ¬r.drivers.Registered id) :
    (r.add name p).1 = .error
      (.configurationFrom (.driverNotLoaded name id) (.configuration (.unknownDriver id))) := by
  cases h : (r.add name p).1 with
  | ok d =>
    obtain ⟨hdriver', -, -, -, hregistered, -⟩ := (loads_iff_complete hclass).1 ⟨d, h⟩
    exact absurd (hdriver'.eq hdriver ▸ hregistered) hunknown
  | error e => rw [(lacks_of_add hclass h).eq_of_unknown hgiven hdriver hunknown]

/-! ### Databases of a class -/

theorem add_unknown_class {className : String} (hclass : p.Gives name "class" className)
    (hfactory : r.factories.get? className = none) :
    (r.add name p).1 = .error (.configuration (.unknownClass className name)) := by
  rw [add_fst, prepare, create, Parameters.lookup?_eq_some.2 hclass]
  simp only [hfactory]
  rfl

theorem add_not_created {className : String} {factory : Factory}
    (hclass : p.Gives name "class" className) (hfactory : r.factories.get? className = some factory)
    (hfails : factory name = .error e) :
    (r.add name p).1 = .error (.configurationFrom (.notCreated name className) e) := by
  rw [add_fst, prepare, create, Parameters.lookup?_eq_some.2 hclass]
  simp only [hfactory, hfails]
  rfl

/-- **A database of no class loads exactly if nothing is missing.**  Otherwise the error is one of
the configuration, with a cause if it is the driver that is not found.  So is the error if there is
a class: without a cause if nobody knows it, and with one if its factory fails. -/
theorem standard_loads_iff (r : Registry) (name : String) (p : Parameters) :
    ((∀ className, ¬p.Gives name "class" className) →
      ((∃ d, (r.add name p).1 = .ok d) ↔ r.Complete name p) ∧
      (∀ e, (r.add name p).1 = .error e → r.Lacks name p e ∧ e.isConfiguration = true) ∧
      ∀ id, (∀ given ∈ needed, ∃ value, p.Gives name given value) →
        p.Gives name "driver" id → ¬r.drivers.Registered id →
        (r.add name p).1 = .error
          (.configurationFrom (.driverNotLoaded name id) (.configuration (.unknownDriver id)))) ∧
    (∀ className, p.Gives name "class" className →
      (r.factories.get? className = none →
        (r.add name p).1 = .error (.configuration (.unknownClass className name))) ∧
      ∀ factory e, r.factories.get? className = some factory → factory name = .error e →
        (r.add name p).1 = .error (.configurationFrom (.notCreated name className) e)) ∧
    ∀ id driver id', (r.registerDriver id driver).drivers.Registered id' ↔
      Text.lowered id' = Text.lowered id ∨ r.drivers.Registered id' := by
  refine ⟨fun hclass => ⟨loads_iff_complete hclass, fun e he => ?_, fun id hgiven => ?_⟩,
    fun className hclass => ⟨add_unknown_class hclass, ?_⟩, ?_⟩
  · have hlacks := lacks_of_add hclass he
    exact ⟨hlacks, hlacks.isConfiguration⟩
  · exact add_unknown_driver hclass hgiven
  · intro factory e hfactory hfails
    exact add_not_created hclass hfactory hfails
  · intro id driver id'
    exact DriverTable.registered_register

/-- A name with a dot, a driver in capitals under the qualified key, and a template with a sign and
blanks in its slot and a brace between quotes.  Under another name the driver is unknown, and a
class is known whose factory fails. -/
theorem standard_loads_iff_of_dotted_name :
    let fails : Factory := fun _ => .error (.other "no constructor")
    let r := (new .defaults).registerFactory "broken" fails
    let p : Parameters := .ofList
      [("settings.database.db.main.driver", "SQLITE"), ("driver", "oracle"),
        ("url", "db:\x7b +0\t\x7d''/'\x7bx'"), ("username", "ann"), ("password", ""),
        ("settings.database.odd.class", "broken")]
    r.Complete "db.main" p ∧
      (r.add "main" p).1 = .error
        (.configurationFrom (.driverNotLoaded "main" "oracle")
          (.configuration (.unknownDriver "oracle"))) ∧
      (r.add "odd" p).1 = .error
        (.configurationFrom (.notCreated "odd" "broken") (.other "no constructor")) := by
  intro fails r p
  have hdotted := (standard_loads_iff r "db.main" p).1 (Parameters.lookup?_eq_none.1 rfl)
  have hmain := (standard_loads_iff r "main" p).1 (Parameters.lookup?_eq_none.1 rfl)
  have hodd := (standard_loads_iff r "odd" p).2.1 "broken" (Parameters.lookup?_eq_some.1 rfl)
  refine ⟨hdotted.1.1 ⟨_, rfl⟩, hmain.2.2 "oracle" ?_ (Parameters.lookup?_eq_some.1 rfl) ?_,
    hodd.2 fails _ rfl rfl⟩
  · simp only [needed, List.forall_mem_cons, ← Parameters.lookup?_eq_some]
    exact ⟨⟨_, rfl⟩, ⟨_, rfl⟩, ⟨_, rfl⟩, ⟨_, rfl⟩, List.forall_mem_nil _⟩
  · rintro ⟨driver, hdriver⟩
    have hnone : r.drivers.drivers.get? (Text.lowered "oracle") = none := rfl
    rw [hnone] at hdriver
    cases hdriver

end Registry

end SqlAccess

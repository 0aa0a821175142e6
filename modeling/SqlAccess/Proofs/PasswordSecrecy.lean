/-
Where a password shows.

The text of a password goes into the connection string and into what a driver is asked for.  To see
that it shows nowhere else, the password and the connection string of a database are veiled, and
what is done to add a database is followed under the veil: it comes to the same, and it fails with
the same error.  The main statement is `Registry.password_unseen`, about two sets of parameters that
differ in one password only.
-/
import SqlAccess.Proofs.DatabaseLifecycle
import SqlAccess.Proofs.RegistryHistory
import SqlAccess.Proofs.TemplateArguments

namespace SqlAccess

namespace Parameters

/-- The key under which the password of a database is found. -/
def passwordKey (p : Parameters) (name : String) : String :=
  if p.contains (qualifiedKey name "password") then qualifiedKey name "password" else "password"

/-- Parameters that differ in the text of the password of one database and in nothing else. -/
structure DifferInPassword (name : String) (p p' : Parameters) : Prop where
  present : p.contains (p.passwordKey name) = true
  present' : p'.contains (p.passwordKey name) = true
  others : ∀ k ≠ p.passwordKey name, p'.get? k = p.get? k

variable {name : String} {p p' : Parameters}

/-- Whatever is looked up besides the password is the same. -/
theorem DifferInPassword.lookup?_eq (h : DifferInPassword name p p') {parameter : String}
    (hpassword : parameter ≠ "password") (hinitial : parameter.toList.head? ≠ some 's') :
    p'.lookup? name parameter = p.lookup? name parameter := by
  have hqualified : qualifiedKey name parameter ≠ p.passwordKey name := by
    rw [passwordKey]
    split
    · exact fun heq => hpassword (qualifiedKey_inj heq)
    · exact qualifiedKey_ne (by decide) name parameter
  have hbare : parameter ≠ p.passwordKey name := by
    rw [passwordKey]
    split
    · exact (qualifiedKey_ne hinitial name "password").symm
    · exact hpassword
  rw [lookup?, lookup?, h.others _ hqualified, h.others _ hbare]

theorem lookup?_password (p : Parameters) (name : String) :
    p.lookup? name "password" = p.get? (p.passwordKey name) := by
  rw [lookup?, passwordKey, Dict.contains]
  cases h : p.get? (qualifiedKey name "password") with
  | none => rfl
  | some text => exact h.symm

theorem DifferInPassword.passwordKey_eq (h : DifferInPassword name p p') :
    p'.passwordKey name = p.passwordKey name := by
  have hpresent' := h.present'
  have hothers := h.others (qualifiedKey name "password")
  rw [passwordKey] at hpresent' hothers ⊢
  rw [passwordKey]
  split at hpresent'
  · next hqualified => rw [if_pos hqualified, if_pos hpresent']
  · next hbare =>
    rw [if_neg hbare] at hothers ⊢
    have hsame := hothers (qualifiedKey_ne (by decide) name "password")
    rw [Dict.contains, hsame]
    exact if_neg hbare

theorem DifferInPassword.password (h : DifferInPassword name p p') :
    (p.lookup? name "password").isSome = true ∧ (p'.lookup? name "password").isSome = true := by
  rw [lookup?_password, lookup?_password, h.passwordKey_eq]
  exact ⟨h.present, h.present'⟩

end Parameters

/-! ### The veil -/

/-- The settings with no text for the password. -/
def Settings.veiled (s : Settings) : Settings := { s with password := s.password.map fun _ => "" }

/-- The target without the connection string. -/
def Target.veiled (t : Target) : Target := { t with url := "" }

/-- The database with the password and the connection string veiled. -/
def StandardDatabase.veiled (d : StandardDatabase) : StandardDatabase :=
  { d with settings := d.settings.veiled, resolvedUrl := d.resolvedUrl.map fun _ => "" }

/-- The texts in which a standard database is shown. -/
def StandardDatabase.texts (d : StandardDatabase) : List String :=
  [d.settings.inspect, d.inspect, d.describe]

/-- The texts in which a database is shown. -/
def Database.texts (d : Database) : List String := [d.settings.inspect, d.description]

/-- The connection string that a database asks its driver for. -/
def Database.url? (d : Database) : Option String :=
  match d.access with
  | .asks _ request _ => some request.url
  | .refuses _ => none

/-- With these parameters a database of the name is a standard one: its class, if there is any,
makes standard databases or none. -/
def Registry.MakesStandard (r : Registry) (name : String) (p : Parameters) : Prop :=
  ∀ draft, r.create name p = .ok draft → draft = StandardDatabase.draft name

theorem Settings.inspect_veiled (s : Settings) : s.veiled.inspect = s.inspect := by
  rw [inspect, inspect, veiled, Option.map_map]
  rfl

theorem connectionUrl_veiled (template : String) (args args' : List String) (driver : Driver) :
    ((connectionUrl template args').map (Target.mk driver)).map Target.veiled =
      ((connectionUrl template args).map (Target.mk driver)).map Target.veiled := by
  rw [Template.connectionUrl_eq_fill, Template.connectionUrl_eq_fill]
  cases Template.parse template <;> rfl

namespace StandardDatabase

theorem texts_veiled (d : StandardDatabase) : d.veiled.texts = d.texts := by
  have hinitialized : d.veiled.isInitialized = d.isInitialized := Option.isSome_map
  rw [texts, texts, inspect, inspect, hinitialized]
  show [d.settings.veiled.inspect, _, _] = _
  rw [veiled, d.settings.inspect_veiled]
  rfl

/-- Whether a database resolves, and to which driver, does not depend on what is veiled. -/
theorem resolve_veiled (d : StandardDatabase) (drivers : DriverTable) :
    (d.veiled.resolve drivers).map Target.veiled = (d.resolve drivers).map Target.veiled := by
  rw [resolve, resolve]
  refine map_bind_congr fun id => map_bind_congr fun template => map_bind_congr fun username => ?_
  show ((d.required "password" (d.settings.password.map fun _ => "")) >>= _).map Target.veiled = _
  cases d.settings.password with
  | none => rfl
  | some password =>
    -- the password is there in both, and the template is taken apart before it is looked at
    generalize drivers.driver id = found
    cases found with
    | error e => rfl
    | ok driver => exact connectionUrl_veiled template _ _ driver

/-- Under the veil a draft becomes the same of two settings that differ in the password. -/
theorem draft_veiled (name : String) {settings settings' : Settings} (drivers : DriverTable)
    (h : settings'.veiled = settings.veiled) :
    (∃ d d' : StandardDatabase, draft name settings drivers = .ok d.toDatabase ∧
        draft name settings' drivers = .ok d'.toDatabase ∧ d'.veiled = d.veiled) ∨
      ∃ e, draft name settings drivers = .error e ∧ draft name settings' drivers = .error e := by
  have hresolve : ((withSettings name settings').resolve drivers).map Target.veiled =
      ((withSettings name settings).resolve drivers).map Target.veiled := by
    have hveiled : (withSettings name settings').veiled = (withSettings name settings).veiled :=
      congrArg (fun settings => (withSettings name settings)) h
    rw [← resolve_veiled, hveiled, resolve_veiled]
  rw [draft_eq, draft_eq]
  obtain ⟨target, target', ht, ht', htarget⟩ | ⟨e, ht, ht'⟩ := cases_of_map_eq hresolve
  · rw [ht, ht']
    refine .inl ⟨_, _, rfl, rfl, ?_⟩
    have hdriver : target'.driver = target.driver := (Target.mk.inj htarget).1
    show mk name settings'.veiled (some target'.driver) (some "") =
      mk name settings.veiled (some target.driver) (some "")
    rw [h, hdriver]
  · rw [ht, ht']
    exact .inr ⟨e, rfl, rfl⟩

end StandardDatabase

namespace Registry

variable {name : String} {p p' : Parameters}

theorem settings_veiled (h : p.DifferInPassword name p') :
    (Settings.ofParameters name p').veiled = (Settings.ofParameters name p).veiled := by
  obtain ⟨hpassword, hpassword'⟩ := h.password
  obtain ⟨text, htext⟩ := Option.isSome_iff_exists.1 hpassword
  obtain ⟨text', htext'⟩ := Option.isSome_iff_exists.1 hpassword'
  rw [Settings.ofParameters, Settings.ofParameters, Settings.veiled, Settings.veiled, htext, htext',
    h.lookup?_eq (by decide) (by decide), h.lookup?_eq (by decide) (by decide),
    h.lookup?_eq (by decide) (by decide), h.lookup?_eq (by decide) (by decide)]
  rfl

/-- Without a class every database is a standard database. -/
theorem makesStandard_of_no_class {r : Registry} (h : p.lookup? name "class" = none) :
    r.MakesStandard name p := by
  intro draft hdraft
  rw [create, h] at hdraft
  cases hdraft
  rfl

theorem prepare_veiled (h : p.DifferInPassword name p') {r : Registry}
    (hstandard : r.MakesStandard name p) :
    (∃ d d' : StandardDatabase, r.prepare name p = .ok d.toDatabase ∧
        r.prepare name p' = .ok d'.toDatabase ∧ d'.veiled = d.veiled) ∨
      ∃ e, r.prepare name p = .error e ∧ r.prepare name p' = .error e := by
  have hcreate' : r.create name p' = r.create name p := by
    rw [create, create, h.lookup?_eq (by decide) (by decide)]
  rw [prepare, prepare, hcreate']
  cases hcreate : r.create name p with
  | error e => exact .inr ⟨e, rfl, rfl⟩
  | ok draft =>
    obtain rfl := hstandard draft hcreate
    exact StandardDatabase.draft_veiled name r.drivers (settings_veiled h)

/-- **The password shows nowhere.**  Of two sets of parameters that differ in the text of one
password, either both add a standard database or both fail, with the same error.  Afterwards neither
the databases nor the registry can be told apart by the texts in which they are shown, and the
databases that were added are the same but for the password and the connection string. -/
theorem password_unseen (h : p.DifferInPassword name p') {r : Registry}
    (hstandard : r.MakesStandard name p) :
    let a := r.add name p
    let b := r.add name p'
    ((∃ d d' : StandardDatabase, a.1 = .ok d.toDatabase ∧ b.1 = .ok d'.toDatabase ∧
          d'.veiled = d.veiled ∧ d'.texts = d.texts) ∨
        ∃ e, a.1 = .error e ∧ b.1 = .error e) ∧
      (∀ n, (b.2.database? n).map Database.texts = (a.2.database? n).map Database.texts) ∧
      b.2.names = a.2.names ∧ b.2.inspect = a.2.inspect := by
  intro a b
  obtain ⟨d, d', hp, hp', hveiled⟩ | ⟨e, hp, hp'⟩ := prepare_veiled h hstandard
  · have htexts : d'.texts = d.texts := by rw [← d'.texts_veiled, hveiled, d.texts_veiled]
    have hshown : d'.toDatabase.texts = d.toDatabase.texts := by
      obtain ⟨hsettings, hrest⟩ := List.cons.inj htexts
      obtain ⟨-, hdescribe⟩ := List.cons.inj hrest
      show d'.settings.inspect :: [d'.describe] = d.settings.inspect :: [d.describe]
      rw [hsettings, hdescribe]
    have ha : a = _ := add_of_ok hp
    have hb : b = _ := add_of_ok hp'
    have hnames : b.2.names = a.2.names := by
      rw [ha, hb]
      exact Dict.keys_insert r.databases name d.toDatabase d'.toDatabase
    have hinspect : b.2.inspect = a.2.inspect := by
      rw [inspect, inspect, hnames, ha, hb]
    refine ⟨.inl ⟨d, d', by rw [ha], by rw [hb], hveiled, htexts⟩, fun n => ?_, hnames, hinspect⟩
    rw [ha, hb]
    show ((r.databases.insert name d'.toDatabase).get? n).map _ =
      ((r.databases.insert name d.toDatabase).get? n).map _
    rw [Dict.get?_insert, Dict.get?_insert]
    split
    · exact congrArg some hshown
    · rfl
  · have hsame : b = a := (add_of_error hp').trans (add_of_error hp).symm
    have ha : a.1 = .error e := congrArg Prod.fst (add_of_error hp)
    rw [hsame]
    exact ⟨.inr ⟨e, ha, ha⟩, fun n => rfl, rfl, rfl⟩

/-- Two passwords with braces and quotes, of a database that has one under its own key. -/
theorem password_unseen_of_main :
    let p : Parameters := .ofList
      [("driver", "sqlite"), ("password", "shared"), ("url", "db:\x7b0\x7d?\x7b2\x7d"),
        ("username", "ann"), ("settings.database.main.password", "a\x7b0")]
    let p' : Parameters := p.insert "settings.database.main.password" "'7\x7d'"
    let a := (new .defaults).add "main" p
    let b := (new .defaults).add "main" p'
    p.DifferInPassword "main" p' ∧ (new .defaults).MakesStandard "main" p ∧
      a.2.names = ["main"] ∧
      ((a.2.database? "main").bind Database.url? = some "db:main?a\x7b0" ∧
        (b.2.database? "main").bind Database.url? = some "db:main?'7\x7d'") ∧
      b.2.inspect = a.2.inspect := by
  intro p p' a b
  have hdiffer : p.DifferInPassword "main" p' := by
    refine ⟨by decide +kernel, by decide +kernel, fun k hk => ?_⟩
    have hkey : p.passwordKey "main" = "settings.database.main.password" := by decide +kernel
    rw [hkey] at hk
    exact (Dict.get?_insert p _ _ k).trans (if_neg hk)
  have hstandard : (new .defaults).MakesStandard "main" p := makesStandard_of_no_class rfl
  exact ⟨hdiffer, hstandard, by decide +kernel, by decide +kernel,
    (password_unseen hdiffer hstandard).2.2.2⟩

end Registry

end SqlAccess

/-
The life of a database.

A database is configured, initialized and asked for connections in any order, while drivers come and
go under their identifiers.  Initialization resolves the driver and the connection string, and it
does so once: `Database.resolved_once` says that one call of `init` succeeds at most, that a call
that fails leaves everything as it was, and that every connection is asked of the driver and with
the request that the one successful call resolved, whatever is registered since.
-/
import SqlAccess.Database

namespace SqlAccess

/-- A database, the drivers that are registered, and the session of its connections. -/
structure Deployment where
  database : StandardDatabase
  drivers : DriverTable
  session : Session

namespace Deployment

/-- A call to a database or its drivers. -/
inductive Act where
  | configure (settings : Settings)
  | init
  | connect
  | register (id : String) (driver : Driver)

inductive Answer where
  | done
  | initialized (result : Result Unit)
  | connected (result : Result Connection)

/-- Whether a call has initialized the database. -/
def Answer.initializes : Answer → Bool
  | .initialized (.ok ()) => true
  | _ => false

def step (x : Deployment) : Act → Answer × Deployment
  | .configure settings => (.done, { x with database := x.database.configure settings })
  | .init =>
    let (answer, d) := x.database.init x.drivers
    (.initialized answer, { x with database := d })
  | .connect =>
    let (answer, s) := x.database.toDatabase.connect x.session
    (.connected answer, { x with session := s })
  | .register id driver => (.done, { x with drivers := x.drivers.register id driver })

def run (x : Deployment) : List Act → List Answer × Deployment
  | [] => ([], x)
  | act :: rest => ((x.step act).1 :: ((x.step act).2.run rest).1, ((x.step act).2.run rest).2)

/-- The driver that a call registers under an identifier, in any case of its letters. -/
def Act.registers? (id : String) : Act → Option Driver
  | .register id' driver => if Text.lowered id = Text.lowered id' then some driver else none
  | _ => none

/-- The driver that was registered last under an identifier. -/
def registered? (id : String) (acts : List Act) : Option Driver :=
  acts.reverse.findSome? (Act.registers? id)

end Deployment

theorem DriverTable.driver_eq_ok {t : DriverTable} {id : String} {driver : Driver} :
    t.driver id = .ok driver ↔ t.drivers.get? (Text.lowered id) = some driver := by
  rw [DriverTable.driver]
  cases t.drivers.get? (Text.lowered id) <;> simp

theorem DriverTable.driver_eq_error {t : DriverTable} {id : String} {e : Error}
    (h : t.driver id = .error e) : e = .configuration (.unknownDriver id) := by
  rw [DriverTable.driver] at h
  split at h
  · cases h
  · exact (Except.error.inj h).symm

namespace StandardDatabase

/-- The driver and the request that the settings of a database come to with these drivers. -/
inductive Resolves (d : StandardDatabase) (drivers : DriverTable) : Driver → ConnectRequest → Prop
  | intro {id template username password url : String} {driver : Driver}
    (hid : d.settings.driver = some id) (htemplate : d.settings.url = some template)
    (husername : d.settings.username = some username)
    (hpassword : d.settings.password = some password)
    (hdriver : drivers.drivers.get? (Text.lowered id) = some driver)
    (hurl : connectionUrl template [d.name, username, password] = .ok url) :
    Resolves d drivers driver ⟨url, some username, some password⟩

/-- The errors of initialization. -/
inductive InitError (name : String) : Error → Prop
  | missing (parameter : String) :
    InitError name (.configuration (.missingParameter name parameter))
  | unknownDriver (id : String) :
    InitError name
      (.configurationFrom (.driverNotLoaded name id) (.configuration (.unknownDriver id)))
  | malformed (template : String) (flaw : TemplateFlaw) :
    InitError name (.configuration (.malformedTemplate template flaw))
  | again : InitError name (.configuration (.alreadyInitialized name))

variable {d : StandardDatabase} {drivers : DriverTable} {e : Error}

/-! ### Initialization -/

theorem required_eq_ok {parameter text : String} {value : Option String} :
    d.required parameter value = .ok text ↔ value = some text := by
  cases value with
  | none => exact ⟨nofun, nofun⟩
  | some s => simp [required]

theorem required_eq_error {parameter : String} {value : Option String} :
    d.required parameter value = .error e ↔
      value = none ∧ e = .configuration (.missingParameter d.name parameter) := by
  cases value with
  | none => simp [required, eq_comm]
  | some s => simp [required]

theorem initError_of_required {parameter : String} {value : Option String}
    (h : d.required parameter value = .error e) : InitError d.name e := by
  obtain ⟨-, rfl⟩ := required_eq_error.1 h
  exact .missing parameter

theorem connectionUrl_eq_error {template name : String} {args : List String}
    (h : connectionUrl template args = .error e) : InitError name e := by
  rw [connectionUrl] at h
  split at h
  · cases h
  · cases h
    exact .malformed template _

theorem resolve_of_resolves {driver : Driver} {request : ConnectRequest}
    (h : d.Resolves drivers driver request) : d.resolve drivers = .ok ⟨driver, request.url⟩ := by
  obtain ⟨hid, htemplate, husername, hpassword, hdriver, hurl⟩ := h
  simp only [resolve, bind, Except.bind, required_eq_ok.2 hid, required_eq_ok.2 htemplate,
    required_eq_ok.2 husername, required_eq_ok.2 hpassword,
    DriverTable.driver_eq_ok.2 hdriver, hurl]
  rfl

theorem resolves_of_resolve {target : Target} (h : d.resolve drivers = .ok target) :
    d.Resolves drivers target.driver ⟨target.url, d.settings.username, d.settings.password⟩ := by
  rw [resolve] at h
  obtain ⟨id, hid, h⟩ := bind_eq_ok h
  obtain ⟨template, htemplate, h⟩ := bind_eq_ok h
  obtain ⟨username, husername, h⟩ := bind_eq_ok h
  obtain ⟨password, hpassword, h⟩ := bind_eq_ok h
  split at h
  · cases h
  · next driver hdriver =>
    obtain ⟨url, hurl, h⟩ := bind_eq_ok h
    cases h
    rw [required_eq_ok.1 husername, required_eq_ok.1 hpassword]
    exact ⟨required_eq_ok.1 hid, required_eq_ok.1 htemplate, required_eq_ok.1 husername,
      required_eq_ok.1 hpassword, DriverTable.driver_eq_ok.1 hdriver, hurl⟩

theorem resolve_eq_error (h : d.resolve drivers = .error e) : InitError d.name e := by
  rw [resolve] at h
  obtain h | ⟨id, -, h⟩ := bind_eq_error h
  · exact initError_of_required h
  obtain h | ⟨template, -, h⟩ := bind_eq_error h
  · exact initError_of_required h
  obtain h | ⟨username, -, h⟩ := bind_eq_error h
  · exact initError_of_required h
  obtain h | ⟨password, -, h⟩ := bind_eq_error h
  · exact initError_of_required h
  split at h
  · next e' hdriver =>
    cases h
    rw [DriverTable.driver_eq_error hdriver]
    exact .unknownDriver id
  · obtain h | ⟨url, -, h⟩ := bind_eq_error h
    · exact connectionUrl_eq_error h
    · cases h

theorem init_of_url_none (drivers : DriverTable) (hurl : d.resolvedUrl = none) :
    d.init drivers =
      match d.resolve drivers with
      | .ok target => (.ok (), d.settled target)
      | .error e => (.error e, d) := by
  have hnot : ¬d.isInitialized = true := by rw [isInitialized, hurl]; exact nofun
  rw [init]
  exact if_neg hnot

theorem init_of_url {url : String} (drivers : DriverTable) (hurl : d.resolvedUrl = some url) :
    d.init drivers = (.error (.configuration (.alreadyInitialized d.name)), d) := by
  have hinit : d.isInitialized = true := by rw [isInitialized, hurl]; rfl
  rw [init, if_pos hinit]

theorem resolvedUrl_settled (target : Target) (hurl : d.resolvedUrl = none) :
    (d.settled target).resolvedUrl = some target.url := by
  rw [settled, fixUrl, setDriver, hurl]
  rfl

/-- What `init` can do to a database that is not initialized. -/
theorem init_cases (drivers : DriverTable) (hurl : d.resolvedUrl = none) :
    (∃ driver request, d.Resolves drivers driver request ∧
        d.init drivers = (.ok (), d.settled ⟨driver, request.url⟩)) ∨
      ∃ e, InitError d.name e ∧ d.init drivers = (.error e, d) := by
  rw [init_of_url_none drivers hurl]
  cases h : d.resolve drivers with
  | ok target => exact .inl ⟨_, _, resolves_of_resolve h, rfl⟩
  | error e => exact .inr ⟨e, resolve_eq_error h, rfl⟩

/-- An initialization that fails leaves the database as it was. -/
theorem init_error (h : (d.init drivers).1 = .error e) :
    InitError d.name e ∧ (d.init drivers).2 = d := by
  cases hurl : d.resolvedUrl with
  | none =>
    obtain ⟨driver, request, -, hinit⟩ | ⟨e', he', hinit⟩ := init_cases drivers hurl
    · rw [hinit] at h
      cases h
    · rw [hinit] at h ⊢
      cases h
      exact ⟨he', rfl⟩
  | some url =>
    rw [init_of_url drivers hurl] at h ⊢
    cases h
    exact ⟨.again, rfl⟩

/-- What a draft becomes is settled by what its settings come to. -/
theorem draft_eq (name : String) (settings : Settings) (drivers : DriverTable) :
    draft name settings drivers =
      ((withSettings name settings).resolve drivers).map fun target =>
        ((withSettings name settings).settled target).toDatabase := by
  have hnew : (new name).configure settings = withSettings name settings := rfl
  rw [draft, hnew, init_of_url_none drivers rfl]
  cases (withSettings name settings).resolve drivers <;> rfl

/-! ### Connections -/

theorem access_of_url_none (hurl : d.resolvedUrl = none) :
    d.access = .refuses (.configuration (.notInitialized d.name)) := by
  rw [access, hurl]
  cases d.driver <;> rfl

theorem access_of_url {driver : Driver} {url : String} (hdriver : d.driver = some driver)
    (hurl : d.resolvedUrl = some url) :
    d.access = .asks driver ⟨url, d.settings.username, d.settings.password⟩
      (.connectionFailed d.name) := by
  rw [access, hdriver, hurl]

end StandardDatabase

namespace Deployment

open StandardDatabase

/-! ### One call -/

/-- A database that no call has initialized: its drivers have not been asked for anything. -/
structure Pending (name : String) (s : Session) (x : Deployment) : Prop where
  name : x.database.name = name
  url : x.database.resolvedUrl = none
  session : x.session = s

structure Settled (name : String) (target : Target) (x : Deployment) : Prop where
  name : x.database.name = name
  driver : x.database.driver = some target.driver
  url : x.database.resolvedUrl = some target.url

variable {x : Deployment} {name : String} {s : Session} {target : Target}

theorem Pending.connect (h : x.Pending name s) :
    x.step .connect = (.connected (.error (.configuration (.notInitialized name))), x) := by
  have haccess : x.database.toDatabase.access = .refuses (.configuration (.notInitialized name)) :=
    h.name ▸ access_of_url_none h.url
  rw [step, Database.connect, haccess]

theorem Pending.step (h : x.Pending name s) (act : Act) :
    ((x.step act).1.initializes = false ∧ (x.step act).2.Pending name s) ∨
      ((x.step act).1.initializes = true ∧ act = .init ∧
        ∃ driver request, x.database.Resolves x.drivers driver request ∧
          (x.step act).2.Settled name ⟨driver, request.url⟩ ∧
          (x.step act).2.database.settings = x.database.settings) := by
  cases act with
  | configure settings => exact .inl ⟨rfl, h.name, h.url, h.session⟩
  | register id driver => exact .inl ⟨rfl, h.name, h.url, h.session⟩
  | connect =>
    rw [h.connect]
    exact .inl ⟨rfl, h⟩
  | init =>
    rw [Deployment.step]
    obtain ⟨driver, request, hresolves, hinit⟩ | ⟨e, -, hinit⟩ :=
      init_cases x.drivers h.url
    · rw [hinit]
      exact .inr ⟨rfl, rfl, driver, request, hresolves,
        ⟨h.name, rfl, resolvedUrl_settled _ h.url⟩, rfl⟩
    · rw [hinit]
      exact .inl ⟨rfl, h⟩

theorem Settled.step (h : x.Settled name target) (act : Act) :
    (x.step act).1.initializes = false ∧ (x.step act).2.Settled name target ∧
      ((∀ settings, act ≠ .configure settings) →
        (x.step act).2.database.settings = x.database.settings) := by
  cases act with
  | configure settings =>
    exact ⟨rfl, ⟨h.name, h.driver, h.url⟩, fun hact => absurd rfl (hact settings)⟩
  | register id driver => exact ⟨rfl, ⟨h.name, h.driver, h.url⟩, fun _ => rfl⟩
  | connect => exact ⟨rfl, ⟨h.name, h.driver, h.url⟩, fun _ => rfl⟩
  | init =>
    rw [Deployment.step, init_of_url _ h.url]
    exact ⟨rfl, h, fun _ => rfl⟩

/-- A call of `init` that fails changes nothing. -/
theorem init_error {e : Error} (h : (x.step .init).1 = .initialized (.error e)) :
    InitError x.database.name e ∧ (x.step .init).2 = x := by
  obtain ⟨hkind, hsame⟩ := StandardDatabase.init_error (Answer.initialized.inj h)
  refine ⟨hkind, ?_⟩
  rw [step]
  simp only [hsame]

/-! ### Calls in a row -/

theorem run_append (x : Deployment) (before after : List Act) :
    x.run (before ++ after) =
      ((x.run before).1 ++ ((x.run before).2.run after).1, ((x.run before).2.run after).2) := by
  induction before generalizing x with
  | nil => rfl
  | cons act before ih => simp only [List.cons_append, run, ih]

/-- How often a run initializes the database. -/
def initializations (x : Deployment) (acts : List Act) : Nat :=
  (x.run acts).1.countP Answer.initializes

theorem initializations_cons (x : Deployment) (act : Act) (acts : List Act) :
    x.initializations (act :: acts) =
      (x.step act).2.initializations acts + if (x.step act).1.initializes then 1 else 0 := by
  rw [initializations, run, List.countP_cons]
  rfl

theorem Settled.run (h : x.Settled name target) (acts : List Act) :
    x.initializations acts = 0 ∧ (x.run acts).2.Settled name target ∧
      ((∀ settings, .configure settings ∉ acts) →
        (x.run acts).2.database.settings = x.database.settings) := by
  induction acts generalizing x with
  | nil => exact ⟨rfl, h, fun _ => rfl⟩
  | cons act acts ih =>
    obtain ⟨hanswer, hstep, hsettings⟩ := h.step act
    obtain ⟨hcount, hrun, hrest⟩ := ih hstep
    refine ⟨?_, hrun, fun hconfigure => ?_⟩
    · rw [initializations_cons, hcount, hanswer]
      rfl
    · refine (hrest fun settings hmem => hconfigure settings (.tail _ hmem)).trans
        (hsettings fun settings hact => hconfigure settings ?_)
      rw [hact]
      exact .head _

/-- A run initializes the database once or not at all. -/
theorem Pending.run (h : x.Pending name s) (acts : List Act) :
    (x.initializations acts = 0 ∧ (x.run acts).2.Pending name s) ∨
      (x.initializations acts = 1 ∧ ∃ target, (x.run acts).2.Settled name target) := by
  induction acts generalizing x with
  | nil => exact .inl ⟨rfl, h⟩
  | cons act acts ih =>
    rw [initializations_cons]
    obtain ⟨hanswer, hstep⟩ | ⟨hanswer, -, driver, request, -, hstep, -⟩ := h.step act
    · rw [hanswer]
      exact ih hstep
    · -- whatever comes after, the database stays initialized
      obtain ⟨hcount, hrun, -⟩ := hstep.run acts
      rw [hanswer, hcount]
      exact .inr ⟨rfl, _, hrun⟩

/-- Settings that resolve can be set and initialized. -/
theorem Pending.corrected (h : x.Pending name s) {settings : Settings} {driver : Driver}
    {request : ConnectRequest}
    (hresolves : (x.database.configure settings).Resolves x.drivers driver request) :
    (x.run [.configure settings, .init]).1 = [.done, .initialized (.ok ())] := by
  have hinit := init_of_url_none (d := x.database.configure settings) x.drivers h.url
  rw [resolve_of_resolves hresolves] at hinit
  simp only [Deployment.run, Deployment.step, hinit]

theorem get?_drivers_step (x : Deployment) (act : Act) (id : String) :
    (x.step act).2.drivers.drivers.get? (Text.lowered id) =
      (act.registers? id).or (x.drivers.drivers.get? (Text.lowered id)) := by
  cases act with
  | configure settings => rfl
  | connect => rfl
  | init => rfl
  | register id' driver =>
    rw [Act.registers?]
    refine (Dict.get?_insert _ _ _ _).trans ?_
    split <;> rfl

/-- The drivers are those that were registered last. -/
theorem get?_drivers_run (x : Deployment) (acts : List Act) (id : String) :
    (x.run acts).2.drivers.drivers.get? (Text.lowered id) =
      (registered? id acts).or (x.drivers.drivers.get? (Text.lowered id)) := by
  induction acts generalizing x with
  | nil => rfl
  | cons act acts ih =>
    have hlast : registered? id (act :: acts) = (registered? id acts).or (act.registers? id) := by
      rw [registered?, List.reverse_cons, List.findSome?_append, List.findSome?_singleton]
      rfl
    rw [run, ih, get?_drivers_step, hlast, Option.or_assoc]

/-- An initialized database asks its driver for every connection. -/
theorem Settled.connect (h : x.Settled name target) :
    let request : ConnectRequest :=
      ⟨target.url, x.database.settings.username, x.database.settings.password⟩
    x.step .connect =
      (.connected ((x.session.connect target.driver request).1.mapError (.connectionFailed name)),
        { x with session := (x.session.connect target.driver request).2 }) := by
  intro request
  have haccess : x.database.toDatabase.access =
      .asks target.driver request (.connectionFailed name) :=
    h.name ▸ access_of_url h.driver h.url
  rw [Deployment.step, Database.connect, haccess]
  simp only
  rcases x.session.connect target.driver request with ⟨e | c, s⟩ <;> rfl

/-- What the successful call of `init` resolves is what connections are asked for ever after. -/
theorem connect_after_init {before after : List Act} (h : x.Pending name s)
    (hinit : ((x.run before).2.step .init).1 = .initialized (.ok ()))
    (hafter : ∀ settings, .configure settings ∉ after) :
    ∃ driver request,
      (x.run before).2.database.Resolves (x.run before).2.drivers driver request ∧
      let y := (x.run (before ++ .init :: after)).2
      y.step .connect =
        (.connected ((y.session.connect driver request).1.mapError (.connectionFailed name)),
          { y with session := (y.session.connect driver request).2 }) := by
  have hanswer : ((x.run before).2.step .init).1.initializes = true := by rw [hinit]; rfl
  obtain ⟨-, hpending⟩ | ⟨-, target, hsettled⟩ := h.run before
  · obtain ⟨hnot, -⟩ | ⟨-, -, driver, request, hresolves, hsettled, hsettings⟩ :=
      hpending.step .init
    · rw [hanswer] at hnot
      cases hnot
    · obtain ⟨-, hrun, hkept⟩ := hsettled.run after
      refine ⟨driver, request, hresolves, ?_⟩
      rw [run_append]
      intro y
      have hrequest : (⟨request.url, y.database.settings.username,
          y.database.settings.password⟩ : ConnectRequest) = request := by
        have hsame : y.database.settings = (x.run before).2.database.settings :=
          (hkept hafter).trans hsettings
        obtain ⟨-, -, husername, hpassword, -, -⟩ := hresolves
        rw [hsame, husername, hpassword]
      have hconnect := Settled.connect (x := y) hrun
      rw [hrequest] at hconnect
      exact hconnect
  · rw [(hsettled.step .init).1] at hanswer
    cases hanswer

end Deployment

/-- **A database resolves its connection exactly once.**  In every run of calls `init` succeeds
once at most, and a call that fails changes nothing.  As long as none has succeeded no driver is
asked for anything, and settings that resolve can still be set and initialized.  After one has, and
without other settings since, every connection is asked of the driver and with the request that the
settings came to then; and the driver is the one that was then registered last. -/
theorem Database.resolved_once (name : String) (settings : Settings) (drivers : DriverTable)
    (s : Session) (acts : List Deployment.Act) :
    let start : Deployment := ⟨.withSettings name settings, drivers, s⟩
    let x := (start.run acts).2
    start.initializations acts ≤ 1 ∧
      (∀ e, (x.step .init).1 = .initialized (.error e) →
        StandardDatabase.InitError name e ∧ (x.step .init).2 = x) ∧
      (start.initializations acts = 0 →
        x.session = s ∧
          x.step .connect = (.connected (.error (.configuration (.notInitialized name))), x) ∧
          ∀ corrected driver request,
            (x.database.configure corrected).Resolves x.drivers driver request →
              (x.run [.configure corrected, .init]).1 = [.done, .initialized (.ok ())]) ∧
      (∀ before after, acts = before ++ .init :: after →
        ((start.run before).2.step .init).1 = .initialized (.ok ()) →
        (∀ settings, .configure settings ∉ after) →
          ∃ driver request,
            (start.run before).2.database.Resolves (start.run before).2.drivers driver request ∧
            x.step .connect =
              (.connected ((x.session.connect driver request).1.mapError (.connectionFailed name)),
                { x with session := (x.session.connect driver request).2 })) ∧
      ∀ id, x.drivers.drivers.get? (Text.lowered id) =
        (Deployment.registered? id acts).or (drivers.drivers.get? (Text.lowered id)) := by
  intro start x
  have hstart : start.Pending name s := ⟨rfl, rfl, rfl⟩
  have hrun := hstart.run acts
  refine ⟨?_, fun e he => ?_, fun hnone => ?_, ?_, start.get?_drivers_run acts⟩
  · rcases hrun with ⟨h, -⟩ | ⟨h, -⟩
    · exact h ▸ Nat.zero_le 1
    · exact h ▸ Nat.le_refl 1
  · have hname : x.database.name = name := by
      rcases hrun with ⟨-, h⟩ | ⟨-, target, h⟩
      · exact h.name
      · exact h.name
    exact hname ▸ Deployment.init_error he
  · obtain ⟨-, hpending⟩ | ⟨hone, -⟩ := hrun
    · exact ⟨hpending.session, hpending.connect, fun _ _ _ => hpending.corrected⟩
    · rw [hone] at hnone
      cases hnone
  · rintro before after rfl hinit hafter
    exact Deployment.connect_after_init hstart hinit hafter

/-- The first call of `init` finds no driver.  The second finds one that is replaced afterwards, and
connections are still asked of it. -/
theorem Database.resolved_once_of_late_driver :
    let settings : Settings :=
      ⟨some "Recording", some "db:\x7b0\x7d", some "ann", some "", none⟩
    let script : Script := ⟨.generic, 1, fun _ _ => false, fun _ => none⟩
    let start : Deployment := ⟨.withSettings "main" settings, .empty, .start script []⟩
    let before : List Deployment.Act := [.connect, .init, .register "RECORDING" .scripted]
    let after : List Deployment.Act := [.register "recording" .refusing, .init]
    let x := (start.run (before ++ .init :: after)).2
    start.initializations before = 0 ∧
      ((start.run before).2.step .init).1 = .initialized (.ok ()) ∧
      x.drivers.drivers.get? "recording" = some .refusing ∧
      x.database.driver = some .scripted ∧ x.database.resolvedUrl = some "db:main" ∧
      ∃ driver request,
        (start.run before).2.database.Resolves (start.run before).2.drivers driver request ∧
        x.step .connect =
          (.connected ((x.session.connect driver request).1.mapError (.connectionFailed "main")),
            { x with session := (x.session.connect driver request).2 }) := by
  intro settings script start before after x
  have hinit : ((start.run before).2.step .init).1 = .initialized (.ok ()) := rfl
  refine ⟨by decide +kernel, hinit, by decide +kernel, by decide +kernel, by decide +kernel, ?_⟩
  have honce := resolved_once "main" settings .empty (.start script []) (before ++ .init :: after)
  exact honce.2.2.2.1 before after rfl hinit (by simp [after])

end SqlAccess

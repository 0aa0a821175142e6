/-
Databases: named places to connect to.

A database in service has settings, describes itself and hands out connections.  What
it does for a connection is its own affair, and databases are as different as those who
make them: a `Draft` is what a database will become of its settings and the drivers.

The database of this library is the `StandardDatabase`.  It is configured and then
initialized once, which fixes its driver and its connection string; after that it hands
out connections.
-/
import SqlAccess.DriverTable
import SqlAccess.Settings

namespace SqlAccess

/-- What a database does when it is asked for a connection. -/
inductive Access where
  /-- It hands out none. -/
  | refuses (e : Error)
  /-- It asks a driver, and puts its errors into words of its own. -/
  | asks (driver : Driver) (request : ConnectRequest) (word : Error → Error)

/-- A named database in service. -/
structure Database where
  name : String
  settings : Settings
  /-- How it is shown in logs. -/
  description : String
  access : Access

/-- Opens a connection. -/
def Database.connect (d : Database) (s : Session) : Result Connection × Session :=
  match d.access with
  | .refuses e => (.error e, s)
  | .asks driver request word =>
    match s.connect driver request with
    | (.ok c, s) => (.ok c, s)
    | (.error e, s) => (.error (word e), s)

/-- A database that is yet to be configured and initialized: what it becomes then, or why it
cannot be initialized. -/
abbrev Draft := Settings → DriverTable → Result Database

/-- The connection string of a template with its arguments. -/
def connectionUrl (template : String) (args : List String) : Result String :=
  match Template.transcribe args .plain [] template.toList with
  | .ok text => .ok (String.ofList text)
  | .error flaw => .error (.configuration (.malformedTemplate template flaw))

/-- A driver and a connection string. -/
structure Target where
  driver : Driver
  url : String
  deriving DecidableEq, Repr

/-- A database that asks a driver for its connections. -/
structure StandardDatabase where
  name : String
  settings : Settings
  /-- The driver that initialization has found. -/
  driver : Option Driver
  /-- The connection string that initialization has fixed. -/
  resolvedUrl : Option String
  deriving DecidableEq, Repr

namespace StandardDatabase

/-- A database without settings. -/
def new (name : String) : StandardDatabase := ⟨name, .empty, none, none⟩

/-- A database with settings. -/
def withSettings (name : String) (settings : Settings) : StandardDatabase :=
  { new name with settings }

/-- Replaces the settings. -/
def configure (d : StandardDatabase) (settings : Settings) : StandardDatabase :=
  { d with settings }

/-- Whether the database is initialized. -/
def isInitialized (d : StandardDatabase) : Bool := d.resolvedUrl.isSome

/-- A setting that must be there. -/
def required (d : StandardDatabase) (parameter : String) (value : Option String) :
    Result String :=
  match value with
  | some s => .ok s
  | none => .error (.configuration (.missingParameter d.name parameter))

/-- What the settings come to with these drivers. -/
def resolve (d : StandardDatabase) (drivers : DriverTable) : Result Target := do
  let id ← d.required "driver" d.settings.driver
  let template ← d.required "url" d.settings.url
  let username ← d.required "username" d.settings.username
  let password ← d.required "password" d.settings.password
  match drivers.driver id with
  | .error e => .error (.configurationFrom (.driverNotLoaded d.name id) e)
  | .ok driver => return ⟨driver, ← connectionUrl template [d.name, username, password]⟩

/-- Sets the driver. -/
def setDriver (d : StandardDatabase) (driver : Driver) : StandardDatabase :=
  { d with driver := some driver }

/-- Fixes the connection string, unless it is fixed already. -/
def fixUrl (d : StandardDatabase) (url : String) : StandardDatabase :=
  { d with resolvedUrl := d.resolvedUrl.or (some url) }

/-- The database with its driver and its connection string. -/
def settled (d : StandardDatabase) (target : Target) : StandardDatabase :=
  let d := d.setDriver target.driver
  d.fixUrl target.url

/-- Initializes the database, if it is not initialized and its settings come to something. -/
def init (d : StandardDatabase) (drivers : DriverTable) : Result Unit × StandardDatabase :=
  if d.isInitialized then (.error (.configuration (.alreadyInitialized d.name)), d)
  else
    match d.resolve drivers with
    | .ok target => (.ok (), d.settled target)
    | .error e => (.error e, d)

/-- The name and the template of the connection string. -/
def describe (d : StandardDatabase) : String :=
  d.name ++ " (" ++ d.settings.url.getD "no url" ++ ")"

/-- Once it is initialized the database asks its driver, with the credentials of the current
settings. -/
def access (d : StandardDatabase) : Access :=
  match d.driver, d.resolvedUrl with
  | some driver, some url =>
    .asks driver ⟨url, d.settings.username, d.settings.password⟩ (.connectionFailed d.name)
  | _, _ => .refuses (.configuration (.notInitialized d.name))

/-- The database as it is used. -/
def toDatabase (d : StandardDatabase) : Database := ⟨d.name, d.settings, d.describe, d.access⟩

/-- A standard database of a name, before it is configured. -/
def draft (name : String) : Draft := fun settings drivers =>
  match ((new name).configure settings).init drivers with
  | (.ok (), d) => .ok d.toDatabase
  | (.error e, _) => .error e

/-- The database as it is shown in logs. -/
def inspect (d : StandardDatabase) : String :=
  Text.inspectRecord "StandardDatabase"
    [("name", Text.quoted d.name), ("settings", d.settings.inspect),
      ("initialized", Text.inspectFlag d.isInitialized)]

end StandardDatabase

end SqlAccess

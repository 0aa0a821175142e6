/-
The registry of databases.

A registry is filled from parameters at the start and then asked for databases by
name.  A database enters it only when it could be created, configured and
initialized; a failure leaves the databases that are there as they are.
-/
import SqlAccess.Query.Operation

namespace SqlAccess

/-- Creates the draft of a database of a name. -/
abbrev Factory := String → Result Draft

/-- The databases of a process. -/
structure Registry where
  databases : Dict Database
  /-- Factories by the name of their class. -/
  factories : Dict Factory
  drivers : DriverTable
  /-- Whether any database was ever added. -/
  initialized : Bool
  defaultName : Option String
  /-- What traces the queries on the databases. -/
  tracer : Tracer

namespace Registry

/-- A registry without databases. -/
def new (drivers : DriverTable) : Registry := ⟨∅, ∅, drivers, false, none, .new⟩

/-- Whether slow queries are traced. -/
def tracing (r : Registry) : Bool := r.tracer.enabled

/-- Registers a driver. -/
def registerDriver (r : Registry) (id : String) (driver : Driver) : Registry :=
  { r with drivers := r.drivers.register id driver }

/-- Registers a factory, in place of any other of the class. -/
def registerFactory (r : Registry) (className : String) (factory : Factory) : Registry :=
  { r with factories := r.factories.insert className factory }

/-- Names the default database, which need not be there yet. -/
def setDefault (r : Registry) (name : String) : Registry := { r with defaultName := some name }

/-- The database of a name. -/
def database? (r : Registry) (name : String) : Option Database := r.databases.get? name

/-- The names of the databases, in ascending order. -/
def names (r : Registry) : List String := r.databases.keys

/-- The default database, once it is there. -/
def defaultDatabase? (r : Registry) : Option Database := r.defaultName.bind r.database?

/-- Creates the draft of a database: by the factory of its class, if the parameters name one. -/
def create (r : Registry) (name : String) (p : Parameters) : Result Draft :=
  match p.lookup? name "class" with
  | none => .ok (StandardDatabase.draft name)
  | some className =>
    match r.factories.get? className with
    | none => .error (.configuration (.unknownClass className name))
    | some factory =>
      match factory name with
      | .ok draft => .ok draft
      | .error e => .error (.configurationFrom (.notCreated name className) e)

/-- Creates a database, configures and initializes it. -/
def prepare (r : Registry) (name : String) (p : Parameters) : Result Database := do
  let draft ← r.create name p
  draft (.ofParameters name p) r.drivers

/-- Adds the database of a name, in place of any other of the name. -/
def add (r : Registry) (name : String) (p : Parameters) : Result Database × Registry :=
  let r := { r with initialized := true }
  match r.prepare name p with
  | .ok d => (.ok d, { r with databases := r.databases.insert name d })
  | .error e => (.error e, r)

/-- Adds databases in their order until one fails. -/
def addAll (r : Registry) (p : Parameters) : List String → Result Unit × Registry
  | [] => (.ok (), r)
  | name :: rest =>
    match r.add name p with
    | (.ok _, r) => r.addAll p rest
    | (.error e, r) => (.error e, r)

/-- Applies a configuration: the switch for tracing, the default database, and the
databases to load. -/
def load (r : Registry) (p : Parameters) : Result Unit × Registry :=
  let r := { r with tracer := r.tracer.setEnabled p.tracing }
  let r :=
    match p.defaultDatabase? with
    | some name => r.setDefault name
    | none => r
  r.addAll p p.initDatabases

/-- A registry with the default drivers and the databases of a configuration. -/
def ofParameters (p : Parameters) : Result Registry :=
  match (new .defaults).load p with
  | (.ok (), r) => .ok r
  | (.error e, _) => .error e

/-- Opens a query on a database, under the tracer of the registry. -/
def query (r : Registry) (name table : String) (s : Session) : Result Query × Session :=
  match r.database? name with
  | some d => Query.onDatabase d table .json (some r.tracer) s
  | none => (.error (.configuration (.unknownDatabase name)), s)

/-- Runs a statement of a caller that returns rows, under the tracer of the registry. -/
def executeQuery (r : Registry) (s : Session) (c : Connection) (st : Statement) :
    Result ResultSet × Session :=
  s.queryBy r.tracer c st

/-- Runs a statement on a new connection of a database. -/
def runStatement (r : Registry) (d : Database) (sql : String) (s : Session) :
    Result ResultSet × Session :=
  match d.connect s with
  | (.error e, s) => (.error e, s)
  | (.ok c, s) =>
    match s.prepare c sql with
    | (.error e, s) => (.error e, s)
    | (.ok statement, s) => r.executeQuery s c statement

/-- The registry as it is shown in logs. -/
def inspect (r : Registry) : String :=
  Text.inspectRecord "DatabaseRegistry"
    [("databases", Text.inspectList (r.names.map Text.quoted)),
      ("drivers", r.drivers.inspect), ("initialized", Text.inspectFlag r.initialized)]

end Registry

end SqlAccess

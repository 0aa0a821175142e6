/-
Drivers by identifier.  Identifiers are compared in lower case.
-/
import SqlAccess.Error
import SqlAccess.Session

namespace SqlAccess

/-- Drivers, by identifier in lower case. -/
structure DriverTable where
  drivers : Dict Driver

namespace DriverTable

/-- No drivers. -/
def empty : DriverTable := ⟨∅⟩

/-- Registers a driver, in place of any other with the identifier. -/
def register (t : DriverTable) (id : String) (driver : Driver) : DriverTable :=
  ⟨t.drivers.insert (Text.lowered id) driver⟩

/-- The drivers that are always there. -/
def defaults : DriverTable := (empty.register "sqlite" .sqlite).register "sqlite3" .sqlite

/-- Whether there is a driver with the identifier. -/
def contains (t : DriverTable) (id : String) : Bool := t.drivers.contains (Text.lowered id)

/-- The driver with the identifier. -/
def driver (t : DriverTable) (id : String) : Result Driver :=
  match t.drivers.get? (Text.lowered id) with
  | some d => .ok d
  | none => .error (.configuration (.unknownDriver id))

/-- The table as it is shown in logs. -/
def inspect (t : DriverTable) : String :=
  Text.inspectRecord "DriverManager"
    [("drivers", Text.inspectList (t.drivers.keys.map Text.quoted))]

end DriverTable

end SqlAccess

/-
Errors.

Errors are kept apart by their kind, so that a broken setup can be told from a
broken query, and within a kind by their cause.  `Error.message` is the one place
where they are put into words.
-/
import SqlAccess.Template

namespace SqlAccess

/-- Why a configuration is refused. -/
inductive ConfigurationFault where
  /-- A file is missing or is no valid configuration. -/
  | unreadable
  /-- A list or nothing at all stands where a text is needed. -/
  | unsupportedValue (key : String)
  | malformedTemplate (template : String) (flaw : TemplateFlaw)
  | missingParameter (database parameter : String)
  | unknownDriver (id : String)
  | driverNotLoaded (database id : String)
  | alreadyInitialized (database : String)
  | notInitialized (database : String)
  | unknownClass (className database : String)
  | notCreated (database className : String)
  | unknownDatabase (name : String)
  /-- A fault found by a database of another class. -/
  | stated (text : String)
  deriving DecidableEq, Repr

/-- Why a statement cannot be built. -/
inductive DataAccessFault where
  | missingColumns (table : String)
  | noUpdatableColumns (table : String)
  | stated (text : String)
  deriving DecidableEq, Repr

/-- Why a connection does not serve. -/
inductive ConnectionFault where
  /-- A query has closed its own connection. -/
  | queryClosed (database : String)
  | closed
  | notConnected
  | refused
  | statementNotClosed
  | notClosed
  | stated (text : String)
  deriving DecidableEq, Repr

/-- Why a statement fails. -/
inductive QueryFault where
  /-- The answer to a count holds no number. -/
  | noCount (sql : String)
  | prepareRefused
  | updateRefused
  | queryRefused
  | stated (text : String)
  deriving DecidableEq, Repr

/-- Why an object cannot be stored or read. -/
inductive MarshalFault where
  /-- The text is no JSON. -/
  | invalidJson
  | missingTag
  | marshalRefused
  | demarshalRefused
  | stated (text : String)
  deriving DecidableEq, Repr

/-- Everything that can go wrong between a configuration and a row. -/
inductive Error where
  | configuration (fault : ConfigurationFault)
  /-- A fault of the configuration that has a cause. -/
  | configurationFrom (fault : ConfigurationFault) (cause : Error)
  | dataAccess (fault : DataAccessFault)
  /-- A database could not hand out a connection. -/
  | connectionFailed (database : String) (cause : Error)
  | connection (fault : ConnectionFault)
  | query (fault : QueryFault)
  | typeMismatch (expected actual : String)
  | marshal (fault : MarshalFault)
  /-- The SQLite engine refuses. -/
  | sqlite
  | other (text : String)
  /-- An error of another library, known only as a cause. -/
  | foreign
  deriving DecidableEq, Repr

/-- The wording of a flaw. -/
def TemplateFlaw.message : TemplateFlaw → String
  | unmatchedBrace => "unmatched brace"
  | indexNotNumber => "argument index must be a number"

namespace ConfigurationFault

/-- The wording of a fault. -/
def message : ConfigurationFault → String
  | unreadable => "Failed to build configuration"
  | unsupportedValue key => "Unsupported value for '" ++ key ++ "'"
  | malformedTemplate template flaw =>
    "Malformed connection template '" ++ template ++ "': " ++ flaw.message
  | missingParameter database parameter =>
    "Database '" ++ database ++ "' is missing required parameter '" ++ parameter ++ "'"
  | unknownDriver id => "Unknown driver: '" ++ id ++ "'"
  | driverNotLoaded database id =>
    "Database '" ++ database ++ "' cannot load driver '" ++ id ++ "'"
  | alreadyInitialized database => "Database '" ++ database ++ "' is already initialized"
  | notInitialized database => "Database '" ++ database ++ "' is not initialized"
  | unknownClass className database =>
    "Unknown class '" ++ className ++ "' for database '" ++ database ++ "'"
  | notCreated database className =>
    "Unable to create database '" ++ database ++ "' of class '" ++ className ++ "'"
  | unknownDatabase name => "Unknown database: '" ++ name ++ "'"
  | stated text => text

end ConfigurationFault

/-- The wording of a fault. -/
def DataAccessFault.message : DataAccessFault → String
  | missingColumns table => "Missing column information for table " ++ table
  | noUpdatableColumns table => "No updatable columns for table " ++ table
  | stated text => text

/-- The wording of a fault. -/
def ConnectionFault.message : ConnectionFault → String
  | queryClosed database => "Query on database '" ++ database ++ "' is closed"
  | closed => "Connection is closed"
  | notConnected => "Not connected to database"
  | refused => "refused"
  | statementNotClosed => "statement close failed"
  | notClosed => "connection close failed"
  | stated text => text

/-- The wording of a fault. -/
def QueryFault.message : QueryFault → String
  | noCount sql => "No count returned by: " ++ sql
  | prepareRefused => "prepare refused"
  | updateRefused => "update refused"
  | queryRefused => "query refused"
  | stated text => text

/-- The wording of a fault; what a JSON reader finds wrong is not told. -/
def MarshalFault.message : MarshalFault → String
  | invalidJson => "<json>"
  | missingTag => "no tag"
  | marshalRefused => "marshal refused"
  | demarshalRefused => "demarshal refused"
  | stated text => text

namespace Error

/-- The wording of an error; what the SQLite engine finds wrong is not told. -/
def message : Error → String
  | configuration fault => "Configuration error: " ++ fault.message
  | configurationFrom fault _ => "Configuration error: " ++ fault.message
  | dataAccess fault => "Data access error: " ++ fault.message
  | connectionFailed database _ => "Connection to database '" ++ database ++ "' failed"
  | connection fault => "Connection error: " ++ fault.message
  | query fault => "Query execution error: " ++ fault.message
  | typeMismatch expected actual => "Type mismatch: expected " ++ expected ++ ", got " ++ actual
  | marshal fault => "Marshal error: " ++ fault.message
  | sqlite => "SQLite error: <sqlite>"
  | other text => text
  | foreign => ""

/-- The causes of an error, the nearest first.  What a driver reports is its own affair
and is not looked into. -/
def causes : Error → List Error
  | configurationFrom _ cause => cause :: cause.causes
  | connectionFailed _ _ => [foreign]
  | sqlite => [foreign]
  | _ => []

/-- Whether the setup is broken rather than a query. -/
def isConfiguration : Error → Bool
  | configuration _ => true
  | configurationFrom _ _ => true
  | _ => false

end Error

/-- Work that ends in an error or a value. -/
abbrev Result (α : Type) := Except Error α

theorem bind_eq_ok {α β : Type} {x : Result α} {f : α → Result β} {b : β}
    (h : x >>= f = .ok b) : ∃ a, x = .ok a ∧ f a = .ok b := by
  cases x with
  | ok a => exact ⟨a, rfl, h⟩
  | error e => cases h

theorem bind_eq_error {α β : Type} {x : Result α} {f : α → Result β} {e : Error}
    (h : x >>= f = .error e) : x = .error e ∨ ∃ a, x = .ok a ∧ f a = .error e := by
  cases x with
  | ok a => exact .inr ⟨a, rfl, h⟩
  | error e' =>
    cases h
    exact .inl rfl

theorem map_bind_congr {α β γ : Type} {x : Result α} {f f' : α → Result β} {g : β → γ}
    (h : ∀ a, (f' a).map g = (f a).map g) : (x >>= f').map g = (x >>= f).map g := by
  cases x with
  | ok a => exact h a
  | error e => rfl

theorem cases_of_map_eq {α β : Type} {x y : Result α} {f : α → β} (h : y.map f = x.map f) :
    (∃ a b, x = .ok a ∧ y = .ok b ∧ f b = f a) ∨ ∃ e, x = .error e ∧ y = .error e := by
  cases x with
  | ok a =>
    cases y with
    | ok b => exact .inl ⟨a, b, rfl, rfl, Except.ok.inj h⟩
    | error e => cases h
  | error e =>
    cases y with
    | ok b => cases h
    | error e' =>
      cases h
      exact .inr ⟨e, rfl, rfl⟩

end SqlAccess

/-
Loading parameters from a file and from the environment.

The file is JSON or TOML, with a table at its root.  A variable of the environment
counts if its name starts with the prefix and two underscores, in any case; the
rest of the name, in lower case and with dots for pairs of underscores, is its
key.  The environment goes over the file.
-/
import SqlAccess.Config.Toml

namespace SqlAccess

namespace Setting

mutual

/-- The setting that a JSON value stands for. -/
def ofJson : Json → Setting
  | .null => missing
  | .flag b => flag b
  | .integer n => integer n
  | .real x => real (.finite x)
  | .text s => text s
  | .array _ => list
  | .object fields => table (ofFields fields)

/-- The entries that the fields of an object stand for. -/
def ofFields : List (String × Json) → List (String × Setting)
  | [] => []
  | (key, value) :: rest => (key, ofJson value) :: ofFields rest

end

end Setting

/-- The formats of configuration files. -/
inductive ConfigFormat where
  | json
  | toml
  deriving DecidableEq, Repr

/-- The root table of a file with a text. -/
def ConfigFormat.parse? (format : ConfigFormat) (s : String) : Option (List (String × Setting)) :=
  match format with
  | json =>
    match Json.parse? s with
    | some (.object fields) => some (Setting.ofFields fields)
    | _ => none
  | toml => Toml.parse? s

/-- A configuration file: its format and its text, unless it is missing. -/
structure ConfigFile where
  format : ConfigFormat
  content : Option String

/-- The root table of a file, if it can be read; a byte order mark at its start is no part
of the text. -/
def ConfigFile.root? (f : ConfigFile) : Option (List (String × Setting)) :=
  f.content.bind fun s => f.format.parse? (String.ofList (Text.withoutMark s.toList))

namespace Environment

/-- The key of a variable, if its name has the prefix. -/
def key? (namePrefix name : String) : Option String :=
  let start := Text.lower (namePrefix.toList ++ ['_', '_'])
  (Text.stripPrefix? start (Text.lower name.toList)).map fun rest =>
    String.ofList (Text.replacePair '_' '_' '.' rest)

/-- The settings that the variables with a prefix make. -/
def settings (namePrefix : String) (environment : List (String × String)) :
    List (String × Setting) :=
  let chosen : Parameters := Dict.ofList
    (environment.filterMap fun (name, value) => (key? namePrefix name).map (·, value))
  chosen.entries.map fun (key, value) => (key, .text value)

end Environment

/-- The parameters of a file, if one is given, and of the variables with a prefix, if one
is given. -/
def Parameters.load (file : Option ConfigFile) (namePrefix : Option String)
    (environment : List (String × String)) : Result Parameters := do
  let fromFile : List (String × Setting) ←
    match file with
    | none => pure []
    | some file =>
      match file.root? with
      | some entries => pure entries
      | none => throw (.configurationFrom .unreadable .foreign)
  let fromVariables :=
    match namePrefix with
    | none => []
    | some namePrefix => Environment.settings namePrefix environment
  Setting.flatten (((Setting.table []).merge fromFile).merge fromVariables).entries

end SqlAccess

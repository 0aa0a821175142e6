/-
Storing business objects as text.

The query layer never looks into an object: it uses the marshaller that it was
given.  `Marshaller.json` stores compact JSON.
-/
import SqlAccess.Error
import SqlAccess.Json.Parser
import SqlAccess.Json.Printer
import SqlAccess.Text.Split

namespace SqlAccess

/-- Turns objects into the texts that are stored, and back. -/
structure Marshaller where
  marshal : Json → Result String
  demarshal : String → Result Json

namespace Marshaller

/-- Reads JSON text. -/
def ofJsonText (s : String) : Result Json :=
  match Json.parse? s with
  | some j => .ok j
  | none => .error (.marshal .invalidJson)

/-- Stores objects as compact JSON. -/
def json : Marshaller := ⟨fun j => .ok j.compact, ofJsonText⟩

/-- Stores objects as compact JSON behind a tag. -/
def tagged (tag : String) : Marshaller where
  marshal j := .ok (tag ++ j.compact)
  demarshal s :=
    match Text.stripPrefix? tag.toList s.toList with
    | some rest => ofJsonText (String.ofList rest)
    | none => .error (.marshal .missingTag)

/-- Stores nothing. -/
def refusing : Marshaller where
  marshal _ := .error (.marshal .marshalRefused)
  demarshal _ := .error (.marshal .demarshalRefused)

end Marshaller

end SqlAccess

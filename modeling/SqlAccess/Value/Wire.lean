/-
The wire form of values.

On the wire a value is a JSON object with one field, named for the variant; the
null value is the name alone.  Doubles that are not finite have no wire form of
their own and are sent as null, which does not read back.
-/
import SqlAccess.Value
import SqlAccess.Json.Parser

namespace SqlAccess.Value

/-- The wire form. -/
def toWire : Value → Json
  | null => .text "Null"
  | flag b => .object [("Bool", .flag b)]
  | int n => .object [("Int", .integer n.toInt)]
  | long n => .object [("Long", .integer n.toInt)]
  | double x => .object [("Double", .ofDouble x)]
  | text s => .object [("String", .text s)]
  | bytes content => .object [("Bytes", .array (content.map fun b => .integer b.toNat))]
  | instant t => .object [("Timestamp", .text t.wire)]
  | object j => .object [("Object", j)]

/-- The text of the wire form. -/
def serialize (v : Value) : String := v.toWire.compact

/-- Reads a number below 256. -/
def byte? : Json → Option UInt8
  | .integer n => if 0 ≤ n ∧ n < 256 then some (UInt8.ofNat n.toNat) else none
  | _ => none

/-- Reads the variant with a name from its content. -/
def ofField? (name : String) (content : Json) : Option Value :=
  match name, content with
  | "Null", .null => some .null
  | "Bool", .flag b => some (.flag b)
  | "Int", .integer n => (int32? n).map .int
  | "Long", .integer n => (int64? n).map .long
  | "Double", content => (content.double? Double.ofInt).map .double
  | "String", .text s => some (.text s)
  | "Bytes", .array items => (items.mapM byte?).map .bytes
  | "Timestamp", .text s => (Instant.ofWire? s).map .instant
  | "Object", j => some (.object j)
  | _, _ => none

/-- Reads the wire form: one name, or an object with exactly one field as it is written. -/
def deserialize? (s : String) : Option Value :=
  match Json.skipBlanks s.toList with
  | '{' :: cs => do
    let (name, content, cs) ←
      Json.field? (2 * cs.length + 2) (Json.depthLimit - 1) (Json.skipBlanks cs)
    match Json.skipBlanks cs with
    | '}' :: cs =>
      guard (Json.skipBlanks cs = [])
      ofField? name content
    | _ => none
  | cs => do
    let (name, cs) ← Json.string? cs
    guard (name = "Null" ∧ Json.skipBlanks cs = [])
    return .null

end SqlAccess.Value

/-
The values of statements and rows.

Drivers produce the wide variants; column conversion narrows them to what the
columns declare.  The accessors `asBool?`, `asInt?`, ... read a value as another
type wherever that makes sense, and give `none` elsewhere.
-/
import SqlAccess.Instant.Parser
import SqlAccess.Instant.Printer
import SqlAccess.Json.Printer
import SqlAccess.Double.Reading
import SqlAccess.Text.Bytes
import SqlAccess.Text.Lowercase

namespace SqlAccess

/-- A parameter of a statement or a cell of a row. -/
inductive Value where
  | null
  | flag (b : Bool)
  /-- An integer of 32 bits. -/
  | int (n : Int32)
  /-- An integer of 64 bits. -/
  | long (n : Int64)
  | double (x : Double)
  | text (s : String)
  | bytes (content : List UInt8)
  | instant (t : Instant)
  /-- A business object, stored through a marshaller. -/
  | object (j : Json)

/-- The values of a row, by property or column label. -/
abbrev Row := Dict Value

/-- The 64-bit integer with the value of an integer, if there is one. -/
def int64? (n : Int) : Option Int64 :=
  if Int64.minValue.toInt ≤ n ∧ n ≤ Int64.maxValue.toInt then some (Int64.ofInt n) else none

/-- The 32-bit integer with the value of an integer, if there is one. -/
def int32? (n : Int) : Option Int32 :=
  if Int32.minValue.toInt ≤ n ∧ n ≤ Int32.maxValue.toInt then some (Int32.ofInt n) else none

theorem int64?_toInt (n : Int64) : int64? n.toInt = some n := by
  rw [int64?, if_pos ⟨n.minValue_le_toInt, n.toInt_le⟩, Int64.ofInt_toInt]

theorem int32?_toInt (n : Int32) : int32? n.toInt = some n := by
  rw [int32?, if_pos ⟨n.minValue_le_toInt, n.toInt_le⟩, Int32.ofInt_toInt]

theorem int64?_eq_some {n : Int} {w : Int64} : int64? n = some w ↔ w.toInt = n := by
  constructor
  · intro h
    rw [int64?] at h
    split at h
    · next hrange =>
      cases h
      exact Int64.toInt_ofInt_of_le hrange.1 (Int.lt_add_one_of_le hrange.2)
    · cases h
  · rintro rfl
    exact int64?_toInt w

theorem int32?_eq_some {n : Int} {w : Int32} : int32? n = some w ↔ w.toInt = n := by
  constructor
  · intro h
    rw [int32?] at h
    split at h
    · next hrange =>
      cases h
      exact Int32.toInt_ofInt_of_le hrange.1 (Int.lt_add_one_of_le hrange.2)
    · cases h
  · rintro rfl
    exact int32?_toInt w

namespace Value

/-- Whether the value is absent. -/
def isNull : Value → Bool
  | null => true
  | _ => false

/-- The name of the variant. -/
def typeName : Value → String
  | null => "null"
  | flag _ => "bool"
  | int _ => "int"
  | long _ => "long"
  | double _ => "double"
  | text _ => "string"
  | bytes _ => "bytes"
  | instant _ => "timestamp"
  | object _ => "object"

/-- The flag that a text names. -/
def flagOfText? (s : String) : Option Bool :=
  let word := Text.trimmed s
  if ["true", "1", "yes"].any (Text.eqIgnoreAsciiCase word) then some true
  else if ["false", "0", "no"].any (Text.eqIgnoreAsciiCase word) then some false
  else none

/-- The value as a flag: numbers count as true unless they are zero. -/
def asBool? : Value → Option Bool
  | flag b => some b
  | int n => some (n != 0)
  | long n => some (n != 0)
  | text s => flagOfText? s
  | _ => none

/-- The value as an integer of 64 bits: doubles lose their fraction, instants count
milliseconds. -/
def asLong? : Value → Option Int64
  | long n => some n
  | int n => some n.toInt64
  | flag b => some (if b then 1 else 0)
  | double x => some x.toInt64
  | text s => (Text.integer? (Text.trim s.toList)).bind int64?
  | instant t => some (Int64.ofInt t.epochMillis)
  | _ => none

/-- The value as an integer of 32 bits, if it fits. -/
def asInt? : Value → Option Int32
  | int n => some n
  | flag b => some (if b then 1 else 0)
  | v => v.asLong?.bind fun n => int32? n.toInt

/-- The value as a double. -/
def asDouble? : Value → Option Double
  | double x => some x
  | text s => Double.ofText? (Text.trim s.toList)
  | int n => some (Double.ofInt n.toInt)
  | long n => some (Double.ofInt n.toInt)
  | _ => none

/-- The text of a text. -/
def asText? : Value → Option String
  | text s => some s
  | _ => none

/-- The bytes of a binary value or of a text. -/
def asBytes? : Value → Option (List UInt8)
  | bytes content => some content
  | text s => some (Text.utf8 s)
  | _ => none

/-- The value as an instant: integers count milliseconds, texts are parsed. -/
def asInstant? : Value → Option Instant
  | instant t => some t
  | int n => Instant.ofEpochMillis? n.toInt
  | long n => Instant.ofEpochMillis? n.toInt
  | text s => Instant.parse? s
  | _ => none

/-- The value as an instant, in milliseconds. -/
def asEpochMillis? (v : Value) : Option Int64 :=
  v.asInstant?.map fun t => Int64.ofInt t.epochMillis

/-- The object of an object. -/
def asObject? : Value → Option Json
  | object j => some j
  | _ => none

/-- Any value as text. -/
def toText : Value → String
  | null => "null"
  | flag b => Text.inspectFlag b
  | int n => Text.signedText n.toInt
  | long n => Text.signedText n.toInt
  | double x => x.text .plain
  | text s => s
  | bytes content => "<" ++ Text.decimalText content.length ++ " bytes>"
  | instant t => t.sql
  | object j => j.compact

/-- Equality of values: numbers are compared as numbers, so that a NaN equals nothing. -/
def equals : Value → Value → Bool
  | null, null => true
  | flag a, flag b => a == b
  | int m, int n => m == n
  | long m, long n => m == n
  | double x, double y => x.equals y
  | text s, text t => s == t
  | bytes a, bytes b => a == b
  | instant t, instant u => t == u
  | object j, object k => j.equals k
  | _, _ => false

/-- A value as it is shown in logs. -/
def inspect : Value → String
  | null => "Null"
  | flag b => Text.inspectCall "Bool" [Text.inspectFlag b]
  | int n => Text.inspectCall "Int" [Text.signedText n.toInt]
  | long n => Text.inspectCall "Long" [Text.signedText n.toInt]
  | double x => Text.inspectCall "Double" [x.text .inspection]
  | text s => Text.inspectCall "String" [Text.quoted s]
  | bytes content =>
    Text.inspectCall "Bytes" [Text.inspectList (content.map fun b => Text.decimalText b.toNat)]
  | instant t => Text.inspectCall "Timestamp" [t.wire]
  | object j => Text.inspectCall "Object" [j.inspect]

end Value

end SqlAccess

/-
The conversion of values at the border of a statement.

Every value that is bound goes through `ColumnType.toSql`, every cell that is read
through `ColumnType.fromSql`, each with the type of its column.
-/
import SqlAccess.Column
import SqlAccess.Marshaller
import SqlAccess.Value

namespace SqlAccess

/-- The value as an integer of 32 bits, the higher bits being dropped. -/
def Value.narrow? (v : Value) : Option Value :=
  v.asLong?.map fun n => .int n.toInt32

theorem Value.narrow?_int (n : Int32) : (Value.int n).narrow? = some (.int n) := by
  show some (Value.int n.toInt64.toInt32) = some (.int n)
  rw [Int32.toInt32_toInt64]

/-- The object that stands for a value in a column of objects. -/
def Value.toObject? : Value → Option Json
  | .object j => some j
  | .text s => some (.text s)
  | .flag b => some (.flag b)
  | .int n => some (.integer n.toInt)
  | .long n => some (.integer n.toInt)
  | .double x => some (.ofDouble x)
  | _ => none

namespace ColumnType

/-- The value that is bound for a value of a caller.  The null value stays as it is. -/
def toSql (m : Marshaller) (type : ColumnType) (v : Value) : Result Value :=
  if v.isNull then .ok .null
  else
    match type with
    | binary =>
      match v with
      | .bytes content => .ok (.bytes content)
      | v => .error (.typeMismatch "bytes" v.typeName)
    | timestamp =>
      match v with
      | .instant t => .ok (.instant t)
      | .int n =>
        match (Value.int n).asInstant? with
        | some t => .ok (.instant t)
        | none => .error (.typeMismatch "timestamp" "out of range")
      | .long n =>
        match (Value.long n).asInstant? with
        | some t => .ok (.instant t)
        | none => .error (.typeMismatch "timestamp" "out of range")
      | v => .error (.typeMismatch "timestamp" v.typeName)
    | integer =>
      match v.narrow? with
      | some n => .ok n
      | none => .error (.typeMismatch "integer" v.typeName)
    | marshalled =>
      match v.toObject? with
      | some j => (m.marshal j).map .text
      | none => .error (.typeMismatch "object" v.typeName)
    | boolean => .ok v
    | other => .ok v

/-- The value that is bound when the caller gives none. -/
def nullValue : ColumnType → Value
  | boolean => .flag false
  | _ => .null

/-- The value of a cell; `none` if the row has no value there. -/
def fromSql (m : Marshaller) (type : ColumnType) (raw : Value) : Result (Option Value) :=
  if raw.isNull then .ok none
  else
    match type with
    | binary =>
      match raw with
      | .text s => .ok (some (.bytes (Text.utf8 s)))
      | raw => .ok (some raw)
    | timestamp =>
      match raw.asEpochMillis? with
      | some millis => .ok (some (.long millis))
      | none => .error (.typeMismatch "timestamp" raw.typeName)
    | integer => .ok (some (raw.narrow?.getD raw))
    | boolean => .ok (some ((raw.asBool?.map .flag).getD raw))
    | marshalled =>
      match raw with
      | .text s => if s.isEmpty then .ok none else (m.demarshal s).map (some ∘ .object)
      | raw => .ok (some raw)
    | other => .ok (some raw)

theorem toSql_integer_int (m : Marshaller) (n : Int32) :
    toSql m integer (.int n) = .ok (.int n) := by
  rw [toSql, Value.narrow?_int]
  rfl

theorem fromSql_integer_int (m : Marshaller) (n : Int32) :
    fromSql m integer (.int n) = .ok (some (.int n)) := by
  rw [fromSql, Value.narrow?_int]
  rfl

end ColumnType

end SqlAccess

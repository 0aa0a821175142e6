/-
JSON values.

Numbers are integers or finite doubles.  The fields of an object stand in
ascending order of their keys, as `putEntry` leaves them; `Json.Normal` is this
property, at every level, together with the range of the integers.
-/
import SqlAccess.Dict
import SqlAccess.Double

namespace SqlAccess

/-- A JSON value. -/
inductive Json where
  | null
  | flag (b : Bool)
  | integer (n : Int)
  | real (x : FiniteDouble)
  | text (s : String)
  | array (items : List Json)
  | object (fields : List (String × Json))
  deriving Repr, Inhabited

namespace Json

/-- The integers that stay integers: those of 64 bits, signed or unsigned. -/
def IsWide (n : Int) : Prop := Int64.minValue.toInt ≤ n ∧ n < UInt64.size

instance (n : Int) : Decidable (IsWide n) := inferInstanceAs (Decidable (_ ∧ _))

mutual

/-- How many arrays and objects are nested in a value. -/
def depth : Json → Nat
  | array items => depthItems items + 1
  | object fields => depthFields fields + 1
  | _ => 0

/-- The depth of the deepest item. -/
def depthItems : List Json → Nat
  | [] => 0
  | item :: rest => max (depth item) (depthItems rest)

/-- The depth of the deepest field. -/
def depthFields : List (String × Json) → Nat
  | [] => 0
  | (_, value) :: rest => max (depth value) (depthFields rest)

end

mutual

/-- The keys of all objects ascend and all integers are of 64 bits. -/
def Normal : Json → Prop
  | integer n => IsWide n
  | array items => NormalItems items
  | object fields => Ascending fields ∧ NormalFields fields
  | _ => True

/-- All items are normal. -/
def NormalItems : List Json → Prop
  | [] => True
  | item :: rest => Normal item ∧ NormalItems rest

/-- All values of fields are normal. -/
def NormalFields : List (String × Json) → Prop
  | [] => True
  | (_, value) :: rest => Normal value ∧ NormalFields rest

end

mutual

/-- Equality of values, the two zeros being equal. -/
def equals : Json → Json → Bool
  | null, null => true
  | flag a, flag b => a == b
  | integer m, integer n => m == n
  | real x, real y => x.equals y
  | text s, text t => s == t
  | array xs, array ys => equalItems xs ys
  | object xs, object ys => equalFields xs ys
  | _, _ => false

/-- Equality item by item. -/
def equalItems : List Json → List Json → Bool
  | [], [] => true
  | x :: xs, y :: ys => equals x y && equalItems xs ys
  | _, _ => false

/-- Equality field by field. -/
def equalFields : List (String × Json) → List (String × Json) → Bool
  | [], [] => true
  | (k, x) :: xs, (l, y) :: ys => k == l && equals x y && equalFields xs ys
  | _, _ => false

end

/-- The number for a double; what is not finite has no number. -/
def ofDouble : Double → Json
  | .finite x => real x
  | _ => null

/-- The double nearest to a number. -/
def double? (ofInt : Int → Double) : Json → Option Double
  | integer n => some (ofInt n)
  | real x => some (.finite x)
  | _ => none

end Json

end SqlAccess

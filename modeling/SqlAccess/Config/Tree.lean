/-
Configuration as a tree of tables, and its flattening.

Sources of configuration are merged into one tree, a later source over an earlier
one.  `flatten` then turns the tree into parameters: the key of a leaf is the
path to it, its parts joined by dots.
-/
import SqlAccess.Config.Parameters
import SqlAccess.Double.Decimal
import SqlAccess.Error
import SqlAccess.Text.Inspect
import SqlAccess.Text.Numeral

namespace SqlAccess

/-- A value in a configuration.  The entries of a table stand in ascending order. -/
inductive Setting where
  | text (s : String)
  | flag (b : Bool)
  | integer (n : Int)
  | real (x : Double)
  | missing
  | list
  | table (entries : List (String × Setting))
  deriving Repr, Inhabited

namespace Setting

/-- The text of a leaf; lists and missing values have none. -/
def leafText? : Setting → Option String
  | text s => some s
  | flag b => some (Text.inspectFlag b)
  | integer n => some (Text.signedText n)
  | real x => some (x.text .plain)
  | _ => none

/-- The entries of a table; what is no table has none. -/
def entries : Setting → List (String × Setting)
  | table entries => entries
  | _ => []

/-! ### Flattening -/

/-- The key of an entry of a table that stands under a key itself. -/
def joinKey (above key : String) : String :=
  if above.isEmpty then key else above ++ "." ++ key

mutual

/-- Adds the leaves of a value under a key to the parameters. -/
def flattenValue (key : String) (out : Parameters) : Setting → Result Parameters
  | table entries => flattenEntries key out entries
  | leaf =>
    match leaf.leafText? with
    | some s => .ok (out.insert key s)
    | none => .error (.configurationFrom (.unsupportedValue key) .foreign)

/-- Adds the leaves of the entries of a table under a key to the parameters. -/
def flattenEntries (above : String) (out : Parameters) :
    List (String × Setting) → Result Parameters
  | [] => .ok out
  | (key, value) :: rest => do
    let out ← flattenValue (joinKey above key) out value
    flattenEntries above out rest

end

/-- The parameters of a tree. -/
def flatten (entries : List (String × Setting)) : Result Parameters :=
  flattenEntries "" ∅ entries

/-! ### Merging -/

/-- A step on the way to a value: a key of a table, or a place in a list. -/
inductive Step where
  | key (name : String)
  | place
  deriving DecidableEq, Repr

/-- Whether a character may stand in a key of a path. -/
def isPathChar (c : Char) : Bool := c.isAlphanum || c == '_' || c == '-'

/-- Reads a key of a path. -/
def pathKey? (cs : List Char) : Option (String × List Char) :=
  let name := cs.takeWhile isPathChar
  if name = [] then none else some (String.ofList name, cs.dropWhile isPathChar)

/-- Drops the spaces and tabs in front. -/
def skipPathSpace (cs : List Char) : List Char := cs.dropWhile fun c => c == ' ' || c == '\t'

/-- Reads an integer of 64 bits; its sign can only be a minus. -/
def pathIndex? (cs : List Char) : Option (Int × List Char) := do
  let (negative, cs) := match cs with
    | '-' :: cs => (true, cs)
    | cs => (false, cs)
  let n ← Text.digits? (cs.takeWhile Char.isDigit)
  let index : Int := if negative then -n else n
  guard (Int64.minValue.toInt ≤ index ∧ index ≤ Int64.maxValue.toInt)
  return (index, cs.dropWhile Char.isDigit)

/-- Reads a place in a list: an index before a bracket, with spaces and tabs around it.
Which place it is does not matter, since no list has a text. -/
def pathPlace? (cs : List Char) : Option (List Char) := do
  let (_, cs) ← pathIndex? (skipPathSpace cs)
  match skipPathSpace cs with
  | ']' :: rest => some rest
  | _ => none

/-- Reads the steps behind the first key of a path. -/
def pathSteps? : Nat → List Char → Option (List Step)
  | _, [] => some []
  | fuel + 1, '.' :: cs => do
    let (name, cs) ← pathKey? cs
    return .key name :: (← pathSteps? fuel cs)
  | fuel + 1, '[' :: cs => do
    return .place :: (← pathSteps? fuel (← pathPlace? cs))
  | _, _ => none

/-- The steps that a key at the top of a source stands for: those of the path that it is,
or the key alone. -/
def pathOf (key : String) : List Step :=
  let steps : Option (List Step) := do
    let (name, cs) ← pathKey? key.toList
    return .key name :: (← pathSteps? cs.length cs)
  steps.getD [.key key]

mutual

/-- Puts a value over another: the entries of a table join those that are there, anything
else takes the place. -/
def overlay (old : Setting) : Setting → Setting
  | table [] =>
    match old with
    | missing => table []
    | old => old
  | table (entry :: rest) => table (overlayEntries old.entries (entry :: rest))
  | new => new

/-- Puts entries over those of a table. -/
def overlayEntries (old : List (String × Setting)) :
    List (String × Setting) → List (String × Setting)
  | [] => old
  | (key, value) :: rest =>
    overlayEntries (putEntry key (overlay ((valueOf? key old).getD .missing) value) old) rest

end

/-- Puts a value at the end of a path; whatever stands in the way becomes a table or a list. -/
def putAt (value old : Setting) : List Step → Setting
  | [] => old.overlay value
  | .key name :: steps =>
    let entries := old.entries
    table (putEntry name (putAt value ((valueOf? name entries).getD .missing) steps) entries)
  | .place :: _ => list

/-- Merges a source into a tree. -/
def merge (tree : Setting) (source : List (String × Setting)) : Setting :=
  source.foldl (fun tree (key, value) => putAt value tree (pathOf key)) tree

end Setting

end SqlAccess

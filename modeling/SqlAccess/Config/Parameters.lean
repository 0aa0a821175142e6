/-
The parameters of databases, as a flat map.

A parameter of a database is looked up under its qualified key
`settings.database.<database>.<parameter>` first and under its bare name second,
so that shared defaults are written once and overridden where needed.
-/
import SqlAccess.Dict
import SqlAccess.Text.Blank
import SqlAccess.Text.Lowercase
import SqlAccess.Text.Split

namespace SqlAccess

/-- Values by key. -/
abbrev Parameters := Dict String

namespace Parameters

/-- What the keys of database parameters start with. -/
def keyPrefix : String := "settings.database."

/-- The key of a parameter of one database. -/
def qualifiedKey (database parameter : String) : String :=
  keyPrefix ++ database ++ "." ++ parameter

/-- The key of the switch for tracing. -/
def tracingKey : String := "settings.debug.dbperf"

/-- The parameter of a database. -/
def lookup? (p : Parameters) (database parameter : String) : Option String :=
  (p.get? (qualifiedKey database parameter)).or (p.get? parameter)

/-- The parameter that concerns all databases. -/
def global? (p : Parameters) (name : String) : Option String :=
  (p.get? (keyPrefix ++ name)).or (p.get? name)

/-- The names in a list between commas; blanks around them and empty names do not count. -/
def names (list : List Char) : List (List Char) :=
  ((Text.splitOnChar ',' list).map Text.trim).filter (!·.isEmpty)

/-- The databases to load at the start, in their order. -/
def initDatabases (p : Parameters) : List String :=
  match p.global? "init" with
  | some list => (names list.toList).map String.ofList
  | none => []

/-- The name of the default database. -/
def defaultDatabase? (p : Parameters) : Option String := p.global? "default"

/-- Whether slow queries are to be traced. -/
def tracing (p : Parameters) : Bool :=
  match p.get? tracingKey with
  | some word =>
    ["true", "1", "yes", "on"].contains (Text.lowered (Text.trimmed word))
  | none => false

/-! ### Keys -/

theorem qualifiedKey_toList (name parameter : String) :
    (qualifiedKey name parameter).toList =
      keyPrefix.toList ++ name.toList ++ ['.'] ++ parameter.toList := by
  rw [qualifiedKey, String.toList_append, String.toList_append, String.toList_append]
  rfl

theorem qualifiedKey_inj {name a b : String} (h : qualifiedKey name a = qualifiedKey name b) :
    a = b := by
  have hlists := congrArg String.toList h
  rw [qualifiedKey_toList, qualifiedKey_toList] at hlists
  exact String.toList_inj.1 (List.append_cancel_left hlists)

theorem qualifiedKey_ne {parameter : String} (h : parameter.toList.head? ≠ some 's')
    (name other : String) : qualifiedKey name other ≠ parameter := by
  rintro rfl
  rw [qualifiedKey_toList] at h
  exact h rfl

end Parameters

end SqlAccess

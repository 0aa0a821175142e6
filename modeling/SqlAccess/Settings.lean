/-
The settings of a database: its driver, the template of its connection string and
the credentials.  The password is never shown.
-/
import SqlAccess.Config.Parameters
import SqlAccess.Text.Inspect

namespace SqlAccess

/-- The settings of a database. -/
structure Settings where
  driver : Option String
  url : Option String
  username : Option String
  password : Option String
  /-- A value for databases of other classes. -/
  key : Option String
  deriving DecidableEq, Repr

namespace Settings

/-- No settings. -/
def empty : Settings := ⟨none, none, none, none, none⟩

/-- The settings of a database in a map of parameters. -/
def ofParameters (name : String) (p : Parameters) : Settings where
  driver := p.lookup? name "driver"
  url := p.lookup? name "url"
  username := p.lookup? name "username"
  password := p.lookup? name "password"
  key := p.lookup? name "key"

/-- The settings as they are shown in logs; of a password only that there is one. -/
def inspect (s : Settings) : String :=
  let shown (field : Option String) := Text.inspectOption (field.map Text.quoted)
  Text.inspectRecord "DatabaseSettings"
    [("driver", shown s.driver), ("url", shown s.url), ("username", shown s.username),
      ("password", shown (s.password.map fun _ => "***")), ("key", shown s.key)]

end Settings

end SqlAccess

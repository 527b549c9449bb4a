import Tablesmith.Config.Definition

/-!
# Connection settings

The settings of a connection are handed on in two forms: as the arguments of a
connection, without those that are not set, and as an address for messages.
-/

namespace Tablesmith.Config.DatabaseSettings

/-- The arguments of a connection; what is not set is left out. -/
def arguments (s : DatabaseSettings) : List (String × Value) :=
  [("dbname", some (Value.text s.name)),
    ("user", s.user.map Value.text),
    ("password", s.password.map Value.text),
    ("host", some (Value.text s.host)),
    ("port", s.port.map fun n => Value.int n),
    ("connect_timeout", some (Value.int s.connectTimeout))].filterMap
    fun e => e.2.map fun v => (e.1, v)

/-- The credentials in an address: a user, and a password after a colon if
both are set and not empty. -/
def credentials (s : DatabaseSettings) : String :=
  match s.user with
  | none => ""
  | some user =>
    if user.isEmpty then ""
    else
      match s.password with
      | none => user ++ "@"
      | some password =>
        if password.isEmpty then user ++ "@"
        else user ++ ":" ++ password ++ "@"

/-- The port in an address, after a colon; none is shown for zero. -/
def portSuffix (s : DatabaseSettings) : String :=
  match s.port with
  | none => ""
  | some port => if port = 0 then "" else ":" ++ toString port

def address (s : DatabaseSettings) : String :=
  "postgresql://" ++ s.credentials ++ s.host ++ s.portSuffix ++ "/" ++ s.name

end Tablesmith.Config.DatabaseSettings

import Tablesmith.Yaml.Construction
import Tablesmith.Yaml.Parsing

/-!
# Reading YAML

The value of a YAML text.
-/

namespace Tablesmith.Yaml

/-- The value of a text whose line ends are unified.  An empty text stands for
nothing. -/
def read (source : Source) : Except Fault Value := do
  match ← documentOf source with
  | (_, none) => return .null
  | (nodes, some root) => valueOf nodes root

end Tablesmith.Yaml

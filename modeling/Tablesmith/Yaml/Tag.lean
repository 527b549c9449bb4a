import Tablesmith.Text.Search

/-!
# Tags

The tag of a node says what value it stands for.
-/

namespace Tablesmith.Yaml

/-- The tags with a meaning.  A merge key and a value key count only as keys
of a mapping; no value has an unknown tag. -/
inductive Tag where
  | null
  | bool
  | int
  | float
  | binary
  | timestamp
  | text
  | list
  | dict
  | set
  | orderedPairs
  | pairs
  | merge
  | value
  | unknown
  deriving DecidableEq, Repr

namespace Tag

/-- What the names of all tags with a meaning begin with. -/
def commonStart : String := "tag:yaml.org,2002:"

def ofName (name : String) : Tag :=
  match Text.afterStart? name commonStart with
  | some "null" => .null
  | some "bool" => .bool
  | some "int" => .int
  | some "float" => .float
  | some "binary" => .binary
  | some "timestamp" => .timestamp
  | some "str" => .text
  | some "seq" => .list
  | some "map" => .dict
  | some "set" => .set
  | some "omap" => .orderedPairs
  | some "pairs" => .pairs
  | some "merge" => .merge
  | some "value" => .value
  | _ => .unknown

/-- Whether values with the tag hold other values. -/
def isCollection : Tag → Bool
  | .list => true
  | .dict => true
  | .set => true
  | .orderedPairs => true
  | .pairs => true
  | _ => false

end Tag

end Tablesmith.Yaml

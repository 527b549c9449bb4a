/-!
# Tokens

The tokens of a YAML text.  The text of a scalar is a list of code points,
because an escape can name half of a surrogate pair.
-/

namespace Tablesmith.Yaml

/-- A directive before a document: the version, of which the major number
counts, or what a tag handle stands for.  Others are passed over. -/
inductive Directive where
  | version (major : Nat)
  | handle (handle start : String)
  | other
  deriving DecidableEq, Repr

/-- A token. -/
inductive Token where
  | directive (d : Directive)
  | documentStart
  | documentEnd
  | streamEnd
  | blockSequenceStart
  | blockMappingStart
  | blockEnd
  | flowSequenceStart
  | flowSequenceEnd
  | flowMappingStart
  | flowMappingEnd
  | blockEntry
  | flowEntry
  | key
  | value
  | alias (name : String)
  | anchor (name : String)
  | tag (handle : Option String) (suffix : String)
  | scalar (codes : List Nat) (isPlain : Bool)
  deriving DecidableEq, Repr

end Tablesmith.Yaml

/-!
# Searching texts

Tests for a part of a text, on the list of its characters.
-/

namespace Tablesmith.Text

/-- Whether the first text begins with the second. -/
def beginsWith (text start : String) : Bool :=
  start.toList.isPrefixOf text.toList

/-- Whether a list of characters occurs inside another. -/
def occursIn (part : List Char) : List Char → Bool
  | [] => part.isEmpty
  | c :: rest => part.isPrefixOf (c :: rest) || occursIn part rest

/-- Whether the second text occurs inside the first. -/
def holds (text part : String) : Bool :=
  occursIn part.toList text.toList

/-- The rest of a text after a given start, if it begins with it. -/
def afterStart? (text start : String) : Option String :=
  if beginsWith text start then
    some (String.ofList (text.toList.drop start.toList.length))
  else
    none

end Tablesmith.Text

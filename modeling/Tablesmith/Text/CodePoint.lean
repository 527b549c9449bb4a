/-!
# Code points

A text is a sequence of characters, each with a code point.  A lone surrogate
is a code point that no character has; where a text has to show one, it shows
the replacement character.
-/

namespace Tablesmith.Text

/-- The code points of a text. -/
def codesOf (text : String) : List Nat :=
  text.toList.map Char.toNat

/-- The character that shows a code point. -/
def charOfCode (code : Nat) : Char :=
  if code.isValidChar then Char.ofNat code else '\uFFFD'

end Tablesmith.Text

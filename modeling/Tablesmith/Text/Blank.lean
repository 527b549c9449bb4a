import Tablesmith.Text.Printable

/-!
# Blank characters

The characters that count as white space when a text is trimmed: the ASCII
blanks, the four information separators, the next-line control and the
Unicode space and line separators.
-/

namespace Tablesmith.Text

/-- The code points of the blank characters, as closed ranges in order. -/
def blankRanges : List (Nat × Nat) :=
  [(0x09, 0x0d), (0x1c, 0x20), (0x85, 0x85), (0xa0, 0xa0), (0x1680, 0x1680),
    (0x2000, 0x200a), (0x2028, 0x2029), (0x202f, 0x202f), (0x205f, 0x205f),
    (0x3000, 0x3000)]

/-- Whether a character is white space. -/
def isBlank (c : Char) : Bool :=
  inRanges blankRanges c.toNat

def dropBlankEnd (cs : List Char) : List Char :=
  (cs.reverse.dropWhile isBlank).reverse

def dropBlankStart (cs : List Char) : List Char :=
  cs.dropWhile isBlank

/-- A text without the blank characters at its end. -/
def trimEnd (text : String) : String :=
  String.ofList (dropBlankEnd text.toList)

/-- A text without the blank characters at its start. -/
def trimStart (text : String) : String :=
  String.ofList (dropBlankStart text.toList)

/-- A text without the blank characters at either end. -/
def trim (text : String) : String :=
  String.ofList (dropBlankEnd (dropBlankStart text.toList))

end Tablesmith.Text

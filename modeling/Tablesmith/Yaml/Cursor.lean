import Tablesmith.Yaml.Source

/-!
# Cursors

A cursor is a place in a text whose line ends are unified: what is still to be
read, and how many characters, lines and columns lie before it.  A mark of the
byte order takes no column.

Every step forward drops the first character of the rest, so a function that
moves a cursor can be followed on the rest alone.  Where the text breaks off
with a fault, a cursor can tell whether enough of it is there.
-/

namespace Tablesmith.Yaml

/-! ## Characters -/

/-- Whether a character ends a line. -/
def isBreak (c : Char) : Bool :=
  c = '\n' || c = '\u0085' || c = '\u2028' || c = '\u2029'

/-- Whether a character is a space or a tab. -/
def isGap (c : Char) : Bool :=
  c = ' ' || c = '\t'

/-- Whether a character is a space, a tab or the end of a line. -/
def isWhite (c : Char) : Bool :=
  isGap c || isBreak c

/-- Whether a character is a space or the end of a line. -/
def isSpaceOrBreak (c : Char) : Bool :=
  c = ' ' || isBreak c

/-- Whether a character may stand in the name of an anchor or a directive. -/
def isNameChar (c : Char) : Bool :=
  c.isAlphanum || c = '-' || c = '_'

def isHexDigit (c : Char) : Bool :=
  c.isDigit || ('a' ≤ c && c ≤ 'f') || ('A' ≤ c && c ≤ 'F')

/-- Whether the first of some characters passes a test; there may be none. -/
def firstIs (test : Char → Bool) : List Char → Bool
  | [] => false
  | c :: _ => test c

/-- Whether the first of some characters passes a test, or there is none. -/
def endsOrFirst (test : Char → Bool) : List Char → Bool
  | [] => true
  | c :: _ => test c

/-- Whether characters begin with three hyphens or three points. -/
def beginsMarker (cs : List Char) : Bool :=
  ['-', '-', '-'].isPrefixOf cs || ['.', '.', '.'].isPrefixOf cs

/-- Whether characters begin with a marker between documents: three hyphens or
three points, and then white space or the end. -/
def atSeparator (cs : List Char) : Bool :=
  beginsMarker cs && endsOrFirst isWhite (cs.drop 3)

/-- The end of a line that comes first, as it counts in a scalar: a newline for
the ordinary ones, itself for the line and paragraph separators. -/
def breakFirst? : List Char → Option Char
  | [] => none
  | c :: _ =>
    if c = '\n' || c = '\u0085' then some '\n'
    else if isBreak c then some c
    else none

/-! ## Places -/

/-- A place in a text: what is still to be read of it, and the fault after
that, if the text breaks off. -/
structure Cursor where
  rest : List Char
  ending : Option Fault
  index : Nat
  line : Nat
  column : Nat
  deriving Repr

namespace Cursor

def start (source : Source) : Cursor :=
  ⟨source.text, source.fault, 0, 0, 0⟩

/-- Make sure that a number of characters are there.  The end of a text that
does not break off counts as any number of them. -/
def need (c : Cursor) (count : Nat) : Except Fault Unit :=
  match c.ending with
  | none => .ok ()
  | some fault => if count ≤ c.rest.length then .ok () else .error fault

/-- The place after the next character. -/
def forward (c : Cursor) : Cursor :=
  match c.rest with
  | [] => c
  | ch :: rest =>
    if isBreak ch then
      { c with rest, index := c.index + 1, line := c.line + 1, column := 0 }
    else if ch = '\uFEFF' then
      { c with rest, index := c.index + 1 }
    else
      { c with rest, index := c.index + 1, column := c.column + 1 }

/-- The place a number of characters ahead. -/
def forwardBy (c : Cursor) : Nat → Cursor
  | 0 => c
  | n + 1 => c.forward.forwardBy n

end Cursor

end Tablesmith.Yaml

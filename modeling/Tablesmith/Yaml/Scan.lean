import Tablesmith.Yaml.Cursor

/-!
# Scanning

A scan reads on from a cursor and gives what it read, or finds a fault.  Loops
have a budget of steps; the number of characters left and one more is always
enough, since every step but the last reads a character.

Whatever a scan looks at must be there: where the text breaks off, its fault is
found as soon as one of the missing characters is asked for.  Moving on asks
for the character at the new place, too.
-/

namespace Tablesmith.Yaml

/-- A computation that moves a cursor and may find a fault. -/
abbrev Scan := StateT Cursor (Except Fault)

namespace Scan

/-- The fault of a malformed text. -/
def malformed {α : Type} : Scan α :=
  throw .malformed

/-- Find the text malformed unless a condition holds. -/
def demand (condition : Bool) : Scan Unit :=
  if condition then pure () else malformed

/-- Ask for a number of characters. -/
def need (count : Nat) : Scan Unit := do
  let cursor ← get
  liftM (cursor.need count)

/-- What is still to be read, of which a number of characters are looked
at. -/
def ahead (count : Nat) : Scan (List Char) := do
  need count
  return (← get).rest

/-- What is still to be read, of which the first character is looked at. -/
def rest : Scan (List Char) :=
  ahead 1

def column : Scan Nat :=
  return (← get).column

/-- A budget that is enough for a loop from here. -/
def budget : Scan Nat :=
  return (← get).rest.length + 1

/-- Pass over a number of characters. -/
def forwardBy (n : Nat) : Scan Unit := do
  need (n + 1)
  modify (·.forwardBy n)

/-- Pass over one character. -/
def forward : Scan Unit :=
  forwardBy 1

/-- Read the characters that pass a test. -/
def taken (test : Char → Bool) : Scan (List Char) := do
  let passed := (← get).rest.takeWhile test
  forwardBy passed.length
  return passed

/-- Pass over the characters that pass a test. -/
def skip (test : Char → Bool) : Scan Unit := do
  let _ ← taken test

/-- Pass over spaces that lie before a column. -/
def skipSpacesTo (column : Nat) : Scan Unit := do
  let cursor ← get
  let spaces := cursor.rest.takeWhile (· = ' ')
  forwardBy (min spaces.length (column - cursor.column))

/-- Pass over a character that must be here. -/
def expect (c : Char) : Scan Unit := do
  demand (firstIs (· = c) (← rest))
  forward

/-- Pass over a comment, if one begins here. -/
def comment : Scan Unit := do
  if firstIs (· = '#') (← rest) then skip (!isBreak ·)

/-- Read the end of a line, if one is here. -/
def lineBreak : Scan (List Nat) := do
  match breakFirst? (← rest) with
  | none => return []
  | some b =>
    forward
    return [b.toNat]

/-- Pass over the rest of a line, on which nothing but a comment may stand. -/
def restOfLine : Scan Unit := do
  skip (· = ' ')
  comment
  demand (endsOrFirst isBreak (← rest))
  let _ ← lineBreak

/-- Whether a marker between documents begins here.  The character after it
counts only if the first three fit. -/
def separatorHere : Scan Bool := do
  if beginsMarker (← ahead 3) then
    return atSeparator (← ahead 4)
  else
    return false

end Scan

def codesOf (cs : List Char) : List Nat :=
  cs.map Char.toNat

/-- What stands for line ends between two parts of a scalar: an ordinary line
end alone counts as a space, and as nothing before further ones. -/
def folded (first further : List Nat) : List Nat :=
  if first = [10] then
    if further.isEmpty then [32] else further
  else
    first ++ further

end Tablesmith.Yaml

import Tablesmith.Yaml.Scan
import Tablesmith.Yaml.Token

/-!
# Block scalars

A block scalar is made of the indented lines below its header.  A literal one
keeps its line ends, a folded one joins lines that begin with text.  The
header can give the indentation, and what becomes of the last line ends.
-/

namespace Tablesmith.Yaml

open Scan

/-- What becomes of the line ends after the last line: the first is kept, none
is, or all are. -/
inductive Chomping where
  | clip
  | strip
  | keep
  deriving DecidableEq, Repr

/-- Read the sign for what becomes of the last line ends, if it is here. -/
def chomping? : Scan (Option Chomping) := do
  match ← rest with
  | '+' :: _ => forward; return some .keep
  | '-' :: _ => forward; return some .strip
  | _ => return none

/-- Read the digit of the indentation, if it is here; zero is none. -/
def increment? : Scan (Option Nat) := do
  match ← rest with
  | [] => return none
  | c :: _ =>
    if c.isDigit then
      demand (c ≠ '0')
      forward
      return some (c.toNat - 48)
    else
      return none

/-- Read the header after its mark: the sign and the digit, in either order. -/
def blockHeader : Scan (Chomping × Option Nat) := do
  let early ← chomping?
  let increment ← increment?
  let late ←
    match early, increment with
    | none, some _ => chomping?
    | _, _ => pure none
  demand (endsOrFirst isSpaceOrBreak (← rest))
  return ((early.or late).getD .clip, increment)

/-- Read the empty lines before the first line with text, within a budget of
steps: their line ends, and the widest column that spaces reach, if it is more
than the given one. -/
def blockStart (widest : Nat) : Nat → Scan (List Nat × Nat)
  | 0 => return ([], widest)
  | budget + 1 => do
    skip (· = ' ')
    let reached := max widest (← column)
    match ← lineBreak with
    | [] => return ([], reached)
    | b =>
      let (more, last) ← blockStart reached budget
      return (b ++ more, last)

/-- Read the empty lines at an indentation and the spaces before the next line
up to it, within a budget of steps. -/
def blockBreaks (indentation : Nat) : Nat → Scan (List Nat)
  | 0 => return []
  | budget + 1 => do
    skipSpacesTo indentation
    match ← lineBreak with
    | [] => return []
    | b => return b ++ (← blockBreaks indentation budget)

/-- The text of a block scalar: its lines, the line end after the last, and
the line ends below it. -/
structure BlockText where
  lines : List Nat
  ending : List Nat
  below : List Nat

/-- Whether a line of the scalar begins here. -/
def atBlockLine (indentation : Nat) : Scan Bool := do
  return (← column) = indentation && !(← rest).isEmpty

/-- What joins two lines of a block scalar: in a folded one, a space in place
of an ordinary line end between two lines that begin with text, unless empty
lines lie between them. -/
def lineJoint
    (isFolded : Bool)
    (ending : List Nat)
    (bothText : Bool)
    (below : List Nat) :
    List Nat :=
  if isFolded && ending = [10] && bothText then
    if below.isEmpty then [32] else []
  else
    ending

/-- Read the lines of a block scalar after the given line ends, within a
budget of steps. -/
def blockLines (isFolded : Bool) (indentation : Nat) (above : List Nat) :
    Nat → Scan BlockText
  | 0 => return ⟨[], [], above⟩
  | budget + 1 => do
    if ← atBlockLine indentation then
      let isText := !firstIs isGap (← rest)
      let line := codesOf (← taken (!isBreak ·))
      let ending ← lineBreak
      let below ← blockBreaks indentation (← Scan.budget)
      if ← atBlockLine indentation then
        let bothText := isText && !firstIs isGap (← rest)
        let joint := lineJoint isFolded ending bothText below
        let more ← blockLines isFolded indentation below budget
        return { more with lines := above ++ line ++ joint ++ more.lines }
      else
        return ⟨above ++ line, ending, below⟩
    else
      return ⟨[], [], above⟩

/-- Read a block scalar whose lines begin at the given column or further
right. -/
def blockScalar (isFolded : Bool) (leastColumn : Nat) : Scan Token := do
  forward
  let (chomping, increment) ← blockHeader
  restOfLine
  let (above, indentation) ←
    match increment with
    | none => do
      let (above, widest) ← blockStart 0 (← budget)
      pure (above, max leastColumn widest)
    | some n => do
      let above ← blockBreaks (leastColumn + n - 1) (← budget)
      pure (above, leastColumn + n - 1)
  let text ← blockLines isFolded indentation above (← budget)
  let kept :=
    match chomping with
    | .strip => []
    | .clip => text.ending
    | .keep => text.ending ++ text.below
  return .scalar (text.lines ++ kept) false

end Tablesmith.Yaml

import Tablesmith.Yaml.Scan
import Tablesmith.Yaml.Token

/-!
# Plain scalars

A plain scalar has no quote marks.  It ends before a colon that makes it a
key, before a comment, and before a line that is not indented enough; inside
brackets it also ends before a bracket, a comma or a question mark.
-/

namespace Tablesmith.Yaml

open Scan

/-- Whether a character is a bracket of a flow collection or a comma. -/
def isFlowMark (c : Char) : Bool :=
  [',', '[', ']', '{', '}'].contains c

/-- The characters that cannot begin a plain scalar, or can only do so before
a character that is not white. -/
def indicators : List Char :=
  ['-', '?', ':', ',', '[', ']', '{', '}', '#', '&', '*', '!', '|', '>',
    Char.ofNat 0x27, '"', '%', '@', Char.ofNat 0x60]

/-- Whether a plain scalar begins here. -/
def beginsPlain (inFlow : Bool) : List Char → Bool
  | [] => false
  | c :: more =>
    !(isWhite c || indicators.contains c) ||
      (!endsOrFirst isWhite more &&
        (c = '-' || (!inFlow && (c = '?' || c = ':'))))

/-- Whether a run of a plain scalar ends here. -/
def endsPlain (inFlow : Bool) : List Char → Bool
  | [] => true
  | c :: more =>
    isWhite c ||
      (c = ':' &&
        endsOrFirst (fun d => isWhite d || (inFlow && isFlowMark d)) more) ||
      (inFlow && (isFlowMark c || c = '?'))

/-- The characters of a plain scalar up to where the run ends. -/
def plainRun (inFlow : Bool) : List Char → List Char
  | [] => []
  | c :: more =>
    if endsPlain inFlow (c :: more) then [] else c :: plainRun inFlow more

/-- Read a run of a plain scalar.  It may be empty.  After a colon that ends it
one more character is looked at. -/
def plainPart (inFlow : Bool) : Scan (List Char) := do
  let run := plainRun inFlow (← rest)
  let more := (← ahead (run.length + 1)).drop run.length
  if firstIs (· = ':') more then
    need (run.length + 2)
  forwardBy run.length
  return run

/-- Read the line ends after the first one and the spaces around them, within
a budget of steps; nothing comes back before a marker between documents. -/
def plainBreaks : Nat → Scan (Option (List Nat))
  | 0 => return some []
  | budget + 1 => do
    if ← separatorHere then
      return none
    else
      skip (· = ' ')
      match ← lineBreak with
      | [] => return some []
      | b =>
        let further ← plainBreaks budget
        return further.map (b ++ ·)

/-- Read the gap after a run: what it counts as in the scalar, and whether a
line ended.  An empty gap ends the scalar. -/
def plainGap : Scan (List Nat × Bool) := do
  let spaces ← taken (· = ' ')
  match ← lineBreak with
  | [] => return (codesOf spaces, false)
  | first =>
    match ← plainBreaks (← budget) with
    | none => return ([], true)
    | some further => return (folded first further, true)

/-- Read the runs of a plain scalar, within a budget of steps.  The gap that
was read before counts only if another run follows.  With the text comes
whether a line ended after the last run. -/
def plainParts
    (inFlow : Bool)
    (leastColumn : Nat)
    (gap : List Nat)
    (lineEnded : Bool) :
    Nat → Scan (List Nat × Bool)
  | 0 => return ([], lineEnded)
  | budget + 1 => do
    if firstIs (· = '#') (← rest) then
      return ([], lineEnded)
    else
      match ← plainPart inFlow with
      | [] => return ([], lineEnded)
      | run =>
        let (next, ended) ← plainGap
        if next.isEmpty || (!inFlow && (← column) < leastColumn) then
          return (gap ++ codesOf run, ended)
        else
          let (more, lastEnded) ←
            plainParts inFlow leastColumn next ended budget
          return (gap ++ codesOf run ++ more, lastEnded)

/-- Read a plain scalar, and whether a line ended after it. -/
def plainScalar (inFlow : Bool) (leastColumn : Nat) : Scan (Token × Bool) := do
  let (codes, ended) ← plainParts inFlow leastColumn [] false (← budget)
  return (.scalar codes true, ended)

end Tablesmith.Yaml

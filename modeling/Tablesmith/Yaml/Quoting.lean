import Tablesmith.Yaml.Name

/-!
# Quoted scalars

A scalar in single quotes stands for itself, with a doubled quote for a quote.
In double quotes a backslash begins an escape.  Line ends are folded in both.
-/

namespace Tablesmith.Yaml

open Scan

/-- The code point of the character that an escape letter stands for. -/
def escapedLetter? (c : Char) : Option Nat :=
  match c with
  | '0' => some 0x00
  | 'a' => some 0x07
  | 'b' => some 0x08
  | 't' => some 0x09
  | '\t' => some 0x09
  | 'n' => some 0x0a
  | 'v' => some 0x0b
  | 'f' => some 0x0c
  | 'r' => some 0x0d
  | 'e' => some 0x1b
  | ' ' => some 0x20
  | '"' => some 0x22
  | '\\' => some 0x5c
  | '/' => some 0x2f
  | 'N' => some 0x85
  | '_' => some 0xa0
  | 'L' => some 0x2028
  | 'P' => some 0x2029
  | _ => none

/-- The number of hexadecimal digits after an escape letter that names a code
point. -/
def escapeWidth? (c : Char) : Option Nat :=
  match c with
  | 'x' => some 2
  | 'u' => some 4
  | 'U' => some 8
  | _ => none

/-- A code point that an escape names, if it is not too large. -/
def namedCode (code : Nat) : Except Fault Nat :=
  if code < 0x110000 then .ok code
  else if code < 0x80000000 then .error (.scalar (.range .codePoint))
  else .error (.scalar (.range (.tooLargeFor "int")))

/-- Read the line ends and the gaps around them inside a quoted scalar, within
a budget of steps.  No marker between documents may begin a line. -/
def quotedBreaks : Nat → Scan (List Nat)
  | 0 => return []
  | budget + 1 => do
    demand (!(← separatorHere))
    skip isGap
    match ← lineBreak with
    | [] => return []
    | b => return b ++ (← quotedBreaks budget)

/-- Read a gap inside a quoted scalar: spaces and tabs count, unless a line
ends after them. -/
def quotedGap : Scan (List Nat) := do
  let gap ← taken isGap
  demand (!(← rest).isEmpty)
  match ← lineBreak with
  | [] => return codesOf gap
  | first => return folded first (← quotedBreaks (← budget))

/-- Read a code point in hexadecimal digits.  They are looked at up to the
first character that is none. -/
def escapedCode (width : Nat) : Scan Nat := do
  let digits := ((← rest).take width).takeWhile isHexDigit
  need (min width (digits.length + 1))
  demand (digits.length = width)
  let code ← (namedCode (hexValue digits) : Except Fault Nat)
  forwardBy width
  return code

/-- Read an escape after its backslash. -/
def escape : Scan (List Nat) := do
  match ← rest with
  | [] => malformed
  | c :: _ =>
    match escapedLetter? c, escapeWidth? c with
    | some code, _ =>
      forward
      return [code]
    | none, some width =>
      forward
      return [← escapedCode width]
    | none, none =>
      demand (isBreak c)
      forward
      quotedBreaks (← budget)

/-- The quote mark of a scalar. -/
def quoteOf (isDouble : Bool) : Char :=
  if isDouble then '"' else Char.ofNat 0x27

/-- Whether a character stands for itself in every quoted scalar. -/
def isOrdinary (c : Char) : Bool :=
  !isWhite c && c ≠ '"' && c ≠ '\\' && c.toNat ≠ 0x27

/-- Read the part of a quoted scalar up to a gap, its quote mark or the end,
within a budget of steps. -/
def quotedRun (isDouble : Bool) : Nat → Scan (List Nat)
  | 0 => return []
  | budget + 1 => do
    let run := codesOf (← taken isOrdinary)
    match ← rest with
    | [] => return run
    | c :: _ =>
      if isWhite c then
        return run
      else if isDouble && c = '\\' then
        forward
        let code ← escape
        return run ++ code ++ (← quotedRun isDouble budget)
      else if c ≠ quoteOf isDouble then
        forward
        return run ++ [c.toNat] ++ (← quotedRun isDouble budget)
      else if isDouble then
        return run
      else if firstIs (· = c) ((← ahead 2).drop 1) then
        forwardBy 2
        return run ++ [c.toNat] ++ (← quotedRun isDouble budget)
      else
        return run

/-- Read the parts of a quoted scalar up to its quote mark, within a budget of
steps. -/
def quotedParts (isDouble : Bool) : Nat → Scan (List Nat)
  | 0 => return []
  | budget + 1 => do
    let run ← quotedRun isDouble (← Scan.budget)
    if firstIs (· = quoteOf isDouble) (← rest) then
      return run
    else
      let gap ← quotedGap
      return run ++ gap ++ (← quotedParts isDouble budget)

def quotedScalar (isDouble : Bool) : Scan Token := do
  forward
  let codes ← quotedParts isDouble (← budget)
  forward
  return .scalar codes false

end Tablesmith.Yaml

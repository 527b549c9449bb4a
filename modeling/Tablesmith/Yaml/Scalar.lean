import Tablesmith.Yaml.Fault
import Tablesmith.Yaml.Resolution

/-!
# The values of scalars

The value that the text of a scalar stands for under a tag.
-/

namespace Tablesmith.Yaml

open Tablesmith.Number

/-- The characters with the given code points; a lone surrogate counts as a
character that no number has. -/
def charsOfCodes (codes : List Nat) : List Char :=
  codes.map Text.charOfCode

/-- The fault of a number that cannot be read. -/
def ofNumberFault {α : Type} (x : Except NumberFault α) : Except Fault α :=
  x.mapError fun fault => .scalar (.number fault)

/-- The fault of a date or moment that does not exist. -/
def ofCalendarFault {α : Type} (x : Except CalendarFault α) : Except Fault α :=
  x.mapError fun fault => .scalar (.calendar fault)

/-- The parts of characters between colons. -/
def splitColons : List Char → List (List Char)
  | [] => [[]]
  | c :: rest =>
    if c = ':' then
      [] :: splitColons rest
    else
      match splitColons rest with
      | [] => [[c]]
      | part :: more => (c :: part) :: more

/-- The sign of a number without underscores, and what follows it; there has
to be something. -/
def signed (cs : List Char) : Except Fault (Bool × List Char) :=
  let unsigned := dropSign cs
  if cs.isEmpty then .error (.scalar .textIndex)
  else .ok (cs.head? = some '-', unsigned)

/-! ## Truth values -/

/-- The truth value of a word, in any capitals. -/
def boolOf (cs : List Char) : Except Fault Value :=
  let word := String.ofList (cs.map Char.toLower)
  if trueWords.contains word then .ok (.bool true)
  else if falseWords.contains word then .ok (.bool false)
  else .error (.scalar (.missingKey (.text word)))

/-! ## Numbers -/

def withoutUnderscores (cs : List Char) : List Char :=
  cs.filter (· ≠ '_')

/-- Read a whole number in a base. -/
def wholeIn (base : Nat) (cs : List Char) : Except Fault Int :=
  ofNumberFault (readInteger base (String.ofList cs))

/-- The number of base sixty with the given figures. -/
def ofSixtieths (figures : List Int) : Int :=
  figures.foldl (fun total figure => total * 60 + figure) 0

/-- The whole number that an unsigned text spells. -/
def unsignedOf (cs : List Char) : Except Fault Int :=
  match cs with
  | [] => .error (.scalar .textIndex)
  | ['0'] => .ok 0
  | '0' :: 'b' :: digits => wholeIn 2 digits
  | '0' :: 'x' :: digits => wholeIn 16 digits
  | '0' :: _ => wholeIn 8 cs
  | _ =>
    if cs.contains ':' then
      ((splitColons cs).mapM (wholeIn 10)).map ofSixtieths
    else
      wholeIn 10 cs

/-- The whole number that a text spells. -/
def integerOf (cs : List Char) : Except Fault Value := do
  let (negative, unsigned) ← signed (withoutUnderscores cs)
  let n ← unsignedOf unsigned
  return .int (if negative then -n else n)

def floatIn (cs : List Char) : Except Fault Binary64 :=
  ofNumberFault (readFloat (String.ofList cs))

/-- A natural number as a float, unless it is too large. -/
def weightOf (n : Nat) : Except Fault Binary64 :=
  let x := Binary64.ofRatio false n 1
  if x.isFinite then .ok x
  else .error (.scalar (.number .tooLargeForFloat))

/-- Add up the figures of a float of base sixty, the last first, from a weight
on. -/
def addSixtieths (total : Binary64) (weight : Nat) :
    List Binary64 → Except Fault Binary64
  | [] => .ok total
  | figure :: rest => do
    let factor ← weightOf weight
    addSixtieths (total.add (figure.times factor)) (weight * 60) rest

/-- The float that an unsigned text spells. -/
def unsignedFloatOf (cs : List Char) : Except Fault Binary64 := do
  if cs.contains ':' then
    let figures ← (splitColons cs).mapM floatIn
    addSixtieths (.ofFields false 0) 1 figures.reverse
  else
    floatIn cs

/-- The float that a text spells. -/
def floatOf (cs : List Char) : Except Fault Value := do
  let (negative, unsigned) ←
    signed ((withoutUnderscores cs).map Char.toLower)
  match String.ofList unsigned with
  | ".inf" => return .float (.infinity negative)
  | ".nan" => return .float .nan
  | _ =>
    let x ← unsignedFloatOf unsigned
    return .float (if negative then x.negate else x)

/-! ## Bytes -/

/-- The six bits that a character stands for. -/
def sextet? (c : Char) : Option Nat :=
  if c.isUpper then some (c.toNat - 65)
  else if c.isLower then some (c.toNat - 97 + 26)
  else if c.isDigit then some (c.toNat - 48 + 52)
  else if c = '+' then some 62
  else if c = '/' then some 63
  else none

/-- The bytes that characters stand for, after the given sextets of a group of
four and a number of padding marks.  Other characters are passed over; enough
padding ends the bytes, and an unfinished group is none. -/
def bytesOf (held : List Nat) (padding : Nat) : List Char → Option (List UInt8)
  | [] => if held.isEmpty then some [] else none
  | c :: rest =>
    if c = '=' then
      if held.length < 2 then bytesOf held padding rest
      else if 4 ≤ held.length + padding + 1 then some []
      else bytesOf held (padding + 1) rest
    else
      match sextet? c, held with
      | none, _ => bytesOf held padding rest
      | some d, [] => bytesOf [d] 0 rest
      | some d, [a] =>
        (bytesOf [a, d] 0 rest).map (UInt8.ofNat (a * 4 + d / 16) :: ·)
      | some d, [a, b] =>
        (bytesOf [a, b, d] 0 rest).map
          (UInt8.ofNat (b % 16 * 16 + d / 4) :: ·)
      | some d, _ :: _ :: b :: _ =>
        (bytesOf [] 0 rest).map (UInt8.ofNat (b % 4 * 64 + d) :: ·)

/-- The bytes that a text of ASCII characters stands for. -/
def binaryOf (codes : List Nat) : Except Fault Value :=
  if codes.all (· < 0x80) then
    match bytesOf [] 0 (charsOfCodes codes) with
    | some octets => .ok (.bytes octets)
    | none => .error .malformed
  else
    .error .malformed

/-! ## Dates and moments -/

/-- The date or moment with the numbers of a timestamp. -/
def momentOf (parts : TimestampParts) : Except CalendarFault Value := do
  match parts.time with
  | none =>
    let date ← Date.of parts.year parts.month parts.day
    return .date date
  | some time =>
    let offset ← time.offset.mapM offsetOf
    let date ← Date.of parts.year parts.month parts.day
    let moment ←
      Moment.of date time.hour time.minute time.second
        (microseconds time.fraction) offset
    return .moment moment

/-- The date or moment that a text spells. -/
def timestampOf (cs : List Char) : Except Fault Value :=
  match timestampParts? (withoutFinalBreak cs) with
  | some parts => ofCalendarFault (momentOf parts)
  | none => .error (.scalar (.property (.absent "NoneType" "groupdict")))

/-! ## All scalars -/

/-- The value of a scalar under a tag.  Collections have no scalar form. -/
def scalarValue (tag : Tag) (codes : List Nat) : Except Fault Value :=
  let cs := charsOfCodes codes
  match tag with
  | .null => .ok .null
  | .bool => boolOf cs
  | .int => integerOf cs
  | .float => floatOf cs
  | .binary => binaryOf codes
  | .timestamp => timestampOf cs
  | .text => .ok (Value.ofCodes codes)
  | _ => .error .malformed

end Tablesmith.Yaml

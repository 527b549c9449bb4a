import Tablesmith.Value.Calendar
import Tablesmith.Yaml.Cursor

/-!
# Timestamps

A timestamp is a date, or a date and a time of day that may have a fraction of
a second and an offset from universal time.
-/

namespace Tablesmith.Yaml

/-- The time of day in a timestamp. -/
structure TimeParts where
  hour : Nat
  minute : Nat
  second : Nat
  fraction : List Char
  offset : Option Int
  deriving Repr

/-- The numbers of a timestamp. -/
structure TimestampParts where
  year : Nat
  month : Nat
  day : Nat
  time : Option TimeParts
  deriving Repr

/-- The number that decimal digits spell. -/
def decimalValue (cs : List Char) : Nat :=
  cs.foldl (fun total c => total * 10 + (c.toNat - 48)) 0

/-- A number of exactly the given count of digits, and what follows. -/
def fixedNumber? (count : Nat) (cs : List Char) : Option (Nat × List Char) :=
  let digits := cs.take count
  if digits.length = count && digits.all Char.isDigit then
    some (decimalValue digits, cs.drop count)
  else
    none

/-- A number of one or two digits, and what follows. -/
def shortNumber? (cs : List Char) : Option (Nat × List Char) :=
  (fixedNumber? 2 cs).or (fixedNumber? 1 cs)

/-- What follows a character that must come first. -/
def after? (c : Char) : List Char → Option (List Char)
  | [] => none
  | d :: rest => if d = c then some rest else none

/-- The offset in seconds that characters spell, if they are one: a letter for
none, or a sign, hours and perhaps minutes. -/
def offset? : List Char → Option Int
  | ['Z'] => some 0
  | sign :: rest => do
    let factor ←
      if sign = '+' then some (1 : Int)
      else if sign = '-' then some (-1)
      else none
    let (hours, rest) ← shortNumber? rest
    match rest with
    | [] => some (factor * (hours * 3600 : Nat))
    | _ => do
      let (minutes, rest) ← (after? ':' rest).bind (fixedNumber? 2)
      if rest.isEmpty then some (factor * (hours * 3600 + minutes * 60 : Nat))
      else none
  | [] => none

/-- The time of day that characters spell, if they are one. -/
def timeParts? (cs : List Char) : Option TimeParts := do
  let (hour, rest) ← shortNumber? cs
  let (minute, rest) ← (after? ':' rest).bind (fixedNumber? 2)
  let (second, rest) ← (after? ':' rest).bind (fixedNumber? 2)
  let (fraction, rest) :=
    match after? '.' rest with
    | some more => (more.takeWhile Char.isDigit, more.dropWhile Char.isDigit)
    | none => ([], rest)
  if rest.isEmpty then
    some { hour, minute, second, fraction, offset := none }
  else
    let offset ← offset? (rest.dropWhile isGap)
    some { hour, minute, second, fraction, offset := some offset }

/-- What follows the mark between a date and a time of day: a letter, or
spaces and tabs. -/
def afterDate? : List Char → Option (List Char)
  | [] => none
  | c :: rest =>
    if c = 'T' || c = 't' then some rest
    else if isGap c then some (rest.dropWhile isGap)
    else none

/-- The numbers of the timestamp that characters spell, if they are one. -/
def timestampParts? (cs : List Char) : Option TimestampParts := do
  let (year, rest) ← fixedNumber? 4 cs
  let (month, rest) ← (after? '-' rest).bind shortNumber?
  let (day, rest) ← (after? '-' rest).bind shortNumber?
  if rest.isEmpty then
    some { year, month, day, time := none }
  else
    let time ← (afterDate? rest).bind timeParts?
    some { year, month, day, time := some time }

/-- The microseconds of a fraction: its first six digits. -/
def microseconds (fraction : List Char) : Nat :=
  let digits := fraction.take 6
  decimalValue digits * Nat.pow 10 (6 - digits.length)

end Tablesmith.Yaml

import Tablesmith.Number.Binary64
import Tablesmith.Text.Blank
import Tablesmith.Text.Digit
import Tablesmith.Text.Quoted

/-!
# Reading and writing numbers

Whole numbers are read in a base with an optional sign, an optional marker of
the base and single underscores between digits; decimal digits of every script
count.  In base ten neither reading nor writing goes past 4300 digits.
-/

namespace Tablesmith.Number

open Tablesmith.Text

/-- The most digits that a whole number may have in base ten when it is read
or written. -/
def digitLimit : Nat := 4300

/-- Why a text is no number, or a number has no text. -/
inductive NumberFault where
  | notInteger (base : Nat) (text : String)
  | notFloat (text : String)
  | tooManyDigits (count : Nat)
  | tooLongToWrite
  | tooLargeForFloat
  deriving DecidableEq, Repr

/-- The words about the digit limit, around the number of digits found. -/
def digitLimitMessage (found : String) : String :=
  "Exceeds the limit (" ++ toString digitLimit ++
    " digits) for integer string conversion" ++ found ++
    "; use sys.set_int_max_str_digits() to increase the limit"

def NumberFault.message : NumberFault → String
  | .notInteger base text =>
    "invalid literal for int() with base " ++ toString base ++ ": " ++
      String.ofList ((quoted text).toList.take 200)
  | .notFloat text => "could not convert string to float: " ++ quoted text
  | .tooManyDigits count =>
    digitLimitMessage (": value has " ++ toString count ++ " digits")
  | .tooLongToWrite => digitLimitMessage ""
  | .tooLargeForFloat => "int too large to convert to float"

/-- Whether a whole number has at most 4300 digits. -/
def isWritable (n : Int) : Bool :=
  n.natAbs < Nat.pow 10 digitLimit

/-- The value of a letter or ASCII digit as a digit. -/
def digitOf? (c : Char) : Option Nat :=
  if c.isDigit then some (c.toNat - 48)
  else if 'a' ≤ c && c ≤ 'z' then some (c.toNat - 97 + 10)
  else if 'A' ≤ c && c ≤ 'Z' then some (c.toNat - 65 + 10)
  else none

/-- A character as it counts in a number: a decimal digit of any script as
the ASCII digit, any blank as a space.  Any other character outside ASCII
spoils the number. -/
def plainNumeral (c : Char) : Char :=
  if c.toNat < 0x7f then c
  else if isBlank c then ' '
  else
    match digitValue? c with
    | some d => Char.ofNat (48 + d)
    | none => '?'

def isDigitIn (base : Nat) (c : Char) : Bool :=
  match digitOf? c with
  | some d => d < base
  | none => false

/-- Whether digits and underscores are in order: each underscore stands
between two digits. -/
def underscoresFit : List Char → Bool
  | [] => true
  | ['_'] => false
  | '_' :: '_' :: _ => false
  | _ :: rest => underscoresFit rest

/-- The number that digits spell in a base; other characters are skipped. -/
def ofDigits (base : Nat) (cs : List Char) : Nat :=
  cs.foldl
    (fun total c =>
      match digitOf? c with
      | some d => total * base + d
      | none => total)
    0

/-- The ASCII blanks that may surround a number. -/
def isNumberBlank (c : Char) : Bool :=
  c = ' ' || (0x09 ≤ c.toNat && c.toNat ≤ 0x0d)

/-- The rest after a marker of the base, such as `0x`, if there is one; one
underscore may follow the marker. -/
def dropBaseMarker (base : Nat) (cs : List Char) : List Char :=
  let marked (lower upper : Char) : List Char :=
    match cs with
    | '0' :: c :: rest =>
      if c = lower || c = upper then
        match rest with
        | '_' :: more => more
        | _ => rest
      else
        cs
    | _ => cs
  if base = 16 then marked 'x' 'X'
  else if base = 8 then marked 'o' 'O'
  else if base = 2 then marked 'b' 'B'
  else cs

/-- Read a whole number in the given base. -/
def readInteger (base : Nat) (text : String) : Except NumberFault Int :=
  let plain :=
    if text.toList.all fun c => c.toNat < 0x80 then text.toList
    else text.toList.map plainNumeral
  let body := plain.dropWhile isNumberBlank
  let (negative, unsigned) :=
    match body with
    | '-' :: rest => (true, rest)
    | '+' :: rest => (false, rest)
    | _ => (false, body)
  let digits := dropBaseMarker base unsigned
  let run := digits.takeWhile fun c => isDigitIn base c || c = '_'
  let rest := digits.dropWhile fun c => isDigitIn base c || c = '_'
  let count := run.countP fun c => c ≠ '_'
  if run.isEmpty || run.head? = some '_' || !underscoresFit run then
    .error (.notInteger base text)
  else if base = 10 && digitLimit < count then
    .error (.tooManyDigits count)
  else if rest.all isNumberBlank then
    let value : Int := ofDigits base run
    .ok (if negative then -value else value)
  else
    .error (.notInteger base text)

/-- The number that decimal digits with an optional point and exponent spell,
if the characters are one such number. -/
def readDecimal? (negative : Bool) (cs : List Char) : Option Binary64 :=
  let isNumeral (c : Char) : Bool := c.isDigit || c = '_'
  let whole := cs.takeWhile isNumeral
  let afterWhole := cs.dropWhile isNumeral
  let (fraction, afterFraction) :=
    match afterWhole with
    | '.' :: rest => (rest.takeWhile isNumeral, rest.dropWhile isNumeral)
    | _ => ([], afterWhole)
  let (exponent?, rest) :=
    match afterFraction with
    | e :: more =>
      if e = 'e' || e = 'E' then
        let (sign, digits) :=
          match more with
          | '-' :: d => (-1, d)
          | '+' :: d => (1, d)
          | _ => ((1 : Int), more)
        let run := digits.takeWhile isNumeral
        if run.any Char.isDigit && run.head? ≠ some '_' && underscoresFit run
        then
          (some (sign * (ofDigits 10 run : Int)), digits.dropWhile isNumeral)
        else
          (none, afterFraction)
      else
        (some 0, afterFraction)
    | [] => (some 0, [])
  let wellFormed (run : List Char) : Bool :=
    run.head? ≠ some '_' && underscoresFit run
  let digits := (whole ++ fraction).filter Char.isDigit
  let places := (fraction.filter Char.isDigit).length
  match exponent? with
  | none => none
  | some exponent =>
    if rest.isEmpty && !digits.isEmpty && wellFormed whole &&
        wellFormed fraction then
      some (Binary64.ofDecimal negative (ofDigits 10 digits)
        (exponent - places))
    else
      none

/-- Read a double: a decimal, an infinity or no-number, with an optional sign
and blanks around it. -/
def readFloat? (text : String) : Option Binary64 :=
  let plain :=
    if text.toList.all fun c => c.toNat < 0x80 then text.toList
    else text.toList.map plainNumeral
  let start := plain.dropWhile isNumberBlank
  let body := (start.reverse.dropWhile isNumberBlank).reverse
  let (negative, unsigned) :=
    match body with
    | '-' :: rest => (true, rest)
    | '+' :: rest => (false, rest)
    | _ => (false, body)
  let word := String.ofList (unsigned.map Char.toLower)
  if word = "inf" || word = "infinity" then
    some (Binary64.infinity negative)
  else if word = "nan" then
    some Binary64.nan
  else
    readDecimal? negative unsigned

/-- Read a double, or say that the text is none. -/
def readFloat (text : String) : Except NumberFault Binary64 :=
  match readFloat? text with
  | some x => .ok x
  | none => .error (.notFloat text)

end Tablesmith.Number

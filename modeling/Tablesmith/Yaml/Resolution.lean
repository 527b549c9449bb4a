import Tablesmith.Yaml.Tag
import Tablesmith.Yaml.Timestamp

/-!
# Resolving plain scalars

A plain scalar without a tag gets the tag of the first kind of value that it
spells, and else that of a text.
-/

namespace Tablesmith.Yaml

def nullWords : List String := ["~", "null", "Null", "NULL"]

def trueWords : List String :=
  ["yes", "Yes", "YES", "true", "True", "TRUE", "on", "On", "ON"]

def falseWords : List String :=
  ["no", "No", "NO", "false", "False", "FALSE", "off", "Off", "OFF"]

/-- What follows a sign, or everything if there is none. -/
def dropSign : List Char → List Char
  | '-' :: rest => rest
  | '+' :: rest => rest
  | cs => cs

/-- Whether a character is a digit or an underscore. -/
def isFigure (c : Char) : Bool :=
  c.isDigit || c = '_'

/-- Whether some characters are there and all pass a test. -/
def someAll (test : Char → Bool) (cs : List Char) : Bool :=
  !cs.isEmpty && cs.all test

/-- What follows a digit and further digits and underscores. -/
def afterFigures? : List Char → Option (List Char)
  | [] => none
  | c :: rest => if c.isDigit then some (rest.dropWhile isFigure) else none

/-- What follows the groups of a number of base sixty, each a colon and a
number below sixty, and whether there are any. -/
def afterSixtieths : List Char → List Char × Bool
  | ':' :: a :: b :: rest =>
    if a.isDigit && a ≤ '5' && b.isDigit then
      ((afterSixtieths rest).1, true)
    else if a.isDigit then
      ((afterSixtieths (b :: rest)).1, true)
    else
      (':' :: a :: b :: rest, false)
  | [':', a] => if a.isDigit then ([], true) else ([':', a], false)
  | cs => (cs, false)

/-- Whether characters are an exponent with a sign, or nothing. -/
def isExponent : List Char → Bool
  | [] => true
  | e :: sign :: digits =>
    (e = 'e' || e = 'E') && (sign = '-' || sign = '+') &&
      someAll Char.isDigit digits
  | _ => false

def isFloat (cs : List Char) : Bool :=
  let unsigned := dropSign cs
  let afterPoint :=
    match afterFigures? unsigned with
    | some ('.' :: rest) => isExponent (rest.dropWhile isFigure)
    | some rest =>
      match afterSixtieths rest with
      | ('.' :: fraction, true) => fraction.all isFigure
      | _ => false
    | none => false
  let fractionAlone :=
    match cs with
    | '.' :: rest =>
      match afterFigures? rest with
      | some more => isExponent more
      | none => false
    | _ => false
  let infinite :=
    [".inf", ".Inf", ".INF"].contains (String.ofList unsigned)
  let noNumber := [".nan", ".NaN", ".NAN"].contains (String.ofList cs)
  afterPoint || fractionAlone || infinite || noNumber

def isOctal (c : Char) : Bool :=
  '0' ≤ c && c ≤ '7'

/-- Whether characters spell a whole number. -/
def isInteger (cs : List Char) : Bool :=
  match dropSign cs with
  | ['0'] => true
  | '0' :: 'b' :: digits =>
    someAll (fun c => c = '0' || c = '1' || c = '_') digits
  | '0' :: 'x' :: digits => someAll (fun c => isHexDigit c || c = '_') digits
  | '0' :: digits => digits.all fun c => isOctal c || c = '_'
  | unsigned =>
    match afterFigures? unsigned with
    | none => false
    | some rest => rest.isEmpty || afterSixtieths rest = ([], true)

/-- Whether characters spell a timestamp; in a date alone, month and day have
two digits. -/
def isTimestamp (cs : List Char) : Bool :=
  match timestampParts? cs with
  | none => false
  | some parts => parts.time.isSome || cs.length = 10

/-- The characters without a newline at their end, if there is one. -/
def withoutFinalBreak (cs : List Char) : List Char :=
  if cs.getLast? = some '\n' then cs.dropLast else cs

/-- The tag of a plain scalar. -/
def resolvedTag (text : List Char) : Tag :=
  let cs := withoutFinalBreak text
  let word := String.ofList cs
  if text.isEmpty || nullWords.contains word then .null
  else if trueWords.contains word || falseWords.contains word then .bool
  else if isFloat cs then .float
  else if isInteger cs then .int
  else if isTimestamp cs then .timestamp
  else if word = "<<" then .merge
  else if word = "=" then .value
  else if ["!", "&", "*"].contains word then .unknown
  else .text

end Tablesmith.Yaml

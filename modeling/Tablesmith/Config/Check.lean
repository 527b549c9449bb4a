import Tablesmith.Config.Fault
import Tablesmith.Text.Utf8
import Tablesmith.Value.Display
import Tablesmith.Value.Equality

/-!
# Checking values

A check reads a value as what a field should hold, or lists what is wrong with
it.  Checks that stand side by side all run, so that every fault is found.
Bytes that hold UTF-8 count as a text; a text with a lone surrogate is none.
-/

namespace Tablesmith.Config

open Tablesmith.Number Tablesmith.Text

/-- What a check yields: what it has read, or the faults it has found. -/
abbrev Checked (α : Type) := Except (List Fault) α

namespace Checked

/-- A single problem, with the value itself. -/
def problem {α : Type} (p : Problem) : Checked α :=
  .error [⟨[], p⟩]

def faults {α : Type} : Checked α → List Fault
  | .ok _ => []
  | .error fs => fs

/-- Two checks side by side. -/
def both {α β : Type} (x : Checked α) (y : Checked β) : Checked (α × β) :=
  match x, y with
  | .ok a, .ok b => .ok (a, b)
  | _, _ => .error (x.faults ++ y.faults)

/-- A check seen from one level further out. -/
def within {α : Type} (place : Place) (x : Checked α) : Checked α :=
  x.mapError fun fs => fs.map (Fault.within place)

/-- Checks of the elements of a list, side by side, numbered from the given
position on. -/
def eachFrom {α : Type} (check : Value → Checked α) (position : Nat) :
    List Value → Checked (List α)
  | [] => .ok []
  | v :: rest =>
    ((check v).within (.item position) |>.both
      (eachFrom check (position + 1) rest)).map fun p => p.1 :: p.2

/-- Nothing, or what another check reads. -/
def orNull {α : Type} (check : Value → Checked α) (v : Value) :
    Checked (Option α) :=
  if v.isNull then .ok none else (check v).map some

end Checked

/-- A value that is given as a text, and the problem of one that is not in
UTF-8. -/
inductive GivenText where
  | text (s : String)
  | broken (inBytes : Bool)
  | none
  deriving DecidableEq, Repr

def givenText : Value → GivenText
  | .text s => .text s
  | .brokenText _ => .broken false
  | .bytes octets =>
    match ofUtf8? octets with
    | some s => .text s
    | none => .broken true
  | _ => .none

def checkText (v : Value) : Checked String :=
  match givenText v with
  | .text s => .ok s
  | .broken _ => .problem .notUnicode
  | .none => .problem .notText

def checkFilledText (v : Value) : Checked String :=
  (checkText v).bind fun s =>
    if s.isEmpty then Checked.problem .emptyText else .ok s

def checkList {α : Type} (check : Value → Checked α) (v : Value) :
    Checked (List α) :=
  match v.elements? with
  | some items => Checked.eachFrom check 0 items
  | none => .problem .notList

def checkFilledList {α : Type} (check : Value → Checked α) (v : Value) :
    Checked (List α) :=
  (checkList check v).bind fun xs =>
    if xs.isEmpty then Checked.problem .emptyList else .ok xs

/-- Check one of several words.  The words are given with what they stand
for. -/
def checkChoice {α : Type} (choices : List (String × α)) (v : Value) :
    Checked α :=
  match v with
  | .text s =>
    match choices.find? fun c => c.1 = s with
    | some c => .ok c.2
    | none => .problem (.notOneOf (choices.map Prod.fst))
  | .brokenText _ => .problem .notUnicode
  | _ => .problem (.notOneOf (choices.map Prod.fst))

def trueWords : List String := ["1", "on", "t", "true", "y", "yes"]

def falseWords : List String := ["0", "off", "f", "false", "n", "no"]

/-- A text with its ASCII letters in lower case. -/
def asciiLower (s : String) : String :=
  String.ofList (s.toList.map Char.toLower)

/-- Check a word for a truth value. -/
def checkBooleanWord (s : String) : Checked Bool :=
  let word := asciiLower s
  if trueWords.contains word then .ok true
  else if falseWords.contains word then .ok false
  else .problem .unclearBoolean

/-- Check a number for a truth value. -/
def checkBooleanNumber (n : Int) : Checked Bool :=
  if n = 0 then .ok false
  else if n = 1 then .ok true
  else .problem .unclearBoolean

/-- The largest power of two that bounds a 64-bit number. -/
def wordBound : Int := (Nat.pow 2 63 : Nat)

def checkBoolean (v : Value) : Checked Bool :=
  match v with
  | .bool b => .ok b
  | .int n =>
    if -wordBound ≤ n && n < wordBound then checkBooleanNumber n
    else .problem .notBoolean
  | .float x =>
    match x.toInt? with
    | some n =>
      if -wordBound < n && n < wordBound then checkBooleanNumber n
      else .problem .notBoolean
    | none => .problem .notBoolean
  | other =>
    match givenText other with
    | .text s => checkBooleanWord s
    | .broken true => .problem .unclearBoolean
    | .broken false => .problem .notUnicode
    | .none => .problem .notBoolean

/-- The blanks around a whole number that is given as a text: those of
Unicode, without the information separators. -/
def isPatternBlank (c : Char) : Bool :=
  isBlank c && !(0x1c ≤ c.toNat && c.toNat ≤ 0x1f)

/-- Characters without a tail of a point and zeros. -/
def dropZeroPlaces (cs : List Char) : List Char :=
  match cs.dropWhile (· ≠ '.') with
  | '.' :: d :: rest =>
    if (d :: rest).all (· = '0') then cs.takeWhile (· ≠ '.') else cs
  | _ => cs

/-- Digits without the zeros in front of them, and without the underscores
among those.  Zeros alone leave the last character. -/
def dropLeadingZeros (cs : List Char) : List Char :=
  match cs with
  | '0' :: _ =>
    match cs.dropWhile fun c => c = '0' || c = '_' with
    | [] => cs.getLast?.toList
    | rest => rest
  | _ => cs

/-- Read a whole number that is given as a text: ASCII digits with an optional
sign, single underscores between them, and places that are all zero.  After a
minus sign the digits begin with no zero, unless that is all. -/
def checkIntegerText (s : String) : Checked Int :=
  let inner :=
    ((s.toList.dropWhile isPatternBlank).reverse.dropWhile
      isPatternBlank).reverse
  let body := dropZeroPlaces inner
  let (negative, digits) :=
    match body with
    | '-' :: rest => (true, rest)
    | '+' :: rest => (false, dropLeadingZeros rest)
    | _ => (false, dropLeadingZeros body)
  let wellFormed :=
    digits.all (fun c => c.isDigit || c = '_') && digits.any Char.isDigit &&
      digits.head? ≠ some '_' && underscoresFit digits &&
      !(negative && digits.head? = some '0' && 1 < digits.length)
  if digitLimit < (digits.filter Char.isDigit).length then
    .problem .integerTooLarge
  else if wellFormed then
    let n : Int := ofDigits 10 digits
    .ok (if negative then -n else n)
  else
    .problem .unreadableInteger

/-- Check a whole number. -/
def checkInteger (v : Value) : Checked Int :=
  match v with
  | .bool b => .ok (if b then 1 else 0)
  | .int n => .ok n
  | .float x =>
    if !x.isFinite then
      .problem .notFinite
    else
      match x.toInt? with
      | none => .problem .fractionalInteger
      | some n =>
        if -wordBound < n && n < wordBound then .ok n
        else .problem .integerTooLarge
  | other =>
    match givenText other with
    | .text s => checkIntegerText s
    | .broken true => .problem .unreadableInteger
    | .broken false => .problem .notUnicode
    | .none => .problem .notInteger

/-- Check a whole number above zero. -/
def checkPositive (v : Value) : Checked Int :=
  (checkInteger v).bind fun n =>
    if 0 < n then .ok n else Checked.problem .notPositive

/-- Check a port: nothing, a whole number from 0 to 65535, or such a number
in digits. -/
def checkPort (v : Value) : Checked (Option Nat) :=
  let inRange (n : Int) : Checked (Option Nat) :=
    if 0 ≤ n && n ≤ 65535 then .ok (some n.toNat)
    else if isWritable n then .problem (.refused (.portRange n))
    else .problem (.refused (.number .tooLongToWrite))
  match v with
  | .null => .ok none
  | .bool b => .ok (some (if b then 1 else 0))
  | .int n => inRange n
  | .text s =>
    if s.isEmpty then
      .ok none
    else if isDigits s then
      match readInteger 10 s with
      | .ok n => inRange n
      | .error fault => .problem (.refused (.number fault))
    else
      .problem (.refused (.portType "str"))
  | other => .problem (.refused (.portType other.typeName))

/-- Check a default expression: a text, or any other value as its text. -/
def checkDefault (v : Value) : Checked (Option String) :=
  match v with
  | .null => .ok none
  | .text s => .ok (some s)
  | .brokenText _ => .problem .notUnicode
  | .bool b => .ok (some (if b then "true" else "false"))
  | other =>
    match other.display? with
    | .ok s => .ok (some s)
    | .error fault => .problem (.refused (.number fault))

end Tablesmith.Config

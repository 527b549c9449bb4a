import Tablesmith.Number.Reading
import Tablesmith.Text.Utf8
import Tablesmith.Yaml.Scan
import Tablesmith.Yaml.Token

/-!
# Names, tags and directives

What begins with an ampersand, an asterisk, an exclamation mark or a per cent
sign.
-/

namespace Tablesmith.Yaml

open Scan

/-! ## Anchors and aliases -/

/-- Whether a character may follow the name of an anchor. -/
def endsName (c : Char) : Bool :=
  isWhite c || ['?', ':', ',', ']', '}', '%', '@', Char.ofNat 0x60].contains c

/-- Read the name of an anchor or an alias after its mark. -/
def anchorName : Scan String := do
  forward
  let name ← taken isNameChar
  demand (!name.isEmpty)
  demand (endsOrFirst endsName (← rest))
  return String.ofList name

/-! ## Tags -/

/-- Whether a character may stand in a tag. -/
def isTagChar (c : Char) : Bool :=
  c.isAlphanum ||
    ['-', ';', '/', '?', ':', '@', '&', '=', '+', '$', ',', '_', '.', '!', '~',
      '*', '\'', '(', ')', '[', ']'].contains c

/-- The number that hexadecimal digits spell. -/
def hexValue (cs : List Char) : Nat :=
  Number.ofDigits 16 cs

/-- Read the byte that an escape spells: a per cent sign and two hexadecimal
digits. -/
def escapedByte : Scan UInt8 := do
  forward
  demand (firstIs isHexDigit (← rest))
  let digits := (← ahead 2).take 2
  demand (firstIs isHexDigit (digits.drop 1))
  forwardBy 2
  return UInt8.ofNat (hexValue digits)

/-- Read the bytes that adjacent escapes spell, within a budget of steps. -/
def escapedBytes : Nat → Scan (List UInt8)
  | 0 => return []
  | budget + 1 => do
    if firstIs (· = '%') (← rest) then
      let byte ← escapedByte
      return byte :: (← escapedBytes budget)
    else
      return []

/-- Read the characters of a tag, within a budget of steps; the bytes of
adjacent escapes are read as UTF-8. -/
def tagChars : Nat → Scan (List Char)
  | 0 => return []
  | budget + 1 => do
    match ← rest with
    | [] => return []
    | c :: _ =>
      if c = '%' then
        match Text.utf8Chars (← escapedBytes (← Scan.budget)) with
        | .error _ => malformed
        | .ok cs => return cs ++ (← tagChars budget)
      else if isTagChar c then
        forward
        return c :: (← tagChars budget)
      else
        return []

/-- Read the text of a tag, which is not empty. -/
def tagText : Scan String := do
  let cs ← tagChars (← budget)
  demand (!cs.isEmpty)
  return String.ofList cs

/-- Read a tag handle: an exclamation mark alone before a space, or a name
between two of them. -/
def tagHandle : Scan String := do
  expect '!'
  if firstIs (· = ' ') (← rest) then
    return "!"
  else
    let name ← taken isNameChar
    expect '!'
    return "!" ++ String.ofList name ++ "!"

/-- The tag with the given handle and suffix, after which white space or the
end must follow. -/
def tagEnd (handle : Option String) (suffix : String) : Scan Token := do
  demand (endsOrFirst isSpaceOrBreak (← rest))
  return .tag handle suffix

/-- Whether another exclamation mark follows that of a tag before white space
or the end. -/
def handleHere : Scan Bool := do
  let more := (← ahead 2).drop 1
  let name := more.takeWhile fun c => !isSpaceOrBreak c && c ≠ '!'
  let looked ← ahead (name.length + 2)
  return firstIs (· = '!') (looked.drop (name.length + 1))

/-- Read a tag: in angle brackets, an exclamation mark alone, or with a
handle. -/
def tag : Scan Token := do
  let more := (← ahead 2).drop 1
  if firstIs (· = '<') more then
    forwardBy 2
    let suffix ← tagText
    expect '>'
    tagEnd none suffix
  else if endsOrFirst isWhite more then
    forward
    tagEnd none "!"
  else if ← handleHere then
    let handle ← tagHandle
    tagEnd handle (← tagText)
  else
    forward
    tagEnd (some "!") (← tagText)

/-! ## Directives -/

def versionNumber : Scan Nat := do
  let digits ← taken Char.isDigit
  demand (!digits.isEmpty)
  match Number.readInteger 10 (String.ofList digits) with
  | .ok n => return n.toNat
  | .error fault => throw (.scalar (.number fault))

def version : Scan Directive := do
  skip (· = ' ')
  let major ← versionNumber
  expect '.'
  let _ ← versionNumber
  demand (endsOrFirst isSpaceOrBreak (← rest))
  return .version major

/-- Read what a tag handle stands for. -/
def handleMeaning : Scan Directive := do
  skip (· = ' ')
  let handle ← tagHandle
  demand (firstIs (· = ' ') (← rest))
  skip (· = ' ')
  let start ← tagText
  demand (endsOrFirst isSpaceOrBreak (← rest))
  return .handle handle start

/-- Pass over the words of a directive that has no meaning here. -/
def otherDirective : Scan Directive := do
  skip (!isBreak ·)
  return .other

def directive : Scan Token := do
  forward
  let name ← taken isNameChar
  demand (!name.isEmpty)
  demand (endsOrFirst isSpaceOrBreak (← rest))
  let meaning ←
    match String.ofList name with
    | "YAML" => version
    | "TAG" => handleMeaning
    | _ => otherDirective
  restOfLine
  return .directive meaning

end Tablesmith.Yaml

import Tablesmith.Text.CodePoint
import Tablesmith.Text.Printable

/-!
# Quoted texts

The quoted form of a text: single quotes around it, or double quotes if it
holds a single quote and no double quote.  The quote and the backslash are
escaped by a backslash, tab, newline and carriage return by their letter, and
any other character that is not printable by its code point in hexadecimal.

The form is defined on code points, so that texts with lone surrogates have
one too.
-/

namespace Tablesmith.Text

/-- The hexadecimal digits of a number, padded with zeros to a width. -/
def hexDigits (width number : Nat) : List Char :=
  let digits := Nat.toDigits 16 number
  List.replicate (width - digits.length) '0' ++ digits

/-- A code point written by its number, with two, four or eight digits. -/
def escapedCode (code : Nat) : List Char :=
  if code < 0x100 then
    ['\\', 'x'] ++ hexDigits 2 code
  else if code < 0x10000 then
    ['\\', 'u'] ++ hexDigits 4 code
  else
    ['\\', 'U'] ++ hexDigits 8 code

/-- One code point inside the given quote marks. -/
def quotedCode (mark code : Nat) : List Char :=
  if code = mark || code = 0x5c then
    ['\\', Char.ofNat code]
  else if code = 0x09 then
    ['\\', 't']
  else if code = 0x0a then
    ['\\', 'n']
  else if code = 0x0d then
    ['\\', 'r']
  else if isPrintableCode code then
    [Char.ofNat code]
  else
    escapedCode code

/-- The code point of the quote mark chosen for a text. -/
def quoteMark (codes : List Nat) : Nat :=
  if codes.contains 0x27 && !codes.contains 0x22 then 0x22 else 0x27

/-- The quoted form of a list of code points. -/
def quotedCodes (codes : List Nat) : String :=
  let mark := quoteMark codes
  String.ofList
    (Char.ofNat mark :: codes.flatMap (quotedCode mark) ++ [Char.ofNat mark])

def quoted (text : String) : String :=
  quotedCodes (codesOf text)

end Tablesmith.Text

import Tablesmith.Number.Shortest

/-!
# Numbers with a given number of places

A double is written with a fixed number of decimal places, with an exponent,
or in whichever of the two suits a given number of digits.  Halves go to the
even neighbour; the decimal expansion that is rounded is the exact one.
-/

namespace Tablesmith.Number

/-- A digit string with a point before the last `places` digits. -/
def withPoint (keepPoint : Bool) (places n : Nat) : List Char :=
  let digits := Nat.toDigits 10 n
  let padded := List.replicate (places + 1 - digits.length) '0' ++ digits
  let whole := padded.take (padded.length - places)
  let fraction := padded.drop (padded.length - places)
  if fraction.isEmpty then
    if keepPoint then whole ++ ['.'] else whole
  else
    whole ++ '.' :: fraction

/-- A quotient rounded to a number of places after the point. -/
def roundedAt (num den : Nat) (places : Int) : Nat :=
  let (n, d) := scaled 10 num den places
  roundHalfEven n d

def fixedPlaces (keepPoint : Bool) (places num den : Nat) : List Char :=
  withPoint keepPoint places (roundedAt num den places)

/-- The digits of a quotient rounded to `places + 1` of them, and the exponent
of the first. -/
def leadingDigits (places num den : Nat) : Nat × Int :=
  if num = 0 then
    (0, 0)
  else
    let guess := decimalExponent num den
    let n := roundedAt num den (places - guess)
    if n < Nat.pow 10 (places + 1) then (n, guess)
    else (n / 10, guess + 1)

def exponential (keepPoint : Bool) (places num den : Nat) : List Char :=
  let (n, exponent) := leadingDigits places num den
  withPoint keepPoint places n ++ 'e' :: exponentChars exponent

/-- Characters without the zeros at the end of their places, and without a
point at the end. -/
def dropZeros (cs : List Char) : List Char :=
  if cs.contains '.' then
    match cs.reverse.dropWhile (· = '0') with
    | '.' :: rest => rest.reverse
    | rest => rest.reverse
  else
    cs

/-- A quotient with a given number of digits, with an exponent if it is small
or has more digits before the point. -/
def generalDigits (keepPoint : Bool) (precision num den : Nat) : List Char :=
  let digits := max precision 1
  let (n, exponent) := leadingDigits (digits - 1) num den
  if -4 ≤ exponent && exponent < digits then
    let body :=
      fixedPlaces keepPoint (digits - 1 - exponent).toNat num den
    if keepPoint then body else dropZeros body
  else
    let body := withPoint keepPoint (digits - 1) n
    (if keepPoint then body else dropZeros body) ++
      'e' :: exponentChars exponent

end Tablesmith.Number

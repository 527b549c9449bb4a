import Tablesmith.Number.Rounding

/-!
# Doubles

Binary floating-point numbers of 64 bits, kept by their bits.  A finite number
is its mantissa times a power of two; reading a quotient rounds it to the
nearest double, and sums and products are the exact results rounded the same
way.
-/

namespace Tablesmith.Number

/-- A floating-point number of 64 bits. -/
structure Binary64 where
  bits : UInt64
  deriving DecidableEq, Repr, Inhabited

namespace Binary64

/-- Whether the sign bit is set. -/
def isNegative (x : Binary64) : Bool :=
  Nat.pow 2 63 ≤ x.bits.toNat

/-- The eleven exponent bits. -/
def exponentField (x : Binary64) : Nat :=
  x.bits.toNat / Nat.pow 2 52 % Nat.pow 2 11

/-- The fifty-two fraction bits. -/
def fractionField (x : Binary64) : Nat :=
  x.bits.toNat % Nat.pow 2 52

def isFinite (x : Binary64) : Bool :=
  x.exponentField ≠ 2047

/-- Whether the bits are no number. -/
def isNaN (x : Binary64) : Bool :=
  x.exponentField = 2047 && x.fractionField ≠ 0

/-- The mantissa of a finite number. -/
def mantissa (x : Binary64) : Nat :=
  if x.exponentField = 0 then x.fractionField
  else x.fractionField + Nat.pow 2 52

/-- The power of two that a finite number's mantissa is multiplied with. -/
def power (x : Binary64) : Int :=
  (max x.exponentField 1 : Nat) - 1075

/-- Whether the number is zero, of either sign. -/
def isZero (x : Binary64) : Bool :=
  x.exponentField = 0 && x.fractionField = 0

/-- The number with the given sign and the remaining sixty-three bits. -/
def ofFields (negative : Bool) (low : Nat) : Binary64 :=
  ⟨UInt64.ofNat ((if negative then Nat.pow 2 63 else 0) + low)⟩

def infinity (negative : Bool) : Binary64 :=
  ofFields negative (2047 * Nat.pow 2 52)

/-- The quiet no-number. -/
def nan : Binary64 :=
  ofFields false (2047 * Nat.pow 2 52 + Nat.pow 2 51)

/-- The double nearest to `num / den`, with the given sign.  A result past
the largest double is infinite. -/
def ofRatio (negative : Bool) (num den : Nat) : Binary64 :=
  if num = 0 then
    ofFields negative 0
  else
    let unit : Int := max (binaryExponent num den - 52) (-1074)
    let (n, d) := scaled 2 num den (-unit)
    let low :=
      roundHalfEven n d + (unit + 1074).toNat * Nat.pow 2 52
    if 2047 * Nat.pow 2 52 ≤ low then infinity negative
    else ofFields negative low

/-- The double nearest to `digits * 10 ^ exponent`, with the given sign.
Exponents far outside the range of doubles are settled without computing the
power. -/
def ofDecimal (negative : Bool) (digits : Nat) (exponent : Int) : Binary64 :=
  let size := exponent + digitCount digits
  if digits = 0 || size < -400 then
    ofFields negative 0
  else if 400 < size then
    infinity negative
  else
    let (num, den) := scaled 10 digits 1 exponent
    ofRatio negative num den

/-- A finite number's absolute value as a quotient. -/
def magnitude (x : Binary64) : Nat × Nat :=
  scaled 2 x.mantissa 1 x.power

/-- The whole number that a double is equal to, if there is one. -/
def toInt? (x : Binary64) : Option Int :=
  if !x.isFinite then
    none
  else
    let (num, den) := x.magnitude
    if num % den = 0 then
      let whole : Int := (num / den : Nat)
      some (if x.isNegative then -whole else whole)
    else
      none

/-- Equality of numbers: no-numbers are equal to nothing, and the two zeros
are equal. -/
def sameNumber (x y : Binary64) : Bool :=
  !x.isNaN && !y.isNaN && (x = y || (x.isZero && y.isZero))

/-- A finite number as a quotient with its sign. -/
def signedMagnitude (x : Binary64) : Int × Nat :=
  let (num, den) := x.magnitude
  (if x.isNegative then -(num : Int) else num, den)

/-- The sum of two numbers.  Opposite infinities have none, and a sum of zero
is negative only if both parts are. -/
def add (x y : Binary64) : Binary64 :=
  if x.isNaN || y.isNaN then
    nan
  else if !x.isFinite then
    if !y.isFinite && x ≠ y then nan else x
  else if !y.isFinite then
    y
  else
    let (a, b) := x.signedMagnitude
    let (c, d) := y.signedMagnitude
    let sum := a * d + c * b
    if sum = 0 then ofFields (x.isNegative && y.isNegative) 0
    else ofRatio (sum < 0) sum.natAbs (b * d)

/-- The product of two numbers.  Zero times infinity has none. -/
def times (x y : Binary64) : Binary64 :=
  let negative := x.isNegative ≠ y.isNegative
  if x.isNaN || y.isNaN then
    nan
  else if !x.isFinite || !y.isFinite then
    if x.isZero || y.isZero then nan else infinity negative
  else
    let (a, b) := x.magnitude
    let (c, d) := y.magnitude
    ofRatio negative (a * c) (b * d)

/-- The number with the opposite sign. -/
def negate (x : Binary64) : Binary64 :=
  ofFields (!x.isNegative) (x.bits.toNat % Nat.pow 2 63)

end Binary64

end Tablesmith.Number

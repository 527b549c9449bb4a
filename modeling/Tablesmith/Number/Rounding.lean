/-!
# Rounding to nearest

A quotient of natural numbers rounded to the nearest whole number, a half
going to the even neighbour, and the exponents that tell how large a quotient
is in base two and in base ten.
-/

namespace Tablesmith.Number

/-- The quotient `num / den` rounded to nearest, a half to the even side. -/
def roundHalfEven (num den : Nat) : Nat :=
  let quotient := num / den
  let twice := 2 * (num % den)
  if twice < den then
    quotient
  else if den < twice then
    quotient + 1
  else
    quotient + quotient % 2

/-- The quotient of `num` and `den` after multiplying by `base ^ power`, as a
new pair of numerator and denominator. -/
def scaled (base num den : Nat) (power : Int) : Nat × Nat :=
  if 0 ≤ power then
    (num * Nat.pow base power.toNat, den)
  else
    (num, den * Nat.pow base (-power).toNat)

/-- The largest `e` with `2 ^ e ≤ num / den`, for positive numbers. -/
def binaryExponent (num den : Nat) : Int :=
  let guess : Int := (Nat.log2 num : Int) - Nat.log2 den
  let (n, d) := scaled 2 num den (-guess)
  if d ≤ n then guess else guess - 1

/-- The number of decimal digits of a natural number. -/
def digitCount (n : Nat) : Nat :=
  (Nat.toDigits 10 n).length

/-- The largest `e` with `10 ^ e ≤ num / den`, for positive numbers. -/
def decimalExponent (num den : Nat) : Int :=
  let guess : Int := (digitCount num : Int) - digitCount den
  let (n, d) := scaled 10 num den (-guess)
  if d ≤ n then guess else guess - 1

end Tablesmith.Number

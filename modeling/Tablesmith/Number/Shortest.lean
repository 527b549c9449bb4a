import Tablesmith.Number.Binary64

/-!
# The shortest decimal of a double

The digits written for a double are the fewest that read back as the same
double; among these the ones nearest to it, and of two equally near ones the
even one.  They are found grid by grid: for one, two, … digits, the two
neighbours of the value on that decimal grid are tested against the interval
of numbers that round to the double.
-/

namespace Tablesmith.Number

/-- A decimal: `digits * 10 ^ exponent`. -/
structure Decimal where
  digits : Nat
  exponent : Int
  deriving DecidableEq, Repr

/-- The interval of numbers that round to a positive double, with its centre,
all over one denominator.  The ends belong to it if `closed`. -/
structure RoundingInterval where
  low : Nat
  value : Nat
  high : Nat
  denominator : Nat
  closed : Bool
  deriving DecidableEq, Repr

/-- The interval of numbers that round to the given positive finite double.
Below a power of two the doubles lie twice as close. -/
def RoundingInterval.of (x : Binary64) : RoundingInterval :=
  let m := x.mantissa
  let gap := if x.fractionField = 0 && 1 < x.exponentField then 1 else 2
  let (unit, den) := scaled 2 1 1 (x.power - 2)
  { low := (4 * m - gap) * unit
    value := 4 * m * unit
    high := (4 * m + 2) * unit
    denominator := den
    closed := m % 2 == 0 }

def RoundingInterval.contains (i : RoundingInterval) (num den : Nat) : Bool :=
  let point := num * i.denominator
  let low := i.low * den
  let high := i.high * den
  if i.closed then low ≤ point && point ≤ high else low < point && point < high

/-- The point nearest to the centre among the centre's two neighbours on the
grid of multiples of `10 ^ exponent`, if one lies in the interval. -/
def RoundingInterval.onGrid? (i : RoundingInterval) (exponent : Int) :
    Option Decimal :=
  let (unit, den) := scaled 10 1 1 exponent
  let below := i.value * den / (i.denominator * unit)
  let above := below + 1
  let hitBelow := i.contains (below * unit) den
  let hitAbove := i.contains (above * unit) den
  let twice := 2 * i.value * den
  let middle := (below + above) * unit * i.denominator
  let nearest :=
    if twice < middle then below
    else if middle < twice then above
    else if below % 2 = 0 then below else above
  if hitBelow && hitAbove then
    some ⟨nearest, exponent⟩
  else if hitBelow then
    some ⟨below, exponent⟩
  else if hitAbove then
    some ⟨above, exponent⟩
  else
    none

/-- The decimal without zeros at its end; `fuel` bounds the zeros removed. -/
def Decimal.dropZeros (d : Decimal) : Nat → Decimal
  | 0 => d
  | fuel + 1 =>
    if d.digits ≠ 0 && d.digits % 10 = 0 then
      Decimal.dropZeros ⟨d.digits / 10, d.exponent + 1⟩ fuel
    else
      d

/-- The shortest decimal that reads back as the given positive finite
double.  Seventeen digits always suffice. -/
def shortestDecimal (x : Binary64) : Decimal :=
  let i := RoundingInterval.of x
  let top := decimalExponent i.value i.denominator
  let found := (List.range 17).findSome? fun (k : Nat) => i.onGrid? (top - k)
  (found.getD ⟨0, 0⟩).dropZeros 20

/-- Digits with the decimal point after the first `point` of them, and at
least one digit on either side. -/
def positional (digits : List Char) (point : Int) : List Char :=
  if point ≤ 0 then
    ['0', '.'] ++ List.replicate (-point).toNat '0' ++ digits
  else
    let whole := point.toNat
    if digits.length ≤ whole then
      digits ++ List.replicate (whole - digits.length) '0' ++ ['.', '0']
    else
      digits.take whole ++ '.' :: digits.drop whole

/-- A sign and at least two digits of an exponent. -/
def exponentChars (exponent : Int) : List Char :=
  let power := Nat.toDigits 10 exponent.natAbs
  (if exponent < 0 then '-' else '+') ::
    List.replicate (2 - power.length) '0' ++ power

/-- Digits with the point after the first and a signed exponent of at least
two digits. -/
def scientific (digits : List Char) (exponent : Int) : List Char :=
  let lead :=
    match digits with
    | [] => []
    | first :: [] => [first]
    | first :: rest => first :: '.' :: rest
  lead ++ 'e' :: exponentChars exponent

/-- The text of a double: its shortest digits, written with a point between
`0.0001` and `10 ^ 16`, and with an exponent otherwise. -/
def Binary64.text (x : Binary64) : String :=
  if x.isNaN then
    "nan"
  else
    let sign := if x.isNegative then "-" else ""
    if !x.isFinite then
      sign ++ "inf"
    else if x.isZero then
      sign ++ "0.0"
    else
      let d := shortestDecimal x
      let digits := Nat.toDigits 10 d.digits
      let point := d.exponent + digits.length
      let body :=
        if -4 < point && point ≤ 16 then
          positional digits point
        else
          scientific digits (point - 1)
      sign ++ String.ofList body

end Tablesmith.Number

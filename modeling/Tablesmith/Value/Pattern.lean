import Tablesmith.Failure
import Tablesmith.Number.Places

/-!
# Patterns

A pattern is a text with conversions, each of which begins with a percent sign
and ends with a letter: it is replaced by the next argument, or by the one
with a given name.  Flags, a width and a precision say how.

Pieces of a pattern are read one character at a time.  What is wrong with a
conversion is only noticed when everything before it has been replaced.
-/

namespace Tablesmith.Pattern

open Tablesmith.Number Tablesmith.Text

/-- A width or a precision: none, a number, or the next argument. -/
inductive Measure where
  | none
  | fixed (n : Nat)
  | argument
  deriving DecidableEq, Repr

/-- A conversion, as far as it has been read. -/
structure Conversion where
  key : Option String
  flags : List Char
  width : Measure
  precision : Measure
  deriving DecidableEq, Repr

/-- A conversion of which nothing has been read. -/
def Conversion.start : Conversion := ⟨none, [], .none, .none⟩

/-- A piece of a pattern. -/
inductive Piece where
  | literal (c : Char)
  | convert (conversion : Conversion) (letter : Char) (position : Nat)
  | broken (conversion : Conversion) (fault : RangeFault)
  deriving Repr

/-- Which part of a pattern comes next. -/
inductive Phase where
  | plain
  | opened
  | key (depth : Nat) (reversed : List Char)
  | flags
  | width
  | afterWidth
  | precision
  | afterPrecision
  | letter
  deriving DecidableEq, Repr

/-- The state of reading a pattern; the pieces come in reverse. -/
structure Reader where
  phase : Phase
  conversion : Conversion
  position : Nat
  pieces : List Piece
  deriving Repr

/-- The largest width. -/
def maxWidth : Nat := 0x7FFFFFFFFFFFFFFF

/-- The largest precision. -/
def maxPrecision : Nat := 0x7FFFFFFF

/-- A measure with a digit more, unless it gets larger than a given size. -/
def Measure.addDigit? (largest : Nat) (m : Measure) (c : Char) :
    Option Measure :=
  let digit := c.toNat - 48
  match m with
  | .fixed n =>
    if n ≤ (largest - digit) / 10 then some (.fixed (n * 10 + digit))
    else Option.none
  | _ => some (.fixed digit)

namespace Reader

/-- End a conversion with its letter. -/
def finish (r : Reader) (c : Char) : Reader :=
  { r with
    phase := .plain
    pieces := .convert r.conversion c r.position :: r.pieces }

/-- End a conversion that cannot be read on. -/
def breakOff (r : Reader) (fault : RangeFault) : Reader :=
  { r with
    phase := .plain
    pieces := .broken r.conversion fault :: r.pieces }

/-- What may follow a precision: a size letter, which does not count, or the
letter of the conversion. -/
def readSize (r : Reader) (c : Char) : Reader :=
  if ['h', 'l', 'L'].contains c then { r with phase := .letter }
  else r.finish c

/-- What may follow a width: a point before a precision, or what follows
that. -/
def readPoint (r : Reader) (c : Char) : Reader :=
  if c = '.' then
    { r with
      phase := .precision
      conversion := { r.conversion with precision := .fixed 0 } }
  else
    r.readSize c

/-- What may follow the flags: a width, or what follows that. -/
def readWidth (r : Reader) (c : Char) : Reader :=
  let k := r.conversion
  if c = '*' && k.width = .none then
    { r with
      phase := .afterWidth
      conversion := { k with width := .argument } }
  else if c.isDigit then
    match k.width.addDigit? maxWidth c with
    | some width =>
      { r with
        phase := .width
        conversion := { k with width } }
    | none => r.breakOff .widthTooBig
  else
    r.readPoint c

def readFlags (r : Reader) (c : Char) : Reader :=
  if ['-', '+', ' ', '#', '0'].contains c then
    { r with
      phase := .flags
      conversion := { r.conversion with flags := c :: r.conversion.flags } }
  else
    r.readWidth c

def readPrecision (r : Reader) (c : Char) : Reader :=
  let k := r.conversion
  if c = '*' && k.precision = .fixed 0 then
    { r with
      phase := .afterPrecision
      conversion := { k with precision := .argument } }
  else if c.isDigit then
    match k.precision.addDigit? maxPrecision c with
    | some precision => { r with conversion := { k with precision } }
    | none => r.breakOff .precisionTooBig
  else
    r.readSize c

/-- One character of a name between parentheses, which may hold more of
them. -/
def readKey (r : Reader) (depth : Nat) (reversed : List Char) (c : Char) :
    Reader :=
  if c = ')' && depth = 0 then
    { r with
      phase := .flags
      conversion :=
        { r.conversion with key := some (String.ofList reversed.reverse) } }
  else
    let inner :=
      if c = '(' then depth + 1 else if c = ')' then depth - 1 else depth
    { r with phase := .key inner (c :: reversed) }

def step (r : Reader) (c : Char) : Reader :=
  let after :=
    match r.phase with
    | .plain =>
      if c = '%' then { r with phase := .opened, conversion := .start }
      else { r with pieces := .literal c :: r.pieces }
    | .opened =>
      if c = '%' then
        { r with phase := .plain, pieces := .literal c :: r.pieces }
      else if c = '(' then
        { r with phase := .key 0 [] }
      else
        r.readFlags c
    | .key depth reversed => r.readKey depth reversed c
    | .flags => r.readFlags c
    | .width => r.readWidth c
    | .afterWidth => r.readPoint c
    | .precision => r.readPrecision c
    | .afterPrecision => r.readSize c
    | .letter => r.finish c
  { after with position := r.position + 1 }

end Reader

def pieces (pattern : String) : List Piece :=
  let r := pattern.toList.foldl Reader.step ⟨.plain, .start, 0, []⟩
  let ending : List Piece :=
    match r.phase with
    | .plain => []
    | .key _ _ => [.broken ⟨some "", [], .none, .none⟩ .incompleteKey]
    | _ => [.broken r.conversion .incompleteFormat]
  r.pieces.reverse ++ ending

/-- What a pattern is filled with: arguments in a row, entries with names, or
a single value that was found under a name. -/
structure Arguments where
  row : List Value
  entries : Option (List (Value × Value))
  deriving Repr

def Arguments.ofRow (row : List Value) : Arguments := ⟨row, none⟩

/-- Entries with names, which also stand for themselves. -/
def Arguments.ofEntries (entries : List (Value × Value)) : Arguments :=
  ⟨[.dict entries], some entries⟩

def Arguments.next (a : Arguments) : Except Failure (Value × Arguments) :=
  match a.row with
  | [] => .error (.call .argumentsMissing)
  | v :: rest => .ok (v, { a with row := rest })

/-- The arguments at a conversion with a name: the value under it. -/
def Arguments.select (a : Arguments) (key : Option String) :
    Except Failure Arguments :=
  match key with
  | none => .ok a
  | some name =>
    match a.entries with
    | none => .error (.call .needsMapping)
    | some entries =>
      match Value.lookupText? entries name with
      | some v => .ok { a with row := [v] }
      | none => .error (.missingKey (.text name))

/-- The flags and the measures of a conversion, once they are known. -/
structure Layout where
  left : Bool
  plus : Bool
  space : Bool
  alternate : Bool
  zero : Bool
  width : Nat
  precision : Option Nat
  deriving DecidableEq, Repr

/-- The size of a measure.  An argument has to fit into the machine type with
the given largest number, and may be negative. -/
def measure (type : String) (largest : Nat) (m : Measure) (a : Arguments) :
    Except Failure (Option Int × Arguments) :=
  match m with
  | .none => .ok (none, a)
  | .fixed n => .ok (some n, a)
  | .argument =>
    match a.next with
    | .error e => .error e
    | .ok (.int n, rest) =>
      if -(largest : Int) ≤ n + 1 && n ≤ largest then .ok (some n, rest)
      else .error (.range (.tooLargeFor type))
    | .ok (.bool b, rest) => .ok (some (if b then 1 else 0), rest)
    | .ok _ => .error (.call .needsWholeWidth)

/-- The layout that a conversion asks for; a negative width means a width to
the left. -/
def layout (k : Conversion) (a : Arguments) :
    Except Failure (Layout × Arguments) := do
  let (width, a) ← measure "ssize_t" maxWidth k.width a
  let (precision, a) ← measure "int" maxPrecision k.precision a
  let has (c : Char) : Bool := k.flags.contains c
  let size := width.getD 0
  return (
    { left := has '-' || size < 0
      plus := has '+'
      space := has ' '
      alternate := has '#'
      zero := has '0'
      width := size.natAbs
      precision := precision.map Int.toNat }, a)

/-- Fill a text with spaces to its width. -/
def Layout.padText (l : Layout) (cs : List Char) : List Char :=
  let fill := List.replicate (l.width - cs.length) ' '
  if l.left then cs ++ fill else fill ++ cs

/-- Fill a number to its width: zeros go between sign and digits. -/
def Layout.padNumber (l : Layout) (sign body : List Char) : List Char :=
  let missing := l.width - (sign.length + body.length)
  if l.left then sign ++ body ++ List.replicate missing ' '
  else if l.zero then sign ++ List.replicate missing '0' ++ body
  else List.replicate missing ' ' ++ sign ++ body

def Layout.sign (l : Layout) (negative : Bool) : List Char :=
  if negative then ['-']
  else if l.plus then ['+']
  else if l.space then [' ']
  else []

def asciiInspect (v : Value) : List Char :=
  v.inspect.toList.flatMap fun c =>
    if c.toNat < 0x80 then [c] else escapedCode c.toNat

def convertText (l : Layout) (cs : List Char) : List Char :=
  l.padText (match l.precision with
    | none => cs
    | some n => cs.take n)

/-- Read a value as a whole number, for a conversion with the given letter. -/
def wholeOf (letter : Char) (v : Value) : Except Failure Int :=
  let shown := String.ofList [letter]
  let inBase := ['o', 'x', 'X'].contains letter
  match v with
  | .int n => .ok n
  | .bool b => .ok (if b then 1 else 0)
  | .float x =>
    if inBase then .error (.call (.needsInteger shown "float"))
    else if x.isNaN then .error (.range .wholeOfNaN)
    else if !x.isFinite then .error (.range .wholeOfInfinity)
    else
      let (num, den) := x.magnitude
      let whole : Int := (num / den : Nat)
      .ok (if x.isNegative then -whole else whole)
  | other =>
    if inBase then .error (.call (.needsInteger shown other.typeName))
    else .error (.call (.needsNumber shown other.typeName))

def convertWhole (l : Layout) (letter : Char) (n : Int) :
    Except Failure (List Char) :=
  let base := if letter = 'o' then 8 else if letter.toLower = 'x' then 16 else 10
  if maxPrecision - 3 < l.precision.getD 0 then
    .error (.range .precisionTooLarge)
  else if base = 10 && !isWritable n then
    .error (.number .tooLongToWrite)
  else
    let plain := Nat.toDigits base n.natAbs
    let digits := if letter = 'X' then plain.map Char.toUpper else plain
    let missing := (l.precision.getD 0) - digits.length
    let marker :=
      if l.alternate && base ≠ 10 then ['0', letter] else []
    .ok (l.padNumber (l.sign (n < 0) ++ marker)
      (List.replicate missing '0' ++ digits))

def doubleOf (v : Value) : Except Failure Binary64 :=
  match v with
  | .float x => .ok x
  | .bool b => .ok (Binary64.ofRatio false (if b then 1 else 0) 1)
  | .int n =>
    let x := Binary64.ofRatio (n < 0) n.natAbs 1
    if x.isFinite then .ok x else .error (.number .tooLargeForFloat)
  | other => .error (.call (.needsReal other.typeName))

def convertDouble (l : Layout) (letter : Char) (x : Binary64) : List Char :=
  let places := l.precision.getD 6
  let (num, den) := x.magnitude
  let body :=
    if x.isNaN then ['n', 'a', 'n']
    else if !x.isFinite then ['i', 'n', 'f']
    else if letter.toLower = 'f' then fixedPlaces l.alternate places num den
    else if letter.toLower = 'e' then exponential l.alternate places num den
    else generalDigits l.alternate places num den
  let cased := if letter.isUpper then body.map Char.toUpper else body
  l.padNumber (l.sign (x.isNegative && !x.isNaN)) cased

def convertCharacter (v : Value) : Except Failure (List Char) :=
  let ofCode (n : Int) : Except Failure (List Char) :=
    if 0 ≤ n && n < 0x110000 then .ok [charOfCode n.toNat]
    else .error (.range .characterCode)
  match v with
  | .text s =>
    match s.toList with
    | [c] => .ok [c]
    | _ => .error (.call .needsCharacter)
  | .brokenText [point] => .ok [charOfCode point]
  | .int n => ofCode n
  | .bool b => ofCode (if b then 1 else 0)
  | _ => .error (.call .needsCharacter)

def convert (l : Layout) (letter : Char) (position : Nat) (v : Value) :
    Except Failure (List Char) :=
  let shown (text : List Char) : Except Failure (List Char) :=
    if v.isWritable then .ok (convertText l text)
    else .error (.number .tooLongToWrite)
  match letter with
  | 's' => shown v.display.toList
  | 'r' => shown v.inspect.toList
  | 'a' => shown (asciiInspect v)
  | 'c' => (convertCharacter v).map l.padText
  | _ =>
    if ['d', 'i', 'u', 'o', 'x', 'X'].contains letter then do
      convertWhole l letter (← wholeOf letter v)
    else if ['e', 'E', 'f', 'F', 'g', 'G'].contains letter then do
      return convertDouble l letter (← doubleOf v)
    else
      .error (.range (.badConversion (String.ofList [letter]) position))

def fillPiece (a : Arguments) : Piece → Except Failure (List Char × Arguments)
  | .literal c => .ok ([c], a)
  | .broken k fault =>
    match fault, a.entries with
    | .incompleteKey, none => .error (.call .needsMapping)
    | _, _ => do
      let a ← if fault = .incompleteKey then .ok a else a.select k.key
      let _ ← layout k a
      .error (.range fault)
  | .convert k letter position => do
    let a ← a.select k.key
    let (l, a) ← layout k a
    let (v, a) ← a.next
    let cs ← convert l letter position v
    return (cs, a)

/-- Fill pieces in a row.  Arguments that are left over are a fault, unless
they have names. -/
def fillPieces (a : Arguments) : List Piece → Except Failure (List Char)
  | [] =>
    if a.row.isEmpty || a.entries.isSome then .ok []
    else .error (.call .argumentsLeft)
  | p :: rest => do
    let (cs, a) ← fillPiece a p
    let more ← fillPieces a rest
    return cs ++ more

def fill (pattern : String) (a : Arguments) : Except Failure String :=
  (fillPieces a (pieces pattern)).map String.ofList

end Tablesmith.Pattern

import Tablesmith.Number.Binary64
import Tablesmith.Text.CodePoint
import Tablesmith.Value.Calendar

/-!
# Values

A value is what a configuration file can hold and what a caller can hand to a
builder: nothing, a truth value, a number, a text, bytes, a date, a moment, a
member of one of the schema enumerations, or a collection of values.

A text with a lone surrogate is no sequence of characters; it is kept apart as
its code points.  A collection that contains itself is written with a back
reference, which names an enclosing collection by the number of levels to
climb; reading the elements of a collection unfolds the references to it.
-/

namespace Tablesmith

open Tablesmith.Number Tablesmith.Text

/-- The types that a column may have. -/
inductive ColumnType where
  | autoIncrement
  | number
  | string
  | boolean
  | dateTime
  | guid
  | decimal
  deriving DecidableEq, Repr

/-- The kinds of constraint. -/
inductive ConstraintType where
  | primaryKey
  | foreignKey
  | unique
  deriving DecidableEq, Repr

/-- What a foreign key does when the row it points at changes or goes. -/
inductive ReferentialAction where
  | cascade
  | setNull
  deriving DecidableEq, Repr

/-- A member of one of the schema enumerations. -/
inductive Member where
  | column (type : ColumnType)
  | constraint (type : ConstraintType)
  | action (action : ReferentialAction)
  deriving DecidableEq, Repr

/-- A value. -/
inductive Value where
  | null
  | bool (b : Bool)
  | int (n : Int)
  | float (x : Binary64)
  | text (s : String)
  | brokenText (codes : List Nat)
  | bytes (octets : List UInt8)
  | date (d : Date)
  | moment (m : Moment)
  | member (m : Member)
  | list (items : List Value)
  | tuple (items : List Value)
  | set (items : List Value)
  | dict (entries : List (Value × Value))
  | enclosing (levels : Nat) (isDict : Bool)
  deriving Repr, Inhabited

namespace Value

abbrev columnType (type : ColumnType) : Value := .member (.column type)

abbrev constraintType (type : ConstraintType) : Value :=
  .member (.constraint type)

abbrev referentialAction (action : ReferentialAction) : Value :=
  .member (.action action)

/-- Whether a value counts as true: zeros, nothing and empty texts and
collections do not. -/
def truthy : Value → Bool
  | .null => false
  | .bool b => b
  | .int n => n ≠ 0
  | .float x => !x.isZero
  | .text s => !s.isEmpty
  | .brokenText points => !points.isEmpty
  | .bytes octets => !octets.isEmpty
  | .date _ => true
  | .moment _ => true
  | .member _ => true
  | .list items => !items.isEmpty
  | .tuple items => !items.isEmpty
  | .set items => !items.isEmpty
  | .dict entries => !entries.isEmpty
  | .enclosing _ _ => true

def typeName : Value → String
  | .null => "NoneType"
  | .bool _ => "bool"
  | .int _ => "int"
  | .float _ => "float"
  | .text _ => "str"
  | .brokenText _ => "str"
  | .bytes _ => "bytes"
  | .date _ => "date"
  | .moment _ => "datetime"
  | .member (.column _) => "ColumnType"
  | .member (.constraint _) => "ConstraintType"
  | .member (.action _) => "ForeignKeyAction"
  | .list _ => "list"
  | .tuple _ => "tuple"
  | .set _ => "set"
  | .dict _ => "dict"
  | .enclosing _ isDict => if isDict then "dict" else "list"

def isNull : Value → Bool
  | .null => true
  | _ => false

/-- The characters of a proper text. -/
def text? : Value → Option String
  | .text s => some s
  | _ => none

/-- Whether a value is a text, a proper one or one with lone surrogates. -/
def isAnyText : Value → Bool
  | .text _ => true
  | .brokenText _ => true
  | _ => false

/-- The code points of a text; nothing else has any. -/
def codes : Value → List Nat
  | .text s => codesOf s
  | .brokenText points => points
  | _ => []

/-- The text with the given code points; a lone surrogate breaks it. -/
def ofCodes (points : List Nat) : Value :=
  if points.all fun point => point.isValidChar then
    .text (String.ofList (points.map charOfCode))
  else
    .brokenText points

/-- Texts joined by a separator. -/
def joined (separator : String) (texts : List Value) : Value :=
  ofCodes (List.intercalate (codesOf separator) (texts.map codes))

mutual

/-- Replace the references that climb `depth` levels out of this value by
`whole`. -/
def unfold (whole : Value) (depth : Nat) : Value → Value
  | .enclosing levels isDict =>
    if levels = depth then whole else .enclosing levels isDict
  | .list items => .list (unfoldAll whole (depth + 1) items)
  | .tuple items => .tuple (unfoldAll whole (depth + 1) items)
  | .set items => .set (unfoldAll whole (depth + 1) items)
  | .dict entries => .dict (unfoldEntries whole (depth + 1) entries)
  | v => v

def unfoldAll (whole : Value) (depth : Nat) : List Value → List Value
  | [] => []
  | v :: rest => unfold whole depth v :: unfoldAll whole depth rest

/-- Unfold the value of every entry; keys contain no references. -/
def unfoldEntries (whole : Value) (depth : Nat) :
    List (Value × Value) → List (Value × Value)
  | [] => []
  | (k, v) :: rest => (k, unfold whole depth v) :: unfoldEntries whole depth rest

end

def entries? : Value → Option (List (Value × Value))
  | .dict entries => some (unfoldEntries (.dict entries) 0 entries)
  | _ => none

/-- The elements of a list, a tuple or a set. -/
def elements? : Value → Option (List Value)
  | .list items => some (unfoldAll (.list items) 0 items)
  | .tuple items => some (unfoldAll (.tuple items) 0 items)
  | .set items => some (unfoldAll (.set items) 0 items)
  | _ => none

/-- What a value yields one by one: a text its characters, bytes their numbers,
a dictionary its keys, any other collection its elements. -/
def parts? : Value → Option (List Value)
  | .text s => some ((codesOf s).map fun code => ofCodes [code])
  | .brokenText points => some (points.map fun point => ofCodes [point])
  | .bytes octets => some (octets.map fun octet => .int octet.toNat)
  | .dict entries => some (entries.map Prod.fst)
  | v => v.elements?

end Value

end Tablesmith

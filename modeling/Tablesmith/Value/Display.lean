import Tablesmith.Number.Reading
import Tablesmith.Number.Shortest
import Tablesmith.Text.Quoted
import Tablesmith.Value.Basic

/-!
# The texts of values

Each value has two texts.  Its inspected form is unambiguous: texts are quoted
and members are shown with their stored word.  Its displayed form is the text
itself for a text and the qualified name for a member, and the inspected form
for everything that is made of other values.
-/

namespace Tablesmith

open Tablesmith.Number Tablesmith.Text

/-- The name of a column type in the enumeration. -/
def ColumnType.name : ColumnType → String
  | .autoIncrement => "AUTO_INCREMENT"
  | .number => "NUMBER"
  | .string => "STRING"
  | .boolean => "BOOLEAN"
  | .dateTime => "DATE_TIME"
  | .guid => "GUID"
  | .decimal => "DECIMAL"

/-- The word stored for a column type. -/
def ColumnType.word : ColumnType → String
  | .autoIncrement => "auto_increment"
  | .number => "number"
  | .string => "string"
  | .boolean => "boolean"
  | .dateTime => "date_time"
  | .guid => "guid"
  | .decimal => "decimal"

/-- The name of a constraint type in the enumeration. -/
def ConstraintType.name : ConstraintType → String
  | .primaryKey => "PRIMARY_KEY"
  | .foreignKey => "FOREIGN_KEY"
  | .unique => "UNIQUE"

/-- The word stored for a constraint type. -/
def ConstraintType.word : ConstraintType → String
  | .primaryKey => "primary_key"
  | .foreignKey => "foreign_key"
  | .unique => "unique"

/-- The name of a referential action in the enumeration. -/
def ReferentialAction.name : ReferentialAction → String
  | .cascade => "CASCADE"
  | .setNull => "SET_NULL"

/-- The word stored for a referential action. -/
def ReferentialAction.word : ReferentialAction → String
  | .cascade => "cascade"
  | .setNull => "set_null"

/-- The qualified name of a member. -/
def Member.display : Member → String
  | .column t => "ColumnType." ++ t.name
  | .constraint t => "ConstraintType." ++ t.name
  | .action a => "ForeignKeyAction." ++ a.name

/-- The word stored for a member. -/
def Member.word : Member → String
  | .column t => t.word
  | .constraint t => t.word
  | .action a => a.word

/-- The qualified name of a member with its stored word. -/
def Member.inspect (m : Member) : String :=
  "<" ++ m.display ++ ": " ++ quoted m.word ++ ">"

/-- The quoted form of bytes: those that are no printable ASCII are written
as an escape. -/
def bytesInspect (octets : List UInt8) : String :=
  let codes := octets.map UInt8.toNat
  let mark := quoteMark codes
  let one (code : Nat) : List Char :=
    if code < 0x80 then quotedCode mark code
    else ['\\', 'x'] ++ hexDigits 2 code
  String.ofList
    ('b' :: Char.ofNat mark :: codes.flatMap one ++ [Char.ofNat mark])

/-- An opening bracket, comma-separated texts and a closing bracket. -/
def bracketed (opening : String) (parts : List String) (closing : String) :
    String :=
  opening ++ String.intercalate ", " parts ++ closing

/-- A tuple of elements with the given texts; a comma follows a single one. -/
def tupleText : List String → String
  | [only] => "(" ++ only ++ ",)"
  | parts => bracketed "(" parts ")"

/-- A set of elements with the given texts. -/
def setText : List String → String
  | [] => "set()"
  | parts => bracketed "\x7b" parts "\x7d"

namespace Value

mutual

def inspect : Value → String
  | .null => "None"
  | .bool b => if b then "True" else "False"
  | .int n => toString n
  | .float x => x.text
  | .text s => quoted s
  | .brokenText codes => quotedCodes codes
  | .bytes octets => bytesInspect octets
  | .date d => d.inspect
  | .moment m => m.inspect
  | .member m => m.inspect
  | .list items => bracketed "[" (inspectAll items) "]"
  | .tuple items => tupleText (inspectAll items)
  | .set items => setText (inspectAll items)
  | .dict entries => bracketed "\x7b" (inspectEntries entries) "\x7d"
  | .enclosing _ isDict => if isDict then "\x7b...\x7d" else "[...]"

def inspectAll : List Value → List String
  | [] => []
  | v :: rest => inspect v :: inspectAll rest

/-- The inspected forms of the entries of a dictionary. -/
def inspectEntries : List (Value × Value) → List String
  | [] => []
  | (k, v) :: rest => (inspect k ++ ": " ++ inspect v) :: inspectEntries rest

end

/-- The displayed form of a value.  It shows each lone surrogate of a text by
the replacement character. -/
def display : Value → String
  | .text s => s
  | .brokenText points => String.ofList (points.map charOfCode)
  | .date d => d.text
  | .moment m => m.text
  | .member m => m.display
  | v => v.inspect

mutual

/-- Whether every whole number in a value can be written in base ten. -/
def isWritable : Value → Bool
  | .int n => Number.isWritable n
  | .list items => allWritable items
  | .tuple items => allWritable items
  | .set items => allWritable items
  | .dict entries => allEntriesWritable entries
  | _ => true

/-- Whether every value of a list can be written. -/
def allWritable : List Value → Bool
  | [] => true
  | v :: rest => isWritable v && allWritable rest

/-- Whether every key and value of a dictionary can be written. -/
def allEntriesWritable : List (Value × Value) → Bool
  | [] => true
  | (k, v) :: rest => isWritable k && isWritable v && allEntriesWritable rest

end

/-- The displayed form of a value whose numbers can be written. -/
def display? (v : Value) : Except NumberFault String :=
  if v.isWritable then .ok v.display else .error .tooLongToWrite

end Value

end Tablesmith

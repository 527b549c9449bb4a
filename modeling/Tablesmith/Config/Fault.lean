import Tablesmith.Number.Reading
import Tablesmith.Text.Quoted

/-!
# Faults of a configuration

A configuration is checked field by field, and every place where a value does
not fit is reported: the way to the value and what is wrong with it.
-/

namespace Tablesmith.Config

open Tablesmith.Number Tablesmith.Text

/-- One step on the way to a value: a name or a position. -/
inductive Place where
  | field (name : String)
  | item (index : Int)
  deriving DecidableEq, Repr

/-- Why a rule of the configuration itself refuses a value. -/
inductive Refusal where
  | portType (typeName : String)
  | portRange (port : Int)
  | number (fault : NumberFault)
  | referenceMissing (column : String)
  | referenceStray (column type : String)
  | primaryKeyOptions (column : String) (options : List String)
  deriving DecidableEq, Repr

/-- What is wrong with a value. -/
inductive Problem where
  | missing
  | extra
  | keyNotText
  | notModel (model : String)
  | notText
  | notUnicode
  | emptyText
  | notList
  | emptyList
  | notOneOf (choices : List String)
  | notBoolean
  | unclearBoolean
  | notInteger
  | unreadableInteger
  | fractionalInteger
  | notFinite
  | integerTooLarge
  | notPositive
  | refused (reason : Refusal)
  deriving DecidableEq, Repr

/-- A problem with the way to the value that has it. -/
structure Fault where
  path : List Place
  problem : Problem
  deriving DecidableEq, Repr

def Place.text : Place → String
  | .field name => name
  | .item index => toString index

def Refusal.message : Refusal → String
  | .portType typeName =>
    "Port must be an integer or string containing only digits, got " ++
      typeName
  | .portRange port =>
    "Port must be between 0 and 65535, got " ++ toString port
  | .number fault => fault.message
  | .referenceMissing column =>
    "Column '" ++ column ++
      "' of type 'reference' needs a 'references' entry"
  | .referenceStray column type =>
    "Column '" ++ column ++ "' has 'references' but is of type '" ++ type ++
      "'"
  | .primaryKeyOptions column options =>
    "Primary key column '" ++ column ++ "' does not accept " ++
      String.intercalate ", " options

/-- Choices in quotes: commas between them and "or" before the last. -/
def choiceText : List String → String
  | [] => ""
  | [only] => quoted only
  | [first, last] => quoted first ++ " or " ++ quoted last
  | first :: rest => quoted first ++ ", " ++ choiceText rest

def Problem.message : Problem → String
  | .missing => "Field required"
  | .extra => "Extra inputs are not permitted"
  | .keyNotText => "Keys should be strings"
  | .notModel model =>
    "Input should be a valid dictionary or instance of " ++ model
  | .notText => "Input should be a valid string"
  | .notUnicode =>
    "Input should be a valid string, unable to parse raw data as a " ++
      "unicode string"
  | .emptyText => "String should have at least 1 character"
  | .notList => "Input should be a valid list"
  | .emptyList => "List should have at least 1 item after validation, not 0"
  | .notOneOf choices => "Input should be " ++ choiceText choices
  | .notBoolean => "Input should be a valid boolean"
  | .unclearBoolean =>
    "Input should be a valid boolean, unable to interpret input"
  | .notInteger => "Input should be a valid integer"
  | .unreadableInteger =>
    "Input should be a valid integer, unable to parse string as an integer"
  | .fractionalInteger =>
    "Input should be a valid integer, got a number with a fractional part"
  | .notFinite => "Input should be a finite number"
  | .integerTooLarge =>
    "Unable to parse input string as an integer, exceeded maximum size"
  | .notPositive => "Input should be greater than 0"
  | .refused reason => "Value error, " ++ reason.message

/-- The way to a value as text. -/
def pathText (path : List Place) : String :=
  String.intercalate " -> " (path.map Place.text)

/-- A fault as one line: the way, a colon and the problem. -/
def Fault.line (fault : Fault) : String :=
  pathText fault.path ++ ": " ++ fault.problem.message

/-- A fault seen from one level further out. -/
def Fault.within (place : Place) (fault : Fault) : Fault :=
  { fault with path := place :: fault.path }

end Tablesmith.Config

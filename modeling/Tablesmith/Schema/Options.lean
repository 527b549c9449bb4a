import Tablesmith.Failure

/-!
# Options of columns and foreign keys

A column has four options besides its type, and a foreign key has two
referential actions.  What a caller leaves out, or gives as nothing, gets the
standard setting; an expression that counts as false is no expression.
-/

namespace Tablesmith.Schema

/-- The options of a column: whether a value is required, whether values are
unique, and the expressions for a default and a check. -/
structure ColumnOptions where
  required : Value
  unique : Value
  default : Value
  check : Value
  deriving Repr

/-- What happens to a row when the row that it points at changes or goes. -/
structure ReferenceActions where
  onUpdate : Value
  onDelete : Value
  deriving Repr

/-- A setting, or the standard one if nothing is given. -/
def orStandard (standard given : Value) : Value :=
  if given.isNull then standard else given

/-- An expression, or nothing if it counts as false. -/
def expression (given : Value) : Value :=
  if given.truthy then given else .null

/-- Whether the given words hold a text. -/
def isOneOf (words : List String) (key : Value) : Bool :=
  match key with
  | .text word => words.contains word
  | _ => false

/-- The first keyword that a callee does not know, as a fault. -/
def checkKeywords
    (callee : String)
    (known : List String)
    (entries : List (Value × Value)) :
    Except CallFault Unit :=
  if entries.any fun e => isOneOf ["self"] e.1 then
    .error (.repeatedArgument callee "self")
  else
    match entries.find? fun e => !isOneOf known e.1 with
    | some e => .error (.unexpectedKeyword callee e.1.display)
    | none => .ok ()

namespace ColumnOptions

/-- The options with the given settings. -/
def of (required unique default check : Value) : ColumnOptions where
  required := orStandard (.bool true) required
  unique := orStandard (.bool false) unique
  default := expression default
  check := expression check

/-- The options of a column for which nothing is given: it is required, not
unique, and has no expressions. -/
def standard : ColumnOptions :=
  .of .null .null .null .null

/-- The names of the options. -/
def keywords : List String :=
  ["required", "unique", "default", "check"]

/-- The options given by keyword. -/
def ofKeywords (entries : List (Value × Value)) :
    Except CallFault ColumnOptions :=
  let given (word : String) : Value :=
    (Value.lookupText? entries word).getD .null
  (checkKeywords "ColumnOptions.__init__" keywords entries).map fun _ =>
    .of (given "required") (given "unique") (given "default") (given "check")

end ColumnOptions

namespace ReferenceActions

/-- The given actions; an action that is not given cascades. -/
def of (onUpdate onDelete : Value) : ReferenceActions where
  onUpdate := orStandard (.referentialAction .cascade) onUpdate
  onDelete := orStandard (.referentialAction .cascade) onDelete

/-- Both actions cascade. -/
def standard : ReferenceActions :=
  .of .null .null

/-- The names of the actions. -/
def keywords : List String :=
  ["on_update", "on_delete"]

/-- The actions given by keyword. -/
def ofKeywords (entries : List (Value × Value)) :
    Except CallFault ReferenceActions :=
  let given (word : String) : Value :=
    (Value.lookupText? entries word).getD .null
  (checkKeywords "ForeignKeyActions.__init__" keywords entries).map fun _ =>
    .of (given "on_update") (given "on_delete")

end ReferenceActions

end Tablesmith.Schema

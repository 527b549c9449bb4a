import Tablesmith.Schema.Builder

/-!
# Builder calls by keyword

A column can be asked for by the word of its kind, with a name and options by
keyword.  The arguments are checked before the table is touched.
-/

namespace Tablesmith.Schema

namespace Table

/-- The column types that a caller can ask for by their words; a column that
counts up by itself is asked for as a primary key. -/
def plainColumnTypes : List ColumnType :=
  [.number, .string, .boolean, .dateTime, .guid, .decimal]

def typeOfWord? (word : String) : Option ColumnType :=
  plainColumnTypes.find? fun t => ColumnType.word t = word

/-- The name that a call gives, in its place or by keyword, and the other
keywords. -/
def nameArgument
    (callee : String)
    (name : Option Value)
    (keywords : List (Value × Value)) :
    Except CallFault (Option Value × List (Value × Value)) :=
  let rest := keywords.filter fun e => !isOneOf ["name"] e.1
  if keywords.any fun e => isOneOf ["self"] e.1 then
    .error (.repeatedArgument callee "self")
  else
    match name, Value.lookupText? keywords "name" with
    | some _, some _ => .error (.repeatedArgument callee "name")
    | some given, none => .ok (some given, rest)
    | none, found => .ok (found, rest)

/-- The options that a call asks for, for the columns that take options. -/
def typedArguments
    (callee : String)
    (name : Option Value)
    (keywords : List (Value × Value)) :
    Except CallFault (Value × ColumnOptions) :=
  match nameArgument callee name keywords with
  | .error fault => .error fault
  | .ok (none, _) => .error (.missingName callee)
  | .ok (some given, rest) =>
    (ColumnOptions.ofKeywords rest).map fun options => (given, options)

/-- The name that a call for a primary key column gives; such a column takes
no options. -/
def primaryKeyArguments
    (callee : String)
    (name : Option Value)
    (keywords : List (Value × Value)) :
    Except CallFault Value :=
  match nameArgument callee name keywords with
  | .error fault => .error fault
  | .ok (given, []) => .ok (given.getD .null)
  | .ok (_, e :: _) => .error (.unexpectedKeyword callee e.1.display)

/-- Add a column of the kind with the given word. -/
def addColumnOf
    (t : Table)
    (kind : String)
    (name : Option Value)
    (keywords : List (Value × Value)) :
    Attempt :=
  let method := kind ++ "_column"
  let callee := "Table." ++ method
  if kind = "primary_key" then
    match primaryKeyArguments callee name keywords with
    | .error fault => .failed t (.call fault)
    | .ok given => t.addPrimaryKeyColumn given
  else
    match typeOfWord? kind with
    | none => .failed t (.property (.absent "Table" method))
    | some type =>
      match typedArguments callee name keywords with
      | .error fault => .failed t (.call fault)
      | .ok (given, options) => t.addTypedColumn type given options

/-- A foreign key from columns of a table that is not added to the table. -/
def looseForeignKey
    (t : Table)
    (name : Value)
    (target : Target)
    (columns : Value)
    (actions : ReferenceActions)
    (localNames : List Value) :
    Except Failure Constraint :=
  match namesIn columns with
  | .error fault => .error (.call fault)
  | .ok names =>
    .ok ⟨name, .foreignKey ⟨target, names, actions⟩,
      localNames.filterMap t.column?⟩

/-- The constraints whose kind equals a value; nothing asks for all. -/
def constraintsLike (t : Table) (type : Value) : List Constraint :=
  if type.isNull then t.constraints
  else t.constraints.filter fun k => Value.constraintType k.type == type

end Table

end Tablesmith.Schema

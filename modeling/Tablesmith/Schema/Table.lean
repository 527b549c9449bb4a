import Tablesmith.Schema.Options

/-!
# Tables

A table has a name, a schema, columns and constraints, both in the order in
which they were added.  A constraint is over columns, usually but not
necessarily those of its own table; it holds them as they are, so that a
column that is renamed has to be renamed wherever it is held.  Identities tell
which column is which.
-/

namespace Tablesmith.Schema

open Tablesmith.Text

/-- The schema of a table for which none is given. -/
def publicSchema : String := "public"

/-- Which table: one that is declared in the database, or one outside it, each
by its position. -/
inductive TableId where
  | declared (position : Nat)
  | loose (position : Nat)
  deriving DecidableEq, Repr

/-- Which column: the table it was added to, and its position there. -/
structure ColumnId where
  table : TableId
  position : Nat
  deriving DecidableEq, Repr

/-- A column. -/
structure Column where
  id : ColumnId
  name : Value
  type : Value
  options : ColumnOptions
  deriving Repr

/-- What a caller points a foreign key at: a table, by its qualified name, or
a value that is no table. -/
inductive Target where
  | table (qualifiedName : Value)
  | other (value : Value)
  deriving Repr

/-- What a foreign key points at, and what happens when that changes: the
target, the names of columns there, and the actions. -/
structure ForeignKey where
  target : Target
  columns : List Value
  actions : ReferenceActions
  deriving Repr

/-- What a constraint demands. -/
inductive Demand where
  | primaryKey
  | unique
  | foreignKey (key : ForeignKey)
  deriving Repr

/-- A constraint over columns. -/
structure Constraint where
  name : Value
  demand : Demand
  columns : List Column
  deriving Repr

/-- A table. -/
structure Table where
  id : TableId
  name : Value
  schema : String
  columns : List Column
  constraints : List Constraint
  deriving Repr

def Demand.type : Demand → ConstraintType
  | .primaryKey => .primaryKey
  | .unique => .unique
  | .foreignKey _ => .foreignKey

def Demand.foreignKey? : Demand → Option ForeignKey
  | .foreignKey key => some key
  | _ => none

/-- The text that shows a column: its name and the word of its type.  A name
may hold a number that is too long to write, and a type that is no member has
no word. -/
def Column.inspect (c : Column) : Except Failure String :=
  if c.name.isWritable then
    match c.type with
    | .member m =>
      .ok ("Column(" ++ c.name.inspect ++ ", " ++ m.word ++ ")")
    | other => .error (.property (.absent other.typeName "value"))
  else
    .error (.number .tooLongToWrite)

namespace Constraint

def type (k : Constraint) : ConstraintType :=
  k.demand.type

def columnNames (k : Constraint) : List Value :=
  k.columns.map Column.name

def addColumn (k : Constraint) (c : Column) : Constraint :=
  { k with columns := k.columns ++ [c] }

/-- The word for what a constraint is. -/
def typeName (k : Constraint) : String :=
  match k.demand with
  | .foreignKey _ => "ForeignKeyConstraint"
  | _ => "Constraint"

/-- The text that shows a constraint. -/
def inspect (k : Constraint) : String :=
  k.typeName ++ "(" ++ k.name.inspect ++ ", " ++
    (Value.list k.columnNames).inspect ++ ")"

end Constraint

/-- A name with a word before it. -/
def nameAfter (word : String) : Value → Value
  | .brokenText points => .brokenText (codesOf word ++ points)
  | name => .text (word ++ name.display)

/-- A name with its schema before it, unless that is the public one.  A name
that cannot be written has no text to go behind a schema, and stays. -/
def qualify (schema : String) (name : Value) : Value :=
  if schema = publicSchema || !name.isWritable then name
  else nameAfter (schema ++ ".") name

namespace Table

/-- A table without columns and constraints.  No schema, or an empty one, is
the public schema. -/
def empty (id : TableId) (name : Value) (schema : Option String) : Table where
  id
  name
  schema :=
    match schema with
    | none => publicSchema
    | some given => if given.isEmpty then publicSchema else given
  columns := []
  constraints := []

/-- The name of a table in every statement. -/
def qualifiedName (t : Table) : Value :=
  qualify t.schema t.name

/-- The qualified name as it is asked for: outside the public schema the name
of the table is written for it. -/
def qualifiedName? (t : Table) : Except Failure Value :=
  if t.schema = publicSchema || t.name.isWritable then .ok t.qualifiedName
  else .error (.number .tooLongToWrite)

def column? (t : Table) (name : Value) : Option Column :=
  t.columns.find? fun c => c.name == name

/-- The constraints of one kind, in order. -/
def constraintsOf (t : Table) (type : ConstraintType) : List Constraint :=
  t.constraints.filter fun k => k.type = type

def primaryKey? (t : Table) : Option Constraint :=
  (t.constraintsOf .primaryKey).head?

/-- The foreign keys with the constraints that hold them. -/
def foreignKeys (t : Table) : List (Constraint × ForeignKey) :=
  t.constraints.filterMap fun k =>
    k.demand.foreignKey?.map fun key => (k, key)

def uniqueConstraints (t : Table) : List Constraint :=
  t.constraintsOf .unique

/-- The text that shows a table. -/
def inspect (t : Table) : String :=
  "Table(" ++ t.qualifiedName.inspect ++ ")"

end Table

end Tablesmith.Schema

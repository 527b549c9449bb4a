import Tablesmith.Config.Validation
import Tablesmith.Log.Record
import Tablesmith.Text.Search

/-!
# Building the declared database

All declared tables are made before any column is added, so a reference may
point at a table that is declared later.
-/

namespace Tablesmith.Config

open Tablesmith.Log Tablesmith.Schema Tablesmith.Text

def optionalText : Option String → Value
  | some s => .text s
  | none => .null

namespace ColumnDefinition

def options (c : ColumnDefinition) : ColumnOptions :=
  .of (.bool c.required) (.bool c.unique) (optionalText c.default)
    (optionalText c.check)

end ColumnDefinition

namespace ReferenceDefinition

def actions (r : ReferenceDefinition) : ReferenceActions :=
  .of (.referentialAction r.onUpdate) (.referentialAction r.onDelete)

/-- The name of the table that a reference means.  The public schema need not
be named. -/
def tableName (r : ReferenceDefinition) : String :=
  (Text.afterStart? r.table (publicSchema ++ ".")).getD r.table

end ReferenceDefinition

/-- Texts in the order of their code points. -/
def sortedTexts (texts : List String) : List String :=
  texts.mergeSort fun a b => a ≤ b

/-- The report about a reference to a table that is not declared. -/
def unknownTable (source : Value) (name : String) (known : List String) :
    Report :=
  .badConfiguration
    ("Table '" ++ source.display ++ "' references unknown table '" ++ name ++
      "'")
    [("known_tables", .list ((sortedTexts known).map Value.text))]
    .null

/-- The qualified name of the table that a reference means, among those that
are declared. -/
def resolveTable (known : List String) (source : Value)
    (r : ReferenceDefinition) : Except Failure Value :=
  if known.contains r.tableName then .ok (.text r.tableName)
  else .error (.report (unknownTable source r.tableName known))

def addDeclared (known : List String) (t : Table) (c : ColumnDefinition) :
    Attempt :=
  match c.kind with
  | .primaryKey => t.addPrimaryKeyColumn (.text c.name)
  | .plain type => t.addTypedColumn type (.text c.name) c.options
  | .reference r =>
    match resolveTable known t.qualifiedName r with
    | .error failure => .failed t failure
    | .ok target =>
      t.addReferenceColumn (.text c.name) (.table target)
        (optionalText r.column) r.actions c.options

/-- Go on with the table that a call leaves, with records about what it
added. -/
def recorded (before : Table) (a : Attempt) : Logged Table :=
  ⟨before.growth a.table, a.result.map fun _ => a.table⟩

def addColumns (known : List String) (t : Table) :
    List ColumnDefinition → Logged Table
  | [] => pure t
  | c :: rest => do
    let after ← recorded t (addDeclared known t c)
    addColumns known after rest

/-- Add declared uniqueness constraints to a table. -/
def addUniques (t : Table) : List (List String) → Logged Table
  | [] => pure t
  | names :: rest => do
    let after ← recorded t (t.addUnique (names.map Value.text))
    addUniques after rest

/-- The record about a table that is complete. -/
def tableDeclared (t : Table) : Record :=
  .debug "ddl_generator.schema_loader"
    ("Declared " ++ t.qualifiedName.display ++ " with " ++
      toString t.columns.length ++ " columns and " ++
      toString t.constraints.length ++ " constraints")

def completeTable (known : List String) (t : Table) (d : TableDefinition) :
    Logged Table := do
  let filled ← addColumns known t d.columns
  let complete ← addUniques filled d.unique
  Logged.write (tableDeclared complete)
  return complete

/-- Make the declared tables, without columns. -/
def makeTables (database : Database) : List TableDefinition → Logged Database
  | [] => pure database
  | d :: rest => do
    let after ←
      Logged.ofResult (database.addTable (.text d.name) d.schema)
    Logged.writeAll
      ((after.tables.drop database.tables.length).map Database.tableAdded)
    makeTables after rest

def completeTables (known : List String) :
    List (Table × TableDefinition) → Logged (List Table)
  | [] => pure []
  | (t, d) :: rest => do
    let complete ← completeTable known t d
    let others ← completeTables known rest
    return complete :: others

/-- The name by which a declared table is known: its schema is put before it,
unless there is none, an empty one or the public one. -/
def TableDefinition.knownName (d : TableDefinition) : String :=
  match d.schema with
  | none => d.name
  | some schema =>
    if schema.isEmpty || schema = publicSchema then d.name
    else schema ++ "." ++ d.name

def knownNames (definitions : List TableDefinition) : List String :=
  definitions.map TableDefinition.knownName

def buildDatabase (c : Configuration) : Logged Database := do
  let made ← makeTables .empty c.tables
  let complete ←
    completeTables (knownNames c.tables) (made.tables.zip c.tables)
  return ⟨complete⟩

end Tablesmith.Config

import Tablesmith.Schema.Database
import Tablesmith.Sql.Script
import Tablesmith.Sql.Statement

/-!
# The plan of a rebuild

The statements that rebuild a database come in three passes: drop everything,
build every table, link the tables by foreign keys.  Foreign keys come last,
so a table may point at one that is declared after it.
-/

namespace Tablesmith.Sql

open Tablesmith.Schema

def noColumnType (value : Value) (target : String) : Report :=
  .unmappedValue ("Undefined column type " ++ value.display) value target

/-- The report about a value that is no referential action. -/
def noAction (value : Value) : Report :=
  .unmappedValue ("Undefined reference action type " ++ value.display) value
    "postgresql"

/-- Read a value as a column type, for the given target. -/
def asColumnType (target : String) (value : Value) :
    Except Failure ColumnType :=
  match value.unkeyable? with
  | some typeName => .error (.call (.unkeyable typeName))
  | none =>
    match value with
    | .member (.column type) => .ok type
    | other => .error (.report (noColumnType other target))

def asAction (value : Value) : Except Failure ReferentialAction :=
  match value.unkeyable? with
  | some typeName => .error (.call (.unkeyable typeName))
  | none =>
    match value with
    | .member (.action action) => .ok action
    | other => .error (.report (noAction other))

def columnWordOf (value : Value) : Except Failure String :=
  (asColumnType "postgresql" value).map columnWord

def actionWordOf (value : Value) : Except Failure String :=
  (asAction value).map actionWord

/-- Names in a statement; each has to be a text. -/
def namesOf (names : List Value) : Except Failure (List String) :=
  (joinNames "," names).map fun _ => names.map Value.display

/-- The name of a target in a statement; only a table has one. -/
def targetOf : Target → Except Failure String
  | .table qualifiedName => qualifiedName.written
  | .other v => .error (.property (.absent v.typeName "qualified_name"))

/-- An optional expression in a statement. -/
def expressionOf (v : Value) : Except Failure (Option String) :=
  if v.truthy then
    match v.display? with
    | .ok text => .ok (some text)
    | .error fault => .error (.number fault)
  else
    .ok none

/-- What a statement says about a column. -/
def columnClause (c : Column) : Except Failure ColumnClause := do
  let name ← c.name.written
  let type ← asColumnType "postgresql" c.type
  let default ← expressionOf c.options.default
  let check ← expressionOf c.options.check
  return {
    name
    type
    required := c.options.required.truthy
    default
    check }

/-- What a statement says about a foreign key. -/
def referenceClause (k : Constraint) (key : ForeignKey) :
    Except Failure ReferenceClause := do
  let columns ← namesOf k.columnNames
  let target ← targetOf key.target
  let targetColumns ← namesOf key.columns
  let onUpdate ← asAction key.actions.onUpdate
  let onDelete ← asAction key.actions.onDelete
  return {
    columns
    target
    targetColumns
    onUpdate
    onDelete }

def tableName (t : Table) : String :=
  t.qualifiedName.display

/-- The statements that drop and create a schema. -/
def rebuildSchema (schema : String) : List Statement :=
  [.dropSchema schema, .createSchema schema]

/-- The statement that drops a table, the first one with its name. -/
def dropTable (t : Table) : Except Failure Statement :=
  t.qualifiedName.written.map Statement.dropTable

def addColumns (t : Table) : Except Failure (List Statement) :=
  t.columns.mapM fun c => (columnClause c).map (Statement.addColumn (tableName t))

/-- The statement that adds the primary key of a table, if it has one. -/
def addPrimaryKey (t : Table) : Except Failure (List Statement) :=
  t.primaryKey?.toList.mapM fun k =>
    (namesOf k.columnNames).map (Statement.addPrimaryKey (tableName t))

def addUniques (t : Table) : Except Failure (List Statement) :=
  t.uniqueConstraints.mapM fun k =>
    (namesOf k.columnNames).map (Statement.addUnique (tableName t))

def buildTable (t : Table) : Except Failure (List Statement) := do
  let columns ← addColumns t
  let key ← addPrimaryKey t
  let uniques ← addUniques t
  return Statement.createTable (tableName t) :: columns ++ key ++ uniques

/-- The statements that add the foreign keys of a table. -/
def linkTable (t : Table) : Except Failure (List Statement) :=
  t.foreignKeys.mapM fun entry =>
    (referenceClause entry.1 entry.2).map
      (Statement.addForeignKey (tableName t))

/-- The statements that rebuild a database, in order. -/
def plan (d : Database) : Except Failure (List Statement) := do
  let dropped ← d.tables.mapM dropTable
  let built ← d.tables.mapM buildTable
  let linked ← d.tables.mapM linkTable
  return d.schemas.flatMap rebuildSchema ++ dropped ++ built.flatten ++
    linked.flatten

/-- The texts of the statements that rebuild a database. -/
def create (d : Database) : Except Failure (List String) :=
  (plan d).map fun statements => statements.map Statement.text

def script (separator : String) (d : Database) : Except Failure String :=
  (create d).map (joinStatements separator)

def statementsMade (d : Database) (statements : List String) : Log.Record :=
  .debug "ddl_generator.dialects.postgresql"
    ("Generated " ++ toString statements.length ++ " statements for " ++
      toString d.tables.length ++ " tables")

end Tablesmith.Sql

import Tablesmith.Schema.Builder

/-!
# Databases

A database is an ordered collection of tables.  Their qualified names are
distinct, and none of their own names holds a point.
-/

namespace Tablesmith.Schema

/-- The dialects for which statements can be written. -/
inductive Dialect where
  | postgresql
  deriving DecidableEq, Repr

namespace Dialect

def name : Dialect → String
  | .postgresql => "postgresql"

def all : List Dialect := [.postgresql]

/-- The dialect that is used when none is given. -/
def standard : Dialect := .postgresql

def ofName? (v : Value) : Option Dialect :=
  all.find? fun d => isOneOf [d.name] v

end Dialect

/-- A database. -/
structure Database where
  tables : List Table
  deriving Repr

namespace Database

/-- A database without tables. -/
def empty : Database := ⟨[]⟩

/-- An empty database for the given dialect. -/
def ofDialect (dialect : Value) : Except Failure Database :=
  match dialect.unkeyable? with
  | some typeName => .error (.call (.unkeyable typeName))
  | none =>
    match Dialect.ofName? dialect with
    | some _ => .ok empty
    | none =>
      .error (.report (.badConfiguration
        ("Unsupported dialect: " ++ dialect.display)
        [("supported_dialects",
          .list (Dialect.all.map fun d => .text d.name))]
        .null))

def table? (d : Database) (qualifiedName : Value) : Option Table :=
  d.tables.find? fun t => t.qualifiedName == qualifiedName

/-- The report about a name that no table can have. -/
def invalidName (name : Value) : Report :=
  .invalidModel
    ("Invalid table name '" ++ name.display ++ "'")
    name
    none
    ["Pass the schema as a separate argument: add_table('users', 'auth')"]

def tableTaken (qualifiedName : Value) : Report :=
  .invalidModel
    ("Table '" ++ qualifiedName.display ++ "' is already declared")
    qualifiedName
    none
    ["Reuse the Table returned by the first add_table call"]

def holdsPoint (name : Value) : Except CallFault Bool :=
  match name with
  | .text s => .ok (s.toList.contains '.')
  | .brokenText points => .ok (points.contains 0x2e)
  | .bytes _ => .error .searchedForText
  | .dict entries => .ok (entries.any fun e => e.1 == .text ".")
  | other =>
    match other.elements? with
    | some items => .ok (items.any fun v => v == .text ".")
    | none => .error (.notSearchable other.typeName)

/-- Whether a name can be that of a table: it is not empty and holds no
point. -/
def isTableName (name : Value) : Except CallFault Bool :=
  if name.truthy then (holdsPoint name).map fun found => !found
  else .ok false

/-- The table that would be added next. -/
def nextTable (d : Database) (name : Value) (schema : Option String) : Table :=
  .empty (.declared d.tables.length) name schema

/-- How the declaration of a table ends: the database that it leaves, and
whether it failed. -/
structure Declaration where
  database : Database
  result : Except Failure Unit

/-- Declare a table without columns.  Its schema is given on its own and never
taken from the name.  The name is written in every ending, be it a report or
the record about the table, which is there by then. -/
def declare (d : Database) (name : Value) (schema : Option String) :
    Declaration :=
  let naming (ending : Except Failure Unit) : Except Failure Unit :=
    if name.isWritable then ending else .error (.number .tooLongToWrite)
  match isTableName name with
  | .error fault => ⟨d, .error (.call fault)⟩
  | .ok false => ⟨d, naming (.error (.report (invalidName name)))⟩
  | .ok true =>
    let t := d.nextTable name schema
    match t.qualifiedName? with
    | .error failure => ⟨d, .error failure⟩
    | .ok qualified =>
      match d.table? qualified with
      | some _ => ⟨d, naming (.error (.report (tableTaken qualified)))⟩
      | none => ⟨⟨d.tables ++ [t]⟩, naming (.ok ())⟩

/-- The database with a table more, if that can be declared. -/
def addTable (d : Database) (name : Value) (schema : Option String) :
    Except Failure Database :=
  let declaration := d.declare name schema
  declaration.result.map fun _ => declaration.database

/-- The record about a table that was added. -/
def tableAdded (t : Table) : Log.Record :=
  .debug "ddl_generator.domain.database"
    ("Added table " ++ t.qualifiedName.display)

/-- The schemas of tables, each where it comes first; the public one is left
out. -/
def collectSchemas (tables : List Table) : List String :=
  tables.foldl
    (fun found t =>
      if t.schema = publicSchema || found.contains t.schema then found
      else found ++ [t.schema])
    []

def schemas (d : Database) : List String :=
  collectSchemas d.tables

end Database

end Tablesmith.Schema

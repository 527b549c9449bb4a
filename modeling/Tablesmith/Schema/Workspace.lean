import Tablesmith.Schema.Database

/-!
# Workspaces

A workspace is a database together with tables outside of it.  A column may be
held by constraints of several tables, so that renaming it is an operation on
the whole workspace.
-/

namespace Tablesmith.Schema

/-- A database and the tables outside of it. -/
structure Workspace where
  database : Database
  loose : List Table
  deriving Repr

/-- A part of a table whose properties may be assigned. -/
inductive Part where
  | table
  | column (name : Value)
  | constraint (index : Int)
  deriving Repr

/-- The element of a list at a position; a negative position counts from the
end. -/
def placeOf? (length : Nat) (index : Int) : Option Nat :=
  let place := if index < 0 then index + length else index
  if 0 ≤ place && place < length then some place.toNat else none

namespace Column

/-- The column with a new name, if it is the given one. -/
def renamed (id : ColumnId) (name : Value) (c : Column) : Column :=
  if c.id = id then { c with name } else c

end Column

namespace Table

/-- The table with a column renamed wherever it is held. -/
def renameColumn (id : ColumnId) (name : Value) (t : Table) : Table :=
  { t with
    columns := t.columns.map (Column.renamed id name)
    constraints :=
      t.constraints.map fun k =>
        { k with columns := k.columns.map (Column.renamed id name) } }

def modifyConstraint (t : Table) (place : Nat) (f : Constraint → Constraint) :
    Table :=
  { t with constraints := t.constraints.modify place f }

end Table

namespace Workspace

/-- A workspace without tables. -/
def empty : Workspace := ⟨.empty, []⟩

def table? (w : Workspace) : TableId → Option Table
  | .declared position => w.database.tables[position]?
  | .loose position => w.loose[position]?

/-- Change every table. -/
def mapTables (w : Workspace) (f : Table → Table) : Workspace where
  database := ⟨w.database.tables.map f⟩
  loose := w.loose.map f

/-- Put a table in the place of the one with the same identity. -/
def put (w : Workspace) (t : Table) : Workspace :=
  match t.id with
  | .declared position =>
    { w with database := ⟨w.database.tables.set position t⟩ }
  | .loose position => { w with loose := w.loose.set position t }

/-- Add a table outside the database. -/
def addLoose (w : Workspace) (name : Value) (schema : Option String) :
    Workspace × Table :=
  let t := Table.empty (.loose w.loose.length) name schema
  ({ w with loose := w.loose ++ [t] }, t)

/-- Assign a property of a part of a table.  Only the names of columns and
constraints can be assigned. -/
def assign
    (w : Workspace)
    (t : Table)
    (part : Part)
    (property : String)
    (value : Value) :
    Except Failure Workspace :=
  let refused (owner : String) : Except Failure Workspace :=
    .error (.property (.noSetter property owner))
  match part with
  | .table => refused "Table"
  | .column name =>
    match t.column? name with
    | none => .error (.property (.absent "NoneType" property))
    | some c =>
      if property = "name" then
        .ok (w.mapTables (Table.renameColumn c.id value))
      else
        refused "Column"
  | .constraint index =>
    match placeOf? t.constraints.length index with
    | none => .error .listIndex
    | some place =>
      if property = "name" then
        .ok (w.put (t.modifyConstraint place fun k => { k with name := value }))
      else
        refused "Constraint"

/-- Point the foreign key with the given position among the foreign keys of a
table at another target. -/
def retarget (w : Workspace) (t : Table) (index : Int) (target : Target) :
    Except Failure (Workspace × Constraint) :=
  let places :=
    (List.range t.constraints.length).filter fun i =>
      match t.constraints[i]? with
      | some k => k.type = .foreignKey
      | none => false
  match placeOf? places.length index with
  | none => .error .listIndex
  | some n =>
    let place := places[n]?.getD 0
    let change (k : Constraint) : Constraint :=
      match k.demand with
      | .foreignKey key =>
        { k with demand := .foreignKey { key with target } }
      | _ => k
    let after := t.modifyConstraint place change
    match after.constraints[place]? with
    | none => .error .listIndex
    | some k => .ok (w.put after, k)

def addToConstraint (w : Workspace) (t : Table) (index : Int) (c : Column) :
    Except Failure (Workspace × Constraint) :=
  match placeOf? t.constraints.length index with
  | none => .error .listIndex
  | some place =>
    let after := t.modifyConstraint place fun k => k.addColumn c
    match after.constraints[place]? with
    | none => .error .listIndex
    | some k => .ok (w.put after, k)

end Workspace

end Tablesmith.Schema

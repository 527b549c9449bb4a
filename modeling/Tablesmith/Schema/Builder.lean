import Tablesmith.Log.Record
import Tablesmith.Schema.Table

/-!
# Building tables

A builder call adds columns and constraints to a table, or fails.  A call may
fail after it has already added something, so its outcome is the table as the
call leaves it together with the failure, if there is one.
-/

namespace Tablesmith.Schema

/-- How a builder call ends: the table that it leaves, and whether it
failed. -/
structure Attempt where
  table : Table
  result : Except Failure Unit

namespace Attempt

/-- A call that succeeds. -/
def done (t : Table) : Attempt :=
  ⟨t, .ok ()⟩

/-- A call that fails and leaves the given table. -/
def failed (t : Table) (failure : Failure) : Attempt :=
  ⟨t, .error failure⟩

/-- Go on with the table, unless the call failed. -/
def andThen (a : Attempt) (next : Table → Attempt) : Attempt :=
  match a.result with
  | .ok () => next a.table
  | .error _ => a

end Attempt

/-- The name of the constraint that makes one column unique. -/
def uniqueName (column : Value) : Value :=
  nameAfter "unique_" column

/-- The name of the constraint that makes a column a foreign key. -/
def foreignKeyName (column : Value) : Value :=
  nameAfter "fkey_" column

def primaryKeyName : Value := .text "pkey"

/-- The column of a primary key for which no name is given. -/
def primaryKeyColumn : Value := .text "id"

/-- Names joined by a separator; each of them has to be a text. -/
def joinNames (separator : String) (names : List Value) :
    Except Failure Value :=
  match names.findIdx? fun v => !v.isAnyText with
  | some i =>
    .error (.call (.notPart i ((names[i]?.getD .null).typeName)))
  | none => .ok (Value.joined separator names)

/-- Change the first constraint of a list that fits. -/
def updateFirst (fits : Constraint → Bool) (change : Constraint → Constraint) :
    List Constraint → List Constraint
  | [] => []
  | k :: rest =>
    if fits k then change k :: rest
    else k :: updateFirst fits change rest

namespace Table

/-- The failure of a call that a table refuses: a report about the table and
some names, if the table's own name is to be had. -/
def refusal
    (t : Table)
    (message : String)
    (names : List Value)
    (suggestions : List String) :
    Failure :=
  match t.qualifiedName? with
  | .ok qualified =>
    .report (.invalidModel message qualified (some names) suggestions)
  | .error failure => failure

/-- Whether a text can name the table and a column of it. -/
def canNote (t : Table) (name : Value) : Bool :=
  name.isWritable && t.name.isWritable

/-- The failure of a column whose name is taken: a report, if that can name the
column and the table. -/
def columnTaken (t : Table) (name : Value) : Failure :=
  if t.canNote name then
    t.refusal
      ("Column '" ++ name.display ++ "' already exists on table '" ++
        t.qualifiedName.display ++ "'")
      [name]
      ["Column names must be unique within a table"]
  else
    .number .tooLongToWrite

/-- The column that the table would hold next. -/
def nextColumn (t : Table) (name type : Value) (options : ColumnOptions) :
    Column where
  id := ⟨t.id, t.columns.length⟩
  name
  type
  options

/-- The table with a column at the end, after its own uniqueness constraint
if it is unique. -/
def append (t : Table) (c : Column) : Table :=
  { t with
    columns := t.columns ++ [c]
    constraints :=
      if c.options.unique.truthy then
        t.constraints ++ [⟨uniqueName c.name, .unique, [c]⟩]
      else
        t.constraints }

/-- Add a column of any type.  The name has to be free.  A name that cannot be
written is noticed when the uniqueness constraint is named after the column;
if there is none, it is noticed after the column is there, and so are a type
that is no member and a table whose own name cannot be written. -/
def addColumn (t : Table) (name type : Value) (options : ColumnOptions) :
    Attempt :=
  if (t.column? name).isSome then
    .failed t (t.columnTaken name)
  else if options.unique.truthy && !name.isWritable then
    .failed t (.number .tooLongToWrite)
  else
    let c := t.nextColumn name type options
    match c.inspect with
    | .ok _ =>
      if t.name.isWritable then .done (t.append c)
      else .failed (t.append c) (.number .tooLongToWrite)
    | .error failure => .failed (t.append c) failure

/-- The table with a column in its primary key: the first one that there is,
or else a new one. -/
def extendPrimaryKey (t : Table) (c : Column) : Table :=
  if (t.primaryKey?).isSome then
    { t with
      constraints :=
        updateFirst (fun k => k.type = .primaryKey) (fun k => k.addColumn c)
          t.constraints }
  else
    { t with
      constraints := t.constraints ++ [⟨primaryKeyName, .primaryKey, [c]⟩] }

/-- Add a column that counts up by itself to the table's primary key. -/
def addPrimaryKeyColumn (t : Table) (name : Value) : Attempt :=
  let given := if name.truthy then name else primaryKeyColumn
  let type := Value.columnType .autoIncrement
  (t.addColumn given type .standard).andThen fun after =>
    .done (after.extendPrimaryKey (t.nextColumn given type .standard))

def addTypedColumn
    (t : Table)
    (type : ColumnType)
    (name : Value)
    (options : ColumnOptions) :
    Attempt :=
  t.addColumn name (.columnType type) options

/-- The names in a value: a text is one name, and any other value yields
names. -/
def namesIn (v : Value) : Except CallFault (List Value) :=
  if v.isAnyText then
    .ok [v]
  else
    match v.parts? with
    | some names => .ok names
    | none => .error (.notIterable v.typeName)

/-- Add a number column and a foreign key from it to a target.  It points at
the column of the same name unless other names are given; names of the wrong
kind are noticed after the column is there, and nothing looks at the target. -/
def addReferenceColumn
    (t : Table)
    (name : Value)
    (target : Target)
    (column : Value)
    (actions : ReferenceActions)
    (options : ColumnOptions) :
    Attempt :=
  let type := Value.columnType .number
  (t.addColumn name type options).andThen fun after =>
    match namesIn (if column.truthy then column else name) with
    | .error fault => .failed after (.call fault)
    | .ok columns =>
      .done
        { after with
          constraints :=
            after.constraints ++
              [⟨foreignKeyName name, .foreignKey ⟨target, columns, actions⟩,
                [t.nextColumn name type options]⟩] }

/-- Whether no value of a list equals another one. -/
def allDifferent : List Value → Bool
  | [] => true
  | v :: rest => !rest.any (fun w => w == v) && allDifferent rest

/-- Check the names of a uniqueness constraint: there are at least two, each
names a column, and none comes twice. -/
def checkUnique (t : Table) (names : List Value) : Except Failure Unit :=
  if names.length < 2 then
    .error (t.refusal
      "Unique constraint needs at least two columns"
      names
      ["Pass unique=True when adding a column for a single column constraint"])
  else
    let known := t.columns.map Column.name
    match Value.firstUnkeyable? (known ++ names) with
    | some typeName => .error (.call (.unkeyable typeName))
    | none =>
      let missing := names.filter fun n => !known.any fun k => k == n
      if missing.isEmpty && allDifferent names then
        .ok ()
      else
        .error (t.refusal
          "Column names do not match existing columns"
          (if missing.isEmpty then names else missing)
          [])

/-- Add a uniqueness constraint over columns with the given names, in the
order of the table. -/
def addUnique (t : Table) (names : List Value) : Attempt :=
  match t.checkUnique names with
  | .error failure => .failed t failure
  | .ok () =>
    let columns := t.columns.filter fun c => names.any fun n => c.name == n
    match joinNames "_" (columns.map Column.name) with
    | .error failure => .failed t failure
    | .ok joined =>
      .done
        { t with
          constraints :=
            t.constraints ++
              [⟨uniqueName joined, .unique, columns⟩] }

/-- Add a uniqueness constraint over the columns that a value names; a single
text is refused. -/
def addUniqueOf (t : Table) (columns : Value) : Attempt :=
  if columns.isAnyText then
    .failed t (t.refusal
      "Unique constraint columns must be a list of names, not a string"
      [columns]
      [])
  else
    match namesIn columns with
    | .error fault => .failed t (.call fault)
    | .ok names => t.addUnique names

/-- The records about the columns that a call has added, as far as they can be
written. -/
def growth (before after : Table) : List Log.Record :=
  (after.columns.drop before.columns.length).filterMap fun c =>
    match c.inspect, after.qualifiedName.written with
    | .ok shown, .ok name =>
      some (.debug "ddl_generator.domain.models"
        ("Added column " ++ shown ++ " to " ++ name))
    | _, _ => none

end Table

end Tablesmith.Schema

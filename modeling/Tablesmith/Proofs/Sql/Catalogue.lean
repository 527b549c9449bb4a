import Mathlib.Data.List.Basic
import Tablesmith.Schema.Table
import Tablesmith.Sql.Statement

/-!
# Catalogues

A catalogue is what a database server knows: its schemas, and its tables by
qualified name.  A statement changes a catalogue or fails on it.  Names are
opaque, apart from the schema that the qualified name of a new table begins
with.
-/

namespace Tablesmith.Sql

open Tablesmith.Schema

/-- What a catalogue knows about a table. -/
structure Entry where
  schema : String
  columns : List ColumnClause
  primaryKey : Option (List String)
  uniques : List (List String)
  foreignKeys : List ReferenceClause
  deriving DecidableEq, Repr

namespace Entry

def new (schema : String) : Entry :=
  ⟨schema, [], none, [], []⟩

def columnNames (e : Entry) : List String :=
  e.columns.map ColumnClause.name

def hasColumns (e : Entry) (names : List String) : Bool :=
  names.all fun name => e.columnNames.contains name

/-- The table without its foreign keys that point at tables that are gone. -/
def withoutTargets (gone : String → Bool) (e : Entry) : Entry :=
  { e with foreignKeys := e.foreignKeys.filter fun r => !gone r.target }

end Entry

/-- A catalogue: which schemas there are, and what is known about each
table. -/
@[ext]
structure Catalogue where
  hasSchema : String → Bool
  table? : String → Option Entry

/-- The schema that a qualified name begins with: all that stands before the
last point, and the public schema without one. -/
def schemaOf (name : String) : String :=
  match name.toList.reverse.dropWhile fun c => c ≠ '.' with
  | [] => publicSchema
  | _ :: before => String.ofList before.reverse

namespace Catalogue

/-- Each table lies in a schema that is there, and the public schema is
there. -/
structure WellFormed (c : Catalogue) : Prop where
  publicThere : c.hasSchema publicSchema = true
  schemaThere :
    ∀ name e, c.table? name = some e → c.hasSchema e.schema = true

/-! ## Operations -/

/-- A schema is there from now on, or it is not. -/
def setSchema (c : Catalogue) (schema : String) (there : Bool) : Catalogue :=
  { c with
    hasSchema := fun other =>
      if other = schema then there else c.hasSchema other }

/-- What is known about a table from now on. -/
def put (c : Catalogue) (name : String) (e : Entry) : Catalogue :=
  { c with
    table? := fun other => if other = name then some e else c.table? other }

/-- Whether a table is there, and among those that go.  Whether a table goes
depends on its name and its schema. -/
def loses (c : Catalogue) (gone : String → String → Bool) (name : String) :
    Bool :=
  (c.table? name).any fun e => gone name e.schema

/-- The catalogue without some tables and the foreign keys that point at
them. -/
def remove (c : Catalogue) (gone : String → String → Bool) : Catalogue :=
  { c with
    table? := fun name =>
      ((c.table? name).filter fun e => !gone name e.schema).map
        (Entry.withoutTargets (c.loses gone)) }

/-- Change what is known about a table, if it is there. -/
def alter (c : Catalogue) (name : String) (change : Entry → Option Entry) :
    Option Catalogue :=
  match c.table? name with
  | none => none
  | some e => (change e).map (c.put name)

def addColumn (clause : ColumnClause) (e : Entry) : Option Entry :=
  if e.columnNames.contains clause.name then none
  else some { e with columns := e.columns ++ [clause] }

def addPrimaryKey (columns : List String) (e : Entry) : Option Entry :=
  if e.hasColumns columns && e.primaryKey.isNone then
    some { e with primaryKey := some columns }
  else none

def addUnique (columns : List String) (e : Entry) : Option Entry :=
  if e.hasColumns columns then
    some { e with uniques := e.uniques ++ [columns] }
  else none

def addForeignKey (clause : ReferenceClause) (e : Entry) : Option Entry :=
  if e.hasColumns clause.columns then
    some { e with foreignKeys := e.foreignKeys ++ [clause] }
  else none

/-- What a statement makes of a catalogue, if it does not fail. -/
def apply (c : Catalogue) : Statement → Option Catalogue
  | .dropSchema schema =>
    if c.hasSchema schema then
      some ((c.remove fun _ other => other = schema).setSchema schema false)
    else some c
  | .createSchema schema =>
    if c.hasSchema schema then none
    else some (c.setSchema schema true)
  | .dropTable name => some (c.remove fun other _ => other = name)
  | .createTable name =>
    if (c.table? name).isNone && c.hasSchema (schemaOf name) then
      some (c.put name (.new (schemaOf name)))
    else none
  | .addColumn name clause => c.alter name (addColumn clause)
  | .addPrimaryKey name columns => c.alter name (addPrimaryKey columns)
  | .addUnique name columns => c.alter name (addUnique columns)
  | .addForeignKey name clause =>
    if (c.table? clause.target).isSome then
      c.alter name (addForeignKey clause)
    else none

/-- What statements make of a catalogue, one after the other. -/
def replay (c : Catalogue) : List Statement → Option Catalogue
  | [] => some c
  | statement :: rest => (c.apply statement).bind fun next => next.replay rest

theorem replay_append (c : Catalogue) (first rest : List Statement) :
    c.replay (first ++ rest) =
      (c.replay first).bind fun next => next.replay rest := by
  induction first generalizing c with
  | nil => rfl
  | cons statement first inductionHypothesis =>
      rw [List.cons_append, replay, replay]
      cases c.apply statement with
      | none => rfl
      | some next => exact inductionHypothesis next

/-- Statements that do not fail can be replayed before others. -/
theorem replay_append_of_some
    {c reached : Catalogue} {first : List Statement}
    (replayed : c.replay first = some reached) (rest : List Statement) :
    c.replay (first ++ rest) = reached.replay rest := by
  rw [replay_append, replayed]
  rfl

/-! ## Removing tables -/

section Remove

variable {c : Catalogue} {gone : String → String → Bool}

theorem table?_remove (c : Catalogue) (gone : String → String → Bool)
    (name : String) :
    (c.remove gone).table? name =
      ((c.table? name).filter fun e => !gone name e.schema).map
        (Entry.withoutTargets (c.loses gone)) := rfl

/-- A table that stays only loses foreign keys. -/
theorem table?_remove_of_stays
    {name : String} {e : Entry}
    (there : c.table? name = some e) (stays : gone name e.schema = false) :
    (c.remove gone).table? name = some (e.withoutTargets (c.loses gone)) := by
  rw [table?_remove, there]
  simp [Option.filter, stays]

/-- A table that is not there, or goes, is not there afterwards. -/
theorem table?_remove_eq_none
    {name : String}
    (goes : ∀ e, c.table? name = some e → gone name e.schema = true) :
    (c.remove gone).table? name = none := by
  rw [table?_remove]
  cases there : c.table? name with
  | none => rfl
  | some e => simp [Option.filter, goes e there]

/-- What is left of a table is in the schema that it was in. -/
theorem exists_of_table?_remove
    {name : String} {left : Entry}
    (there : (c.remove gone).table? name = some left) :
    ∃ e, c.table? name = some e ∧ gone name e.schema = false ∧
      left = e.withoutTargets (c.loses gone) := by
  rw [table?_remove, Option.map_eq_some_iff] at there
  obtain ⟨e, found, equality⟩ := there
  rw [Option.filter_eq_some_iff] at found
  refine ⟨e, found.1, ?_, equality.symm⟩
  simpa using found.2

theorem remove_eq_self
    (stay : ∀ name e, c.table? name = some e → gone name e.schema = false) :
    c.remove gone = c := by
  have losesNone : c.loses gone = fun _ => false := by
    funext name
    unfold loses
    cases there : c.table? name with
    | none => rfl
    | some e => exact stay name e there
  refine Catalogue.ext rfl ?_
  funext name
  rw [table?_remove, losesNone]
  cases there : c.table? name with
  | none => rfl
  | some e => simp [Option.filter, stay name e there, Entry.withoutTargets]

/-- A table goes in one of two removals exactly if it goes in both at once. -/
theorem loses_or (c : Catalogue) (first later : String → String → Bool)
    (name : String) :
    (c.loses (fun name schema => first name schema || later name schema)
        name) =
      (c.loses first name || (c.remove first).loses later name) := by
  unfold loses
  rw [table?_remove]
  cases c.table? name with
  | none => rfl
  | some e =>
      cases goes : first name e.schema with
      | true => simp [goes]
      | false => simp [goes, Option.filter, Entry.withoutTargets]

/-- Removing tables twice is removing all of them at once. -/
theorem remove_remove (c : Catalogue) (first later : String → String → Bool) :
    (c.remove first).remove later =
      c.remove fun name schema => first name schema || later name schema := by
  have sameTargets (e : Entry) :
      (e.withoutTargets (c.loses first)).withoutTargets
          ((c.remove first).loses later) =
        e.withoutTargets
          (c.loses fun name schema =>
            first name schema || later name schema) := by
    unfold Entry.withoutTargets
    simp only [List.filter_filter, loses_or, Bool.not_or, Bool.and_comm]
  refine Catalogue.ext rfl ?_
  funext name
  rw [table?_remove, table?_remove, table?_remove]
  cases c.table? name with
  | none => rfl
  | some e =>
      cases goes : first name e.schema with
      | true => simp [goes, Option.filter]
      | false =>
          rw [Option.filter_some_pos (by simp [goes]), Option.map_some]
          cases goesLater : later name e.schema with
          | true => simp [goes, goesLater, Option.filter, Entry.withoutTargets]
          | false =>
              rw [Option.filter_some_pos (by
                  simp [goesLater, Entry.withoutTargets]),
                Option.filter_some_pos (by simp [goes, goesLater]),
                Option.map_some, Option.map_some, sameTargets]

theorem wellFormed_remove (wellFormed : c.WellFormed) :
    (c.remove gone).WellFormed where
  publicThere := wellFormed.publicThere
  schemaThere := by
    intro name left there
    obtain ⟨e, found, _, rfl⟩ := exists_of_table?_remove there
    exact wellFormed.schemaThere name e found

end Remove

end Catalogue

end Tablesmith.Sql

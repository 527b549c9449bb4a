import Tablesmith.Interface.Template
import Tablesmith.Proofs.Sql.Stating

/-!
# The entries of an interface

An interface is a comment that names its table, and then one entry for each
column, in order.  It can be written exactly if the table is called by a text
and the columns have names that can be written and column types.
-/

namespace Tablesmith.Interface

open Tablesmith.Schema Tablesmith.Sql

/-! ## Entries -/

/-- A field as it stands in an interface. -/
structure FieldEntry where
  name : String
  optional : Bool
  type : String
  deriving DecidableEq, Repr

def FieldEntry.line (entry : FieldEntry) : String :=
  "\t" ++ entry.name ++ (if entry.optional then "?" else "") ++ ": " ++
    entry.type ++ ";\n"

/-- The interface of a table with the given name and entries. -/
def interfaceText (table : String) (entries : List FieldEntry) : String :=
  "/**\n * Record of the " ++ table ++ " table.\n */\nexport interface " ++
    interfaceName table ++ " \x7b\n" ++
    String.join (entries.map FieldEntry.line) ++ "\x7d\n"

/-- The entry for a column. -/
def entryOf (c : Column) : Except Failure FieldEntry := do
  let name ← c.name.written
  let type ← fieldTypeOf c.type
  return { name, optional := !c.options.required.truthy, type }

theorem fieldLine_ofColumn (c : Column) :
    fieldLine (some fieldTypeOf) (.ofColumn c) =
      (entryOf c).map FieldEntry.line := by
  have sameLine (name type : String) :
      "\t" ++ name ++ (if c.options.required.truthy then "" else "?") ++
          ": " ++ type ++ ";\n" =
        FieldEntry.line ⟨name, !c.options.required.truthy, type⟩ := by
    unfold FieldEntry.line
    cases c.options.required.truthy <;> rfl
  simp only [fieldLine, entryOf, needed, Field.ofColumn, bind, Except.bind]
  cases c.name.written with
  | error failure => rfl
  | ok name =>
      cases fieldTypeOf c.type with
      | error failure => rfl
      | ok type => exact congrArg Except.ok (sameLine name type)

theorem written_of_isWritable {v : Value} (writable : v.isWritable = true) :
    v.written = .ok v.display := by
  unfold Value.written Value.display?
  rw [if_pos writable]
  rfl

/-- An interface is made of the name of its table and of the entries for its
columns. -/
theorem interfaceOf_eq (table : Value) (columns : List Column) :
    interfaceOf table columns = do
      let name ← asName table
      let entries ← columns.mapM entryOf
      return interfaceText name entries := by
  have lines :
      (columns.map Field.ofColumn).mapM (fieldLine (some fieldTypeOf)) =
        (columns.mapM entryOf).map (List.map FieldEntry.line) := by
    rw [List.mapM_map, ← mapM_map_result]
    congr 1
    funext c
    exact fieldLine_ofColumn c
  by_cases isText : table.isAnyText = true
  · have named : asName table = .ok table.display := if_pos isText
    have written : table.written = .ok table.display :=
      written_of_isWritable (Value.isWritable_of_isAnyText isText)
    simp only [interfaceOf, interfaceNameOf, named, written, fill, needed,
      Except.map, bind, Except.bind, Value.written_text, lines]
    cases columns.mapM entryOf with
    | error failure => rfl
    | ok entries => rfl
  · have unnamed :
        asName table = .error (.call (.expectedText table.typeName)) :=
      if_neg isText
    simp only [interfaceOf, interfaceNameOf, unnamed, Except.map, bind,
      Except.bind]

/-! ## When an interface can be written -/

theorem succeeds_asName_iff {v : Value} :
    Succeeds (asName v) ↔ v.isAnyText = true := by
  unfold asName
  split
  next isText => exact iff_of_true (succeeds_ok _) isText
  next notText => exact iff_of_false (not_succeeds_error _) notText

theorem succeeds_entryOf_iff {c : Column} :
    Succeeds (entryOf c) ↔
      c.name.isWritable = true ∧ ∃ type, c.type = .columnType type := by
  unfold entryOf fieldTypeOf
  rw [succeeds_bind_iff fun name => succeeds_bind_iff fun type =>
    succeeds_pure_iff _, succeeds_written_iff, succeeds_map_iff,
    succeeds_asColumnType_iff, and_true]

theorem succeeds_interfaceOf_iff {table : Value} {columns : List Column} :
    Succeeds (interfaceOf table columns) ↔
      table.isAnyText = true ∧
        ∀ c ∈ columns,
          c.name.isWritable = true ∧ ∃ type, c.type = .columnType type := by
  rw [interfaceOf_eq, succeeds_bind_iff fun name => succeeds_bind_iff
    fun entries => succeeds_pure_iff _, succeeds_asName_iff, and_true,
    succeeds_mapM_iff]
  simp only [succeeds_entryOf_iff]

/-! ## What stands in an interface -/

/-- An entry stands for a column. -/
structure StandsFor (c : Column) (entry : FieldEntry) : Prop where
  name : entry.name = c.name.display
  optional : entry.optional = !c.options.required.truthy
  type : ∃ type, c.type = .columnType type ∧ entry.type = fieldType type

theorem display_of_written
    {v : Value} {text : String} (written : v.written = .ok text) :
    text = v.display := by
  unfold Value.written Value.display? at written
  split at written
  · cases written
    rfl
  · cases written

theorem standsFor_of_entryOf
    {c : Column} {entry : FieldEntry} (made : entryOf c = .ok entry) :
    StandsFor c entry := by
  obtain ⟨name, named, rest⟩ := bind_eq_ok_iff.mp made
  obtain ⟨word, typed, same⟩ := bind_eq_ok_iff.mp rest
  obtain ⟨type, read, isWord⟩ := map_eq_ok_iff.mp typed
  cases same
  exact ⟨display_of_written named, rfl, type, columnType_of_asColumnType read,
    isWord.symm⟩

/-- The entries of an interface stand for the columns, in order. -/
theorem interfaceOf_eq_ok
    {table : Value} {columns : List Column} {text : String}
    (made : interfaceOf table columns = .ok text) :
    ∃ name entries,
      table.isAnyText = true ∧ name = table.display ∧
        text = interfaceText name entries ∧
        List.Forall₂ StandsFor columns entries := by
  rw [interfaceOf_eq] at made
  obtain ⟨name, named, rest⟩ := bind_eq_ok_iff.mp made
  obtain ⟨entries, entered, same⟩ := bind_eq_ok_iff.mp rest
  cases same
  obtain ⟨isText, shown⟩ :
      table.isAnyText = true ∧ table.display = name := by
    unfold asName at named
    split at named
    next isText => exact ⟨isText, Except.ok.inj named⟩
    next => cases named
  exact ⟨name, entries, isText, shown.symm, rfl,
    (forall₂_of_mapM_eq_ok entered).imp fun _ _ => standsFor_of_entryOf⟩

end Tablesmith.Interface

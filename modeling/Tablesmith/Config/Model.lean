import Tablesmith.Config.Check

/-!
# Checking models

A model is a dictionary with known fields.  A field has a name and sometimes a
second one; the first that is given counts.  Some models refuse entries that
belong to no field.
-/

namespace Tablesmith.Config

abbrev Entries := List (Value × Value)

/-- The entry of a field, under the first of its names that is there. -/
def findField? (entries : Entries) : List String → Option (String × Value)
  | [] => none
  | name :: rest =>
    match Value.lookupText? entries name with
    | some v => some (name, v)
    | none => findField? entries rest

/-- Check a field, or read it otherwise if it is not there. -/
def fieldOr {α : Type}
    (absent : Checked α)
    (entries : Entries)
    (names : List String)
    (check : Value → Checked α) :
    Checked α :=
  match findField? entries names with
  | some (name, v) => (check v).within (.field name)
  | none => absent.within (.field (names.headD ""))

def requiredField {α : Type} (entries : Entries) (name : String)
    (check : Value → Checked α) : Checked α :=
  fieldOr (.problem .missing) entries [name] check

/-- Check a field, or take a standard value. -/
def optionalField {α : Type} (entries : Entries) (name : String)
    (standard : α) (check : Value → Checked α) : Checked α :=
  fieldOr (.ok standard) entries [name] check

/-- Check a field that may be nothing or left out. -/
def nullableField {α : Type} (entries : Entries) (name : String)
    (check : Value → Checked α) : Checked (Option α) :=
  optionalField entries name none (Checked.orNull check)

/-- The step to the entry under a key. -/
def keyPlace : Value → Place
  | .text s => .field s
  | .bool b => .item (if b then 1 else 0)
  | .int n => .item n
  | other => .field other.inspect

/-- What is wrong with an entry that belongs to no field. -/
def extraProblem (used : List String) (key : Value) : Option Problem :=
  match givenText key with
  | .text s => if used.contains s then none else some .extra
  | .broken _ => some .keyNotText
  | .none => some .keyNotText

/-- Whether a key is a text with a lone surrogate. -/
def isBrokenKey : Value → Bool
  | .brokenText _ => true
  | _ => false

/-- The faults of the entries that belong to no field, in their order. -/
def extraFaults (fields : List (List String)) (entries : Entries) :
    List Fault :=
  let used := fields.filterMap fun names => (findField? entries names).map
    Prod.fst
  entries.filterMap fun e =>
    (extraProblem used e.1).map fun p => ⟨[keyPlace e.1], p⟩

/-- Check a model that ignores other entries. -/
def openModel {α : Type}
    (name : String)
    (read : Entries → Checked α)
    (v : Value) :
    Checked α :=
  match v.entries? with
  | none => .problem (.notModel name)
  | some entries => read entries

/-- Check a model that refuses other entries. -/
def closedModel {α : Type}
    (name : String)
    (fields : List (List String))
    (read : Entries → Checked α)
    (v : Value) :
    Checked α :=
  match v.entries? with
  | none => .problem (.notModel name)
  | some entries =>
    if entries.any fun e => isBrokenKey e.1 then
      .problem .notUnicode
    else
      match extraFaults fields entries with
      | [] => read entries
      | extras => .error ((read entries).faults ++ extras)

end Tablesmith.Config

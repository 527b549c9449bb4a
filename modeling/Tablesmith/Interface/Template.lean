import Tablesmith.Interface.Naming
import Tablesmith.Sql.Plan

/-!
# Rendering interfaces

An interface mirrors a table: one field for each column, in order, marked when
it may be left out.  Rendering fills a fixed template; whatever the template
reaches has to be given, and the first thing that is missing is reported.
-/

namespace Tablesmith.Interface

open Tablesmith.Schema

def templateName : String := "typescript/interface.ts.j2"

def fieldType : ColumnType → String
  | .string => "string"
  | .number => "number"
  | .guid => "string"
  | .decimal => "number"
  | .dateTime => "Date"
  | .boolean => "boolean"
  | .autoIncrement => "number"

/-- The type of a field for a value that is a column type. -/
def fieldTypeOf (value : Value) : Except Failure String :=
  (Sql.asColumnType "typescript" value).map fieldType

/-- A field of an interface. -/
structure Field where
  name : Value
  type : Value
  required : Value
  deriving Repr

def Field.ofColumn (c : Column) : Field where
  name := c.name
  type := c.type
  required := c.options.required

/-- What fills the template: the name of the table, the name of the interface,
the fields, and how types are written. -/
structure TemplateData where
  table : Option Value
  name : Option Value
  fields : Option (List Field)
  typeOf : Option (Value → Except Failure String)

/-- Something that the template needs. -/
def needed {α : Type} (name : String) (given : Option α) : Except Failure α :=
  match given with
  | some x => .ok x
  | none => .error (.template (.undefined name))

def fieldLine (typeOf : Option (Value → Except Failure String)) (f : Field) :
    Except Failure String := do
  let name ← f.name.written
  let write ← needed "map_type" typeOf
  let type ← write f.type
  return "\t" ++ name ++
    (if f.required.truthy then "" else "?") ++ ": " ++ type ++ ";\n"

def fill (data : TemplateData) : Except Failure String := do
  let table ← (needed "table_name" data.table).bind Value.written
  let name ← (needed "name" data.name).bind Value.written
  let fields ← needed "columns" data.fields
  let lines ← fields.mapM (fieldLine data.typeOf)
  return "/**\n * Record of the " ++ table ++
    " table.\n */\nexport interface " ++ name ++ " \x7b\n" ++
    String.join lines ++ "\x7d\n"

/-- Fill the template with the given name; there is only one. -/
def render (template : String) (data : TemplateData) :
    Except Failure String :=
  if template = templateName then fill data
  else .error (.template (.notFound template))

/-- The text of the interface for a table with the given name and columns. -/
def interfaceOf (table : Value) (columns : List Column) :
    Except Failure String := do
  let name ← interfaceNameOf table
  fill {
    table := some table
    name := some (.text name)
    fields := some (columns.map Field.ofColumn)
    typeOf := some fieldTypeOf }

/-- The record about a template that is being filled. -/
def templateFilled : Log.Record :=
  .debug "ddl_generator.templating" ("Rendering template " ++ templateName)

end Tablesmith.Interface

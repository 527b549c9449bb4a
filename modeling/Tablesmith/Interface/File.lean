import Tablesmith.Interface.Layout
import Tablesmith.Interface.Template

/-!
# The file of interfaces

The interfaces of several tables make up one text, with a blank line between
each two of them.
-/

namespace Tablesmith.Interface

open Tablesmith.Schema Tablesmith.Text

/-- The interface of a table, without white space at its ends. -/
def declaration (t : Table) : Except Failure String := do
  let name ← t.qualifiedName?
  let text ← interfaceOf name t.columns
  return trim text

def typesText (tables : List Table) : Except Failure String := do
  let declarations ← tables.mapM declaration
  return tabsToSpaces tabWidth (String.intercalate "\n\n" declarations)

/-- The records that come up while the interfaces of tables are written: one
for each table up to the first whose name is no text. -/
def typesRecords (tables : List Table) : List Log.Record :=
  (tables.takeWhile fun t => t.qualifiedName.isAnyText).map
    fun _ => templateFilled

/-- The record about the file that was written. -/
def typesWritten (path : String) : Log.Record :=
  .debug "ddl_generator.typegen" ("Generated file: " ++ path)

end Tablesmith.Interface

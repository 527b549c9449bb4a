import Tablesmith.Text.Blank
import Tablesmith.Value.Display

/-!
# Statements

The statements of a script that rebuilds a database, as data, and the text of
each.  All names stand in the text as they are.
-/

namespace Tablesmith.Sql

open Tablesmith.Text

def columnWord : ColumnType → String
  | .string => "varchar"
  | .number => "integer"
  | .guid => "uuid"
  | .decimal => "decimal"
  | .dateTime => "timestamp"
  | .boolean => "boolean"
  | .autoIncrement => "serial"

def actionWord : ReferentialAction → String
  | .cascade => "CASCADE"
  | .setNull => "SET NULL"

/-- What a statement says about a column: its name and type, whether it must
hold a value, and expressions for a default and a check. -/
structure ColumnClause where
  name : String
  type : ColumnType
  required : Bool
  default : Option String
  check : Option String
  deriving DecidableEq, Repr

/-- What a statement says about a foreign key: the columns, the table and the
columns they point at, and the actions. -/
structure ReferenceClause where
  columns : List String
  target : String
  targetColumns : List String
  onUpdate : ReferentialAction
  onDelete : ReferentialAction
  deriving DecidableEq, Repr

/-- A statement. -/
inductive Statement where
  | dropSchema (schema : String)
  | createSchema (schema : String)
  | dropTable (table : String)
  | createTable (table : String)
  | addColumn (table : String) (clause : ColumnClause)
  | addPrimaryKey (table : String) (columns : List String)
  | addUnique (table : String) (columns : List String)
  | addForeignKey (table : String) (clause : ReferenceClause)
  deriving DecidableEq, Repr

/-- Names between parentheses, with commas between them. -/
def nameList (names : List String) : String :=
  "(" ++ String.intercalate "," names ++ ")"

/-- The parts of a column clause; a space goes between them. -/
def ColumnClause.parts (c : ColumnClause) : List String :=
  [columnWord c.type] ++
    (if c.required then ["NOT NULL"] else []) ++
    (c.default.map fun e => "DEFAULT " ++ e).toList ++
    (c.check.map fun e => "CHECK (" ++ e ++ ")").toList

/-- The text of a foreign key clause. -/
def ReferenceClause.text (r : ReferenceClause) : String :=
  nameList r.columns ++ " REFERENCES " ++ r.target ++ " " ++
    nameList r.targetColumns ++ " ON UPDATE " ++ actionWord r.onUpdate ++
    " ON DELETE " ++ actionWord r.onDelete

/-- The text of a statement.  White space at the end of a column's expression
is not kept. -/
def Statement.text : Statement → String
  | .dropSchema schema => "DROP SCHEMA IF EXISTS " ++ schema ++ " CASCADE"
  | .createSchema schema => "CREATE SCHEMA " ++ schema
  | .dropTable table => "DROP TABLE IF EXISTS " ++ table ++ " CASCADE"
  | .createTable table => "CREATE TABLE " ++ table ++ "()"
  | .addColumn table clause =>
    trimEnd
      (String.intercalate " "
        (("ALTER TABLE " ++ table ++ " ADD COLUMN " ++ clause.name) ::
          clause.parts))
  | .addPrimaryKey table columns =>
    "ALTER TABLE " ++ table ++ " ADD PRIMARY KEY " ++ nameList columns
  | .addUnique table columns =>
    "ALTER TABLE " ++ table ++ " ADD UNIQUE " ++ nameList columns
  | .addForeignKey table clause =>
    "ALTER TABLE " ++ table ++ " ADD FOREIGN KEY " ++ clause.text

end Tablesmith.Sql

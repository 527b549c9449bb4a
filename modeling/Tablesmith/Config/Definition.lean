import Tablesmith.Schema.Database

/-!
# Configurations

A configuration declares tables, says where the results go, and may hold the
settings of a database connection.
-/

namespace Tablesmith.Config

/-- The settings of a database connection. -/
structure DatabaseSettings where
  name : String
  user : Option String
  password : Option String
  host : String
  port : Option Nat
  connectTimeout : Int
  deriving DecidableEq, Repr

/-- What a reference column points at; without a column, the one of the same
name. -/
structure ReferenceDefinition where
  table : String
  column : Option String
  onUpdate : ReferentialAction
  onDelete : ReferentialAction
  deriving DecidableEq, Repr

/-- The kind of a declared column. -/
inductive ColumnKind where
  | primaryKey
  | plain (type : ColumnType)
  | reference (target : ReferenceDefinition)
  deriving DecidableEq, Repr

/-- A declared column. -/
structure ColumnDefinition where
  name : String
  kind : ColumnKind
  required : Bool
  unique : Bool
  default : Option String
  check : Option String
  deriving DecidableEq, Repr

/-- A declared table, with the names of the columns of each uniqueness
constraint over several columns. -/
structure TableDefinition where
  name : String
  schema : Option String
  columns : List ColumnDefinition
  unique : List (List String)
  deriving DecidableEq, Repr

/-- A configuration. -/
structure Configuration where
  dialect : Schema.Dialect
  sqlOutput : Option String
  typesOutput : Option String
  database : Option DatabaseSettings
  tables : List TableDefinition
  deriving DecidableEq, Repr

def ColumnKind.word : ColumnKind → String
  | .primaryKey => "primary_key"
  | .plain type => type.word
  | .reference _ => "reference"

def ColumnKind.target? : ColumnKind → Option ReferenceDefinition
  | .reference target => some target
  | _ => none

/-- The column types that can be declared, each by its own word. -/
def plainTypes : List ColumnType :=
  [.string, .number, .decimal, .guid, .dateTime, .boolean]

end Tablesmith.Config

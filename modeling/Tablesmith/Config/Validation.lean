import Tablesmith.Config.Definition
import Tablesmith.Config.Model

/-!
# Validating configurations

Each definition of a configuration is a model with its own fields.  A column
is also checked as a whole, once all its fields are in order: a reference says
what it points at, nothing else does, and a primary key column takes no
options.
-/

namespace Tablesmith.Config

def choicesBy {α : Type} (word : α → String) (xs : List α) :
    List (String × α) :=
  xs.map fun x => (word x, x)

def checkAction (v : Value) : Checked ReferentialAction :=
  checkChoice
    (choicesBy ReferentialAction.word [.cascade, .setNull]) v

/-- What a kind word stands for; a reference still lacks its target. -/
inductive KindWord where
  | primaryKey
  | plain (type : ColumnType)
  | reference
  deriving DecidableEq, Repr

def KindWord.text : KindWord → String
  | .primaryKey => "primary_key"
  | .plain type => type.word
  | .reference => "reference"

/-- The kinds of column that can be declared. -/
def KindWord.all : List KindWord :=
  [.primaryKey] ++ plainTypes.map KindWord.plain ++ [.reference]

def checkKind (v : Value) : Checked KindWord :=
  checkChoice (choicesBy KindWord.text KindWord.all) v

def checkSettings : Value → Checked DatabaseSettings :=
  openModel "DatabaseSettings" fun entries =>
    let name := requiredField entries "name" checkFilledText
    let user := nullableField entries "user" checkText
    let password := nullableField entries "password" checkText
    let host := optionalField entries "host" "localhost" checkText
    let port := optionalField entries "port" (some 5432) checkPort
    let timeout := optionalField entries "connect_timeout" 10 checkPositive
    (name.both (user.both (password.both (host.both (port.both timeout))))).map
      fun (name, user, password, host, port, connectTimeout) =>
        { name, user, password, host, port, connectTimeout }

/-- Check what a reference column points at. -/
def checkReference : Value → Checked ReferenceDefinition :=
  closedModel "ReferenceDefinition"
    [["table"], ["column"], ["on_update"], ["on_delete"]]
    fun entries =>
      let table := requiredField entries "table" checkFilledText
      let column := nullableField entries "column" checkText
      let onUpdate := optionalField entries "on_update" .cascade checkAction
      let onDelete := optionalField entries "on_delete" .cascade checkAction
      (table.both (column.both (onUpdate.both onDelete))).map
        fun (table, column, onUpdate, onDelete) =>
          { table, column, onUpdate, onDelete }

/-- The options that are given for a column, in alphabetical order. -/
def givenOptions (entries : Entries) : List String :=
  ["check", "default", "required", "unique"].filter fun name =>
    (Value.lookupText? entries name).isSome

/-- Check the kind of a column together with what it points at and the options
that are given for it. -/
def checkColumnKind
    (name : String)
    (kind : KindWord)
    (target : Option ReferenceDefinition)
    (options : List String) :
    Checked ColumnKind :=
  match kind, target with
  | .reference, none => .problem (.refused (.referenceMissing name))
  | .reference, some target => .ok (.reference target)
  | _, some _ => .problem (.refused (.referenceStray name kind.text))
  | .plain type, none => .ok (.plain type)
  | .primaryKey, none =>
    if options.isEmpty then .ok .primaryKey
    else .problem (.refused (.primaryKeyOptions name options))

/-- Check the fields of a column: each by itself, then the kind as a whole. -/
def checkColumnFields (entries : Entries) :
    Checked (ColumnDefinition × KindWord × Option ReferenceDefinition) :=
  let name := requiredField entries "name" checkFilledText
  let kind := requiredField entries "type" checkKind
  let required := optionalField entries "required" true checkBoolean
  let unique := optionalField entries "unique" false checkBoolean
  let default := optionalField entries "default" none checkDefault
  let check := nullableField entries "check" checkText
  let references := nullableField entries "references" checkReference
  (name.both (kind.both (required.both (unique.both (default.both
    (check.both references)))))).map
    fun (name, kind, required, unique, default, check, target) =>
      ({ name, kind := .primaryKey, required, unique, default, check }, kind,
        target)

def checkColumn (v : Value) : Checked ColumnDefinition :=
  (closedModel "ColumnDefinition"
    [["name"], ["type"], ["required"], ["unique"], ["default"], ["check"],
      ["references"]]
    (fun entries =>
      (checkColumnFields entries).map fun c => (c, givenOptions entries))
    v).bind
    fun ((column, kind, target), options) =>
      (checkColumnKind column.name kind target options).map fun kind =>
        { column with kind }

def checkTable : Value → Checked TableDefinition :=
  closedModel "TableDefinition"
    [["name"], ["schema", "schema_name"], ["columns"], ["unique"]]
    fun entries =>
      let name := requiredField entries "name" checkFilledText
      let schema :=
        fieldOr (.ok none) entries ["schema", "schema_name"]
          (Checked.orNull checkText)
      let columns := optionalField entries "columns" [] (checkList checkColumn)
      let unique :=
        optionalField entries "unique" [] (checkList (checkList checkText))
      (name.both (schema.both (columns.both unique))).map
        fun (name, schema, columns, unique) =>
          { name, schema, columns, unique }

def checkDialect (v : Value) : Checked Schema.Dialect :=
  checkChoice (choicesBy Schema.Dialect.name Schema.Dialect.all) v

def checkConfiguration : Value → Checked Configuration :=
  openModel "ToolConfigSchema" fun entries =>
    let dialect :=
      optionalField entries "dialect" Schema.Dialect.standard checkDialect
    let sqlOutput := nullableField entries "sql_output" checkText
    let typesOutput := nullableField entries "types_output" checkText
    let database := nullableField entries "database" checkSettings
    let tables := requiredField entries "tables" (checkFilledList checkTable)
    (dialect.both (sqlOutput.both (typesOutput.both (database.both
      tables)))).map
      fun (dialect, sqlOutput, typesOutput, database, tables) =>
        { dialect, sqlOutput, typesOutput, database, tables }

/-- Where a fault is, for a reader. -/
def placeText (fault : Fault) : String :=
  if fault.path.isEmpty then "Top Level" else pathText fault.path

/-- What is wrong at each place; of several faults at one place the last
counts. -/
def faultTable (faults : List Fault) : List (Value × Value) :=
  faults.foldl
    (fun table fault =>
      Value.put table (.text (placeText fault)) (.text fault.problem.message))
    []

/-- The report about the faults of a configuration. -/
def faultReport (faults : List Fault) (file : Value) : Report :=
  let table := faultTable faults
  .badConfiguration
    ("Invalid configuration (" ++ toString table.length ++ " error(s))")
    [("errors", .dict table)]
    file

def logger : String := "ddl_generator.config"

/-- Validate a configuration that was read from the given file. -/
def validate (v : Value) (file : Value) : Log.Logged Configuration :=
  match checkConfiguration v with
  | .ok c =>
    ⟨[.debug logger "Configuration dictionary parsed and validated successfully."],
      .ok c⟩
  | .error faults =>
    ⟨[.error logger
        "Configuration validation failed. Please check your config file or arguments."],
      .error (.report (faultReport faults file))⟩

end Tablesmith.Config

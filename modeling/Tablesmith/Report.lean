import Tablesmith.Connection.Masking
import Tablesmith.Value.Display
import Tablesmith.Value.Equality

/-!
# Reports

A report is an error that the tool itself raises: a message with a code, the
circumstances it arose in, and suggestions for the reader.  Its text lists
them below the message.
-/

namespace Tablesmith

/-- What a report is about. -/
inductive Category where
  | general
  | model
  | unmapped
  | configuration
  | execution
  deriving DecidableEq, Repr

/-- The name of a category of reports. -/
def Category.kind : Category → String
  | .general => "DDLGeneratorError"
  | .model => "ModelValidationError"
  | .unmapped => "UnmappedEnumerationError"
  | .configuration => "ConfigurationError"
  | .execution => "ExecutionError"

/-- The code of a category; a general report has none of its own. -/
def Category.code : Category → Value
  | .general => .null
  | .model => .text "MODEL_VALIDATION_ERROR"
  | .unmapped => .text "UNMAPPED_ENUMERATION_ERROR"
  | .configuration => .text "CONFIG_ERROR"
  | .execution => .text "EXECUTION_ERROR"

/-- The suggestions of a category, for reports that bring none. -/
def Category.suggestions : Category → List Value
  | .general => []
  | .model =>
    [.text "Add the columns to the table before referencing them in a constraint",
      .text "Check column names for typos"]
  | .unmapped =>
    [.text "Extend the type mapping tables of every dialect and generator",
      .text "Report this as a missing mapping"]
  | .configuration =>
    [.text "Check the configuration file syntax",
      .text "Verify all required fields are present",
      .text "Make sure referenced tables are declared in 'tables'"]
  | .execution =>
    [.text "Check database server is running",
      .text "Verify connection credentials",
      .text "Inspect the generated script with --print"]

/-- An error of the tool. -/
structure Report where
  category : Category
  message : String
  context : List (String × Value)
  suggestions : List Value
  code : Value
  deriving Repr

namespace Report

def lines (r : Report) : List String :=
  [r.message] ++
    (if r.code.truthy then ["Error Code: " ++ r.code.display] else []) ++
    (if r.context.isEmpty then []
      else "Context:" ::
        r.context.map fun entry => "  " ++ entry.1 ++ ": " ++ entry.2.display)
    ++
    (if r.suggestions.isEmpty then []
      else "Suggestions:" :: r.suggestions.map fun s => "  • " ++ s.display)

def text (r : Report) : String :=
  String.intercalate "\n" r.lines

/-- A report of the given category, with that category's code. -/
def of
    (category : Category)
    (message : String)
    (context : List (String × Value))
    (suggestions : List String) :
    Report :=
  { category
    message
    context
    suggestions :=
      if suggestions.isEmpty then category.suggestions
      else suggestions.map Value.text
    code := category.code }

/-- A context entry that is left out when its value counts as false. -/
def entryIfTrue (key : String) (value : Value) : List (String × Value) :=
  if value.truthy then [(key, value)] else []

/-- A call that would leave the schema model invalid. -/
def invalidModel
    (message : String)
    (table : Value)
    (columns : Option (List Value))
    (suggestions : List String) :
    Report :=
  .of .model message
    (entryIfTrue "table" table ++
      match columns with
      | none => []
      | some names => [("columns", .list names)])
    suggestions

def unmappedValue (message : String) (value : Value) (target : String) :
    Report :=
  .of .unmapped message
    ((if value.isNull then [] else [("value", value)]) ++
      entryIfTrue "target" (.text target))
    []

/-- A configuration that is wrong or missing; the file is named last. -/
def badConfiguration
    (message : String)
    (context : List (String × Value))
    (file : Value) :
    Report :=
  .of .configuration message (context ++ entryIfTrue "config_file" file) []

/-- A script that failed to run; the address is shown with its password
masked. -/
def failedExecution (message address : String) : Report :=
  .of .execution message
    (if address.isEmpty then []
      else [("database_url", .text (Connection.maskPasswords address))])
    []

end Report

end Tablesmith

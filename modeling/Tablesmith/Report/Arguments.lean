import Tablesmith.Failure

/-!
# Reports from arguments

A report can be made by keyword, with a context, suggestions, a code, or the
circumstances that its category knows by name.  The circumstances are entered
into the given context, in the place of an entry of the same name.
-/

namespace Tablesmith.Report

def categoryOf? (kind : String) : Option Category :=
  [.general, .model, .unmapped, .configuration, .execution].find?
    fun c => c.kind = kind

/-- The circumstances that a category knows by name, and whether an entry is
made for a value. -/
def circumstances : Category → List (String × (Value → Bool))
  | .general => []
  | .model => [("table", Value.truthy), ("columns", fun v => !v.isNull)]
  | .unmapped => [("value", fun v => !v.isNull), ("target", Value.truthy)]
  | .configuration => [("config_file", Value.truthy)]
  | .execution => [("database_url", Value.truthy)]

/-- The value that is shown for a circumstance: an address is masked. -/
def shownValue (name : String) (v : Value) : Except CallFault Value :=
  if name = "database_url" then
    if v.isAnyText then
      .ok (.text (Connection.maskPasswords v.display))
    else
      .error (.notScannable v.typeName)
  else
    .ok v

def enter (context : Value) (name : String) (v : Value) :
    Except CallFault Value :=
  match context with
  | .dict entries => .ok (.dict (Value.put entries (.text name) v))
  | .list _ => .error .badListIndex
  | other => .error (.notAssignable other.typeName)

def enterAll (context : Value) (given : String → Value) :
    List (String × (Value → Bool)) → Except CallFault Value
  | [] => .ok context
  | (name, counts) :: rest =>
    if counts (given name) then do
      let shown ← shownValue name (given name)
      let entered ← enter context name shown
      enterAll entered given rest
    else
      enterAll context given rest

/-- The entries of a context; one that counts as false has none. -/
def contextEntries (context : Value) : Except Failure (List (String × Value)) :=
  if context.truthy then
    match context with
    | .dict entries => .ok (entries.map fun e => (e.1.display, e.2))
    | other => .error (.property (.absent other.typeName "items"))
  else
    .ok []

/-- The suggestions in a value; one that counts as false has none. -/
def suggestionsIn (v : Value) : Except Failure (List Value) :=
  if v.truthy then
    match v.parts? with
    | some items => .ok items
    | none => .error (.call (.notIterable v.typeName))
  else
    .ok []

/-- The words that may name an argument of a general report. -/
def generalKeywords : List String :=
  ["context", "suggestions", "error_code"]

/-- The fault of arguments that are not understood: a message that comes
twice, or for a general report any unknown word. -/
def checkArguments (category : Category) (arguments : List (Value × Value)) :
    Except CallFault Unit :=
  let callee := category.kind ++ ".__init__"
  let names := arguments.map fun e => e.1.display
  match names.find? fun n => n = "self" || n = "message" with
  | some name => .error (.repeatedArgument callee name)
  | none =>
    match names.find? fun n => !generalKeywords.contains n with
    | some name =>
      if category = .general then .error (.unexpectedKeyword callee name)
      else .ok ()
    | none => .ok ()

/-- The report that keyword arguments describe. -/
def ofArguments
    (category : Category)
    (message : String)
    (arguments : List (Value × Value)) :
    Except Failure Report := do
  let given (name : String) : Value :=
    (Value.lookupText? arguments name).getD .null
  let initial : Value :=
    (Value.lookupText? arguments "context").getD (.dict [])
  match checkArguments category arguments with
  | .error fault => .error (.call fault)
  | .ok () =>
    match enterAll initial given (circumstances category) with
    | .error fault => .error (.call fault)
    | .ok entered =>
      let context ← contextEntries entered
      let suggestions ← suggestionsIn (given "suggestions")
      return {
        category
        message
        context
        suggestions :=
          if suggestions.isEmpty then category.suggestions else suggestions
        code :=
          if category = .general then given "error_code" else category.code }

end Tablesmith.Report

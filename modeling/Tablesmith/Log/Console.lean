import Tablesmith.Log.Formatter
import Tablesmith.Text.Uppercase

/-!
# The console

Records go to the handlers of the root logger.  Setting up the console removes
all handlers and adds one, with a level of its own; so the last setup counts.
Records below the level of the root, or of no positive level, are dropped.
-/

namespace Tablesmith.Log

open Tablesmith.Text

/-- A handler: a silent one, or one that writes to the console. -/
inductive Handler where
  | silent
  | console (level : Level) (colours : Bool)
  deriving DecidableEq, Repr

/-- The root logger. -/
structure Root where
  handlers : List Handler
  level : Level
  deriving DecidableEq, Repr

/-- The root logger before any setup. -/
def Root.start : Root := ⟨[.silent], Level.warning⟩

/-- Remove a handler, if it is there. -/
def Root.removeHandler (root : Root) (handler : Handler) : Root :=
  { root with handlers := root.handlers.erase handler }

def Root.addHandler (root : Root) (handler : Handler) : Root :=
  { root with handlers := root.handlers ++ [handler] }

/-- Remove, one by one, the handlers that are there to begin with. -/
def Root.removeHandlers (root : Root) : Root :=
  root.handlers.foldl Root.removeHandler root

/-- Set up the console: a handler takes the place of all others, and the level
is set for it and for the root. -/
def Root.setup (before : Root) (level : Level) (colours : Bool) : Root :=
  { before.removeHandlers.addHandler (.console level colours) with level }

/-- What a setup asks for: the lowest level that is shown, and colours. -/
structure Setup where
  level : Level := Level.info
  colours : Bool := true
  deriving DecidableEq, Repr

/-- Set up the console as asked for.  Only a terminal is given colours. -/
def Root.setupFor (isTerminal : Bool) (before : Root) (s : Setup) : Root :=
  before.setup s.level (s.colours && isTerminal)

/-- Set up the console several times. -/
def Root.setupAll (isTerminal : Bool) (before : Root) (setups : List Setup) :
    Root :=
  setups.foldl (Root.setupFor isTerminal) before

/-- What a handler writes for a record: its text and a newline. -/
def Handler.write (r : Record) : Handler → String
  | .silent => ""
  | .console level colours =>
    if level ≤ r.level then
      match format colours standardFormat (.ofRecord r) with
      | .ok text => text ++ "\n"
      | .error _ => ""
    else
      ""

/-- Whether a record reaches the handlers. -/
def Root.accepts (root : Root) (r : Record) : Bool :=
  0 < r.level && root.level ≤ r.level

def Root.write (root : Root) (r : Record) : String :=
  if root.accepts r then String.join (root.handlers.map (Handler.write r))
  else ""

def Root.writeAll (root : Root) (records : List Record) : String :=
  String.join (records.map root.write)

def success (logger message : String) : Record :=
  .info logger (successMark ++ " " ++ message)

def progress (logger message : String) : Record :=
  .info logger (progressMark ++ " " ++ message)

/-- The line around the title of a section. -/
def sectionLine : String := String.ofList (List.replicate 60 sectionMark)

/-- The records that begin a section: its title in capital letters between two
lines. -/
def sectionStart (logger title : String) : List Record :=
  [.info logger sectionLine, .info logger ("  " ++ upperCase title),
    .info logger sectionLine]

/-- A logging call. -/
inductive Call where
  | success (message : String)
  | progress (message : String)
  | sectionStart (title : String)
  | plain (level : Level) (message : String)
  deriving DecidableEq, Repr

def Call.records (logger : String) : Call → List Record
  | .success message => [Log.success logger message]
  | .progress message => [Log.progress logger message]
  | .sectionStart title => Log.sectionStart logger title
  | .plain level message => [⟨level, logger, message, none⟩]

/-- The records of calls in a row, each with the name of its logger. -/
def recordsOfCalls (calls : List (String × Call)) : List Record :=
  calls.flatMap fun (logger, call) => call.records logger

end Tablesmith.Log

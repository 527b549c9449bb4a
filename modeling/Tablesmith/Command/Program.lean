import Tablesmith.Command.Job
import Tablesmith.Command.Parsing
import Tablesmith.Command.Usage
import Tablesmith.Config.Building
import Tablesmith.Config.Load
import Tablesmith.Interface.File
import Tablesmith.Log.Console

/-!
# The program

The program loads a configuration, builds the database that it declares and
makes its statements.  What is asked for then follows step by step: the script
is written to a file or printed, the interfaces are written, and the script is
executed.  The first step that fails ends the program.
-/

namespace Tablesmith.Command

open Tablesmith.Config Tablesmith.Disk Tablesmith.Schema

def logger : String := "ddl_generator.cli"

/-! ## Steps -/

/-- What is done with the statements of a database. -/
inductive Step where
  | writeScript (output : String)
  | printScript
  | writeTypes (output : String)
  | execute
  deriving DecidableEq, Repr

/-- A path that is set and not empty. -/
def givenPath : Option String → Option String
  | some text => if text.isEmpty then none else some text
  | none => none

/-- Whether the script is printed: on request, or if there is nothing else to
do. -/
def printsScript (a : Arguments) (c : Configuration) : Bool :=
  a.print ||
    !((givenPath c.sqlOutput).isSome || (givenPath c.typesOutput).isSome ||
      a.execute)

/-- The steps that arguments and configuration ask for, in order. -/
def steps (a : Arguments) (c : Configuration) : List Step :=
  ((givenPath c.sqlOutput).map Step.writeScript).toList ++
    (if printsScript a c then [.printScript] else []) ++
    ((givenPath c.typesOutput).map Step.writeTypes).toList ++
    (if a.execute then [.execute] else [])

/-- A built database with its statements and its script. -/
structure Product where
  database : Database
  statements : List String

def Product.script (p : Product) : String :=
  Sql.joinStatements Sql.standardSeparator p.statements

def writeScript (s : Surroundings) (p : Product) (output : String) :
    Job Unit := do
  let path := Path.ofString output
  Job.write s path p.script
  Job.log
    [Log.success logger
      ("Wrote " ++ toString p.statements.length ++ " statements to " ++
        path.text)]

/-- Write the interfaces to a file. -/
def writeTypes (s : Surroundings) (p : Product) (output : String) :
    Job Unit := do
  let path := Path.ofString output
  Job.log (Log.sectionStart logger "TypeScript Generation")
  Job.log (Interface.typesRecords p.database.tables)
  let content ← Job.ofResult (Interface.typesText p.database.tables)
  Job.write s path content
  Job.log
    [Interface.typesWritten path.text,
      Log.success logger ("Wrote interfaces to " ++ output)]

/-- Execute the script, if there are settings for a connection. -/
def execute
    (s : Surroundings)
    (p : Product)
    (settings : Option DatabaseSettings) :
    Job Unit := do
  Job.log (Log.sectionStart logger "Execution")
  match settings with
  | none =>
    Job.log
      [.error logger
        "--execute needs a 'database' section in the configuration."]
    throw .refusal
  | some settings =>
    Job.deploy s p.database settings
    Job.log [Log.success logger "Schema created successfully."]

def Step.perform
    (s : Surroundings)
    (p : Product)
    (settings : Option DatabaseSettings) :
    Step → Job Unit
  | .writeScript output => Command.writeScript s p output
  | .printScript => Job.print p.script
  | .writeTypes output => Command.writeTypes s p output
  | .execute => Command.execute s p settings

/-! ## The whole program -/

/-- Build the database that a configuration declares and make its
statements. -/
def produce (c : Configuration) : Job Product := do
  Job.log (Log.sectionStart logger "Schema Model")
  let database ← Job.ofLogged (buildDatabase c)
  Job.log
    [.info logger
      ("Declared " ++ toString database.tables.length ++ " tables in " ++
        toString database.schemas.length ++ " non-public schemas.")]
  Job.log (Log.sectionStart logger "SQL Generation")
  Job.log [Log.progress logger "Generating statements..."]
  let statements ← Job.ofResult (Sql.create database)
  Job.log [Sql.statementsMade database statements]
  return { database, statements }

def generate (s : Surroundings) (a : Arguments) : Job Unit := do
  Job.log [Log.progress logger "Loading configuration..."]
  let c ← Job.ofLogged (load (← get).disk a.config a.attributes)
  let p ← produce c
  (steps a c).forM fun step => step.perform s p c.database

/-- The record about a failure that ended the program.  Those that the tool
itself raises carry a trace only on request. -/
def failureRecord (a : Arguments) (f : Failure) : Log.Record :=
  if f.isReport then
    { level := Log.Level.error
      logger
      message := f.kind ++ ": " ++ f.message
      trace := if a.verbose then some f.kind else none }
  else
    { level := Log.Level.error
      logger
      message :=
        "An unexpected error occurred during generation: " ++ f.message
      trace := some f.kind }

/-- The exit code of a job, and the records about how it ended. -/
def ending (a : Arguments) : Except Stop Unit → Nat × List Log.Record
  | .ok () => (0, [])
  | .error .refusal => (1, [])
  | .error (.failure f) => (1, [failureRecord a f])

/-- How the program ended: its exit code, what it printed and logged, the disk
and the calls on the connection. -/
structure Outcome where
  exit : Nat
  output : String
  errors : String
  disk : Disk
  events : List Connection.Event

/-- The lowest level of records that are shown. -/
def logLevel (a : Arguments) : Log.Level :=
  if a.verbose then Log.Level.debug else Log.Level.info

def console (s : Surroundings) (a : Arguments) : Log.Root :=
  Log.Root.start.setupFor s.isTerminal
    { level := logLevel a, colours := !a.noColor }

def printed (effects : List Effect) : String :=
  String.join (effects.filterMap fun
    | .print text => some text
    | _ => none)

def recordsOf (effects : List Effect) : List Log.Record :=
  effects.filterMap fun
    | .record r => some r
    | _ => none

def callsOf (effects : List Effect) : List Connection.Event :=
  effects.filterMap fun
    | .call e => some e
    | _ => none

def runWith (s : Surroundings) (disk : Disk) (a : Arguments) : Outcome :=
  let (result, done) := (generate s a).run.run ⟨disk, []⟩
  let (exit, last) := ending a result
  let records :=
    Log.Record.debug logger
      "Verbose mode enabled. DEBUG level logging activated." ::
      recordsOf done.effects ++ last
  { exit
    output := printed done.effects
    errors := (console s a).writeAll records
    disk := done.disk
    events := callsOf done.effects }

/-- The program. -/
def run (s : Surroundings) (disk : Disk) (words : List String) : Outcome :=
  match parse words with
  | .ok (.arguments a) => runWith s disk a
  | .ok .help => ⟨0, helpText, "", disk, []⟩
  | .error m => ⟨2, "", misuseText m, disk, []⟩

end Tablesmith.Command

import Tablesmith.Connection.Deployment
import Tablesmith.Disk.Basic
import Tablesmith.Log.Record

/-!
# Jobs

A job works on a disk and leaves traces: records of the log, printed texts,
files, and calls on the database connection.  It can stop early, and then
keeps the disk and the traces as they are.
-/

namespace Tablesmith.Command

open Tablesmith.Disk

/-- A trace of what the program did.  A file that could not be written in full
leaves a trace too. -/
inductive Effect where
  | record (r : Log.Record)
  | print (text : String)
  | write (path : Path) (text : String) (isDone : Bool)
  | call (e : Connection.Event)

/-- Why a job stops early: a failure, or a request that it refuses after
saying why. -/
inductive Stop where
  | failure (f : Failure)
  | refusal

/-- The world around the program: how writing a file changes the disk and
whether it fails, how the database connection behaves, and whether the error
stream is a terminal. -/
structure Surroundings where
  write : Disk → Path → String → Disk × Except Failure Unit
  database : Connection.Behaviour
  isTerminal : Bool

/-- Write a file on a disk that fails only for what is on it. -/
def writeFile (d : Disk) (p : Path) (text : String) :
    Disk × Except Failure Unit :=
  match d.write p text with
  | .ok after => (after, .ok ())
  | .error fault => (d, .error (.disk fault))

/-- The disk and the effects so far, in order. -/
structure Progress where
  disk : Disk
  effects : List Effect

/-- A computation that works on a disk, leaves effects and may stop early. -/
abbrev Job := ExceptT Stop (StateM Progress)

namespace Job

def leave (effects : List Effect) : Job Unit :=
  modify fun p => { p with effects := p.effects ++ effects }

def log (records : List Log.Record) : Job Unit :=
  leave (records.map Effect.record)

/-- Stop with a failure, or go on with a result. -/
def ofResult {α : Type} : Except Failure α → Job α
  | .ok a => pure a
  | .error f => throw (.failure f)

/-- Write the records of a computation, and go on with its result. -/
def ofLogged {α : Type} (x : Log.Logged α) : Job α := do
  log x.records
  ofResult x.result

def print (text : String) : Job Unit :=
  leave [.print text]

def write (s : Surroundings) (path : Path) (text : String) : Job Unit := do
  let p ← get
  let (disk, result) := s.write p.disk path text
  set { p with disk }
  leave [.write path text result.isOk]
  ofResult result

def deploy
    (s : Surroundings)
    (d : Schema.Database)
    (settings : Config.DatabaseSettings) :
    Job Unit := do
  let deployment := Connection.deploy d (some settings) s.database
  leave (deployment.events.map Effect.call)
  let _ ← ofLogged deployment.logged

end Job

end Tablesmith.Command

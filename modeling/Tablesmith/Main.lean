import Tablesmith.Command.Program

/-!
# The executable

The program works on a picture of the disk.  Here the picture is taken, the
program is run on it, and what it wrote and printed is carried out.
-/

open Tablesmith Tablesmith.Command Tablesmith.Disk

namespace Tablesmith.Executable

/-- What is really there under a full path. -/
def observe (place : Path) : IO (Option Node) := do
  let real := (← IO.currentDir) / place.text
  if ← real.isDir then
    return some .directory
  else if ← real.pathExists then
    return some (.file (← IO.FS.readBinFile real).data.toList)
  else
    return none

/-- What the system says when it refuses to open a path. -/
def refusal (failure : IO.Error) : DiskFault :=
  match failure with
  | .permissionDenied .. => .refused "PermissionError" (toString failure)
  | _ => .refused "OSError" (toString failure)

/-- A picture of the disk at the given paths. -/
def picture (working : Path) (paths : List Path) : IO Disk := do
  let mut disk : Disk := { working, entries := [] }
  for path in paths do
    let place := Path.resolve working path
    match ← (observe place).toBaseIO with
    | .ok (some node) => disk := disk.put place node
    | .ok none => continue
    | .error failure =>
      disk := { disk with refusals := (path, refusal failure) :: disk.refusals }
  return disk

/-- The connection of a program that is built without a driver. -/
def noDriver : Connection.Behaviour := fun operation =>
  if operation = .openPool then
    some ⟨"OperationalError", "no database driver is available", true⟩
  else
    none

/-- The path of the configuration file that the words name, if any. -/
def configPaths (words : List String) : List Path :=
  match parse words with
  | .ok (.arguments a) => [.ofString a.config]
  | _ => []

/-- Carry out what changed between two pictures of the disk. -/
def carryOut (before after : Disk) : IO Unit := do
  for (place, node) in after.entries do
    unless before.node? place = some node do
      match node with
      | .directory => IO.FS.createDirAll place.text
      | .file content =>
        IO.FS.writeBinFile place.text ⟨content.toArray⟩

/-- Run the program.  A first run on a picture of the configuration file tells
which places it would write to; the run that counts is on a picture of those
too. -/
def execute (words : List String) : IO Nat := do
  let working := Path.ofString (← IO.currentDir).toString
  let isTerminal ← (← IO.getStderr).isTty
  let surroundings : Surroundings := ⟨writeFile, noDriver, isTerminal⟩
  let paths := configPaths words
  let first ← picture working paths
  let tried := run surroundings first words
  let before ← picture working (paths ++ tried.disk.entries.map Prod.fst)
  let outcome := run surroundings before words
  carryOut before outcome.disk
  IO.print outcome.output
  IO.eprint outcome.errors
  return outcome.exit

end Tablesmith.Executable

/-- Generate a schema from the configuration that the command line names. -/
def main (words : List String) : IO UInt32 := do
  return UInt32.ofNat (← Tablesmith.Executable.execute words)

import Tablesmith.Config.Validation
import Tablesmith.Disk.Basic
import Tablesmith.Log.Record
import Tablesmith.Yaml.Reading

/-!
# Loading configurations

A configuration file holds one YAML dictionary.  The caller can set the output
paths in place of the file; what the file says about them then does not count.
Output paths of a loaded configuration start from the root.
-/

namespace Tablesmith.Config

open Tablesmith.Disk Tablesmith.Log

/-! ## Attributes of the caller -/

/-- What the caller asks for, by name. -/
abbrev Attributes := List (String × Value)

/-- The keys of a configuration that the caller can set. -/
def callerKeys : List String := ["sql_output", "types_output"]

/-- The attributes that are set in place of the file. -/
def overriding (attributes : Attributes) : Attributes :=
  attributes.filter fun e => callerKeys.contains e.1 && !e.2.isNull

/-- Entries with attributes set in their place. -/
def override (entries : List (Value × Value)) (attributes : Attributes) :
    List (Value × Value) :=
  attributes.foldl (fun es e => Value.put es (.text e.1) e.2) entries

/-- The records about the attributes that are set in place of the file. -/
def overrideRecords (attributes : Attributes) : List Record :=
  if attributes.isEmpty then []
  else
    let keys := Value.set (attributes.map fun e => .text e.1)
    [.debug logger
      ("Overridden config keys from CLI arguments: " ++ keys.display)]

/-! ## Reading -/

/-- A report about a configuration file. -/
def fileReport (message path : String) : Report :=
  .badConfiguration message [] (.text path)

def fileMissing (path : String) : Report :=
  fileReport ("Config file not found at " ++ path) path

/-- The report about a file that is not YAML. -/
def fileMalformed (path : String) : Report :=
  fileReport ("Error parsing YAML file " ++ path ++ ": <yaml error>") path

/-- The report about a file that holds no dictionary. -/
def fileNoDictionary (path : String) : Report :=
  fileReport ("Content in config file " ++ path ++ " is not a dictionary") path

/-- The value that the bytes of a file stand for. -/
def readValue (path : String) (bytes : List UInt8) : Except Failure Value :=
  match Yaml.read (.ofBytes bytes) with
  | .ok v => .ok v
  | .error .malformed => .error (.report (fileMalformed path))
  | .error (.scalar failure) => .error failure
  | .error (.undecoded fault) => .error (.encoding fault)

/-- The entries of the dictionary in a file. -/
def readEntries (disk : Disk) (path : String) :
    Except Failure (List (Value × Value)) :=
  match disk.readFile (Path.ofString path) with
  | .error fault => .error (.disk fault)
  | .ok none => .error (.report (fileMissing path))
  | .ok (some bytes) =>
    match readValue path bytes with
    | .error failure => .error failure
    | .ok (.dict entries) => .ok entries
    | .ok _ => .error (.report (fileNoDictionary path))

/-! ## Output paths -/

/-- An output path from the root.  An empty path stays as it is. -/
def resolvedOutput (working : Path) :
    Option String → Except Failure (Option String)
  | none => .ok none
  | some text =>
    if text.isEmpty then .ok (some text)
    else if text.toList.any fun c => c.toNat = 0 then
      .error (.range .nulInPath)
    else
      .ok (some (Path.resolve working (.ofString text)).text)

/-- A configuration whose output paths start from the root. -/
def resolveOutputs (working : Path) (c : Configuration) :
    Except Failure Configuration := do
  let sqlOutput ← resolvedOutput working c.sqlOutput
  let typesOutput ← resolvedOutput working c.typesOutput
  return { c with sqlOutput, typesOutput }

/-! ## Loading -/

/-- The configuration that entries and attributes of the caller make up. -/
def configure
    (working : Path)
    (path : String)
    (entries : List (Value × Value))
    (attributes : Attributes) :
    Logged Configuration := do
  let chosen := overriding attributes
  Logged.writeAll (overrideRecords chosen)
  let valid ← validate (.dict (override entries chosen)) (.text path)
  let c ← Logged.ofResult (resolveOutputs working valid)
  Logged.write
    (.info logger "Configuration loaded and validated successfully.")
  return c

/-- Load the configuration file at a path. -/
def load (disk : Disk) (path : String) (attributes : Attributes) :
    Logged Configuration := do
  let entries ← Logged.ofResult (readEntries disk path)
  Logged.write (.debug logger ("Loaded configuration from " ++ path))
  configure disk.working path entries attributes

end Tablesmith.Config

import Tablesmith.Disk.Path
import Tablesmith.Failure

/-!
# Disks

A disk holds files and directories under their full paths.  Looking a path up
walks from directory to directory.  There are no links.  The system can refuse
to look a path up or to open the file there, as it does for a name that is too
long and without permission.
-/

namespace Tablesmith

/-- What a full path leads to. -/
inductive Disk.Node where
  | directory
  | file (content : List UInt8)
  deriving DecidableEq, Repr

/-- A disk with a working directory, and the paths under which the system
refuses to open a file for reading. -/
structure Disk where
  working : Disk.Path
  entries : List (Disk.Path × Disk.Node)
  refusals : List (Disk.Path × DiskFault) := []
  deriving Repr

namespace Disk

/-- Where a walk ends: at a node, at a free place in a directory, or at
something on the way that is missing or no directory. -/
inductive Walk where
  | found (place : Path) (node : Node)
  | free (place : Path)
  | missing
  | blocked
  deriving Repr

/-- The node under a full path.  Whatever leads to the working directory is a
directory. -/
def node? (d : Disk) (place : Path) : Option Node :=
  match d.entries.find? fun e => e.1 = place with
  | some e => some e.2
  | none =>
    if place.anchor = d.working.anchor &&
        place.names.isPrefixOf d.working.names then
      some .directory
    else if place.names.isEmpty then
      some .directory
    else
      none

def put (d : Disk) (place : Path) (node : Node) : Disk :=
  if d.entries.any fun e => e.1 = place then
    { d with
      entries := d.entries.map fun e => if e.1 = place then (place, node) else e }
  else
    { d with entries := d.entries ++ [(place, node)] }

/-- Walk along names from a directory. -/
def walkFrom (d : Disk) (place : Path) : List String → Walk
  | [] =>
    match d.node? place with
    | some node => .found place node
    | none => .missing
  | name :: rest =>
    match d.node? place with
    | some .directory =>
      let next := place.follow [name]
      match rest, d.node? next with
      | [], some node => .found next node
      | [], none => .free next
      | _, none => .missing
      | _, some _ => walkFrom d next rest
    | some (.file _) => .blocked
    | none => .missing

def walk (d : Disk) (p : Path) : Walk :=
  if p.anchor.isEmpty then d.walkFrom d.working p.names
  else d.walkFrom ⟨"/", []⟩ p.names

/-- The content of the file at a path, if there is one. -/
def read? (d : Disk) (p : Path) : Option (List UInt8) :=
  match d.walk p with
  | .found _ (.file content) => some content
  | _ => none

/-- The fault with which the system refuses to open a path. -/
def refusal? (d : Disk) (p : Path) : Option DiskFault :=
  (d.refusals.find? fun e => e.1 = p).map Prod.snd

/-- Read the content of the file at a path, if there is one and the system does
not refuse. -/
def readFile (d : Disk) (p : Path) : Except DiskFault (Option (List UInt8)) :=
  match d.refusal? p with
  | some fault => .error fault
  | none => .ok (d.read? p)

/-- Make one directory.  It is no fault if it is there already; nothing comes
back if the directory that should hold it is missing. -/
def makeDirectory (d : Disk) (p : Path) : Except DiskFault (Option Disk) :=
  match d.walk p with
  | .found _ .directory => .ok (some d)
  | .found _ (.file _) => .error (.occupied p.text)
  | .free place => .ok (some (d.put place .directory))
  | .missing => .ok none
  | .blocked => .error (.notDirectory p.text)

/-- Make a directory and those that should hold it, for a path with the given
names in reverse order. -/
def makeDirectories (d : Disk) (anchor : String) :
    List String → Except DiskFault Disk
  | [] => .ok d
  | name :: above =>
    let p : Path := ⟨anchor, (name :: above).reverse⟩
    match d.makeDirectory p with
    | .error fault => .error fault
    | .ok (some after) => .ok after
    | .ok none =>
      match makeDirectories d anchor above with
      | .error fault => .error fault
      | .ok between =>
        match between.makeDirectory p with
        | .error fault => .error fault
        | .ok (some after) => .ok after
        | .ok none => .ok between

/-- Write a text to the file at a path, in a directory that is made if need
be. -/
def write (d : Disk) (p : Path) (text : String) : Except DiskFault Disk :=
  match makeDirectories d p.anchor p.parent.names.reverse with
  | .error fault => .error fault
  | .ok ready =>
    let content := text.toUTF8.data.toList
    match ready.walk p with
    | .found _ .directory => .error (.isDirectory p.text)
    | .found place (.file _) => .ok (ready.put place (.file content))
    | .free place => .ok (ready.put place (.file content))
    | .missing => .error (.notDirectory p.text)
    | .blocked => .error (.notDirectory p.text)

end Disk

end Tablesmith

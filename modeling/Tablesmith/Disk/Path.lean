import Tablesmith.Text.Search

/-!
# Paths

A path is a sequence of names, from the root or from the working directory.
Repeated slashes and single points do not count; two points climb one level.
-/

namespace Tablesmith.Disk

/-- A path.  The anchor is empty for a path from the working directory; a path
from the root begins with one slash, or with exactly two. -/
structure Path where
  anchor : String
  names : List String
  deriving DecidableEq, Repr

namespace Path

/-- The parts of a list of characters between slashes. -/
def splitSlashes : List Char → List (List Char)
  | [] => [[]]
  | c :: rest =>
    if c = '/' then
      [] :: splitSlashes rest
    else
      match splitSlashes rest with
      | [] => [[c]]
      | part :: more => (c :: part) :: more

/-- The slashes that begin a path from the root. -/
def anchorOf : List Char → String
  | '/' :: '/' :: '/' :: _ => "/"
  | '/' :: '/' :: _ => "//"
  | '/' :: _ => "/"
  | _ => ""

def ofString (text : String) : Path where
  anchor := anchorOf text.toList
  names :=
    ((splitSlashes text.toList).map String.ofList).filter fun name =>
      !name.isEmpty && name ≠ "."

def text (p : Path) : String :=
  if p.anchor.isEmpty && p.names.isEmpty then "."
  else p.anchor ++ String.intercalate "/" p.names

/-- The path without its last name. -/
def parent (p : Path) : Path :=
  { p with names := p.names.dropLast }

/-- Follow names from a path: two points climb one level. -/
def follow (start : Path) (names : List String) : Path :=
  names.foldl
    (fun p name =>
      if name = ".." then p.parent
      else { p with names := p.names ++ [name] })
    start

/-- The path from the root that a path means in a working directory. -/
def resolve (working p : Path) : Path :=
  if p.anchor.isEmpty then working.follow p.names
  else Path.follow ⟨"/", []⟩ p.names

end Path

end Tablesmith.Disk

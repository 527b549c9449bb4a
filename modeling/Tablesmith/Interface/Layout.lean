import Tablesmith.Text.Blank

/-!
# Layout of generated text

In generated text tabs become spaces and lines have no white space at their
end.  Only a newline ends a line.
-/

namespace Tablesmith.Interface

open Tablesmith.Text

/-- The width of a tab in generated text. -/
def tabWidth : Int := 4

/-- The lines of a text, without the newlines between them. -/
def splitLines : List Char → List (List Char)
  | [] => [[]]
  | c :: rest =>
    if c = '\n' then
      [] :: splitLines rest
    else
      match splitLines rest with
      | [] => [[c]]
      | line :: more => (c :: line) :: more

/-- A line with each tab replaced by spaces; a width below one leaves
none. -/
def expandTabs (width : Int) (line : List Char) : List Char :=
  line.flatMap fun c =>
    if c = '\t' then List.replicate width.toNat ' ' else [c]

/-- Replace tabs by spaces and drop the white space at the end of each
line. -/
def tabsToSpaces (width : Int) (text : String) : String :=
  String.ofList
    (List.intercalate ['\n']
      ((splitLines text.toList).map fun line =>
        dropBlankEnd (expandTabs width line)))

end Tablesmith.Interface

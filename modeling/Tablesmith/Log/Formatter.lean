import Tablesmith.Log.Record
import Tablesmith.Text.Blank
import Tablesmith.Text.Digit
import Tablesmith.Text.Search
import Tablesmith.Text.Word
import Tablesmith.Value.Equality
import Tablesmith.Value.Pattern

/-!
# Formatting records

A record is written by a format, and colours may be put around the text: the
colour of its level for warnings and errors, and otherwise one that the mark
at the start of its message or the level of details asks for.
-/

namespace Tablesmith.Log

open Tablesmith.Text

/-- A record whose message is still a pattern with arguments.  The further
attributes, by name, say where, when and by whom it was made; the time is there
as a text besides.  A trace of an exception or of the calls that is not
attached is empty. -/
structure Entry where
  level : Level
  logger : String
  message : String
  arguments : List Value
  attributes : List (String × Value)
  time : String
  trace : String
  stack : String
  deriving Repr

/-- The arguments that a record holds: a single dictionary that is not empty
takes the place of the row that it is in. -/
def heldArguments : List Value → Value
  | [.dict (e :: rest)] => .dict (e :: rest)
  | row => .tuple row

/-- The arguments of a message.  A single dictionary that is not empty gives
its entries by name. -/
def messageArguments (arguments : List Value) : Pattern.Arguments :=
  match arguments with
  | [.dict (e :: rest)] => .ofEntries (e :: rest)
  | row => .ofRow row

/-- The message of an entry; without arguments it is no pattern. -/
def Entry.render (e : Entry) : Except Failure String :=
  if e.arguments.isEmpty then .ok e.message
  else Pattern.fill e.message (messageArguments e.arguments)

def traceText (kind : String) : String :=
  "<traceback " ++ kind ++ ">"

/-- The entry of a record without arguments.  Where and when the record was made
is not known; the standard format does not ask for it. -/
def Entry.ofRecord (r : Record) : Entry where
  level := r.level
  logger := r.logger
  message := r.message
  arguments := []
  attributes := []
  time := ""
  trace := r.trace.elim "" traceText
  stack := ""

/-- The format of records unless another one is given. -/
def standardFormat : String := "%(levelname)s: %(message)s"

/-- Drop digits of any script, or a single star. -/
def dropMeasure (cs : List Char) : List Char :=
  match cs with
  | '*' :: rest => rest
  | _ => cs.dropWhile fun c => (digitValue? c).isSome

/-- Whether a character ends a field: a letter of a conversion, or a percent
sign.  Case does not count, so that the dotless and the dotted i and the long s
pass for such letters too. -/
def endsField (c : Char) : Bool :=
  "diouxefgcrsa%İıſ".toList.contains c.toLower

/-- Whether characters begin with a field: a name between parentheses, flags,
a width, a precision and a letter. -/
def beginsWithField (cs : List Char) : Bool :=
  match cs with
  | '%' :: '(' :: rest =>
    let afterName := rest.dropWhile isWordPart
    match rest.takeWhile isWordPart, afterName with
    | _ :: _, ')' :: more =>
      let afterFlags :=
        more.dropWhile fun c => ['#', '0', '+', ' ', '-'].contains c
      let afterWidth := dropMeasure afterFlags
      let ending :=
        match afterWidth with
        | '.' :: precision =>
          let last := dropMeasure precision
          if last.length < precision.length then last else afterWidth
        | _ => afterWidth
      match ending with
      | c :: _ => endsField c
      | [] => false
    | _, _ => false
  | _ => false

/-- Whether a field begins somewhere in a format. -/
def hasField : List Char → Bool
  | [] => false
  | c :: rest => beginsWithField (c :: rest) || hasField rest

/-- Check a format: it has a field.  An empty format means the message
alone. -/
def checkFormat (format : String) : Except Failure String :=
  let used := if format.isEmpty then "%(message)s" else format
  if hasField used.toList then .ok used
  else .error (.range (.badFormat used))

/-- The attributes that an entry has from the start, by name. -/
def Entry.fields (e : Entry) : List (Value × Value) :=
  [(.text "name", .text e.logger), (.text "msg", .text e.message),
    (.text "args", heldArguments e.arguments),
    (.text "levelname", .text (Level.name e.level)),
    (.text "levelno", .int e.level)] ++
  e.attributes.map fun (name, value) => (.text name, value)

/-- Whether a format asks for the time. -/
def usesTime (used : String) : Bool :=
  holds used "%(asctime)"

/-- What a format is filled with: the attributes of an entry, its message as it
was rendered, and the time if the format asks for it. -/
def fields (used : String) (e : Entry) (message : String) :
    List (Value × Value) :=
  let rendered := Value.put e.fields (.text "message") (.text message)
  if usesTime used then Value.put rendered (.text "asctime") (.text e.time)
  else rendered

/-- A field that is not there is a fault of the format. -/
def explainField : Failure → Failure
  | .missingKey key => .range (.unknownField key.display)
  | other => other

/-- A text with a trace, unless that is empty, on a line of its own below
it. -/
def withTrace (text trace : String) : String :=
  if trace.isEmpty then text
  else if text.toList.getLast? = some '\n' then text ++ trace
  else text ++ "\n" ++ trace

def formatPlain (format : String) (e : Entry) : Except Failure String := do
  let used ← checkFormat format
  let message ← e.render
  let text ←
    (Pattern.fill used (.ofEntries (fields used e message))).mapError
      explainField
  return withTrace (withTrace text e.trace) e.stack

/-- The mark at the start of a message about success. -/
def successMark : String := "✓"

/-- The mark at the start of a message about progress. -/
def progressMark : String := "→"

/-- The mark that a line between sections is made of. -/
def sectionMark : Char := '='

/-- The escape sequence with the given number. -/
def escape (number : String) : String := "\x1b[" ++ number ++ "m"

/-- What ends a colour. -/
def reset : String := escape "0"

def bold : String := escape "1"

def levelColour? (level : Level) : Option String :=
  if level = Level.warning then some (escape "33")
  else if level = Level.error then some (escape "31")
  else if level = Level.critical then some (escape "35")
  else none

/-- Whether a message begins with a line between sections, white space
aside. -/
def marksSection (message : String) : Bool :=
  beginsWith (trimStart message) (String.ofList (List.replicate 3 sectionMark))

def colour? (level : Level) (message : String) : Option String :=
  match levelColour? level with
  | some colour => some colour
  | none =>
    if beginsWith message successMark then some (escape "92" ++ bold)
    else if beginsWith message progressMark then some (escape "94")
    else if marksSection message then some (bold ++ escape "96")
    else if level = Level.debug then some (escape "36")
    else none

def coloured (colour : Option String) (text : String) : String :=
  match colour with
  | some c => c ++ text ++ reset
  | none => text

/-- Write an entry by a format, with colours or without. -/
def format (colours : Bool) (pattern : String) (e : Entry) :
    Except Failure String := do
  let text ← formatPlain pattern e
  if colours then
    let message ← e.render
    return coloured (colour? e.level message) text
  else
    return text

end Tablesmith.Log

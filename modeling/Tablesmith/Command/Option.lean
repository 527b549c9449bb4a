import Tablesmith.Text.Digit
import Tablesmith.Text.Search

/-!
# Options

The options of the command line, and what each of its words is taken for.
A long name may be cut short as long as it stays unambiguous; a value may be
attached to an option.
-/

namespace Tablesmith.Command

/-- An option. -/
inductive Choice where
  | help
  | config
  | sqlOutput
  | typesOutput
  | print
  | execute
  | verbose
  | noColor
  deriving DecidableEq, Repr

namespace Choice

/-- All options, in the order of their help. -/
def all : List Choice :=
  [.help, .config, .sqlOutput, .typesOutput, .print, .execute, .verbose,
    .noColor]

def letter? : Choice → Option Char
  | .help => some 'h'
  | .config => some 'c'
  | .sqlOutput => some 'o'
  | .typesOutput => some 't'
  | .verbose => some 'v'
  | _ => none

def longName : Choice → String
  | .help => "--help"
  | .config => "--config"
  | .sqlOutput => "--sql-output"
  | .typesOutput => "--types-output"
  | .print => "--print"
  | .execute => "--execute"
  | .verbose => "--verbose"
  | .noColor => "--no-color"

def takesValue : Choice → Bool
  | .config => true
  | .sqlOutput => true
  | .typesOutput => true
  | _ => false

/-- The names of an option. -/
def label (o : Choice) : String :=
  match o.letter? with
  | some c => String.ofList ['-', c] ++ "/" ++ o.longName
  | none => o.longName

def ofLetter? (c : Char) : Option Choice :=
  all.find? fun o => o.letter? = some c

/-- The options whose long names begin with the given text. -/
def matching (start : String) : List Choice :=
  all.filter fun o => Text.beginsWith o.longName start

end Choice

/-! ## Words -/

/-- What is wrong with a command line. -/
inductive Misuse where
  | ambiguous (word : String) (candidates : List Choice)
  | valueMissing (option : Choice)
  | valueUnused (option : Choice) (value : String)
  | configMissing
  | unknown (words : List String)
  deriving DecidableEq, Repr

/-- What a word of the command line is taken for: a plain word; the mark after
which all words are plain; a letter with what follows it in the word; a long
name with the value after an equals sign; or an option that does not exist. -/
inductive Reading where
  | plain
  | mark
  | letter (option : Choice) (rest : List Char)
  | long (option : Choice) (value : Option String)
  | stranger
  deriving DecidableEq, Repr

/-- Whether characters are a negative number, and so no option. -/
def isNegativeNumber : List Char → Bool
  | '-' :: number =>
    let isDigit (c : Char) : Bool := (Text.digitValue? c).isSome
    let whole := number.takeWhile isDigit
    match number.dropWhile isDigit with
    | [] => !whole.isEmpty
    | '.' :: fraction => !fraction.isEmpty && fraction.all isDigit
    | _ => false
  | _ => false

/-- What a word is taken for that begins with two hyphens. -/
def readLong (word : String) : Except Misuse (Option Reading) :=
  let cs := word.toList
  let name := String.ofList (cs.takeWhile (· ≠ '='))
  let value :=
    match cs.dropWhile (· ≠ '=') with
    | [] => none
    | _ :: rest => some (String.ofList rest)
  match Choice.matching name with
  | [] => .ok none
  | [o] => .ok (some (.long o value))
  | candidates => .error (.ambiguous word candidates)

/-- What a word is taken for that begins with a hyphen but names no option. -/
def readOther (word : String) : Reading :=
  if isNegativeNumber word.toList || word.toList.contains ' ' then .plain
  else .stranger

def readWord (word : String) : Except Misuse Reading :=
  match word.toList with
  | '-' :: '-' :: _ =>
    (readLong word).map fun found => found.getD (readOther word)
  | '-' :: c :: rest =>
    match Choice.ofLetter? c with
    | some o => .ok (.letter o rest)
    | none => .ok (readOther word)
  | _ => .ok .plain

/-- What the words of a command line are taken for. -/
def readWords : List String → Except Misuse (List (String × Reading))
  | [] => .ok []
  | word :: rest =>
    if word = "--" then
      .ok ((word, .mark) :: rest.map fun w => (w, .plain))
    else do
      let reading ← readWord word
      let others ← readWords rest
      return (word, reading) :: others

end Tablesmith.Command

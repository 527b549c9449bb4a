import Tablesmith.Command.Option
import Tablesmith.Value.Basic

/-!
# Reading the command line

The options of a command line are gathered from left to right.  Letters
without values can share one word.  A request for help ends the reading;
otherwise the configuration file has to be named, and no word may be left
over.
-/

namespace Tablesmith.Command

/-- What the command line asks for. -/
structure Arguments where
  config : String
  sqlOutput : Option String
  typesOutput : Option String
  print : Bool
  execute : Bool
  verbose : Bool
  noColor : Bool
  deriving DecidableEq, Repr

def optionalText : Option String → Value
  | some text => .text text
  | none => .null

def Arguments.attributes (a : Arguments) : List (String × Value) :=
  [("config", .text a.config), ("sql_output", optionalText a.sqlOutput),
    ("types_output", optionalText a.typesOutput), ("print_sql", .bool a.print),
    ("execute", .bool a.execute), ("verbose", .bool a.verbose),
    ("no_color", .bool a.noColor)]

/-! ## Options that share a word -/

/-- The options in one word: those without values, then perhaps one with a
value, which is given in the word or is the next one; or else a rest that is
no option. -/
structure Cluster where
  flags : List Choice
  setting : Option (Choice × Option String)
  rest : Option String
  deriving DecidableEq, Repr

def Cluster.of (o : Choice) (value : Option String) : Cluster :=
  if o.takesValue then ⟨[], some (o, value), none⟩ else ⟨[o], none, none⟩

/-- The options in a word that begins with a letter, from that letter and the
characters after it. -/
def letterCluster (o : Choice) : List Char → Except Misuse Cluster
  | [] => .ok (.of o none)
  | c :: more =>
    let attached := if c = '=' then more else c :: more
    if o.takesValue then
      .ok (.of o (some (String.ofList attached)))
    else if c = '=' || c = '-' then
      .error (.valueUnused o (String.ofList attached))
    else
      match Choice.ofLetter? c with
      | some next =>
        (letterCluster next more).map fun k => { k with flags := o :: k.flags }
      | none => .ok ⟨[o], none, some (String.ofList ('-' :: c :: more))⟩

/-- The option in a word with a long name. -/
def longCluster (o : Choice) (value : Option String) : Except Misuse Cluster :=
  match value with
  | some text =>
    if o.takesValue then .ok (.of o value) else .error (.valueUnused o text)
  | none => .ok (.of o none)

/-! ## Gathering -/

/-- What has been gathered: the options that were given, with their values,
the latest first, and the words left over. -/
structure Gathered where
  flags : List Choice
  settings : List (Choice × String)
  leftOver : List String

/-- Where the reading ends. -/
inductive Reached where
  | help
  | done (g : Gathered)

/-- Add the options of a word, the last one with its value. -/
def Gathered.add (g : Gathered) (k : Cluster) (value : Option String) :
    Gathered where
  flags := k.flags ++ g.flags
  settings :=
    match k.setting, value with
    | some (o, _), some text => (o, text) :: g.settings
    | _, _ => g.settings
  leftOver := g.leftOver ++ k.rest.toList

/-- The value of the last option of a word, and the words after it: the value
in the word, or the next word if that is a plain one. -/
def valueOf (k : Cluster) (words : List (String × Reading)) :
    Except Misuse (Option String × Bool) :=
  match k.setting, words with
  | none, _ => .ok (none, false)
  | some (_, some text), _ => .ok (some text, false)
  | some (_, none), (text, .plain) :: _ => .ok (some text, true)
  | some (o, none), _ => .error (.valueMissing o)

/-- Gather the options of words; `skip` tells whether the first of them is the
value of an option that was gathered before. -/
def gather (g : Gathered) (skip : Bool) :
    List (String × Reading) → Except Misuse Reached
  | [] => .ok (.done g)
  | (word, reading) :: rest =>
    if skip then
      gather g false rest
    else
      let cluster? : Except Misuse (Option Cluster) :=
        match reading with
        | .letter o more => (letterCluster o more).map some
        | .long o value => (longCluster o value).map some
        | _ => .ok none
      match cluster? with
      | .error misuse => .error misuse
      | .ok none => gather { g with leftOver := g.leftOver ++ [word] } false rest
      | .ok (some k) =>
        match valueOf k rest with
        | .error misuse => .error misuse
        | .ok (value, fromNext) =>
          if k.flags.contains .help then .ok .help
          else gather (g.add k value) fromNext rest

/-! ## Arguments -/

/-- What a command line comes to. -/
inductive Request where
  | help
  | arguments (a : Arguments)
  deriving DecidableEq, Repr

/-- The arguments that the gathered options make up. -/
def Gathered.arguments (g : Gathered) : Except Misuse Arguments :=
  match g.settings.lookup .config with
  | none => .error .configMissing
  | some config =>
    if g.leftOver.isEmpty then
      .ok
        { config
          sqlOutput := g.settings.lookup .sqlOutput
          typesOutput := g.settings.lookup .typesOutput
          print := g.flags.contains .print
          execute := g.flags.contains .execute
          verbose := g.flags.contains .verbose
          noColor := g.flags.contains .noColor }
    else
      .error (.unknown g.leftOver)

/-- Read a command line. -/
def parse (words : List String) : Except Misuse Request := do
  let read ← readWords words
  match ← gather ⟨[], [], []⟩ false read with
  | .help => return .help
  | .done g => return .arguments (← g.arguments)

end Tablesmith.Command

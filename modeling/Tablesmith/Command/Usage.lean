import Tablesmith.Command.Option
import Tablesmith.Text.Quoted

/-!
# Usage

The texts about the command line itself.
-/

namespace Tablesmith.Command

def programName : String := "ddl-generator"

/-- The lines that show the options. -/
def usageLines : List String :=
  ["usage: ddl-generator [-h] -c CONFIG [-o SQL_OUTPUT] [-t TYPES_OUTPUT]",
    "                     [--print] [--execute] [-v] [--no-color]"]

/-- The lines that say what the program and its options are for. -/
def helpLines : List String :=
  usageLines ++
    ["",
      "Generate a PostgreSQL schema build script and TypeScript interfaces from a",
      "YAML table definition.",
      "",
      "options:",
      "  -h, --help            show this help message and exit",
      "  -c CONFIG, --config CONFIG",
      "                        Path to the YAML configuration file declaring the",
      "                        tables.",
      "  -o SQL_OUTPUT, --sql-output SQL_OUTPUT",
      "                        File to write the SQL script to. Overrides config file",
      "                        setting.",
      "  -t TYPES_OUTPUT, --types-output TYPES_OUTPUT",
      "                        File to write TypeScript interfaces to. Overrides",
      "                        config file setting.",
      "  --print               Print the SQL script to stdout.",
      "  --execute             Run the script against the database configured under",
      "                        'database'.",
      "  -v, --verbose         Enable verbose DEBUG logging.",
      "  --no-color            Disable colored output (useful for CI/CD",
      "                        environments)."]

/-- A text with a newline after each line. -/
def textOfLines (lines : List String) : String :=
  String.join (lines.map fun line => line ++ "\n")

def helpText : String := textOfLines helpLines

/-- What is wrong with a command line, in words. -/
def Misuse.message : Misuse → String
  | .ambiguous word candidates =>
    "ambiguous option: " ++ word ++ " could match " ++
      String.intercalate ", " (candidates.map Choice.longName)
  | .valueMissing o => "argument " ++ o.label ++ ": expected one argument"
  | .valueUnused o value =>
    "argument " ++ o.label ++ ": ignored explicit argument " ++
      Text.quoted value
  | .configMissing =>
    "the following arguments are required: " ++ Choice.config.label
  | .unknown words =>
    "unrecognized arguments: " ++ String.intercalate " " words

/-- The text about a command line that is wrong. -/
def misuseText (m : Misuse) : String :=
  textOfLines (usageLines ++ [programName ++ ": error: " ++ m.message])

end Tablesmith.Command

/-!
# Scripts

A script is a sequence of statements as one text: each statement is followed
by the separator, the last one too.
-/

namespace Tablesmith.Sql

/-- What follows each statement of a script unless the caller says
otherwise. -/
def standardSeparator : String := ";\n"

def joinStatements (separator : String) (statements : List String) : String :=
  if statements.isEmpty then
    ""
  else
    separator.intercalate statements ++ separator

end Tablesmith.Sql

import Tablesmith.Failure

/-!
# Names of interfaces

The words of a name are its maximal runs of ASCII letters and digits.  In
Pascal case the words stand together, each with a capital letter first.
-/

namespace Tablesmith.Interface

def isWordChar (c : Char) : Bool :=
  c.isAlphanum

/-- Capitalise the first character of each word of a list of characters and
drop what lies between the words.  The flag says that a word has begun. -/
def pascalChars (inWord : Bool) : List Char → List Char
  | [] => []
  | c :: rest =>
    if isWordChar c then
      (if inWord then c else c.toUpper) :: pascalChars true rest
    else
      pascalChars false rest

def pascalCase (name : String) : String :=
  String.ofList (pascalChars false name.toList)

def interfaceName (table : String) : String :=
  "I" ++ pascalCase table

def asName (v : Value) : Except Failure String :=
  if v.isAnyText then .ok v.display
  else .error (.call (.expectedText v.typeName))

def pascalCaseOf (v : Value) : Except Failure String :=
  (asName v).map pascalCase

/-- The name of the interface for a value, if it is a text. -/
def interfaceNameOf (v : Value) : Except Failure String :=
  (asName v).map interfaceName

end Tablesmith.Interface

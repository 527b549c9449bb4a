import Tablesmith.Config.Fault
import Tablesmith.Report
import Tablesmith.Text.Utf8

/-!
# Failures

Everything that can go wrong, by cause.  A failure has a kind, under which it
is reported, and a message.
-/

namespace Tablesmith

open Tablesmith.Config Tablesmith.Number Tablesmith.Text

/-- A call with arguments of the wrong kind. -/
inductive CallFault where
  | unexpectedKeyword (callee keyword : String)
  | missingName (callee : String)
  | repeatedArgument (callee argument : String)
  | unkeyable (typeName : String)
  | notIterable (typeName : String)
  | notSearchable (typeName : String)
  | searchedForText
  | expectedText (typeName : String)
  | notPart (index : Nat) (typeName : String)
  | notAssignable (typeName : String)
  | badListIndex
  | notScannable (typeName : String)
  | argumentsLeft
  | argumentsMissing
  | needsMapping
  | needsNumber (conversion typeName : String)
  | needsInteger (conversion typeName : String)
  | needsCharacter
  | needsReal (typeName : String)
  | needsWholeWidth
  deriving DecidableEq, Repr

/-- A property that is not there or cannot be assigned. -/
inductive PropertyFault where
  | noSetter (property owner : String)
  | absent (typeName property : String)
  deriving DecidableEq, Repr

/-- A value out of its range. -/
inductive RangeFault where
  | nulInPath
  | codePoint
  | tooLargeFor (type : String)
  | badFormat (format : String)
  | unknownField (field : String)
  | badConversion (conversion : String) (position : Nat)
  | incompleteFormat
  | incompleteKey
  | widthTooBig
  | precisionTooBig
  | precisionTooLarge
  | characterCode
  | wholeOfInfinity
  | wholeOfNaN
  deriving DecidableEq, Repr

/-- A template that cannot be rendered. -/
inductive TemplateFault where
  | undefined (name : String)
  | notFound (name : String)
  deriving DecidableEq, Repr

/-- A file operation that the disk refuses, for a reason of its own or for one
that the system gives. -/
inductive DiskFault where
  | isDirectory (path : String)
  | occupied (path : String)
  | notDirectory (path : String)
  | refused (kind message : String)
  deriving DecidableEq, Repr

/-- An exception that a call on the connection raises: the name of its class,
its text, and whether its class is one of the driver's own error classes. -/
structure DriverFault where
  kind : String
  message : String
  ofDriver : Bool
  deriving DecidableEq, Repr

/-- What can go wrong. -/
inductive Failure where
  | report (r : Report)
  | invalid (faults : List Fault)
  | call (fault : CallFault)
  | property (fault : PropertyFault)
  | frozenField (field : String)
  | listIndex
  | textIndex
  | missingKey (key : Value)
  | number (fault : NumberFault)
  | calendar (fault : CalendarFault)
  | range (fault : RangeFault)
  | encoding (fault : Utf8Fault)
  | template (fault : TemplateFault)
  | disk (fault : DiskFault)
  | driver (fault : DriverFault)
  deriving Repr

/-- Whether a call has a given result shows without comparing failures. -/
instance {α : Type} [DecidableEq α] (call : Except Failure α) (a : α) :
    Decidable (call = .ok a) :=
  decidable_of_iff (call.toOption = some a) <| by
    cases call with
    | error failure => exact ⟨nofun, nofun⟩
    | ok b => exact ⟨fun h => congrArg _ (Option.some.inj h),
        fun h => congrArg _ (Except.ok.inj h)⟩

def CallFault.message : CallFault → String
  | .unexpectedKeyword callee keyword =>
    callee ++ "() got an unexpected keyword argument " ++ quoted keyword
  | .missingName callee =>
    callee ++ "() missing 1 required positional argument: 'name'"
  | .repeatedArgument callee argument =>
    callee ++ "() got multiple values for argument " ++ quoted argument
  | .unkeyable typeName => "unhashable type: " ++ quoted typeName
  | .notIterable typeName => quoted typeName ++ " object is not iterable"
  | .notSearchable typeName =>
    "argument of type " ++ quoted typeName ++ " is not iterable"
  | .searchedForText => "a bytes-like object is required, not 'str'"
  | .expectedText typeName => "Expected string, got " ++ typeName
  | .notPart index typeName =>
    "sequence item " ++ toString index ++ ": expected str instance, " ++
      typeName ++ " found"
  | .notAssignable typeName =>
    quoted typeName ++ " object does not support item assignment"
  | .badListIndex => "list indices must be integers or slices, not str"
  | .notScannable "bytes" =>
    "cannot use a string pattern on a bytes-like object"
  | .notScannable typeName =>
    "expected string or bytes-like object, got " ++ quoted typeName
  | .argumentsLeft => "not all arguments converted during string formatting"
  | .argumentsMissing => "not enough arguments for format string"
  | .needsMapping => "format requires a mapping"
  | .needsNumber conversion typeName =>
    "%" ++ conversion ++ " format: a real number is required, not " ++
      typeName
  | .needsInteger conversion typeName =>
    "%" ++ conversion ++ " format: an integer is required, not " ++ typeName
  | .needsCharacter => "%c requires int or char"
  | .needsReal typeName => "must be real number, not " ++ typeName
  | .needsWholeWidth => "* wants int"

def PropertyFault.message : PropertyFault → String
  | .noSetter property owner =>
    "property " ++ quoted property ++ " of " ++ quoted owner ++
      " object has no setter"
  | .absent typeName property =>
    quoted typeName ++ " object has no attribute " ++ quoted property

def RangeFault.message : RangeFault → String
  | .nulInPath => "embedded null byte"
  | .codePoint => "chr() arg not in range(0x110000)"
  | .tooLargeFor type => "Python int too large to convert to C " ++ type
  | .badFormat format => "Invalid format '" ++ format ++ "' for '%' style"
  | .unknownField field =>
    "Formatting field not found in record: " ++ quoted field
  | .badConversion conversion position =>
    let code := (conversion.toList.map Char.toNat).headD 0
    let shown := if 0x20 ≤ code && code < 0x7f then conversion else "?"
    "unsupported format character '" ++ shown ++ "' (0x" ++
      String.ofList (Nat.toDigits 16 code) ++ ") at index " ++
      toString position
  | .incompleteFormat => "incomplete format"
  | .incompleteKey => "incomplete format key"
  | .widthTooBig => "width too big"
  | .precisionTooBig => "precision too big"
  | .precisionTooLarge => "precision too large"
  | .characterCode => "%c arg not in range(0x110000)"
  | .wholeOfInfinity => "cannot convert float infinity to integer"
  | .wholeOfNaN => "cannot convert float NaN to integer"

def TemplateFault.message : TemplateFault → String
  | .undefined name => quoted name ++ " is undefined"
  | .notFound name => name

def DiskFault.message : DiskFault → String
  | .isDirectory path => "[Errno 21] Is a directory: " ++ quoted path
  | .occupied path => "[Errno 17] File exists: " ++ quoted path
  | .notDirectory path => "[Errno 20] Not a directory: " ++ quoted path
  | .refused _ message => message

namespace Failure

def kind : Failure → String
  | .report r => r.category.kind
  | .invalid _ => "ValidationError"
  | .call _ => "TypeError"
  | .property _ => "AttributeError"
  | .frozenField _ => "FrozenInstanceError"
  | .listIndex => "IndexError"
  | .textIndex => "IndexError"
  | .missingKey _ => "KeyError"
  | .number .tooLargeForFloat => "OverflowError"
  | .number _ => "ValueError"
  | .calendar _ => "ValueError"
  | .range (.tooLargeFor _) => "OverflowError"
  | .range .precisionTooLarge => "OverflowError"
  | .range .characterCode => "OverflowError"
  | .range .wholeOfInfinity => "OverflowError"
  | .range _ => "ValueError"
  | .encoding _ => "UnicodeDecodeError"
  | .template (.undefined _) => "UndefinedError"
  | .template (.notFound _) => "TemplateNotFound"
  | .disk (.isDirectory _) => "IsADirectoryError"
  | .disk (.occupied _) => "FileExistsError"
  | .disk (.notDirectory _) => "NotADirectoryError"
  | .disk (.refused kind _) => kind
  | .driver fault => fault.kind

def message : Failure → String
  | .report r => r.text
  | .invalid faults => String.intercalate "\n" (faults.map Fault.line)
  | .call fault => fault.message
  | .property fault => fault.message
  | .frozenField field => "cannot assign to field " ++ quoted field
  | .listIndex => "list index out of range"
  | .textIndex => "string index out of range"
  | .missingKey key => key.inspect
  | .number fault => fault.message
  | .calendar fault => fault.message
  | .range fault => fault.message
  | .encoding fault => fault.message
  | .template fault => fault.message
  | .disk fault => fault.message
  | .driver fault => fault.message

/-- Whether a failure is an error of the tool itself. -/
def isReport : Failure → Bool
  | .report _ => true
  | _ => false

end Failure

/-- A value as it is written into a text. -/
def Value.written (v : Value) : Except Failure String :=
  v.display?.mapError Failure.number

end Tablesmith

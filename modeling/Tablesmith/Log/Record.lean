import Tablesmith.Failure

/-!
# Log records

A record says what happened: a level, the name of the logger that wrote it, a
message, and the kind of failure whose trace is attached, if one is.

A computation that writes records and may fail keeps its records whether it
fails or not.
-/

namespace Tablesmith.Log

abbrev Level := Int

namespace Level

/-- The level of details for a developer. -/
def debug : Level := 10

/-- The level of ordinary progress. -/
def info : Level := 20

def warning : Level := 30

def error : Level := 40

/-- The level of an error that ends the program. -/
def critical : Level := 50

/-- The name of a level; a number without a name is shown as such. -/
def name (level : Level) : String :=
  if level = 0 then "NOTSET"
  else if level = debug then "DEBUG"
  else if level = info then "INFO"
  else if level = warning then "WARNING"
  else if level = error then "ERROR"
  else if level = critical then "CRITICAL"
  else "Level " ++ toString level

end Level

/-- One record of the log. -/
structure Record where
  level : Level
  logger : String
  message : String
  trace : Option String
  deriving DecidableEq, Repr

def Record.debug (logger message : String) : Record :=
  ⟨Level.debug, logger, message, none⟩

def Record.info (logger message : String) : Record :=
  ⟨Level.info, logger, message, none⟩

def Record.error (logger message : String) : Record :=
  ⟨Level.error, logger, message, none⟩

/-- A record on one line: level, logger and message. -/
def Record.line (r : Record) : String :=
  Level.name r.level ++ ":" ++ r.logger ++ ": " ++ r.message

/-- The records that a computation wrote, and how it ended. -/
structure Logged (α : Type) where
  records : List Record
  result : Except Failure α

namespace Logged

/-- A computation that writes nothing. -/
def ofResult {α : Type} (result : Except Failure α) : Logged α :=
  ⟨[], result⟩

def write (record : Record) : Logged Unit :=
  ⟨[record], .ok ()⟩

/-- A computation that writes the given records. -/
def writeAll (records : List Record) : Logged Unit :=
  ⟨records, .ok ()⟩

/-- Go on with the result of a computation, unless it failed. -/
def bind {α β : Type} (x : Logged α) (f : α → Logged β) : Logged β :=
  match x.result with
  | .ok a => ⟨x.records ++ (f a).records, (f a).result⟩
  | .error e => ⟨x.records, .error e⟩

/-- Computations that write records and may fail, in sequence. -/
instance : Monad Logged where
  pure a := ⟨[], .ok a⟩
  bind := Logged.bind

@[simp]
theorem result_pure {α : Type} (a : α) :
    (pure a : Logged α).result = .ok a := rfl

@[simp]
theorem result_bind {α β : Type} (x : Logged α) (f : α → Logged β) :
    (x >>= f).result = x.result.bind fun a => (f a).result := by
  show (Logged.bind x f).result = _
  unfold Logged.bind
  cases x.result <;> rfl

@[simp]
theorem result_ofResult {α : Type} (r : Except Failure α) :
    (ofResult r).result = r := rfl

@[simp]
theorem result_write (r : Record) : (write r).result = .ok () := rfl

@[simp]
theorem result_writeAll (rs : List Record) :
    (writeAll rs).result = .ok () := rfl

end Logged

end Tablesmith.Log

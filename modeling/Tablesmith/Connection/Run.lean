import Tablesmith.Failure

/-!
# Runs on a connection

A run is a sequence of calls on a connection pool.  Each call may succeed or
raise any exception; which it does is given by a behaviour.  The calls that
were made stay recorded, however the run ends.
-/

namespace Tablesmith.Connection

/-- The calls that a run makes. -/
inductive Operation where
  | openPool
  | borrow
  | openCursor
  | enterCursor
  | run
  | leaveCursor
  | commit
  | rollback
  | giveBack
  | closeAll
  deriving DecidableEq, Repr

/-- A call as it was made. -/
inductive Event where
  | openPool (least most : Int) (arguments : List (String × Value))
  | borrow
  | openCursor
  | enterCursor
  | run (sql : String)
  | leaveCursor (raised : Option String)
  | commit
  | rollback
  | giveBack
  | closeAll
  deriving Repr

def Event.operation : Event → Operation
  | .openPool _ _ _ => .openPool
  | .borrow => .borrow
  | .openCursor => .openCursor
  | .enterCursor => .enterCursor
  | .run _ => .run
  | .leaveCursor _ => .leaveCursor
  | .commit => .commit
  | .rollback => .rollback
  | .giveBack => .giveBack
  | .closeAll => .closeAll

/-- The exception that each call raises, if it raises one. -/
abbrev Behaviour := Operation → Option DriverFault

/-- Whether a failure is an exception of the database driver. -/
def isDriverFailure : Failure → Bool
  | .driver fault => fault.ofDriver
  | _ => false

/-- The calls that were made, and how they ended. -/
structure Run where
  events : List Event
  result : Except Failure Unit

namespace Run

/-- A run without calls. -/
def nothing : Run := ⟨[], .ok ()⟩

def call (behaviour : Behaviour) (event : Event) : Run :=
  ⟨[event],
    match behaviour event.operation with
    | none => .ok ()
    | some fault => .error (.driver fault)⟩

/-- Go on with another run, unless the first failed. -/
def andThen (x y : Run) : Run :=
  match x.result with
  | .ok () => ⟨x.events ++ y.events, y.result⟩
  | .error e => ⟨x.events, .error e⟩

/-- Go on with another run whether the first failed or not.  If both fail, the
second failure counts. -/
def always (x y : Run) : Run :=
  ⟨x.events ++ y.events,
    match y.result with
    | .ok () => x.result
    | .error e => .error e⟩

/-- Go on with another run if the first failed in the driver; unless that run
fails too, the failure stays. -/
def onDriverFailure (x y : Run) : Run :=
  match x.result with
  | .ok () => x
  | .error e => if isDriverFailure e then x.always y else x

/-- Report a failure in the driver as something else. -/
def reporting (x : Run) (report : DriverFault → Report) : Run :=
  ⟨x.events,
    match x.result with
    | .error (.driver fault) =>
      if fault.ofDriver then .error (.report (report fault))
      else .error (.driver fault)
    | other => other⟩

/-- The kind of failure that a run ended with. -/
def raised (x : Run) : Option String :=
  match x.result with
  | .ok () => none
  | .error e => some e.kind

end Run

end Tablesmith.Connection

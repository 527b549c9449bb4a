import Tablesmith.Connection.Run
import Tablesmith.Connection.Settings
import Tablesmith.Log.Record

/-!
# Executing a script

A script is run in one go on a connection from a pool of its own.  It is
committed if it ran, rolled back if the driver failed; the connection is given
back and the pool closed in any case.  A failure in the driver is reported
with the address of the database, the password masked.
-/

namespace Tablesmith.Connection

open Tablesmith.Config

/-- What an execution needs to know: the settings and the size of the pool. -/
structure Executor where
  settings : DatabaseSettings
  least : Int
  most : Int
  deriving Repr

def Executor.single (settings : DatabaseSettings) : Executor :=
  ⟨settings, 1, 1⟩

/-- The report about a driver failure while the pool was made. -/
def connectReport (settings : DatabaseSettings) (fault : DriverFault) :
    Report :=
  .failedExecution ("Could not connect to the database: " ++ fault.message)
    settings.address

/-- The report about a driver failure after that. -/
def executeReport (settings : DatabaseSettings) (fault : DriverFault) :
    Report :=
  .failedExecution ("Executing the generated script failed: " ++ fault.message)
    settings.address

/-- Run a script on a cursor.  The cursor is left in any case, once it was
entered. -/
def runOnCursor (behaviour : Behaviour) (sql : String) : Run :=
  let ran := Run.call behaviour (.run sql)
  ((Run.call behaviour .openCursor).andThen
    (Run.call behaviour .enterCursor)).andThen
    (ran.always (Run.call behaviour (.leaveCursor ran.raised)))

/-- Run a script on a borrowed connection and commit it, or roll back. -/
def runBorrowed (behaviour : Behaviour) (sql : String) : Run :=
  (((runOnCursor behaviour sql).andThen
    (Run.call behaviour .commit)).onDriverFailure
    (Run.call behaviour .rollback)).always
    (Run.call behaviour .giveBack)

def Executor.execute
    (executor : Executor)
    (behaviour : Behaviour)
    (sql : String) :
    Run :=
  let settings := executor.settings
  let opened :=
    (Run.call behaviour
      (.openPool executor.least executor.most settings.arguments)).reporting
      (connectReport settings)
  let ran :=
    ((Run.call behaviour .borrow).andThen
      (runBorrowed behaviour sql)).reporting
      (executeReport settings)
  opened.andThen (ran.always (Run.call behaviour .closeAll))

def executionLogger : String := "ddl_generator.executor"

/-- The record about a pool that was closed. -/
def poolClosed : Log.Record :=
  .debug executionLogger "Connection pool closed."

/-- The records of an execution: one if the pool was closed without fault. -/
def executionRecords (behaviour : Behaviour) (run : Run) : List Log.Record :=
  let closing :=
    run.events.any fun e => e.operation = Operation.closeAll
  if closing && (behaviour .closeAll).isNone then [poolClosed] else []

end Tablesmith.Connection

import Tablesmith.Connection.Execution
import Tablesmith.Sql.Plan

/-!
# Deploying a database

A deployment makes the statements of a database, executes them as one script
and gives them back.
-/

namespace Tablesmith.Connection

open Tablesmith.Schema

/-- A deployment: the calls it made, the records it wrote, and the statements
or the failure it ended with. -/
structure Deployment where
  events : List Event
  logged : Log.Logged (List String)

/-- The record about a script that is about to be executed. -/
def executing (count : Nat) (settings : Config.DatabaseSettings) :
    Log.Record :=
  .info executionLogger
    ("Executing " ++ toString count ++ " statements against " ++
      settings.host ++ "...")

/-- Deploy a database.  Without settings nothing is executed. -/
def deploy
    (d : Database)
    (settings : Option Config.DatabaseSettings)
    (behaviour : Behaviour) :
    Deployment :=
  match Sql.create d with
  | .error e => ⟨[], ⟨[], .error e⟩⟩
  | .ok statements =>
    let made := Sql.statementsMade d statements
    match settings with
    | none =>
      ⟨[], ⟨[made], .error (.property (.absent "NoneType" "host"))⟩⟩
    | some s =>
      let sql := Sql.joinStatements Sql.standardSeparator statements
      let run := (Executor.single s).execute behaviour sql
      ⟨run.events,
        ⟨[made, executing statements.length s] ++
            executionRecords behaviour run,
          run.result.map fun _ => statements⟩⟩

end Tablesmith.Connection

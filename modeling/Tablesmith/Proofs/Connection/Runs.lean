import Tablesmith.Connection.Execution

/-!
# Runs and what they are made of

How the calls and the result of a run follow from those of its parts.
-/

namespace Tablesmith.Connection

namespace Run

/-! ## Results -/

theorem result_andThen (x y : Run) :
    (x.andThen y).result = x.result.bind fun _ => y.result := by
  unfold andThen
  cases x.result with
  | error e => rfl
  | ok => rfl

theorem result_always (x y : Run) :
    (x.always y).result =
      match y.result with
      | .ok () => x.result
      | .error e => .error e := rfl

/-- The result of a call depends on which call it is, and not on its
arguments. -/
theorem result_call (behaviour : Behaviour) (event : Event) :
    (call behaviour event).result =
      match behaviour event.operation with
      | none => .ok ()
      | some fault => .error (.driver fault) := rfl

/-- Failures that are reported in the same way end in the same result. -/
theorem result_reporting_congr
    {x y : Run} {report other : DriverFault → Report}
    (sameResult : x.result = y.result)
    (sameReport : ∀ fault, report fault = other fault) :
    (x.reporting report).result = (y.reporting other).result := by
  have reports : report = other := funext sameReport
  unfold reporting
  rw [sameResult, reports]

theorem result_reporting_of_ok
    {x : Run} (succeeded : x.result = .ok ())
    (report : DriverFault → Report) :
    (x.reporting report).result = .ok () := by
  unfold reporting
  rw [succeeded]

/-- A failure is reported as something else, but it stays a failure. -/
theorem exists_result_reporting_of_error
    {x : Run} {failure : Failure} (failed : x.result = .error failure)
    (report : DriverFault → Report) :
    ∃ shown, (x.reporting report).result = .error shown := by
  unfold reporting
  rw [failed]
  cases failure with
  | driver fault =>
      by_cases fromDriver : fault.ofDriver = true
      · exact ⟨_, if_pos fromDriver⟩
      · exact ⟨_, if_neg fromDriver⟩
  | _ => exact ⟨_, rfl⟩

/-! ## Calls -/

@[simp]
theorem events_call (behaviour : Behaviour) (event : Event) :
    (call behaviour event).events = [event] := rfl

@[simp]
theorem events_always (x y : Run) :
    (x.always y).events = x.events ++ y.events := rfl

@[simp]
theorem events_reporting (x : Run) (report : DriverFault → Report) :
    (x.reporting report).events = x.events := rfl

theorem andThen_of_ok {x : Run} (succeeded : x.result = .ok ()) (y : Run) :
    x.andThen y = ⟨x.events ++ y.events, y.result⟩ := by
  unfold andThen
  rw [succeeded]

theorem andThen_of_error
    {x : Run} {failure : Failure} (failed : x.result = .error failure)
    (y : Run) :
    x.andThen y = ⟨x.events, .error failure⟩ := by
  unfold andThen
  rw [failed]

/-- After a run that does not fail in the driver, nothing is done about it. -/
theorem onDriverFailure_of_no_driverFailure
    {x : Run}
    (other : ∀ failure, x.result = .error failure →
      isDriverFailure failure = false)
    (y : Run) :
    x.onDriverFailure y = x := by
  unfold onDriverFailure
  cases result : x.result with
  | ok => rfl
  | error failure => simp [other failure result]

theorem onDriverFailure_of_driverFailure
    {x : Run} {failure : Failure} (failed : x.result = .error failure)
    (fromDriver : isDriverFailure failure = true) (y : Run) :
    x.onDriverFailure y = x.always y := by
  unfold onDriverFailure
  rw [failed]
  simp [fromDriver]

end Run

end Tablesmith.Connection

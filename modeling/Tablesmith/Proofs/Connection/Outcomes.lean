import Tablesmith.Proofs.Connection.Safety
import Tablesmith.Proofs.Connection.Secrecy

/-!
# How executions end

Of the exceptions that the calls of an execution raise, the last one counts.
If it does not come from the driver, it leaves the execution as it is.  An
exception of the driver is reported, unless closing the pool raises it.

An execution returns exactly if its script was committed and neither giving
back the connection nor closing the pool raised an exception after that.
-/

namespace Tablesmith.Connection

/-! ## The last exception -/

/-- The exception that calls raised last. -/
def lastFault (behaviour : Behaviour) (made : List Operation) :
    Option DriverFault :=
  (made.filterMap behaviour).getLast?

section LastFault

variable {behaviour : Behaviour}

theorem lastFault_append (made later : List Operation) :
    lastFault behaviour (made ++ later) =
      (lastFault behaviour later).or (lastFault behaviour made) := by
  unfold lastFault
  rw [List.filterMap_append, List.getLast?_append]

theorem lastFault_singleton (operation : Operation) :
    lastFault behaviour [operation] = behaviour operation := by
  cases raised : behaviour operation with
  | none => simp [lastFault, raised]
  | some fault => simp [lastFault, raised]

theorem lastFault_cons_of_none
    {operation : Operation} (returns : behaviour operation = none)
    (later : List Operation) :
    lastFault behaviour (operation :: later) = lastFault behaviour later := by
  unfold lastFault
  rw [List.filterMap_cons_none returns]

theorem lastFault_eq_none_iff {made : List Operation} :
    lastFault behaviour made = none ↔
      ∀ operation ∈ made, behaviour operation = none := by
  unfold lastFault
  rw [List.getLast?_eq_none_iff, List.filterMap_eq_nil_iff]

end LastFault

namespace Run

variable {behaviour : Behaviour} {x y : Run}

/-- The exception that leaves a run is the one that its calls raised last. -/
def RaisesLast (behaviour : Behaviour) (x : Run) : Prop :=
  x.result = resultOf (lastFault behaviour (x.events.map Event.operation))

theorem raisesLast_call (behaviour : Behaviour) (event : Event) :
    (call behaviour event).RaisesLast behaviour := by
  unfold RaisesLast
  rw [events_call, List.map_singleton, lastFault_singleton]
  exact result_call_eq_resultOf behaviour event

/-- An exception that is raised while another one is under way replaces it. -/
theorem RaisesLast.always
    (first : x.RaisesLast behaviour) (second : y.RaisesLast behaviour) :
    (x.always y).RaisesLast behaviour := by
  unfold RaisesLast at first second ⊢
  rw [events_always, List.map_append, lastFault_append, result_always, first,
    second]
  cases lastFault behaviour (y.events.map Event.operation) with
  | none => rfl
  | some fault => rfl

theorem RaisesLast.andThen
    (first : x.RaisesLast behaviour) (second : y.RaisesLast behaviour) :
    (x.andThen y).RaisesLast behaviour := by
  unfold RaisesLast at first
  cases last : lastFault behaviour (x.events.map Event.operation) with
  | none =>
      rw [last] at first
      have sameEnd : (x.andThen y).result = (x.always y).result := by
        rw [andThen_of_ok first, result_always, first]
        cases y.result with
        | error failure => rfl
        | ok => rfl
      have both : (x.always y).RaisesLast behaviour := by
        refine RaisesLast.always ?_ second
        unfold RaisesLast
        rw [last, first]
      unfold RaisesLast at both ⊢
      rw [sameEnd, both, andThen_of_ok first, events_always]
  | some fault =>
      rw [last] at first
      unfold RaisesLast
      rw [andThen_of_error first, last]
      rfl

theorem RaisesLast.onDriverFailure
    (first : x.RaisesLast behaviour) (second : y.RaisesLast behaviour) :
    (x.onDriverFailure y).RaisesLast behaviour := by
  by_cases fromDriver :
      ∃ failure, x.result = .error failure ∧ isDriverFailure failure = true
  · obtain ⟨failure, failed, isDriver⟩ := fromDriver
    rw [onDriverFailure_of_driverFailure failed isDriver]
    exact first.always second
  · have other :
        ∀ failure, x.result = .error failure →
          isDriverFailure failure = false := by
      intro failure failed
      rw [← Bool.not_eq_true]
      exact fun isDriver => fromDriver ⟨failure, failed, isDriver⟩
    rw [onDriverFailure_of_no_driverFailure other]
    exact first

end Run

/-! ## What leaves an execution -/

theorem raisesLast_runOnCursor (behaviour : Behaviour) (sql : String) :
    (runOnCursor behaviour sql).RaisesLast behaviour := by
  have entered :=
    (Run.raisesLast_call behaviour .openCursor).andThen
      (Run.raisesLast_call behaviour .enterCursor)
  exact entered.andThen ((Run.raisesLast_call behaviour (.run sql)).always
    (Run.raisesLast_call behaviour _))

theorem raisesLast_runBorrowed (behaviour : Behaviour) (sql : String) :
    (runBorrowed behaviour sql).RaisesLast behaviour := by
  have block :=
    (raisesLast_runOnCursor behaviour sql).andThen
      (Run.raisesLast_call behaviour .commit)
  exact (block.onDriverFailure (Run.raisesLast_call behaviour .rollback)).always
    (Run.raisesLast_call behaviour .giveBack)

/-- The calls between opening a pool and closing it. -/
def runOnPool (behaviour : Behaviour) (sql : String) : Run :=
  (Run.call behaviour .borrow).andThen (runBorrowed behaviour sql)

theorem raisesLast_runOnPool (behaviour : Behaviour) (sql : String) :
    (runOnPool behaviour sql).RaisesLast behaviour :=
  (Run.raisesLast_call behaviour .borrow).andThen
    (raisesLast_runBorrowed behaviour sql)

/-- How an exception ends that is reported if it comes from the driver. -/
def reportedAs (report : DriverFault → Report) :
    Option DriverFault → Except Failure Unit
  | none => .ok ()
  | some fault =>
    if fault.ofDriver then .error (.report (report fault))
    else .error (.driver fault)

theorem result_reporting_eq_reportedAs
    {x : Run} {fault : Option DriverFault} (ends : x.result = resultOf fault)
    (report : DriverFault → Report) :
    (x.reporting report).result = reportedAs report fault := by
  unfold Run.reporting
  rw [ends]
  cases fault with
  | none => rfl
  | some raised => rfl

section Results

variable (executor : Executor) {behaviour : Behaviour} (sql : String)

/-- The calls that an execution made, by kind. -/
def Executor.callsMade
    (executor : Executor) (behaviour : Behaviour) (sql : String) :
    List Operation :=
  (executor.execute behaviour sql).events.map Event.operation

theorem Executor.execute_of_notOpened
    {fault : DriverFault} (notOpened : behaviour .openPool = some fault) :
    executor.callsMade behaviour sql = [.openPool] ∧
      (executor.execute behaviour sql).result =
        reportedAs (connectReport executor.settings) (some fault) := by
  let pool : Event :=
    .openPool executor.least executor.most executor.settings.arguments
  have raises :
      (Run.call behaviour pool).result = resultOf (some fault) :=
    result_call_of_some notOpened
  have result :=
    result_reporting_eq_reportedAs raises (connectReport executor.settings)
  obtain ⟨failure, failed⟩ :
      ∃ failure,
        ((Run.call behaviour pool).reporting
          (connectReport executor.settings)).result = .error failure :=
    Run.exists_result_reporting_of_error raises _
  have whole :
      executor.execute behaviour sql = ⟨[pool], .error failure⟩ :=
    Run.andThen_of_error failed _
  unfold Executor.callsMade
  rw [whole, ← result, failed]
  exact ⟨rfl, rfl⟩

/-- Once the pool is open, an exception from closing it counts before any
other; those from the calls in between are reported. -/
theorem Executor.execute_of_opened (opened : behaviour .openPool = none) :
    executor.callsMade behaviour sql =
        .openPool ::
          ((runOnPool behaviour sql).events.map Event.operation ++
            [.closeAll]) ∧
      (executor.execute behaviour sql).result =
        match behaviour .closeAll with
        | some fault => .error (.driver fault)
        | none =>
          reportedAs (executeReport executor.settings)
            (lastFault behaviour
              ((runOnPool behaviour sql).events.map Event.operation)) := by
  let pool : Event :=
    .openPool executor.least executor.most executor.settings.arguments
  let closing :=
    ((runOnPool behaviour sql).reporting
      (executeReport executor.settings)).always
      (Run.call behaviour .closeAll)
  have opens :
      ((Run.call behaviour pool).reporting
        (connectReport executor.settings)).result = .ok () :=
    Run.result_reporting_of_ok (result_call_of_none opened) _
  have whole :
      executor.execute behaviour sql =
        ⟨pool :: closing.events, closing.result⟩ :=
    Run.andThen_of_ok opens closing
  have events :
      closing.events = (runOnPool behaviour sql).events ++ [.closeAll] := rfl
  constructor
  · unfold Executor.callsMade
    rw [whole, events]
    simp [pool, Event.operation]
  · have reported :=
      result_reporting_eq_reportedAs (raisesLast_runOnPool behaviour sql)
        (executeReport executor.settings)
    rw [whole]
    change closing.result = _
    unfold closing
    rw [Run.result_always, reported]
    cases closed : behaviour .closeAll with
    | none =>
        have returns : (Run.call behaviour .closeAll).result = .ok () :=
          result_call_of_none closed
        rw [returns]
    | some fault =>
        have raises :
            (Run.call behaviour .closeAll).result = .error (.driver fault) :=
          result_call_of_some closed
        rw [raises]

/-- The exception that was raised last, once the pool is open. -/
theorem Executor.lastFault_of_opened (opened : behaviour .openPool = none) :
    lastFault behaviour (executor.callsMade behaviour sql) =
      (behaviour .closeAll).or
        (lastFault behaviour
          ((runOnPool behaviour sql).events.map Event.operation)) := by
  rw [(executor.execute_of_opened sql opened).1,
    lastFault_cons_of_none opened, lastFault_append, lastFault_singleton]

end Results

/-! ## Exceptions of the driver -/

/-- Closing the pool raises no exception of the driver.  Without a pool there
is nothing to close. -/
def ClosesQuietly (behaviour : Behaviour) : Prop :=
  behaviour .openPool = none →
    ∀ fault, behaviour .closeAll = some fault → fault.ofDriver = false

/-- No exception of the driver leaves as it is. -/
def NoDriverFailure (result : Except Failure Unit) : Prop :=
  ∀ failure, result = .error failure → isDriverFailure failure = false

theorem noDriverFailure_reportedAs
    (report : DriverFault → Report) (fault : Option DriverFault) :
    NoDriverFailure (reportedAs report fault) := by
  intro failure failed
  cases fault with
  | none => cases failed
  | some raised =>
      by_cases fromDriver : raised.ofDriver = true
      · rw [reportedAs, if_pos fromDriver] at failed
        cases failed
        rfl
      · rw [reportedAs, if_neg fromDriver] at failed
        cases failed
        exact Bool.not_eq_true _ |>.mp fromDriver

theorem reportedAs_of_other
    {fault : DriverFault} (other : fault.ofDriver = false)
    (report : DriverFault → Report) :
    reportedAs report (some fault) = .error (.driver fault) := by
  rw [reportedAs, other]
  rfl

theorem reportedAs_of_driver
    {fault : DriverFault} (fromDriver : fault.ofDriver = true)
    (report : DriverFault → Report) :
    reportedAs report (some fault) = .error (.report (report fault)) := by
  rw [reportedAs, if_pos fromDriver]

theorem reportedAs_eq_ok_iff
    {report : DriverFault → Report} {fault : Option DriverFault} :
    reportedAs report fault = .ok () ↔ fault = none := by
  cases fault with
  | none => exact iff_of_true rfl rfl
  | some raised =>
      have failed : reportedAs report (some raised) ≠ .ok () := by
        cases fromDriver : raised.ofDriver with
        | true =>
            rw [reportedAs_of_driver fromDriver]
            simp
        | false =>
            rw [reportedAs_of_other fromDriver]
            simp
      exact iff_of_false failed (by simp)

namespace Executor

variable (executor : Executor) (behaviour : Behaviour) (sql : String)

theorem noDriverFailure_execute_iff :
    NoDriverFailure (executor.execute behaviour sql).result ↔
      ClosesQuietly behaviour := by
  cases opened : behaviour .openPool with
  | some fault =>
      have result := (executor.execute_of_notOpened sql opened).2
      have quiet : ClosesQuietly behaviour := by
        intro isOpen
        rw [opened] at isOpen
        cases isOpen
      rw [result]
      exact iff_of_true (noDriverFailure_reportedAs _ _) quiet
  | none =>
      have result := (executor.execute_of_opened sql opened).2
      rw [result]
      cases closed : behaviour .closeAll with
      | none =>
          have quiet : ClosesQuietly behaviour := by
            intro _ fault raised
            rw [closed] at raised
            cases raised
          exact iff_of_true (noDriverFailure_reportedAs _ _) quiet
      | some fault =>
          constructor
          · intro none _ raised same
            rw [closed] at same
            cases same
            exact none (.driver fault) rfl
          · intro quiet failure failed
            cases failed
            exact quiet opened fault closed

/-- An exception that was raised last and does not come from the driver leaves
the execution as it is. -/
theorem result_execute_of_other
    {fault : DriverFault}
    (last : lastFault behaviour (executor.callsMade behaviour sql) = some fault)
    (other : fault.ofDriver = false) :
    (executor.execute behaviour sql).result = .error (.driver fault) := by
  cases opened : behaviour .openPool with
  | some raised =>
      obtain ⟨made, result⟩ := executor.execute_of_notOpened sql opened
      rw [made, lastFault_singleton, opened] at last
      cases last
      rw [result]
      exact reportedAs_of_other other _
  | none =>
      have result := (executor.execute_of_opened sql opened).2
      rw [executor.lastFault_of_opened sql opened] at last
      rw [result]
      cases closed : behaviour .closeAll with
      | none =>
          rw [closed, Option.none_or] at last
          rw [last]
          exact reportedAs_of_other other _
      | some raised =>
          rw [closed, Option.some_or] at last
          cases last
          rfl

/-- The report about an exception of the driver: another one while the pool is
made than after that. -/
def reportOn (fault : DriverFault) : Report :=
  match behaviour .openPool with
  | some _ => connectReport executor.settings fault
  | none => executeReport executor.settings fault

theorem category_reportOn (fault : DriverFault) :
    (executor.reportOn behaviour fault).category = .execution := by
  unfold reportOn
  cases behaviour .openPool with
  | some _ => rfl
  | none => rfl

/-- An exception of the driver that was raised last is reported, unless closing
the pool raised it. -/
theorem result_execute_of_driver
    {fault : DriverFault}
    (last : lastFault behaviour (executor.callsMade behaviour sql) = some fault)
    (fromDriver : fault.ofDriver = true)
    (quiet : ClosesQuietly behaviour) :
    (executor.execute behaviour sql).result =
      .error (.report (executor.reportOn behaviour fault)) := by
  unfold reportOn
  cases opened : behaviour .openPool with
  | some raised =>
      obtain ⟨made, result⟩ := executor.execute_of_notOpened sql opened
      rw [made, lastFault_singleton, opened] at last
      cases last
      rw [result]
      exact reportedAs_of_driver fromDriver _
  | none =>
      have result := (executor.execute_of_opened sql opened).2
      rw [executor.lastFault_of_opened sql opened] at last
      rw [result]
      cases closed : behaviour .closeAll with
      | none =>
          rw [closed, Option.none_or] at last
          rw [last]
          exact reportedAs_of_driver fromDriver _
      | some raised =>
          rw [closed, Option.some_or] at last
          cases last
          have other := quiet opened fault closed
          rw [fromDriver] at other
          cases other

/-- Whatever the calls raise: no exception of the driver leaves an execution as
it is, exactly if closing the pool raises none; then the driver's exception
that was raised last is reported.  An exception that is raised last and does
not come from the driver always leaves unchanged. -/
theorem execute_surfaces_iff :
    (NoDriverFailure (executor.execute behaviour sql).result ↔
        ClosesQuietly behaviour) ∧
      (∀ fault,
        lastFault behaviour (executor.callsMade behaviour sql) = some fault →
          fault.ofDriver = false →
            (executor.execute behaviour sql).result =
              .error (.driver fault)) ∧
      (ClosesQuietly behaviour →
        ∀ fault,
          lastFault behaviour (executor.callsMade behaviour sql) =
              some fault →
            fault.ofDriver = true →
              (executor.reportOn behaviour fault).category = .execution ∧
                (executor.execute behaviour sql).result =
                  .error (.report (executor.reportOn behaviour fault))) :=
  ⟨executor.noDriverFailure_execute_iff behaviour sql,
    fun _ last other =>
      executor.result_execute_of_other behaviour sql last other,
    fun quiet fault last fromDriver =>
      ⟨executor.category_reportOn behaviour fault,
        executor.result_execute_of_driver behaviour sql last fromDriver
          quiet⟩⟩

end Executor

/-- An exception of the driver, as its pool raises it. -/
def exhausted : DriverFault :=
  ⟨"PoolError", "connection pool exhausted", true⟩

/-- A driver of which one call raises an exception. -/
def raisingAt (operation : Operation) (fault : DriverFault) : Behaviour :=
  fun made => if made = operation then some fault else none

namespace Executor

/-- A pool that gives out no connection is reported. -/
theorem borrowing_surfaces :
    ClosesQuietly (raisingAt .borrow exhausted) ∧
      NoDriverFailure
        ((administrator "secret").execute (raisingAt .borrow exhausted)
          "").result ∧
      ((administrator "secret").execute (raisingAt .borrow exhausted)
          "").result =
        .error (.report
          (executeReport (administrator "secret").settings exhausted)) := by
  have quiet : ClosesQuietly (raisingAt .borrow exhausted) := by
    intro _ fault raised
    cases raised
  have last :
      lastFault (raisingAt .borrow exhausted)
          ((administrator "secret").callsMade (raisingAt .borrow exhausted)
            "") =
        some exhausted := by
    decide
  obtain ⟨hidden, _, reported⟩ :=
    (administrator "secret").execute_surfaces_iff (raisingAt .borrow exhausted)
      ""
  exact ⟨quiet, hidden.mpr quiet,
    (reported quiet exhausted last (by decide)).2⟩

/-- An exception of the driver that closing the pool raises leaves the
execution as it is. -/
theorem failedClosing_not_reported :
    exhausted.ofDriver = true ∧
      ((administrator "secret").execute (raisingAt .closeAll exhausted)
          "").result =
        .error (.driver exhausted) ∧
      ¬ NoDriverFailure
        ((administrator "secret").execute (raisingAt .closeAll exhausted)
          "").result := by
  have leaves :
      ((administrator "secret").execute (raisingAt .closeAll exhausted)
          "").result =
        .error (.driver exhausted) := rfl
  have fromDriver : exhausted.ofDriver = true := by
    decide
  refine ⟨fromDriver, leaves, ?_⟩
  intro none
  have other := none _ leaves
  change exhausted.ofDriver = false at other
  rw [fromDriver] at other
  cases other

end Executor

/-! ## Committed scripts -/

/-- The script was run and committed: both calls were made and returned. -/
def Committed (behaviour : Behaviour) (sql : String) (events : List Event) :
    Prop :=
  (Event.run sql ∈ events ∧ behaviour .run = none) ∧
    Returned behaviour (events.map Event.operation) .commit

/-- The calls after the commit return. -/
def CleansUp (behaviour : Behaviour) : Prop :=
  behaviour .giveBack = none ∧ behaviour .closeAll = none

/-- If no call of the block raises an exception, the script is committed. -/
theorem BlockCourse.committed_of_returns
    {behaviour : Behaviour} {sql : String} {block : List Event}
    {fault : Option DriverFault} (course : BlockCourse behaviour sql block fault)
    (returns : ∀ operation ∈ block.map Event.operation,
      behaviour operation = none) :
    Committed behaviour sql block := by
  cases course with
  | notOpened raises =>
      have opened := returns .openCursor (by simp [Event.operation])
      rw [raises] at opened
      cases opened
  | notEntered _ raises =>
      have entered := returns .enterCursor (by simp [Event.operation])
      rw [raises] at entered
      cases entered
  | notLeft _ _ raises =>
      have left := returns .leaveCursor (by simp [Event.operation])
      rw [raises] at left
      cases left
  | notRun _ _ _ raises =>
      have ran := returns .run (by simp [Event.operation])
      rw [raises] at ran
      cases ran
  | committed _ _ _ ran =>
      have committed := returns .commit (by simp [Event.operation])
      exact ⟨⟨by simp, ran⟩, by simp [Event.operation], committed⟩

namespace Course

variable {behaviour : Behaviour} {sql : String} {events : List Event}

/-- If no call raises an exception, the script is committed. -/
theorem committed_of_returns (course : Course behaviour sql events)
    (returns : ∀ operation ∈ events.map Event.operation,
      behaviour operation = none) :
    Committed behaviour sql events := by
  cases course with
  | notOpened raises =>
      have opened := returns .openPool (by simp [Event.operation])
      rw [raises] at opened
      cases opened
  | notBorrowed _ raises =>
      have borrowed := returns .borrow (by simp [Event.operation])
      rw [raises] at borrowed
      cases borrowed
  | @borrowed least most arguments block fault _ _ course =>
      rw [operations_borrowedEvents] at returns
      have inside : ∀ operation ∈ block.map Event.operation,
          behaviour operation = none := by
        intro operation made
        refine returns operation ?_
        simp only [List.mem_append, made, or_true, true_or]
      obtain ⟨⟨sent, ran⟩, made, committed⟩ :=
        course.committed_of_returns inside
      refine ⟨⟨by simp [borrowedEvents, sent], ran⟩, ?_, committed⟩
      rw [operations_borrowedEvents]
      simp only [List.mem_append, made, or_true, true_or]

/-- Once the script is committed, only cleaning up is left. -/
theorem operations_of_committed (course : Course behaviour sql events)
    (committed : Committed behaviour sql events) :
    ∃ before,
      events.map Event.operation = before ++ [.giveBack, .closeAll] ∧
        .openPool ∈ before ∧
        ∀ operation ∈ before, behaviour operation = none := by
  obtain ⟨_, made, returned⟩ := committed
  cases course with
  | notOpened | notBorrowed => simp [Event.operation] at made
  | @borrowed least most arguments block fault opened borrowed course =>
      rw [operations_borrowedEvents] at made ⊢
      have inBlock : Operation.commit ∈ block.map Event.operation := by
        have undone :
            Operation.commit ∉
              if fault.any DriverFault.ofDriver then [.rollback] else [] := by
          split <;> simp
        simpa [undone] using made
      cases course with
      | notOpened | notEntered | notLeft | notRun =>
          simp [Event.operation] at inBlock
      | committed opens enters leaves ran =>
          rw [returned]
          refine ⟨[.openPool, .borrow] ++ blockOperations, rfl, by simp, ?_⟩
          simp [blockOperations, opened, borrowed, opens, enters, leaves, ran,
            returned]

end Course

namespace Executor

variable (executor : Executor) (behaviour : Behaviour) (sql : String)

theorem result_execute_eq_ok_iff :
    (executor.execute behaviour sql).result = .ok () ↔
      ∀ operation ∈ executor.callsMade behaviour sql,
        behaviour operation = none := by
  rw [← lastFault_eq_none_iff]
  cases opened : behaviour .openPool with
  | some fault =>
      obtain ⟨made, result⟩ := executor.execute_of_notOpened sql opened
      rw [result, reportedAs_eq_ok_iff, made, lastFault_singleton, opened]
  | none =>
      have result := (executor.execute_of_opened sql opened).2
      rw [executor.lastFault_of_opened sql opened, result]
      cases closed : behaviour .closeAll with
      | none => exact reportedAs_eq_ok_iff
      | some fault => simp

/-- How an execution ends whose script is committed: what is raised while
cleaning up decides. -/
theorem result_execute_of_committed
    (committed :
      Committed behaviour sql (executor.execute behaviour sql).events) :
    (executor.execute behaviour sql).result =
      match behaviour .closeAll with
      | some fault => .error (.driver fault)
      | none =>
        reportedAs (executeReport executor.settings) (behaviour .giveBack) := by
  obtain ⟨before, made, isOpened, returns⟩ :=
    (execute_course executor behaviour sql).operations_of_committed committed
  have opened : behaviour .openPool = none := returns .openPool isOpened
  have last := executor.lastFault_of_opened sql opened
  have result := (executor.execute_of_opened sql opened).2
  have quiet : lastFault behaviour before = none :=
    lastFault_eq_none_iff.mpr returns
  have ending :
      lastFault behaviour [.giveBack, .closeAll] =
        (behaviour .closeAll).or (behaviour .giveBack) := by
    change lastFault behaviour ([.giveBack] ++ [.closeAll]) = _
    rw [lastFault_append, lastFault_singleton, lastFault_singleton]
  unfold callsMade at last
  rw [made, lastFault_append, quiet, ending, Option.or_none] at last
  rw [result]
  cases closed : behaviour .closeAll with
  | some fault => rfl
  | none =>
      rw [closed, Option.none_or, Option.none_or] at last
      rw [← last]

/-- An execution returns exactly if its script was committed and nothing was
raised while cleaning up.  What leaves an execution whose script was committed
was raised while cleaning up. -/
theorem execute_returns_iff :
    ((executor.execute behaviour sql).result = .ok () ↔
        Committed behaviour sql (executor.execute behaviour sql).events ∧
          CleansUp behaviour) ∧
      (Committed behaviour sql (executor.execute behaviour sql).events →
        ∀ failure, (executor.execute behaviour sql).result = .error failure →
          ∃ fault,
            (behaviour .giveBack = some fault ∨
                behaviour .closeAll = some fault) ∧
              (failure = .driver fault ∨
                failure =
                  .report (executeReport executor.settings fault))) := by
  have ends := executor.result_execute_of_committed behaviour sql
  refine ⟨⟨?_, ?_⟩, ?_⟩
  · intro returned
    have committed :
        Committed behaviour sql (executor.execute behaviour sql).events :=
      (execute_course executor behaviour sql).committed_of_returns
        ((executor.result_execute_eq_ok_iff behaviour sql).mp returned)
    refine ⟨committed, ?_⟩
    rw [ends committed] at returned
    cases closed : behaviour .closeAll with
    | some fault =>
        rw [closed] at returned
        cases returned
    | none =>
        rw [closed] at returned
        exact ⟨reportedAs_eq_ok_iff.mp returned, closed⟩
  · rintro ⟨committed, givenBack, closed⟩
    rw [ends committed, closed, givenBack]
    rfl
  · intro committed failure failed
    rw [ends committed] at failed
    cases closed : behaviour .closeAll with
    | some fault =>
        rw [closed] at failed
        cases failed
        exact ⟨fault, Or.inr rfl, Or.inl rfl⟩
    | none =>
        rw [closed] at failed
        cases givenBack : behaviour .giveBack with
        | none =>
            rw [givenBack] at failed
            cases failed
        | some fault =>
            rw [givenBack] at failed
            refine ⟨fault, Or.inl rfl, ?_⟩
            cases fromDriver : fault.ofDriver with
            | true =>
                rw [reportedAs_of_driver fromDriver] at failed
                cases failed
                exact Or.inr rfl
            | false =>
                rw [reportedAs_of_other fromDriver] at failed
                cases failed
                exact Or.inl rfl

/-- A script can be committed and the execution still fail: the connection
cannot be given back, and the driver's exception is reported as one of the
script. -/
theorem committed_reported_as_failed :
    Committed (raisingAt .giveBack exhausted) "SELECT 1"
        ((administrator "secret").execute (raisingAt .giveBack exhausted)
          "SELECT 1").events ∧
      ((administrator "secret").execute (raisingAt .giveBack exhausted)
          "SELECT 1").result =
        .error (.report
          (executeReport (administrator "secret").settings exhausted)) := by
  have sent :
      ((administrator "secret").execute (raisingAt .giveBack exhausted)
        "SELECT 1").events[4]? = some (.run "SELECT 1") := rfl
  exact ⟨⟨⟨List.mem_of_getElem? sent, rfl⟩, by decide⟩, rfl⟩

/-- Without exceptions the execution returns; and what leaves it if the pool
cannot be closed is an exception from cleaning up. -/
theorem cleaning_decides :
    ((administrator "secret").execute (fun _ => none) "SELECT 1").result =
        .ok () ∧
      ∃ fault,
        (raisingAt .closeAll exhausted .giveBack = some fault ∨
            raisingAt .closeAll exhausted .closeAll = some fault) ∧
          (Failure.driver exhausted = .driver fault ∨
            Failure.driver exhausted =
              .report
                (executeReport (administrator "secret").settings fault)) := by
  have sent :
      ((administrator "secret").execute (fun _ => none)
        "SELECT 1").events[4]? = some (.run "SELECT 1") := rfl
  have sentAgain :
      ((administrator "secret").execute (raisingAt .closeAll exhausted)
        "SELECT 1").events[4]? = some (.run "SELECT 1") := rfl
  constructor
  · exact ((administrator "secret").execute_returns_iff _ "SELECT 1").1.mpr
      ⟨⟨⟨List.mem_of_getElem? sent, rfl⟩, by decide⟩, rfl, rfl⟩
  · exact ((administrator "secret").execute_returns_iff _ "SELECT 1").2
      ⟨⟨List.mem_of_getElem? sentAgain, rfl⟩, by decide⟩ _ rfl

end Executor

end Tablesmith.Connection

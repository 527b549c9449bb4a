import Mathlib.Data.List.Forall2
import Mathlib.Data.List.Nodup
import Tablesmith.Proofs.Connection.Runs

/-!
# Safe use of connections

Whatever the driver does, an execution opens at most one pool and sends its
script at most once.  A script is committed only if it ran and its cursor was
left; it is rolled back exactly if the driver failed in between.  What was
borrowed is given back, and what was opened is closed.

In one execution no call is made twice, so a behaviour of single calls covers
every driver, also one that remembers what was called before.
-/

namespace Tablesmith.Connection

/-! ## What is safe -/

def Returned
    (behaviour : Behaviour) (made : List Operation) (operation : Operation) :
    Prop :=
  operation ∈ made ∧ behaviour operation = none

instance
    (behaviour : Behaviour) (made : List Operation) (operation : Operation) :
    Decidable (Returned behaviour made operation) :=
  inferInstanceAs (Decidable (_ ∧ _))

/-- The calls between borrowing a connection and deciding what to do about a
failure. -/
def blockOperations : List Operation :=
  [.openCursor, .enterCursor, .run, .leaveCursor, .commit]

/-- The exception that leaves the block.  An exception that is raised while
another one is under way replaces it, so the last one counts. -/
def leavingFault (behaviour : Behaviour) (made : List Operation) :
    Option DriverFault :=
  ((made.filter blockOperations.contains).filterMap behaviour).getLast?

/-- The calls of one execution of a script are safe. -/
structure Safe
    (behaviour : Behaviour) (sql : String) (events : List Event) :
    Prop where
  onePool : (events.map Event.operation).count .openPool ≤ 1
  oneScript : (events.map Event.operation).count .run ≤ 1
  sameScript : ∀ sent, Event.run sent ∈ events → sent = sql
  oneCommit : (events.map Event.operation).count .commit ≤ 1
  /-- A commit comes after a script that returned and a cursor that was left
  without exception. -/
  commitLate :
    Operation.commit ∈ events.map Event.operation →
      [.run, .leaveCursor, .commit].Sublist (events.map Event.operation) ∧
        behaviour .run = none ∧ behaviour .leaveCursor = none
  rollbackOnDriverFault :
    (events.map Event.operation).count .rollback =
      if (leavingFault behaviour (events.map Event.operation)).any
          DriverFault.ofDriver
      then 1 else 0
  givenBack :
    (events.map Event.operation).count .giveBack =
      if Returned behaviour (events.map Event.operation) .borrow
      then 1 else 0
  givenBackLate :
    ∀ ending ∈ [Operation.commit, .rollback],
      ending ∈ events.map Event.operation →
        [ending, .giveBack].Sublist (events.map Event.operation)
  closed :
    (events.map Event.operation).count .closeAll =
      if Returned behaviour (events.map Event.operation) .openPool
      then 1 else 0
  closedLast :
    Operation.closeAll ∈ events.map Event.operation →
      (events.map Event.operation).getLast? = some .closeAll

/-! ## How the block can go -/

def runBlock (behaviour : Behaviour) (sql : String) : Run :=
  (runOnCursor behaviour sql).andThen (Run.call behaviour .commit)

/-- The calls that the block can make, with the exception that leaves it. -/
inductive BlockCourse (behaviour : Behaviour) (sql : String) :
    List Event → Option DriverFault → Prop
  | notOpened {fault : DriverFault} :
      behaviour .openCursor = some fault →
      BlockCourse behaviour sql [.openCursor] (some fault)
  | notEntered {fault : DriverFault} :
      behaviour .openCursor = none →
      behaviour .enterCursor = some fault →
      BlockCourse behaviour sql [.openCursor, .enterCursor] (some fault)
  | notLeft {fault : DriverFault} {raised : Option String} :
      behaviour .openCursor = none →
      behaviour .enterCursor = none →
      behaviour .leaveCursor = some fault →
      BlockCourse behaviour sql
        [.openCursor, .enterCursor, .run sql, .leaveCursor raised]
        (some fault)
  | notRun {fault : DriverFault} {raised : Option String} :
      behaviour .openCursor = none →
      behaviour .enterCursor = none →
      behaviour .leaveCursor = none →
      behaviour .run = some fault →
      BlockCourse behaviour sql
        [.openCursor, .enterCursor, .run sql, .leaveCursor raised]
        (some fault)
  | committed {raised : Option String} :
      behaviour .openCursor = none →
      behaviour .enterCursor = none →
      behaviour .leaveCursor = none →
      behaviour .run = none →
      BlockCourse behaviour sql
        [.openCursor, .enterCursor, .run sql, .leaveCursor raised, .commit]
        (behaviour .commit)

def resultOf : Option DriverFault → Except Failure Unit
  | none => .ok ()
  | some fault => .error (.driver fault)

theorem result_call_eq_resultOf (behaviour : Behaviour) (event : Event) :
    (Run.call behaviour event).result =
      resultOf (behaviour event.operation) := by
  rw [Run.result_call]
  cases behaviour event.operation with
  | none => rfl
  | some fault => rfl

theorem result_call_of_none
    {behaviour : Behaviour} {event : Event}
    (returns : behaviour event.operation = none) :
    (Run.call behaviour event).result = .ok () := by
  rw [Run.result_call, returns]

theorem result_call_of_some
    {behaviour : Behaviour} {event : Event} {fault : DriverFault}
    (raises : behaviour event.operation = some fault) :
    (Run.call behaviour event).result = .error (.driver fault) := by
  rw [Run.result_call, raises]

section OnCursor

variable {behaviour : Behaviour} (sql : String)

theorem runOnCursor_of_notOpened
    {fault : DriverFault} (notOpened : behaviour .openCursor = some fault) :
    runOnCursor behaviour sql =
      ⟨[.openCursor], .error (.driver fault)⟩ := by
  have raises :
      (Run.call behaviour .openCursor).result = .error (.driver fault) :=
    result_call_of_some notOpened
  unfold runOnCursor
  rw [Run.andThen_of_error raises, Run.andThen_of_error rfl,
    Run.events_call]

theorem runOnCursor_of_notEntered
    {fault : DriverFault} (opened : behaviour .openCursor = none)
    (notEntered : behaviour .enterCursor = some fault) :
    runOnCursor behaviour sql =
      ⟨[.openCursor, .enterCursor], .error (.driver fault)⟩ := by
  have opens : (Run.call behaviour .openCursor).result = .ok () :=
    result_call_of_none opened
  have raises :
      (Run.call behaviour .enterCursor).result = .error (.driver fault) :=
    result_call_of_some notEntered
  unfold runOnCursor
  rw [Run.andThen_of_ok opens, raises, Run.andThen_of_error rfl]
  rfl

/-- An exception on leaving the cursor replaces that of the script. -/
theorem result_runAndLeave (raised : Option String) :
    ((Run.call behaviour (.run sql)).always
        (Run.call behaviour (.leaveCursor raised))).result =
      resultOf ((behaviour .leaveCursor).or (behaviour .run)) := by
  rw [Run.result_always, result_call_eq_resultOf behaviour (.run sql)]
  cases leaving : behaviour .leaveCursor with
  | some fault =>
      have raises :
          (Run.call behaviour (.leaveCursor raised)).result =
            .error (.driver fault) :=
        result_call_of_some leaving
      rw [raises]
      rfl
  | none =>
      have returns :
          (Run.call behaviour (.leaveCursor raised)).result = .ok () :=
        result_call_of_none leaving
      rw [returns]
      rfl

/-- A cursor that was entered is left, whether the script fails or not. -/
theorem runOnCursor_of_entered
    (opened : behaviour .openCursor = none)
    (entered : behaviour .enterCursor = none) :
    ∃ raised,
      runOnCursor behaviour sql =
        ⟨[.openCursor, .enterCursor, .run sql, .leaveCursor raised],
          resultOf ((behaviour .leaveCursor).or (behaviour .run))⟩ := by
  have opens : (Run.call behaviour .openCursor).result = .ok () :=
    result_call_of_none opened
  have enters :
      ((Run.call behaviour .openCursor).andThen
        (Run.call behaviour .enterCursor)).result = .ok () := by
    rw [Run.andThen_of_ok opens]
    exact result_call_of_none entered
  unfold runOnCursor
  rw [Run.andThen_of_ok enters, Run.andThen_of_ok opens, result_runAndLeave]
  exact ⟨_, rfl⟩

end OnCursor

/-- The block goes one of the ways that are listed, and its result is that of
the exception that leaves it. -/
theorem runBlock_course (behaviour : Behaviour) (sql : String) :
    ∃ fault,
      BlockCourse behaviour sql (runBlock behaviour sql).events fault ∧
        (runBlock behaviour sql).result = resultOf fault := by
  unfold runBlock
  cases opened : behaviour .openCursor with
  | some fault =>
      rw [runOnCursor_of_notOpened sql opened, Run.andThen_of_error rfl]
      exact ⟨some fault, .notOpened opened, rfl⟩
  | none =>
      cases entered : behaviour .enterCursor with
      | some fault =>
          rw [runOnCursor_of_notEntered sql opened entered,
            Run.andThen_of_error rfl]
          exact ⟨some fault, .notEntered opened entered, rfl⟩
      | none =>
          obtain ⟨raised, onCursor⟩ :=
            runOnCursor_of_entered sql opened entered
          rw [onCursor]
          cases left : behaviour .leaveCursor with
          | some fault =>
              rw [Option.some_or, Run.andThen_of_error rfl]
              exact ⟨some fault, .notLeft opened entered left, rfl⟩
          | none =>
              rw [Option.none_or]
              cases script : behaviour .run with
              | some fault =>
                  rw [Run.andThen_of_error rfl]
                  exact ⟨some fault, .notRun opened entered left script, rfl⟩
              | none =>
                  rw [Run.andThen_of_ok rfl, result_call_eq_resultOf]
                  exact ⟨behaviour .commit,
                    .committed opened entered left script, rfl⟩

/-! ## How an execution can go -/

/-- What is done about the exception that leaves the block. -/
def rollbackAfter (fault : Option DriverFault) : List Event :=
  if fault.any DriverFault.ofDriver then [.rollback] else []

theorem events_onDriverFailure
    {x : Run} {fault : Option DriverFault}
    (ends : x.result = resultOf fault) (behaviour : Behaviour) :
    (x.onDriverFailure (Run.call behaviour .rollback)).events =
      x.events ++ rollbackAfter fault := by
  cases fault with
  | none =>
      have noFailure :
          ∀ failure, x.result = .error failure →
            isDriverFailure failure = false := by
        intro failure failed
        rw [ends] at failed
        cases failed
      rw [Run.onDriverFailure_of_no_driverFailure noFailure]
      exact (List.append_nil _).symm
  | some raised =>
      have failed : x.result = .error (.driver raised) := ends
      by_cases fromDriver : raised.ofDriver = true
      · rw [Run.onDriverFailure_of_driverFailure failed fromDriver]
        simp [rollbackAfter, fromDriver]
      · rw [Bool.not_eq_true] at fromDriver
        have otherFailure :
            ∀ failure, x.result = .error failure →
              isDriverFailure failure = false := by
          intro failure same
          rw [failed] at same
          cases same
          exact fromDriver
        rw [Run.onDriverFailure_of_no_driverFailure otherFailure]
        simp [rollbackAfter, fromDriver]

theorem events_runBorrowed (behaviour : Behaviour) (sql : String) :
    ∃ block fault,
      BlockCourse behaviour sql block fault ∧
        (runBorrowed behaviour sql).events =
          block ++ rollbackAfter fault ++ [.giveBack] := by
  obtain ⟨fault, course, ends⟩ := runBlock_course behaviour sql
  refine ⟨(runBlock behaviour sql).events, fault, course, ?_⟩
  have whole :
      runBorrowed behaviour sql =
        ((runBlock behaviour sql).onDriverFailure
          (Run.call behaviour .rollback)).always
          (Run.call behaviour .giveBack) := rfl
  rw [whole, Run.events_always, events_onDriverFailure ends,
    Run.events_call]

def borrowedEvents
    (least most : Int) (arguments : List (String × Value))
    (block : List Event) (fault : Option DriverFault) :
    List Event :=
  .openPool least most arguments :: .borrow ::
    (block ++ rollbackAfter fault ++ [.giveBack, .closeAll])

/-- The calls that an execution can make. -/
inductive Course (behaviour : Behaviour) (sql : String) : List Event → Prop
  | notOpened
      {least most : Int} {arguments : List (String × Value)}
      {fault : DriverFault} :
      behaviour .openPool = some fault →
      Course behaviour sql [.openPool least most arguments]
  | notBorrowed
      {least most : Int} {arguments : List (String × Value)}
      {fault : DriverFault} :
      behaviour .openPool = none →
      behaviour .borrow = some fault →
      Course behaviour sql [.openPool least most arguments, .borrow, .closeAll]
  | borrowed
      {least most : Int} {arguments : List (String × Value)}
      {block : List Event} {fault : Option DriverFault} :
      behaviour .openPool = none →
      behaviour .borrow = none →
      BlockCourse behaviour sql block fault →
      Course behaviour sql (borrowedEvents least most arguments block fault)

theorem execute_course
    (executor : Executor) (behaviour : Behaviour) (sql : String) :
    Course behaviour sql (executor.execute behaviour sql).events := by
  let pool : Event :=
    .openPool executor.least executor.most executor.settings.arguments
  let opening :=
    (Run.call behaviour pool).reporting (connectReport executor.settings)
  let borrowing :=
    (Run.call behaviour .borrow).andThen (runBorrowed behaviour sql)
  let closing :=
    (borrowing.reporting (executeReport executor.settings)).always
      (Run.call behaviour .closeAll)
  have whole :
      executor.execute behaviour sql = opening.andThen closing := rfl
  have closingEvents : closing.events = borrowing.events ++ [.closeAll] := rfl
  cases opened : behaviour .openPool with
  | some fault =>
      -- Without a pool there is nothing to close.
      have raises :
          (Run.call behaviour pool).result = .error (.driver fault) :=
        result_call_of_some opened
      obtain ⟨shown, failed⟩ :=
        Run.exists_result_reporting_of_error raises
          (connectReport executor.settings)
      rw [whole, Run.andThen_of_error failed]
      exact .notOpened opened
  | none =>
      have opens : opening.result = .ok () :=
        Run.result_reporting_of_ok (result_call_of_none opened) _
      rw [whole, Run.andThen_of_ok opens, closingEvents]
      cases borrowed : behaviour .borrow with
      | some fault =>
          have raises :
              (Run.call behaviour .borrow).result = .error (.driver fault) :=
            result_call_of_some borrowed
          have stopped : borrowing.events = [.borrow] := by
            unfold borrowing
            rw [Run.andThen_of_error raises]
            rfl
          rw [stopped]
          exact .notBorrowed opened borrowed
      | none =>
          have borrows : (Run.call behaviour .borrow).result = .ok () :=
            result_call_of_none borrowed
          obtain ⟨block, fault, course, events⟩ :=
            events_runBorrowed behaviour sql
          have wentOn :
              borrowing.events =
                .borrow :: (block ++ rollbackAfter fault ++ [.giveBack]) := by
            unfold borrowing
            rw [Run.andThen_of_ok borrows, ← events]
            rfl
          have shape :
              opening.events ++ (borrowing.events ++ [.closeAll]) =
                borrowedEvents executor.least executor.most
                  executor.settings.arguments block fault := by
            rw [wentOn]
            simp [opening, pool, borrowedEvents]
          rw [shape]
          exact .borrowed opened borrowed course

/-! ## Every course is safe -/

namespace BlockCourse

variable {behaviour : Behaviour} {sql : String}
variable {block : List Event} {fault : Option DriverFault}

theorem operations_prefix (course : BlockCourse behaviour sql block fault) :
    block.map Event.operation <+: blockOperations := by
  cases course with
  | notOpened => exact ⟨[.enterCursor, .run, .leaveCursor, .commit], rfl⟩
  | notEntered => exact ⟨[.run, .leaveCursor, .commit], rfl⟩
  | notLeft => exact ⟨[.commit], rfl⟩
  | notRun => exact ⟨[.commit], rfl⟩
  | committed => exact ⟨[], rfl⟩

theorem not_mem_of_outside (course : BlockCourse behaviour sql block fault)
    {operation : Operation} (outside : operation ∉ blockOperations) :
    operation ∉ block.map Event.operation :=
  fun made => outside (course.operations_prefix.subset made)

theorem sent_eq (course : BlockCourse behaviour sql block fault)
    {sent : String} (made : Event.run sent ∈ block) :
    sent = sql := by
  cases course with
  | notOpened | notEntered => simp at made
  | notLeft | notRun | committed => simpa using made

/-- A commit ends the block, after a script and a cursor that returned. -/
theorem of_commit (course : BlockCourse behaviour sql block fault)
    (made : Operation.commit ∈ block.map Event.operation) :
    block.map Event.operation = blockOperations ∧
      behaviour .run = none ∧ behaviour .leaveCursor = none := by
  cases course with
  | committed opened entered left script => exact ⟨rfl, script, left⟩
  | _ => simp [Event.operation] at made

/-- The last exception of the block is the one that leaves it. -/
theorem getLast?_faults (course : BlockCourse behaviour sql block fault) :
    ((block.map Event.operation).filterMap behaviour).getLast? = fault := by
  cases course with
  | notOpened notOpened => simp [Event.operation, notOpened]
  | notEntered opened notEntered =>
      simp [Event.operation, opened, notEntered]
  | notLeft opened entered notLeft =>
      -- Whatever the script raised is replaced on leaving the cursor.
      cases script : behaviour .run <;>
        simp [Event.operation, opened, entered, notLeft, script]
  | notRun opened entered left notRun =>
      simp [Event.operation, opened, entered, left, notRun]
  | committed opened entered left script =>
      cases committed : behaviour .commit <;>
        simp [Event.operation, opened, entered, left, script, committed]

end BlockCourse

/-- All calls, in the one order in which they can come. -/
def inOrder : List Operation :=
  [.openPool, .borrow] ++ blockOperations ++ [.rollback] ++
    [.giveBack, .closeAll]

section Borrowed

variable {behaviour : Behaviour} {sql : String}
variable (least most : Int) (arguments : List (String × Value))
variable {block : List Event} {fault : Option DriverFault}

theorem operations_borrowedEvents
    (block : List Event) (fault : Option DriverFault) :
    (borrowedEvents least most arguments block fault).map Event.operation =
      [.openPool, .borrow] ++ block.map Event.operation ++
        (if fault.any DriverFault.ofDriver then [.rollback] else []) ++
        [.giveBack, .closeAll] := by
  have undone :
      (rollbackAfter fault).map Event.operation =
        if fault.any DriverFault.ofDriver then [.rollback] else [] := by
    unfold rollbackAfter
    split
    · rfl
    · rfl
  simp [borrowedEvents, Event.operation, undone]

theorem leavingFault_borrowedEvents
    (course : BlockCourse behaviour sql block fault) :
    leavingFault behaviour
        ((borrowedEvents least most arguments block fault).map
          Event.operation) =
      fault := by
  have inside :
      (block.map Event.operation).filter blockOperations.contains =
        block.map Event.operation := by
    rw [List.filter_eq_self]
    intro operation made
    exact List.contains_iff_mem.mpr (course.operations_prefix.subset made)
  have undone :
      (if fault.any DriverFault.ofDriver then [Operation.rollback] else []).filter
        blockOperations.contains = [] := by
    split
    · rfl
    · rfl
  have before :
      [Operation.openPool, .borrow].filter blockOperations.contains = [] := rfl
  have after :
      [Operation.giveBack, .closeAll].filter blockOperations.contains =
        [] := rfl
  unfold leavingFault
  rw [operations_borrowedEvents, List.filter_append, List.filter_append,
    List.filter_append, inside, undone, before, after, List.nil_append,
    List.append_nil, List.append_nil]
  exact course.getLast?_faults

end Borrowed

namespace Course

variable {behaviour : Behaviour} {sql : String} {events : List Event}

theorem operations_sublist (course : Course behaviour sql events) :
    (events.map Event.operation).Sublist inOrder := by
  cases course with
  | notOpened =>
      change [Operation.openPool].Sublist inOrder
      decide
  | notBorrowed =>
      change [Operation.openPool, .borrow, .closeAll].Sublist inOrder
      decide
  | @borrowed least most arguments block fault _ _ course =>
      have undoing :
          (if fault.any DriverFault.ofDriver then [Operation.rollback]
            else []).Sublist [.rollback] := by
        split
        · exact List.Sublist.refl _
        · exact List.nil_sublist _
      rw [operations_borrowedEvents]
      exact (((List.Sublist.refl _).append
        course.operations_prefix.sublist).append undoing).append
        (List.Sublist.refl _)

theorem operations_nodup (course : Course behaviour sql events) :
    (events.map Event.operation).Nodup :=
  course.operations_sublist.nodup (by decide)

theorem count_le_one (course : Course behaviour sql events)
    (operation : Operation) :
    (events.map Event.operation).count operation ≤ 1 :=
  List.nodup_iff_count_le_one.mp course.operations_nodup operation

theorem count_eq_of_mem_iff (course : Course behaviour sql events)
    {operation : Operation} {condition : Prop} [Decidable condition]
    (made : operation ∈ events.map Event.operation ↔ condition) :
    (events.map Event.operation).count operation =
      if condition then 1 else 0 := by
  rw [course.operations_nodup.count]
  exact if_congr made rfl rfl

theorem sent_eq (course : Course behaviour sql events)
    {sent : String} (made : Event.run sent ∈ events) :
    sent = sql := by
  cases course with
  | notOpened | notBorrowed => simp at made
  | @borrowed least most arguments block fault _ _ course =>
      have other : Event.run sent ∉ rollbackAfter fault := by
        unfold rollbackAfter
        split <;> simp
      have inBlock : Event.run sent ∈ block := by
        simpa [borrowedEvents, other] using made
      exact course.sent_eq inBlock

theorem of_commit (course : Course behaviour sql events)
    (made : Operation.commit ∈ events.map Event.operation) :
    [.run, .leaveCursor, .commit].Sublist (events.map Event.operation) ∧
      behaviour .run = none ∧ behaviour .leaveCursor = none := by
  cases course with
  | notOpened | notBorrowed => simp [Event.operation] at made
  | @borrowed least most arguments block fault _ _ course =>
      have inBlock : Operation.commit ∈ block.map Event.operation := by
        rw [operations_borrowedEvents] at made
        have undone :
            Operation.commit ∉
              if fault.any DriverFault.ofDriver then [.rollback] else [] := by
          split <;> simp
        simpa [undone] using made
      obtain ⟨whole, script, left⟩ := course.of_commit inBlock
      refine ⟨?_, script, left⟩
      have sublist :
          [Operation.run, .leaveCursor, .commit].Sublist blockOperations := by
        decide
      rw [operations_borrowedEvents, whole]
      exact ((sublist.trans (List.sublist_append_right _ _)).trans
        (List.sublist_append_left _ _)).trans (List.sublist_append_left _ _)

theorem rollback_mem_iff (course : Course behaviour sql events) :
    Operation.rollback ∈ events.map Event.operation ↔
      (leavingFault behaviour (events.map Event.operation)).any
        DriverFault.ofDriver := by
  cases course with
  | notOpened => simp [Event.operation, leavingFault, blockOperations]
  | notBorrowed => simp [Event.operation, leavingFault, blockOperations]
  | @borrowed least most arguments block fault _ _ course =>
      have outside : Operation.rollback ∉ block.map Event.operation :=
        course.not_mem_of_outside (by decide)
      rw [leavingFault_borrowedEvents least most arguments course,
        operations_borrowedEvents]
      simp [-List.mem_map, outside]

theorem giveBack_mem_iff (course : Course behaviour sql events) :
    Operation.giveBack ∈ events.map Event.operation ↔
      Returned behaviour (events.map Event.operation) .borrow := by
  unfold Returned
  cases course with
  | notOpened => simp [Event.operation]
  | notBorrowed _ notBorrowed => simp [Event.operation, notBorrowed]
  | borrowed _ borrowed _ =>
      rw [operations_borrowedEvents]
      simp [borrowed]

theorem closeAll_mem_iff (course : Course behaviour sql events) :
    Operation.closeAll ∈ events.map Event.operation ↔
      Returned behaviour (events.map Event.operation) .openPool := by
  unfold Returned
  cases course with
  | notOpened notOpened => simp [Event.operation, notOpened]
  | notBorrowed opened _ => simp [Event.operation, opened]
  | borrowed opened _ _ =>
      rw [operations_borrowedEvents]
      simp [opened]

theorem sublist_giveBack (course : Course behaviour sql events)
    {ending : Operation} (ends : ending ∈ [Operation.commit, .rollback])
    (made : ending ∈ events.map Event.operation) :
    [ending, .giveBack].Sublist (events.map Event.operation) := by
  have which : ending = .commit ∨ ending = .rollback := by
    simpa using ends
  cases course with
  | notOpened | notBorrowed =>
      rcases which with rfl | rfl <;> simp [Event.operation] at made
  | @borrowed least most arguments block fault _ _ course =>
      rw [operations_borrowedEvents] at made ⊢
      have other : ending ∉ [Operation.giveBack, .closeAll] := by
        rcases which with rfl | rfl <;> simp
      have before := (List.mem_append.mp made).resolve_right other
      have back :
          [Operation.giveBack].Sublist [.giveBack, .closeAll] := by
        decide
      exact (List.singleton_sublist.mpr before).append back

theorem getLast?_of_closeAll (course : Course behaviour sql events)
    (made : Operation.closeAll ∈ events.map Event.operation) :
    (events.map Event.operation).getLast? = some .closeAll := by
  cases course with
  | notOpened => simp [Event.operation] at made
  | notBorrowed => rfl
  | borrowed =>
      rw [operations_borrowedEvents, List.getLast?_append]
      rfl

theorem safe (course : Course behaviour sql events) :
    Safe behaviour sql events where
  onePool := course.count_le_one .openPool
  oneScript := course.count_le_one .run
  sameScript := fun _ made => course.sent_eq made
  oneCommit := course.count_le_one .commit
  commitLate := course.of_commit
  rollbackOnDriverFault := course.count_eq_of_mem_iff course.rollback_mem_iff
  givenBack := course.count_eq_of_mem_iff course.giveBack_mem_iff
  givenBackLate := fun _ ends made => course.sublist_giveBack ends made
  closed := course.count_eq_of_mem_iff course.closeAll_mem_iff
  closedLast := course.getLast?_of_closeAll

end Course

/-! ## Sequences of executions -/

/-- Execute scripts one after another, whatever becomes of each. -/
def Executor.executeAll
    (executor : Executor) (calls : List (Behaviour × String)) : List Run :=
  calls.map fun call => executor.execute call.1 call.2

/-- Every execution of a sequence is safe, whatever the driver does in it and
in those before. -/
theorem Executor.executeAll_safe
    (executor : Executor) (calls : List (Behaviour × String)) :
    List.Forall₂ (fun call run => Safe call.1 call.2 run.events)
      calls (executor.executeAll calls) := by
  unfold Executor.executeAll
  rw [List.forall₂_map_right_iff, List.forall₂_same]
  intro call _
  exact (execute_course executor call.1 call.2).safe

end Tablesmith.Connection

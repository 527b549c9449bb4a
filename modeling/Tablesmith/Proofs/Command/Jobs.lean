import Tablesmith.Command.Program

/-!
# What jobs do

Records of the log are not actions: an action is a printed text, a written
file or a call on the connection.  What a job does is the list of its actions
together with the disk that it leaves and the result that it comes to.  It is
found from the parts of the job, whatever was done before.
-/

namespace Tablesmith.Command

open Tablesmith.Disk

/-! ## Actions -/

def Effect.isAction : Effect → Bool
  | .record _ => false
  | .print _ => true
  | .write _ _ _ => true
  | .call _ => true

/-- The effects that others than the reader of the log notice. -/
def actionsOf (effects : List Effect) : List Effect :=
  effects.filter Effect.isAction

theorem actionsOf_append (effects others : List Effect) :
    actionsOf (effects ++ others) = actionsOf effects ++ actionsOf others :=
  List.filter_append effects others

@[simp]
theorem actionsOf_records (records : List Log.Record) :
    actionsOf (records.map Effect.record) = [] := by
  unfold actionsOf
  rw [List.filter_eq_nil_iff]
  intro effect member
  obtain ⟨_, _, rfl⟩ := List.mem_map.mp member
  simp [Effect.isAction]

@[simp]
theorem actionsOf_calls (events : List Connection.Event) :
    actionsOf (events.map Effect.call) = events.map Effect.call := by
  unfold actionsOf
  rw [List.filter_eq_self]
  intro effect member
  obtain ⟨_, _, rfl⟩ := List.mem_map.mp member
  rfl

/-- What is picked out of actions only, is picked out of their actions. -/
theorem filterMap_actionsOf {α : Type} {pick : Effect → Option α}
    (fromActions : ∀ r, pick (.record r) = none) (effects : List Effect) :
    (actionsOf effects).filterMap pick = effects.filterMap pick := by
  have samePick :
      (fun effect => if effect.isAction then pick effect else none) =
        pick := by
    funext effect
    cases effect with
    | record r => exact (fromActions r).symm
    | _ => rfl
  unfold actionsOf
  rw [List.filterMap_filter, samePick]

theorem printed_actionsOf (effects : List Effect) :
    printed (actionsOf effects) = printed effects := by
  unfold printed
  rw [filterMap_actionsOf fun _ => rfl]

theorem callsOf_actionsOf (effects : List Effect) :
    callsOf (actionsOf effects) = callsOf effects := by
  unfold callsOf
  rw [filterMap_actionsOf fun _ => rfl]

/-! ## Jobs -/

namespace Job

variable {α β : Type}

/-- From a disk, and whatever was done before, a job takes the given actions,
leaves the given disk and comes to the given result. -/
def Does
    (x : Job α)
    (before : Disk)
    (actions : List Effect)
    (after : Disk)
    (result : Except Stop α) :
    Prop :=
  ∀ effects, ∃ more,
    x.run.run ⟨before, effects⟩ = (result, ⟨after, effects ++ more⟩) ∧
      actionsOf more = actions

section Laws

variable {before between after : Disk} {actions later : List Effect}

theorem does_pure (a : α) (d : Disk) : Does (pure a) d [] d (.ok a) := by
  intro effects
  refine ⟨[], ?_, rfl⟩
  rw [List.append_nil]
  rfl

theorem does_throw (stop : Stop) (d : Disk) :
    Does (throw stop : Job α) d [] d (.error stop) := by
  intro effects
  refine ⟨[], ?_, rfl⟩
  rw [List.append_nil]
  rfl

theorem Does.bind {x : Job α} {f : α → Job β} {a : α} {result : Except Stop β}
    (first : x.Does before actions between (.ok a))
    (next : (f a).Does between later after result) :
    (x >>= f).Does before (actions ++ later) after result := by
  intro effects
  obtain ⟨start, ran, startActions⟩ := first effects
  obtain ⟨rest, wentOn, restActions⟩ := next (effects ++ start)
  refine ⟨start ++ rest, ?_, ?_⟩
  · rw [ExceptT.run_bind, StateT.run_bind, ran, ← List.append_assoc]
    exact wentOn
  · rw [actionsOf_append, startActions, restActions]

theorem Does.andThen {x : Job α} {y : Job β} {a : α} {result : Except Stop β}
    (first : x.Does before actions between (.ok a))
    (next : y.Does between later after result) :
    (x >>= fun _ => y).Does before (actions ++ later) after result :=
  first.bind next

/-- A job that takes no action before another one does what that does. -/
theorem Does.quietly {x : Job α} {y : Job β} {a : α} {result : Except Stop β}
    (first : x.Does before [] between (.ok a))
    (next : y.Does between later after result) :
    (x >>= fun _ => y).Does before later after result :=
  first.bind next

/-- After a job that stops nothing more is done. -/
theorem Does.bind_of_stop {x : Job α} {stop : Stop}
    (stops : x.Does before actions after (.error stop)) (f : α → Job β) :
    (x >>= f).Does before actions after (.error stop) := by
  intro effects
  obtain ⟨more, ran, theirActions⟩ := stops effects
  refine ⟨more, ?_, theirActions⟩
  rw [ExceptT.run_bind, StateT.run_bind, ran]
  rfl

/-- A job that begins by looking at its progress sees the disk. -/
theorem does_get_bind {f : Progress → Job α} {result : Except Stop α}
    (does : ∀ effects, (f ⟨before, effects⟩).Does before actions after result) :
    (get >>= f).Does before actions after result := by
  intro effects
  obtain ⟨more, ran, theirActions⟩ := does effects effects
  exact ⟨more, ran, theirActions⟩

end Laws

/-! ## The parts of jobs -/

theorem does_leave (effects : List Effect) (d : Disk) :
    (leave effects).Does d (actionsOf effects) d (.ok ()) :=
  fun _ => ⟨effects, rfl, rfl⟩

theorem does_log (records : List Log.Record) (d : Disk) :
    (log records).Does d [] d (.ok ()) := by
  have logged := does_leave (records.map Effect.record) d
  rw [actionsOf_records] at logged
  exact logged

theorem does_ofResult (result : Except Failure α) (d : Disk) :
    (ofResult result).Does d [] d (result.mapError Stop.failure) := by
  cases result with
  | ok a => exact does_pure a d
  | error failure => exact does_throw _ d

theorem does_ofLogged (x : Log.Logged α) (d : Disk) :
    (ofLogged x).Does d [] d (x.result.mapError Stop.failure) :=
  (does_log x.records d).quietly (does_ofResult x.result d)

theorem does_print (text : String) (d : Disk) :
    (print text).Does d [.print text] d (.ok ()) :=
  does_leave [.print text] d

theorem does_write (s : Surroundings) (path : Path) (text : String) (d : Disk) :
    (write s path text).Does d
      [.write path text (s.write d path text).2.isOk]
      (s.write d path text).1
      ((s.write d path text).2.mapError Stop.failure) := by
  intro effects
  refine ⟨[.write path text (s.write d path text).2.isOk], ?_, rfl⟩
  have wrote :
      (write s path text).run.run ⟨d, effects⟩ =
        (ofResult (s.write d path text).2).run.run
          ⟨(s.write d path text).1,
            effects ++ [.write path text (s.write d path text).2.isOk]⟩ :=
    rfl
  rw [wrote]
  cases (s.write d path text).2 with
  | error failure => rfl
  | ok _ => rfl

/-- A deployment makes the calls of its run, and succeeds if the run does. -/
theorem does_deploy
    (s : Surroundings) {d : Schema.Database} {statements : List String}
    (created : Sql.create d = .ok statements)
    (settings : Config.DatabaseSettings) (disk : Disk) :
    let run :=
      (Connection.Executor.single settings).execute s.database
        (Sql.joinStatements Sql.standardSeparator statements)
    (deploy s d settings).Does disk (run.events.map Effect.call) disk
      (run.result.mapError Stop.failure) := by
  intro run
  let deployment := Connection.deploy d (some settings) s.database
  have events : deployment.events = run.events := by
    unfold deployment Connection.deploy
    rw [created]
  have result :
      deployment.logged.result = run.result.map fun _ => statements := by
    unfold deployment Connection.deploy
    rw [created]
  have calls :
      (leave (deployment.events.map Effect.call)).Does disk
        (run.events.map Effect.call) disk (.ok ()) := by
    have made := does_leave (deployment.events.map Effect.call) disk
    rw [actionsOf_calls] at made
    rw [← events]
    exact made
  have logged := does_ofLogged deployment.logged disk
  rw [result] at logged
  rw [← List.append_nil (run.events.map Effect.call)]
  cases ended : run.result with
  | ok =>
      rw [ended] at logged
      exact calls.andThen (logged.quietly (does_pure () disk))
  | error failure =>
      rw [ended] at logged
      exact calls.andThen (logged.bind_of_stop fun _ => pure ())

end Job

end Tablesmith.Command

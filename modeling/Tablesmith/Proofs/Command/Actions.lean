import Tablesmith.Proofs.Command.Jobs
import Tablesmith.Proofs.Config.Buildable
import Tablesmith.Proofs.Config.Overriding
import Tablesmith.Proofs.Connection.Safety

/-!
# What the program does

What is asked for follows from the options and the configuration: a list of
steps in a fixed order.  The program goes through them from the first on and
ends at the first that is not carried out, so what it does besides logging is
that of a prefix of the steps.  Nothing is done before the configuration is
loaded and the database is built.
-/

namespace Tablesmith.Command

open Tablesmith.Config Tablesmith.Disk Tablesmith.Schema

/-! ## What is asked for -/

/-- A path is set and not empty. -/
def IsGiven (output : Option String) : Prop :=
  ∃ path, output = some path ∧ path ≠ ""

/-- The place of a step among the others. -/
def Step.rank : Step → Nat
  | .writeScript _ => 0
  | .printScript => 1
  | .writeTypes _ => 2
  | .execute => 3

/-- The steps that the options and the configuration ask for: each at most
once, and in order. -/
structure Requested
    (a : Arguments) (c : Configuration) (requested : List Step) : Prop where
  writesScript :
    ∀ path, .writeScript path ∈ requested ↔
      c.sqlOutput = some path ∧ path ≠ ""
  prints :
    .printScript ∈ requested ↔
      a.print = true ∨
        (¬ IsGiven c.sqlOutput ∧ ¬ IsGiven c.typesOutput ∧ a.execute = false)
  writesTypes :
    ∀ path, .writeTypes path ∈ requested ↔
      c.typesOutput = some path ∧ path ≠ ""
  executes : .execute ∈ requested ↔ a.execute = true
  inOrder : (requested.map Step.rank).Pairwise (· < ·)

theorem givenPath_eq_some_iff {output : Option String} {path : String} :
    givenPath output = some path ↔ output = some path ∧ path ≠ "" := by
  cases output with
  | none => simp [givenPath]
  | some text =>
      by_cases empty : text = ""
      · subst empty
        simp [givenPath]
      · have isSome : givenPath (some text) = some text := by
          simp [givenPath, empty]
        rw [isSome]
        constructor
        · rintro ⟨⟩
          exact ⟨rfl, empty⟩
        · exact And.left

theorem isSome_givenPath_iff {output : Option String} :
    (givenPath output).isSome = true ↔ IsGiven output := by
  rw [Option.isSome_iff_exists]
  exact exists_congr fun _ => givenPath_eq_some_iff

theorem printsScript_iff {a : Arguments} {c : Configuration} :
    printsScript a c = true ↔
      a.print = true ∨
        (¬ IsGiven c.sqlOutput ∧ ¬ IsGiven c.typesOutput ∧
          a.execute = false) := by
  rw [← isSome_givenPath_iff, ← isSome_givenPath_iff]
  unfold printsScript
  simp [and_assoc]

/-- The program goes by the steps that are asked for. -/
theorem requested_steps (a : Arguments) (c : Configuration) :
    Requested a c (steps a c) where
  writesScript path := by
    rw [← givenPath_eq_some_iff]
    simp [steps]
  prints := by
    rw [← printsScript_iff]
    simp [steps]
  writesTypes path := by
    rw [← givenPath_eq_some_iff]
    simp [steps]
  executes := by
    simp [steps]
  inOrder := by
    unfold steps
    cases givenPath c.sqlOutput <;> cases printsScript a c <;>
      cases givenPath c.typesOutput <;> cases a.execute <;>
      simp [Step.rank]

/-! ## What comes of the steps -/

/-- What comes of a step: its actions, the disk after it, and whether it was
carried out. -/
structure Trial where
  step : Step
  actions : List Effect
  after : Disk
  isDone : Bool

/-- What comes of a step on a disk.  A file may be written in part, and an
execution may fail at any of its calls; it is not even begun without settings
for a connection. -/
def Step.trial
    (s : Surroundings)
    (script types : String)
    (settings : Option DatabaseSettings)
    (before : Disk) :
    Step → Trial
  | .writeScript output =>
    let written := s.write before (.ofString output) script
    { step := .writeScript output
      actions := [.write (.ofString output) script written.2.isOk]
      after := written.1
      isDone := written.2.isOk }
  | .printScript => ⟨.printScript, [.print script], before, true⟩
  | .writeTypes output =>
    let written := s.write before (.ofString output) types
    { step := .writeTypes output
      actions := [.write (.ofString output) types written.2.isOk]
      after := written.1
      isDone := written.2.isOk }
  | .execute =>
    match settings with
    | none => ⟨.execute, [], before, false⟩
    | some given =>
      let run := (Connection.Executor.single given).execute s.database script
      { step := .execute
        actions := run.events.map Effect.call
        after := before
        isDone := run.result.isOk }

/-- Steps are tried one after the other, each on the disk that the one before
it left, and none after one that was not carried out. -/
inductive Follows (trial : Disk → Step → Trial) :
    Disk → List Step → List Trial → Prop
  | finished {before : Disk} : Follows trial before [] []
  | stopped {before : Disk} {step : Step} {rest : List Step} :
      (trial before step).isDone = false →
      Follows trial before (step :: rest) [trial before step]
  | next {before : Disk} {step : Step} {rest : List Step}
      {tried : List Trial} :
      (trial before step).isDone = true →
      Follows trial (trial before step).after rest tried →
      Follows trial before (step :: rest) (trial before step :: tried)

/-- The disk that trials leave. -/
def lastDisk (before : Disk) (tried : List Trial) : Disk :=
  tried.foldl (fun _ t => t.after) before

@[simp]
theorem step_trial
    (s : Surroundings) (script types : String)
    (settings : Option DatabaseSettings) (before : Disk) (step : Step) :
    (step.trial s script types settings before).step = step := by
  cases step with
  | execute => cases settings <;> rfl
  | _ => rfl

namespace Follows

variable {trial : Disk → Step → Trial} {before : Disk}
variable {requested : List Step} {tried : List Trial}

/-- What was tried is a prefix of what was asked for. -/
theorem isPrefix (sameStep : ∀ d step, (trial d step).step = step)
    (follows : Follows trial before requested tried) :
    tried.map Trial.step <+: requested := by
  induction follows with
  | finished => exact List.nil_prefix
  | @stopped before step rest _ =>
      rw [List.map_singleton, sameStep]
      exact ⟨rest, rfl⟩
  | next _ _ inductionHypothesis =>
      rw [List.map_cons, sameStep]
      exact List.cons_prefix_cons.mpr ⟨rfl, inductionHypothesis⟩

/-- Only the last of the steps that were tried may not be carried out. -/
theorem onlyLast (follows : Follows trial before requested tried) :
    ∀ t ∈ tried.dropLast, t.isDone = true := by
  induction follows with
  | finished =>
      intro t member
      cases member
  | stopped =>
      intro t member
      cases member
  | @next before step rest tried isDone others inductionHypothesis =>
      cases tried with
      | nil =>
          intro t member
          cases member
      | cons second later =>
          rw [List.dropLast_cons_cons]
          exact List.forall_mem_cons.mpr ⟨isDone, inductionHypothesis⟩

/-- If all that was tried was carried out, then nothing that was asked for is
missing. -/
theorem complete (sameStep : ∀ d step, (trial d step).step = step)
    (follows : Follows trial before requested tried)
    (allDone : ∀ t ∈ tried, t.isDone = true) :
    tried.map Trial.step = requested := by
  induction follows with
  | finished => rfl
  | stopped notDone =>
      have isDone := allDone _ (List.mem_singleton.mpr rfl)
      rw [notDone] at isDone
      cases isDone
  | next _ _ inductionHypothesis =>
      rw [List.map_cons, sameStep]
      rw [inductionHypothesis fun t member =>
        allDone t (List.mem_cons_of_mem _ member)]

end Follows

/-- Whatever was tried is what comes of some step on some disk. -/
theorem Follows.exists_trial
    {trial : Disk → Step → Trial} {before : Disk} {requested : List Step}
    {tried : List Trial} (follows : Follows trial before requested tried) :
    ∀ t ∈ tried, ∃ d step, t = trial d step := by
  induction follows with
  | finished =>
      intro t member
      cases member
  | @stopped before step _ _ =>
      intro t member
      exact ⟨before, step, List.mem_singleton.mp member⟩
  | @next before step _ _ _ _ inductionHypothesis =>
      exact List.forall_mem_cons.mpr
        ⟨⟨before, step, rfl⟩, inductionHypothesis⟩

/-! ## The script in the hands of others -/

/-- An action hands a text to a file, to the reader or to the database. -/
inductive Effect.Hands : Effect → String → Prop
  | print (text : String) : Hands (.print text) text
  | write (path : Path) (text : String) (isDone : Bool) :
      Hands (.write path text isDone) text
  | run (sql : String) : Hands (.call (.run sql)) sql

def Step.isOfScript : Step → Bool
  | .writeTypes _ => false
  | _ => true

/-- Whatever a step about the script hands on is the script. -/
theorem eq_script_of_hands
    {s : Surroundings} {script types : String}
    {settings : Option DatabaseSettings} {before : Disk} {step : Step}
    (ofScript : step.isOfScript = true)
    {action : Effect}
    (member : action ∈ (step.trial s script types settings before).actions)
    {text : String} (hands : action.Hands text) :
    text = script := by
  cases step with
  | writeScript output =>
      obtain rfl := List.mem_singleton.mp member
      cases hands
      rfl
  | printScript =>
      obtain rfl := List.mem_singleton.mp member
      cases hands
      rfl
  | writeTypes output => cases ofScript
  | execute =>
      cases settings with
      | none => cases member
      | some given =>
          obtain ⟨event, made, rfl⟩ := List.mem_map.mp member
          cases hands with
          | run =>
              exact (Connection.execute_course _ s.database script).sent_eq made

/-! ## Going through the steps -/

namespace Job

/-- A job after which something is only logged does what it does without. -/
theorem Does.thenLogged
    {x : Job Unit} {before after : Disk} {actions : List Effect}
    {result : Except Stop Unit} (does : x.Does before actions after result)
    (records : List Log.Record) :
    (x >>= fun _ => log records).Does before actions after result := by
  cases result with
  | error stop => exact does.bind_of_stop _
  | ok =>
      rw [← List.append_nil actions]
      exact does.andThen (does_log records after)

end Job

section Steps

variable (s : Surroundings) {p : Product} {types : String}
variable (settings : Option DatabaseSettings)

theorem isOk_mapError {α : Type} (result : Except Failure α) :
    (result.mapError Stop.failure).isOk = result.isOk := by
  cases result <;> rfl

/-- A step does what comes of its trial. -/
theorem does_perform
    (created : Sql.create p.database = .ok p.statements)
    (typed : Interface.typesText p.database.tables = .ok types)
    (step : Step) (before : Disk) :
    let t := step.trial s p.script types settings before
    ∃ result, (step.perform s p settings).Does before t.actions t.after result ∧
      result.isOk = t.isDone := by
  intro t
  cases step with
  | writeScript output =>
      have wrote := Job.does_write s (.ofString output) p.script before
      exact ⟨_, wrote.thenLogged _, isOk_mapError _⟩
  | printScript => exact ⟨_, Job.does_print p.script before, rfl⟩
  | writeTypes output =>
      have content := Job.does_ofResult (.ok types) before
      have wrote := Job.does_write s (.ofString output) types before
      refine ⟨_, ?_, isOk_mapError _⟩
      refine (Job.does_log _ before).quietly ?_
      refine (Job.does_log _ before).quietly ?_
      rw [typed]
      exact content.bind (wrote.thenLogged _)
  | execute =>
      cases settings with
      | none =>
          refine ⟨.error .refusal, ?_, rfl⟩
          refine (Job.does_log _ before).quietly ?_
          exact (Job.does_log _ before).quietly (Job.does_throw .refusal before)
      | some given =>
          have deployed := Job.does_deploy s created given before
          refine ⟨_, ?_, isOk_mapError _⟩
          exact (Job.does_log _ before).quietly (deployed.thenLogged _)

/-- Going through steps does what comes of trying them one after the other. -/
theorem does_steps
    (created : Sql.create p.database = .ok p.statements)
    (typed : Interface.typesText p.database.tables = .ok types)
    (requested : List Step) (before : Disk) :
    ∃ tried result,
      Follows (Step.trial s p.script types settings) before requested tried ∧
        (requested.forM fun step => step.perform s p settings).Does before
          (tried.flatMap Trial.actions) (lastDisk before tried) result ∧
        (result.isOk = true ↔ ∀ t ∈ tried, t.isDone = true) := by
  induction requested generalizing before with
  | nil =>
      exact ⟨[], .ok (), .finished, Job.does_pure () before,
        by simp [Except.isOk, Except.toBool]⟩
  | cons step rest inductionHypothesis =>
      obtain ⟨result, does, same⟩ :=
        does_perform s settings created typed step before
      cases result with
      | error stop =>
          have notDone :
              (step.trial s p.script types settings before).isDone = false :=
            same.symm
          refine ⟨[step.trial s p.script types settings before], .error stop,
            .stopped notDone, ?_, ?_⟩
          · rw [List.flatMap_singleton]
            exact does.bind_of_stop _
          · simp [notDone, Except.isOk, Except.toBool]
      | ok =>
          have isDone :
              (step.trial s p.script types settings before).isDone = true :=
            same.symm
          obtain ⟨tried, last, follows, others, lastSame⟩ :=
            inductionHypothesis
              (step.trial s p.script types settings before).after
          refine ⟨step.trial s p.script types settings before :: tried, last,
            .next isDone follows, ?_, ?_⟩
          · rw [List.flatMap_cons]
            exact does.andThen others
          · rw [lastSame, List.forall_mem_cons]
            exact (and_iff_right isDone).symm

end Steps

/-! ## The whole program -/

section Program

variable {s : Surroundings} {a : Arguments} {c : Configuration} {disk : Disk}

/-- What is built can be written as a script and as interfaces. -/
theorem writable_of_load
    (loaded : (load disk a.config a.attributes).result = .ok c)
    {d : Database} (built : (buildDatabase c).result = .ok d) :
    Writable d := by
  have course := load_course disk a.config a.attributes
  rw [loaded] at course
  cases course with
  | loaded _ _ accepted =>
      -- Building does not look at the output paths.
      exact (buildDatabase_succeeds_iff accepted).2.2 d built

theorem does_produce
    {d : Database} {statements : List String}
    (built : (buildDatabase c).result = .ok d)
    (created : Sql.create d = .ok statements) :
    (produce c).Does disk [] disk (.ok ⟨d, statements⟩) := by
  have databaseMade := Job.does_ofLogged (buildDatabase c) disk
  have statementsMade := Job.does_ofResult (Sql.create d) disk
  rw [built] at databaseMade
  rw [created] at statementsMade
  refine (Job.does_log _ disk).quietly (databaseMade.bind ?_)
  refine (Job.does_log _ disk).quietly ((Job.does_log _ disk).quietly ?_)
  refine (Job.does_log _ disk).quietly ?_
  rw [created]
  exact statementsMade.bind ((Job.does_log _ disk).quietly
    (Job.does_pure _ disk))

theorem does_produce_of_error
    {failure : Failure} (failed : (buildDatabase c).result = .error failure) :
    (produce c).Does disk [] disk (.error (.failure failure)) := by
  have stops := Job.does_ofLogged (buildDatabase c) disk
  rw [failed] at stops
  exact (Job.does_log _ disk).quietly (stops.bind_of_stop _)

theorem does_generate_of_load_error
    {failure : Failure}
    (failed : (load disk a.config a.attributes).result = .error failure) :
    (generate s a).Does disk [] disk (.error (.failure failure)) := by
  have stops :=
    Job.does_ofLogged (load disk a.config a.attributes) disk
  rw [failed] at stops
  refine (Job.does_log _ disk).quietly ?_
  exact Job.does_get_bind fun _ => stops.bind_of_stop _

theorem does_generate_of_build_error
    (loaded : (load disk a.config a.attributes).result = .ok c)
    {failure : Failure} (failed : (buildDatabase c).result = .error failure) :
    (generate s a).Does disk [] disk (.error (.failure failure)) := by
  have configured :=
    Job.does_ofLogged (load disk a.config a.attributes) disk
  rw [loaded] at configured
  refine (Job.does_log _ disk).quietly ?_
  refine Job.does_get_bind fun _ => ?_
  exact configured.bind ((does_produce_of_error failed).bind_of_stop _)

theorem does_generate
    (loaded : (load disk a.config a.attributes).result = .ok c)
    {d : Database} (built : (buildDatabase c).result = .ok d)
    {statements : List String} (created : Sql.create d = .ok statements)
    {actions : List Effect} {after : Disk} {result : Except Stop Unit}
    (went :
      ((steps a c).forM fun step =>
        step.perform s ⟨d, statements⟩ c.database).Does
          disk actions after result) :
    (generate s a).Does disk actions after result := by
  have configured :=
    Job.does_ofLogged (load disk a.config a.attributes) disk
  rw [loaded] at configured
  refine (Job.does_log _ disk).quietly ?_
  refine Job.does_get_bind fun _ => ?_
  exact configured.bind ((does_produce built created).bind went)

/-! ## Outcomes -/

/-- The actions of the program. -/
def performed (s : Surroundings) (disk : Disk) (a : Arguments) : List Effect :=
  actionsOf ((generate s a).run.run ⟨disk, []⟩).2.effects

/-- How a run of the program ends that takes the given actions. -/
structure Ends
    (outcome : Outcome)
    (actions : List Effect)
    (after : Disk)
    (isDone : Bool) :
    Prop where
  exit : outcome.exit = if isDone then 0 else 1
  output : outcome.output = printed actions
  events : outcome.events = callsOf actions
  disk : outcome.disk = after

theorem Ends.exit_eq_zero_iff
    {outcome : Outcome} {actions : List Effect} {after : Disk} {isDone : Bool}
    (ends : Ends outcome actions after isDone) :
    outcome.exit = 0 ↔ isDone = true := by
  rw [ends.exit]
  cases isDone <;> simp

theorem exit_ending (a : Arguments) (result : Except Stop Unit) :
    (ending a result).1 = if result.isOk then 0 else 1 := by
  cases result with
  | ok => rfl
  | error stop => cases stop <;> rfl

/-- What the program ends with follows from what it does. -/
theorem ends_of_does
    {words : List String} (parsed : parse words = .ok (.arguments a))
    {actions : List Effect} {after : Disk} {result : Except Stop Unit}
    (does : (generate s a).Does disk actions after result) :
    performed s disk a = actions ∧
      Ends (run s disk words) actions after result.isOk := by
  obtain ⟨more, ran, theirActions⟩ := does []
  rw [List.nil_append] at ran
  have outcome : run s disk words = runWith s disk a := by
    unfold run
    rw [parsed]
  rw [outcome]
  constructor
  · unfold performed
    rw [ran]
    exact theirActions
  · have exit : (runWith s disk a).exit = (ending a result).1 := by
      unfold runWith
      rw [ran]
    have output : (runWith s disk a).output = printed more := by
      unfold runWith
      rw [ran]
    have events : (runWith s disk a).events = callsOf more := by
      unfold runWith
      rw [ran]
    have left : (runWith s disk a).disk = after := by
      unfold runWith
      rw [ran]
    rw [← theirActions]
    exact ⟨exit.trans (exit_ending a result),
      output.trans (printed_actionsOf more).symm,
      events.trans (callsOf_actionsOf more).symm, left⟩

end Program

/-- The program fails, and neither a file nor the reader nor the database is
touched. -/
structure GivesUp (disk : Disk) (actions : List Effect) (outcome : Outcome) :
    Prop where
  exit : outcome.exit = 1
  nothing : actions = []
  output : outcome.output = ""
  events : outcome.events = []
  sameDisk : outcome.disk = disk

/-- The program goes through the steps that are asked for: it tries a prefix of
them, of which only the last may not be carried out, and does nothing else.
It succeeds exactly if all of them were carried out. -/
structure GoesThrough
    (trial : Disk → Step → Trial)
    (disk : Disk)
    (requested : List Step)
    (tried : List Trial)
    (actions : List Effect)
    (outcome : Outcome) :
    Prop where
  follows : Follows trial disk requested tried
  isPrefix : tried.map Trial.step <+: requested
  onlyLast : ∀ t ∈ tried.dropLast, t.isDone = true
  performs : actions = tried.flatMap Trial.actions
  output : outcome.output = printed actions
  events : outcome.events = callsOf actions
  lastDisk : outcome.disk = lastDisk disk tried
  succeeds :
    outcome.exit = 0 ↔
      tried.map Trial.step = requested ∧ ∀ t ∈ tried, t.isDone = true
  exit : outcome.exit = 0 ∨ outcome.exit = 1

/-- Whatever the steps about the script hand on is the given text. -/
def HandOnly (script : String) (tried : List Trial) : Prop :=
  ∀ t ∈ tried, t.step.isOfScript = true →
    ∀ action ∈ t.actions, ∀ text, action.Hands text → text = script

theorem Follows.handOnly
    {s : Surroundings} {script types : String}
    {settings : Option DatabaseSettings} {before : Disk}
    {requested : List Step} {tried : List Trial}
    (follows :
      Follows (Step.trial s script types settings) before requested tried) :
    HandOnly script tried := by
  intro t member ofScript action isAction text hands
  obtain ⟨reached, step, rfl⟩ := follows.exists_trial t member
  rw [step_trial] at ofScript
  exact eq_script_of_hands ofScript isAction hands

theorem givesUp_of_does
    {s : Surroundings} {disk : Disk} {words : List String} {a : Arguments}
    (parsed : parse words = .ok (.arguments a)) {stop : Stop}
    (does : (generate s a).Does disk [] disk (.error stop)) :
    GivesUp disk (performed s disk a) (run s disk words) := by
  obtain ⟨nothing, ends⟩ := ends_of_does parsed does
  exact ⟨ends.exit, nothing, ends.output, ends.events, ends.disk⟩

/-- What the program tries and how it ends, once the database is built. -/
theorem exists_goesThrough
    {s : Surroundings} {disk : Disk} {words : List String} {a : Arguments}
    {c : Configuration} {d : Database} {statements : List String}
    {types : String}
    (parsed : parse words = .ok (.arguments a))
    (loaded : (load disk a.config a.attributes).result = .ok c)
    (built : (buildDatabase c).result = .ok d)
    (created : Sql.create d = .ok statements)
    (typed : Interface.typesText d.tables = .ok types) :
    let script := Sql.joinStatements Sql.standardSeparator statements
    ∃ tried,
      GoesThrough (Step.trial s script types c.database) disk (steps a c) tried
          (performed s disk a) (run s disk words) ∧
        HandOnly script tried := by
  intro script
  let p : Product := ⟨d, statements⟩
  have productCreated : Sql.create p.database = .ok p.statements := created
  obtain ⟨tried, result, follows, went, succeeded⟩ :=
    does_steps s c.database productCreated typed (steps a c) disk
  have sameStep : ∀ d step,
      (Step.trial s script types c.database d step).step = step :=
    step_trial s script types c.database
  obtain ⟨actions, ends⟩ :=
    ends_of_does parsed (does_generate loaded built created went)
  refine ⟨tried, ⟨follows, follows.isPrefix sameStep, follows.onlyLast,
    actions, ?_, ?_, ends.disk, ?_, ?_⟩, follows.handOnly⟩
  · rw [actions]
    exact ends.output
  · rw [actions]
    exact ends.events
  · rw [ends.exit_eq_zero_iff, succeeded]
    constructor
    · intro allDone
      exact ⟨follows.complete sameStep allDone, allDone⟩
    · exact And.right
  · rw [ends.exit]
    split
    · exact Or.inl rfl
    · exact Or.inr rfl

/-- What is set in place of the file are the outputs that were asked for. -/
theorem lookup_overriding (a : Arguments) :
    (overriding a.attributes).reverse.lookup "sql_output" =
        a.sqlOutput.map Value.text ∧
      (overriding a.attributes).reverse.lookup "types_output" =
        a.typesOutput.map Value.text := by
  obtain ⟨config, sqlOutput, typesOutput, print, execute, verbose, noColor⟩ := a
  cases sqlOutput <;> cases typesOutput <;> exact ⟨rfl, rfl⟩

/-- Besides logging, the program does what comes of a prefix of the steps that
the options and the configuration ask for; it succeeds exactly if all of them
are carried out, and it touches nothing if loading or building fails.  Every
place that the script reaches is handed the same text. -/
theorem run_goes_through
    {words : List String} {a : Arguments}
    (parsed : parse words = .ok (.arguments a))
    (s : Surroundings) (disk : Disk) :
    (∀ failure, (load disk a.config a.attributes).result = .error failure →
        GivesUp disk (performed s disk a) (run s disk words)) ∧
      ∀ c, (load disk a.config a.attributes).result = .ok c →
        (∃ entries, readEntries disk a.config = .ok entries ∧
            OutputChosen disk.working entries "sql_output" a.sqlOutput
              c.sqlOutput ∧
            OutputChosen disk.working entries "types_output" a.typesOutput
              c.typesOutput) ∧
          (∀ failure, (buildDatabase c).result = .error failure →
            GivesUp disk (performed s disk a) (run s disk words)) ∧
          ∀ d, (buildDatabase c).result = .ok d →
            ∃ statements types requested tried,
              Sql.create d = .ok statements ∧
                Interface.typesText d.tables = .ok types ∧
                Requested a c requested ∧
                GoesThrough
                  (Step.trial s
                    (Sql.joinStatements Sql.standardSeparator statements) types
                    c.database)
                  disk requested tried (performed s disk a)
                  (run s disk words) ∧
                HandOnly (Sql.joinStatements Sql.standardSeparator statements)
                  tried := by
  have asked := lookup_overriding a
  refine ⟨?_, ?_⟩
  · intro failure failed
    exact givesUp_of_does parsed (does_generate_of_load_error failed)
  · intro c loaded
    refine ⟨?_, ?_, ?_⟩
    · exact outputsChosen_of_load asked.1 asked.2 loaded
    · intro failure failed
      exact givesUp_of_does parsed (does_generate_of_build_error loaded failed)
    · intro d built
      have writable := writable_of_load loaded built
      obtain ⟨statements, created⟩ := writable.statements
      obtain ⟨types, typed⟩ := writable.types
      obtain ⟨tried, goesThrough, handOnly⟩ :=
        exists_goesThrough parsed loaded built created typed
      exact ⟨statements, types, steps a c, tried, created, typed,
        requested_steps a c, goesThrough, handOnly⟩

/-- Surroundings in which files can be written and no call fails. -/
def calmSurroundings : Surroundings where
  write := writeFile
  database := fun _ => none
  isTerminal := false

/-- A command line that asks for a script and for its execution. -/
def itemWords : List String :=
  ["-c", "schema.yaml", "-o", "item.sql", "--execute"]

def itemArguments : Arguments where
  config := "schema.yaml"
  sqlOutput := some "item.sql"
  typesOutput := none
  print := false
  execute := true
  verbose := false
  noColor := false

/-- A disk with a configuration that asks for interfaces and has no settings
for a connection. -/
def itemDisk : Disk where
  working := ⟨"/", []⟩
  entries :=
    let text :=
      "types_output: item.ts\n" ++
        "tables:\n" ++
        "  - name: item\n" ++
        "    columns:\n" ++
        "      - \x7bname: id, type: primary_key\x7d\n"
    [(⟨"/", ["schema.yaml"]⟩, .file text.toUTF8.data.toList)]

def itemConfiguration : Configuration where
  dialect := .standard
  sqlOutput := some "/item.sql"
  typesOutput := some "/item.ts"
  database := none
  tables :=
    [{ name := "item"
       schema := none
       columns :=
         [{ name := "id"
            kind := .primaryKey
            required := true
            unique := false
            default := none
            check := none }]
       unique := [] }]

theorem item_loaded :
    (load itemDisk "schema.yaml" itemArguments.attributes).result =
      .ok itemConfiguration := by
  decide +kernel

/-- The script and the interfaces are written, and the execution is refused. -/
theorem item_goes_through :
    parse itemWords = .ok (.arguments itemArguments) ∧
      (load itemDisk "schema.yaml" itemArguments.attributes).result =
        .ok itemConfiguration ∧
      (run calmSurroundings itemDisk itemWords).exit = 1 ∧
      ∃ d statements types requested tried,
        (buildDatabase itemConfiguration).result = .ok d ∧
          Sql.create d = .ok statements ∧
          Requested itemArguments itemConfiguration requested ∧
          GoesThrough
            (Step.trial calmSurroundings
              (Sql.joinStatements Sql.standardSeparator statements) types none)
            itemDisk requested tried
            (performed calmSurroundings itemDisk itemArguments)
            (run calmSurroundings itemDisk itemWords) ∧
          HandOnly (Sql.joinStatements Sql.standardSeparator statements)
            tried := by
  have parsed : parse itemWords = .ok (.arguments itemArguments) := by
    decide +kernel
  have exit : (run calmSurroundings itemDisk itemWords).exit = 1 := by
    decide +kernel
  have isBuilt : (buildDatabase itemConfiguration).result.isOk = true := by
    decide +kernel
  obtain ⟨_, goes⟩ := run_goes_through parsed calmSurroundings itemDisk
  obtain ⟨_, _, goes⟩ := goes itemConfiguration item_loaded
  cases built : (buildDatabase itemConfiguration).result with
  | error failure =>
      rw [built] at isBuilt
      cases isBuilt
  | ok d =>
      obtain ⟨statements, types, requested, tried, created, _, asked, through,
        handOnly⟩ := goes d built
      exact ⟨parsed, item_loaded, exit, d, statements, types, requested, tried,
        rfl, created, asked, through, handOnly⟩

end Tablesmith.Command

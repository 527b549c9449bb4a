import Tablesmith.Proofs.Command.Actions
import Tablesmith.Proofs.Disk.Resolving
import Tablesmith.Proofs.Interface.Agreement
import Tablesmith.Proofs.Sql.Boundaries

/-!
# The files that a successful program leaves

A program that ends with success has written every file that was asked for.
The interfaces are written last, so their file holds them.  The file of the
script still holds the script exactly if the interfaces went to another file:
for full paths, if the two output paths differ.
-/

namespace Tablesmith.Command

open Tablesmith.Config Tablesmith.Disk Tablesmith.Schema Tablesmith.Text

/-! ## Two texts that differ -/

theorem head?_append {text : String} {c : Char}
    (begins : text.toList.head? = some c) (more : String) :
    (text ++ more).toList.head? = some c := by
  rw [String.toList_append, List.head?_append, begins, Option.some_or]

/-- A script begins with a statement that drops something. -/
theorem head?_joinStatements
    {d : Database} (filled : d.tables ≠ []) {statements : List String}
    (created : Sql.create d = .ok statements) (separator : String) :
    (Sql.joinStatements separator statements).toList.head? = some 'D' := by
  obtain ⟨plan, planned, same⟩ := Sql.map_eq_ok_iff.mp created
  obtain ⟨dropped, drops, rest⟩ := Sql.bind_eq_ok_iff.mp planned
  obtain ⟨built, _, rest⟩ := Sql.bind_eq_ok_iff.mp rest
  obtain ⟨linked, _, rest⟩ := Sql.bind_eq_ok_iff.mp rest
  cases rest
  have dropsFirst :
      ∃ first later,
        d.schemas.flatMap Sql.rebuildSchema ++ dropped ++ built.flatten ++
            linked.flatten =
          first :: later ∧
        first.text.toList.head? = some 'D' := by
    cases schemas : d.schemas with
    | cons schema others =>
        exact ⟨.dropSchema schema, _, rfl,
          head?_append (head?_append (by decide) schema) " CASCADE"⟩
    | nil =>
        cases tables : d.tables with
        | nil => exact absurd tables filled
        | cons t others =>
            rw [tables, List.mapM_cons] at drops
            obtain ⟨first, dropsTable, more⟩ := Sql.bind_eq_ok_iff.mp drops
            obtain ⟨later, _, whole⟩ := Sql.bind_eq_ok_iff.mp more
            cases whole
            obtain ⟨name, _, isDrop⟩ := Sql.map_eq_ok_iff.mp dropsTable
            subst isDrop
            exact ⟨.dropTable name, _, rfl,
              head?_append (head?_append (by decide) name) " CASCADE"⟩
  obtain ⟨first, later, shape, begins⟩ := dropsFirst
  rw [← same, shape, List.map_cons, Sql.joinStatements_cons]
  exact head?_append (head?_append begins separator) _

theorem head?_dropBlankEnd {cs : List Char} {c : Char}
    (notBlank : isBlank c = false) (begins : cs.head? = some c) :
    (dropBlankEnd cs).head? = some c := by
  obtain ⟨rest, rfl⟩ := List.head?_eq_some_iff.mp begins
  have kept :
      dropBlankEnd ([] ++ [c] ++ rest) = [] ++ [c] ++ dropBlankEnd rest :=
    Interface.dropBlankEnd_append notBlank rest
  exact congrArg List.head? kept

/-- The first character of a text stays, if it is neither blank nor a tab. -/
theorem head?_tabsToSpaces {text : String} {c : Char}
    (notBlank : isBlank c = false) (notTab : c ≠ '\t') (notNewline : c ≠ '\n')
    (begins : text.toList.head? = some c) (width : Int) :
    (Interface.tabsToSpaces width text).toList.head? = some c := by
  obtain ⟨rest, shape⟩ := List.head?_eq_some_iff.mp begins
  have firstLine :
      ∃ line more,
        Interface.splitLines text.toList = (c :: line) :: more := by
    rw [shape, Interface.splitLines, if_neg notNewline]
    cases Interface.splitLines rest with
    | nil => exact ⟨[], [], rfl⟩
    | cons line more => exact ⟨line, more, rfl⟩
  obtain ⟨line, more, lines⟩ := firstLine
  have expanded :
      (Interface.expandTabs width (c :: line)).head? = some c := by
    simp [Interface.expandTabs, notTab]
  obtain ⟨later, trimmed⟩ :=
    List.head?_eq_some_iff.mp (head?_dropBlankEnd notBlank expanded)
  unfold Interface.tabsToSpaces
  rw [String.toList_ofList, lines, List.map_cons, trimmed]
  cases more with
  | nil => simp [List.intercalate]
  | cons next others => simp [List.intercalate]

/-- The interfaces of tables begin with the comment on the first of them. -/
theorem head?_typesText
    {tables : List Table} (filled : tables ≠ []) {types : String}
    (typed : Interface.typesText tables = .ok types) :
    types.toList.head? = some '/' := by
  obtain ⟨declarations, declared, same⟩ := Sql.bind_eq_ok_iff.mp typed
  cases same
  apply head?_tabsToSpaces (by decide) (by decide) (by decide)
  cases tables with
  | nil => exact absurd rfl filled
  | cons t others =>
      rw [List.mapM_cons] at declared
      obtain ⟨first, isFirst, rest⟩ := Sql.bind_eq_ok_iff.mp declared
      obtain ⟨later, _, whole⟩ := Sql.bind_eq_ok_iff.mp rest
      cases whole
      obtain ⟨_, _, rest⟩ := Sql.bind_eq_ok_iff.mp isFirst
      obtain ⟨text, rendered, trimmed⟩ := Sql.bind_eq_ok_iff.mp rest
      cases trimmed
      obtain ⟨name, entries, _, _, shape, _⟩ :=
        Interface.interfaceOf_eq_ok rendered
      have begins : text.toList.head? = some '/' := by
        rw [shape]
        unfold Interface.interfaceText
        simp only [String.append_assoc]
        exact head?_append (by decide) _
      have unindented : dropBlankStart text.toList = text.toList := by
        obtain ⟨rest, chars⟩ := List.head?_eq_some_iff.mp begins
        unfold dropBlankStart
        rw [chars, List.dropWhile_cons_of_neg (by decide)]
      have kept : (trim text).toList.head? = some '/' := by
        unfold trim
        rw [String.toList_ofList, unindented]
        exact head?_dropBlankEnd (by decide) begins
      rw [Interface.intercalate_cons]
      exact head?_append kept _

theorem contentOf_injective : Function.Injective contentOf := by
  intro text other same
  have sameBytes : text.toUTF8 = other.toUTF8 :=
    ByteArray.ext (Array.toList_inj.mp same)
  exact String.toByteArray_inj.mp sameBytes

/-! ## The disks in between -/

/-- The disk that steps leave, each carried out on the one that the step before
it left. -/
def diskAfter (trial : Disk → Step → Trial) (before : Disk)
    (carriedOut : List Step) : Disk :=
  carriedOut.foldl (fun d step => (trial d step).after) before

/-- If all that was tried was carried out, then every step was done on the disk
that those before it left. -/
theorem Follows.allDone
    {trial : Disk → Step → Trial} {before : Disk} {requested : List Step}
    {tried : List Trial} (follows : Follows trial before requested tried)
    (allDone : ∀ t ∈ tried, t.isDone = true) :
    lastDisk before tried = diskAfter trial before requested ∧
      ∀ first step later, requested = first ++ step :: later →
        (trial (diskAfter trial before first) step).isDone = true := by
  induction follows with
  | finished =>
      refine ⟨rfl, ?_⟩
      intro first step later impossible
      simp at impossible
  | stopped notDone =>
      have isDone := allDone _ (List.mem_singleton.mpr rfl)
      rw [notDone] at isDone
      cases isDone
  | @next before step rest tried isDone _ inductionHypothesis =>
      obtain ⟨last, each⟩ :=
        inductionHypothesis fun t member =>
          allDone t (List.mem_cons_of_mem _ member)
      refine ⟨last, ?_⟩
      intro first other later split
      cases first with
      | nil =>
          cases split
          exact isDone
      | cons head tail =>
          cases split
          exact each tail other later rfl

/-- What reports success has been written. -/
def Surroundings.WritesTruly (s : Surroundings) : Prop :=
  ∀ d p text after, s.write d p text = (after, .ok ()) →
    d.write p text = .ok after

theorem calmSurroundings_writesTruly : calmSurroundings.WritesTruly := by
  intro d p text after wrote
  change writeFile d p text = (after, .ok ()) at wrote
  unfold writeFile at wrote
  cases result : d.write p text with
  | error fault =>
      rw [result] at wrote
      cases wrote
  | ok written =>
      rw [result] at wrote
      cases wrote
      rfl

section Written

variable {s : Surroundings} {script types : String}
variable {settings : Option DatabaseSettings} {before : Disk} {output : String}

theorem write_of_isOk (truly : s.WritesTruly) {p : Path} {text : String}
    (isDone : (s.write before p text).2.isOk = true) :
    before.write p text = .ok (s.write before p text).1 := by
  apply truly
  cases wrote : s.write before p text with
  | mk after result =>
      cases result with
      | ok => rfl
      | error failure =>
          rw [wrote] at isDone
          cases isDone

theorem after_execute :
    (Step.trial s script types settings before .execute).after = before := by
  cases settings with
  | none => rfl
  | some given => rfl

/-- What is on the disk after the steps that are asked for: first the script is
written, then the interfaces. -/
theorem exists_written
    (truly : s.WritesTruly) (a : Arguments) (c : Configuration)
    (each : ∀ first step later, steps a c = first ++ step :: later →
      (Step.trial s script types settings
        (diskAfter (Step.trial s script types settings) before first)
        step).isDone = true) :
    ∃ between,
      (∀ path, givenPath c.sqlOutput = some path →
        before.write (.ofString path) script = .ok between) ∧
      (givenPath c.typesOutput = none →
        diskAfter (Step.trial s script types settings) before (steps a c) =
          between) ∧
      ∀ path, givenPath c.typesOutput = some path →
        between.write (.ofString path) types =
          .ok (diskAfter (Step.trial s script types settings) before
            (steps a c)) := by
  let trial := Step.trial s script types settings
  let scriptSteps := ((givenPath c.sqlOutput).map Step.writeScript).toList
  let printSteps := if printsScript a c then [Step.printScript] else []
  let typesSteps := ((givenPath c.typesOutput).map Step.writeTypes).toList
  let lastSteps := if a.execute then [Step.execute] else []
  have whole :
      steps a c = scriptSteps ++ (printSteps ++ (typesSteps ++ lastSteps)) := by
    simp [steps, scriptSteps, printSteps, typesSteps, lastSteps]
  have afterPrint (d : Disk) : diskAfter trial d printSteps = d := by
    unfold printSteps
    split <;> rfl
  have afterLast (d : Disk) : diskAfter trial d lastSteps = d := by
    unfold lastSteps
    split
    · exact after_execute
    · rfl
  have afterAll :
      diskAfter trial before (steps a c) =
        diskAfter trial (diskAfter trial before scriptSteps) typesSteps := by
    rw [whole]
    unfold diskAfter at afterPrint afterLast ⊢
    rw [List.foldl_append, List.foldl_append, List.foldl_append, afterPrint,
      afterLast]
  refine ⟨diskAfter trial before scriptSteps, ?_, ?_, ?_⟩
  · intro path isGiven
    have single : scriptSteps = [.writeScript path] := by
      simp [scriptSteps, isGiven]
    have isDone :=
      each [] (.writeScript path) (printSteps ++ (typesSteps ++ lastSteps))
        (by rw [whole, single]; rfl)
    rw [single]
    exact write_of_isOk truly isDone
  · intro notGiven
    have none : typesSteps = [] := by
      simp [typesSteps, notGiven]
    rw [afterAll, none]
    rfl
  · intro path isGiven
    have single : typesSteps = [.writeTypes path] := by
      simp [typesSteps, isGiven]
    have isDone :=
      each (scriptSteps ++ printSteps) (.writeTypes path) lastSteps
        (by rw [whole, single]; simp)
    have reached :
        diskAfter trial before (scriptSteps ++ printSteps) =
          diskAfter trial before scriptSteps := by
      unfold diskAfter at afterPrint ⊢
      rw [List.foldl_append, afterPrint]
    change (trial (diskAfter trial before (scriptSteps ++ printSteps))
      (.writeTypes path)).isDone = true at isDone
    rw [reached] at isDone
    rw [afterAll, single]
    exact write_of_isOk truly isDone

end Written

/-! ## What success means -/

/-- The files that a successful program leaves.  The interfaces are in their
file.  The script is in its file exactly if the interfaces are not in the same
one, and that can only be if the two output paths are the same. -/
structure LeavesOutputs
    (working : Path) (after : Disk) (c : Configuration)
    (script types : String) :
    Prop where
  types :
    ∀ path, c.typesOutput = some path → path ≠ "" →
      after.Holds (.ofString path) types
  script :
    ∀ path, c.sqlOutput = some path → path ≠ "" →
      (after.Holds (.ofString path) script ↔
        ∀ other, c.typesOutput = some other → other ≠ "" →
          ¬ after.SameFile (.ofString path) (.ofString other))
  sameFile :
    working.IsFull →
      ∀ path other, c.sqlOutput = some path → path ≠ "" →
        c.typesOutput = some other → other ≠ "" →
          (after.SameFile (.ofString path) (.ofString other) ↔ path = other)

/-- An output path of a loaded configuration is the text of a full path. -/
theorem isFull_of_outputChosen
    {working : Path} (full : working.IsFull)
    {entries : List (Value × Value)} {key : String}
    {asked output : Option String}
    (chosen : OutputChosen working entries key asked output)
    {path : String} (isGiven : output = some path) (notEmpty : path ≠ "") :
    (Path.ofString path).IsFull ∧ (Path.ofString path).text = path := by
  have located : ∃ text, path = fromRoot working text := by
    cases asked with
    | some text =>
        rw [chosen.ofCaller text rfl] at isGiven
        exact ⟨text, (Option.some.inj isGiven).symm⟩
    | none =>
        obtain ⟨given, _, same⟩ := chosen.ofFile rfl
        rw [same] at isGiven
        obtain ⟨text, _, isPath⟩ := Option.map_eq_some_iff.mp isGiven
        exact ⟨text, isPath.symm⟩
  obtain ⟨text, rfl⟩ := located
  unfold fromRoot at notEmpty ⊢
  by_cases isEmpty : text.isEmpty = true
  · rw [if_pos isEmpty] at notEmpty
    exact absurd (String.isEmpty_iff.mp isEmpty) notEmpty
  · rw [if_neg isEmpty]
    have resolved := Path.isFull_resolve full text
    rw [Path.ofString_text resolved]
    exact ⟨resolved, rfl⟩

/-- Writing the interfaces after the script loses the script exactly if both
go to the same file. -/
theorem holds_script_iff
    {before between after : Disk} {p q : Path} {script types : String}
    (different : script ≠ types)
    (wroteScript : before.write p script = .ok between)
    (wroteTypes : between.write q types = .ok after) :
    after.Holds p script ↔ ¬ after.SameFile p q := by
  have typesThere := holds_write wroteTypes
  constructor
  · intro scriptThere same
    have read : after.read? p = after.read? q := same.read?_eq
    rw [scriptThere, typesThere] at read
    exact different (contentOf_injective (Option.some.inj read))
  · intro apart
    exact read?_write_of_other wroteTypes apart (holds_write wroteScript)

theorem exists_read?_script
    {before between after : Disk} {p q : Path} {script types : String}
    (wroteScript : before.write p script = .ok between)
    (wroteTypes : between.write q types = .ok after) :
    ∃ content, after.read? p = some content := by
  by_cases same : after.SameFile p q
  · exact ⟨_, same.read?_eq.trans (holds_write wroteTypes)⟩
  · exact ⟨_, read?_write_of_other wroteTypes same (holds_write wroteScript)⟩

/-- What an accepted configuration declares is not empty. -/
theorem tables_ne_nil_of_load
    {disk : Disk} {path : String} {attributes : Attributes} {c : Configuration}
    (loaded : (load disk path attributes).result = .ok c)
    {d : Database} (built : (buildDatabase c).result = .ok d) :
    d.tables ≠ [] := by
  have course := load_course disk path attributes
  rw [loaded] at course
  cases course with
  | @loaded text entries valid _ _ accepted _ =>
      have isAccepted := (checkConfiguration_ok accepted).1
      have located : (valid.located disk.working).Accepted :=
        ⟨isAccepted.filled, isAccepted.tables⟩
      obtain ⟨_, rfl⟩ := (buildDatabase_eq_ok_iff located).mp built
      intro empty
      apply located.filled
      rw [← map_snd_numbered (valid.located disk.working).tables,
        List.map_eq_nil_iff.mp empty]
      rfl

section Success

variable {s : Surroundings} {disk : Disk} {words : List String}
variable {a : Arguments} {c : Configuration} {d : Database}
variable {statements : List String} {types : String}

/-- What is written by a program that ends with success: first the script, then
the interfaces. -/
theorem exists_written_of_succeeded
    (parsed : parse words = .ok (.arguments a)) (truly : s.WritesTruly)
    (loaded : (load disk a.config a.attributes).result = .ok c)
    (built : (buildDatabase c).result = .ok d)
    (created : Sql.create d = .ok statements)
    (typed : Interface.typesText d.tables = .ok types)
    (succeeded : (run s disk words).exit = 0) :
    ∃ between,
      (∀ path, givenPath c.sqlOutput = some path →
        disk.write (.ofString path)
            (Sql.joinStatements Sql.standardSeparator statements) =
          .ok between) ∧
      (givenPath c.typesOutput = none → (run s disk words).disk = between) ∧
      ∀ path, givenPath c.typesOutput = some path →
        between.write (.ofString path) types = .ok (run s disk words).disk := by
  obtain ⟨tried, through, _⟩ :=
    exists_goesThrough (s := s) parsed loaded built created typed
  obtain ⟨last, each⟩ :=
    through.follows.allDone (through.succeeds.mp succeeded).2
  rw [through.lastDisk, last]
  exact exists_written truly a c each

theorem leavesOutputs_of_succeeded
    (parsed : parse words = .ok (.arguments a)) (truly : s.WritesTruly)
    (loaded : (load disk a.config a.attributes).result = .ok c)
    (built : (buildDatabase c).result = .ok d)
    (created : Sql.create d = .ok statements)
    (typed : Interface.typesText d.tables = .ok types)
    (succeeded : (run s disk words).exit = 0) :
    LeavesOutputs disk.working (run s disk words).disk c
      (Sql.joinStatements Sql.standardSeparator statements) types := by
  obtain ⟨between, wroteScript, noTypes, wroteTypes⟩ :=
    exists_written_of_succeeded parsed truly loaded built created typed
      succeeded
  have filled := tables_ne_nil_of_load loaded built
  have different :
      Sql.joinStatements Sql.standardSeparator statements ≠ types := by
    intro same
    have begins := head?_joinStatements filled created Sql.standardSeparator
    rw [same, head?_typesText filled typed] at begins
    exact absurd begins (by decide)
  refine ⟨?_, ?_, ?_⟩
  · intro path isSet notEmpty
    exact holds_write
      (wroteTypes path (givenPath_eq_some_iff.mpr ⟨isSet, notEmpty⟩))
  · intro path isSet notEmpty
    have wrote :=
      wroteScript path (givenPath_eq_some_iff.mpr ⟨isSet, notEmpty⟩)
    cases isGiven : givenPath c.typesOutput with
    | none =>
        rw [noTypes isGiven]
        refine iff_of_true (holds_write wrote) ?_
        intro other otherSet otherFilled
        rw [givenPath_eq_some_iff.mpr ⟨otherSet, otherFilled⟩] at isGiven
        cases isGiven
    | some other =>
        obtain ⟨otherSet, otherFilled⟩ := givenPath_eq_some_iff.mp isGiven
        rw [holds_script_iff different wrote (wroteTypes other isGiven)]
        constructor
        · intro apart another anotherSet _
          rw [otherSet] at anotherSet
          cases anotherSet
          exact apart
        · intro apart
          exact apart other otherSet otherFilled
  · intro full path other isSet notEmpty otherSet otherFilled
    obtain ⟨entries, _, sqlChosen, typesChosen⟩ :=
      outputsChosen_of_load (lookup_overriding a).1 (lookup_overriding a).2
        loaded
    obtain ⟨content, isThere⟩ :=
      exists_read?_script
        (wroteScript path (givenPath_eq_some_iff.mpr ⟨isSet, notEmpty⟩))
        (wroteTypes other
          (givenPath_eq_some_iff.mpr ⟨otherSet, otherFilled⟩))
    obtain ⟨first, firstText⟩ :=
      isFull_of_outputChosen full sqlChosen isSet notEmpty
    obtain ⟨second, secondText⟩ :=
      isFull_of_outputChosen full typesChosen otherSet otherFilled
    rw [sameFile_iff_eq first second isThere]
    constructor
    · intro same
      rw [← firstText, ← secondText, same]
    · exact congrArg Path.ofString

/-- A program that ends with success leaves the files that were asked for; only
a script whose file is also that of the interfaces is lost. -/
theorem run_leaves_outputs
    (parsed : parse words = .ok (.arguments a)) (truly : s.WritesTruly)
    (succeeded : (run s disk words).exit = 0) :
    ∃ entries c d statements types,
      readEntries disk a.config = .ok entries ∧
        OutputChosen disk.working entries "sql_output" a.sqlOutput
          c.sqlOutput ∧
        OutputChosen disk.working entries "types_output" a.typesOutput
          c.typesOutput ∧
        (load disk a.config a.attributes).result = .ok c ∧
        (buildDatabase c).result = .ok d ∧
        Sql.create d = .ok statements ∧
        Interface.typesText d.tables = .ok types ∧
        LeavesOutputs disk.working (run s disk words).disk c
          (Sql.joinStatements Sql.standardSeparator statements) types := by
  cases loaded : (load disk a.config a.attributes).result with
  | error failure =>
      have failed :=
        givesUp_of_does (s := s) parsed (does_generate_of_load_error loaded)
      rw [failed.exit] at succeeded
      cases succeeded
  | ok c =>
    cases built : (buildDatabase c).result with
    | error failure =>
        have failed :=
          givesUp_of_does (s := s) parsed
            (does_generate_of_build_error loaded built)
        rw [failed.exit] at succeeded
        cases succeeded
    | ok d =>
        have writable := writable_of_load loaded built
        obtain ⟨statements, created⟩ := writable.statements
        obtain ⟨types, typed⟩ := writable.types
        obtain ⟨entries, isRead, sqlChosen, typesChosen⟩ :=
          outputsChosen_of_load (lookup_overriding a).1 (lookup_overriding a).2
            loaded
        exact ⟨entries, c, d, statements, types, isRead, sqlChosen,
          typesChosen, rfl, built, created, typed,
          leavesOutputs_of_succeeded parsed truly loaded built created typed
            succeeded⟩

end Success

/-- Words that ask for a script, to be run where the configuration asks for
interfaces in item.ts. -/
def scriptWords (output : String) : List String :=
  ["-c", "schema.yaml", "-o", output]

def scriptArguments (output : String) : Arguments :=
  { itemArguments with sqlOutput := some output, execute := false }

theorem item_leaves_outputs :
    parse (scriptWords "item.sql") =
        .ok (.arguments (scriptArguments "item.sql")) ∧
      (run calmSurroundings itemDisk (scriptWords "item.sql")).exit = 0 ∧
      ∃ c statements types,
        LeavesOutputs itemDisk.working
          (run calmSurroundings itemDisk (scriptWords "item.sql")).disk c
          (Sql.joinStatements Sql.standardSeparator statements) types := by
  have parsed :
      parse (scriptWords "item.sql") =
        .ok (.arguments (scriptArguments "item.sql")) := by
    decide +kernel
  have succeeded :
      (run calmSurroundings itemDisk (scriptWords "item.sql")).exit = 0 := by
    decide +kernel
  obtain ⟨_, c, _, statements, types, _, _, _, _, _, _, _, leaves⟩ :=
    run_leaves_outputs parsed calmSurroundings_writesTruly succeeded
  exact ⟨parsed, succeeded, c, statements, types, leaves⟩

/-- If the interfaces go to the file of the script, the program ends with
success and the script is lost. -/
theorem shared_output_loses_script :
    let outcome := run calmSurroundings itemDisk (scriptWords "item.ts")
    let c := { itemConfiguration with sqlOutput := some "/item.ts" }
    outcome.exit = 0 ∧
      (load itemDisk "schema.yaml"
        (scriptArguments "item.ts").attributes).result = .ok c ∧
      ∃ d statements types,
        (buildDatabase c).result = .ok d ∧
          Sql.create d = .ok statements ∧
          Interface.typesText d.tables = .ok types ∧
          outcome.disk.Holds (.ofString "/item.ts") types ∧
          ¬ outcome.disk.Holds (.ofString "/item.ts")
            (Sql.joinStatements Sql.standardSeparator statements) := by
  intro outcome c
  have parsed :
      parse (scriptWords "item.ts") =
        .ok (.arguments (scriptArguments "item.ts")) := by
    decide +kernel
  have succeeded : outcome.exit = 0 := by
    decide +kernel
  have loaded :
      (load itemDisk "schema.yaml"
        (scriptArguments "item.ts").attributes).result = .ok c := by
    decide +kernel
  have isBuilt : (buildDatabase c).result.isOk = true := by
    decide +kernel
  refine ⟨succeeded, loaded, ?_⟩
  cases built : (buildDatabase c).result with
  | error failure =>
      rw [built] at isBuilt
      cases isBuilt
  | ok d =>
      have loadedHere :
          (load itemDisk (scriptArguments "item.ts").config
            (scriptArguments "item.ts").attributes).result = .ok c :=
        loaded
      have writable := writable_of_load loadedHere built
      obtain ⟨statements, created⟩ := writable.statements
      obtain ⟨types, typed⟩ := writable.types
      have leaves :=
        leavesOutputs_of_succeeded parsed calmSurroundings_writesTruly loaded
          built created typed succeeded
      have typesThere := leaves.types "/item.ts" rfl (by decide)
      have lost := leaves.script "/item.ts" rfl (by decide)
      refine ⟨d, statements, types, rfl, created, typed, typesThere, ?_⟩
      intro scriptThere
      obtain ⟨place, walked⟩ := read?_eq_some_iff.mp typesThere
      exact lost.mp scriptThere "/item.ts" rfl (by decide)
        ⟨place, _, walked, walked⟩

end Tablesmith.Command

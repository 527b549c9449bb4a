import Tablesmith.Config.Load
import Tablesmith.Proofs.Config.Acceptance
import Tablesmith.Proofs.Yaml.Making
import Tablesmith.Proofs.Yaml.Sources

/-!
# Reading configuration files

A configuration file is opened, decoded and read as YAML at the same time, put
together with what the caller asks for, checked, and its output paths are
resolved.  Most of what can be wrong with it is reported with the file.  Four
faults are not: a file that the system refuses to open, bytes that are no text,
a YAML scalar without a value, and an output path that is no path.  Bytes that
are no text do not count if the text before them is malformed: the file is not
read that far.
-/

namespace Tablesmith

/-- A failure is reported as one of the configuration in a file, and the report
carries the file.  An empty path is not carried. -/
def Failure.Reports (path : String) (failure : Failure) : Prop :=
  ∃ r, failure = .report r ∧ r.category = .configuration ∧
    (path ≠ "" → ("config_file", .text path) ∈ r.context)

theorem Failure.Reports.isReport {path : String} {failure : Failure}
    (reports : failure.Reports path) :
    failure.isReport = true := by
  obtain ⟨r, rfl, _⟩ := reports
  rfl

end Tablesmith

namespace Tablesmith.Config

open Tablesmith.Disk Tablesmith.Log

/-- An output path can be resolved: no character of it is NUL. -/
def CanBeLocated (output : Option String) : Prop :=
  ∀ text, output = some text → ∀ c ∈ text.toList, c.toNat ≠ 0

/-- A path from the root.  An empty path stays as it is. -/
def fromRoot (working : Path) (text : String) : String :=
  if text.isEmpty then text else (Path.resolve working (.ofString text)).text

/-- The configuration with its output paths from the root. -/
def Configuration.located (c : Configuration) (working : Path) :
    Configuration :=
  { c with
    sqlOutput := c.sqlOutput.map (fromRoot working)
    typesOutput := c.typesOutput.map (fromRoot working) }

theorem canBeLocated_none : CanBeLocated none := by
  intro text given
  cases given

theorem canBeLocated_some {text : String} :
    CanBeLocated (some text) ↔ ∀ c ∈ text.toList, c.toNat ≠ 0 := by
  constructor
  · intro located
    exact located text rfl
  · intro noNul other given
    cases given
    exact noNul

theorem resolvedOutput_of_canBeLocated
    {output : Option String} (located : CanBeLocated output)
    (working : Path) :
    resolvedOutput working output = .ok (output.map (fromRoot working)) := by
  cases output with
  | none => rfl
  | some text =>
      have noNul :
          (text.toList.any fun c => decide (c.toNat = 0)) = false := by
        rw [List.any_eq_false]
        intro c member
        simpa using located text rfl c member
      by_cases empty : text.isEmpty = true
      · simp [resolvedOutput, fromRoot, empty]
      · simp only [resolvedOutput, fromRoot, Option.map_some, if_neg empty,
          noNul, Bool.false_eq_true, if_false]

theorem resolvedOutput_of_not_canBeLocated
    {output : Option String} (notLocated : ¬ CanBeLocated output)
    (working : Path) :
    resolvedOutput working output = .error (.range .nulInPath) := by
  cases output with
  | none => exact absurd canBeLocated_none notLocated
  | some text =>
      rw [canBeLocated_some] at notLocated
      push Not at notLocated
      obtain ⟨c, member, isNul⟩ := notLocated
      have hasNul :
          (text.toList.any fun c => decide (c.toNat = 0)) = true :=
        List.any_eq_true.mpr ⟨c, member, decide_eq_true isNul⟩
      have notEmpty : ¬ text.isEmpty = true := by
        intro empty
        rw [String.isEmpty_iff] at empty
        subst empty
        simp at member
      simp only [resolvedOutput, if_neg notEmpty, if_pos hasNul]

section Outputs

variable {c : Configuration} {working : Path}

theorem resolveOutputs_of_canBeLocated
    (sql : CanBeLocated c.sqlOutput) (types : CanBeLocated c.typesOutput) :
    resolveOutputs working c = .ok (c.located working) := by
  unfold resolveOutputs
  rw [resolvedOutput_of_canBeLocated sql, resolvedOutput_of_canBeLocated types]
  rfl

theorem resolveOutputs_of_not_canBeLocated
    (notLocated : ¬ (CanBeLocated c.sqlOutput ∧ CanBeLocated c.typesOutput)) :
    resolveOutputs working c = .error (.range .nulInPath) := by
  unfold resolveOutputs
  by_cases sql : CanBeLocated c.sqlOutput
  · have types : ¬ CanBeLocated c.typesOutput :=
      fun types => notLocated ⟨sql, types⟩
    rw [resolvedOutput_of_canBeLocated sql,
      resolvedOutput_of_not_canBeLocated types]
    rfl
  · rw [resolvedOutput_of_not_canBeLocated sql]
    rfl

end Outputs

/-! ## How loading can go -/

/-- There is a file with the given content that can be opened. -/
def Opens (disk : Disk) (path : String) (bytes : List UInt8) : Prop :=
  disk.readFile (.ofString path) = .ok (some bytes)

/-- What is checked: the entries of a file, with what the caller asks for in
their place. -/
def givenValue (entries : List (Value × Value)) (attributes : Attributes) :
    Value :=
  .dict (override entries (overriding attributes))

/-- The ways in which loading can go, and what it comes to. -/
inductive Course (disk : Disk) (path : String) (attributes : Attributes) :
    Except Failure Configuration → Prop
  | refused {fault : DiskFault} :
      disk.readFile (.ofString path) = .error fault →
      Course disk path attributes (.error (.disk fault))
  | missing :
      disk.readFile (.ofString path) = .ok none →
      Course disk path attributes (.error (.report (fileMissing path)))
  | undecoded {bytes : List UInt8} {fault : Text.Utf8Fault} :
      Opens disk path bytes →
      Yaml.read (.ofBytes bytes) = .error (.undecoded fault) →
      Course disk path attributes (.error (.encoding fault))
  | malformed {bytes : List UInt8} :
      Opens disk path bytes →
      Yaml.read (.ofBytes bytes) = .error .malformed →
      Course disk path attributes (.error (.report (fileMalformed path)))
  | unmade {bytes : List UInt8} {failure : Failure} :
      Opens disk path bytes →
      Yaml.read (.ofBytes bytes) = .error (.scalar failure) →
      Course disk path attributes (.error failure)
  | noDictionary {bytes : List UInt8} {v : Value} :
      Opens disk path bytes →
      Yaml.read (.ofBytes bytes) = .ok v →
      (∀ entries, v ≠ .dict entries) →
      Course disk path attributes (.error (.report (fileNoDictionary path)))
  | rejected {bytes : List UInt8} {entries : List (Value × Value)}
      {faults : List Fault} :
      Opens disk path bytes →
      Yaml.read (.ofBytes bytes) = .ok (.dict entries) →
      checkConfiguration (givenValue entries attributes) = .error faults →
      Course disk path attributes
        (.error (.report (faultReport faults (.text path))))
  | notLocated {bytes : List UInt8} {entries : List (Value × Value)}
      {valid : Configuration} :
      Opens disk path bytes →
      Yaml.read (.ofBytes bytes) = .ok (.dict entries) →
      checkConfiguration (givenValue entries attributes) = .ok valid →
      ¬ (CanBeLocated valid.sqlOutput ∧ CanBeLocated valid.typesOutput) →
      Course disk path attributes (.error (.range .nulInPath))
  | loaded {bytes : List UInt8} {entries : List (Value × Value)}
      {valid : Configuration} :
      Opens disk path bytes →
      Yaml.read (.ofBytes bytes) = .ok (.dict entries) →
      checkConfiguration (givenValue entries attributes) = .ok valid →
      CanBeLocated valid.sqlOutput ∧ CanBeLocated valid.typesOutput →
      Course disk path attributes (.ok (valid.located disk.working))

section Loading

variable {disk : Disk} {path : String} {attributes : Attributes}
variable {bytes : List UInt8}

theorem result_load :
    (load disk path attributes).result =
      (readEntries disk path).bind fun entries =>
        (validate (givenValue entries attributes) (.text path)).result.bind
          (resolveOutputs disk.working) := by
  have last (r : Except Failure Configuration) :
      (r.bind fun c => (Except.ok ()).bind fun _ => .ok c) = r := by
    cases r <;> rfl
  unfold load configure
  simp only [Logged.result_bind, Logged.result_ofResult, Logged.result_write,
    Logged.result_writeAll, Logged.result_pure, last]
  rfl

theorem result_validate (v file : Value) :
    (validate v file).result =
      (checkConfiguration v).mapError fun faults =>
        .report (faultReport faults file) := by
  unfold validate
  cases checkConfiguration v <;> rfl

theorem readEntries_of_opens (opens : Opens disk path bytes) :
    readEntries disk path =
      match Yaml.read (.ofBytes bytes) with
      | .ok (.dict entries) => .ok entries
      | .ok _ => .error (.report (fileNoDictionary path))
      | .error .malformed => .error (.report (fileMalformed path))
      | .error (.scalar failure) => .error failure
      | .error (.undecoded fault) => .error (.encoding fault) := by
  unfold readEntries readValue
  rw [opens]
  dsimp only
  cases Yaml.read (.ofBytes bytes) with
  | error fault => cases fault <;> rfl
  | ok v => cases v <;> rfl

theorem result_load_of_error {failure : Failure}
    (failed : readEntries disk path = .error failure) :
    (load disk path attributes).result = .error failure := by
  rw [result_load, failed]
  rfl

/-- Once the entries of a file are read, they are checked and the outputs are
resolved. -/
theorem result_load_of_dict {entries : List (Value × Value)}
    (opens : Opens disk path bytes)
    (isDict : Yaml.read (.ofBytes bytes) = .ok (.dict entries)) :
    (load disk path attributes).result =
      ((checkConfiguration (givenValue entries attributes)).mapError fun
        faults => .report (faultReport faults (.text path))).bind
          (resolveOutputs disk.working) := by
  have entriesRead : readEntries disk path = .ok entries := by
    rw [readEntries_of_opens opens, isDict]
  rw [result_load, entriesRead, ← result_validate]
  rfl

/-- Loading comes to what its course says. -/
theorem Course.result {r : Except Failure Configuration}
    (course : Course disk path attributes r) :
    (load disk path attributes).result = r := by
  cases course with
  | refused refuses =>
      apply result_load_of_error
      unfold readEntries
      rw [refuses]
  | missing absent =>
      apply result_load_of_error
      unfold readEntries
      rw [absent]
  | undecoded opens notText =>
      apply result_load_of_error
      rw [readEntries_of_opens opens, notText]
  | malformed opens isMalformed =>
      apply result_load_of_error
      rw [readEntries_of_opens opens, isMalformed]
  | unmade opens failed =>
      apply result_load_of_error
      rw [readEntries_of_opens opens, failed]
  | @noDictionary bytes v opens isValue noDict =>
      apply result_load_of_error
      rw [readEntries_of_opens opens, isValue]
      cases v with
      | dict entries => exact absurd rfl (noDict entries)
      | _ => rfl
  | rejected opens isDict refused =>
      rw [result_load_of_dict opens isDict, refused]
      rfl
  | notLocated opens isDict accepted notLocated =>
      rw [result_load_of_dict opens isDict, accepted]
      exact resolveOutputs_of_not_canBeLocated notLocated
  | loaded opens isDict accepted located =>
      rw [result_load_of_dict opens isDict, accepted]
      exact resolveOutputs_of_canBeLocated located.1 located.2

/-- Loading a file that can be opened goes one of the ways that are listed. -/
theorem exists_course_of_opens (opens : Opens disk path bytes)
    (attributes : Attributes) :
    ∃ r, Course disk path attributes r := by
  cases isValue : Yaml.read (.ofBytes bytes) with
  | error fault =>
      cases fault with
      | malformed => exact ⟨_, .malformed opens isValue⟩
      | scalar failure => exact ⟨_, .unmade opens isValue⟩
      | undecoded fault => exact ⟨_, .undecoded opens isValue⟩
  | ok v =>
      by_cases isDict : ∃ entries, v = .dict entries
      · obtain ⟨entries, rfl⟩ := isDict
        cases accepted : checkConfiguration (givenValue entries attributes) with
        | error faults => exact ⟨_, .rejected opens isValue accepted⟩
        | ok valid =>
            by_cases located :
                CanBeLocated valid.sqlOutput ∧ CanBeLocated valid.typesOutput
            · exact ⟨_, .loaded opens isValue accepted located⟩
            · exact ⟨_, .notLocated opens isValue accepted located⟩
      · have noDict : ∀ entries, v ≠ .dict entries :=
          fun entries same => isDict ⟨entries, same⟩
        exact ⟨_, .noDictionary opens isValue noDict⟩

theorem load_course (disk : Disk) (path : String) (attributes : Attributes) :
    Course disk path attributes (load disk path attributes).result := by
  have goes : ∃ r, Course disk path attributes r := by
    cases found : disk.readFile (.ofString path) with
    | error fault => exact ⟨_, .refused found⟩
    | ok content =>
        cases content with
        | none => exact ⟨_, .missing found⟩
        | some bytes => exact exists_course_of_opens found attributes
  obtain ⟨r, course⟩ := goes
  rw [course.result]
  exact course

end Loading

/-! ## What loading promises -/

section Promises

variable {disk : Disk} {path : String} {attributes : Attributes}
variable {bytes : List UInt8}

end Promises

end Tablesmith.Config

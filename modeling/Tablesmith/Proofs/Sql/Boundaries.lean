import Tablesmith.Proofs.Schema.Sessions
import Tablesmith.Proofs.Sql.Described
import Tablesmith.Proofs.Text.Splitting

/-!
# The boundaries of statements

A script holds its statements one after the other, each with the separator
behind it.  The standard separator begins with another character than it ends
with, so no occurrence of it straddles the end of a statement: where it is
found in a script, there a statement ends, unless it stands inside of one.
-/

namespace Tablesmith.Sql

open Tablesmith.Schema Tablesmith.Text

/-! ## Joined statements -/

theorem joinStatements_nil (separator : String) :
    joinStatements separator [] = "" := rfl

/-- Unless there is no statement, the separator stands between each two
statements and once more at the end. -/
theorem joinStatements_eq_intercalate
    (separator : String) {statements : List String}
    (filled : statements ≠ []) :
    joinStatements separator statements =
      separator.intercalate statements ++ separator := by
  unfold joinStatements
  rw [List.isEmpty_eq_false_iff.mpr filled, if_neg Bool.false_ne_true]

/-- The separator stands behind each statement. -/
theorem joinStatements_cons
    (separator statement : String) (rest : List String) :
    joinStatements separator (statement :: rest) =
      statement ++ separator ++ joinStatements separator rest := by
  rw [joinStatements_eq_intercalate separator (List.cons_ne_nil _ _)]
  cases rest with
  | nil =>
      rw [joinStatements_nil, String.append_empty,
        String.intercalate_singleton]
  | cons next more =>
      rw [joinStatements_eq_intercalate separator (List.cons_ne_nil _ _),
        String.intercalate_cons_cons, String.append_assoc,
        String.append_assoc]

theorem joinStatements_append
    (separator : String) (first last : List String) :
    joinStatements separator (first ++ last) =
      joinStatements separator first ++ joinStatements separator last := by
  induction first with
  | nil => rw [List.nil_append, joinStatements_nil, String.empty_append]
  | cons statement rest inductionHypothesis =>
      rw [List.cons_append, joinStatements_cons, joinStatements_cons,
        inductionHypothesis, ← String.append_assoc]

/-! ## Where statements end -/

/-- The standard separator stands in a statement. -/
def HoldsSeparator (statement : String) : Prop :=
  standardSeparator.toList <:+: statement.toList

instance : DecidablePred HoldsSeparator := fun statement =>
  inferInstanceAs
    (Decidable (standardSeparator.toList <:+: statement.toList))

theorem splitText_append
    {statement : String} (whole : ¬ HoldsSeparator statement) (rest : String) :
    splitText standardSeparator (statement ++ standardSeparator ++ rest) =
      statement :: splitText standardSeparator rest := by
  have separator : standardSeparator.toList = [';', '\n'] := by decide
  unfold HoldsSeparator at whole
  unfold splitText
  rw [separator] at whole
  rw [String.toList_append, String.toList_append, separator,
    partsBetween_append_pair (by decide) whole, List.map_cons,
    String.ofList_toList]

theorem splitText_joinStatements
    {statements : List String}
    (whole : ∀ statement ∈ statements, ¬ HoldsSeparator statement) :
    splitText standardSeparator (joinStatements standardSeparator statements) =
      statements ++ [""] := by
  induction statements with
  | nil =>
      unfold splitText
      rw [joinStatements_nil, String.toList_empty, partsBetween_nil]
      rfl
  | cons statement rest inductionHypothesis =>
      rw [List.forall_mem_cons] at whole
      rw [joinStatements_cons, splitText_append whole.1,
        inductionHypothesis whole.2, List.cons_append]

theorem not_holdsSeparator_of_mem_splitText
    {part text : String} (member : part ∈ splitText standardSeparator text) :
    ¬ HoldsSeparator part := by
  obtain ⟨characters, isPart, rfl⟩ := List.mem_map.mp member
  unfold HoldsSeparator
  rw [String.toList_ofList]
  exact not_isInfix_of_mem_partsBetween (by decide) isPart

/-- The parts of a script are its statements, and an empty text, exactly if no
statement holds the separator. -/
theorem splitText_joinStatements_iff (statements : List String) :
    splitText standardSeparator (joinStatements standardSeparator statements) =
        statements ++ [""] ↔
      ∀ statement ∈ statements, ¬ HoldsSeparator statement := by
  constructor
  · intro parts statement member
    have isPart : statement ∈ statements ++ [""] :=
      List.mem_append_left [""] member
    rw [← parts] at isPart
    exact not_holdsSeparator_of_mem_splitText isPart
  · exact splitText_joinStatements

theorem splitText_script_iff (d : Database) :
    (script standardSeparator d).map (splitText standardSeparator) =
        (create d).map (· ++ [""]) ↔
      ∀ statements, create d = .ok statements →
        ∀ statement ∈ statements, ¬ HoldsSeparator statement := by
  unfold script
  cases created : create d with
  | error failure => simp [Except.map]
  | ok statements =>
      simp only [Except.map, Except.ok.injEq, forall_eq']
      exact splitText_joinStatements_iff statements

/-- Scripts of consecutive statements are consecutive, and the empty script is
the empty text: the separator stands behind each statement.  The script with
the standard separator splits at it into the statements and an empty text
exactly if no statement holds the separator; so does the script of a
database, which can be written exactly if its statements can be made. -/
theorem joinStatements_keeps_boundaries :
    (∀ separator first last,
      joinStatements separator (first ++ last) =
        joinStatements separator first ++ joinStatements separator last) ∧
    (∀ separator, joinStatements separator [] = "") ∧
    (∀ separator statements, statements ≠ [] →
      joinStatements separator statements =
        separator.intercalate statements ++ separator) ∧
    (∀ statements,
      splitText standardSeparator
          (joinStatements standardSeparator statements) =
          statements ++ [""] ↔
        ∀ statement ∈ statements, ¬ HoldsSeparator statement) ∧
    ∀ d,
      (script standardSeparator d).map (splitText standardSeparator) =
          (create d).map (· ++ [""]) ↔
        ∀ statements, create d = .ok statements →
          ∀ statement ∈ statements, ¬ HoldsSeparator statement :=
  ⟨joinStatements_append, joinStatements_nil,
    fun separator _ => joinStatements_eq_intercalate separator,
    splitText_joinStatements_iff, splitText_script_iff⟩

/-- Statements that end in a semicolon, begin with a newline or are empty. -/
def remarks : List String := ["SELECT 1;", "\nSELECT 2", ""]

/-- A table whose name ends in a semicolon, with a default that begins with a
newline. -/
def remarkSession : List Step :=
  [.declare (.text "remarks;") none,
    .build 0 (.column "string" (some (.text "body"))
      [(.text "default", .text "\n';'")])]

theorem remarks_keep_boundaries :
    (∀ remark ∈ remarks, ¬ HoldsSeparator remark) ∧
      joinStatements standardSeparator remarks =
        "SELECT 1;;\n\nSELECT 2;\n;\n" ∧
      splitText standardSeparator (joinStatements standardSeparator remarks) =
        remarks ++ [""] ∧
      create (Database.empty.afterSteps remarkSession) =
        .ok ["DROP TABLE IF EXISTS remarks; CASCADE",
          "CREATE TABLE remarks;()",
          "ALTER TABLE remarks; ADD COLUMN body varchar NOT NULL DEFAULT \n';'"]
      ∧
      (script standardSeparator (Database.empty.afterSteps remarkSession)).map
          (splitText standardSeparator) =
        (create (Database.empty.afterSteps remarkSession)).map (· ++ [""]) := by
  obtain ⟨_, _, joined, split, ofDatabase⟩ := joinStatements_keeps_boundaries
  have whole : ∀ remark ∈ remarks, ¬ HoldsSeparator remark := by
    decide +kernel
  have created :
      create (Database.empty.afterSteps remarkSession) =
        .ok ["DROP TABLE IF EXISTS remarks; CASCADE",
          "CREATE TABLE remarks;()",
          "ALTER TABLE remarks; ADD COLUMN body varchar NOT NULL DEFAULT \n';'"]
      := by
    decide +kernel
  refine ⟨whole, ?_, (split remarks).mpr whole, created, ?_⟩
  · rw [joined standardSeparator remarks (by decide)]
    decide +kernel
  · apply (ofDatabase _).mpr
    intro statements isCreated
    rw [created] at isCreated
    cases isCreated
    decide +kernel

end Tablesmith.Sql

import Tablesmith.Proofs.Schema.Sessions
import Tablesmith.Sql.Plan

/-!
# What can be stated

Statements are made of a table as it stands, and making them fails when they
reach something that has no text: a name in a list that is no text, a target
that is no table, an action that is no action, a name or an expression that is
too long to write.  Each lemma says
exactly when one of the passes succeeds; together they say which databases have
a script.
-/

namespace Tablesmith.Sql

open Tablesmith.Schema

/-! ## Success -/

/-- A computation has a result. -/
def Succeeds {α : Type} (call : Except Failure α) : Prop :=
  ∃ a, call = .ok a

section Succeeds

variable {α β : Type}

@[simp]
theorem succeeds_ok (a : α) : Succeeds (.ok a) :=
  ⟨a, rfl⟩

theorem succeeds_of_isOk {call : Except Failure α} (isOk : call.isOk = true) :
    Succeeds call := by
  cases call with
  | error failure => cases isOk
  | ok a => exact ⟨a, rfl⟩

theorem succeeds_pure_iff (a : α) :
    Succeeds (pure a : Except Failure α) ↔ True :=
  iff_of_true (succeeds_ok a) trivial

@[simp]
theorem not_succeeds_error (failure : Failure) :
    ¬ Succeeds (.error failure : Except Failure α) := by
  rintro ⟨a, impossible⟩
  cases impossible

@[simp]
theorem succeeds_map_iff {call : Except Failure α} {f : α → β} :
    Succeeds (call.map f) ↔ Succeeds call := by
  cases call with
  | error failure => exact iff_of_false (not_succeeds_error _) (by simp)
  | ok a => exact iff_of_true (succeeds_ok _) (succeeds_ok _)

/-- A step whose success does not depend on the result before it. -/
theorem succeeds_bind_iff
    {call : Except Failure α} {next : α → Except Failure β} {goesOn : Prop}
    (each : ∀ a, Succeeds (next a) ↔ goesOn) :
    Succeeds (call >>= next) ↔ Succeeds call ∧ goesOn := by
  cases call with
  | error failure =>
      exact iff_of_false (not_succeeds_error _)
        fun both => not_succeeds_error _ both.1
  | ok a =>
      change Succeeds (next a) ↔ _
      rw [each a]
      simp

theorem bind_eq_ok_iff
    {call : Except Failure α} {next : α → Except Failure β} {b : β} :
    (call >>= next) = .ok b ↔ ∃ a, call = .ok a ∧ next a = .ok b := by
  cases call with
  | error failure =>
      constructor
      · intro impossible
        cases impossible
      · rintro ⟨a, impossible, _⟩
        cases impossible
  | ok a =>
      constructor
      · intro same
        exact ⟨a, rfl, same⟩
      · rintro ⟨other, isOther, same⟩
        cases isOther
        exact same

theorem map_eq_ok_iff {call : Except Failure α} {f : α → β} {b : β} :
    call.map f = .ok b ↔ ∃ a, call = .ok a ∧ f a = b := by
  cases call with
  | error failure => simp [Except.map]
  | ok a => simp [Except.map]

/-- Results can be changed one by one or all at the end. -/
theorem mapM_map_result {γ : Type}
    (call : α → Except Failure β) (f : β → γ) (xs : List α) :
    xs.mapM (fun x => (call x).map f) = (xs.mapM call).map (List.map f) := by
  induction xs with
  | nil => rfl
  | cons x rest inductionHypothesis =>
      rw [List.mapM_cons, List.mapM_cons, inductionHypothesis]
      cases call x with
      | error failure => rfl
      | ok y =>
          cases rest.mapM call with
          | error failure => rfl
          | ok ys => rfl

/-- The results of calls that all succeed stand beside their arguments. -/
theorem forall₂_of_mapM_eq_ok
    {call : α → Except Failure β} {xs : List α} {ys : List β}
    (made : xs.mapM call = .ok ys) :
    List.Forall₂ (fun x y => call x = .ok y) xs ys := by
  induction xs generalizing ys with
  | nil =>
      cases made
      exact .nil
  | cons x rest inductionHypothesis =>
      rw [List.mapM_cons, bind_eq_ok_iff] at made
      obtain ⟨y, first, others⟩ := made
      obtain ⟨zs, remaining, same⟩ := bind_eq_ok_iff.mp others
      cases same
      exact .cons first (inductionHypothesis remaining)

theorem forall_of_mapM_eq_ok
    {call : α → Except Failure β} {holds : β → Prop}
    {xs : List α} {ys : List β}
    (each : ∀ x y, call x = .ok y → holds y)
    (made : xs.mapM call = .ok ys) :
    ∀ y ∈ ys, holds y := by
  have pairs := forall₂_of_mapM_eq_ok made
  clear made
  induction pairs with
  | nil => exact List.forall_mem_nil _
  | cons head _ inductionHypothesis =>
      exact List.forall_mem_cons.mpr ⟨each _ _ head, inductionHypothesis⟩

/-- Every argument has its result among the results. -/
theorem exists_mem_of_mapM_eq_ok
    {call : α → Except Failure β} {xs : List α} {ys : List β}
    (made : xs.mapM call = .ok ys) :
    ∀ x ∈ xs, ∃ y ∈ ys, call x = .ok y := by
  have pairs := forall₂_of_mapM_eq_ok made
  clear made
  induction pairs with
  | nil => exact List.forall_mem_nil _
  | @cons x y _ _ head _ inductionHypothesis =>
      refine List.forall_mem_cons.mpr ⟨⟨y, List.mem_cons_self, head⟩, ?_⟩
      intro other member
      obtain ⟨result, isThere, same⟩ := inductionHypothesis other member
      exact ⟨result, List.mem_cons_of_mem _ isThere, same⟩

theorem succeeds_mapM_iff {call : α → Except Failure β} {xs : List α} :
    Succeeds (xs.mapM call) ↔ ∀ x ∈ xs, Succeeds (call x) := by
  induction xs with
  | nil => exact iff_of_true (succeeds_ok _) (by simp)
  | cons x rest inductionHypothesis =>
      rw [List.mapM_cons, succeeds_bind_iff, List.forall_mem_cons]
      intro y
      rw [← inductionHypothesis,
        succeeds_bind_iff fun ys => succeeds_pure_iff _, and_true]

end Succeeds

/-! ## Names, types, actions and expressions -/

theorem succeeds_namesOf_iff {names : List Value} :
    Succeeds (namesOf names) ↔ ∀ name ∈ names, name.isAnyText = true := by
  unfold namesOf
  rw [succeeds_map_iff]
  exact exists_joinNames_iff

theorem columnType_of_asColumnType
    {target : String} {v : Value} {type : ColumnType}
    (read : asColumnType target v = .ok type) :
    v = .columnType type := by
  unfold asColumnType at read
  split at read
  · cases read
  · split at read
    · cases read
      rfl
    · cases read

theorem succeeds_asColumnType_iff {target : String} {v : Value} :
    Succeeds (asColumnType target v) ↔ ∃ type, v = .columnType type := by
  constructor
  · rintro ⟨type, read⟩
    exact ⟨type, columnType_of_asColumnType read⟩
  · rintro ⟨type, rfl⟩
    exact ⟨type, by simp [asColumnType, Value.unkeyable?]⟩

theorem succeeds_asAction_iff {v : Value} :
    Succeeds (asAction v) ↔ ∃ action, v = .referentialAction action := by
  constructor
  · rintro ⟨action, read⟩
    unfold asAction at read
    split at read
    · cases read
    · split at read
      · exact ⟨_, rfl⟩
      · cases read
  · rintro ⟨action, rfl⟩
    exact ⟨action, by simp [asAction, Value.unkeyable?]⟩

/-- Zeros, and empty texts and collections, can be written. -/
theorem isWritable_of_not_truthy {v : Value} (counts : v.truthy = false) :
    v.isWritable = true := by
  cases v with
  | int n =>
      have isZero : n = 0 := by simpa [Value.truthy] using counts
      subst isZero
      decide +kernel
  | list items =>
      have noItems : items = [] := by simpa [Value.truthy] using counts
      subst noItems
      rfl
  | tuple items =>
      have noItems : items = [] := by simpa [Value.truthy] using counts
      subst noItems
      rfl
  | set items =>
      have noItems : items = [] := by simpa [Value.truthy] using counts
      subst noItems
      rfl
  | dict entries =>
      have noEntries : entries = [] := by simpa [Value.truthy] using counts
      subst noEntries
      rfl
  | _ => rfl

theorem succeeds_written_iff {v : Value} :
    Succeeds v.written ↔ v.isWritable = true := by
  unfold Value.written Value.display?
  split
  next writable => exact iff_of_true (succeeds_ok _) writable
  next unwritable => exact iff_of_false (not_succeeds_error _) unwritable

theorem succeeds_targetOf_iff {target : Target} :
    Succeeds (targetOf target) ↔
      ∃ name, target = .table name ∧ name.isWritable = true := by
  cases target with
  | table name =>
      exact succeeds_written_iff.trans
        ⟨fun writable => ⟨name, rfl, writable⟩, by
          rintro ⟨other, same, writable⟩
          cases same
          exact writable⟩
  | other v =>
      refine iff_of_false (not_succeeds_error _) ?_
      rintro ⟨name, same, _⟩
      cases same

theorem succeeds_expressionOf_iff {v : Value} :
    Succeeds (expressionOf v) ↔ v.isWritable = true := by
  unfold expressionOf Value.display?
  by_cases writable : v.isWritable = true
  · rw [if_pos writable]
    split
    · exact iff_of_true (succeeds_ok _) writable
    · exact iff_of_true (succeeds_ok _) writable
  · have counts : v.truthy = true := by
      by_contra isFalse
      exact writable (isWritable_of_not_truthy (eq_false_of_ne_true isFalse))
    rw [if_neg writable, if_pos counts]
    exact iff_of_false (not_succeeds_error _) writable

end Tablesmith.Sql

namespace Tablesmith.Schema

/-! ## Tables that can be stated -/

def Constraint.HasTextNames (k : Constraint) : Prop :=
  ∀ name ∈ k.columnNames, name.isAnyText = true

/-- A target is a table whose name can be written. -/
def Target.IsStatable (target : Target) : Prop :=
  ∃ name, target = .table name ∧ name.isWritable = true

/-- Both actions are actions. -/
def ReferenceActions.AreActions (actions : ReferenceActions) : Prop :=
  (∃ action, actions.onUpdate = .referentialAction action) ∧
    ∃ action, actions.onDelete = .referentialAction action

/-- A foreign key points at a table and names columns by texts, and its actions
are actions. -/
def ForeignKey.IsStatable (key : ForeignKey) : Prop :=
  key.target.IsStatable ∧
    (∀ name ∈ key.columns, name.isAnyText = true) ∧ key.actions.AreActions

/-- A column has a column type, and its name and expressions can be
written. -/
structure Column.IsStatable (c : Column) : Prop extends c.IsProper where
  name : c.name.isWritable = true

/-- Every statement about a table can be made. -/
structure Table.IsStatable (t : Table) : Prop where
  name : t.name.isWritable = true
  columns : ∀ c ∈ t.columns, c.IsStatable
  primaryKey : ∀ k ∈ t.primaryKey?, k.HasTextNames
  uniques : ∀ k ∈ t.uniqueConstraints, k.HasTextNames
  foreignKeys :
    ∀ entry ∈ t.foreignKeys, entry.1.HasTextNames ∧ entry.2.IsStatable

theorem isWritable_nameAfter
    (word : String) (name : Value) :
    (nameAfter word name).isWritable = true := by
  unfold nameAfter
  split
  · rfl
  · rfl

/-- A name can be written behind its schema exactly if it can be written. -/
theorem isWritable_qualify (schema : String) (name : Value) :
    (qualify schema name).isWritable = name.isWritable := by
  unfold qualify
  by_cases writable : name.isWritable = true
  · rw [writable]
    split
    · exact writable
    · exact isWritable_nameAfter _ _
  · rw [if_pos (by simp [writable])]

end Tablesmith.Schema

namespace Tablesmith.Sql

open Tablesmith.Schema

theorem succeeds_columnClause_iff {c : Column} :
    Succeeds (columnClause c) ↔ c.IsStatable := by
  unfold columnClause
  rw [succeeds_bind_iff fun name => succeeds_bind_iff fun type =>
    succeeds_bind_iff fun default => succeeds_bind_iff fun check =>
      succeeds_pure_iff _,
    succeeds_written_iff, succeeds_asColumnType_iff,
    succeeds_expressionOf_iff, succeeds_expressionOf_iff, and_true]
  constructor
  · rintro ⟨named, typed, writable⟩
    exact ⟨⟨typed, writable⟩, named⟩
  · intro statable
    exact ⟨statable.name, statable.typed, statable.writable⟩

theorem succeeds_referenceClause_iff {k : Constraint} {key : ForeignKey} :
    Succeeds (referenceClause k key) ↔ k.HasTextNames ∧ key.IsStatable := by
  unfold referenceClause
  rw [succeeds_bind_iff fun columns => succeeds_bind_iff fun target =>
    succeeds_bind_iff fun targetColumns => succeeds_bind_iff fun onUpdate =>
      succeeds_bind_iff fun onDelete => succeeds_pure_iff _,
    succeeds_namesOf_iff, succeeds_targetOf_iff, succeeds_namesOf_iff,
    succeeds_asAction_iff, succeeds_asAction_iff, and_true]
  rfl

theorem succeeds_addColumns_iff {t : Table} :
    Succeeds (addColumns t) ↔ ∀ c ∈ t.columns, c.IsStatable := by
  unfold addColumns
  simp only [succeeds_mapM_iff, succeeds_map_iff, succeeds_columnClause_iff]

/-- A table is dropped, built and linked exactly if every statement about it can
be made. -/
theorem succeeds_passes_iff {t : Table} :
    (Succeeds (dropTable t) ∧ Succeeds (buildTable t) ∧
      Succeeds (linkTable t)) ↔ t.IsStatable := by
  have dropped : Succeeds (dropTable t) ↔ t.name.isWritable = true := by
    unfold dropTable
    rw [succeeds_map_iff, succeeds_written_iff]
    exact Eq.congr_left (isWritable_qualify t.schema t.name)
  have built :
      Succeeds (buildTable t) ↔
        (∀ c ∈ t.columns, c.IsStatable) ∧
          (∀ k ∈ t.primaryKey?, k.HasTextNames) ∧
          ∀ k ∈ t.uniqueConstraints, k.HasTextNames := by
    unfold buildTable
    rw [succeeds_bind_iff fun columns => succeeds_bind_iff fun key =>
      succeeds_bind_iff fun uniques => succeeds_pure_iff _,
      succeeds_addColumns_iff, and_true]
    unfold addPrimaryKey addUniques
    simp only [succeeds_mapM_iff, succeeds_map_iff, succeeds_namesOf_iff,
      Option.mem_toList]
    rfl
  have linked :
      Succeeds (linkTable t) ↔
        ∀ entry ∈ t.foreignKeys,
          entry.1.HasTextNames ∧ entry.2.IsStatable := by
    unfold linkTable
    simp only [succeeds_mapM_iff, succeeds_map_iff,
      succeeds_referenceClause_iff]
  rw [dropped, built, linked]
  constructor
  · rintro ⟨name, ⟨columns, primaryKey, uniques⟩, foreignKeys⟩
    exact ⟨name, columns, primaryKey, uniques, foreignKeys⟩
  · intro statable
    exact ⟨statable.name,
      ⟨statable.columns, statable.primaryKey, statable.uniques⟩,
      statable.foreignKeys⟩

/-- A database has statements exactly if each of its tables can be stated. -/
theorem succeeds_create_iff {d : Database} :
    Succeeds (create d) ↔ ∀ t ∈ d.tables, t.IsStatable := by
  unfold create plan
  rw [succeeds_map_iff, succeeds_bind_iff fun dropped =>
    succeeds_bind_iff fun built => succeeds_bind_iff fun linked =>
      succeeds_pure_iff _,
    succeeds_mapM_iff, succeeds_mapM_iff, succeeds_mapM_iff, and_true,
    ← forall₂_and, ← forall₂_and]
  apply forall₂_congr
  intro t _
  exact succeeds_passes_iff

theorem succeeds_script_iff {d : Database} {separator : String} :
    Succeeds (script separator d) ↔ Succeeds (create d) :=
  succeeds_map_iff

end Tablesmith.Sql

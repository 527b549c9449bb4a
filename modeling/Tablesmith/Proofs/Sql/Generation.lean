import Tablesmith.Proofs.Schema.Endings
import Tablesmith.Proofs.Sql.Stating

/-!
# Which sessions have a script

A session can go through without a failure and still describe tables that have
no statements: names, expressions and actions are taken as they are given.  A
call that returns adds to what can be stated exactly if its own arguments can
be stated, and so a session in which every step returns has a script exactly
if the arguments of all its steps can be stated.
-/

namespace Tablesmith.Schema

/-! ## Steps that return -/

namespace Database

/-- Whether a step returns normally. -/
def returns (d : Database) : Step → Bool
  | .declare name schema => (d.addTable name schema).isOk
  | .build position call =>
    d.tables[position]?.any fun t => (call.perform t).result.isOk

/-- Whether every step of a session returns normally. -/
def returnsAll (d : Database) : List Step → Bool
  | [] => true
  | step :: rest => d.returns step && (d.perform step).returnsAll rest

end Database

/-! ## Arguments that can be stated -/

/-- The arguments of a call can be stated. -/
structure Call.IsStatable (call : Call) : Prop where
  /-- The expressions of the column can be written. -/
  expressions :
    ∀ name type options, call.column? = some (name, type, options) →
      options.IsWritable
  /-- The name of a column that a constraint is over is a text. -/
  name :
    ∀ name type options, call.column? = some (name, type, options) →
      type = .autoIncrement ∨ call.reference?.isSome = true ∨
          options.unique.truthy = true →
        name.isAnyText = true
  /-- A reference points at columns by texts. -/
  pointedAt :
    ∀ names, call.pointedAt = .ok names →
      ∀ name ∈ names, name.isAnyText = true
  /-- A reference is to a table whose name can be written, and its actions are
  actions. -/
  reference :
    ∀ target actions, call.reference? = some (target, actions) →
      target.IsStatable ∧ actions.AreActions

def Step.IsStatable : Step → Prop
  | .declare _ _ => True
  | .build _ call => call.IsStatable

/-! ## What additions do to the statements -/

namespace Table

variable {t : Table} {c : Column}

theorem isStatable_iff :
    t.IsStatable ↔
      t.name.isWritable = true ∧
        (∀ c ∈ t.columns, c.IsStatable) ∧
        (∀ k ∈ t.primaryKey?, k.HasTextNames) ∧
        (∀ k ∈ t.uniqueConstraints, k.HasTextNames) ∧
        ∀ entry ∈ t.foreignKeys,
          entry.1.HasTextNames ∧ entry.2.IsStatable := by
  constructor
  · intro statable
    exact ⟨statable.name, statable.columns, statable.primaryKey,
      statable.uniques, statable.foreignKeys⟩
  · rintro ⟨name, columns, primaryKey, uniques, foreignKeys⟩
    exact ⟨name, columns, primaryKey, uniques, foreignKeys⟩

theorem hasTextNames_singleton {name : Value} {demand : Demand} :
    Constraint.HasTextNames ⟨name, demand, [c]⟩ ↔ c.name.isAnyText = true := by
  simp [Constraint.HasTextNames, Constraint.columnNames]

theorem hasTextNames_addColumn {k : Constraint} :
    (k.addColumn c).HasTextNames ↔
      k.HasTextNames ∧ c.name.isAnyText = true := by
  unfold Constraint.HasTextNames Constraint.columnNames Constraint.addColumn
  rw [List.map_append, List.forall_mem_append, List.map_singleton,
    List.forall_mem_singleton]

theorem isStatable_empty
    (id : TableId) {name : Value} (writable : name.isWritable = true)
    (schema : Option String) :
    (Table.empty id name schema).IsStatable where
  name := writable
  columns := by
    intro c member
    cases member
  primaryKey := by
    intro k isKey
    cases isKey
  uniques := by
    intro k member
    cases member
  foreignKeys := by
    intro entry member
    cases member

theorem isStatable_append_iff :
    (t.append c).IsStatable ↔
      t.IsStatable ∧ c.IsStatable ∧
        (c.options.unique.truthy = true → c.name.isAnyText = true) := by
  have sameKey : (t.append c).primaryKey? = t.primaryKey? := by
    unfold primaryKey?
    rw [primaryKeys_append]
  have ownUnique :
      (∀ k ∈ uniquesOf c, k.HasTextNames) ↔
        (c.options.unique.truthy = true → c.name.isAnyText = true) := by
    unfold uniquesOf Column.isUnique
    split
    next isUnique =>
      rw [List.forall_mem_singleton]
      exact hasTextNames_singleton.trans (by simp [isUnique])
    next notUnique =>
      simp [notUnique]
  rw [isStatable_iff, isStatable_iff, sameKey, columns_append,
    uniqueConstraints_append, foreignKeys_append, List.forall_mem_append,
    List.forall_mem_append, List.forall_mem_singleton, ownUnique]
  tauto

theorem isStatable_extendPrimaryKey_iff :
    (t.extendPrimaryKey c).IsStatable ↔
      t.IsStatable ∧ c.name.isAnyText = true := by
  have key :
      (∀ k ∈ (t.extendPrimaryKey c).primaryKey?, k.HasTextNames) ↔
        (∀ k ∈ t.primaryKey?, k.HasTextNames) ∧ c.name.isAnyText = true := by
    rw [primaryKey?_extendPrimaryKey]
    cases t.primaryKey? with
    | some k => simp [hasTextNames_addColumn]
    | none => simp [hasTextNames_singleton]
  rw [isStatable_iff, isStatable_iff, key, name_extendPrimaryKey,
    columns_extendPrimaryKey, uniqueConstraints_extendPrimaryKey,
    foreignKeys_extendPrimaryKey]
  tauto

theorem isStatable_addForeignKey_iff {name : Value} {key : ForeignKey} :
    (t.addConstraint ⟨name, .foreignKey key, [c]⟩).IsStatable ↔
      t.IsStatable ∧ c.name.isAnyText = true ∧ key.IsStatable := by
  have sameKeys :
      (t.addConstraint ⟨name, .foreignKey key, [c]⟩).constraintsOf
          .primaryKey = t.constraintsOf .primaryKey :=
    constraintsOf_addConstraint_of_ne t
      (by simp [Constraint.type, Demand.type])
  have sameUniques :
      (t.addConstraint ⟨name, .foreignKey key, [c]⟩).constraintsOf .unique =
        t.constraintsOf .unique :=
    constraintsOf_addConstraint_of_ne t
      (by simp [Constraint.type, Demand.type])
  have added :
      (t.addConstraint ⟨name, .foreignKey key, [c]⟩).foreignKeys =
        t.foreignKeys ++ [(⟨name, .foreignKey key, [c]⟩, key)] :=
    foreignKeys_addConstraint t _
  rw [isStatable_iff, isStatable_iff, columns_addConstraint, added,
    List.forall_mem_append, List.forall_mem_singleton, hasTextNames_singleton]
  unfold primaryKey? uniqueConstraints
  rw [sameKeys, sameUniques]
  tauto

/-- A uniqueness constraint over columns with texts as names changes
nothing. -/
theorem isStatable_addUnique_iff
    {name : Value} {columns : List Column}
    (texts : ∀ c ∈ columns, c.name.isAnyText = true) :
    (t.addConstraint ⟨name, .unique, columns⟩).IsStatable ↔
      t.IsStatable := by
  have textNames : Constraint.HasTextNames ⟨name, .unique, columns⟩ := by
    rwa [Constraint.HasTextNames, Constraint.columnNames,
      List.forall_mem_map]
  have sameKey :
      (t.addConstraint ⟨name, .unique, columns⟩).primaryKey? =
        t.primaryKey? := by
    have sameKeys :
        (t.addConstraint ⟨name, .unique, columns⟩).constraintsOf
            .primaryKey = t.constraintsOf .primaryKey :=
      constraintsOf_addConstraint_of_ne t
        (by simp [Constraint.type, Demand.type])
    unfold primaryKey?
    rw [sameKeys]
  have added :
      (t.addConstraint ⟨name, .unique, columns⟩).uniqueConstraints =
        t.uniqueConstraints ++ [⟨name, .unique, columns⟩] :=
    List.filter_append _ _
  have sameForeignKeys :
      (t.addConstraint ⟨name, .unique, columns⟩).foreignKeys =
        t.foreignKeys := by
    rw [foreignKeys_addConstraint]
    exact List.append_nil _
  rw [isStatable_iff, isStatable_iff, columns_addConstraint, sameKey, added,
    sameForeignKeys, List.forall_mem_append, List.forall_mem_singleton]
  tauto

end Table

/-! ## One call -/

section Perform

variable {t : Table} {call : Call}

/-- What a call that returned has done, if it asked for a column. -/
theorem completed_of_returned
    {c : Column} (asked : call.columnOn? t = some c)
    (returned : (call.perform t).result = .ok ()) :
    c.name.isWritable = true ∧
      ∃ pointed, call.pointedAt = .ok pointed ∧
        (call.perform t).table = call.complete c pointed (t.append c) := by
  rw [perform_of_columnOn? asked] at returned ⊢
  split at returned
  · cases returned
  · split at returned
    next notTaken noted =>
      cases pointed : call.pointedAt with
      | error fault =>
          rw [pointed] at returned
          cases returned
      | ok names =>
          refine ⟨((Bool.and_eq_true _ _).mp noted).1, names, rfl, ?_⟩
          rw [if_neg notTaken, if_pos noted]
          rfl
    next =>
      split at returned
      · cases returned
      · cases returned

/-- A key column counts up and has the standard options; no other column counts
up. -/
theorem kind_of_column?
    {kind : String} {own : Option Value} {keywords : List (Value × Value)}
    {name : Value} {type : ColumnType} {options : ColumnOptions}
    (asked :
      (Call.column kind own keywords).column? = some (name, type, options)) :
    (kind = "primary_key" ∧ type = .autoIncrement ∧ options = .standard) ∨
      (kind ≠ "primary_key" ∧ type ≠ .autoIncrement) := by
  simp only [Call.column?] at asked
  split at asked
  next isKey =>
    obtain ⟨given, _, same⟩ := Option.map_eq_some_iff.mp asked
    cases same
    exact Or.inl ⟨isKey, rfl, rfl⟩
  next notKey =>
    obtain ⟨found, isType, arguments⟩ := Option.bind_eq_some_iff.mp asked
    obtain ⟨given, _, same⟩ := Option.map_eq_some_iff.mp arguments
    cases same
    exact Or.inr ⟨notKey, Table.typeOfWord?_ne_autoIncrement isType⟩

/-- A uniqueness constraint is over columns that are there already. -/
theorem isStatable_unique (given : Value) : (Call.unique given).IsStatable where
  expressions := nofun
  name := nofun
  pointedAt := by
    intro names points
    cases points
    exact List.forall_mem_nil _
  reference := nofun

/-- What it means for a call that asks for a column that its arguments can be
stated. -/
theorem isStatable_iff_of_column?
    {name : Value} {type : ColumnType} {options : ColumnOptions}
    {pointed : List Value}
    (asked : call.column? = some (name, type, options))
    (points : call.pointedAt = .ok pointed) :
    call.IsStatable ↔
      options.IsWritable ∧
        (type = .autoIncrement ∨ call.reference?.isSome = true ∨
            options.unique.truthy = true →
          name.isAnyText = true) ∧
        (∀ name ∈ pointed, name.isAnyText = true) ∧
        ∀ target actions, call.reference? = some (target, actions) →
          target.IsStatable ∧ actions.AreActions := by
  constructor
  · intro statable
    exact ⟨statable.expressions _ _ _ asked, statable.name _ _ _ asked,
      statable.pointedAt _ points, statable.reference⟩
  · rintro ⟨expressions, named, targets, reference⟩
    refine ⟨?_, ?_, ?_, reference⟩
    · intro otherName otherType others otherAsked
      rw [asked] at otherAsked
      cases otherAsked
      exact expressions
    · intro otherName otherType others otherAsked
      rw [asked] at otherAsked
      cases otherAsked
      exact named
    · intro names otherPoints
      rw [points] at otherPoints
      cases otherPoints
      exact targets

section Complete

variable {name : Value} {type : ColumnType} {options : ColumnOptions}
  {c : Column} {pointed : List Value}

theorem isStatable_nextColumn_iff (named : name.isWritable = true) :
    (t.nextColumn name (.columnType type) options).IsStatable ↔
      options.IsWritable :=
  ⟨fun statable => statable.writable,
    fun writable => ⟨⟨⟨type, rfl⟩, writable⟩, named⟩⟩

/-- A column that counts up goes into the primary key, so its name has to be a
text; any other name has to be one only if the column is unique. -/
theorem isStatable_completeColumn_iff
    {kind : String} {own : Option Value} {keywords : List (Value × Value)}
    (asked :
      (Call.column kind own keywords).column? = some (name, type, options))
    (named : name.isWritable = true)
    (isNext : c = t.nextColumn name (.columnType type) options) :
    ((Call.column kind own keywords).complete c [] (t.append c)).IsStatable ↔
      t.IsStatable ∧ (Call.column kind own keywords).IsStatable := by
  have noTargets : ∀ name ∈ ([] : List Value), name.isAnyText = true :=
    List.forall_mem_nil _
  have noReference :
      ∀ target actions,
        (Call.column kind own keywords).reference? = some (target, actions) →
          target.IsStatable ∧ actions.AreActions := nofun
  have sameName : c.name = name := by rw [isNext]; rfl
  have sameOptions : c.options = options := by rw [isNext]; rfl
  have statableColumn : c.IsStatable ↔ options.IsWritable := by
    rw [isNext]
    exact isStatable_nextColumn_iff named
  rw [isStatable_iff_of_column? asked rfl]
  rcases kind_of_column? asked with
    ⟨isKey, isCounting, _⟩ | ⟨notKey, notCounting⟩
  · have isDone :
        (Call.column kind own keywords).complete c [] (t.append c) =
          (t.append c).extendPrimaryKey c :=
      if_pos isKey
    rw [isDone, Table.isStatable_extendPrimaryKey_iff,
      Table.isStatable_append_iff, statableColumn, sameName]
    tauto
  · have isDone :
        (Call.column kind own keywords).complete c [] (t.append c) =
          t.append c :=
      if_neg notKey
    have notReference :
        (Call.column kind own keywords).reference?.isSome ≠ true := nofun
    rw [isDone, Table.isStatable_append_iff, statableColumn, sameName,
      sameOptions]
    tauto

/-- The column of a reference has a foreign key over it, so its name has to be
a text, and so have those that it points at. -/
theorem isStatable_completeReference_iff
    {own referenced : Value} {target : Target} {actions : ReferenceActions}
    {keywords : List (Value × Value)}
    (isReference : call = .reference own target referenced actions keywords)
    (asked : call.column? = some (name, type, options))
    (points : call.pointedAt = .ok pointed)
    (named : name.isWritable = true)
    (isNext : c = t.nextColumn name (.columnType type) options) :
    (call.complete c pointed (t.append c)).IsStatable ↔
      t.IsStatable ∧ call.IsStatable := by
  rw [isStatable_iff_of_column? asked points]
  subst isReference isNext
  have isSome :
      (Call.reference own target referenced actions
        keywords).reference?.isSome = true := rfl
  have ownReference :
      (∀ other others,
        (Call.reference own target referenced actions keywords).reference? =
          some (other, others) → other.IsStatable ∧ others.AreActions) ↔
        target.IsStatable ∧ actions.AreActions := by
    constructor
    · intro each
      exact each target actions rfl
    · intro both other others same
      cases same
      exact both
  have statableKey :
      ForeignKey.IsStatable ⟨target, pointed, actions⟩ ↔
        target.IsStatable ∧
          (∀ name ∈ pointed, name.isAnyText = true) ∧ actions.AreActions :=
    Iff.rfl
  unfold Call.complete
  rw [Table.isStatable_addForeignKey_iff, Table.isStatable_append_iff,
    isStatable_nextColumn_iff named, ownReference, statableKey]
  tauto

end Complete

/-- A call that returns leaves a table that can be stated exactly if the table
could be stated before and the arguments of the call can be. -/
theorem isStatable_perform_iff
    (returned : (call.perform t).result = .ok ()) :
    (call.perform t).table.IsStatable ↔ t.IsStatable ∧ call.IsStatable := by
  cases asked : call.column? with
  | none =>
      rcases perform_of_column?_eq_none t asked with
        ⟨failure, ends⟩ | ⟨given, name, columns, rfl, texts, ends⟩
      · rw [ends] at returned
        cases returned
      · rw [ends]
        exact (Table.isStatable_addUnique_iff texts).trans
          (iff_self_and.mpr fun _ => isStatable_unique given)
  | some parts =>
      obtain ⟨name, type, options⟩ := parts
      have onTable :
          call.columnOn? t =
            some (t.nextColumn name (.columnType type) options) := by
        unfold Call.columnOn?
        rw [asked]
        rfl
      obtain ⟨named, pointed, points, done⟩ :=
        completed_of_returned onTable returned
      rw [done]
      cases call with
      | column kind own keywords =>
          cases points
          exact isStatable_completeColumn_iff asked named rfl
      | reference own target referenced actions keywords =>
          exact isStatable_completeReference_iff rfl asked points named rfl
      | unique given => cases asked

end Perform

/-! ## All steps -/

namespace Database

def IsStatable (d : Database) : Prop :=
  ∀ t ∈ d.tables, t.IsStatable

/-- A step that returns adds to what can be stated exactly if its arguments can
be stated. -/
theorem isStatable_step_iff
    {d : Database} {step : Step} (returned : d.returns step = true) :
    (d.perform step).IsStatable ↔ d.IsStatable ∧ step.IsStatable := by
  cases step with
  | declare name schema =>
      obtain ⟨after, added⟩ := Sql.succeeds_of_isOk returned
      have writable := isWritable_of_addTable added
      rw [perform_declare returned]
      unfold IsStatable
      rw [List.forall_mem_append, List.forall_mem_singleton]
      exact and_congr_right fun _ =>
        iff_of_true (Table.isStatable_empty _ writable _) trivial
  | build position call =>
      simp only [returns, Option.any_eq_true] at returned
      obtain ⟨t, there, isOk⟩ := returned
      obtain ⟨⟨⟩, done⟩ := Sql.succeeds_of_isOk isOk
      obtain ⟨inside, isThere⟩ := List.getElem?_eq_some_iff.mp there
      obtain ⟨before, own, after, split, atPosition, modified⟩ :=
        List.exists_of_modify (fun t => (call.perform t).table) inside
      obtain rfl : own = t := by
        simpa [split, ← atPosition] using there
      unfold IsStatable perform
      simp only
      rw [modified, split]
      simp only [List.forall_mem_append, List.forall_mem_cons,
        isStatable_perform_iff done]
      change _ ↔ _ ∧ call.IsStatable
      tauto

/-- A session in which every step returns leaves a database that can be stated
exactly if it could be before and all arguments can be. -/
theorem isStatable_afterSteps_iff
    {d : Database} {steps : List Step} (returned : d.returnsAll steps = true) :
    (d.afterSteps steps).IsStatable ↔
      d.IsStatable ∧ ∀ step ∈ steps, step.IsStatable := by
  induction steps generalizing d with
  | nil => simp [afterSteps]
  | cons step rest inductionHypothesis =>
      obtain ⟨first, others⟩ := (Bool.and_eq_true _ _).mp returned
      change ((d.perform step).afterSteps rest).IsStatable ↔ _
      rw [inductionHypothesis others, isStatable_step_iff first,
        List.forall_mem_cons, and_assoc]

end Database

end Tablesmith.Schema

namespace Tablesmith.Sql

open Tablesmith.Schema

/-- If every step of a session returns, there is a list of statements, and a
script with any separator, exactly if the arguments of all steps can be
stated. -/
theorem generation_succeeds_iff
    {steps : List Step}
    (returned : Database.empty.returnsAll steps = true) :
    (Succeeds (create (Database.empty.afterSteps steps)) ↔
      ∀ step ∈ steps, step.IsStatable) ∧
      ∀ separator,
        Succeeds (script separator (Database.empty.afterSteps steps)) ↔
          ∀ step ∈ steps, step.IsStatable := by
  have noTables : Database.empty.IsStatable := List.forall_mem_nil _
  have created :
      Succeeds (create (Database.empty.afterSteps steps)) ↔
        ∀ step ∈ steps, step.IsStatable := by
    rw [succeeds_create_iff]
    exact (Database.isStatable_afterSteps_iff returned).trans
      (and_iff_right noTables)
  exact ⟨created, fun separator => succeeds_script_iff.trans created⟩

/-- Users, and posts with a column that is called by a number, a reference that
sets nothing on update, and one constraint. -/
def forumSession : List Step :=
  [.declare (.text "users") none,
    .build 0 (.column "primary_key" none []),
    .declare (.text "posts") (some "forum"),
    .build 1 (.column "string" (some (.int 7)) [(.text "default", .int 3)]),
    .build 1 (.reference (.text "author") (.table (.text "users")) (.text "id")
      (.of .null (.referentialAction .setNull)) []),
    .build 1 (.column "number" (some (.text "rank")) []),
    .build 1 (.unique (.list [.text "author", .text "rank"]))]

/-- Every step of the session about a forum returns and can be stated, and the
statements are there. -/
theorem forum_generation_succeeds :
    Database.empty.returnsAll forumSession = true ∧
      (∀ step ∈ forumSession, step.IsStatable) ∧
        Succeeds (create (Database.empty.afterSteps forumSession)) := by
  have returned : Database.empty.returnsAll forumSession = true := by
    decide +kernel
  have created : Succeeds (create (Database.empty.afterSteps forumSession)) :=
    succeeds_of_isOk (by decide +kernel)
  exact ⟨returned, (generation_succeeds_iff returned).1.mp created, created⟩

/-- Users, and posts that point at them; deleting a user is restricted, by a
word that is no action. -/
def restrictedSession : List Step :=
  [.declare (.text "users") none,
    .build 0 (.column "primary_key" none []),
    .declare (.text "posts") none,
    .build 1 (.reference (.text "user_id") (.table (.text "users"))
      (.text "id") (.of .null (.text "restrict")) [])]

/-- The session returns everywhere, but there are no statements and no script:
one of its words is no action. -/
theorem restricted_generation_fails :
    Database.empty.returnsAll restrictedSession = true ∧
      ∃ failure : Failure,
        failure.kind = "UnmappedEnumerationError" ∧
          create (Database.empty.afterSteps restrictedSession) =
            .error failure ∧
          ∀ separator,
            script separator (Database.empty.afterSteps restrictedSession) =
              .error failure := by
  have shown :
      (create (Database.empty.afterSteps restrictedSession)).mapError
        Failure.kind = .error "UnmappedEnumerationError" := by
    decide +kernel
  refine ⟨by decide +kernel, ?_⟩
  unfold script
  cases created : create (Database.empty.afterSteps restrictedSession) with
  | error failure =>
      rw [created] at shown
      exact ⟨failure, Except.error.inj shown, rfl, fun _ => rfl⟩
  | ok statements =>
      rw [created] at shown
      cases shown

end Tablesmith.Sql

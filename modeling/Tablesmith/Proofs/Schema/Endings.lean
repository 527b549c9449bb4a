import Tablesmith.Proofs.Schema.Sessions

/-!
# How builder calls end

Whatever its arguments are, a builder call that asks for a column is refused
while the table is as it was, or appends the column and goes on.  What comes
after the column can still fail, and then the column stays.  The main statement
says exactly which calls leave something behind when they fail.
-/

namespace Tablesmith.Schema

namespace Call

/-! ## What a call asks for -/

/-- The name, type and options of the column that a call asks for.  There is
none if the arguments do not fit, or if the call is for a uniqueness
constraint. -/
def column? : Call → Option (Value × ColumnType × ColumnOptions)
  | .column kind name keywords =>
    let callee := "Table." ++ (kind ++ "_column")
    if kind = "primary_key" then
      (Table.primaryKeyArguments callee name keywords).toOption.map
        fun given =>
          (if given.truthy then given else primaryKeyColumn,
            .autoIncrement, .standard)
    else
      (Table.typeOfWord? kind).bind fun type =>
        (Table.typedArguments callee name keywords).toOption.map
          fun (given, options) => (given, type, options)
  | .reference name _ _ _ keywords =>
    (ColumnOptions.ofKeywords keywords).toOption.map fun options =>
      (name, .number, options)
  | .unique _ => none

/-- The column as it would come next on a table. -/
def columnOn? (call : Call) (t : Table) : Option Column :=
  call.column?.map fun (name, type, options) =>
    t.nextColumn name (.columnType type) options

/-- The names of the columns that a reference points at; other calls point at
none. -/
def pointedAt : Call → Except CallFault (List Value)
  | .reference name _ referenced _ _ =>
    Table.namesIn (if referenced.truthy then referenced else name)
  | _ => .ok []

/-- What a call makes of a table that has got its column, once it is known
which columns the new one points at. -/
def complete (call : Call) (c : Column) (pointed : List Value) (t : Table) :
    Table :=
  match call with
  | .column kind _ _ =>
    if kind = "primary_key" then t.extendPrimaryKey c else t
  | .reference _ target _ actions _ =>
    t.addConstraint
      ⟨foreignKeyName c.name, .foreignKey ⟨target, pointed, actions⟩, [c]⟩
  | .unique _ => t

/-- A call fails when its column is already there: the names of the column and
the table cannot both be written, and there was no uniqueness constraint to
name after the column before; or what the column shall point at holds no
names. -/
def FailsLate (call : Call) (t : Table) : Prop :=
  ∃ c, call.columnOn? t = some c ∧ t.column? c.name = none ∧
    ((t.canNote c.name = false ∧
        (c.name.isWritable = true ∨ c.options.unique.truthy = false)) ∨
      (t.canNote c.name = true ∧ ∃ fault, call.pointedAt = .error fault))

end Call

/-! ## All endings -/

section Endings

variable {t : Table} {call : Call}

theorem Attempt.andThen_done (a : Attempt) : a.andThen .done = a := by
  obtain ⟨after, result⟩ := a
  cases result with
  | error failure => rfl
  | ok => rfl

/-- A call that asks for a column adds it and then completes the table. -/
theorem perform_eq_andThen
    {name : Value} {type : ColumnType} {options : ColumnOptions}
    (asked : call.column? = some (name, type, options)) :
    call.perform t =
      (t.addColumn name (.columnType type) options).andThen fun after =>
        match call.pointedAt with
        | .error fault => .failed after (.call fault)
        | .ok pointed =>
          .done (call.complete (t.nextColumn name (.columnType type) options)
            pointed after) := by
  cases call with
  | column kind own keywords =>
      simp only [Call.perform, Table.addColumnOf, Call.pointedAt,
        Call.complete]
      simp only [Call.column?] at asked
      by_cases isKey : kind = "primary_key"
      · rw [if_pos isKey] at asked ⊢
        cases read : Table.primaryKeyArguments
            ("Table." ++ (kind ++ "_column")) own keywords with
        | error fault =>
            rw [read] at asked
            cases asked
        | ok given =>
            rw [read] at asked
            cases asked
            simp only [if_pos isKey]
            rfl
      · rw [if_neg isKey] at asked ⊢
        obtain ⟨kindType, isType, arguments⟩ := Option.bind_eq_some_iff.mp asked
        rw [isType]
        cases read : Table.typedArguments
            ("Table." ++ (kind ++ "_column")) own keywords with
        | error fault =>
            rw [read] at arguments
            cases arguments
        | ok both =>
            rw [read] at arguments
            cases arguments
            simp only [if_neg isKey]
            exact (Attempt.andThen_done _).symm
  | reference own target referenced actions keywords =>
      simp only [Call.perform, Call.pointedAt, Call.complete]
      simp only [Call.column?] at asked
      cases parsed : ColumnOptions.ofKeywords keywords with
      | error fault =>
          rw [parsed] at asked
          cases asked
      | ok settings =>
          rw [parsed] at asked
          cases asked
          rfl
  | unique columns => cases asked

/-- How a call ends that asks for a column. -/
theorem perform_of_columnOn?
    {c : Column} (asked : call.columnOn? t = some c) :
    call.perform t =
      if (t.column? c.name).isSome then .failed t (t.columnTaken c.name)
      else if t.canNote c.name then
        match call.pointedAt with
        | .error fault => .failed (t.append c) (.call fault)
        | .ok pointed => .done (call.complete c pointed (t.append c))
      else if c.options.unique.truthy && !c.name.isWritable then
        .failed t (.number .tooLongToWrite)
      else .failed (t.append c) (.number .tooLongToWrite) := by
  obtain ⟨⟨name, type, options⟩, parts, rfl⟩ :=
    Option.map_eq_some_iff.mp asked
  rw [perform_eq_andThen parts, Table.addColumn_columnType]
  change Attempt.andThen
      (if (t.column? name).isSome then _ else if t.canNote name then _
        else if options.unique.truthy && !name.isWritable then _ else _) _ =
    if (t.column? name).isSome then _ else if t.canNote name then _
      else if options.unique.truthy && !name.isWritable then _ else _
  split
  · rfl
  · split
    · rfl
    · split
      · rfl
      · rfl

/-- A uniqueness constraint is refused, or it is added over columns whose names
are texts: they are joined to make its own name. -/
theorem addUniqueOf_refused_or_done (t : Table) (given : Value) :
    (∃ failure, t.addUniqueOf given = .failed t failure) ∨
      ∃ name columns, (∀ c ∈ columns, c.name.isAnyText = true) ∧
        t.addUniqueOf given =
          .done (t.addConstraint ⟨name, .unique, columns⟩) := by
  unfold Table.addUniqueOf
  split
  · exact Or.inl ⟨_, rfl⟩
  · split
    · exact Or.inl ⟨_, rfl⟩
    next names _ =>
      cases checked : t.checkUnique names with
      | error failure =>
          exact Or.inl ⟨failure, by simp only [Table.addUnique, checked]⟩
      | ok =>
          cases joins :
              joinNames "_" ((t.columnsNamed names).map Column.name) with
          | error failure =>
              refine Or.inl ⟨failure, ?_⟩
              unfold Table.columnsNamed at joins
              simp only [Table.addUnique, checked, joins]
          | ok joined =>
              refine Or.inr ⟨_, t.columnsNamed names, ?_,
                Table.addUnique_of_checked checked joins⟩
              exact List.forall_mem_map.mp
                (exists_joinNames_iff.mp ⟨joined, joins⟩)

/-- How a call ends that asks for no column: it is refused, or it adds a
uniqueness constraint over columns whose names are texts. -/
theorem perform_of_column?_eq_none
    (t : Table) (notAsked : call.column? = none) :
    (∃ failure, call.perform t = .failed t failure) ∨
      ∃ given name columns, call = .unique given ∧
        (∀ c ∈ columns, c.name.isAnyText = true) ∧
          call.perform t =
            .done (t.addConstraint ⟨name, .unique, columns⟩) := by
  cases call with
  | column kind own keywords =>
      left
      simp only [Call.column?] at notAsked
      simp only [Call.perform, Table.addColumnOf]
      by_cases isKey : kind = "primary_key"
      · rw [if_pos isKey] at notAsked ⊢
        split
        · exact ⟨_, rfl⟩
        next read =>
          rw [read] at notAsked
          cases notAsked
      · rw [if_neg isKey] at notAsked ⊢
        split
        · exact ⟨_, rfl⟩
        next found =>
          split
          · exact ⟨_, rfl⟩
          next read =>
            rw [found, Option.bind_some, read] at notAsked
            cases notAsked
  | reference own target referenced actions keywords =>
      left
      simp only [Call.column?] at notAsked
      cases parsed : ColumnOptions.ofKeywords keywords with
      | error fault => exact ⟨.call fault, by simp only [Call.perform, parsed]⟩
      | ok settings =>
          rw [parsed] at notAsked
          cases notAsked
  | unique given =>
      rcases addUniqueOf_refused_or_done t given with
        refused | ⟨name, columns, texts, done⟩
      · exact Or.inl refused
      · exact Or.inr ⟨given, name, columns, rfl, texts, done⟩

theorem columns_complete
    (call : Call) (c : Column) (pointed : List Value) (t : Table) :
    (call.complete c pointed t).columns = t.columns := by
  unfold Call.complete
  cases call with
  | column kind name keywords =>
      by_cases isKey : kind = "primary_key"
      · simp only [isKey, if_true]
        exact Table.columns_extendPrimaryKey t c
      · simp only [isKey, if_false]
  | reference => rfl
  | unique => rfl

/-- A call leaves the columns alone, or appends one whose name was free. -/
theorem columns_perform (call : Call) (t : Table) :
    (call.perform t).table.columns = t.columns ∨
      ∃ c, t.column? c.name = none ∧
        (call.perform t).table.columns = t.columns ++ [c] := by
  cases asked : call.columnOn? t with
  | none =>
      left
      have noColumn : call.column? = none := Option.map_eq_none_iff.mp asked
      rcases perform_of_column?_eq_none t noColumn with
        ⟨failure, refused⟩ | ⟨given, name, columns, _, _, done⟩
      · rw [refused]
        rfl
      · rw [done]
        rfl
  | some c =>
      rw [perform_of_columnOn? asked]
      cases free : t.column? c.name with
      | some other =>
          rw [if_pos (by simp)]
          exact .inl rfl
      | none =>
          rw [if_neg (by simp)]
          have appended {after : Table} (same : after.columns = t.columns ++ [c]) :
              ∃ c, t.column? c.name = none ∧ after.columns = t.columns ++ [c] :=
            ⟨c, free, same⟩
          split
          · split
            · exact .inr (appended rfl)
            · exact .inr (appended (columns_complete _ _ _ _))
          · split
            · exact .inl rfl
            · exact .inr (appended rfl)

/-- A call that returns and appends a column is one that asks for it, and the
name of the column can be written, and that of the table. -/
theorem columnOn?_of_added
    {c : Column} (returned : (call.perform t).result = .ok ())
    (added : (call.perform t).table.columns = t.columns ++ [c]) :
    call.columnOn? t = some c ∧ t.canNote c.name = true := by
  have grown {after : Table} (same : after.columns = t.columns) :
      after.columns ≠ t.columns ++ [c] := by
    intro longer
    rw [same] at longer
    simp at longer
  cases asked : call.columnOn? t with
  | none =>
      have noColumn : call.column? = none := Option.map_eq_none_iff.mp asked
      rcases perform_of_column?_eq_none t noColumn with
        ⟨failure, refused⟩ | ⟨given, name, columns, _, _, done⟩
      · rw [refused] at added
        exact absurd added (grown rfl)
      · rw [done] at added
        exact absurd added (grown rfl)
  | some own =>
      rw [perform_of_columnOn? asked] at returned added
      split at returned
      · cases returned
      next free =>
        split at returned
        next noted =>
          split at returned
          · cases returned
          next pointed isPointed =>
            rw [if_neg free, if_pos noted, isPointed] at added
            have same := (columns_complete call own pointed _).symm.trans added
            rw [Table.columns_append, List.append_cancel_left_eq,
              List.singleton_inj] at same
            exact ⟨congrArg some same, same ▸ noted⟩
        · split at returned
          · cases returned
          · cases returned

end Endings

/-! ## Which calls are atomic -/

theorem Table.append_ne (t : Table) (c : Column) : t.append c ≠ t := by
  intro same
  have lengths := congrArg (fun after => after.columns.length) same
  simp at lengths

/-- A call that asks for a column fails late exactly if the name is free and
something is wrong that shows only afterwards. -/
theorem failsLate_iff
    {t : Table} {call : Call} {c : Column}
    (asked : call.columnOn? t = some c) :
    call.FailsLate t ↔
      t.column? c.name = none ∧
        ((t.canNote c.name = false ∧
            (c.name.isWritable = true ∨ c.options.unique.truthy = false)) ∨
          (t.canNote c.name = true ∧
            ∃ fault, call.pointedAt = .error fault)) := by
  constructor
  · rintro ⟨other, otherAsked, late⟩
    rw [asked] at otherAsked
    cases otherAsked
    exact late
  · intro late
    exact ⟨c, asked, late⟩

/-- A builder call leaves its table as it was whenever it fails, exactly if it
does not fail late.  This holds of every table and of all arguments. -/
theorem perform_atomic_iff (t : Table) (call : Call) :
    (∀ failure, (call.perform t).result = .error failure →
      (call.perform t).table = t) ↔ ¬ call.FailsLate t := by
  cases asked : call.columnOn? t with
  | none =>
      have notLate : ¬ call.FailsLate t := by
        rintro ⟨c, isAsked, _⟩
        rw [asked] at isAsked
        cases isAsked
      have noColumn : call.column? = none := Option.map_eq_none_iff.mp asked
      refine iff_of_true ?_ notLate
      intro failure failed
      rcases perform_of_column?_eq_none t noColumn with
        ⟨other, ends⟩ | ⟨given, name, columns, _, _, ends⟩
      · rw [ends]
        rfl
      · rw [ends] at failed
        cases failed
  | some c =>
      have kept {failure : Failure} :
          ∀ other, (Attempt.failed t failure).result = .error other →
            (Attempt.failed t failure).table = t := fun _ _ => rfl
      have changed {failure : Failure} :
          ¬ ∀ other,
            (Attempt.failed (t.append c) failure).result = .error other →
              (Attempt.failed (t.append c) failure).table = t :=
        fun atomic => t.append_ne c (atomic failure rfl)
      rw [failsLate_iff asked, perform_of_columnOn? asked]
      cases taken : t.column? c.name with
      | some other =>
          rw [if_pos (by simp)]
          exact iff_of_true kept (by simp)
      | none =>
          rw [if_neg (by simp)]
          by_cases noted : t.canNote c.name = true
          · rw [if_pos noted]
            cases pointed : call.pointedAt with
            | error fault =>
                refine iff_of_false changed ?_
                exact not_not.mpr ⟨rfl, Or.inr ⟨noted, fault, rfl⟩⟩
            | ok names =>
                refine iff_of_true (fun _ failed => nomatch failed) ?_
                simp [noted]
          · have unnoted : t.canNote c.name = false :=
              eq_false_of_ne_true noted
            rw [if_neg noted]
            by_cases stopped :
                (c.options.unique.truthy && !c.name.isWritable) = true
            · rw [if_pos stopped]
              refine iff_of_true kept ?_
              simp only [Bool.and_eq_true, Bool.not_eq_true'] at stopped
              simp [unnoted, stopped]
            · rw [if_neg stopped]
              have late :
                  c.name.isWritable = true ∨
                    c.options.unique.truthy = false := by
                by_cases writable : c.name.isWritable = true
                · exact Or.inl writable
                · exact Or.inr (by simpa [writable] using stopped)
              refine iff_of_false changed ?_
              exact not_not.mpr ⟨rfl, Or.inl ⟨unnoted, late⟩⟩

/-- A session that declares users and posts. -/
def blogSession : List Step :=
  [.declare (.text "users") none,
    .build 0 (.column "primary_key" none []),
    .declare (.text "posts") none]

/-- A second key column of the same name is refused, and the users keep their
one column and their primary key over it. -/
theorem secondKey_leaves_users :
    ∃ users ∈ (Database.empty.afterSteps blogSession).tables,
      users.columns.length = 1 ∧
        ∃ failure,
          ((Call.column "primary_key" none []).perform users).result =
              .error failure ∧
            ((Call.column "primary_key" none []).perform users).table =
              users := by
  have shown :
      ((Database.empty.afterSteps blogSession).tables.head?.map fun t =>
          (t.columns.length, (t.column? (.text "id")).isSome,
            ((Call.column "primary_key" none []).perform t).result.isOk)) =
        some (1, true, false) := by
    decide +kernel
  obtain ⟨users, isFirst, facts⟩ := Option.map_eq_some_iff.mp shown
  simp only [Prod.mk.injEq] at facts
  obtain ⟨one, taken, notOk⟩ := facts
  have notLate : ¬ (Call.column "primary_key" none []).FailsLate users := by
    rintro ⟨c, asked, free, _⟩
    cases asked
    change users.column? (.text "id") = none at free
    rw [free] at taken
    cases taken
  refine ⟨users, List.mem_of_head? isFirst, one, ?_⟩
  cases failed :
      ((Call.column "primary_key" none []).perform users).result with
  | ok =>
      rw [failed] at notOk
      cases notOk
  | error failure =>
      exact ⟨failure, rfl,
        (perform_atomic_iff users _).mpr notLate failure failed⟩

/-- A reference whose target column is a number fails, but its own column stays
on the table of posts, without a foreign key. -/
theorem failedReference_leaves_column :
    ∃ posts ∈ (Database.empty.afterSteps blogSession).tables,
      posts.columns = [] ∧
        ∃ after : Attempt,
          (Call.reference (.text "user_id") (.table (.text "users")) (.int 5)
              .standard []).perform posts = after ∧
            after.result = .error (.call (.notIterable "int")) ∧
            after.table ≠ posts ∧
            after.table.columns.map Column.name = [.text "user_id"] ∧
            after.table.constraints = [] := by
  let posts : Table := .empty (.declared 1) (.text "posts") none
  have declared : posts ∈ (Database.empty.afterSteps blogSession).tables := by
    let before :=
      Database.empty.afterSteps
        [.declare (.text "users") none,
          .build 0 (.column "primary_key" none [])]
    have returned : (before.addTable (.text "posts") none).isOk = true := by
      decide +kernel
    have last :
        (Database.empty.afterSteps blogSession).tables =
          before.tables ++ [posts] :=
      congrArg Database.tables (Database.perform_declare returned)
    simp [last]
  exact ⟨posts, declared, rfl, _, rfl, rfl, posts.append_ne _, rfl, rfl⟩

end Tablesmith.Schema

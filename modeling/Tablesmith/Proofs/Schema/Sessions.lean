import Tablesmith.Proofs.Schema.Invariants
import Tablesmith.Schema.Database

/-!
# Sessions

A session declares tables and makes builder calls on them, in any order, and
goes on when a step fails.  What a step can add to a table, whether it fails or
not, is what it was given; so every table of a session with proper arguments
holds proper columns and foreign keys.
-/

namespace Tablesmith.Schema

/-! ## Steps -/

/-- A step of a session: a table is declared, or a call is made on the table at
a position. -/
inductive Step where
  | declare (name : Value) (schema : Option String)
  | build (position : Nat) (call : Call)
  deriving Repr

namespace Database

/-- The database after a step, whether the step failed or not. -/
def perform (d : Database) : Step → Database
  | .declare name schema => (d.declare name schema).database
  | .build position call =>
    ⟨d.tables.modify position fun t => (call.perform t).table⟩

def afterSteps (d : Database) (steps : List Step) : Database :=
  steps.foldl perform d

theorem afterSteps_append (d : Database) (steps : List Step) (step : Step) :
    d.afterSteps (steps ++ [step]) = (d.afterSteps steps).perform step := by
  unfold afterSteps
  rw [List.foldl_append, List.foldl_cons, List.foldl_nil]

end Database

/-! ## Proper arguments -/

def IsActionOrNull (v : Value) : Prop :=
  v = .null ∨ ∃ action, v = .referentialAction action

/-- Both actions are given as actions, or left out. -/
def ReferenceActions.IsProper (actions : ReferenceActions) : Prop :=
  ∃ onUpdate onDelete,
    IsActionOrNull onUpdate ∧ IsActionOrNull onDelete ∧
      actions = .of onUpdate onDelete

/-- A target is a table with a text for a name. -/
def Target.IsNamed (target : Target) : Prop :=
  ∃ name, target = .table (.text name)

def expressionKeywords : List String :=
  ["default", "check"]

namespace Call

def keywords : Call → List (Value × Value)
  | .column _ _ keywords => keywords
  | .reference _ _ _ _ keywords => keywords
  | .unique _ => []

/-- What a call lets a column point at, and the actions of that. -/
def reference? : Call → Option (Target × ReferenceActions)
  | .reference _ target _ actions _ => some (target, actions)
  | _ => none

/-- The arguments of a call are proper: names are texts, an expression is a
text or any other value that can be written, a target is a table with a text
for a name, and actions are actions. -/
structure IsProper (call : Call) : Prop where
  textNames : call.HasTextNames
  expressions :
    ∀ e ∈ call.keywords, isOneOf expressionKeywords e.1 = true →
      e.2.isWritable = true
  reference :
    ∀ target actions, call.reference? = some (target, actions) →
      target.IsNamed ∧ actions.IsProper

end Call

def Step.IsProper : Step → Prop
  | .declare name _ => name.IsText
  | .build _ call => call.IsProper

/-! ## Options -/

namespace ColumnOptions

/-- Options are the standard ones, or are given by some of the keywords. -/
def GivenBy (keywords : List (Value × Value)) (options : ColumnOptions) :
    Prop :=
  options = .standard ∨
    ∃ entries, entries ⊆ keywords ∧ ofKeywords entries = .ok options

def IsWritable (options : ColumnOptions) : Prop :=
  options.default.isWritable = true ∧ options.check.isWritable = true

theorem isWritable_expression {v : Value} (writable : v.isWritable = true) :
    (expression v).isWritable = true := by
  unfold expression
  split
  · exact writable
  · rfl

theorem isWritable_lookup
    {entries : List (Value × Value)} {word : String}
    (isKeyword : word ∈ expressionKeywords)
    (writable :
      ∀ e ∈ entries, isOneOf expressionKeywords e.1 = true →
        e.2.isWritable = true) :
    ((Value.lookupText? entries word).getD .null).isWritable = true := by
  cases found : Value.lookupText? entries word with
  | none => rfl
  | some v =>
      unfold Value.lookupText? at found
      obtain ⟨e, isFirst, rfl⟩ := Option.map_eq_some_iff.mp found
      have sameKey : e.1.text? = some word := by
        simpa using List.find?_some isFirst
      apply writable e (List.mem_of_find?_eq_some isFirst)
      cases key : e.1 with
      | text s =>
          rw [key] at sameKey
          cases sameKey
          exact List.contains_iff_mem.mpr isKeyword
      | _ => simp [key, Value.text?] at sameKey

theorem isWritable_of_givenBy
    {keywords : List (Value × Value)} {options : ColumnOptions}
    (given : options.GivenBy keywords)
    (writable :
      ∀ e ∈ keywords, isOneOf expressionKeywords e.1 = true →
        e.2.isWritable = true) :
    options.IsWritable := by
  rcases given with rfl | ⟨entries, subset, parsed⟩
  · exact ⟨rfl, rfl⟩
  · have entriesWritable :
        ∀ e ∈ entries, isOneOf expressionKeywords e.1 = true →
          e.2.isWritable = true :=
      fun e member => writable e (subset member)
    unfold ofKeywords at parsed
    cases checked : checkKeywords "ColumnOptions.__init__"
        ColumnOptions.keywords entries with
    | error fault =>
        rw [checked] at parsed
        cases parsed
    | ok =>
        rw [checked] at parsed
        cases parsed
        exact
          ⟨isWritable_expression
              (isWritable_lookup (by decide) entriesWritable),
            isWritable_expression
              (isWritable_lookup (by decide) entriesWritable)⟩

end ColumnOptions

/-! ## What a call can add -/

namespace Call

def Adds (call : Call) (key : ForeignKey) : Prop :=
  ∃ name referenced keywords,
    call = .reference name key.target referenced key.actions keywords ∧
      Table.namesIn (if referenced.truthy then referenced else name) =
        .ok key.columns

end Call

namespace Table

/-- What a table holds after a call, it held before or the call gave it. -/
structure Extends (call : Call) (t after : Table) : Prop where
  sameTable : after.name = t.name ∧ after.schema = t.schema
  columns :
    ∀ c ∈ after.columns, c ∈ t.columns ∨
      (c.options.GivenBy call.keywords ∧ ∃ type, c.type = .columnType type)
  foreignKeys :
    ∀ entry ∈ after.foreignKeys, entry ∈ t.foreignKeys ∨ call.Adds entry.2

section Extends

variable {call : Call} {t : Table}

theorem Extends.refl (call : Call) (t : Table) : t.Extends call t :=
  ⟨⟨rfl, rfl⟩, fun _ => Or.inl, fun _ => Or.inl⟩

/-- A column that a call gives may be appended, and whatever changes neither
name nor columns nor foreign keys may follow. -/
theorem extends_append
    {c : Column} {type : ColumnType} {after : Table}
    (given : c.options.GivenBy call.keywords)
    (typed : c.type = .columnType type)
    (sameTable : after.name = t.name ∧ after.schema = t.schema)
    (sameColumns : after.columns = (t.append c).columns)
    (foreignKeys :
      ∀ entry ∈ after.foreignKeys,
        entry ∈ (t.append c).foreignKeys ∨ call.Adds entry.2) :
    t.Extends call after where
  sameTable := sameTable
  columns := by
    intro other member
    rw [sameColumns, columns_append, List.mem_append,
      List.mem_singleton] at member
    rcases member with there | rfl
    · exact Or.inl there
    · exact Or.inr ⟨given, type, typed⟩
  foreignKeys := by
    rwa [foreignKeys_append] at foreignKeys

/-- A column of a column type is appended or refused, whatever its name; or the
call fails after the column is there. -/
theorem addColumn_failed_or_done
    (t : Table) (name : Value) (type : ColumnType) (options : ColumnOptions) :
    let c := t.nextColumn name (.columnType type) options
    (∃ after failure, (after = t ∨ after = t.append c) ∧
      t.addColumn name (.columnType type) options = .failed after failure) ∨
      t.addColumn name (.columnType type) options = .done (t.append c) := by
  intro c
  rw [addColumn_columnType]
  split
  · exact Or.inl ⟨_, _, Or.inl rfl, rfl⟩
  · split
    · exact Or.inr rfl
    · split
      · exact Or.inl ⟨_, _, Or.inl rfl, rfl⟩
      · exact Or.inl ⟨_, _, Or.inr rfl, rfl⟩

/-- What a table or the table with one more column may become in a call. -/
theorem extends_of_eq_or_append
    {c : Column} {type : ColumnType} {after : Table}
    (given : c.options.GivenBy call.keywords)
    (typed : c.type = .columnType type)
    (left : after = t ∨ after = t.append c) :
    t.Extends call after := by
  rcases left with rfl | rfl
  · exact Extends.refl call after
  · exact extends_append given typed ⟨rfl, rfl⟩ rfl fun _ => Or.inl

theorem extends_addTypedColumn
    {options : ColumnOptions} (given : options.GivenBy call.keywords)
    (type : ColumnType) (name : Value) :
    t.Extends call (t.addTypedColumn type name options).table := by
  unfold addTypedColumn
  rcases addColumn_failed_or_done t name type options with
    ⟨after, failure, left, failed⟩ | done
  · rw [failed]
    exact extends_of_eq_or_append given rfl left
  · rw [done]
    exact extends_append given rfl ⟨rfl, rfl⟩ rfl fun _ => Or.inl

theorem extends_addPrimaryKeyColumn (name : Value) :
    t.Extends call (t.addPrimaryKeyColumn name).table := by
  have standard : ColumnOptions.standard.GivenBy call.keywords := Or.inl rfl
  unfold addPrimaryKeyColumn
  -- It does not matter which name the column gets.
  generalize (if name.truthy then name else primaryKeyColumn) = own
  rcases addColumn_failed_or_done t own .autoIncrement .standard with
    ⟨after, failure, left, failed⟩ | done
  · simp only [failed]
    exact extends_of_eq_or_append standard rfl left
  · simp only [done, Attempt.andThen, Attempt.done]
    have typed :
        (t.nextColumn own (.columnType .autoIncrement) .standard).type =
          .columnType .autoIncrement := rfl
    apply extends_append standard typed
    · unfold extendPrimaryKey
      split
      · exact ⟨rfl, rfl⟩
      · exact ⟨rfl, rfl⟩
    · exact columns_extendPrimaryKey _ _
    · intro entry member
      rw [foreignKeys_extendPrimaryKey] at member
      exact Or.inl member

theorem foreignKeys_addConstraint (t : Table) (k : Constraint) :
    (t.addConstraint k).foreignKeys =
      t.foreignKeys ++ (k.demand.foreignKey?.map fun key => (k, key)).toList := by
  unfold foreignKeys
  rw [constraints_addConstraint, List.filterMap_append]
  cases demand : k.demand.foreignKey? with
  | none => simp [demand]
  | some key => simp [demand]

theorem extends_addReferenceColumn
    {options : ColumnOptions}
    {name referenced : Value} {target : Target} {actions : ReferenceActions}
    {keywords : List (Value × Value)}
    (isReference :
      call = .reference name target referenced actions keywords)
    (given : options.GivenBy call.keywords) :
    t.Extends call
      (t.addReferenceColumn name target referenced actions options).table := by
  unfold addReferenceColumn
  rcases addColumn_failed_or_done t name .number options with
    ⟨after, failure, left, failed⟩ | done
  · simp only [failed]
    exact extends_of_eq_or_append given rfl left
  · simp only [done, Attempt.andThen, Attempt.done]
    split
    · exact extends_append given rfl ⟨rfl, rfl⟩ rfl fun _ => Or.inl
    next columns names =>
      refine extends_append given rfl ⟨rfl, rfl⟩ rfl ?_
      intro entry member
      rw [← addConstraint, foreignKeys_addConstraint, List.mem_append] at member
      rcases member with there | new
      · exact Or.inl there
      · cases List.mem_singleton.mp new
        exact Or.inr ⟨name, referenced, keywords, isReference, names⟩

theorem addConstraint_extends_of_unique
    (t : Table) (name : Value) (columns : List Column) :
    t.Extends call (t.addConstraint ⟨name, .unique, columns⟩) where
  sameTable := ⟨rfl, rfl⟩
  columns := fun _ => Or.inl
  foreignKeys := by
    intro entry member
    rw [foreignKeys_addConstraint] at member
    exact Or.inl (by simpa [Demand.foreignKey?] using member)

theorem extends_addUniqueOf (columns : Value) :
    t.Extends call (t.addUniqueOf columns).table := by
  unfold addUniqueOf
  split
  · exact Extends.refl call t
  · split
    · exact Extends.refl call t
    next names _ =>
      unfold addUnique
      split
      · exact Extends.refl call t
      · simp only
        split
        · exact Extends.refl call t
        · exact addConstraint_extends_of_unique t _ _

/-- The other keywords are those that do not give the name. -/
theorem nameArgument_rest
    {callee : String} {name found : Option Value}
    {keywords rest : List (Value × Value)}
    (read : nameArgument callee name keywords = .ok (found, rest)) :
    rest = keywords.filter fun e => !isOneOf ["name"] e.1 := by
  unfold nameArgument at read
  simp only at read
  split at read
  · cases read
  · split at read
    · cases read
    · injection read with pairEquality
      exact (congrArg Prod.snd pairEquality).symm
    · injection read with pairEquality
      exact (congrArg Prod.snd pairEquality).symm

theorem givenBy_of_typedArguments
    {callee : String} {name : Option Value}
    {keywords : List (Value × Value)} {given : Value}
    {options : ColumnOptions}
    (read : typedArguments callee name keywords = .ok (given, options)) :
    options.GivenBy keywords := by
  unfold typedArguments at read
  split at read
  · cases read
  · cases read
  next own rest nameRead =>
    cases parsed : ColumnOptions.ofKeywords rest with
    | error fault =>
        rw [parsed] at read
        cases read
    | ok settings =>
        rw [parsed] at read
        cases read
        have others : rest ⊆ keywords := by
          rw [nameArgument_rest nameRead]
          exact List.filter_sublist.subset
        exact Or.inr ⟨rest, others, parsed⟩

/-- A call adds to a table nothing but what it gives, whether it fails or
not. -/
theorem extends_perform (call : Call) (t : Table) :
    t.Extends call (call.perform t).table := by
  cases call with
  | column kind name keywords =>
      unfold Call.perform addColumnOf
      simp only
      split
      · split
        · exact Extends.refl _ t
        · exact extends_addPrimaryKeyColumn _
      · split
        · exact Extends.refl _ t
        · split
          · exact Extends.refl _ t
          next given options read =>
            exact extends_addTypedColumn (givenBy_of_typedArguments read) _ _
  | reference name target referenced actions keywords =>
      cases parsed : ColumnOptions.ofKeywords keywords with
      | error fault =>
          simp only [Call.perform, parsed]
          exact Extends.refl _ t
      | ok options =>
          have given : options.GivenBy keywords :=
            Or.inr ⟨keywords, List.Subset.refl _, parsed⟩
          simp only [Call.perform, parsed]
          exact extends_addReferenceColumn rfl given
  | unique columns => exact extends_addUniqueOf columns

end Extends

end Table

/-! ## Proper tables -/

structure Column.IsProper (c : Column) : Prop where
  typed : ∃ type, c.type = .columnType type
  writable : c.options.IsWritable

/-- A foreign key points at a table and at columns by their names, and its
actions are actions. -/
structure ForeignKey.IsProper (key : ForeignKey) : Prop where
  target : key.target.IsNamed
  columns : ∀ name ∈ key.columns, name.IsText
  actions :
    ∃ onUpdate onDelete,
      key.actions =
        ⟨.referentialAction onUpdate, .referentialAction onDelete⟩

/-- A table is sound, and holds nothing but proper columns and foreign
keys. -/
structure Table.IsProper (t : Table) : Prop where
  sound : t.Sound
  textName : t.name.IsText
  columns : ∀ c ∈ t.columns, c.IsProper
  foreignKeys : ∀ entry ∈ t.foreignKeys, entry.2.IsProper

/-- Actions that are left out are actions all the same. -/
theorem ReferenceActions.IsProper.exists_eq
    {actions : ReferenceActions} (proper : actions.IsProper) :
    ∃ onUpdate onDelete,
      actions = ⟨.referentialAction onUpdate, .referentialAction onDelete⟩ := by
  have standing {v : Value} (isAction : IsActionOrNull v) :
      ∃ action,
        orStandard (.referentialAction .cascade) v =
          .referentialAction action := by
    rcases isAction with rfl | ⟨action, rfl⟩
    · exact ⟨.cascade, rfl⟩
    · exact ⟨action, rfl⟩
  obtain ⟨given, other, updateAction, deleteAction, rfl⟩ := proper
  obtain ⟨onUpdate, isUpdate⟩ := standing updateAction
  obtain ⟨onDelete, isDelete⟩ := standing deleteAction
  refine ⟨onUpdate, onDelete, ?_⟩
  unfold ReferenceActions.of
  rw [isUpdate, isDelete]

theorem ForeignKey.isProper_of_adds
    {call : Call} (proper : call.IsProper)
    {key : ForeignKey} (added : call.Adds key) :
    key.IsProper := by
  obtain ⟨name, referenced, keywords, rfl, names⟩ := added
  obtain ⟨targetNamed, actionsProper⟩ :=
    proper.reference key.target key.actions rfl
  refine ⟨targetNamed, ?_, actionsProper.exists_eq⟩
  have pointed :
      (if referenced.truthy then referenced else name).IsText := by
    rcases proper.textNames.2 with isText | rfl
    · split
      · exact isText
      · exact proper.textNames.1
    · exact proper.textNames.1
  obtain ⟨word, isWord⟩ := pointed
  rw [isWord] at names
  injection names with oneName
  intro given member
  rw [← oneName] at member
  exact ⟨word, List.mem_singleton.mp member⟩

namespace Table

theorem isProper_empty
    (id : TableId) {name : Value} (nameText : name.IsText)
    (schema : Option String) :
    (Table.empty id name schema).IsProper where
  sound := sound_empty id name schema
  textName := nameText
  columns := by
    intro c member
    cases member
  foreignKeys := by
    intro entry member
    cases member

theorem isProper_perform
    {t : Table} (proper : t.IsProper)
    {call : Call} (callProper : call.IsProper) :
    (call.perform t).table.IsProper := by
  have added := extends_perform call t
  have writable := proper.textName.isWritable
  refine ⟨sound_perform proper.sound writable callProper.textNames, ?_, ?_, ?_⟩
  · rw [added.sameTable.1]
    exact proper.textName
  · intro c member
    rcases added.columns c member with there | ⟨given, typed⟩
    · exact proper.columns c there
    · exact ⟨typed,
        ColumnOptions.isWritable_of_givenBy given callProper.expressions⟩
  · intro entry member
    rcases added.foreignKeys entry member with there | new
    · exact proper.foreignKeys entry there
    · exact ForeignKey.isProper_of_adds callProper new

end Table

namespace Database

def IsProper (d : Database) : Prop :=
  ∀ t ∈ d.tables, t.IsProper

section Declare

variable {d after : Database} {name : Value} {schema : Option String}

/-- How a declaration ends: it fails and leaves the database as it is, or the
table comes last, under a name that no other table had. -/
theorem declare_cases (d : Database) (name : Value) (schema : Option String) :
    (∃ failure, d.declare name schema = ⟨d, .error failure⟩) ∨
      (isTableName name = .ok true ∧
        d.table? (d.nextTable name schema).qualifiedName = none ∧
        d.declare name schema =
          ⟨⟨d.tables ++ [d.nextTable name schema]⟩,
            if name.isWritable then .ok ()
            else .error (.number .tooLongToWrite)⟩) := by
  have refused (report : Report) :
      ∃ failure : Failure,
        (if name.isWritable then Except.error (.report report)
          else .error (.number .tooLongToWrite)) =
          (.error failure : Except Failure Unit) := by
    split
    · exact ⟨_, rfl⟩
    · exact ⟨_, rfl⟩
  unfold declare
  cases named : isTableName name with
  | error fault => exact .inl ⟨_, rfl⟩
  | ok isName =>
      cases isName with
      | false =>
          obtain ⟨failure, fails⟩ := refused (invalidName name)
          exact .inl ⟨failure, by simp only [fails]⟩
      | true =>
          simp only [Table.qualifiedName?]
          by_cases canAsk :
              ((d.nextTable name schema).schema = publicSchema ||
                (d.nextTable name schema).name.isWritable) = true
          · rw [if_pos canAsk]
            simp only
            cases free : d.table? (d.nextTable name schema).qualifiedName with
            | some other =>
                obtain ⟨failure, fails⟩ :=
                  refused (tableTaken (d.nextTable name schema).qualifiedName)
                exact .inl ⟨failure, by simp only [fails]⟩
            | none => exact .inr ⟨trivial, rfl, rfl⟩
          · rw [if_neg canAsk]
            exact .inl ⟨_, rfl⟩

theorem declare_of_addTable
    (added : d.addTable name schema = .ok after) :
    (d.declare name schema).result = .ok () ∧
      (d.declare name schema).database = after := by
  unfold addTable at added
  simp only at added
  cases result : (d.declare name schema).result with
  | error failure =>
      rw [result] at added
      cases added
  | ok =>
      rw [result] at added
      cases added
      exact ⟨rfl, rfl⟩

/-- A table that is added comes last, and no table had its name. -/
theorem addTable_eq_ok (added : d.addTable name schema = .ok after) :
    after = ⟨d.tables ++ [d.nextTable name schema]⟩ ∧
      d.table? (d.nextTable name schema).qualifiedName = none := by
  obtain ⟨succeeded, rfl⟩ := declare_of_addTable added
  rcases declare_cases d name schema with ⟨failure, ends⟩ | ⟨_, free, ends⟩
  · rw [ends] at succeeded
    cases succeeded
  · rw [ends]
    exact ⟨rfl, free⟩

/-- The name of a table that is added can be written. -/
theorem isWritable_of_addTable (added : d.addTable name schema = .ok after) :
    name.isWritable = true := by
  obtain ⟨succeeded, _⟩ := declare_of_addTable added
  rcases declare_cases d name schema with ⟨failure, ends⟩ | ⟨_, _, ends⟩
  · rw [ends] at succeeded
    cases succeeded
  · rw [ends] at succeeded
    by_contra unwritable
    simp only [if_neg unwritable] at succeeded
    cases succeeded

theorem perform_of_addTable (added : d.addTable name schema = .ok after) :
    d.perform (.declare name schema) = after :=
  (declare_of_addTable added).2

theorem perform_declare
    (returned : (d.addTable name schema).isOk = true) :
    d.perform (.declare name schema) =
      ⟨d.tables ++ [d.nextTable name schema]⟩ := by
  cases added : d.addTable name schema with
  | error failure =>
      rw [added] at returned
      cases returned
  | ok after =>
      rw [perform_of_addTable added]
      exact (addTable_eq_ok added).1

/-- A text is refused as the name of a table, or the table comes last. -/
theorem perform_declare_of_isText
    (nameText : name.IsText) :
    d.perform (.declare name schema) = d ∨
      d.addTable name schema = .ok (d.perform (.declare name schema)) := by
  change (d.declare name schema).database = d ∨
    d.addTable name schema = .ok (d.declare name schema).database
  unfold addTable
  rcases declare_cases d name schema with ⟨failure, ends⟩ | ⟨_, _, ends⟩
  · rw [ends]
    exact .inl rfl
  · rw [ends, if_pos nameText.isWritable]
    exact .inr rfl

end Declare

/-- What holds of new tables and is kept by the calls of a session holds of all
tables that the session leaves. -/
theorem forall_tables_afterSteps
    {holds : Table → Prop} {d : Database} {steps : List Step}
    (before : ∀ t ∈ d.tables, holds t)
    (declared :
      ∀ id name schema, .declare name schema ∈ steps →
        isTableName name = .ok true → holds (.empty id name schema))
    (kept :
      ∀ position call, .build position call ∈ steps →
        ∀ t, holds t → holds (call.perform t).table) :
    ∀ t ∈ (d.afterSteps steps).tables, holds t := by
  induction steps generalizing d with
  | nil => exact before
  | cons step rest inductionHypothesis =>
      have after : ∀ t ∈ (d.perform step).tables, holds t := by
        cases step with
        | declare name schema =>
            change ∀ t ∈ (d.declare name schema).database.tables, holds t
            rcases declare_cases d name schema with
              ⟨failure, ends⟩ | ⟨isName, _, ends⟩
            · rw [ends]
              exact before
            · rw [ends, List.forall_mem_append, List.forall_mem_singleton]
              exact ⟨before, declared _ _ _ List.mem_cons_self isName⟩
        | build position call =>
            -- Only the table at the position changes.
            intro t member
            unfold perform at member
            obtain ⟨i, inside⟩ := List.mem_iff_getElem?.mp member
            rw [List.getElem?_modify] at inside
            obtain ⟨old, there, rfl⟩ := Option.map_eq_some_iff.mp inside
            have oldHolds := before old (List.mem_of_getElem? there)
            split
            · exact kept _ _ List.mem_cons_self old oldHolds
            · exact oldHolds
      exact inductionHypothesis after
        (fun id name schema later =>
          declared id name schema (List.mem_cons_of_mem _ later))
        (fun position call later =>
          kept position call (List.mem_cons_of_mem _ later))

/-- Steps with proper arguments keep every table of a database proper, whether
they fail or not. -/
theorem isProper_afterSteps
    {d : Database} (proper : d.IsProper)
    {steps : List Step} (stepsProper : ∀ step ∈ steps, step.IsProper) :
    (d.afterSteps steps).IsProper := by
  apply forall_tables_afterSteps proper
  · intro id name schema member _
    have nameText : name.IsText := stepsProper _ member
    exact Table.isProper_empty id nameText schema
  · intro position call member t tableProper
    have callProper : call.IsProper := stepsProper _ member
    exact Table.isProper_perform tableProper callProper

end Database

end Tablesmith.Schema

import Tablesmith.Proofs.Schema.Names
import Tablesmith.Schema.Call

/-!
# What a builder call can do

A sequence of builder calls is data: each call with its arguments.  A call
whose names are texts either fails and leaves the table as it is, or makes one
of four additions.  Everything that is said about tables under construction
follows from these four.
-/

namespace Tablesmith.Schema

/-- A builder call with its arguments. -/
inductive Call where
  | column
      (kind : String)
      (name : Option Value)
      (keywords : List (Value × Value))
  | reference
      (name : Value)
      (target : Target)
      (referenced : Value)
      (actions : ReferenceActions)
      (keywords : List (Value × Value))
  | unique (columns : Value)
  deriving Repr

namespace Call

def perform (t : Table) : Call → Attempt
  | .column kind name keywords => t.addColumnOf kind name keywords
  | .reference name target referenced actions keywords =>
    match ColumnOptions.ofKeywords keywords with
    | .error fault => .failed t (.call fault)
    | .ok options =>
      t.addReferenceColumn name target referenced actions options
  | .unique columns => t.addUniqueOf columns

/-- The names in a call are texts.  A primary key column and the column that a
reference points at need no name. -/
def HasTextNames : Call → Prop
  | .column kind name keywords =>
    ∀ given, name = some given ∨
        Value.lookupText? keywords "name" = some given →
      given.IsText ∨ (kind = "primary_key" ∧ given = .null)
  | .reference name _ referenced _ _ =>
    name.IsText ∧ (referenced.IsText ∨ referenced = .null)
  | .unique columns =>
    ∀ names, Table.namesIn columns = .ok names →
      ∀ name ∈ names, name.IsText

end Call

/-- The table after a sequence of calls, whether they failed or not. -/
def Table.afterCalls (t : Table) (calls : List Call) : Table :=
  calls.foldl (fun reached call => (call.perform reached).table) t

namespace Table

@[simp]
theorem afterCalls_append (t : Table) (calls : List Call) (call : Call) :
    t.afterCalls (calls ++ [call]) =
      (call.perform (t.afterCalls calls)).table := by
  simp [afterCalls]

/-! ## The four additions -/

/-- The column that is added to a table next: its name is a text that no
column has. -/
structure Fresh (t : Table) (c : Column) : Prop where
  textName : c.name.IsText
  freeName : ∀ other ∈ t.columns, other.name ≠ c.name

def addConstraint (t : Table) (k : Constraint) : Table :=
  { t with constraints := t.constraints ++ [k] }

/-- What a successful builder call makes of a table. -/
inductive Addition (t : Table) : Table → Prop
  | key {c : Column} :
      t.Fresh c →
      c.type = .columnType .autoIncrement →
      c.options = .standard →
      Addition t ((t.append c).extendPrimaryKey c)
  | plain {c : Column} {type : ColumnType} :
      t.Fresh c →
      c.type = .columnType type →
      type ≠ .autoIncrement →
      Addition t (t.append c)
  | reference {c : Column} {key : ForeignKey} {column : Value} :
      t.Fresh c →
      c.type = .columnType .number →
      key.columns = [column] →
      Addition t
        ((t.append c).addConstraint
          ⟨foreignKeyName c.name, .foreignKey key, [c]⟩)
  | unique {columns : List Column} {name : Value} :
      columns.Sublist t.columns →
      2 ≤ columns.length →
      Addition t (t.addConstraint ⟨name, .unique, columns⟩)

/-- How a call with text names ends: it fails and leaves the table as it is,
or it succeeds with an addition. -/
def Ends (t : Table) (a : Attempt) : Prop :=
  (a.table = t ∧ ∃ failure, a.result = .error failure) ∨
    (t.Addition a.table ∧ a.result = .ok ())

theorem ends_failed (t : Table) (failure : Failure) :
    t.Ends (.failed t failure) :=
  Or.inl ⟨rfl, failure, rfl⟩

theorem ends_done {t after : Table} (addition : t.Addition after) :
    t.Ends (.done after) :=
  Or.inr ⟨addition, rfl⟩

/-! ## Columns -/

/-- How a column of a column type is added, whatever its name. -/
theorem addColumn_columnType
    (t : Table) (name : Value) (type : ColumnType) (options : ColumnOptions) :
    let c := t.nextColumn name (.columnType type) options
    t.addColumn name (.columnType type) options =
      if (t.column? name).isSome then .failed t (t.columnTaken name)
      else if t.canNote name then .done (t.append c)
      else if options.unique.truthy && !name.isWritable then
        .failed t (.number .tooLongToWrite)
      else .failed (t.append c) (.number .tooLongToWrite) := by
  intro c
  unfold addColumn canNote
  by_cases writable : name.isWritable = true
  · have shown :
        c.inspect =
          .ok ("Column(" ++ name.inspect ++ ", " ++ type.word ++ ")") :=
      if_pos writable
    simp only [writable, Bool.not_true, Bool.and_false, Bool.true_and,
      Bool.false_eq_true, if_false]
    rw [shown]
  · have unwritten : name.isWritable = false := eq_false_of_ne_true writable
    have notShown : c.inspect = .error (.number .tooLongToWrite) :=
      if_neg writable
    simp only [unwritten, Bool.not_false, Bool.and_true, Bool.false_and,
      Bool.false_eq_true, if_false]
    rw [notShown]

/-- A column of a column type is appended if its name is free and can be
written, and so can that of the table. -/
theorem addColumn_of_free
    {t : Table} {name : Value}
    (free : t.column? name = none) (noted : t.canNote name = true)
    (type : ColumnType) (options : ColumnOptions) :
    t.addColumn name (.columnType type) options =
      .done (t.append (t.nextColumn name (.columnType type) options)) := by
  rw [addColumn_columnType, free, if_neg (by simp), if_pos noted]

theorem canNote_of_isText
    {t : Table} {name : Value}
    (writable : t.name.isWritable = true) (nameText : name.IsText) :
    t.canNote name = true :=
  (Bool.and_eq_true _ _).mpr ⟨nameText.isWritable, writable⟩

section Additions

variable {t : Table}

/-- Adding a column of a column type fails if the name is taken, and otherwise
appends the column. -/
theorem addColumn_cases
    (writable : t.name.isWritable = true)
    {name : Value} (nameText : name.IsText)
    (type : ColumnType) (options : ColumnOptions) :
    let c := t.nextColumn name (.columnType type) options
    (∃ failure,
      t.addColumn name (.columnType type) options = .failed t failure) ∨
      (t.Fresh c ∧
        t.addColumn name (.columnType type) options = .done (t.append c)) := by
  intro c
  cases taken : t.column? name with
  | some other =>
      rw [addColumn_columnType, taken, if_pos (by simp)]
      exact Or.inl ⟨_, rfl⟩
  | none =>
      have free := (column?_eq_none_iff nameText).mp taken
      exact Or.inr ⟨⟨nameText, free⟩,
        addColumn_of_free taken (canNote_of_isText writable nameText) type
          options⟩

theorem addTypedColumn_ends
    (writable : t.name.isWritable = true)
    {name : Value} (nameText : name.IsText)
    {type : ColumnType} (plain : type ≠ .autoIncrement)
    (options : ColumnOptions) :
    t.Ends (t.addTypedColumn type name options) := by
  unfold addTypedColumn
  rcases addColumn_cases writable nameText type options with
    ⟨failure, failed⟩ | ⟨fresh, done⟩
  · rw [failed]
    exact ends_failed t failure
  · rw [done]
    exact ends_done (.plain fresh rfl plain)

theorem addPrimaryKeyColumn_ends
    (writable : t.name.isWritable = true)
    {name : Value} (nameText : name.IsText ∨ name = .null) :
    t.Ends (t.addPrimaryKeyColumn name) := by
  have givenText :
      (if name.truthy then name else primaryKeyColumn).IsText := by
    rcases nameText with isText | rfl
    · split
      · exact isText
      · exact ⟨"id", rfl⟩
    · exact ⟨"id", rfl⟩
  unfold addPrimaryKeyColumn
  rcases addColumn_cases writable givenText .autoIncrement .standard with
    ⟨failure, failed⟩ | ⟨fresh, done⟩
  · simp only [failed]
    exact ends_failed t failure
  · simp only [done]
    exact ends_done (.key fresh rfl rfl)

theorem addReferenceColumn_ends
    (writable : t.name.isWritable = true)
    {name column : Value} (nameText : name.IsText)
    (columnText : column.IsText ∨ column = .null)
    (target : Target) (actions : ReferenceActions) (options : ColumnOptions) :
    t.Ends (t.addReferenceColumn name target column actions options) := by
  have oneName :
      ∃ referenced,
        namesIn (if column.truthy then column else name) =
          .ok [referenced] := by
    obtain ⟨own, rfl⟩ := nameText
    rcases columnText with ⟨given, rfl⟩ | rfl
    · split <;> exact ⟨_, rfl⟩
    · exact ⟨_, rfl⟩
  obtain ⟨referenced, names⟩ := oneName
  unfold addReferenceColumn
  rcases addColumn_cases writable nameText .number options with
    ⟨failure, failed⟩ | ⟨fresh, done⟩
  · simp only [failed]
    exact ends_failed t failure
  · simp only [done, Attempt.andThen, Attempt.done, names]
    exact ends_done (.reference fresh rfl rfl)

end Additions

/-! ## Uniqueness constraints -/

/-- What a table says about the names of a uniqueness constraint: there are at
least two, none comes twice, and each is the name of a column. -/
structure CanBeUnique (t : Table) (names : List Value) : Prop where
  several : 2 ≤ names.length
  different : names.Nodup
  known : ∀ name ∈ names, name ∈ t.columns.map Column.name

theorem firstUnkeyable?_of_keyable
    {t : Table} (keyable : t.HasKeyableNames)
    {names : List Value} (nameTexts : ∀ name ∈ names, name.IsText) :
    Value.firstUnkeyable? (t.columns.map Column.name ++ names) = none := by
  rw [Value.firstUnkeyable?_eq_none_iff, List.forall_mem_append,
    List.forall_mem_map]
  exact ⟨keyable, fun name member => (nameTexts name member).unkeyable?_eq_none⟩

/-- A text is among the names of a table exactly if it is the name of a
column. -/
theorem any_name_iff (t : Table) {name : Value} (text : name.IsText) :
    ((t.columns.map Column.name).any fun k => k == name) = true ↔
      name ∈ t.columns.map Column.name := by
  rw [List.any_eq_true]
  constructor
  · rintro ⟨known, member, same⟩
    exact (Value.beq_iff_eq_of_isText text).mp same ▸ member
  · intro member
    exact ⟨name, member, (Value.beq_iff_eq_of_isText text).mpr rfl⟩

theorem missing_isEmpty_iff
    (t : Table) {names : List Value}
    (nameTexts : ∀ name ∈ names, name.IsText) :
    (names.filter fun n =>
        !(t.columns.map Column.name).any fun k => k == n).isEmpty = true ↔
      ∀ name ∈ names, name ∈ t.columns.map Column.name := by
  rw [List.isEmpty_iff, List.filter_eq_nil_iff]
  apply forall₂_congr
  intro name member
  rw [Bool.not_eq_true, Bool.not_eq_false',
    t.any_name_iff (nameTexts name member)]

theorem checkUnique_eq_ok_iff
    {t : Table} (keyable : t.HasKeyableNames)
    {names : List Value} (nameTexts : ∀ name ∈ names, name.IsText) :
    t.checkUnique names = .ok () ↔ t.CanBeUnique names := by
  unfold checkUnique
  by_cases few : names.length < 2
  · rw [if_pos few]
    constructor
    · intro impossible
      cases impossible
    · intro fits
      exact absurd fits.several (by omega)
  · rw [if_neg few]
    simp only [firstUnkeyable?_of_keyable keyable nameTexts]
    split
    next fits =>
      rw [Bool.and_eq_true, t.missing_isEmpty_iff nameTexts,
        allDifferent_iff_nodup nameTexts] at fits
      exact iff_of_true rfl ⟨by omega, fits.2, fits.1⟩
    next misfits =>
      rw [Bool.and_eq_true, t.missing_isEmpty_iff nameTexts,
        allDifferent_iff_nodup nameTexts] at misfits
      refine iff_of_false (by simp) ?_
      intro fits
      exact misfits ⟨fits.known, fits.different⟩

/-- The columns of a table with one of the given names, in the order of the
table. -/
def columnsNamed (t : Table) (names : List Value) : List Column :=
  t.columns.filter fun c => names.any fun n => c.name == n

theorem columnsNamed_sublist (t : Table) (names : List Value) :
    (t.columnsNamed names).Sublist t.columns :=
  List.filter_sublist

theorem mem_columnsNamed_iff
    {t : Table} {names : List Value}
    (nameTexts : ∀ name ∈ names, name.IsText) {c : Column} :
    c ∈ t.columnsNamed names ↔ c ∈ t.columns ∧ c.name ∈ names := by
  unfold columnsNamed
  rw [List.mem_filter, List.any_eq_true]
  apply and_congr_right
  intro _
  constructor
  · rintro ⟨name, member, same⟩
    have isName :=
      (Value.beq_iff_eq_of_isText (nameTexts name member)).mp same
    exact isName ▸ member
  · intro member
    exact ⟨c.name, member,
      (Value.beq_iff_eq_of_isText (nameTexts c.name member)).mpr rfl⟩

/-- No name of a uniqueness constraint is lost. -/
theorem names_subset_columnsNamed
    {t : Table} {names : List Value}
    (nameTexts : ∀ name ∈ names, name.IsText)
    (fits : t.CanBeUnique names) :
    names ⊆ (t.columnsNamed names).map Column.name := by
  intro name member
  obtain ⟨c, columnMember, rfl⟩ := List.mem_map.mp (fits.known name member)
  exact List.mem_map.mpr
    ⟨c, (mem_columnsNamed_iff nameTexts).mpr ⟨columnMember, member⟩, rfl⟩

/-- Different names of columns choose different columns, so that there are at
least two. -/
theorem two_le_length_columnsNamed
    {t : Table} {names : List Value}
    (nameTexts : ∀ name ∈ names, name.IsText)
    (fits : t.CanBeUnique names) :
    2 ≤ (t.columnsNamed names).length := by
  have covered := names_subset_columnsNamed nameTexts fits
  have bound := (fits.different.subperm covered).length_le
  rw [List.length_map] at bound
  have several := fits.several
  omega

theorem addUnique_of_checked
    {t : Table} {names : List Value} {joined : Value}
    (checked : t.checkUnique names = .ok ())
    (joins :
      joinNames "_" ((t.columnsNamed names).map Column.name) = .ok joined) :
    t.addUnique names =
      .done (t.addConstraint
        ⟨uniqueName joined, .unique, t.columnsNamed names⟩) := by
  unfold columnsNamed at joins
  unfold addUnique
  simp only [checked, joins]
  rfl

theorem addUnique_ends
    {t : Table} (texts : t.HasTextNames)
    {names : List Value} (nameTexts : ∀ name ∈ names, name.IsText) :
    t.Ends (t.addUnique names) := by
  cases checked : t.checkUnique names with
  | error failure =>
      unfold addUnique
      rw [checked]
      exact ends_failed t failure
  | ok =>
      have fits := (checkUnique_eq_ok_iff texts.keyable nameTexts).mp checked
      have bound := two_le_length_columnsNamed nameTexts fits
      have chosenTexts :
          ∀ v ∈ (t.columnsNamed names).map Column.name, v.IsText := by
        intro v member
        obtain ⟨c, columnMember, rfl⟩ := List.mem_map.mp member
        exact texts c ((t.columnsNamed_sublist names).subset columnMember)
      obtain ⟨words, chosen⟩ := Value.exists_eq_map_text chosenTexts
      have joins :
          joinNames "_" ((t.columnsNamed names).map Column.name) =
            .ok (.text (String.intercalate "_" words)) := by
        rw [chosen, joinNames_map_text]
      rw [addUnique_of_checked checked joins]
      exact ends_done (.unique (t.columnsNamed_sublist names) bound)

theorem addUniqueOf_ends
    {t : Table} (texts : t.HasTextNames)
    {columns : Value}
    (nameTexts :
      ∀ names, namesIn columns = .ok names → ∀ name ∈ names, name.IsText) :
    t.Ends (t.addUniqueOf columns) := by
  unfold addUniqueOf
  split
  next =>
    exact ends_failed t _
  next =>
    cases found : namesIn columns with
    | error fault =>
        exact ends_failed t _
    | ok names =>
        exact addUnique_ends texts (nameTexts names found)

/-! ## Arguments by keyword -/

theorem nameArgument_given
    {callee : String} {name : Option Value}
    {keywords rest : List (Value × Value)} {found : Option Value}
    (read : nameArgument callee name keywords = .ok (found, rest)) :
    ∀ given, found = some given →
      name = some given ∨ Value.lookupText? keywords "name" = some given := by
  intro given isGiven
  unfold nameArgument at read
  simp only at read
  split at read
  · cases read
  · cases name with
    | none =>
        injection read with pairEquality
        injection pairEquality with same _
        exact Or.inr (same.trans isGiven)
    | some own =>
        cases keyed : Value.lookupText? keywords "name" with
        | some other =>
            rw [keyed] at read
            cases read
        | none =>
            rw [keyed] at read
            cases read
            exact Or.inl isGiven

theorem typedArguments_given
    {callee : String} {name : Option Value}
    {keywords : List (Value × Value)} {given : Value}
    {options : ColumnOptions}
    (read : typedArguments callee name keywords = .ok (given, options)) :
    name = some given ∨ Value.lookupText? keywords "name" = some given := by
  unfold typedArguments at read
  split at read
  · cases read
  · cases read
  next own rest nameRead =>
    have same : own = given := by
      cases parsed : ColumnOptions.ofKeywords rest with
      | error fault =>
          rw [parsed] at read
          cases read
      | ok settings =>
          rw [parsed] at read
          cases read
          rfl
    exact nameArgument_given nameRead given (congrArg some same)

/-- A primary key column for which no name is given gets none. -/
theorem primaryKeyArguments_given
    {callee : String} {name : Option Value}
    {keywords : List (Value × Value)} {given : Value}
    (read : primaryKeyArguments callee name keywords = .ok given) :
    given = .null ∨ name = some given ∨
      Value.lookupText? keywords "name" = some given := by
  unfold primaryKeyArguments at read
  split at read
  · cases read
  next found nameRead =>
    cases found with
    | none =>
        cases read
        exact Or.inl rfl
    | some own =>
        cases read
        exact Or.inr (nameArgument_given nameRead own rfl)
  · cases read

/-- A column that counts up by itself cannot be asked for by its word. -/
theorem typeOfWord?_ne_autoIncrement
    {word : String} {type : ColumnType}
    (found : typeOfWord? word = some type) :
    type ≠ .autoIncrement := by
  have member : type ∈ plainColumnTypes := List.mem_of_find?_eq_some found
  rintro rfl
  revert member
  decide

theorem addColumnOf_ends
    {t : Table} (writable : t.name.isWritable = true)
    {kind : String} {name : Option Value} {keywords : List (Value × Value)}
    (textNames : (Call.column kind name keywords).HasTextNames) :
    t.Ends (t.addColumnOf kind name keywords) := by
  unfold addColumnOf
  simp only
  split
  next isKey =>
    split
    · exact ends_failed t _
    next given read =>
      apply addPrimaryKeyColumn_ends writable
      rcases primaryKeyArguments_given read with absent | isGiven
      · exact Or.inr absent
      · exact (textNames given isGiven).imp (fun isText => isText) And.right
  next notKey =>
    split
    · exact ends_failed t _
    next type found =>
      split
      · exact ends_failed t _
      next given options read =>
        have isGiven := typedArguments_given read
        rcases textNames given isGiven with isText | ⟨isKey, _⟩
        · exact addTypedColumn_ends writable isText
            (typeOfWord?_ne_autoIncrement found) options
        · exact absurd isKey notKey

/-- A call with text names on a table whose name can be written fails and leaves
the table as it is, or makes an addition. -/
theorem perform_ends
    {t : Table} (writable : t.name.isWritable = true)
    (texts : t.HasTextNames)
    {call : Call} (textNames : call.HasTextNames) :
    t.Ends (call.perform t) := by
  cases call with
  | column kind name keywords =>
      exact addColumnOf_ends writable textNames
  | reference name target referenced actions keywords =>
      cases parsed : ColumnOptions.ofKeywords keywords with
      | error fault =>
          simp only [Call.perform, parsed]
          exact ends_failed t _
      | ok options =>
          simp only [Call.perform, parsed]
          exact addReferenceColumn_ends writable textNames.1 textNames.2
            target actions options
  | unique columns =>
      exact addUniqueOf_ends texts textNames

end Table

end Tablesmith.Schema

import Mathlib.Data.List.Forall2
import Tablesmith.Config.Validation

/-!
# What an accepted configuration is

Each lemma reads the success of one check as what the check demands.  Together
they say from which parts of a value the parts of a configuration are read,
and which definitions can occur in it at all.
-/

namespace Tablesmith.Config

/-! ## Single checks -/

namespace Checked

variable {α β : Type}

theorem map_eq_ok_iff {x : Checked α} {f : α → β} {b : β} :
    x.map f = .ok b ↔ ∃ a, x = .ok a ∧ f a = b := by
  cases x with
  | error faults => simp [Except.map]
  | ok a => simp [Except.map]

theorem bind_eq_ok_iff {x : Checked α} {f : α → Checked β} {b : β} :
    x.bind f = .ok b ↔ ∃ a, x = .ok a ∧ f a = .ok b := by
  cases x with
  | error faults => simp [Except.bind]
  | ok a => simp [Except.bind]

theorem both_eq_ok_iff {x : Checked α} {y : Checked β} {a : α} {b : β} :
    x.both y = .ok (a, b) ↔ x = .ok a ∧ y = .ok b := by
  cases x with
  | error faults => simp [both]
  | ok first =>
      cases y with
      | error faults => simp [both]
      | ok second => simp [both]

theorem within_eq_ok_iff {place : Place} {x : Checked α} {a : α} :
    x.within place = .ok a ↔ x = .ok a := by
  cases x with
  | error faults => simp [within, Except.mapError]
  | ok b => simp [within, Except.mapError]

theorem eachFrom_eq_ok_iff
    {check : Value → Checked α} {position : Nat}
    {items : List Value} {xs : List α} :
    eachFrom check position items = .ok xs ↔
      List.Forall₂ (fun v x => check v = .ok x) items xs := by
  induction items generalizing position xs with
  | nil =>
      rw [List.forall₂_nil_left_iff, eachFrom]
      constructor
      · intro equality
        cases equality
        rfl
      · rintro rfl
        rfl
  | cons v rest inductionHypothesis =>
      rw [List.forall₂_cons_left_iff, eachFrom, map_eq_ok_iff]
      constructor
      · rintro ⟨⟨x, others⟩, checked, rfl⟩
        obtain ⟨head, tail⟩ := both_eq_ok_iff.mp checked
        exact ⟨x, others, within_eq_ok_iff.mp head,
          inductionHypothesis.mp tail, rfl⟩
      · rintro ⟨x, others, head, tail, rfl⟩
        exact ⟨(x, others), both_eq_ok_iff.mpr
          ⟨within_eq_ok_iff.mpr head, inductionHypothesis.mpr tail⟩, rfl⟩

theorem problem_ne_ok {p : Problem} {a : α} :
    (problem p : Checked α) ≠ .ok a := by
  intro equality
  cases equality

end Checked

theorem checkFilledText_ne_empty
    {v : Value} {s : String} (accepted : checkFilledText v = .ok s) :
    s ≠ "" := by
  obtain ⟨given, _, filled⟩ := Checked.bind_eq_ok_iff.mp accepted
  rintro rfl
  split at filled
  · exact Checked.problem_ne_ok filled
  next notEmpty =>
    cases filled
    exact notEmpty rfl

theorem checkList_eq_ok_iff
    {α : Type} {check : Value → Checked α} {v : Value} {xs : List α} :
    checkList check v = .ok xs ↔
      ∃ items, v.elements? = some items ∧
        List.Forall₂ (fun item x => check item = .ok x) items xs := by
  unfold checkList
  cases v.elements? with
  | none => simp [Checked.problem]
  | some items => simp [Checked.eachFrom_eq_ok_iff]

theorem checkFilledList_eq_ok_iff
    {α : Type} {check : Value → Checked α} {v : Value} {xs : List α} :
    checkFilledList check v = .ok xs ↔
      checkList check v = .ok xs ∧ xs ≠ [] := by
  unfold checkFilledList
  rw [Checked.bind_eq_ok_iff]
  constructor
  · rintro ⟨found, checked, filled⟩
    split at filled
    · exact absurd filled Checked.problem_ne_ok
    next notEmpty =>
      cases filled
      exact ⟨checked, fun empty => notEmpty (List.isEmpty_iff.mpr empty)⟩
  · rintro ⟨checked, filled⟩
    refine ⟨xs, checked, if_neg ?_⟩
    rwa [List.isEmpty_iff]

/-! ## Fields and models -/

theorem requiredField_eq_ok_iff
    {α : Type} {entries : Entries} {name : String}
    {check : Value → Checked α} {a : α} :
    requiredField entries name check = .ok a ↔
      ∃ v, Value.lookupText? entries name = some v ∧ check v = .ok a := by
  unfold requiredField fieldOr findField? findField?
  cases Value.lookupText? entries name with
  | none => simp [Checked.within_eq_ok_iff, Checked.problem]
  | some v => simp [Checked.within_eq_ok_iff]

theorem optionalField_eq_ok_iff
    {α : Type} {entries : Entries} {name : String} {standard : α}
    {check : Value → Checked α} {a : α} :
    optionalField entries name standard check = .ok a ↔
      (Value.lookupText? entries name = none ∧ standard = a) ∨
        ∃ v, Value.lookupText? entries name = some v ∧ check v = .ok a := by
  unfold optionalField fieldOr findField? findField?
  cases Value.lookupText? entries name with
  | none => simp [Checked.within_eq_ok_iff]
  | some v => simp [Checked.within_eq_ok_iff]

theorem openModel_eq_ok_iff
    {α : Type} {name : String} {read : Entries → Checked α}
    {v : Value} {a : α} :
    openModel name read v = .ok a ↔
      ∃ entries, v.entries? = some entries ∧ read entries = .ok a := by
  unfold openModel
  cases v.entries? with
  | none => simp [Checked.problem]
  | some entries => simp

/-- A model that refuses other entries is read from its entries. -/
theorem closedModel_ok
    {α : Type} {name : String} {fields : List (List String)}
    {read : Entries → Checked α} {v : Value} {a : α}
    (accepted : closedModel name fields read v = .ok a) :
    ∃ entries, v.entries? = some entries ∧ read entries = .ok a := by
  unfold closedModel at accepted
  cases found : v.entries? with
  | none =>
      rw [found] at accepted
      exact absurd accepted Checked.problem_ne_ok
  | some entries =>
      rw [found] at accepted
      simp only at accepted
      split at accepted
      · exact absurd accepted Checked.problem_ne_ok
      · split at accepted
        · exact ⟨entries, rfl, accepted⟩
        · cases accepted

/-- The items of the list under a key of a dictionary; there are none if the
key is not there. -/
def itemsUnder (key : String) (v : Value) : List Value :=
  match v.entries? with
  | none => []
  | some entries =>
    match Value.lookupText? entries key with
    | none => []
    | some found => found.elements?.getD []

theorem itemsUnder_eq
    {key : String} {v found : Value} {entries : Entries} {items : List Value}
    (isModel : v.entries? = some entries)
    (isField : Value.lookupText? entries key = some found)
    (isList : found.elements? = some items) :
    itemsUnder key v = items := by
  unfold itemsUnder
  simp only [isModel, isField, isList, Option.getD_some]

theorem itemsUnder_of_absent
    {key : String} {v : Value} {entries : Entries}
    (isModel : v.entries? = some entries)
    (absent : Value.lookupText? entries key = none) :
    itemsUnder key v = [] := by
  unfold itemsUnder
  simp only [isModel, absent]

/-! ## Definitions -/

namespace ReferenceDefinition

/-- What an accepted reference points at has a name. -/
theorem table_ne_empty
    {v : Value} {r : ReferenceDefinition}
    (accepted : checkReference v = .ok r) :
    r.table ≠ "" := by
  obtain ⟨entries, _, read⟩ := closedModel_ok accepted
  obtain ⟨⟨table, column, onUpdate, onDelete⟩, fields, rfl⟩ :=
    Checked.map_eq_ok_iff.mp read
  obtain ⟨tableRead, _⟩ := Checked.both_eq_ok_iff.mp fields
  obtain ⟨given, _, filled⟩ := requiredField_eq_ok_iff.mp tableRead
  exact checkFilledText_ne_empty filled

end ReferenceDefinition

theorem checkKind_plain
    {v : Value} {type : ColumnType}
    (accepted : checkKind v = .ok (.plain type)) :
    type ∈ plainTypes := by
  unfold checkKind checkChoice at accepted
  split at accepted
  · split at accepted
    next choice found =>
      have member := List.mem_of_find?_eq_some found
      obtain ⟨kind, kindMember, rfl⟩ := List.mem_map.mp member
      cases accepted
      simpa [KindWord.all] using kindMember
    · exact absurd accepted Checked.problem_ne_ok
  · exact absurd accepted Checked.problem_ne_ok
  · exact absurd accepted Checked.problem_ne_ok

namespace ColumnDefinition

/-- Nothing is set for a column: it is required, not unique, and has no
expressions. -/
def IsStandard (c : ColumnDefinition) : Prop :=
  c.required = true ∧ c.unique = false ∧ c.default = none ∧ c.check = none

/-- What holds for every column of an accepted configuration. -/
structure Accepted (c : ColumnDefinition) : Prop where
  named : c.name ≠ ""
  standardKey : c.kind = .primaryKey → c.IsStandard
  plainType : ∀ type, c.kind = .plain type → type ∈ plainTypes
  namedTarget : ∀ r, c.kind = .reference r → r.table ≠ ""

/-- A column definition is read from a value.  If it is a primary key column,
the value holds no entry for an option. -/
structure ReadFrom (v : Value) (c : ColumnDefinition) : Prop where
  checked : checkColumn v = .ok c
  keyWithoutOptions :
    c.kind = .primaryKey → ∀ entries, v.entries? = some entries →
      ∀ option ∈ Schema.ColumnOptions.keywords,
        Value.lookupText? entries option = none

end ColumnDefinition

/-- The kind of a column, by its word and by what is given besides it. -/
theorem checkColumnKind_cases
    {name : String} {word : KindWord} {target : Option ReferenceDefinition}
    {options : List String} {kind : ColumnKind}
    (accepted : checkColumnKind name word target options = .ok kind) :
    (kind = .primaryKey ∧ options = []) ∨
      (∃ type, word = .plain type ∧ kind = .plain type) ∨
      (∃ r, target = some r ∧ kind = .reference r) := by
  cases target with
  | some r =>
      cases word with
      | primaryKey => exact absurd accepted Checked.problem_ne_ok
      | plain type => exact absurd accepted Checked.problem_ne_ok
      | reference =>
          cases accepted
          exact Or.inr (Or.inr ⟨r, rfl, rfl⟩)
  | none =>
      cases word with
      | primaryKey =>
          simp only [checkColumnKind] at accepted
          split at accepted
          next noOptions =>
            cases accepted
            exact Or.inl ⟨rfl, List.isEmpty_iff.mp noOptions⟩
          · exact absurd accepted Checked.problem_ne_ok
      | plain type =>
          cases accepted
          exact Or.inr (Or.inl ⟨type, rfl, rfl⟩)
      | reference => exact absurd accepted Checked.problem_ne_ok

theorem givenOptions_eq_nil_iff {entries : Entries} :
    givenOptions entries = [] ↔
      ∀ option ∈ Schema.ColumnOptions.keywords,
        Value.lookupText? entries option = none := by
  unfold givenOptions
  rw [List.filter_eq_nil_iff]
  constructor
  · intro absent option member
    have listed : option ∈ ["check", "default", "required", "unique"] := by
      simp only [Schema.ColumnOptions.keywords, List.mem_cons,
        List.not_mem_nil, or_false] at member ⊢
      tauto
    simpa using absent option listed
  · intro absent option member
    have listed : option ∈ Schema.ColumnOptions.keywords := by
      simp only [Schema.ColumnOptions.keywords, List.mem_cons,
        List.not_mem_nil, or_false] at member ⊢
      tauto
    simpa using absent option listed

/-- A field that is not there has its standard value. -/
theorem optionalField_of_absent
    {α : Type} {entries : Entries} {name : String} {standard a : α}
    {check : Value → Checked α}
    (absent : Value.lookupText? entries name = none)
    (accepted : optionalField entries name standard check = .ok a) :
    a = standard := by
  rcases optionalField_eq_ok_iff.mp accepted with
    ⟨_, equality⟩ | ⟨v, present, _⟩
  · exact equality.symm
  · rw [absent] at present
    cases present

/-- What the fields of a column say, each by itself. -/
structure FieldsRead
    (entries : Entries)
    (column : ColumnDefinition)
    (word : KindWord)
    (target : Option ReferenceDefinition) :
    Prop where
  named : column.name ≠ ""
  plainType : ∀ type, word = .plain type → type ∈ plainTypes
  namedTarget : ∀ r, target = some r → r.table ≠ ""
  standard : givenOptions entries = [] → column.IsStandard

theorem checkColumnFields_ok
    {entries : Entries} {column : ColumnDefinition} {word : KindWord}
    {target : Option ReferenceDefinition}
    (accepted : checkColumnFields entries = .ok (column, word, target)) :
    FieldsRead entries column word target := by
  obtain ⟨⟨name, kind, required, unique, default, check, references⟩, fields,
    equality⟩ := Checked.map_eq_ok_iff.mp accepted
  cases equality
  obtain ⟨nameRead, fields⟩ := Checked.both_eq_ok_iff.mp fields
  obtain ⟨kindRead, fields⟩ := Checked.both_eq_ok_iff.mp fields
  obtain ⟨requiredRead, fields⟩ := Checked.both_eq_ok_iff.mp fields
  obtain ⟨uniqueRead, fields⟩ := Checked.both_eq_ok_iff.mp fields
  obtain ⟨defaultRead, fields⟩ := Checked.both_eq_ok_iff.mp fields
  obtain ⟨checkRead, referencesRead⟩ := Checked.both_eq_ok_iff.mp fields
  constructor
  · obtain ⟨given, _, filled⟩ := requiredField_eq_ok_iff.mp nameRead
    exact checkFilledText_ne_empty filled
  · rintro type rfl
    obtain ⟨given, _, checked⟩ := requiredField_eq_ok_iff.mp kindRead
    exact checkKind_plain checked
  · rintro r rfl
    rcases optionalField_eq_ok_iff.mp referencesRead with
      ⟨_, impossible⟩ | ⟨given, _, checked⟩
    · cases impossible
    · unfold Checked.orNull at checked
      split at checked
      · cases checked
      · obtain ⟨found, foundRead, equality⟩ :=
          Checked.map_eq_ok_iff.mp checked
        cases equality
        exact ReferenceDefinition.table_ne_empty foundRead
  · intro noOptions
    have absent := givenOptions_eq_nil_iff.mp noOptions
    exact
      ⟨optionalField_of_absent (absent "required" (by decide)) requiredRead,
        optionalField_of_absent (absent "unique" (by decide)) uniqueRead,
        optionalField_of_absent (absent "default" (by decide)) defaultRead,
        optionalField_of_absent (absent "check" (by decide)) checkRead⟩

/-- A column definition that passes its check is accepted, and read from the
value that was checked. -/
theorem checkColumn_ok
    {v : Value} {c : ColumnDefinition}
    (accepted : checkColumn v = .ok c) :
    c.Accepted ∧ c.ReadFrom v := by
  obtain ⟨⟨⟨column, word, target⟩, options⟩, model, whole⟩ :=
    Checked.bind_eq_ok_iff.mp accepted
  obtain ⟨entries, isModel, read⟩ := closedModel_ok model
  obtain ⟨fields, fieldsChecked, equality⟩ := Checked.map_eq_ok_iff.mp read
  cases equality
  obtain ⟨kind, kindRead, equality⟩ := Checked.map_eq_ok_iff.mp whole
  cases equality
  have fieldsRead := checkColumnFields_ok fieldsChecked
  have kindCases := checkColumnKind_cases kindRead
  refine ⟨⟨fieldsRead.named, ?_, ?_, ?_⟩, accepted, ?_⟩
  · rintro rfl
    rcases kindCases with
      ⟨_, noOptions⟩ | ⟨_, _, impossible⟩ | ⟨_, _, impossible⟩
    · exact fieldsRead.standard noOptions
    · cases impossible
    · cases impossible
  · rintro type rfl
    rcases kindCases with
      ⟨impossible, _⟩ | ⟨_, isPlain, same⟩ | ⟨_, _, impossible⟩
    · cases impossible
    · cases same
      exact fieldsRead.plainType type isPlain
    · cases impossible
  · rintro r rfl
    rcases kindCases with
      ⟨impossible, _⟩ | ⟨_, _, impossible⟩ | ⟨_, isTarget, same⟩
    · cases impossible
    · cases impossible
    · cases same
      exact fieldsRead.namedTarget r isTarget
  · rintro rfl others sameModel
    rcases kindCases with
      ⟨_, noOptions⟩ | ⟨_, _, impossible⟩ | ⟨_, _, impossible⟩
    · rw [isModel] at sameModel
      cases sameModel
      exact givenOptions_eq_nil_iff.mp noOptions
    · cases impossible
    · cases impossible

namespace TableDefinition

/-- What holds for every table of an accepted configuration. -/
structure Accepted (d : TableDefinition) : Prop where
  named : d.name ≠ ""
  columns : ∀ c ∈ d.columns, c.Accepted

/-- A table definition is read from a value, column by column. -/
structure ReadFrom (v : Value) (d : TableDefinition) : Prop where
  checked : checkTable v = .ok d
  columns :
    List.Forall₂ ColumnDefinition.ReadFrom (itemsUnder "columns" v) d.columns

end TableDefinition

theorem forall_mem_of_forall₂
    {α β : Type} {related : α → β → Prop} {holds : β → Prop}
    {xs : List α} {ys : List β}
    (pairs : List.Forall₂ related xs ys)
    (implied : ∀ a b, related a b → holds b) :
    ∀ y ∈ ys, holds y := by
  induction pairs with
  | nil =>
      intro y member
      cases member
  | cons pair _ inductionHypothesis =>
      intro y member
      rcases List.mem_cons.mp member with rfl | later
      · exact implied _ _ pair
      · exact inductionHypothesis y later

/-- A table definition that passes its check is accepted, and read from the
value that was checked. -/
theorem checkTable_ok
    {v : Value} {d : TableDefinition}
    (accepted : checkTable v = .ok d) :
    d.Accepted ∧ d.ReadFrom v := by
  obtain ⟨entries, isModel, read⟩ := closedModel_ok accepted
  obtain ⟨⟨name, schema, columns, unique⟩, fields, rfl⟩ :=
    Checked.map_eq_ok_iff.mp read
  obtain ⟨nameRead, fields⟩ := Checked.both_eq_ok_iff.mp fields
  obtain ⟨_, fields⟩ := Checked.both_eq_ok_iff.mp fields
  obtain ⟨columnsRead, _⟩ := Checked.both_eq_ok_iff.mp fields
  have pairs :
      List.Forall₂ (fun item c => checkColumn item = .ok c)
        (itemsUnder "columns" v) columns := by
    rcases optionalField_eq_ok_iff.mp columnsRead with
      ⟨absent, rfl⟩ | ⟨found, isField, checked⟩
    · rw [itemsUnder_of_absent isModel absent]
      exact List.Forall₂.nil
    · obtain ⟨items, isList, each⟩ := checkList_eq_ok_iff.mp checked
      rw [itemsUnder_eq isModel isField isList]
      exact each
  obtain ⟨given, _, filled⟩ := requiredField_eq_ok_iff.mp nameRead
  refine ⟨⟨checkFilledText_ne_empty filled, ?_⟩, accepted, ?_⟩
  · exact forall_mem_of_forall₂ pairs
      fun item c checked => (checkColumn_ok checked).1
  · exact pairs.imp fun item c checked => (checkColumn_ok checked).2

namespace Configuration

/-- What holds for every accepted configuration. -/
structure Accepted (c : Configuration) : Prop where
  filled : c.tables ≠ []
  tables : ∀ d ∈ c.tables, d.Accepted

end Configuration

/-- A configuration that passes its check is accepted, and read from the value
that was checked, table by table. -/
theorem checkConfiguration_ok
    {v : Value} {c : Configuration}
    (accepted : checkConfiguration v = .ok c) :
    c.Accepted ∧
      List.Forall₂ TableDefinition.ReadFrom (itemsUnder "tables" v)
        c.tables := by
  obtain ⟨entries, isModel, read⟩ := openModel_eq_ok_iff.mp accepted
  obtain ⟨⟨dialect, sqlOutput, typesOutput, database, tables⟩, fields, rfl⟩ :=
    Checked.map_eq_ok_iff.mp read
  obtain ⟨_, fields⟩ := Checked.both_eq_ok_iff.mp fields
  obtain ⟨_, fields⟩ := Checked.both_eq_ok_iff.mp fields
  obtain ⟨_, fields⟩ := Checked.both_eq_ok_iff.mp fields
  obtain ⟨_, tablesRead⟩ := Checked.both_eq_ok_iff.mp fields
  obtain ⟨found, isField, checked⟩ := requiredField_eq_ok_iff.mp tablesRead
  obtain ⟨listChecked, filled⟩ := checkFilledList_eq_ok_iff.mp checked
  obtain ⟨items, isList, pairs⟩ := checkList_eq_ok_iff.mp listChecked
  refine ⟨⟨filled, ?_⟩, ?_⟩
  · exact forall_mem_of_forall₂ pairs
      fun item d tableChecked => (checkTable_ok tableChecked).1
  · rw [itemsUnder_eq isModel isField isList]
    exact pairs.imp fun item d tableChecked => (checkTable_ok tableChecked).2

end Tablesmith.Config

import Tablesmith.Proofs.Config.Acceptance
import Tablesmith.Proofs.Config.Declared

/-!
# Filling a table

The loader adds the columns and the uniqueness constraints of a table one by
one.  Each step is read as one more column or constraint of a description; it
succeeds exactly if that one fits.
-/

namespace Tablesmith.Config

open Tablesmith.Log Tablesmith.Schema

/-! ## Columns -/

theorem display_text (s : String) : (Value.text s).display = s := by
  rw [Value.display]

theorem expression_optionalText (given : Option String) :
    expression (optionalText given) = setExpression given := by
  cases given with
  | none => rfl
  | some s =>
      change (if (Value.text s).truthy then Value.text s else .null) =
        if s = "" then .null else .text s
      by_cases empty : s = ""
      · rw [if_pos empty, if_neg]
        simp [Value.truthy, empty]
      · rw [if_neg empty, if_pos]
        simpa [Value.truthy] using empty

namespace ColumnDefinition

variable {c : ColumnDefinition}

theorem options_column (id : ColumnId) (c : ColumnDefinition) :
    c.options = (c.column id).options := by
  unfold options column ColumnOptions.of
  rw [expression_optionalText, expression_optionalText]
  rfl

/-- A primary key column of an accepted configuration has the options of a
column for which nothing is given. -/
theorem options_eq_standard (standard : c.IsStandard) :
    c.options = .standard := by
  obtain ⟨required, unique, default, check⟩ := standard
  unfold options ColumnOptions.standard
  rw [required, unique, default, check]
  rfl

/-- A column can come after others: its name is free, and the table that it
points at is known. -/
structure Fits
    (known : List String)
    (earlier : List ColumnDefinition)
    (c : ColumnDefinition) :
    Prop where
  freeName : c.name ∉ earlier.map ColumnDefinition.name
  knownTarget : ∀ r, c.kind = .reference r → r.tableName ∈ known

end ColumnDefinition

section AddColumn

variable {known : List String} {d : TableDefinition} {id : TableId}
variable {earlier : List ColumnDefinition} {c : ColumnDefinition}

theorem hasTextNames_table (id : TableId) (d : TableDefinition) :
    (d.table id).HasTextNames := by
  intro column member
  obtain ⟨p, placedMember, rfl⟩ := List.mem_map.mp member
  obtain ⟨_, i, equality⟩ := eq_column_of_mem_placed placedMember
  rw [equality]
  exact ⟨p.1.name, rfl⟩

theorem column?_table_eq_none_iff (name : String) :
    (d.table id).column? (.text name) = none ↔
      name ∉ d.columns.map ColumnDefinition.name := by
  rw [Table.column?_eq_none_iff ⟨name, rfl⟩]
  have names :
      (d.table id).columns.map Column.name =
        d.columns.map fun c => .text c.name := by
    rw [TableDefinition.columns_table, List.map_map]
    exact map_name_placed id d.columns
  constructor
  · intro different taken
    obtain ⟨c, member, rfl⟩ := List.mem_map.mp taken
    have textTaken :
        Value.text c.name ∈ (d.table id).columns.map Column.name := by
      rw [names]
      exact List.mem_map.mpr ⟨c, member, rfl⟩
    obtain ⟨column, columnMember, equality⟩ := List.mem_map.mp textTaken
    exact different column columnMember equality
  · intro free column member equality
    have textTaken : column.name ∈ d.columns.map fun c => .text c.name := by
      rw [← names]
      exact List.mem_map.mpr ⟨column, member, rfl⟩
    obtain ⟨c, definition, same⟩ := List.mem_map.mp textTaken
    rw [equality] at same
    injection same with sameName
    exact free (List.mem_map.mpr ⟨c, definition, sameName⟩)

theorem nextColumn_withColumns
    {type : ColumnType} (sameType : type = c.kind.columnType)
    {options : ColumnOptions} (sameOptions : options = c.options) :
    ((d.withColumns earlier).table id).nextColumn (.text c.name)
        (.columnType type) options =
      c.column ⟨id, earlier.length⟩ := by
  rw [sameType, sameOptions, c.options_column ⟨id, earlier.length⟩]
  unfold Table.nextColumn
  rw [TableDefinition.columns_table, List.length_map, length_placed]
  rfl

theorem addColumn_withColumns
    (free : c.name ∉ earlier.map ColumnDefinition.name)
    {type : ColumnType} (sameType : type = c.kind.columnType)
    {options : ColumnOptions} (sameOptions : options = c.options) :
    ((d.withColumns earlier).table id).addColumn (.text c.name)
        (.columnType type) options =
      .done (((d.withColumns earlier).table id).append
        (c.column ⟨id, earlier.length⟩)) := by
  have noColumn :
      ((d.withColumns earlier).table id).column? (.text c.name) = none :=
    (column?_table_eq_none_iff c.name).mpr free
  rw [Table.addColumn_of_free noColumn rfl,
    nextColumn_withColumns sameType sameOptions]

theorem freeName_of_addColumn
    {type : ColumnType} {options : ColumnOptions}
    (added :
      (((d.withColumns earlier).table id).addColumn (.text c.name)
        (.columnType type) options).result = .ok ()) :
    c.name ∉ earlier.map ColumnDefinition.name := by
  have noColumn :
      ((d.withColumns earlier).table id).column? (.text c.name) = none := by
    cases taken :
        ((d.withColumns earlier).table id).column? (.text c.name) with
    | none => rfl
    | some other =>
        unfold Table.addColumn at added
        rw [if_pos (by simp [taken])] at added
        cases added
  exact (column?_table_eq_none_iff c.name).mp noColumn

/-- A call that goes on after another one succeeds only if that one does. -/
theorem result_of_andThen
    {a : Attempt} {next : Table → Attempt}
    (succeeded : (a.andThen next).result = .ok ()) :
    a.result = .ok () := by
  unfold Attempt.andThen at succeeded
  cases result : a.result with
  | ok => rfl
  | error failure =>
      rw [result] at succeeded
      simp only at succeeded
      rw [result] at succeeded
      cases succeeded

theorem resolveTable_eq_ok_iff
    {source target : Value} {r : ReferenceDefinition} :
    resolveTable known source r = .ok target ↔
      r.tableName ∈ known ∧ target = .text r.tableName := by
  unfold resolveTable
  split
  next isKnown =>
    rw [List.contains_iff_mem] at isKnown
    constructor
    · intro equality
      cases equality
      exact ⟨isKnown, rfl⟩
    · rintro ⟨_, rfl⟩
      rfl
  next unknown =>
    rw [List.contains_iff_mem] at unknown
    constructor
    · intro equality
      cases equality
    · rintro ⟨isKnown, _⟩
      exact absurd isKnown unknown

theorem namesIn_optionalText (r : ReferenceDefinition) (own : String) :
    Table.namesIn
        (if (optionalText r.column).truthy then optionalText r.column
          else .text own) =
      .ok [.text (r.columnName own)] := by
  unfold ReferenceDefinition.columnName
  cases r.column with
  | none => rfl
  | some given =>
      change Table.namesIn
        (if (Value.text given).truthy then .text given else .text own) =
          .ok [.text (if given = "" then own else given)]
      by_cases empty : given = ""
      · rw [if_pos empty, if_neg (by simp [Value.truthy, empty])]
        rfl
      · rw [if_neg empty, if_pos (by simpa [Value.truthy] using empty)]
        rfl

/-- A column that fits is added as its definition describes it. -/
theorem addDeclared_of_fits
    (accepted : c.Accepted) (fits : c.Fits known earlier) :
    addDeclared known ((d.withColumns earlier).table id) c =
      .done ((d.withColumns (earlier ++ [c])).table id) := by
  unfold addDeclared
  cases kind : c.kind with
  | primaryKey =>
      have isKey : c.isKey = true := by simp [ColumnDefinition.isKey, kind]
      have standard := accepted.standardKey kind
      have sameOptions := (ColumnDefinition.options_eq_standard standard).symm
      have sameType : ColumnType.autoIncrement = c.kind.columnType := by
        rw [kind]
        rfl
      have named : (Value.text c.name).truthy = true := by
        simpa [Value.truthy] using accepted.named
      simp only [Table.addPrimaryKeyColumn]
      rw [if_pos named, addColumn_withColumns fits.freeName sameType sameOptions,
        nextColumn_withColumns sameType sameOptions]
      exact congrArg Attempt.done
        (TableDefinition.extendPrimaryKey_withColumns isKey standard.2.1)
  | plain type =>
      have notKey : c.isKey = false := by simp [ColumnDefinition.isKey, kind]
      have sameType : type = c.kind.columnType := by
        rw [kind]
        rfl
      simp only [Table.addTypedColumn]
      rw [addColumn_withColumns fits.freeName sameType rfl,
        TableDefinition.append_withColumns notKey]
      unfold ColumnDefinition.foreignKeysOver
      rw [kind]
  | reference r =>
      have sameType : ColumnType.number = c.kind.columnType := by
        rw [kind]
        rfl
      have resolved :
          resolveTable known
              ((d.withColumns earlier).table id).qualifiedName r =
            .ok (.text r.tableName) :=
        resolveTable_eq_ok_iff.mpr ⟨fits.knownTarget r kind, rfl⟩
      simp only [resolved, Table.addReferenceColumn, namesIn_optionalText]
      rw [addColumn_withColumns fits.freeName sameType rfl,
        nextColumn_withColumns sameType rfl]
      exact congrArg Attempt.done
        (TableDefinition.addForeignKey_withColumns kind)

theorem fits_of_addDeclared
    (added :
      (addDeclared known ((d.withColumns earlier).table id) c).result =
        .ok ())
    (named : c.name ≠ "") :
    c.Fits known earlier := by
  unfold addDeclared at added
  cases kind : c.kind with
  | primaryKey =>
      have truthy : (Value.text c.name).truthy = true := by
        simpa [Value.truthy] using named
      simp only [kind, Table.addPrimaryKeyColumn, if_pos truthy] at added
      have free := freeName_of_addColumn (result_of_andThen added)
      exact ⟨free, by simp [kind]⟩
  | plain type =>
      simp only [kind] at added
      have free := freeName_of_addColumn added
      exact ⟨free, by simp [kind]⟩
  | reference r =>
      simp only [kind] at added
      cases resolved :
          resolveTable known
            ((d.withColumns earlier).table id).qualifiedName r with
      | error failure =>
          simp only [resolved] at added
          cases added
      | ok target =>
          simp only [resolved, Table.addReferenceColumn] at added
          have free := freeName_of_addColumn (result_of_andThen added)
          obtain ⟨isKnown, _⟩ := resolveTable_eq_ok_iff.mp resolved
          refine ⟨free, ?_⟩
          rintro other same
          rw [kind] at same
          cases same
          exact isKnown

end AddColumn

theorem result_recorded_eq_ok_iff
    {before after : Table} {a : Attempt} :
    (recorded before a).result = .ok after ↔
      a.result = .ok () ∧ a.table = after := by
  unfold recorded
  cases a.result with
  | error failure => simp [Except.map]
  | ok => simp [Except.map]

theorem result_bind_eq_ok_iff
    {α β : Type} {x : Logged α} {f : α → Logged β} {b : β} :
    (x >>= f).result = .ok b ↔
      ∃ a, x.result = .ok a ∧ (f a).result = .ok b := by
  rw [Logged.result_bind]
  cases x.result with
  | error failure => simp [Except.bind]
  | ok a => simp [Except.bind]

/-- Columns can come after others: their names are free and different, and the
tables that they point at are known. -/
structure ColumnsFit
    (known : List String)
    (earlier columns : List ColumnDefinition) :
    Prop where
  distinctNames : ((earlier ++ columns).map ColumnDefinition.name).Nodup
  knownTargets :
    ∀ c ∈ columns, ∀ r, c.kind = .reference r → r.tableName ∈ known

theorem columnsFit_cons_iff
    {known : List String} {earlier rest : List ColumnDefinition}
    {c : ColumnDefinition} :
    ColumnsFit known earlier (c :: rest) ↔
      c.Fits known earlier ∧ ColumnsFit known (earlier ++ [c]) rest := by
  have sameColumns : earlier ++ c :: rest = (earlier ++ [c]) ++ rest := by
    rw [List.append_assoc, List.singleton_append]
  constructor
  · intro fits
    have distinct := fits.distinctNames
    refine ⟨⟨?_, ?_⟩, ?_, ?_⟩
    · rw [List.map_append, List.map_cons, List.nodup_middle,
        List.nodup_cons] at distinct
      exact fun taken => distinct.1 (List.mem_append_left _ taken)
    · exact fits.knownTargets c List.mem_cons_self
    · rwa [← sameColumns]
    · exact fun other member =>
        fits.knownTargets other (List.mem_cons_of_mem _ member)
  · rintro ⟨first, later⟩
    refine ⟨?_, ?_⟩
    · rw [sameColumns]
      exact later.distinctNames
    · intro other member
      rcases List.mem_cons.mp member with rfl | inRest
      · exact first.knownTarget
      · exact later.knownTargets other inRest

/-- The loader adds columns exactly if they fit, and then those that the
definitions describe. -/
theorem addColumns_eq_ok_iff
    {known : List String} {d : TableDefinition} {id : TableId}
    {earlier rest : List ColumnDefinition} {after : Table}
    (distinct : (earlier.map ColumnDefinition.name).Nodup)
    (accepted : ∀ c ∈ rest, c.Accepted) :
    (addColumns known ((d.withColumns earlier).table id) rest).result =
        .ok after ↔
      ColumnsFit known earlier rest ∧
        after = (d.withColumns (earlier ++ rest)).table id := by
  induction rest generalizing earlier with
  | nil =>
      have fits : ColumnsFit known earlier [] := by
        refine ⟨?_, fun c member => absurd member List.not_mem_nil⟩
        rwa [List.append_nil]
      rw [addColumns, Logged.result_pure, List.append_nil]
      constructor
      · intro equality
        cases equality
        exact ⟨fits, rfl⟩
      · rintro ⟨_, rfl⟩
        rfl
  | cons c rest inductionHypothesis =>
      have headAccepted := accepted c List.mem_cons_self
      have restAccepted : ∀ other ∈ rest, other.Accepted :=
        fun other member => accepted other (List.mem_cons_of_mem _ member)
      have sameColumns : earlier ++ c :: rest = (earlier ++ [c]) ++ rest := by
        rw [List.append_assoc, List.singleton_append]
      -- The first column joins those that are already there.
      have step (free : c.name ∉ earlier.map ColumnDefinition.name) :
          ((earlier ++ [c]).map ColumnDefinition.name).Nodup := by
        rw [List.map_append, List.map_singleton, ← List.concat_eq_append]
        exact distinct.concat free
      rw [addColumns, result_bind_eq_ok_iff, columnsFit_cons_iff, sameColumns]
      constructor
      · rintro ⟨reached, added, others⟩
        obtain ⟨succeeded, sameTable⟩ := result_recorded_eq_ok_iff.mp added
        have fits := fits_of_addDeclared succeeded headAccepted.named
        rw [addDeclared_of_fits headAccepted fits] at sameTable
        rw [← sameTable] at others
        obtain ⟨restFits, equality⟩ :=
          (inductionHypothesis (step fits.freeName) restAccepted).mp others
        exact ⟨⟨fits, restFits⟩, equality⟩
      · rintro ⟨⟨fits, restFits⟩, equality⟩
        refine ⟨(d.withColumns (earlier ++ [c])).table id, ?_, ?_⟩
        · rw [addDeclared_of_fits headAccepted fits]
          exact result_recorded_eq_ok_iff.mpr ⟨rfl, rfl⟩
        · exact (inductionHypothesis (step fits.freeName) restAccepted).mpr
            ⟨restFits, equality⟩

/-! ## Uniqueness constraints -/

/-- The columns with the given names can be unique together: there are at
least two names, no name comes twice, and each is that of a column. -/
structure TableDefinition.CanBeUnique
    (d : TableDefinition)
    (names : List String) :
    Prop where
  several : 2 ≤ names.length
  different : names.Nodup
  declared : ∀ name ∈ names, name ∈ d.columns.map ColumnDefinition.name

section AddUnique

variable {d : TableDefinition} {id : TableId}

theorem map_name_columns_table (id : TableId) (d : TableDefinition) :
    (d.table id).columns.map Column.name =
      (d.columns.map ColumnDefinition.name).map Value.text := by
  rw [TableDefinition.columns_table, List.map_map, List.map_map]
  exact map_name_placed id d.columns

theorem canBeUnique_table_iff (names : List String) :
    (d.table id).CanBeUnique (names.map Value.text) ↔
      d.CanBeUnique names := by
  constructor
  · intro fits
    refine ⟨?_, List.Nodup.of_map _ fits.different, ?_⟩
    · have several := fits.several
      rwa [List.length_map] at several
    · intro name member
      have known :=
        fits.known (.text name) (List.mem_map.mpr ⟨name, member, rfl⟩)
      rw [map_name_columns_table] at known
      exact (List.mem_map_of_injective Value.text_injective).mp known
  · intro fits
    refine ⟨?_, fits.different.map Value.text_injective, ?_⟩
    · rw [List.length_map]
      exact fits.several
    · intro value member
      obtain ⟨name, nameMember, rfl⟩ := List.mem_map.mp member
      rw [map_name_columns_table]
      exact List.mem_map.mpr ⟨name, fits.declared name nameMember, rfl⟩

theorem columnsNamed_table (names : List String) :
    (d.table id).columnsNamed (names.map Value.text) =
      ((placed id d.columns).filter fun p => names.contains p.1.name).map
        Prod.snd := by
  unfold Table.columnsNamed
  rw [TableDefinition.columns_table, List.filter_map]
  congr 1
  apply List.filter_congr
  intro p member
  obtain ⟨_, i, equality⟩ := eq_column_of_mem_placed member
  rw [Function.comp_apply, equality, List.any_map]
  rw [Bool.eq_iff_iff, List.any_eq_true, List.contains_iff_mem]
  constructor
  · rintro ⟨name, nameMember, same⟩
    have sameName : p.1.name = name := by
      simpa [ColumnDefinition.column] using same
    exact sameName ▸ nameMember
  · intro nameMember
    exact ⟨p.1.name, nameMember, by simp [ColumnDefinition.column]⟩

/-- A uniqueness constraint over columns that can be unique is added as it is
described. -/
theorem addUnique_of_canBeUnique
    {names : List String} (fits : d.CanBeUnique names) :
    (d.table id).addUnique (names.map Value.text) =
      .done ((d.withUnique (d.unique ++ [names])).table id) := by
  have texts := Value.isText_of_mem_map_text names
  have checked : (d.table id).checkUnique (names.map Value.text) = .ok () :=
    (Table.checkUnique_eq_ok_iff (hasTextNames_table id d).keyable texts).mpr
      ((canBeUnique_table_iff names).mpr fits)
  have chosenNames :
      ((d.table id).columnsNamed (names.map Value.text)).map Column.name =
        (((placed id d.columns).filter fun p =>
          names.contains p.1.name).map fun p => p.1.name).map Value.text := by
    rw [columnsNamed_table, List.map_map, List.map_map]
    apply List.map_congr_left
    intro p member
    obtain ⟨_, i, equality⟩ :=
      eq_column_of_mem_placed (List.mem_of_mem_filter member)
    rw [Function.comp_apply, equality]
    rfl
  have joins :
      joinNames "_"
          (((d.table id).columnsNamed (names.map Value.text)).map
            Column.name) =
        .ok (.text (String.intercalate "_"
          (((placed id d.columns).filter fun p =>
            names.contains p.1.name).map fun p => p.1.name))) := by
    rw [chosenNames, joinNames_map_text]
  rw [← TableDefinition.addUnique_withUnique,
    Table.addUnique_of_checked checked joins, columnsNamed_table]
  rfl

theorem canBeUnique_of_addUnique
    {names : List String}
    (added :
      ((d.table id).addUnique (names.map Value.text)).result = .ok ()) :
    d.CanBeUnique names := by
  have texts := Value.isText_of_mem_map_text names
  unfold Table.addUnique at added
  cases checked : (d.table id).checkUnique (names.map Value.text) with
  | error failure =>
      rw [checked] at added
      cases added
  | ok =>
      exact (canBeUnique_table_iff names).mp
        ((Table.checkUnique_eq_ok_iff (hasTextNames_table id d).keyable texts).mp
          checked)

/-- The loader adds uniqueness constraints exactly if their columns can be
unique, and then as they are described. -/
theorem addUniques_eq_ok_iff {rest : List (List String)} {after : Table} :
    (addUniques (d.table id) rest).result = .ok after ↔
      (∀ names ∈ rest, d.CanBeUnique names) ∧
        after = (d.withUnique (d.unique ++ rest)).table id := by
  induction rest generalizing d with
  | nil =>
      rw [addUniques, Logged.result_pure, List.append_nil]
      constructor
      · intro equality
        cases equality
        exact ⟨fun names member => absurd member List.not_mem_nil, rfl⟩
      · rintro ⟨_, rfl⟩
        rfl
  | cons names rest inductionHypothesis =>
      have sameUnique :
          d.unique ++ names :: rest = (d.unique ++ [names]) ++ rest := by
        rw [List.append_assoc, List.singleton_append]
      rw [addUniques, result_bind_eq_ok_iff, List.forall_mem_cons, sameUnique]
      constructor
      · rintro ⟨reached, added, others⟩
        obtain ⟨succeeded, sameTable⟩ := result_recorded_eq_ok_iff.mp added
        have fits := canBeUnique_of_addUnique succeeded
        rw [addUnique_of_canBeUnique fits] at sameTable
        rw [← sameTable] at others
        obtain ⟨restFits, equality⟩ := inductionHypothesis.mp others
        refine ⟨⟨fits, ?_⟩, equality⟩
        intro other member
        obtain ⟨several, different, declared⟩ := restFits other member
        exact ⟨several, different, declared⟩
      · rintro ⟨⟨fits, restFits⟩, equality⟩
        refine ⟨(d.withUnique (d.unique ++ [names])).table id, ?_, ?_⟩
        · rw [addUnique_of_canBeUnique fits]
          exact result_recorded_eq_ok_iff.mpr ⟨rfl, rfl⟩
        · refine inductionHypothesis.mpr ⟨?_, equality⟩
          intro other member
          obtain ⟨several, different, declared⟩ := restFits other member
          exact ⟨several, different, declared⟩

end AddUnique

end Tablesmith.Config

import Tablesmith.Proofs.Config.Loading
import Tablesmith.Proofs.Sql.Replay

/-!
# The plan of a described database

A table definition says directly what a catalogue knows about the table in the
end.  The plan of a described database consists of the statements of these
entries, pass by pass.
-/

namespace Tablesmith.Config

open Tablesmith.Schema Tablesmith.Sql

/-! ## Entries of definitions -/

def ColumnDefinition.clause (c : ColumnDefinition) : ColumnClause where
  name := c.name
  type := c.kind.columnType
  required := c.required
  default := c.default.filter fun s => s ≠ ""
  check := c.check.filter fun s => s ≠ ""

/-- What a statement says about a reference from a column with the given
name. -/
def ReferenceDefinition.clause (r : ReferenceDefinition) (own : String) :
    ReferenceClause where
  columns := [own]
  target := r.tableName
  targetColumns := [r.columnName own]
  onUpdate := r.onUpdate
  onDelete := r.onDelete

namespace TableDefinition

/-- The names of the columns of the primary key, if there are any. -/
def primaryKey (d : TableDefinition) : Option (List String) :=
  let keys := d.columns.filter ColumnDefinition.isKey
  if keys.isEmpty then none else some (keys.map ColumnDefinition.name)

/-- The names of the columns that are unique: each unique column by itself,
and then those that are unique together, in the order of the table. -/
def uniques (d : TableDefinition) : List (List String) :=
  (d.columns.filter ColumnDefinition.unique).map (fun c => [c.name]) ++
    d.unique.map fun names =>
      (d.columns.filter fun c => names.contains c.name).map
        ColumnDefinition.name

def references (d : TableDefinition) : List ReferenceClause :=
  d.columns.filterMap fun c => c.kind.target?.map fun r => r.clause c.name

/-- What a catalogue knows about the table in the end. -/
def entry (d : TableDefinition) : Entry where
  schema := d.schemaName
  columns := d.columns.map ColumnDefinition.clause
  primaryKey := d.primaryKey
  uniques := d.uniques
  foreignKeys := d.references

end TableDefinition

end Tablesmith.Config

namespace Tablesmith.Sql

open Tablesmith.Config Tablesmith.Schema

/-- Calls that all succeed yield their results in order. -/
theorem mapM_eq_ok
    {α β : Type} {call : α → Except Failure β} {result : α → β} {xs : List α}
    (each : ∀ x ∈ xs, call x = .ok (result x)) :
    xs.mapM call = .ok (xs.map result) := by
  induction xs with
  | nil => rfl
  | cons x rest inductionHypothesis =>
      have head := each x List.mem_cons_self
      have tail := inductionHypothesis fun other member =>
        each other (List.mem_cons_of_mem _ member)
      rw [List.mapM_cons, head, tail]
      rfl

/-- Where each element of a list has a partner, a list of partners can be
chosen. -/
theorem exists_forall₂
    {α β : Type} {related : α → β → Prop} {xs : List α}
    (each : ∀ x ∈ xs, ∃ y, related x y) :
    ∃ ys, List.Forall₂ related xs ys := by
  induction xs with
  | nil => exact ⟨[], .nil⟩
  | cons x rest inductionHypothesis =>
      obtain ⟨y, head⟩ := each x List.mem_cons_self
      obtain ⟨ys, tail⟩ := inductionHypothesis
        fun other member => each other (List.mem_cons_of_mem _ member)
      exact ⟨y :: ys, .cons head tail⟩

theorem mapM_eq_ok_of_forall₂
    {α β : Type} {call : α → Except Failure β} {xs : List α} {ys : List β}
    (pairs : List.Forall₂ (fun x y => call x = .ok y) xs ys) :
    xs.mapM call = .ok ys := by
  induction pairs with
  | nil => rfl
  | cons head _ inductionHypothesis =>
      rw [List.mapM_cons, head, inductionHypothesis]
      rfl

theorem namesOf_map_text (names : List String) :
    namesOf (names.map Value.text) = .ok names := by
  unfold namesOf
  rw [joinNames_map_text]
  exact congrArg Except.ok (Value.map_display_map_text names)

theorem expressionOf_setExpression (given : Option String) :
    expressionOf (setExpression given) =
      .ok (given.filter fun s => s ≠ "") := by
  cases given with
  | none => rfl
  | some s =>
      by_cases empty : s = ""
      · subst empty
        rfl
      · have truthy : (Value.text s).truthy = true := by
          simpa [Value.truthy] using empty
        have writable : (Value.text s).display? = .ok s := by
          unfold Value.display?
          rw [if_pos (by simp [Value.isWritable]), display_text]
        have set : setExpression (some s) = .text s := if_neg empty
        rw [set, Option.filter_some_pos (by simpa using empty)]
        unfold expressionOf
        rw [if_pos truthy, writable]

theorem columnClause_column (id : ColumnId) (c : ColumnDefinition) :
    columnClause (c.column id) = .ok c.clause := by
  have type :
      asColumnType "postgresql" (c.column id).type =
        .ok c.kind.columnType := by
    simp [asColumnType, ColumnDefinition.column, Value.unkeyable?]
  have default := expressionOf_setExpression c.default
  have check := expressionOf_setExpression c.check
  have name : (c.column id).name.written = .ok c.name :=
    Value.written_text c.name
  unfold columnClause
  rw [name, type]
  change
    (do
      let default ← expressionOf (setExpression c.default)
      let check ← expressionOf (setExpression c.check)
      return {
        name := c.name
        type := c.kind.columnType
        required := c.required
        default
        check : ColumnClause }) = _
  rw [default, check]
  rfl

theorem tableName_table (id : TableId) (d : TableDefinition) :
    tableName (d.table id) = d.qualifiedName := by
  unfold tableName
  rw [TableDefinition.qualifiedName_table, display_text]

/-! ## The constraints of a described table -/

section Constraints

variable {id : TableId} {d : TableDefinition}

theorem map_name_filter_placed
    (chosen : ColumnDefinition → Bool) (id : TableId)
    (columns : List ColumnDefinition) :
    (((placed id columns).filter fun p => chosen p.1).map Prod.snd).map
        Column.name =
      ((columns.filter chosen).map ColumnDefinition.name).map Value.text := by
  conv_rhs => rw [← map_fst_placed id columns]
  rw [List.filter_map, List.map_map, List.map_map, List.map_map]
  apply List.map_congr_left
  intro p member
  obtain ⟨_, i, equality⟩ :=
    eq_column_of_mem_placed (List.mem_of_mem_filter member)
  rw [Function.comp_apply, equality]
  rfl

theorem any_isKey_placed (id : TableId) (columns : List ColumnDefinition) :
    ((placed id columns).any fun p => p.1.isKey) =
      !(columns.filter ColumnDefinition.isKey).isEmpty := by
  conv_rhs => rw [← map_fst_placed id columns]
  rw [List.filter_map, List.isEmpty_map]
  cases keyed : (placed id columns).any fun p => p.1.isKey with
  | true =>
      obtain ⟨p, member, isKey⟩ := List.any_eq_true.mp keyed
      have inFilter :
          p ∈ (placed id columns).filter
            (ColumnDefinition.isKey ∘ Prod.fst) :=
        List.mem_filter.mpr ⟨member, isKey⟩
      cases chosen :
          (placed id columns).filter (ColumnDefinition.isKey ∘ Prod.fst) with
      | nil =>
          rw [chosen] at inFilter
          cases inFilter
      | cons head rest => rfl
  | false =>
      have noKeys :
          (placed id columns).filter
            (ColumnDefinition.isKey ∘ Prod.fst) = [] := by
        rw [List.filter_eq_nil_iff]
        rwa [List.any_eq_false] at keyed
      rw [noKeys]
      rfl

theorem primaryKey?_table (id : TableId) (d : TableDefinition) :
    (d.table id).primaryKey? =
      if (d.columns.filter ColumnDefinition.isKey).isEmpty then none
      else
        some ⟨primaryKeyName, .primaryKey,
          keyColumns (placed id d.columns)⟩ := by
  have keyed := any_isKey_placed id d.columns
  unfold Table.primaryKey? Table.constraintsOf
  rw [TableDefinition.constraints_table, List.filter_append]
  cases empty : (d.columns.filter ColumnDefinition.isKey).isEmpty with
  | true =>
      rw [empty] at keyed
      have noKey :
          (constraintsAlong (keyColumns (placed id d.columns)) false
            (placed id d.columns)).filter
              (fun k => decide (k.type = .primaryKey)) = [] := by
        rw [List.filter_eq_nil_iff]
        intro k member
        have different := type_ne_primaryKey_of_mem (Or.inr keyed) member
        simpa using different
      have noWide :
          (d.unique.map (wideUnique (placed id d.columns))).filter
              (fun k => decide (k.type = .primaryKey)) = [] := by
        rw [List.filter_eq_nil_iff]
        intro k member
        obtain ⟨names, _, rfl⟩ := List.mem_map.mp member
        simp [wideUnique, Constraint.type, Demand.type]
      rw [noKey, noWide]
      rfl
  | false =>
      rw [empty] at keyed
      obtain ⟨first, last, firstOthers, _, place⟩ :=
        constraintsAlong_split keyed
      rw [place, List.filter_append, List.filter_eq_nil_iff.mpr]
      · rfl
      · intro k member
        simpa using firstOthers k member

theorem filter_unique_constraintsAlong
    (keys : List Column) (keyed : Bool) (pairs : List Placed) :
    (constraintsAlong keys keyed pairs).filter
        (fun k => decide (k.type = .unique)) =
      (pairs.filter fun p => p.1.unique).map fun p => p.2.ownUnique := by
  induction pairs generalizing keyed with
  | nil => rfl
  | cons head tail inductionHypothesis =>
      obtain ⟨c, column⟩ := head
      have noForeign :
          (c.foreignKeysOver column).filter
            (fun k => decide (k.type = .unique)) = [] := by
        unfold ColumnDefinition.foreignKeysOver
        cases c.kind with
        | primaryKey => rfl
        | plain type => rfl
        | reference r => rfl
      have noKey :
          (if c.isKey && !keyed then
              [⟨primaryKeyName, .primaryKey, keys⟩] else []).filter
            (fun k : Constraint => decide (k.type = .unique)) = [] := by
        split
        · rfl
        · rfl
      rw [constraintsAlong, List.filter_append, List.filter_append,
        List.filter_append, inductionHypothesis, noForeign, noKey]
      cases isUnique : c.unique with
      | true => simp [isUnique, Column.ownUnique, Constraint.type, Demand.type]
      | false => simp [isUnique]

/-- The references among columns, each with its column. -/
def placedReferences (pairs : List Placed) :
    List (Placed × ReferenceDefinition) :=
  pairs.filterMap fun p => p.1.kind.target?.map fun r => (p, r)

theorem filterMap_foreignKey_constraintsAlong
    (keys : List Column) (keyed : Bool) (pairs : List Placed) :
    (constraintsAlong keys keyed pairs).filterMap
        (fun k => k.demand.foreignKey?.map fun key => (k, key)) =
      (placedReferences pairs).map fun e =>
        (⟨foreignKeyName e.1.2.name, .foreignKey (e.2.foreignKey e.1.1.name),
          [e.1.2]⟩, e.2.foreignKey e.1.1.name) := by
  induction pairs generalizing keyed with
  | nil => rfl
  | cons head tail inductionHypothesis =>
      obtain ⟨c, column⟩ := head
      have noUnique :
          (if c.unique then [column.ownUnique] else []).filterMap
            (fun k => k.demand.foreignKey?.map fun key => (k, key)) = [] := by
        split
        · rfl
        · rfl
      have noKey :
          (if c.isKey && !keyed then
              [⟨primaryKeyName, .primaryKey, keys⟩] else []).filterMap
            (fun k : Constraint =>
              k.demand.foreignKey?.map fun key => (k, key)) = [] := by
        split
        · rfl
        · rfl
      rw [constraintsAlong, List.filterMap_append, List.filterMap_append,
        List.filterMap_append, inductionHypothesis, noUnique, noKey]
      unfold placedReferences ColumnDefinition.foreignKeysOver
      rw [List.filterMap_cons]
      cases c.kind with
      | primaryKey => rfl
      | plain type => rfl
      | reference r => rfl

end Constraints

/-! ## The statements of a described table -/

section Statements

variable (id : TableId) (d : TableDefinition)

theorem addColumns_table :
    addColumns (d.table id) =
      .ok (d.entry.columns.map (.addColumn d.qualifiedName)) := by
  have each :
      ∀ p ∈ placed id d.columns,
        ((columnClause p.2).map (Statement.addColumn d.qualifiedName)) =
          .ok (.addColumn d.qualifiedName p.1.clause) := by
    intro p member
    obtain ⟨_, i, equality⟩ := eq_column_of_mem_placed member
    rw [equality, columnClause_column]
    rfl
  have clauses :
      d.entry.columns = (placed id d.columns).map fun p => p.1.clause := by
    change d.columns.map ColumnDefinition.clause = _
    conv_lhs => rw [← map_fst_placed id d.columns]
    rw [List.map_map]
    rfl
  unfold addColumns
  rw [tableName_table, TableDefinition.columns_table, List.mapM_map, clauses,
    List.map_map]
  exact mapM_eq_ok each

theorem addPrimaryKey_table :
    addPrimaryKey (d.table id) =
      .ok (d.entry.primaryKey.toList.map (.addPrimaryKey d.qualifiedName)) := by
  have key :
      d.entry.primaryKey =
        if (d.columns.filter ColumnDefinition.isKey).isEmpty then none
        else
          some ((d.columns.filter ColumnDefinition.isKey).map
            ColumnDefinition.name) := rfl
  unfold addPrimaryKey
  rw [key, tableName_table, primaryKey?_table]
  cases (d.columns.filter ColumnDefinition.isKey).isEmpty with
  | true => rfl
  | false =>
      have names :
          (keyColumns (placed id d.columns)).map Column.name =
            ((d.columns.filter ColumnDefinition.isKey).map
              ColumnDefinition.name).map Value.text :=
        map_name_filter_placed ColumnDefinition.isKey id d.columns
      simp only [Bool.false_eq_true, if_false, Option.toList_some,
        List.mapM_cons, List.mapM_nil, Constraint.columnNames]
      rw [names, namesOf_map_text]
      rfl

theorem uniqueConstraints_table :
    (d.table id).uniqueConstraints =
      ((placed id d.columns).filter fun p => p.1.unique).map
          (fun p => p.2.ownUnique) ++
        d.unique.map (wideUnique (placed id d.columns)) := by
  have allWide :
      (d.unique.map (wideUnique (placed id d.columns))).filter
          (fun k => decide (k.type = .unique)) =
        d.unique.map (wideUnique (placed id d.columns)) := by
    rw [List.filter_eq_self]
    intro k member
    obtain ⟨names, _, rfl⟩ := List.mem_map.mp member
    rfl
  unfold Table.uniqueConstraints Table.constraintsOf
  rw [TableDefinition.constraints_table, List.filter_append,
    filter_unique_constraintsAlong, allWide]

theorem addUniques_table :
    addUniques (d.table id) =
      .ok (d.entry.uniques.map (.addUnique d.qualifiedName)) := by
  let statement (k : Constraint) : Except Failure Statement :=
    (namesOf k.columnNames).map (Statement.addUnique d.qualifiedName)
  have own :
      (((placed id d.columns).filter fun p => p.1.unique).map
          fun p => p.2.ownUnique).mapM statement =
        .ok (((placed id d.columns).filter fun p => p.1.unique).map
          fun p => .addUnique d.qualifiedName [p.1.name]) := by
    rw [List.mapM_map]
    apply mapM_eq_ok
    intro p member
    obtain ⟨_, i, equality⟩ :=
      eq_column_of_mem_placed (List.mem_of_mem_filter member)
    have name : p.2.ownUnique.columnNames = [p.1.name].map Value.text := by
      rw [equality]
      rfl
    change (namesOf p.2.ownUnique.columnNames).map _ = _
    rw [name, namesOf_map_text]
    rfl
  have wide :
      (d.unique.map (wideUnique (placed id d.columns))).mapM statement =
        .ok (d.unique.map fun names =>
          .addUnique d.qualifiedName
            ((d.columns.filter fun c => names.contains c.name).map
              ColumnDefinition.name)) := by
    rw [List.mapM_map]
    apply mapM_eq_ok
    intro names _
    have chosen :
        (wideUnique (placed id d.columns) names).columnNames =
          ((d.columns.filter fun c => names.contains c.name).map
            ColumnDefinition.name).map Value.text :=
      map_name_filter_placed (fun c => names.contains c.name) id d.columns
    change
      (namesOf (wideUnique (placed id d.columns) names).columnNames).map _ = _
    rw [chosen, namesOf_map_text]
    rfl
  have lists :
      d.entry.uniques.map (.addUnique d.qualifiedName) =
        ((placed id d.columns).filter fun p => p.1.unique).map
            (fun p => Statement.addUnique d.qualifiedName [p.1.name]) ++
          d.unique.map fun names =>
            .addUnique d.qualifiedName
              ((d.columns.filter fun c => names.contains c.name).map
                ColumnDefinition.name) := by
    change d.uniques.map _ = _
    unfold TableDefinition.uniques
    conv_lhs => rw [← map_fst_placed id d.columns]
    rw [List.map_append, List.map_map, List.filter_map, List.map_map,
      List.map_map, map_fst_placed]
    rfl
  unfold addUniques
  rw [uniqueConstraints_table, tableName_table, List.mapM_append, own, wide,
    lists]
  rfl

/-- A described table is built as its entry says. -/
theorem buildTable_table :
    buildTable (d.table id) = .ok (d.entry.building d.qualifiedName) := by
  unfold buildTable
  rw [addColumns_table, addPrimaryKey_table, addUniques_table,
    tableName_table]
  rfl

theorem foreignKeys_table :
    (d.table id).foreignKeys =
      (placedReferences (placed id d.columns)).map fun e =>
        (⟨foreignKeyName e.1.2.name, .foreignKey (e.2.foreignKey e.1.1.name),
          [e.1.2]⟩, e.2.foreignKey e.1.1.name) := by
  have noWide :
      (d.unique.map (wideUnique (placed id d.columns))).filterMap
          (fun k => k.demand.foreignKey?.map fun key => (k, key)) = [] := by
    rw [List.filterMap_eq_nil_iff]
    intro k member
    obtain ⟨names, _, rfl⟩ := List.mem_map.mp member
    rfl
  unfold Table.foreignKeys
  rw [TableDefinition.constraints_table, List.filterMap_append, noWide,
    List.append_nil, filterMap_foreignKey_constraintsAlong]

theorem referenceClause_foreignKey
    (r : ReferenceDefinition) (id : ColumnId) (c : ColumnDefinition)
    (name : Value) :
    referenceClause
        ⟨name, .foreignKey (r.foreignKey c.name), [c.column id]⟩
        (r.foreignKey c.name) =
      .ok (r.clause c.name) := by
  have own := namesOf_map_text [c.name]
  have referenced := namesOf_map_text [r.columnName c.name]
  have onUpdate :
      asAction (.referentialAction r.onUpdate) = .ok r.onUpdate := by
    simp [asAction, Value.unkeyable?]
  have onDelete :
      asAction (.referentialAction r.onDelete) = .ok r.onDelete := by
    simp [asAction, Value.unkeyable?]
  have target : targetOf (.table (.text r.tableName)) = .ok r.tableName := rfl
  change
    (do
      let columns ← namesOf ([c.name].map Value.text)
      let target ← targetOf (.table (.text r.tableName))
      let targetColumns ← namesOf ([r.columnName c.name].map Value.text)
      let onUpdate ← asAction (.referentialAction r.onUpdate)
      let onDelete ← asAction (.referentialAction r.onDelete)
      return {
        columns
        target
        targetColumns
        onUpdate
        onDelete : ReferenceClause }) = _
  rw [own, target, referenced, onUpdate, onDelete]
  rfl

theorem dropTable_table :
    dropTable (d.table id) = .ok (.dropTable d.qualifiedName) := by
  unfold dropTable
  rw [TableDefinition.qualifiedName_table]
  rfl

/-- A described table is linked as its entry says. -/
theorem linkTable_table :
    linkTable (d.table id) = .ok (d.entry.linking d.qualifiedName) := by
  have clauses :
      d.entry.foreignKeys =
        (placedReferences (placed id d.columns)).map fun e =>
          e.2.clause e.1.1.name := by
    change d.references = _
    unfold TableDefinition.references placedReferences
    conv_lhs => rw [← map_fst_placed id d.columns]
    rw [List.filterMap_map, List.map_filterMap]
    congr 1
    funext p
    rw [Function.comp_apply, Option.map_map]
    rfl
  unfold linkTable Entry.linking
  rw [foreignKeys_table, tableName_table, List.mapM_map, clauses,
    List.map_map]
  apply mapM_eq_ok
  intro e member
  obtain ⟨p, placedMember, isReference⟩ := List.mem_filterMap.mp member
  obtain ⟨r, _, rfl⟩ := Option.map_eq_some_iff.mp isReference
  obtain ⟨_, i, equality⟩ := eq_column_of_mem_placed placedMember
  change
    (referenceClause
      ⟨foreignKeyName p.2.name, .foreignKey (r.foreignKey p.1.name), [p.2]⟩
      (r.foreignKey p.1.name)).map _ = _
  rw [equality, referenceClause_foreignKey]
  rfl

end Statements

/-! ## The plan of a described database -/

/-- The entries of the declared tables under their qualified names. -/
def declaredEntries (c : Configuration) : List (String × Entry) :=
  c.tables.map fun d => (d.qualifiedName, d.entry)

def describedPlan (c : Configuration) : List Statement :=
  c.describedDatabase.schemas.flatMap rebuildSchema ++
    (c.tables.map TableDefinition.qualifiedName).map .dropTable ++
    (declaredEntries c).flatMap (fun p => p.2.building p.1) ++
    (declaredEntries c).flatMap (fun p => p.2.linking p.1)

theorem plan_describedDatabase (c : Configuration) :
    plan c.describedDatabase = .ok (describedPlan c) := by
  have dropped :
      c.describedDatabase.tables.mapM dropTable =
        .ok ((c.tables.map TableDefinition.qualifiedName).map .dropTable) := by
    conv_rhs => rw [← map_snd_numbered c.tables]
    unfold Configuration.describedDatabase
    rw [List.mapM_map, List.map_map, List.map_map]
    exact mapM_eq_ok fun p _ => dropTable_table p.1 p.2
  have built :
      c.describedDatabase.tables.mapM buildTable =
        .ok ((numbered c.tables).map fun p =>
          p.2.entry.building p.2.qualifiedName) := by
    unfold Configuration.describedDatabase
    rw [List.mapM_map]
    exact mapM_eq_ok fun p _ => buildTable_table p.1 p.2
  have linked :
      c.describedDatabase.tables.mapM linkTable =
        .ok ((numbered c.tables).map fun p =>
          p.2.entry.linking p.2.qualifiedName) := by
    unfold Configuration.describedDatabase
    rw [List.mapM_map]
    exact mapM_eq_ok fun p _ => linkTable_table p.1 p.2
  have flattened (statements : TableDefinition → List Statement) :
      ((numbered c.tables).map fun p => statements p.2).flatten =
        c.tables.flatMap statements := by
    conv_rhs => rw [← map_snd_numbered c.tables]
    rw [List.flatMap_map]
    rfl
  unfold plan
  rw [dropped, built, linked]
  change
    Except.ok
      (c.describedDatabase.schemas.flatMap rebuildSchema ++
        (c.tables.map TableDefinition.qualifiedName).map .dropTable ++
        ((numbered c.tables).map fun p =>
          p.2.entry.building p.2.qualifiedName).flatten ++
        ((numbered c.tables).map fun p =>
          p.2.entry.linking p.2.qualifiedName).flatten) = _
  rw [flattened fun d => d.entry.building d.qualifiedName,
    flattened fun d => d.entry.linking d.qualifiedName]
  unfold describedPlan declaredEntries
  rw [List.flatMap_map, List.flatMap_map]

theorem create_describedDatabase (c : Configuration) :
    create c.describedDatabase =
      .ok ((describedPlan c).map Statement.text) := by
  unfold create
  rw [plan_describedDatabase]
  rfl

end Tablesmith.Sql

import Tablesmith.Config.Building
import Tablesmith.Proofs.Schema.Invariants

/-!
# The tables that definitions describe

A table definition describes a table directly: its columns in order, then the
constraints of the columns from the first to the last, then the uniqueness
constraints over several columns.  All primary key columns share one
constraint, which stands where the first of them does.
-/

namespace Tablesmith.Config

open Tablesmith.Schema

attribute [ext] Table

def ColumnKind.columnType : ColumnKind → ColumnType
  | .primaryKey => .autoIncrement
  | .plain type => type
  | .reference _ => .number

/-- An expression that is set; an empty one is not. -/
def setExpression : Option String → Value
  | some given => if given = "" then .null else .text given
  | none => .null

namespace ReferenceDefinition

/-- The name of the column that a reference from a column with the given name
points at. -/
def columnName (r : ReferenceDefinition) (own : String) : String :=
  match r.column with
  | some given => if given = "" then own else given
  | none => own

/-- The foreign key that a reference from a column with the given name
describes. -/
def foreignKey (r : ReferenceDefinition) (own : String) : ForeignKey where
  target := .table (.text r.tableName)
  columns := [.text (r.columnName own)]
  actions := {
    onUpdate := .referentialAction r.onUpdate
    onDelete := .referentialAction r.onDelete }

end ReferenceDefinition

namespace ColumnDefinition

def isKey (c : ColumnDefinition) : Bool :=
  c.kind = .primaryKey

def column (id : ColumnId) (c : ColumnDefinition) : Column where
  id
  name := .text c.name
  type := .columnType c.kind.columnType
  options := {
    required := .bool c.required
    unique := .bool c.unique
    default := setExpression c.default
    check := setExpression c.check }

/-- The foreign key constraint of a column, if its definition is that of a
reference. -/
def foreignKeysOver (d : ColumnDefinition) (c : Column) : List Constraint :=
  match d.kind with
  | .reference r =>
    [⟨foreignKeyName c.name, .foreignKey (r.foreignKey d.name), [c]⟩]
  | _ => []

end ColumnDefinition

/-- A definition together with the column that it describes. -/
abbrev Placed := ColumnDefinition × Column

/-- The columns that definitions describe, each with its place in the
table. -/
def placed (id : TableId) (columns : List ColumnDefinition) : List Placed :=
  columns.mapIdx fun i c => (c, c.column ⟨id, i⟩)

def keyColumns (pairs : List Placed) : List Column :=
  (pairs.filter fun p => p.1.isKey).map Prod.snd

/-- The constraints of columns, from the first to the last: that of a unique
column, then the primary key unless it is already there, then that of a
reference.  The columns of the primary key are given. -/
def constraintsAlong (keys : List Column) : Bool → List Placed → List Constraint
  | _, [] => []
  | keyed, (d, c) :: rest =>
    (if d.unique then [c.ownUnique] else []) ++
      (if d.isKey && !keyed then [⟨primaryKeyName, .primaryKey, keys⟩]
        else []) ++
      d.foreignKeysOver c ++
      constraintsAlong keys (keyed || d.isKey) rest

/-- The uniqueness constraint over the columns with the given names. -/
def wideUnique (pairs : List Placed) (names : List String) : Constraint :=
  let chosen := pairs.filter fun p => names.contains p.1.name
  ⟨uniqueName (.text (String.intercalate "_" (chosen.map fun p => p.1.name))),
    .unique, chosen.map Prod.snd⟩

namespace TableDefinition

/-- The schema of a table; without one, or with an empty one, it is the public
schema. -/
def schemaName (d : TableDefinition) : String :=
  match d.schema with
  | some given => if given = "" then publicSchema else given
  | none => publicSchema

def table (id : TableId) (d : TableDefinition) : Table :=
  let pairs := placed id d.columns
  { id
    name := .text d.name
    schema := d.schemaName
    columns := pairs.map Prod.snd
    constraints :=
      constraintsAlong (keyColumns pairs) false pairs ++
        d.unique.map (wideUnique pairs) }

/-- The definition with other columns and no constraints over several of
them. -/
def withColumns (d : TableDefinition) (columns : List ColumnDefinition) :
    TableDefinition :=
  { d with columns, unique := [] }

def withUnique (d : TableDefinition) (unique : List (List String)) :
    TableDefinition :=
  { d with unique }

end TableDefinition

/-! ## Placed columns -/

@[simp]
theorem placed_nil (id : TableId) : placed id [] = [] := rfl

@[simp]
theorem placed_append
    (id : TableId) (columns : List ColumnDefinition) (c : ColumnDefinition) :
    placed id (columns ++ [c]) =
      placed id columns ++ [(c, c.column ⟨id, columns.length⟩)] :=
  List.mapIdx_concat

@[simp]
theorem length_placed (id : TableId) (columns : List ColumnDefinition) :
    (placed id columns).length = columns.length :=
  List.length_mapIdx

theorem eq_column_of_mem_placed
    {id : TableId} {columns : List ColumnDefinition} {p : Placed}
    (member : p ∈ placed id columns) :
    p.1 ∈ columns ∧ ∃ i, p.2 = p.1.column ⟨id, i⟩ := by
  obtain ⟨i, inside, rfl⟩ := List.mem_mapIdx.mp member
  exact ⟨List.getElem_mem inside, i, rfl⟩

theorem map_fst_placed (id : TableId) (columns : List ColumnDefinition) :
    (placed id columns).map Prod.fst = columns := by
  induction columns using List.reverseRecOn with
  | nil => rfl
  | append_singleton earlier c inductionHypothesis =>
      rw [placed_append, List.map_append, inductionHypothesis]
      rfl

theorem map_name_placed (id : TableId) (columns : List ColumnDefinition) :
    (placed id columns).map (fun p => p.2.name) =
      columns.map fun c => .text c.name := by
  induction columns using List.reverseRecOn with
  | nil => rfl
  | append_singleton earlier c inductionHypothesis =>
      rw [placed_append, List.map_append, inductionHypothesis,
        List.map_append]
      rfl

/-! ## The constraints of columns -/

theorem constraintsAlong_append
    (keys : List Column) (keyed : Bool) (pairs more : List Placed) :
    constraintsAlong keys keyed (pairs ++ more) =
      constraintsAlong keys keyed pairs ++
        constraintsAlong keys (keyed || pairs.any fun p => p.1.isKey) more := by
  induction pairs generalizing keyed with
  | nil => simp [constraintsAlong]
  | cons head tail inductionHypothesis =>
      rw [List.cons_append, constraintsAlong, constraintsAlong,
        inductionHypothesis, List.any_cons, Bool.or_assoc]
      simp only [List.append_assoc]

/-- Once the primary key is there, its columns do not matter. -/
theorem constraintsAlong_keyed
    (keys others : List Column) (pairs : List Placed) :
    constraintsAlong keys true pairs = constraintsAlong others true pairs := by
  induction pairs with
  | nil => rfl
  | cons head tail inductionHypothesis =>
      rw [constraintsAlong, constraintsAlong, Bool.true_or,
        inductionHypothesis]
      simp

/-- What a column brings apart from the primary key is no primary key. -/
theorem type_ne_primaryKey_beside
    {d : ColumnDefinition} {c : Column} {k : Constraint}
    (member :
      k ∈ (if d.unique then [c.ownUnique] else []) ∨
        k ∈ d.foreignKeysOver c) :
    k.type ≠ .primaryKey := by
  rcases member with own | foreign
  · split at own
    · rw [List.mem_singleton.mp own]
      simp [Column.ownUnique, Constraint.type, Demand.type]
    · cases own
  · unfold ColumnDefinition.foreignKeysOver at foreign
    split at foreign
    · rw [List.mem_singleton.mp foreign]
      simp [Constraint.type, Demand.type]
    · cases foreign

/-- Columns bring a primary key only if one of them belongs to it, and it is
not yet there. -/
theorem type_ne_primaryKey_of_mem
    {keys : List Column} {keyed : Bool} {pairs : List Placed}
    (noneLeft : keyed = true ∨ pairs.any (fun p => p.1.isKey) = false)
    {k : Constraint} (member : k ∈ constraintsAlong keys keyed pairs) :
    k.type ≠ .primaryKey := by
  induction pairs generalizing keyed with
  | nil => cases member
  | cons head tail inductionHypothesis =>
      obtain ⟨d, c⟩ := head
      have noKeyHere : (d.isKey && !keyed) = false := by
        rcases noneLeft with rfl | keyless
        · simp
        · rw [List.any_cons, Bool.or_eq_false_iff] at keyless
          simp [keyless.1]
      have noneLater :
          (keyed || d.isKey) = true ∨
            tail.any (fun p => p.1.isKey) = false := by
        rcases noneLeft with rfl | keyless
        · exact Or.inl rfl
        · rw [List.any_cons, Bool.or_eq_false_iff] at keyless
          exact Or.inr keyless.2
      rw [constraintsAlong, noKeyHere] at member
      simp only [Bool.false_eq_true, if_false, List.append_nil,
        List.mem_append] at member
      rcases member with (own | foreign) | later
      · exact type_ne_primaryKey_beside (Or.inl own)
      · exact type_ne_primaryKey_beside (Or.inr foreign)
      · exact inductionHypothesis noneLater later

/-- The place of the primary key does not depend on the columns that it
holds. -/
theorem constraintsAlong_split
    {pairs : List Placed}
    (keyed : pairs.any (fun p => p.1.isKey) = true) :
    ∃ first last,
      (∀ k ∈ first, k.type ≠ .primaryKey) ∧
        (∀ k ∈ last, k.type ≠ .primaryKey) ∧
        ∀ keys, constraintsAlong keys false pairs =
          first ++ ⟨primaryKeyName, .primaryKey, keys⟩ :: last := by
  induction pairs with
  | nil => cases keyed
  | cons head tail inductionHypothesis =>
      obtain ⟨d, c⟩ := head
      by_cases isKey : d.isKey = true
      · -- From here on the key is there, so the columns that it holds do not
        -- matter for what follows.
        refine ⟨if d.unique then [c.ownUnique] else [],
          d.foreignKeysOver c ++ constraintsAlong [] true tail, ?_, ?_, ?_⟩
        · exact fun k own => type_ne_primaryKey_beside (Or.inl own)
        · intro k member
          rcases List.mem_append.mp member with foreign | later
          · exact type_ne_primaryKey_beside (Or.inr foreign)
          · exact type_ne_primaryKey_of_mem (Or.inl rfl) later
        · intro keys
          rw [constraintsAlong, isKey, Bool.or_true,
            constraintsAlong_keyed keys []]
          simp
      · have notKey : d.isKey = false := Bool.eq_false_iff.mpr isKey
        rw [List.any_cons, notKey, Bool.false_or] at keyed
        obtain ⟨first, last, firstOthers, lastOthers, place⟩ :=
          inductionHypothesis keyed
        refine ⟨(if d.unique then [c.ownUnique] else []) ++
          d.foreignKeysOver c ++ first, last, ?_, lastOthers, ?_⟩
        · intro k member
          simp only [List.mem_append] at member
          rcases member with (own | foreign) | later
          · exact type_ne_primaryKey_beside (Or.inl own)
          · exact type_ne_primaryKey_beside (Or.inr foreign)
          · exact firstOthers k later
        · intro keys
          rw [constraintsAlong, notKey, Bool.or_false, place keys]
          simp

/-- Without primary key columns, the columns of the primary key do not
matter. -/
theorem constraintsAlong_keyless
    (keys others : List Column) {pairs : List Placed}
    (keyless : pairs.any (fun p => p.1.isKey) = false) :
    constraintsAlong keys false pairs = constraintsAlong others false pairs := by
  induction pairs with
  | nil => rfl
  | cons head tail inductionHypothesis =>
      rw [List.any_cons, Bool.or_eq_false_iff] at keyless
      rw [constraintsAlong, constraintsAlong, keyless.1, Bool.or_false,
        inductionHypothesis keyless.2]
      simp

/-! ## One more column -/

theorem keyColumns_append (pairs : List Placed) (p : Placed) :
    keyColumns (pairs ++ [p]) =
      keyColumns pairs ++ (if p.1.isKey then [p.2] else []) := by
  unfold keyColumns
  rw [List.filter_append, List.map_append, List.filter_singleton]
  congr 1
  cases p.1.isKey with
  | true => rfl
  | false => rfl

namespace TableDefinition

variable {d : TableDefinition} {id : TableId}
variable {columns : List ColumnDefinition} {c : ColumnDefinition}

@[simp]
theorem columns_table (id : TableId) (d : TableDefinition) :
    (d.table id).columns = (placed id d.columns).map Prod.snd := rfl

theorem constraints_table (id : TableId) (d : TableDefinition) :
    (d.table id).constraints =
      constraintsAlong (keyColumns (placed id d.columns)) false
        (placed id d.columns) ++
        d.unique.map (wideUnique (placed id d.columns)) := rfl

theorem constraints_withColumns
    (id : TableId) (d : TableDefinition) (columns : List ColumnDefinition) :
    ((d.withColumns columns).table id).constraints =
      constraintsAlong (keyColumns (placed id columns)) false
        (placed id columns) :=
  List.append_nil _

theorem columns_withColumns_append :
    ((d.withColumns (columns ++ [c])).table id).columns =
      ((d.withColumns columns).table id).columns ++
        [c.column ⟨id, columns.length⟩] := by
  rw [columns_table, columns_table]
  simp [withColumns]

theorem uniquesOf_column (id : ColumnId) (c : ColumnDefinition) :
    Table.uniquesOf (c.column id) =
      if c.unique then [(c.column id).ownUnique] else [] := rfl

/-- A column that does not belong to the primary key brings its own
constraints at the end. -/
theorem constraints_withColumns_append (notKey : c.isKey = false) :
    ((d.withColumns (columns ++ [c])).table id).constraints =
      ((d.withColumns columns).table id).constraints ++
        (Table.uniquesOf (c.column ⟨id, columns.length⟩) ++
          c.foreignKeysOver (c.column ⟨id, columns.length⟩)) := by
  rw [constraints_withColumns, constraints_withColumns, placed_append,
    constraintsAlong_append, keyColumns_append, notKey, uniquesOf_column]
  simp [constraintsAlong, notKey]

theorem isSome_primaryKey?_withColumns :
    ((d.withColumns columns).table id).primaryKey?.isSome =
      (placed id columns).any fun p => p.1.isKey := by
  unfold Table.primaryKey? Table.constraintsOf
  rw [constraints_withColumns]
  cases keyed : (placed id columns).any fun p => p.1.isKey with
  | false =>
      have noKey :
          (constraintsAlong (keyColumns (placed id columns)) false
            (placed id columns)).filter
              (fun k => decide (k.type = .primaryKey)) = [] := by
        rw [List.filter_eq_nil_iff]
        intro k member
        have different := type_ne_primaryKey_of_mem (Or.inr keyed) member
        simpa using different
      rw [noKey]
      rfl
  | true =>
      obtain ⟨first, last, firstOthers, _, place⟩ :=
        constraintsAlong_split keyed
      rw [place, List.filter_append, List.filter_eq_nil_iff.mpr]
      · rfl
      · intro k member
        simpa using firstOthers k member

/-- The constraints after a column that belongs to the primary key: the primary
key holds it where it stands, or is new at the end. -/
theorem constraints_withColumns_key
    (isKey : c.isKey = true) (notUnique : c.unique = false) :
    ((d.withColumns (columns ++ [c])).table id).constraints =
      if (placed id columns).any fun p => p.1.isKey then
        updateFirst (fun k => k.type = .primaryKey)
          (fun k => k.addColumn (c.column ⟨id, columns.length⟩))
          ((d.withColumns columns).table id).constraints
      else
        ((d.withColumns columns).table id).constraints ++
          [⟨primaryKeyName, .primaryKey, [c.column ⟨id, columns.length⟩]⟩] := by
  have noForeign :
      c.foreignKeysOver (c.column ⟨id, columns.length⟩) = [] := by
    have kind : c.kind = .primaryKey := of_decide_eq_true isKey
    unfold ColumnDefinition.foreignKeysOver
    rw [kind]
  rw [constraints_withColumns, constraints_withColumns, placed_append,
    constraintsAlong_append, keyColumns_append, isKey, if_pos rfl]
  cases keyed : (placed id columns).any fun p => p.1.isKey with
  | true =>
      obtain ⟨first, last, firstOthers, _, place⟩ :=
        constraintsAlong_split keyed
      rw [if_pos rfl, place, place, updateFirst_append]
      · simp [constraintsAlong, notUnique, noForeign, Constraint.addColumn]
      · intro k member
        simpa using firstOthers k member
      · rfl
  | false =>
      have noKeys : keyColumns (placed id columns) = [] := by
        unfold keyColumns
        rw [List.map_eq_nil_iff, List.filter_eq_nil_iff]
        rwa [List.any_eq_false] at keyed
      rw [if_neg Bool.false_ne_true, noKeys, List.nil_append,
        constraintsAlong_keyless _ [] keyed]
      simp [constraintsAlong, isKey, notUnique, noForeign]

/-- A column that belongs to the primary key extends it where it stands, or
brings it. -/
theorem extendPrimaryKey_withColumns
    (isKey : c.isKey = true) (notUnique : c.unique = false) :
    (((d.withColumns columns).table id).append
        (c.column ⟨id, columns.length⟩)).extendPrimaryKey
        (c.column ⟨id, columns.length⟩) =
      (d.withColumns (columns ++ [c])).table id := by
  have noOwn :
      ((d.withColumns columns).table id).append
          (c.column ⟨id, columns.length⟩) =
        { (d.withColumns columns).table id with
          columns := ((d.withColumns (columns ++ [c])).table id).columns } := by
    rw [columns_withColumns_append]
    unfold Table.append
    rw [if_neg]
    simp [ColumnDefinition.column, Value.truthy, notUnique]
  have sameKey :
      (((d.withColumns columns).table id).append
          (c.column ⟨id, columns.length⟩)).primaryKey?.isSome =
        (placed id columns).any fun p => p.1.isKey := by
    rw [← isSome_primaryKey?_withColumns, noOwn]
    rfl
  have constraints :
      ((d.withColumns (columns ++ [c])).table id).constraints = _ :=
    constraints_withColumns_key isKey notUnique
  unfold Table.extendPrimaryKey
  rw [sameKey, noOwn]
  split
  next keyed =>
    rw [if_pos keyed] at constraints
    exact Table.ext rfl rfl rfl rfl constraints.symm
  next keyless =>
    rw [if_neg keyless] at constraints
    exact Table.ext rfl rfl rfl rfl constraints.symm

theorem append_withColumns
    (notKey : c.isKey = false)
    (noForeign : c.foreignKeysOver (c.column ⟨id, columns.length⟩) = []) :
    ((d.withColumns columns).table id).append
        (c.column ⟨id, columns.length⟩) =
      (d.withColumns (columns ++ [c])).table id := by
  refine Table.ext rfl rfl rfl ?_ ?_
  · exact columns_withColumns_append.symm
  · rw [Table.constraints_append, constraints_withColumns_append notKey,
      noForeign, List.append_nil]

theorem addForeignKey_withColumns
    {r : ReferenceDefinition} (kind : c.kind = .reference r) :
    (((d.withColumns columns).table id).append
        (c.column ⟨id, columns.length⟩)).addConstraint
        ⟨foreignKeyName (.text c.name), .foreignKey (r.foreignKey c.name),
          [c.column ⟨id, columns.length⟩]⟩ =
      (d.withColumns (columns ++ [c])).table id := by
  have notKey : c.isKey = false := by
    simp [ColumnDefinition.isKey, kind]
  refine Table.ext rfl rfl rfl ?_ ?_
  · exact columns_withColumns_append.symm
  · rw [Table.constraints_addConstraint, Table.constraints_append,
      constraints_withColumns_append notKey]
    simp [ColumnDefinition.foreignKeysOver, kind, ColumnDefinition.column]

theorem addUnique_withUnique (names : List String) :
    (d.table id).addConstraint (wideUnique (placed id d.columns) names) =
      (d.withUnique (d.unique ++ [names])).table id := by
  refine Table.ext rfl rfl rfl rfl ?_
  rw [Table.constraints_addConstraint, constraints_table, constraints_table]
  simp [withUnique]

end TableDefinition

end Tablesmith.Config

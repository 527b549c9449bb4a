import Mathlib.Data.List.Induction
import Tablesmith.Proofs.Schema.Calls

/-!
# Invariants of tables under construction

Tables that are built by calls with text names keep their columns and
constraints in step: names are unique, one primary key holds the columns that
count up, each unique column has its own constraint, and foreign keys stand on
one number column each.  Calls only append; a call that fails changes nothing.
-/

namespace Tablesmith.Schema

def Column.isKey (c : Column) : Bool :=
  match c.type with
  | .member (.column .autoIncrement) => true
  | _ => false

def Column.isUnique (c : Column) : Bool :=
  c.options.unique.truthy

/-- The uniqueness constraint of a unique column. -/
def Column.ownUnique (c : Column) : Constraint :=
  ⟨uniqueName c.name, .unique, [c]⟩

def Constraint.isSingle (k : Constraint) : Bool :=
  k.columns.length = 1

/-- The primary keys of a table whose columns that count up are given: none
without such columns, and otherwise one that holds them all. -/
def sharedKey : List Column → List Constraint
  | [] => []
  | columns => [⟨primaryKeyName, .primaryKey, columns⟩]

namespace Table

/-- The facts that keep columns and constraints in step, apart from those
about the primary key. -/
structure Shaped (t : Table) : Prop where
  textNames : t.HasTextNames
  /-- No two columns have the same name. -/
  distinctNames : (t.columns.map Column.name).Nodup
  /-- No constraint is empty, and each is over columns of this table. -/
  ownColumns :
    ∀ k ∈ t.constraints, k.columns ≠ [] ∧ ∀ c ∈ k.columns, c ∈ t.columns
  /-- The uniqueness constraints over one column are those of the unique
  columns, one for each, in order. -/
  ownUniques :
    t.uniqueConstraints.filter Constraint.isSingle =
      (t.columns.filter Column.isUnique).map Column.ownUnique
  /-- Every other uniqueness constraint is over at least two columns, in the
  order of the table. -/
  wideUniques :
    ∀ k ∈ t.uniqueConstraints, k.isSingle = false →
      k.columns.Sublist t.columns ∧ 2 ≤ k.columns.length
  /-- A foreign key is over one number column and points at one column. -/
  foreignKeys :
    ∀ entry ∈ t.foreignKeys, ∃ c referenced,
      entry.1.columns = [c] ∧ c.type = .columnType .number ∧
        entry.2.columns = [referenced]
  /-- No two foreign keys are over the same column. -/
  foreignKeyColumns :
    (t.foreignKeys.map fun entry => entry.1.columnNames).Nodup

/-- A table under construction: its columns and constraints are in step, and
one primary key holds exactly the columns that count up, in order. -/
structure Sound (t : Table) : Prop extends Shaped t where
  oneKey :
    t.constraintsOf .primaryKey = sharedKey (t.columns.filter Column.isKey)

/-- A table after a call holds what it held before in the same places: the
columns, and the constraints with their columns.  Only a primary key may have
got columns at its end. -/
structure Grows (before after : Table) : Prop where
  sameTable :
    after.id = before.id ∧ after.name = before.name ∧
      after.schema = before.schema
  columns : before.columns <+: after.columns
  constraints :
    ∀ (i : Nat) (k : Constraint),
      before.constraints[i]? = some k → k.type ≠ .primaryKey →
        after.constraints[i]? = some k
  key :
    ∀ (i : Nat) (k : Constraint),
      before.constraints[i]? = some k → k.type = .primaryKey →
        ∃ more, after.constraints[i]? =
          some { k with columns := k.columns ++ more }

end Table

/-! ## Changing the first constraint that fits -/

section UpdateFirst

variable {fits : Constraint → Bool} {change : Constraint → Constraint}

theorem updateFirst_append
    {before after : List Constraint} {k : Constraint}
    (unfit : ∀ other ∈ before, ¬ fits other = true)
    (fit : fits k = true) :
    updateFirst fits change (before ++ k :: after) =
      before ++ change k :: after := by
  induction before with
  | nil => simp [updateFirst, fit]
  | cons head tail inductionHypothesis =>
      have headUnfit := unfit head List.mem_cons_self
      have tailUnfit : ∀ other ∈ tail, ¬ fits other = true :=
        fun other member => unfit other (List.mem_cons_of_mem _ member)
      simp [updateFirst, headUnfit, inductionHypothesis tailUnfit]

/-- What does not look at fitting constraints does not notice the change. -/
theorem filterMap_updateFirst
    {α : Type} {see : Constraint → Option α}
    (blind :
      ∀ k, fits k = true → see k = none ∧ see (change k) = none)
    (constraints : List Constraint) :
    (updateFirst fits change constraints).filterMap see =
      constraints.filterMap see := by
  induction constraints with
  | nil => rfl
  | cons head tail inductionHypothesis =>
      rw [updateFirst]
      by_cases fit : fits head = true
      · rw [if_pos fit, List.filterMap_cons_none (blind head fit).2,
          List.filterMap_cons_none (blind head fit).1]
      · rw [if_neg fit, List.filterMap_cons, List.filterMap_cons,
          inductionHypothesis]

/-- The first fitting constraint is the one that is changed, if it still
fits. -/
theorem find?_updateFirst
    (kept : ∀ k, fits k = true → fits (change k) = true)
    (constraints : List Constraint) :
    (updateFirst fits change constraints).find? fits =
      (constraints.find? fits).map change := by
  induction constraints with
  | nil => rfl
  | cons head tail inductionHypothesis =>
      rw [updateFirst]
      by_cases fit : fits head = true
      · rw [if_pos fit, List.find?_cons_of_pos (kept head fit),
          List.find?_cons_of_pos fit]
        rfl
      · rw [if_neg fit, List.find?_cons_of_neg fit,
          List.find?_cons_of_neg fit, inductionHypothesis]

theorem mem_updateFirst
    {constraints : List Constraint} {k : Constraint}
    (member : k ∈ updateFirst fits change constraints) :
    k ∈ constraints ∨ ∃ old ∈ constraints, k = change old := by
  induction constraints with
  | nil => exact Or.inl member
  | cons head tail inductionHypothesis =>
      rw [updateFirst] at member
      split at member
      · rcases List.mem_cons.mp member with rfl | inTail
        · exact Or.inr ⟨head, List.mem_cons_self, rfl⟩
        · exact Or.inl (List.mem_cons_of_mem _ inTail)
      · rcases List.mem_cons.mp member with rfl | inTail
        · exact Or.inl List.mem_cons_self
        · rcases inductionHypothesis inTail with old | ⟨old, oldMember, same⟩
          · exact Or.inl (List.mem_cons_of_mem _ old)
          · exact Or.inr ⟨old, List.mem_cons_of_mem _ oldMember, same⟩

/-- Every constraint keeps its place; only a fitting one may be changed. -/
theorem getElem?_updateFirst
    {constraints : List Constraint} {i : Nat} {k : Constraint}
    (found : constraints[i]? = some k) :
    (updateFirst fits change constraints)[i]? = some k ∨
      (fits k = true ∧
        (updateFirst fits change constraints)[i]? = some (change k)) := by
  induction constraints generalizing i with
  | nil => simp at found
  | cons head tail inductionHypothesis =>
      rw [updateFirst]
      cases i with
      | zero =>
          obtain rfl : head = k := by simpa using found
          by_cases fit : fits head = true
          · exact Or.inr ⟨fit, by simp [fit]⟩
          · exact Or.inl (by simp [fit])
      | succ j =>
          have foundTail : tail[j]? = some k := by simpa using found
          split
          · exact Or.inl (by simpa using foundTail)
          · simpa using inductionHypothesis foundTail

end UpdateFirst

namespace Table

/-! ## Columns and constraints after an addition -/

/-- The uniqueness constraint that comes with a column, if it is unique. -/
def uniquesOf (c : Column) : List Constraint :=
  if c.isUnique then [c.ownUnique] else []

@[simp]
theorem columns_append (t : Table) (c : Column) :
    (t.append c).columns = t.columns ++ [c] := rfl

theorem constraints_append (t : Table) (c : Column) :
    (t.append c).constraints = t.constraints ++ uniquesOf c := by
  unfold append uniquesOf Column.isUnique
  split <;> simp [Column.ownUnique]

@[simp]
theorem columns_addConstraint (t : Table) (k : Constraint) :
    (t.addConstraint k).columns = t.columns := rfl

@[simp]
theorem constraints_addConstraint (t : Table) (k : Constraint) :
    (t.addConstraint k).constraints = t.constraints ++ [k] := rfl

@[simp]
theorem columns_extendPrimaryKey (t : Table) (c : Column) :
    (t.extendPrimaryKey c).columns = t.columns := by
  unfold extendPrimaryKey
  split <;> rfl

@[simp]
theorem name_extendPrimaryKey (t : Table) (c : Column) :
    (t.extendPrimaryKey c).name = t.name := by
  unfold extendPrimaryKey
  split <;> rfl

theorem constraintsOf_addConstraint_of_ne
    (t : Table) {k : Constraint} {type : ConstraintType}
    (otherType : k.type ≠ type) :
    (t.addConstraint k).constraintsOf type = t.constraintsOf type := by
  unfold constraintsOf
  rw [constraints_addConstraint, List.filter_append,
    List.append_right_eq_self, List.filter_eq_nil_iff]
  intro added member
  rw [List.mem_singleton.mp member]
  simpa using otherType

/-- A constraint over columns of the table keeps the others in their
columns. -/
theorem ownColumns_addConstraint
    {t : Table} (shaped : t.Shaped) {k : Constraint}
    (filled : k.columns ≠ []) (own : k.columns ⊆ t.columns) :
    ∀ other ∈ (t.addConstraint k).constraints,
      other.columns ≠ [] ∧ ∀ c ∈ other.columns, c ∈ t.columns := by
  intro other member
  rcases List.mem_append.mp member with old | new
  · exact shaped.ownColumns other old
  · rw [List.mem_singleton.mp new]
    exact ⟨filled, fun c inside => own inside⟩

theorem mem_uniquesOf {c : Column} {k : Constraint}
    (member : k ∈ uniquesOf c) :
    k = c.ownUnique := by
  unfold uniquesOf at member
  split at member
  · exact List.mem_singleton.mp member
  · simp at member

theorem uniqueConstraints_append (t : Table) (c : Column) :
    (t.append c).uniqueConstraints = t.uniqueConstraints ++ uniquesOf c := by
  unfold uniqueConstraints constraintsOf
  rw [constraints_append, List.filter_append]
  congr 1
  apply List.filter_eq_self.mpr
  intro k member
  rw [mem_uniquesOf member]
  rfl

theorem foreignKeys_append (t : Table) (c : Column) :
    (t.append c).foreignKeys = t.foreignKeys := by
  unfold foreignKeys
  rw [constraints_append, List.filterMap_append, List.append_right_eq_self,
    List.filterMap_eq_nil_iff]
  intro k member
  rw [mem_uniquesOf member]
  rfl

theorem primaryKeys_append (t : Table) (c : Column) :
    (t.append c).constraintsOf .primaryKey = t.constraintsOf .primaryKey := by
  unfold constraintsOf
  rw [constraints_append, List.filter_append, List.append_right_eq_self,
    List.filter_eq_nil_iff]
  intro k member
  rw [mem_uniquesOf member]
  simp [Column.ownUnique, Constraint.type, Demand.type]

/-! ## The shape is kept -/

theorem shaped_append
    {t : Table} (shaped : t.Shaped) {c : Column} (fresh : t.Fresh c) :
    (t.append c).Shaped where
  textNames := by
    intro other member
    rcases List.mem_append.mp member with old | new
    · exact shaped.textNames other old
    · rw [List.mem_singleton.mp new]
      exact fresh.textName
  distinctNames := by
    rw [columns_append, List.map_append, List.map_singleton,
      ← List.concat_eq_append]
    apply shaped.distinctNames.concat
    intro taken
    obtain ⟨other, member, sameName⟩ := List.mem_map.mp taken
    exact fresh.freeName other member sameName
  ownColumns := by
    intro k member
    rw [constraints_append] at member
    rcases List.mem_append.mp member with old | new
    · obtain ⟨filled, own⟩ := shaped.ownColumns k old
      exact ⟨filled, fun other inside =>
        List.mem_append_left _ (own other inside)⟩
    · rw [mem_uniquesOf new]
      exact ⟨by simp [Column.ownUnique], fun other inside =>
        List.mem_append_right _ inside⟩
  ownUniques := by
    rw [uniqueConstraints_append, columns_append, List.filter_append,
      List.filter_append, List.map_append, shaped.ownUniques]
    congr 1
    unfold uniquesOf
    by_cases isUnique : c.isUnique = true
    · simp [isUnique, Constraint.isSingle, Column.ownUnique]
    · simp [isUnique]
  wideUniques := by
    intro k member wide
    rw [uniqueConstraints_append] at member
    rcases List.mem_append.mp member with old | new
    · obtain ⟨inOrder, several⟩ := shaped.wideUniques k old wide
      exact ⟨inOrder.trans (List.sublist_append_left _ _), several⟩
    · rw [mem_uniquesOf new] at wide
      cases wide
  foreignKeys := by
    rw [foreignKeys_append]
    exact shaped.foreignKeys
  foreignKeyColumns := by
    rw [foreignKeys_append]
    exact shaped.foreignKeyColumns

/-- A foreign key on a new number column, once the column is there. -/
theorem shaped_addForeignKey
    {t : Table} (shaped : t.Shaped) {c : Column} {key : ForeignKey}
    {name referenced : Value}
    (own : c ∈ t.columns)
    (number : c.type = .columnType .number)
    (oneName : key.columns = [referenced])
    (unused : ∀ entry ∈ t.foreignKeys, entry.1.columnNames ≠ [c.name]) :
    (t.addConstraint ⟨name, .foreignKey key, [c]⟩).Shaped := by
  let k : Constraint := ⟨name, .foreignKey key, [c]⟩
  have sameUniques :
      (t.addConstraint k).uniqueConstraints = t.uniqueConstraints :=
    constraintsOf_addConstraint_of_ne t
      (by simp [k, Constraint.type, Demand.type])
  have oneMore :
      (t.addConstraint k).foreignKeys = t.foreignKeys ++ [(k, key)] := by
    unfold foreignKeys
    rw [constraints_addConstraint, List.filterMap_append]
    rfl
  exact
    { textNames := shaped.textNames
      distinctNames := shaped.distinctNames
      ownColumns :=
        ownColumns_addConstraint shaped (List.cons_ne_nil c [])
          (List.cons_subset.mpr ⟨own, List.nil_subset _⟩)
      ownUniques := by
        rw [sameUniques]
        exact shaped.ownUniques
      wideUniques := by
        rw [sameUniques]
        exact shaped.wideUniques
      foreignKeys := by
        intro entry member
        rw [oneMore] at member
        rcases List.mem_append.mp member with old | new
        · exact shaped.foreignKeys entry old
        · rw [List.mem_singleton.mp new]
          exact ⟨c, referenced, rfl, number, oneName⟩
      foreignKeyColumns := by
        rw [oneMore, List.map_append, List.map_singleton,
          ← List.concat_eq_append]
        apply shaped.foreignKeyColumns.concat
        intro used
        obtain ⟨entry, member, sameColumns⟩ := List.mem_map.mp used
        exact unused entry member sameColumns }

theorem shaped_addWideUnique
    {t : Table} (shaped : t.Shaped) {columns : List Column} {name : Value}
    (inOrder : columns.Sublist t.columns)
    (several : 2 ≤ columns.length) :
    (t.addConstraint ⟨name, .unique, columns⟩).Shaped := by
  let k : Constraint := ⟨name, .unique, columns⟩
  have wide : k.isSingle = false := by
    unfold Constraint.isSingle
    rw [decide_eq_false_iff_not]
    change ¬ columns.length = 1
    omega
  have oneMore :
      (t.addConstraint k).uniqueConstraints = t.uniqueConstraints ++ [k] := by
    unfold uniqueConstraints constraintsOf
    rw [constraints_addConstraint, List.filter_append]
    rfl
  have sameForeignKeys :
      (t.addConstraint k).foreignKeys = t.foreignKeys := by
    unfold foreignKeys
    rw [constraints_addConstraint, List.filterMap_append]
    simp [k, Demand.foreignKey?]
  exact
    { textNames := shaped.textNames
      distinctNames := shaped.distinctNames
      ownColumns := by
        have filled : columns ≠ [] := List.ne_nil_of_length_pos (by omega)
        exact ownColumns_addConstraint shaped filled inOrder.subset
      ownUniques := by
        rw [oneMore, List.filter_append,
          List.filter_cons_of_neg (by simp [wide])]
        simpa using shaped.ownUniques
      wideUniques := by
        intro other member otherWide
        rw [oneMore] at member
        rcases List.mem_append.mp member with old | new
        · exact shaped.wideUniques other old otherWide
        · rw [List.mem_singleton.mp new]
          exact ⟨inOrder, several⟩
      foreignKeys := by
        rw [sameForeignKeys]
        exact shaped.foreignKeys
      foreignKeyColumns := by
        rw [sameForeignKeys]
        exact shaped.foreignKeyColumns }

/-! ## The primary key -/

theorem uniqueConstraints_extendPrimaryKey (t : Table) (c : Column) :
    (t.extendPrimaryKey c).uniqueConstraints = t.uniqueConstraints := by
  unfold uniqueConstraints constraintsOf extendPrimaryKey
  split
  · simp only [← List.filterMap_eq_filter]
    apply filterMap_updateFirst
    intro k isKey
    have keyType : k.type = .primaryKey := of_decide_eq_true isKey
    have changedType : (k.addColumn c).type = .primaryKey := keyType
    simp [keyType, changedType]
  · simp [Constraint.type, Demand.type]

theorem foreignKeys_extendPrimaryKey (t : Table) (c : Column) :
    (t.extendPrimaryKey c).foreignKeys = t.foreignKeys := by
  unfold foreignKeys extendPrimaryKey
  split
  · apply filterMap_updateFirst
    intro k isKey
    have keyType : k.type = .primaryKey := of_decide_eq_true isKey
    cases demand : k.demand with
    | primaryKey => simp [Constraint.addColumn, demand, Demand.foreignKey?]
    | unique => simp [Constraint.type, demand, Demand.type] at keyType
    | foreignKey key => simp [Constraint.type, demand, Demand.type] at keyType
  · simp [Demand.foreignKey?]

/-- The one primary key gets the column at its end, or is made for it. -/
theorem primaryKeys_extendPrimaryKey
    {t : Table} {columns : List Column} (c : Column)
    (oneKey : t.constraintsOf .primaryKey = sharedKey columns) :
    (t.extendPrimaryKey c).constraintsOf .primaryKey =
      sharedKey (columns ++ [c]) := by
  unfold extendPrimaryKey primaryKey?
  cases columns with
  | nil =>
      have noKey : t.constraintsOf .primaryKey = [] := oneKey
      rw [noKey]
      unfold constraintsOf at noKey ⊢
      simp only [List.head?_nil, Option.isSome_none, Bool.false_eq_true,
        if_false, List.filter_append, noKey, List.nil_append]
      rfl
  | cons first rest =>
      let key : Constraint := ⟨primaryKeyName, .primaryKey, first :: rest⟩
      have hasKey : t.constraintsOf .primaryKey = [key] := oneKey
      rw [hasKey]
      unfold constraintsOf at hasKey ⊢
      obtain ⟨before, after, split, unfit, fit, noneAfter⟩ :=
        List.filter_eq_cons_iff.mp hasKey
      have noneBefore :
          before.filter (fun k => decide (k.type = .primaryKey)) = [] :=
        List.filter_eq_nil_iff.mpr unfit
      simp only [List.head?_cons, Option.isSome_some, if_true, split,
        updateFirst_append unfit fit, List.filter_append, noneBefore,
        List.nil_append]
      rw [List.filter_cons_of_pos rfl, noneAfter]
      rfl

/-- Whatever primary key there was, the column is the last one in it. -/
theorem primaryKey?_extendPrimaryKey (t : Table) (c : Column) :
    (t.extendPrimaryKey c).primaryKey? =
      some (match t.primaryKey? with
        | some k => k.addColumn c
        | none => ⟨primaryKeyName, .primaryKey, [c]⟩) := by
  have first (other : Table) :
      other.primaryKey? =
        other.constraints.find? fun k => k.type = .primaryKey :=
    List.head?_filter
  unfold extendPrimaryKey
  cases has : t.primaryKey? with
  | some k =>
      rw [first] at has
      rw [if_pos (by rfl), first, find?_updateFirst, has]
      · rfl
      · exact fun _ isKey => isKey
  | none =>
      rw [first] at has
      rw [if_neg (by simp), first, List.find?_append, has]
      rfl

theorem mem_constraints_extendPrimaryKey
    {t : Table} {c : Column} {k : Constraint}
    (member : k ∈ (t.extendPrimaryKey c).constraints) :
    k ∈ t.constraints ∨ k = ⟨primaryKeyName, .primaryKey, [c]⟩ ∨
      ∃ old ∈ t.constraints, k = old.addColumn c := by
  unfold extendPrimaryKey at member
  split at member
  · exact (mem_updateFirst member).imp (fun old => old) Or.inr
  · rcases List.mem_append.mp member with old | new
    · exact Or.inl old
    · exact Or.inr (Or.inl (List.mem_singleton.mp new))

theorem shaped_extendPrimaryKey
    {t : Table} (shaped : t.Shaped) {c : Column} (own : c ∈ t.columns) :
    (t.extendPrimaryKey c).Shaped where
  textNames := by
    unfold HasTextNames
    rw [columns_extendPrimaryKey]
    exact shaped.textNames
  distinctNames := by
    rw [columns_extendPrimaryKey]
    exact shaped.distinctNames
  ownColumns := by
    intro k member
    rw [columns_extendPrimaryKey]
    rcases mem_constraints_extendPrimaryKey member with
      old | rfl | ⟨old, oldMember, rfl⟩
    · exact shaped.ownColumns k old
    · refine ⟨by simp, fun other inside => ?_⟩
      rw [List.mem_singleton.mp inside]
      exact own
    · refine ⟨by simp [Constraint.addColumn], fun other inside => ?_⟩
      rcases List.mem_append.mp inside with before | new
      · exact (shaped.ownColumns old oldMember).2 other before
      · rw [List.mem_singleton.mp new]
        exact own
  ownUniques := by
    rw [uniqueConstraints_extendPrimaryKey, columns_extendPrimaryKey]
    exact shaped.ownUniques
  wideUniques := by
    rw [uniqueConstraints_extendPrimaryKey, columns_extendPrimaryKey]
    exact shaped.wideUniques
  foreignKeys := by
    rw [foreignKeys_extendPrimaryKey]
    exact shaped.foreignKeys
  foreignKeyColumns := by
    rw [foreignKeys_extendPrimaryKey]
    exact shaped.foreignKeyColumns

/-! ## What one call preserves -/

/-- Before a column is added, no foreign key is over a column of its name. -/
theorem foreignKeys_ne_fresh
    {t : Table} (shaped : t.Shaped) {c : Column} (fresh : t.Fresh c) :
    ∀ entry ∈ t.foreignKeys, entry.1.columnNames ≠ [c.name] := by
  intro entry member same
  obtain ⟨k, constraintMember, found⟩ := List.mem_filterMap.mp member
  have held : entry.1 = k := by
    cases key : k.demand.foreignKey? with
    | none => simp [key] at found
    | some foreign =>
        rw [key] at found
        cases found
        rfl
  obtain ⟨other, _, single, _⟩ := shaped.foreignKeys entry member
  have inside : other ∈ t.columns := by
    apply (shaped.ownColumns k constraintMember).2
    rw [← held, single]
    exact List.mem_singleton_self other
  apply fresh.freeName other inside
  simpa [Constraint.columnNames, single] using same

theorem sound_of_addition
    {t after : Table} (sound : t.Sound) (addition : t.Addition after) :
    after.Sound := by
  cases addition with
  | @key c fresh keyType standard =>
      have isKey : c.isKey = true := by simp [Column.isKey, keyType]
      refine ⟨shaped_extendPrimaryKey (shaped_append sound.toShaped fresh)
        (by simp), ?_⟩
      rw [columns_extendPrimaryKey, columns_append, List.filter_append,
        List.filter_cons_of_pos isKey, List.filter_nil]
      apply primaryKeys_extendPrimaryKey
      rw [primaryKeys_append]
      exact sound.oneKey
  | @plain c type fresh plainType notKey =>
      have isKey : ¬ c.isKey = true := by
        cases type <;> simp_all [Column.isKey]
      refine ⟨shaped_append sound.toShaped fresh, ?_⟩
      rw [primaryKeys_append, columns_append, List.filter_append,
        List.filter_cons_of_neg isKey, List.filter_nil, List.append_nil]
      exact sound.oneKey
  | @reference c key referenced fresh number oneName =>
      have isKey : ¬ c.isKey = true := by simp [Column.isKey, number]
      have unused :
          ∀ entry ∈ (t.append c).foreignKeys,
            entry.1.columnNames ≠ [c.name] := by
        rw [foreignKeys_append]
        exact foreignKeys_ne_fresh sound.toShaped fresh
      refine ⟨shaped_addForeignKey (shaped_append sound.toShaped fresh)
        (by simp) number oneName unused, ?_⟩
      rw [columns_addConstraint, columns_append, List.filter_append,
        List.filter_cons_of_neg isKey, List.filter_nil, List.append_nil,
        ← sound.oneKey, ← primaryKeys_append t c]
      exact constraintsOf_addConstraint_of_ne _
        (by simp [Constraint.type, Demand.type])
  | @unique columns name inOrder several =>
      refine ⟨shaped_addWideUnique sound.toShaped inOrder several, ?_⟩
      rw [columns_addConstraint, ← sound.oneKey]
      exact constraintsOf_addConstraint_of_ne t
        (by simp [Constraint.type, Demand.type])

/-! ## What one call appends -/

theorem Grows.refl (t : Table) : t.Grows t where
  sameTable := ⟨rfl, rfl, rfl⟩
  columns := List.prefix_rfl
  constraints := fun _ _ found _ => found
  key := fun i k found _ => ⟨[], by simpa using found⟩

/-- A table that got columns and constraints at its ends has grown. -/
theorem grows_of_append
    {before after : Table} {columns : List Column} {more : List Constraint}
    (sameTable :
      after.id = before.id ∧ after.name = before.name ∧
        after.schema = before.schema)
    (allColumns : after.columns = before.columns ++ columns)
    (allConstraints : after.constraints = before.constraints ++ more) :
    before.Grows after := by
  have kept :
      ∀ (i : Nat) (k : Constraint), before.constraints[i]? = some k →
        after.constraints[i]? = some k := by
    intro i k found
    obtain ⟨inside, _⟩ := List.getElem?_eq_some_iff.mp found
    rw [allConstraints, List.getElem?_append_left inside]
    exact found
  exact
    { sameTable
      columns := ⟨columns, allColumns.symm⟩
      constraints := fun i k found _ => kept i k found
      key := fun i k found _ => ⟨[], by simpa using kept i k found⟩ }

/-- A primary key keeps its place and its columns when it gets one more. -/
theorem grows_append_extendPrimaryKey (t : Table) (c : Column) :
    t.Grows ((t.append c).extendPrimaryKey c) := by
  have appended : t.Grows (t.append c) :=
    grows_of_append ⟨rfl, rfl, rfl⟩ rfl (constraints_append t c)
  by_cases hasKey : ((t.append c).primaryKey?).isSome = true
  · have extended :
        (t.append c).extendPrimaryKey c =
          { t.append c with
            constraints :=
              updateFirst (fun k => k.type = .primaryKey)
                (fun k => k.addColumn c) (t.append c).constraints } :=
      if_pos hasKey
    rw [extended]
    exact
      { sameTable := appended.sameTable
        columns := appended.columns
        constraints := by
          intro i k found notKey
          rcases getElem?_updateFirst (appended.constraints i k found notKey)
            with same | ⟨isKey, _⟩
          · exact same
          · exact absurd (of_decide_eq_true isKey) notKey
        key := by
          intro i k found isKey
          obtain ⟨more, place⟩ := appended.key i k found isKey
          rcases getElem?_updateFirst place with same | ⟨_, changed⟩
          · exact ⟨more, same⟩
          · exact ⟨more ++ [c], by
              simpa [Constraint.addColumn] using changed⟩ }
  · have extended :
        (t.append c).extendPrimaryKey c =
          (t.append c).addConstraint ⟨primaryKeyName, .primaryKey, [c]⟩ :=
      if_neg hasKey
    rw [extended]
    have allConstraints :
        ((t.append c).addConstraint
          ⟨primaryKeyName, .primaryKey, [c]⟩).constraints =
          t.constraints ++
            (uniquesOf c ++ [⟨primaryKeyName, .primaryKey, [c]⟩]) := by
      rw [constraints_addConstraint, constraints_append, List.append_assoc]
    exact grows_of_append ⟨rfl, rfl, rfl⟩ rfl allConstraints

theorem grows_of_addition
    {t after : Table} (addition : t.Addition after) :
    t.Grows after := by
  cases addition with
  | @key c _ _ _ =>
      exact grows_append_extendPrimaryKey t c
  | @plain c _ _ _ _ =>
      exact grows_of_append ⟨rfl, rfl, rfl⟩ rfl (constraints_append t c)
  | @reference c key _ _ _ _ =>
      have allConstraints :
          ((t.append c).addConstraint
            ⟨foreignKeyName c.name, .foreignKey key, [c]⟩).constraints =
            t.constraints ++
              (uniquesOf c ++
                [⟨foreignKeyName c.name, .foreignKey key, [c]⟩]) := by
        rw [constraints_addConstraint, constraints_append, List.append_assoc]
      exact grows_of_append ⟨rfl, rfl, rfl⟩ rfl allConstraints
  | @unique columns name _ _ =>
      exact grows_of_append ⟨rfl, rfl, rfl⟩ (List.append_nil _).symm rfl

/-! ## Whole sequences of calls -/

theorem sound_empty (id : TableId) (name : Value) (schema : Option String) :
    (Table.empty id name schema).Sound where
  textNames := by
    intro c member
    cases member
  distinctNames := List.nodup_nil
  ownColumns := by
    intro k member
    cases member
  ownUniques := rfl
  wideUniques := by
    intro k member
    cases member
  foreignKeys := by
    intro entry member
    cases member
  foreignKeyColumns := List.nodup_nil
  oneKey := rfl

section Perform

variable {t : Table} {call : Call}

theorem sound_perform
    (sound : t.Sound) (writable : t.name.isWritable = true)
    (textNames : call.HasTextNames) :
    (call.perform t).table.Sound := by
  rcases perform_ends writable sound.textNames textNames with
    ⟨same, _⟩ | ⟨addition, _⟩
  · rw [same]
    exact sound
  · exact sound_of_addition sound addition

theorem grows_perform
    (sound : t.Sound) (writable : t.name.isWritable = true)
    (textNames : call.HasTextNames) :
    t.Grows (call.perform t).table := by
  rcases perform_ends writable sound.textNames textNames with
    ⟨same, _⟩ | ⟨addition, _⟩
  · rw [same]
    exact Grows.refl t
  · exact grows_of_addition addition

/-- Calls with text names keep a sound table sound and its name, whether they
fail or not. -/
theorem sound_afterCalls
    (sound : t.Sound) (writable : t.name.isWritable = true)
    {calls : List Call} (textNames : ∀ call ∈ calls, call.HasTextNames) :
    (t.afterCalls calls).Sound ∧ (t.afterCalls calls).name = t.name := by
  -- The last call is made on the table that the earlier ones leave.
  induction calls using List.reverseRecOn with
  | nil => exact ⟨sound, rfl⟩
  | append_singleton earlier call inductionHypothesis =>
      obtain ⟨before, sameName⟩ :=
        inductionHypothesis fun other member =>
          textNames other (List.mem_append_left _ member)
      have stillWritable : (t.afterCalls earlier).name.isWritable = true := by
        rw [sameName]
        exact writable
      have last := textNames call (by simp)
      rw [afterCalls_append]
      refine ⟨sound_perform before stillWritable last, ?_⟩
      rw [(grows_perform before stillWritable last).sameTable.2.1]
      exact sameName

end Perform

/-- Every table that is reached by builder calls with text names is sound, and
every further call of this kind only appends to it: a call that fails changes
nothing.  The table's own name need not be a text, but it can be written, as
every text can; otherwise a call for a column fails once that is appended. -/
theorem reachedTable_sound
    (id : TableId) {name : Value} (writable : name.isWritable = true)
    (schema : Option String)
    (calls : List Call) (textNames : ∀ call ∈ calls, call.HasTextNames) :
    let reached := (Table.empty id name schema).afterCalls calls
    reached.Sound ∧
      ∀ call : Call, call.HasTextNames →
        reached.Grows (call.perform reached).table ∧
          ∀ failure, (call.perform reached).result = .error failure →
            (call.perform reached).table = reached := by
  intro reached
  obtain ⟨sound, sameName⟩ :=
    sound_afterCalls (sound_empty id name schema) writable textNames
  have stillWritable : reached.name.isWritable = true := by
    rw [sameName]
    exact writable
  refine ⟨sound, ?_⟩
  intro call callTexts
  refine ⟨grows_perform sound stillWritable callTexts, ?_⟩
  intro failure failed
  rcases perform_ends stillWritable sound.textNames callTexts with
    ⟨same, _⟩ | ⟨_, succeeded⟩
  · exact same
  · rw [succeeded] at failed
    cases failed

/-- Calls that build a table of orders; the third one fails, because the name
is taken. -/
def orderCalls : List Call :=
  [.column "primary_key" none [],
    .column "string" (some (.text "code")) [(.text "unique", .bool true)],
    .column "number" (some (.text "code")) [],
    .reference (.text "buyer") (.table (.text "buyers")) (.text "id")
      .standard [],
    .unique (.list [.text "buyer", .text "code"])]

/-- The table of orders is sound and has three columns and four
constraints. -/
theorem orderTable_sound :
    (∀ call ∈ orderCalls, call.HasTextNames) ∧
      ((Table.empty (.loose 0) (.text "orders") none).afterCalls
        orderCalls).Sound ∧
      ((Table.empty (.loose 0) (.text "orders") none).afterCalls
        orderCalls).columns.length = 3 ∧
      ((Table.empty (.loose 0) (.text "orders") none).afterCalls
        orderCalls).constraints.length = 4 := by
  have textNames : ∀ call ∈ orderCalls, call.HasTextNames := by
    simp [orderCalls, Call.HasTextNames, Value.lookupText?,
      Value.unfoldAll, Value.unfold, Value.IsText]
  refine ⟨textNames, ?_, ?_, ?_⟩
  · have writable : (Value.text "orders").isWritable = true := rfl
    exact (reachedTable_sound (.loose 0) writable none orderCalls textNames).1
  · decide +kernel
  · decide +kernel

end Table

end Tablesmith.Schema

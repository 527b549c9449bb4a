import Tablesmith.Proofs.Config.Buildable
import Tablesmith.Proofs.Sql.Schemas

/-!
# The order of declarations

Tables can be declared in any order.  The order decides where a table and its
statements stand, but not whether the database can be built, nor what its
tables are.
-/

namespace Tablesmith.Schema

/-! ## Tables apart from their numbers -/

/-- The column at the same place of another table. -/
def Column.inTable (id : TableId) (c : Column) : Column :=
  { c with id := ⟨id, c.id.position⟩ }

def Constraint.inTable (id : TableId) (k : Constraint) : Constraint :=
  { k with columns := k.columns.map (Column.inTable id) }

/-- The table with another identity, and its columns accordingly. -/
def Table.withId (id : TableId) (t : Table) : Table :=
  { t with
    id
    columns := t.columns.map (Column.inTable id)
    constraints := t.constraints.map (Constraint.inTable id) }

/-- Two databases hold the same tables under the same names, only in another
order. -/
structure Database.SameTables (d e : Database) : Prop where
  names :
    (d.tables.map Table.qualifiedName).Perm
      (e.tables.map Table.qualifiedName)
  tables :
    ∀ name id,
      (d.table? (.text name)).map (Table.withId id) =
        (e.table? (.text name)).map (Table.withId id)

end Tablesmith.Schema

namespace Tablesmith.Config

open Tablesmith.Schema Tablesmith.Sql

section WithId

variable (id : TableId)

def Placed.inTable (p : Placed) : Placed :=
  (p.1, p.2.inTable id)

theorem map_inTable_placed
    (other : TableId) (columns : List ColumnDefinition) :
    (placed other columns).map (Placed.inTable id) = placed id columns := by
  induction columns using List.reverseRecOn with
  | nil => rfl
  | append_singleton earlier c inductionHypothesis =>
      rw [placed_append, placed_append, List.map_append, inductionHypothesis]
      rfl

theorem keyColumns_inTable (pairs : List Placed) :
    keyColumns (pairs.map (Placed.inTable id)) =
      (keyColumns pairs).map (Column.inTable id) := by
  unfold keyColumns
  rw [List.filter_map, List.map_map, List.map_map]
  rfl

theorem foreignKeysOver_inTable (d : ColumnDefinition) (c : Column) :
    d.foreignKeysOver (c.inTable id) =
      (d.foreignKeysOver c).map (Constraint.inTable id) := by
  unfold ColumnDefinition.foreignKeysOver
  cases d.kind with
  | primaryKey => rfl
  | plain type => rfl
  | reference r => rfl

theorem constraintsAlong_inTable
    (keys : List Column) (keyed : Bool) (pairs : List Placed) :
    constraintsAlong (keys.map (Column.inTable id)) keyed
        (pairs.map (Placed.inTable id)) =
      (constraintsAlong keys keyed pairs).map (Constraint.inTable id) := by
  induction pairs generalizing keyed with
  | nil => rfl
  | cons head tail inductionHypothesis =>
      obtain ⟨d, c⟩ := head
      have own :
          (if d.unique then [(c.inTable id).ownUnique] else []) =
            (if d.unique then [c.ownUnique] else []).map
              (Constraint.inTable id) := by
        split
        · rfl
        · rfl
      have key :
          (if d.isKey && !keyed then
              [⟨primaryKeyName, .primaryKey, keys.map (Column.inTable id)⟩]
            else []) =
            (if d.isKey && !keyed then
              [⟨primaryKeyName, .primaryKey, keys⟩]
            else []).map (Constraint.inTable id) := by
        split
        · rfl
        · rfl
      rw [List.map_cons]
      change
        (if d.unique then [(c.inTable id).ownUnique] else []) ++
            (if d.isKey && !keyed then
              [⟨primaryKeyName, .primaryKey, keys.map (Column.inTable id)⟩]
              else []) ++
            d.foreignKeysOver (c.inTable id) ++
            constraintsAlong (keys.map (Column.inTable id))
              (keyed || d.isKey) (tail.map (Placed.inTable id)) = _
      rw [own, key, foreignKeysOver_inTable, inductionHypothesis,
        constraintsAlong, List.map_append, List.map_append, List.map_append]

theorem wideUnique_inTable (pairs : List Placed) (names : List String) :
    wideUnique (pairs.map (Placed.inTable id)) names =
      (wideUnique pairs names).inTable id := by
  have chosen :
      (pairs.map (Placed.inTable id)).filter
          (fun p => names.contains p.1.name) =
        (pairs.filter fun p => names.contains p.1.name).map
          (Placed.inTable id) := by
    rw [List.filter_map]
    rfl
  unfold wideUnique Constraint.inTable
  simp only [chosen, List.map_map]
  rfl

/-- A definition describes the same table under every identity. -/
theorem withId_table (other : TableId) (d : TableDefinition) :
    (d.table other).withId id = d.table id := by
  have pairs := map_inTable_placed id other d.columns
  have columns :
      ((placed other d.columns).map Prod.snd).map (Column.inTable id) =
        (placed id d.columns).map Prod.snd := by
    rw [← pairs, List.map_map, List.map_map]
    rfl
  have constraints :
      (d.table other).constraints.map (Constraint.inTable id) =
        (d.table id).constraints := by
    rw [TableDefinition.constraints_table, TableDefinition.constraints_table,
      ← pairs, keyColumns_inTable, constraintsAlong_inTable, List.map_append,
      List.map_map]
    congr 1
    apply List.map_congr_left
    intro names _
    exact (wideUnique_inTable id _ names).symm
  exact Table.ext rfl rfl rfl columns constraints

end WithId

/-! ## Configurations in another order -/

section Permuted

variable {c other : Configuration}

theorem find?_eq_of_perm
    {definitions others : List TableDefinition}
    (permuted : definitions.Perm others)
    (distinct : (definitions.map TableDefinition.qualifiedName).Nodup)
    (name : String) :
    definitions.find? (fun d => d.qualifiedName = name) =
      others.find? fun d => d.qualifiedName = name := by
  cases found : others.find? fun d => d.qualifiedName = name with
  | none =>
      rw [List.find?_eq_none] at found ⊢
      intro d member
      exact found d (permuted.mem_iff.mp member)
  | some d =>
      have there : d ∈ definitions :=
        permuted.mem_iff.mpr (List.mem_of_find?_eq_some found)
      have named : d.qualifiedName = name := by
        simpa using List.find?_some found
      cases first : definitions.find? fun d => d.qualifiedName = name with
      | none =>
          rw [List.find?_eq_none] at first
          exact absurd (decide_eq_true named) (first d there)
      | some e =>
          -- Another table of this name would be the same one.
          have sameName : e.qualifiedName = d.qualifiedName := by
            rw [named]
            simpa using List.find?_some first
          have firstThere : e ∈ definitions := List.mem_of_find?_eq_some first
          exact congrArg some
            (List.inj_on_of_nodup_map distinct firstThere there sameName)

/-- A table of a described database is the one whose definition has its
name. -/
theorem table?_describedDatabase
    (c : Configuration) (name : String) (id : TableId) :
    (c.describedDatabase.table? (.text name)).map (Table.withId id) =
      (c.tables.find? fun d => d.qualifiedName = name).map
        (TableDefinition.table id) := by
  have sameTest :
      ((fun t : Table => t.qualifiedName == .text name) ∘
          fun p : TableId × TableDefinition => p.2.table p.1) =
        (fun d : TableDefinition => decide (d.qualifiedName = name)) ∘
          Prod.snd := by
    funext p
    simp
  have sameTable :
      (Table.withId id ∘
          fun p : TableId × TableDefinition => p.2.table p.1) =
        TableDefinition.table id ∘ Prod.snd := by
    funext p
    exact withId_table id p.1 p.2
  unfold Database.table? Configuration.describedDatabase
  conv_rhs => rw [← map_snd_numbered c.tables]
  rw [List.find?_map, List.find?_map, Option.map_map, Option.map_map,
    sameTest, sameTable]

theorem Configuration.Accepted.of_perm
    (accepted : c.Accepted) (permuted : c.tables.Perm other.tables) :
    other.Accepted where
  filled := by
    intro empty
    rw [empty] at permuted
    exact accepted.filled permuted.eq_nil
  tables := fun d member => accepted.tables d (permuted.mem_iff.mpr member)

theorem Configuration.Buildable.of_perm
    (buildable : c.Buildable) (permuted : c.tables.Perm other.tables) :
    other.Buildable := by
  have back {d : TableDefinition} (member : d ∈ other.tables) :
      d ∈ c.tables :=
    permuted.mem_iff.mpr member
  refine ⟨?_, ?_, ?_, ?_, ?_⟩
  · exact fun d member => buildable.noPoints d (back member)
  · exact (permuted.map _).nodup_iff.mp buildable.distinctTables
  · exact fun d member => buildable.distinctColumns d (back member)
  · intro d member column columnMember r kind
    obtain ⟨target, declared, means⟩ :=
      buildable.knownTargets d (back member) column columnMember r kind
    exact ⟨target, permuted.mem_iff.mp declared, means⟩
  · exact fun d member => buildable.uniqueColumns d (back member)

theorem sameTables_of_perm
    (fits : c.Fits) (permuted : c.tables.Perm other.tables) :
    c.describedDatabase.SameTables other.describedDatabase where
  names := by
    rw [qualifiedNames_described, qualifiedNames_described]
    exact (permuted.map _).map _
  tables := by
    intro name id
    rw [table?_describedDatabase, table?_describedDatabase,
      find?_eq_of_perm permuted fits.tables.distinctNames]

theorem schemas_perm (permuted : c.tables.Perm other.tables) :
    c.describedDatabase.schemas.Perm other.describedDatabase.schemas := by
  have sameSchemas (schema : String) :
      c.rebuilds schema = other.rebuilds schema := by
    unfold Configuration.rebuilds
    rw [permuted.any_eq]
  -- Neither list repeats a schema, so it is enough that both hold the same.
  apply (List.perm_ext_iff_of_nodup (nodup_collectSchemas _)
    (nodup_collectSchemas _)).mpr
  intro schema
  have first := contains_schemas c schema
  have second := contains_schemas other schema
  rw [sameSchemas, ← second, Bool.eq_iff_iff, List.contains_iff_mem,
    List.contains_iff_mem] at first
  exact first

/-- Each pass of the script takes the tables in their order. -/
theorem describedPlan_perm (permuted : c.tables.Perm other.tables) :
    (describedPlan c).Perm (describedPlan other) := by
  have entries : (declaredEntries c).Perm (declaredEntries other) :=
    permuted.map _
  have names := permuted.map TableDefinition.qualifiedName
  unfold describedPlan
  exact ((((schemas_perm permuted).flatMap_right _).append
    (names.map _)).append (entries.flatMap_right _)).append
      (entries.flatMap_right _)

end Permuted

/-- The order of the declared tables does not matter: the database can be built
in every order or in none, it has the same tables, and its statements are the
same up to their order. -/
theorem buildDatabase_perm
    {v : Value} {c : Configuration} {tables : List TableDefinition}
    (accepted : checkConfiguration v = .ok c)
    (permuted : c.tables.Perm tables) :
    ((∃ d, (buildDatabase c).result = .ok d) ↔
        ∃ e, (buildDatabase { c with tables }).result = .ok e) ∧
      ∀ d e,
        (buildDatabase c).result = .ok d →
          (buildDatabase { c with tables }).result = .ok e →
            d.SameTables e ∧
              ∃ statements others,
                create d = .ok statements ∧ create e = .ok others ∧
                  statements.Perm others := by
  obtain ⟨configurationAccepted, _⟩ := checkConfiguration_ok accepted
  have otherAccepted : Configuration.Accepted { c with tables } :=
    configurationAccepted.of_perm permuted
  have sameBuildable :
      c.Buildable ↔ Configuration.Buildable { c with tables } :=
    ⟨fun buildable => buildable.of_perm permuted,
      fun buildable => buildable.of_perm permuted.symm⟩
  refine ⟨?_, ?_⟩
  · rw [exists_buildDatabase_iff configurationAccepted,
      exists_buildDatabase_iff otherAccepted, sameBuildable]
  · intro d e built otherBuilt
    obtain ⟨buildable, rfl⟩ :=
      (buildDatabase_eq_ok_iff_buildable configurationAccepted).mp built
    obtain ⟨_, rfl⟩ :=
      (buildDatabase_eq_ok_iff_buildable otherAccepted).mp otherBuilt
    have fits := Configuration.fits_iff_buildable.mpr buildable
    exact ⟨sameTables_of_perm fits permuted, _, _, create_describedDatabase c,
      create_describedDatabase _, (describedPlan_perm permuted).map _⟩

/-- The shop can be built with its orders declared before its buyers, and then
has the same tables. -/
theorem shop_reversed :
    checkConfiguration shopValue = .ok shop ∧
      shop.tables.Perm shop.tables.reverse ∧
      ∃ d e,
        (buildDatabase shop).result = .ok d ∧
          (buildDatabase { shop with tables := shop.tables.reverse }).result =
            .ok e ∧
          d.SameTables e := by
  have permuted : shop.tables.Perm shop.tables.reverse :=
    (List.reverse_perm _).symm
  obtain ⟨succeeds, same⟩ := buildDatabase_perm shop_accepted permuted
  obtain ⟨d, built⟩ := shop_built
  obtain ⟨e, otherBuilt⟩ := succeeds.mp ⟨d, built⟩
  exact ⟨shop_accepted, permuted, d, e, built, otherBuilt,
    (same d e built otherBuilt).1⟩

end Tablesmith.Config

import Tablesmith.Interface.File
import Tablesmith.Proofs.Config.Rejection
import Tablesmith.Proofs.Interface.Entries
import Tablesmith.Proofs.Sql.Rebuild

/-!
# Which configurations can be built

Whether an accepted configuration can be built is decided by its names alone.
If it cannot, the loader says so with a report about the model or the
configuration, and never fails in another way.  If it can, the scripts and the
interfaces of the database can be written too.
-/

namespace Tablesmith.Config

open Tablesmith.Log Tablesmith.Schema Tablesmith.Sql

/-! ## Names that go together -/

namespace ReferenceDefinition

/-- The public schema in front of a name does not count. -/
theorem tableName_of_public
    {r : ReferenceDefinition} {name : String}
    (qualified : r.table = publicSchema ++ "." ++ name) :
    r.tableName = name := by
  have characters :
      (publicSchema ++ "." ++ name).toList =
        (publicSchema ++ ".").toList ++ name.toList :=
    String.toList_append
  have begins :
      Text.beginsWith (publicSchema ++ "." ++ name) (publicSchema ++ ".") =
        true := by
    unfold Text.beginsWith
    rw [characters, List.isPrefixOf_iff_prefix]
    exact List.prefix_append _ _
  unfold tableName Text.afterStart?
  rw [qualified, if_pos begins, Option.getD_some, characters, List.drop_left,
    String.ofList_toList]

theorem tableName_of_other
    {r : ReferenceDefinition}
    (other : ∀ name, r.table ≠ publicSchema ++ "." ++ name) :
    r.tableName = r.table := by
  unfold tableName Text.afterStart?
  split
  next begins =>
    obtain ⟨rest, characters⟩ := List.isPrefixOf_iff_prefix.mp begins
    refine absurd ?_ (other (String.ofList rest))
    apply String.toList_injective
    rw [String.toList_append, String.toList_ofList, characters]
  next => rfl

/-- A reference means the table with the text of the reference as its
qualified name, after the public schema has been taken off once. -/
def Means (r : ReferenceDefinition) (d : TableDefinition) : Prop :=
  r.table = publicSchema ++ "." ++ d.qualifiedName ∨
    (∀ name, r.table ≠ publicSchema ++ "." ++ name) ∧
      r.table = d.qualifiedName

theorem means_iff {r : ReferenceDefinition} {d : TableDefinition} :
    r.Means d ↔ r.tableName = d.qualifiedName := by
  unfold Means
  by_cases qualified : ∃ name, r.table = publicSchema ++ "." ++ name
  · obtain ⟨name, qualified⟩ := qualified
    rw [tableName_of_public qualified, qualified]
    constructor
    · rintro (same | ⟨other, _⟩)
      · exact (String.append_right_inj _).mp same
      · exact absurd rfl (other name)
    · rintro rfl
      exact Or.inl rfl
  · have other : ∀ name, r.table ≠ publicSchema ++ "." ++ name :=
      not_exists.mp qualified
    rw [tableName_of_other other]
    constructor
    · rintro (same | ⟨_, same⟩)
      · exact absurd same (other _)
      · exact same
    · exact fun same => Or.inr ⟨other, same⟩

end ReferenceDefinition

namespace TableDefinition

/-- Names without points keep the schemas of qualified names apart. -/
theorem qualifiedName_eq_iff
    {d e : TableDefinition}
    (dNoPoint : '.' ∉ d.name.toList) (eNoPoint : '.' ∉ e.name.toList) :
    d.qualifiedName = e.qualifiedName ↔
      (d.schemaName, d.name) = (e.schemaName, e.name) := by
  have asText (f : TableDefinition) :
      qualify f.schemaName (.text f.name) = .text f.qualifiedName :=
    f.qualifiedName_table (.loose 0)
  rw [Prod.mk.injEq, ← Value.text.injEq, ← asText, ← asText]
  exact qualify_text_inj dNoPoint eNoPoint

end TableDefinition

namespace Configuration

/-- A configuration can be built: the names in it go together. -/
structure Buildable (c : Configuration) : Prop where
  noPoints : ∀ d ∈ c.tables, '.' ∉ d.name.toList
  distinctTables : (c.tables.map fun d => (d.schemaName, d.name)).Nodup
  distinctColumns :
    ∀ d ∈ c.tables, (d.columns.map ColumnDefinition.name).Nodup
  /-- Every reference means a declared table, wherever that is declared. -/
  knownTargets :
    ∀ d ∈ c.tables, ∀ column ∈ d.columns, ∀ r, column.kind = .reference r →
      ∃ target ∈ c.tables, r.Means target
  uniqueColumns :
    ∀ d ∈ c.tables, ∀ names ∈ d.unique,
      2 ≤ names.length ∧ names.Nodup ∧
        ∀ name ∈ names, ∃ column ∈ d.columns, column.name = name

variable {c : Configuration}

theorem distinctNames_iff
    (noPoints : ∀ d ∈ c.tables, '.' ∉ d.name.toList) :
    (c.tables.map TableDefinition.qualifiedName).Nodup ↔
      (c.tables.map fun d => (d.schemaName, d.name)).Nodup := by
  unfold List.Nodup
  rw [List.pairwise_map, List.pairwise_map]
  apply List.Pairwise.iff_of_mem
  intro d e dMember eMember
  exact not_congr (TableDefinition.qualifiedName_eq_iff
    (noPoints d dMember) (noPoints e eMember))

theorem canBeUnique_iff {d : TableDefinition} {names : List String} :
    d.CanBeUnique names ↔
      2 ≤ names.length ∧ names.Nodup ∧
        ∀ name ∈ names, ∃ column ∈ d.columns, column.name = name := by
  constructor
  · rintro ⟨several, different, declared⟩
    exact ⟨several, different,
      fun name member => List.mem_map.mp (declared name member)⟩
  · rintro ⟨several, different, declared⟩
    exact ⟨several, different,
      fun name member => List.mem_map.mpr (declared name member)⟩

theorem fits_iff_buildable : c.Fits ↔ c.Buildable := by
  constructor
  · intro fits
    refine ⟨fits.tables.noPoints, ?_, ?_, ?_, ?_⟩
    · exact (distinctNames_iff fits.tables.noPoints).mp
        fits.tables.distinctNames
    · intro d member
      exact (fits.each d member).columns.distinctNames
    · intro d member column columnMember r kind
      obtain ⟨target, declared, same⟩ := List.mem_map.mp
        ((fits.each d member).columns.knownTargets column columnMember r kind)
      exact ⟨target, declared, ReferenceDefinition.means_iff.mpr same.symm⟩
    · intro d member names namesMember
      exact canBeUnique_iff.mp ((fits.each d member).unique names namesMember)
  · intro buildable
    refine ⟨⟨buildable.noPoints, ?_⟩, ?_⟩
    · exact (distinctNames_iff buildable.noPoints).mpr
        buildable.distinctTables
    · intro d member
      refine ⟨⟨buildable.distinctColumns d member, ?_⟩, ?_⟩
      · intro column columnMember r kind
        obtain ⟨target, declared, means⟩ :=
          buildable.knownTargets d member column columnMember r kind
        have same := ReferenceDefinition.means_iff.mp means
        exact List.mem_map.mpr ⟨target, declared, same.symm⟩
      · intro names namesMember
        exact canBeUnique_iff.mpr
          (buildable.uniqueColumns d member names namesMember)

end Configuration

end Tablesmith.Config

/-! ## Interfaces -/

namespace Tablesmith.Interface

open Tablesmith.Config Tablesmith.Schema Tablesmith.Sql

theorem exists_interfaceOf_table (id : TableId) (d : TableDefinition) :
    ∃ text,
      interfaceOf (d.table id).qualifiedName (d.table id).columns =
        .ok text := by
  rw [TableDefinition.qualifiedName_table]
  refine succeeds_interfaceOf_iff.mpr ⟨rfl, ?_⟩
  intro column member
  obtain ⟨p, placedMember, rfl⟩ := List.mem_map.mp member
  obtain ⟨_, i, equality⟩ := eq_column_of_mem_placed placedMember
  rw [equality]
  exact ⟨rfl, p.1.kind.columnType, rfl⟩

end Tablesmith.Interface

namespace Tablesmith.Config

open Tablesmith.Schema Tablesmith.Sql

/-- What can be written about a database: its statements, its script with any
separator, the interface of each table, and all of them in one file. -/
structure Writable (d : Database) : Prop where
  statements : ∃ statements, create d = .ok statements
  scripts : ∀ separator, ∃ text, script separator d = .ok text
  interfaces :
    ∀ t ∈ d.tables, ∃ text,
      Interface.interfaceOf t.qualifiedName t.columns = .ok text
  types : ∃ text, Interface.typesText d.tables = .ok text

theorem writable_describedDatabase (c : Configuration) :
    Writable c.describedDatabase := by
  have created := create_describedDatabase c
  have interfaces :
      ∀ t ∈ c.describedDatabase.tables, ∃ text,
        Interface.interfaceOf t.qualifiedName t.columns = .ok text := by
    intro t member
    obtain ⟨p, _, rfl⟩ := List.mem_map.mp member
    exact Interface.exists_interfaceOf_table p.1 p.2
  refine ⟨⟨_, created⟩, ?_, interfaces, ?_⟩
  · intro separator
    unfold script
    rw [created]
    exact ⟨_, rfl⟩
  · have declarations :
        ∀ t ∈ c.describedDatabase.tables,
          ∃ text, Interface.declaration t = .ok text := by
      intro t member
      obtain ⟨text, rendered⟩ := interfaces t member
      obtain ⟨p, _, rfl⟩ := List.mem_map.mp member
      unfold Interface.declaration
      rw [Table.qualifiedName?_of_isWritable rfl]
      exact ⟨_, bind_eq_ok_iff.mpr
        ⟨_, rfl, bind_eq_ok_iff.mpr ⟨text, rendered, rfl⟩⟩⟩
    obtain ⟨texts, pairs⟩ := exists_forall₂ declarations
    unfold Interface.typesText
    rw [mapM_eq_ok_of_forall₂ pairs]
    exact ⟨_, rfl⟩

theorem buildDatabase_eq_ok_iff_buildable
    {c : Configuration} (accepted : c.Accepted) {d : Database} :
    (buildDatabase c).result = .ok d ↔
      c.Buildable ∧ d = c.describedDatabase := by
  rw [buildDatabase_eq_ok_iff accepted, Configuration.fits_iff_buildable]

theorem exists_buildDatabase_iff
    {c : Configuration} (accepted : c.Accepted) :
    (∃ d, (buildDatabase c).result = .ok d) ↔ c.Buildable := by
  constructor
  · rintro ⟨d, built⟩
    exact ((buildDatabase_eq_ok_iff_buildable accepted).mp built).1
  · intro buildable
    exact ⟨c.describedDatabase,
      (buildDatabase_eq_ok_iff_buildable accepted).mpr ⟨buildable, rfl⟩⟩

/-- An accepted configuration can be built exactly if the names in it go
together.  Otherwise the loader reports what is wrong with the model or the
configuration; and what is built can be written as a script and as
interfaces. -/
theorem buildDatabase_succeeds_iff
    {v : Value} {c : Configuration}
    (accepted : checkConfiguration v = .ok c) :
    ((∃ d, (buildDatabase c).result = .ok d) ↔ c.Buildable) ∧
      (¬ c.Buildable → ∃ r,
        (buildDatabase c).result = .error (.report r) ∧
          (r.category = .model ∨ r.category = .configuration)) ∧
      ∀ d, (buildDatabase c).result = .ok d → Writable d := by
  obtain ⟨configurationAccepted, _⟩ := checkConfiguration_ok accepted
  have succeeds := exists_buildDatabase_iff configurationAccepted
  refine ⟨succeeds, ?_, ?_⟩
  · intro notBuildable
    cases result : (buildDatabase c).result with
    | ok d => exact absurd (succeeds.mp ⟨d, result⟩) notBuildable
    | error failure =>
        cases onlyRejects_buildDatabase configurationAccepted failure result
          with
        | model isModel => exact ⟨_, rfl, Or.inl isModel⟩
        | configuration isConfiguration =>
            exact ⟨_, rfl, Or.inr isConfiguration⟩
  · intro d built
    obtain ⟨_, rfl⟩ :=
      (buildDatabase_eq_ok_iff_buildable configurationAccepted).mp built
    exact writable_describedDatabase c

/-- The names in the shop go together; what is built from it can be
written. -/
theorem shop_succeeds :
    checkConfiguration shopValue = .ok shop ∧ shop.Buildable ∧
      ∃ d, (buildDatabase shop).result = .ok d ∧ Writable d := by
  obtain ⟨succeeds, _, writable⟩ := buildDatabase_succeeds_iff shop_accepted
  obtain ⟨d, built⟩ := shop_built
  exact ⟨shop_accepted, succeeds.mp ⟨d, built⟩, d, built, writable d built⟩

end Tablesmith.Config

import Tablesmith.Proofs.Config.Buildable
import Tablesmith.Proofs.Sql.Exactness

/-!
# What references point at

The loader makes sure that every reference means a declared table.  It does not
look at the columns of that table.  So every foreign key of a database that is
built points at a table of that database; and it points at columns of that table
exactly if the configuration says so, by the name of the referenced column or of
the column itself.
-/

namespace Tablesmith.Schema

namespace Database

/-- A foreign key points at a table of the database. -/
def Knows (d : Database) (key : ForeignKey) : Prop :=
  ∃ target ∈ d.tables, key.target = .table target.qualifiedName

/-- A foreign key points at a table of the database and at columns of that
table. -/
def KnowsColumns (d : Database) (key : ForeignKey) : Prop :=
  ∃ target ∈ d.tables,
    key.target = .table target.qualifiedName ∧
      ∀ name ∈ key.columns, ∃ column ∈ target.columns, column.name = name

def EveryForeignKey (d : Database) (holds : ForeignKey → Prop) : Prop :=
  ∀ t ∈ d.tables, ∀ entry ∈ t.foreignKeys, holds entry.2

/-- No foreign key dangles: each points at columns that are there. -/
def NoDangling (d : Database) : Prop :=
  d.EveryForeignKey d.KnowsColumns

end Database

end Tablesmith.Schema

namespace Tablesmith.Sql

/-- The table of every foreign key is created earlier in the script. -/
def TargetsCreated (statements : List Statement) : Prop :=
  ∀ (j : Nat) table clause,
    statements[j]? = some (Statement.addForeignKey table clause) →
      ∃ i < j, statements[i]? = some (Statement.createTable clause.target)

/-- The columns that a foreign key points at are added to its table earlier in
the script. -/
def TargetColumnsCreated (statements : List Statement) : Prop :=
  ∀ (j : Nat) table clause,
    statements[j]? = some (Statement.addForeignKey table clause) →
      ∀ name ∈ clause.targetColumns, ∃ i < j, ∃ column : ColumnClause,
        column.name = name ∧
          statements[i]? = some (Statement.addColumn clause.target column)

end Tablesmith.Sql

namespace Tablesmith.Config

open Tablesmith.Schema Tablesmith.Sql

/-! ## What a configuration says -/

namespace Configuration

/-- A reference means a declared table. -/
def Knows (c : Configuration) (r : ReferenceDefinition) : Prop :=
  ∃ target ∈ c.tables, r.Means target

/-- A reference from a column with the given name means a declared table, and
that has the column that the reference points at. -/
def KnowsColumn (c : Configuration) (r : ReferenceDefinition) (own : String) :
    Prop :=
  ∃ target ∈ c.tables, r.Means target ∧
    ∃ column ∈ target.columns, column.name = r.columnName own

/-- What holds of every reference, and of the name of the column that it
starts from. -/
def EveryReference
    (c : Configuration)
    (holds : ReferenceDefinition → String → Prop) :
    Prop :=
  ∀ d ∈ c.tables, ∀ column ∈ d.columns, ∀ r,
    column.kind = .reference r → holds r column.name

/-- Every reference points at a declared column. -/
def ReferencesColumns (c : Configuration) : Prop :=
  c.EveryReference c.KnowsColumn

variable {c : Configuration}

/-! ## What the tables hold -/

theorem forall_tables_iff {holds : Table → Prop} {said : TableDefinition → Prop}
    (same : ∀ id d, holds (d.table id) ↔ said d) :
    (∀ t ∈ c.describedDatabase.tables, holds t) ↔ ∀ d ∈ c.tables, said d := by
  change (∀ t ∈ (numbered c.tables).map fun p => p.2.table p.1, holds t) ↔ _
  rw [List.forall_mem_map]
  conv_rhs => rw [← map_snd_numbered c.tables]
  rw [List.forall_mem_map]
  exact forall₂_congr fun p _ => same p.1 p.2

theorem exists_tables_iff {holds : Table → Prop} {said : TableDefinition → Prop}
    (same : ∀ id d, holds (d.table id) ↔ said d) :
    (∃ t ∈ c.describedDatabase.tables, holds t) ↔ ∃ d ∈ c.tables, said d := by
  have others :
      (∀ t ∈ c.describedDatabase.tables, ¬ holds t) ↔
        ∀ d ∈ c.tables, ¬ said d :=
    forall_tables_iff fun id d => not_congr (same id d)
  simpa using not_congr others

theorem target_foreignKey_iff
    {id : TableId} {d : TableDefinition} {r : ReferenceDefinition}
    {own : String} :
    (r.foreignKey own).target = .table (d.table id).qualifiedName ↔
      r.Means d := by
  change Target.table (.text r.tableName) = _ ↔ _
  rw [TableDefinition.qualifiedName_table, ReferenceDefinition.means_iff,
    Target.table.injEq, Value.text.injEq]

theorem exists_column_iff
    (id : TableId) (d : TableDefinition) (name : String) :
    (∃ column ∈ (d.table id).columns, column.name = .text name) ↔
      ∃ column ∈ d.columns, column.name = name := by
  rw [← List.mem_map, map_name_columns_table,
    List.mem_map_of_injective Value.text_injective, List.mem_map]

/-- The foreign keys of a table are those of its references. -/
theorem forall_foreignKeys_iff
    (id : TableId) (d : TableDefinition) (holds : ForeignKey → Prop) :
    (∀ entry ∈ (d.table id).foreignKeys, holds entry.2) ↔
      ∀ column ∈ d.columns, ∀ r, column.kind = .reference r →
        holds (r.foreignKey column.name) := by
  rw [foreignKeys_table, List.forall_mem_map]
  unfold placedReferences
  constructor
  · intro each column member r kind
    rw [← map_fst_placed id d.columns] at member
    obtain ⟨p, placedMember, rfl⟩ := List.mem_map.mp member
    refine each (p, r) (List.mem_filterMap.mpr ⟨p, placedMember, ?_⟩)
    rw [kind]
    rfl
  · intro each e member
    obtain ⟨p, placedMember, isReference⟩ := List.mem_filterMap.mp member
    obtain ⟨r, target, rfl⟩ := Option.map_eq_some_iff.mp isReference
    obtain ⟨declared, _⟩ := eq_column_of_mem_placed placedMember
    refine each p.1 declared r ?_
    cases kind : p.1.kind with
    | reference target' =>
        rw [kind] at target
        cases target
        rfl
    | primaryKey =>
        rw [kind] at target
        cases target
    | plain type =>
        rw [kind] at target
        cases target

/-- What holds of every foreign key of the built database holds of every
reference that is declared. -/
theorem everyForeignKey_iff
    {holds : ForeignKey → Prop} {said : ReferenceDefinition → String → Prop}
    (same : ∀ r own, holds (r.foreignKey own) ↔ said r own) :
    c.describedDatabase.EveryForeignKey holds ↔ c.EveryReference said := by
  refine forall_tables_iff fun id d => ?_
  rw [forall_foreignKeys_iff id d holds]
  exact forall₂_congr fun column _ => forall₂_congr fun r _ =>
    same r column.name

theorem knows_foreignKey_iff (r : ReferenceDefinition) (own : String) :
    c.describedDatabase.Knows (r.foreignKey own) ↔ c.Knows r :=
  exists_tables_iff fun _ _ => target_foreignKey_iff

theorem knowsColumns_foreignKey_iff (r : ReferenceDefinition) (own : String) :
    c.describedDatabase.KnowsColumns (r.foreignKey own) ↔
      c.KnowsColumn r own := by
  refine exists_tables_iff fun id target =>
    and_congr target_foreignKey_iff ?_
  exact Iff.trans List.forall_mem_singleton
    (exists_column_iff id target (r.columnName own))

/-! ## What the statements say -/

theorem describedPlan_eq_rebuildPlan :
    describedPlan c =
      rebuildPlan c.describedDatabase.schemas (declaredEntries c) := by
  unfold describedPlan rebuildPlan declaredEntries
  rw [List.map_map, List.map_map]
  rfl

/-- Foreign keys are added after everything else. -/
theorem exists_lt_iff_mem
    {j : Nat} {s link : Statement}
    (other : s.linksTables = false) (links : link.linksTables = true)
    (atJ : (describedPlan c)[j]? = some link) :
    (∃ i < j, (describedPlan c)[i]? = some s) ↔ s ∈ describedPlan c := by
  constructor
  · rintro ⟨i, _, atI⟩
    exact List.mem_of_getElem? atI
  · intro member
    obtain ⟨i, atI⟩ := List.mem_iff_getElem?.mp member
    rw [describedPlan_eq_rebuildPlan] at atI atJ
    refine ⟨i, lt_of_linksTables atI other atJ links, ?_⟩
    rw [describedPlan_eq_rebuildPlan]
    exact atI

theorem addForeignKey_mem_describedPlan_iff
    {name : String} {clause : ReferenceClause} :
    .addForeignKey name clause ∈ describedPlan c ↔
      ∃ d ∈ c.tables, clause ∈ d.references ∧ d.qualifiedName = name := by
  unfold describedPlan
  simp [declaredEntries, rebuildSchema, Entry.building, Entry.linking,
    TableDefinition.entry]

theorem createTable_mem_describedPlan_iff {name : String} :
    .createTable name ∈ describedPlan c ↔
      ∃ d ∈ c.tables, name = d.qualifiedName := by
  unfold describedPlan
  simp [declaredEntries, rebuildSchema, Entry.building, Entry.linking]

theorem addColumn_mem_describedPlan_iff
    {name : String} {clause : ColumnClause} :
    .addColumn name clause ∈ describedPlan c ↔
      ∃ d ∈ c.tables,
        (∃ column ∈ d.columns, column.clause = clause) ∧
          d.qualifiedName = name := by
  unfold describedPlan
  simp [declaredEntries, rebuildSchema, Entry.building, Entry.linking,
    TableDefinition.entry]

theorem mem_references_iff {d : TableDefinition} {clause : ReferenceClause} :
    clause ∈ d.references ↔
      ∃ column ∈ d.columns, ∃ r, column.kind = .reference r ∧
        r.clause column.name = clause := by
  unfold TableDefinition.references
  rw [List.mem_filterMap]
  refine exists_congr fun column => and_congr_right fun _ => ?_
  rw [Option.map_eq_some_iff]
  refine exists_congr fun r => and_congr_left fun _ => ?_
  cases column.kind with
  | primaryKey => simp [ColumnKind.target?]
  | plain type => simp [ColumnKind.target?]
  | reference target => simp [ColumnKind.target?]

/-- What holds wherever the script adds a foreign key holds of every reference
that is declared. -/
theorem everyLink_iff
    {holds : Nat → ReferenceClause → Prop}
    {said : ReferenceDefinition → String → Prop}
    (same :
      ∀ (j : Nat) table r own,
        (describedPlan c)[j]? =
            some (.addForeignKey table (r.clause own)) →
          (holds j (r.clause own) ↔ said r own)) :
    (∀ (j : Nat) table clause,
        (describedPlan c)[j]? = some (.addForeignKey table clause) →
          holds j clause) ↔
      c.EveryReference said := by
  constructor
  · intro each d member column columnMember r kind
    have isClause : r.clause column.name ∈ d.references :=
      mem_references_iff.mpr ⟨column, columnMember, r, kind, rfl⟩
    have inPlan :
        .addForeignKey d.qualifiedName (r.clause column.name) ∈
          describedPlan c :=
      addForeignKey_mem_describedPlan_iff.mpr ⟨d, member, isClause, rfl⟩
    obtain ⟨j, atJ⟩ := List.mem_iff_getElem?.mp inPlan
    exact (same j _ r column.name atJ).mp (each j _ _ atJ)
  · intro each j table clause atJ
    obtain ⟨d, member, isClause, _⟩ :=
      addForeignKey_mem_describedPlan_iff.mp (List.mem_of_getElem? atJ)
    obtain ⟨column, columnMember, r, kind, rfl⟩ :=
      mem_references_iff.mp isClause
    exact (same j table r column.name atJ).mpr
      (each d member column columnMember r kind)

theorem targetsCreated_iff :
    TargetsCreated (describedPlan c) ↔
      c.EveryReference fun r _ => c.Knows r := by
  refine everyLink_iff fun j table r own atJ => ?_
  rw [exists_lt_iff_mem rfl rfl atJ, createTable_mem_describedPlan_iff]
  exact exists_congr fun d => and_congr_right fun _ =>
    ReferenceDefinition.means_iff.symm

theorem targetColumnsCreated_iff :
    TargetColumnsCreated (describedPlan c) ↔ c.ReferencesColumns := by
  refine everyLink_iff fun j table r own atJ => ?_
  have created (column : ColumnClause) :=
    exists_lt_iff_mem (s := .addColumn (r.clause own).target column) rfl rfl
      atJ
  refine Iff.trans List.forall_mem_singleton ?_
  constructor
  · rintro ⟨i, early, clause, named, atI⟩
    have inPlan := (created clause).mp ⟨i, early, atI⟩
    obtain ⟨d, member, ⟨column, columnMember, rfl⟩, target⟩ :=
      addColumn_mem_describedPlan_iff.mp inPlan
    exact ⟨d, member, ReferenceDefinition.means_iff.mpr target.symm, column,
      columnMember, named⟩
  · rintro ⟨d, member, means, column, columnMember, named⟩
    have target := ReferenceDefinition.means_iff.mp means
    have inPlan :
        .addColumn (r.clause own).target column.clause ∈ describedPlan c :=
      addColumn_mem_describedPlan_iff.mpr
        ⟨d, member, ⟨column, columnMember, rfl⟩, target.symm⟩
    obtain ⟨i, early, atI⟩ := (created column.clause).mpr inPlan
    exact ⟨i, early, column.clause, named, atI⟩

end Configuration

/-- Every foreign key of a built database points at a table of that database,
which the script creates before.  No foreign key dangles exactly if every
reference of the configuration points at a declared column of the table that it
means; and exactly then the script adds the columns before, too. -/
theorem buildDatabase_noDangling_iff
    {v : Value} {c : Configuration} {d : Database}
    (accepted : checkConfiguration v = .ok c)
    (built : (buildDatabase c).result = .ok d) :
    d.EveryForeignKey d.Knows ∧
      (d.NoDangling ↔ c.ReferencesColumns) ∧
      ∃ statements,
        plan d = .ok statements ∧
          create d = .ok (statements.map Statement.text) ∧
          TargetsCreated statements ∧
          (TargetColumnsCreated statements ↔ c.ReferencesColumns) := by
  obtain ⟨configurationAccepted, _⟩ := checkConfiguration_ok accepted
  obtain ⟨buildable, rfl⟩ :=
    (buildDatabase_eq_ok_iff_buildable configurationAccepted).mp built
  have known : c.EveryReference fun r _ => c.Knows r :=
    buildable.knownTargets
  refine ⟨?_, ?_, describedPlan c, plan_describedDatabase c,
    create_describedDatabase c, Configuration.targetsCreated_iff.mpr known,
    Configuration.targetColumnsCreated_iff⟩
  · exact (Configuration.everyForeignKey_iff
      Configuration.knows_foreignKey_iff).mpr known
  · exact Configuration.everyForeignKey_iff
      Configuration.knowsColumns_foreignKey_iff

theorem shop_referencesColumns : shop.ReferencesColumns := by
  intro d member column columnMember r kind
  have orders :
      ReferenceDefinition.Means ⟨"sales.orders", some "id", .cascade, .setNull⟩
        shop.tables[1] :=
    ReferenceDefinition.means_iff.mpr (by decide +kernel)
  have buyers :
      ReferenceDefinition.Means
        ⟨"public.buyers", some "id", .cascade, .cascade⟩ shop.tables[0] :=
    ReferenceDefinition.means_iff.mpr (by decide +kernel)
  simp only [shop, List.mem_cons, List.not_mem_nil, or_false] at member
  rcases member with rfl | rfl
  · simp only [List.mem_cons, List.not_mem_nil, or_false] at columnMember
    rcases columnMember with rfl | rfl | rfl
    · cases kind
    · cases kind
    · cases kind
      exact ⟨_, List.getElem_mem _, orders, _, List.mem_cons_self, rfl⟩
  · simp only [List.mem_cons, List.not_mem_nil, or_false] at columnMember
    rcases columnMember with rfl | rfl
    · cases kind
    · cases kind
      exact ⟨_, List.getElem_mem _, buyers, _, List.mem_cons_self, rfl⟩

/-- No foreign key of the shop dangles. -/
theorem shop_noDangling :
    checkConfiguration shopValue = .ok shop ∧
      ∃ d, (buildDatabase shop).result = .ok d ∧ d.NoDangling := by
  obtain ⟨d, built⟩ := shop_built
  obtain ⟨_, noDangling, _⟩ := buildDatabase_noDangling_iff shop_accepted built
  exact ⟨shop_accepted, d, built, noDangling.mpr shop_referencesColumns⟩

/-- A configuration whose only reference points at a column that nobody
declares, as a value. -/
def ticketValue : Value :=
  .dict [(.text "tables", .list [
    .dict [
      (.text "name", .text "tickets"),
      (.text "columns", .list [
        .dict [
          (.text "name", .text "event"),
          (.text "type", .text "reference"),
          (.text "references", .dict [
            (.text "table", .text "events"),
            (.text "column", .text "code")])]])],
    .dict [
      (.text "name", .text "events"),
      (.text "columns", .list [
        .dict [
          (.text "name", .text "id"),
          (.text "type", .text "primary_key")]])]])]

def tickets : Configuration where
  dialect := .postgresql
  sqlOutput := none
  typesOutput := none
  database := none
  tables := [
    { name := "tickets"
      schema := none
      columns := [
        ⟨"event", .reference ⟨"events", some "code", .cascade, .cascade⟩,
          true, false, none, none⟩]
      unique := [] },
    { name := "events"
      schema := none
      columns := [⟨"id", .primaryKey, true, false, none, none⟩]
      unique := [] }]

theorem not_tickets_referencesColumns : ¬ tickets.ReferencesColumns := by
  intro references
  obtain ⟨target, declared, _, column, columnMember, named⟩ :=
    references tickets.tables[0] (List.getElem_mem _)
      tickets.tables[0].columns[0] (List.getElem_mem _) _ rfl
  change column.name = "code" at named
  simp only [tickets, List.mem_cons, List.not_mem_nil, or_false] at declared
  rcases declared with rfl | rfl
  · rw [List.mem_singleton.mp columnMember] at named
    exact absurd named (by decide)
  · rw [List.mem_singleton.mp columnMember] at named
    exact absurd named (by decide)

/-- The tickets are accepted and built, but their foreign key dangles. -/
theorem tickets_dangle :
    ¬ ∀ v c d, checkConfiguration v = .ok c →
      (buildDatabase c).result = .ok d → d.NoDangling := by
  intro noneDangles
  have accepted : checkConfiguration ticketValue = .ok tickets := by
    decide +kernel
  have succeeds : (buildDatabase tickets).result.isOk = true := by
    decide +kernel
  obtain ⟨configurationAccepted, _⟩ := checkConfiguration_ok accepted
  cases built : (buildDatabase tickets).result with
  | error failure =>
      rw [built] at succeeds
      cases succeeds
  | ok d =>
      have noDangling := noneDangles ticketValue tickets d accepted built
      obtain ⟨_, rfl⟩ :=
        (buildDatabase_eq_ok_iff_buildable configurationAccepted).mp built
      exact not_tickets_referencesColumns
        ((Configuration.everyForeignKey_iff
          Configuration.knowsColumns_foreignKey_iff).mp noDangling)

end Tablesmith.Config

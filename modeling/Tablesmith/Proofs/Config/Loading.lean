import Tablesmith.Proofs.Config.Filling
import Tablesmith.Proofs.Schema.Lookup

/-!
# Loading is exact

The loader makes exactly the tables that the definitions describe, and it
succeeds exactly if the definitions fit together.
-/

namespace Tablesmith.Config

open Tablesmith.Log Tablesmith.Schema

/-! ## Tables -/

namespace TableDefinition

def qualifiedName (d : TableDefinition) : String :=
  if d.schemaName = publicSchema then d.name
  else d.schemaName ++ "." ++ d.name

/-- The loader knows a table by its qualified name, although it puts name and
schema together on its own. -/
theorem knownName_eq_qualifiedName (d : TableDefinition) :
    d.knownName = d.qualifiedName := by
  unfold knownName qualifiedName schemaName
  cases d.schema with
  | none => rfl
  | some schema =>
      by_cases isEmpty : schema = ""
      · simp [isEmpty]
      · simp [isEmpty]

/-- The columns and the constraints of a table fit together, and the tables
that it points at are known. -/
structure Fits (known : List String) (d : TableDefinition) : Prop where
  columns : ColumnsFit known [] d.columns
  unique : ∀ names ∈ d.unique, d.CanBeUnique names

@[simp]
theorem qualifiedName_table (id : TableId) (d : TableDefinition) :
    (d.table id).qualifiedName = .text d.qualifiedName := by
  change qualify d.schemaName (.text d.name) = .text d.qualifiedName
  rw [qualify_text]
  rfl

theorem empty_eq_table (id : TableId) (d : TableDefinition) :
    Table.empty id (.text d.name) d.schema =
      (d.withColumns []).table id := by
  have sameSchema : meantSchema d.schema = d.schemaName := by
    unfold meantSchema schemaName
    cases d.schema with
    | none => rfl
    | some given => rfl
  exact Table.ext rfl rfl ((schema_empty id _ _).trans sameSchema) rfl rfl

end TableDefinition

/-- The loader completes a table exactly if its definition fits, and then as
the definition describes it. -/
theorem completeTable_eq_ok_iff
    {known : List String} {d : TableDefinition} {id : TableId} {after : Table}
    (accepted : d.Accepted) :
    (completeTable known ((d.withColumns []).table id) d).result =
        .ok after ↔
      d.Fits known ∧ after = d.table id := by
  have distinct :
      (([] : List ColumnDefinition).map ColumnDefinition.name).Nodup :=
    List.nodup_nil
  have columnsAdded (reached : Table) :
      (addColumns known ((d.withColumns []).table id) d.columns).result =
          .ok reached ↔
        ColumnsFit known [] d.columns ∧
          reached = (d.withColumns d.columns).table id := by
    rw [addColumns_eq_ok_iff distinct accepted.columns, List.nil_append]
  have whole : (d.withColumns d.columns).withUnique d.unique = d := rfl
  have uniquesAdded (reached : Table) :
      (addUniques ((d.withColumns d.columns).table id) d.unique).result =
          .ok reached ↔
        (∀ names ∈ d.unique, (d.withColumns d.columns).CanBeUnique names) ∧
          reached = d.table id := by
    rw [addUniques_eq_ok_iff]
    rfl
  have sameUnique :
      (∀ names ∈ d.unique, (d.withColumns d.columns).CanBeUnique names) ↔
        ∀ names ∈ d.unique, d.CanBeUnique names := by
    constructor
    · intro fits names member
      obtain ⟨several, different, declared⟩ := fits names member
      exact ⟨several, different, declared⟩
    · intro fits names member
      obtain ⟨several, different, declared⟩ := fits names member
      exact ⟨several, different, declared⟩
  unfold completeTable
  rw [result_bind_eq_ok_iff]
  constructor
  · rintro ⟨filled, columnsResult, rest⟩
    obtain ⟨columnsFit, rfl⟩ := (columnsAdded filled).mp columnsResult
    obtain ⟨complete, uniquesResult, rest⟩ := result_bind_eq_ok_iff.mp rest
    obtain ⟨uniqueFits, rfl⟩ := (uniquesAdded complete).mp uniquesResult
    obtain ⟨_, _, equality⟩ := result_bind_eq_ok_iff.mp rest
    cases equality
    exact ⟨⟨columnsFit, sameUnique.mp uniqueFits⟩, rfl⟩
  · rintro ⟨fits, rfl⟩
    refine ⟨_, (columnsAdded _).mpr ⟨fits.columns, rfl⟩, ?_⟩
    refine result_bind_eq_ok_iff.mpr
      ⟨_, (uniquesAdded _).mpr ⟨sameUnique.mpr fits.unique, rfl⟩, rfl⟩

/-! ## Databases -/

/-- Definitions with the identities of the tables that they declare. -/
def numbered (definitions : List TableDefinition) :
    List (TableId × TableDefinition) :=
  definitions.mapIdx fun i d => (.declared i, d)

theorem numbered_append
    (definitions : List TableDefinition) (d : TableDefinition) :
    numbered (definitions ++ [d]) =
      numbered definitions ++ [(.declared definitions.length, d)] :=
  List.mapIdx_concat

theorem map_snd_numbered (definitions : List TableDefinition) :
    (numbered definitions).map Prod.snd = definitions := by
  induction definitions using List.reverseRecOn with
  | nil => rfl
  | append_singleton earlier d inductionHypothesis =>
      rw [numbered_append, List.map_append, inductionHypothesis]
      rfl

/-- The database with the tables of definitions, without columns. -/
def startedDatabase (definitions : List TableDefinition) : Database :=
  ⟨(numbered definitions).map fun p => (p.2.withColumns []).table p.1⟩

theorem startedDatabase_append
    (definitions : List TableDefinition) (d : TableDefinition) :
    startedDatabase (definitions ++ [d]) =
      ⟨(startedDatabase definitions).tables ++
        [(d.withColumns []).table (.declared definitions.length)]⟩ := by
  unfold startedDatabase
  rw [numbered_append, List.map_append]
  rfl

theorem qualifiedNames_numbered
    {make : TableId × TableDefinition → Table}
    (named : ∀ p, (make p).qualifiedName = .text p.2.qualifiedName)
    (definitions : List TableDefinition) :
    ((numbered definitions).map make).map Table.qualifiedName =
      (definitions.map TableDefinition.qualifiedName).map Value.text := by
  conv_rhs => rw [← map_snd_numbered definitions]
  rw [List.map_map, List.map_map, List.map_map]
  apply List.map_congr_left
  intro p _
  exact named p

theorem qualifiedNames_started (definitions : List TableDefinition) :
    (startedDatabase definitions).tables.map Table.qualifiedName =
      (definitions.map TableDefinition.qualifiedName).map Value.text :=
  qualifiedNames_numbered
    (fun p => TableDefinition.qualifiedName_table p.1 (p.2.withColumns []))
    definitions

/-- A table can be declared after others: its name holds no point, and its
qualified name is free. -/
structure TableDefinition.CanBeDeclared
    (earlier : List TableDefinition)
    (d : TableDefinition) :
    Prop where
  noPoint : '.' ∉ d.name.toList
  freeName : d.qualifiedName ∉ earlier.map TableDefinition.qualifiedName

theorem table?_started_eq_none_iff
    {earlier : List TableDefinition} {name : String} :
    (startedDatabase earlier).table? (.text name) = none ↔
      name ∉ earlier.map TableDefinition.qualifiedName := by
  have sameNames :
      (∃ t ∈ (startedDatabase earlier).tables,
          t.qualifiedName = .text name) ↔
        name ∈ earlier.map TableDefinition.qualifiedName := by
    rw [← List.mem_map, qualifiedNames_started, List.mem_map]
    simp only [Value.text.injEq, exists_eq_right]
  rw [Database.table?_eq_none_iff, ← sameNames]
  push Not
  rfl

theorem addTable_started_eq_ok_iff
    {earlier : List TableDefinition} {d : TableDefinition} {after : Database}
    (named : d.name ≠ "") :
    (startedDatabase earlier).addTable (.text d.name) d.schema = .ok after ↔
      d.CanBeDeclared earlier ∧ after = startedDatabase (earlier ++ [d]) := by
  have next :
      (startedDatabase earlier).nextTable (.text d.name) d.schema =
        (d.withColumns []).table (.declared earlier.length) := by
    unfold Database.nextTable
    rw [TableDefinition.empty_eq_table]
    simp [startedDatabase, numbered]
  have sameName :
      (d.withColumns []).qualifiedName = d.qualifiedName := rfl
  rw [Database.addTable_text, next, TableDefinition.qualifiedName_table,
    sameName]
  by_cases point : '.' ∈ d.name.toList
  · rw [if_pos (.inr point)]
    constructor
    · intro equality
      cases equality
    · rintro ⟨⟨noPoint, _⟩, _⟩
      exact absurd point noPoint
  · rw [if_neg (not_or.mpr ⟨named, point⟩)]
    cases taken : (startedDatabase earlier).table? (.text d.qualifiedName)
      with
    | some other =>
        have isTaken :
            ¬ d.qualifiedName ∉ earlier.map TableDefinition.qualifiedName := by
          rw [← table?_started_eq_none_iff, taken]
          simp
        constructor
        · intro equality
          cases equality
        · rintro ⟨⟨_, free⟩, _⟩
          exact absurd free isTaken
    | none =>
        have free := table?_started_eq_none_iff.mp taken
        rw [startedDatabase_append]
        constructor
        · intro equality
          cases equality
          exact ⟨⟨point, free⟩, rfl⟩
        · rintro ⟨_, rfl⟩
          rfl

/-- Tables can be declared after others: no name holds a point, and the
qualified names are different. -/
structure TablesFit (earlier definitions : List TableDefinition) : Prop where
  noPoints : ∀ d ∈ definitions, '.' ∉ d.name.toList
  distinctNames :
    ((earlier ++ definitions).map TableDefinition.qualifiedName).Nodup

theorem tablesFit_cons_iff
    {earlier rest : List TableDefinition} {d : TableDefinition} :
    TablesFit earlier (d :: rest) ↔
      d.CanBeDeclared earlier ∧ TablesFit (earlier ++ [d]) rest := by
  have sameTables : earlier ++ d :: rest = (earlier ++ [d]) ++ rest := by
    rw [List.append_assoc, List.singleton_append]
  constructor
  · intro fits
    have distinct := fits.distinctNames
    refine ⟨⟨fits.noPoints d List.mem_cons_self, ?_⟩, ?_, ?_⟩
    · rw [List.map_append, List.map_cons, List.nodup_middle,
        List.nodup_cons] at distinct
      exact fun taken => distinct.1 (List.mem_append_left _ taken)
    · exact fun other member =>
        fits.noPoints other (List.mem_cons_of_mem _ member)
    · rwa [← sameTables]
  · rintro ⟨first, later⟩
    refine ⟨?_, ?_⟩
    · intro other member
      rcases List.mem_cons.mp member with rfl | inRest
      · exact first.noPoint
      · exact later.noPoints other inRest
    · rw [sameTables]
      exact later.distinctNames

theorem makeTables_eq_ok_iff
    {earlier rest : List TableDefinition} {after : Database}
    (distinct : (earlier.map TableDefinition.qualifiedName).Nodup)
    (named : ∀ d ∈ rest, d.name ≠ "") :
    (makeTables (startedDatabase earlier) rest).result = .ok after ↔
      TablesFit earlier rest ∧ after = startedDatabase (earlier ++ rest) := by
  induction rest generalizing earlier with
  | nil =>
      have fits : TablesFit earlier [] := by
        refine ⟨fun d member => absurd member List.not_mem_nil, ?_⟩
        rwa [List.append_nil]
      rw [makeTables, Logged.result_pure, List.append_nil]
      constructor
      · intro equality
        cases equality
        exact ⟨fits, rfl⟩
      · rintro ⟨_, rfl⟩
        rfl
  | cons d rest inductionHypothesis =>
      have headNamed := named d List.mem_cons_self
      have restNamed : ∀ other ∈ rest, other.name ≠ "" :=
        fun other member => named other (List.mem_cons_of_mem _ member)
      have sameTables : earlier ++ d :: rest = (earlier ++ [d]) ++ rest := by
        rw [List.append_assoc, List.singleton_append]
      have step (first : d.CanBeDeclared earlier) :
          ((earlier ++ [d]).map TableDefinition.qualifiedName).Nodup := by
        rw [List.map_append, List.map_singleton, ← List.concat_eq_append]
        exact distinct.concat first.freeName
      rw [makeTables, result_bind_eq_ok_iff, tablesFit_cons_iff, sameTables]
      constructor
      · rintro ⟨reached, added, others⟩
        rw [Logged.result_ofResult, addTable_started_eq_ok_iff headNamed]
          at added
        obtain ⟨first, rfl⟩ := added
        obtain ⟨_, _, others⟩ := result_bind_eq_ok_iff.mp others
        obtain ⟨restFits, equality⟩ :=
          (inductionHypothesis (step first) restNamed).mp others
        exact ⟨⟨first, restFits⟩, equality⟩
      · rintro ⟨⟨first, restFits⟩, equality⟩
        refine ⟨startedDatabase (earlier ++ [d]), ?_, ?_⟩
        · rw [Logged.result_ofResult, addTable_started_eq_ok_iff headNamed]
          exact ⟨first, rfl⟩
        · refine result_bind_eq_ok_iff.mpr ⟨(), rfl, ?_⟩
          exact (inductionHypothesis (step first) restNamed).mpr
            ⟨restFits, equality⟩

theorem completeTables_eq_ok_iff
    {known : List String} {pairs : List (TableId × TableDefinition)}
    {after : List Table}
    (accepted : ∀ p ∈ pairs, p.2.Accepted) :
    (completeTables known
        (pairs.map fun p => ((p.2.withColumns []).table p.1, p.2))).result =
        .ok after ↔
      (∀ p ∈ pairs, p.2.Fits known) ∧
        after = pairs.map fun p => p.2.table p.1 := by
  induction pairs generalizing after with
  | nil =>
      rw [List.map_nil, completeTables, Logged.result_pure, List.map_nil]
      constructor
      · intro equality
        cases equality
        exact ⟨fun p member => absurd member List.not_mem_nil, rfl⟩
      · rintro ⟨_, rfl⟩
        rfl
  | cons head rest inductionHypothesis =>
      obtain ⟨id, d⟩ := head
      have headAccepted : d.Accepted := accepted (id, d) List.mem_cons_self
      have restAccepted : ∀ p ∈ rest, p.2.Accepted :=
        fun p member => accepted p (List.mem_cons_of_mem _ member)
      rw [List.map_cons, completeTables, result_bind_eq_ok_iff,
        List.forall_mem_cons, List.map_cons]
      constructor
      · rintro ⟨complete, completed, others⟩
        obtain ⟨fits, rfl⟩ :=
          (completeTable_eq_ok_iff headAccepted).mp completed
        obtain ⟨later, laterCompleted, equality⟩ :=
          result_bind_eq_ok_iff.mp others
        obtain ⟨restFits, rfl⟩ :=
          (inductionHypothesis restAccepted).mp laterCompleted
        cases equality
        exact ⟨⟨fits, restFits⟩, rfl⟩
      · rintro ⟨⟨fits, restFits⟩, rfl⟩
        refine ⟨d.table id, (completeTable_eq_ok_iff headAccepted).mpr
          ⟨fits, rfl⟩, ?_⟩
        exact result_bind_eq_ok_iff.mpr
          ⟨_, (inductionHypothesis restAccepted).mpr ⟨restFits, rfl⟩, rfl⟩

namespace Configuration

/-- The database that a configuration describes. -/
def describedDatabase (c : Configuration) : Database :=
  ⟨(numbered c.tables).map fun p => p.2.table p.1⟩

/-- The definitions of a configuration fit together: the tables can be
declared, and each fits among their qualified names. -/
structure Fits (c : Configuration) : Prop where
  tables : TablesFit [] c.tables
  each :
    ∀ d ∈ c.tables, d.Fits (c.tables.map TableDefinition.qualifiedName)

end Configuration

theorem knownNames_eq (definitions : List TableDefinition) :
    knownNames definitions =
      definitions.map TableDefinition.qualifiedName :=
  List.map_congr_left fun d _ => d.knownName_eq_qualifiedName

theorem zip_started (definitions : List TableDefinition) :
    (startedDatabase definitions).tables.zip definitions =
      (numbered definitions).map fun p =>
        ((p.2.withColumns []).table p.1, p.2) := by
  have zipped :
      (startedDatabase definitions).tables.zip
          ((numbered definitions).map Prod.snd) = _ :=
    List.zip_map'
  rwa [map_snd_numbered] at zipped

/-- The database of an accepted configuration can be built exactly if its
definitions fit together, and then it is the one that they describe. -/
theorem buildDatabase_eq_ok_iff
    {c : Configuration} (accepted : c.Accepted) {d : Database} :
    (buildDatabase c).result = .ok d ↔
      c.Fits ∧ d = c.describedDatabase := by
  have everyNumbered (holds : TableDefinition → Prop) :
      (∀ p ∈ numbered c.tables, holds p.2) ↔
        ∀ definition ∈ c.tables, holds definition := by
    rw [← List.forall_mem_map, map_snd_numbered]
  have named : ∀ definition ∈ c.tables, definition.name ≠ "" :=
    fun definition member => (accepted.tables definition member).named
  have made (reached : Database) :
      (makeTables .empty c.tables).result = .ok reached ↔
        TablesFit [] c.tables ∧ reached = startedDatabase c.tables := by
    have distinct :
        (([] : List TableDefinition).map
          TableDefinition.qualifiedName).Nodup :=
      List.nodup_nil
    exact makeTables_eq_ok_iff distinct named
  have completed (complete : List Table) :
      (completeTables (knownNames c.tables)
          ((startedDatabase c.tables).tables.zip c.tables)).result =
          .ok complete ↔
        (∀ definition ∈ c.tables,
          definition.Fits (c.tables.map TableDefinition.qualifiedName)) ∧
          complete = c.describedDatabase.tables := by
    rw [knownNames_eq, zip_started,
      completeTables_eq_ok_iff ((everyNumbered _).mpr accepted.tables),
      everyNumbered]
    rfl
  unfold buildDatabase
  rw [result_bind_eq_ok_iff]
  constructor
  · rintro ⟨started, madeResult, rest⟩
    obtain ⟨tablesFit, rfl⟩ := (made started).mp madeResult
    obtain ⟨complete, completeResult, equality⟩ :=
      result_bind_eq_ok_iff.mp rest
    obtain ⟨eachFits, rfl⟩ := (completed complete).mp completeResult
    cases equality
    exact ⟨⟨tablesFit, eachFits⟩, rfl⟩
  · rintro ⟨fits, rfl⟩
    refine ⟨_, (made _).mpr ⟨fits.tables, rfl⟩, ?_⟩
    exact result_bind_eq_ok_iff.mpr
      ⟨_, (completed _).mpr ⟨fits.each, rfl⟩, rfl⟩

theorem qualifiedNames_described (c : Configuration) :
    c.describedDatabase.tables.map Table.qualifiedName =
      (c.tables.map TableDefinition.qualifiedName).map Value.text :=
  qualifiedNames_numbered
    (fun p => TableDefinition.qualifiedName_table p.1 p.2) c.tables

/-- The database that is built from an accepted configuration is the one that
its definitions describe, and the definitions are those that the configuration
file holds, in order.  Nothing is set for a primary key column, and a reference
means a table of the database. -/
theorem buildDatabase_faithful
    {v : Value} {c : Configuration} {d : Database}
    (accepted : checkConfiguration v = .ok c)
    (built : (buildDatabase c).result = .ok d) :
    d = c.describedDatabase ∧
      List.Forall₂ TableDefinition.ReadFrom (itemsUnder "tables" v) c.tables ∧
      ∀ definition ∈ c.tables, ∀ column ∈ definition.columns,
        (column.kind = .primaryKey → column.IsStandard) ∧
          ∀ r, column.kind = .reference r →
            ∃ t ∈ d.tables, t.qualifiedName = .text r.tableName := by
  obtain ⟨configurationAccepted, readFrom⟩ := checkConfiguration_ok accepted
  obtain ⟨fits, rfl⟩ :=
    (buildDatabase_eq_ok_iff configurationAccepted).mp built
  refine ⟨rfl, readFrom, ?_⟩
  intro definition definitionMember column columnMember
  have tableAccepted :=
    configurationAccepted.tables definition definitionMember
  refine ⟨(tableAccepted.columns column columnMember).standardKey, ?_⟩
  intro r kind
  have known :=
    (fits.each definition definitionMember).columns.knownTargets column
      columnMember r kind
  have isName :
      Value.text r.tableName ∈
        c.describedDatabase.tables.map Table.qualifiedName := by
    rw [qualifiedNames_described]
    exact List.mem_map.mpr ⟨r.tableName, known, rfl⟩
  obtain ⟨t, member, equality⟩ := List.mem_map.mp isName
  exact ⟨t, member, equality⟩

/-- A configuration of two tables that point at each other, as a value. -/
def shopValue : Value :=
  .dict [(.text "tables", .list [
    .dict [
      (.text "name", .text "buyers"),
      (.text "columns", .list [
        .dict [(.text "name", .text "id"), (.text "type", .text "primary_key")],
        .dict [
          (.text "name", .text "code"),
          (.text "type", .text "string"),
          (.text "unique", .bool true)],
        .dict [
          (.text "name", .text "latest"),
          (.text "type", .text "reference"),
          (.text "references", .dict [
            (.text "table", .text "sales.orders"),
            (.text "column", .text "id"),
            (.text "on_delete", .text "set_null")])]]),
      (.text "unique", .list [.list [.text "latest", .text "code"]])],
    .dict [
      (.text "name", .text "orders"),
      (.text "schema", .text "sales"),
      (.text "columns", .list [
        .dict [(.text "name", .text "id"), (.text "type", .text "primary_key")],
        .dict [
          (.text "name", .text "buyer"),
          (.text "type", .text "reference"),
          (.text "references", .dict [
            (.text "table", .text "public.buyers"),
            (.text "column", .text "id")])]])]])]

def shop : Configuration where
  dialect := .postgresql
  sqlOutput := none
  typesOutput := none
  database := none
  tables := [
    { name := "buyers"
      schema := none
      columns := [
        ⟨"id", .primaryKey, true, false, none, none⟩,
        ⟨"code", .plain .string, true, true, none, none⟩,
        ⟨"latest", .reference ⟨"sales.orders", some "id", .cascade, .setNull⟩,
          true, false, none, none⟩]
      unique := [["latest", "code"]] },
    { name := "orders"
      schema := some "sales"
      columns := [
        ⟨"id", .primaryKey, true, false, none, none⟩,
        ⟨"buyer", .reference ⟨"public.buyers", some "id", .cascade, .cascade⟩,
          true, false, none, none⟩]
      unique := [] }]

theorem shop_accepted : checkConfiguration shopValue = .ok shop := by
  decide +kernel

theorem shop_built : ∃ d, (buildDatabase shop).result = .ok d := by
  have succeeds : (buildDatabase shop).result.isOk = true := by decide +kernel
  cases result : (buildDatabase shop).result with
  | error failure =>
      rw [result] at succeeds
      cases succeeds
  | ok d => exact ⟨d, rfl⟩

/-- The database of the shop is the described one; the buyers point at its
table of orders. -/
theorem shop_faithful :
    checkConfiguration shopValue = .ok shop ∧
      ∃ d, (buildDatabase shop).result = .ok d ∧
        d = shop.describedDatabase ∧
        ∃ t ∈ d.tables, t.qualifiedName = .text "sales.orders" := by
  obtain ⟨d, built⟩ := shop_built
  obtain ⟨described, _, targets⟩ :=
    buildDatabase_faithful shop_accepted built
  refine ⟨shop_accepted, d, built, described, ?_⟩
  have target :=
    targets shop.tables[0] (by simp [shop]) shop.tables[0].columns[2]
      (by simp [shop])
  exact target.2 _ rfl

end Tablesmith.Config

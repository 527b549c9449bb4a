import Mathlib.Data.List.TakeWhile
import Tablesmith.Proofs.Sql.Described

/-!
# Rebuilding a catalogue

The script of a database that is built from a configuration never fails,
whatever tables an earlier run or anybody else has left.  In the end each
declared table is as it is declared, and what does not stand in the way of the
declared tables is left alone.
-/

namespace Tablesmith.Sql

open Tablesmith.Config Tablesmith.Schema

/-! ## Names and schemas -/

/-- The schema in front of a name without points can be read off again. -/
theorem schemaOf_qualifiedName
    {d : TableDefinition} (noPoint : '.' ∉ d.name.toList) :
    schemaOf d.qualifiedName = d.schemaName := by
  have inName : ∀ c ∈ d.name.toList.reverse, decide (c ≠ '.') = true := by
    intro c member
    rw [decide_eq_true_eq]
    rintro rfl
    exact noPoint (List.mem_reverse.mp member)
  by_cases isPublic : d.schemaName = publicSchema
  · have plain : d.qualifiedName = d.name := if_pos isPublic
    have noRest :
        d.name.toList.reverse.dropWhile (fun c => decide (c ≠ '.')) = [] :=
      List.dropWhile_eq_nil_iff.mpr inName
    unfold schemaOf
    rw [plain, noRest, isPublic]
  · have qualified : d.qualifiedName = d.schemaName ++ "." ++ d.name :=
      if_neg isPublic
    have characters :
        (d.schemaName ++ "." ++ d.name).toList.reverse =
          d.name.toList.reverse ++ '.' :: d.schemaName.toList.reverse := by
      simp
    unfold schemaOf
    rw [qualified, characters, List.dropWhile_append_of_pos inName]
    simp

/-- The schemas to rebuild are those of the tables, without the public one. -/
theorem mem_collectSchemas_iff {tables : List Table} {schema : String} :
    schema ∈ Database.collectSchemas tables ↔
      schema ≠ publicSchema ∧ ∃ t ∈ tables, t.schema = schema := by
  unfold Database.collectSchemas
  induction tables using List.reverseRecOn with
  | nil => simp
  | append_singleton earlier t inductionHypothesis =>
      have oneMore :
          (∃ u ∈ earlier ++ [t], u.schema = schema) ↔
            (∃ u ∈ earlier, u.schema = schema) ∨ t.schema = schema := by
        simp only [List.mem_append, List.mem_singleton, or_and_right,
          exists_or, exists_eq_left]
      rw [List.foldl_append, oneMore, and_or_left, ← inductionHypothesis,
        List.foldl_cons, List.foldl_nil]
      split
      next skipped =>
        constructor
        · exact Or.inl
        · rintro (found | ⟨notPublic, rfl⟩)
          · exact found
          · rw [Bool.or_eq_true, decide_eq_true_eq, List.contains_iff_mem]
              at skipped
            exact skipped.resolve_left notPublic
      next isNew =>
        rw [Bool.or_eq_true, decide_eq_true_eq, not_or] at isNew
        rw [List.mem_append, List.mem_singleton]
        constructor
        · rintro (found | rfl)
          · exact Or.inl found
          · exact Or.inr ⟨isNew.1, rfl⟩
        · rintro (found | ⟨_, rfl⟩)
          · exact Or.inl found
          · exact Or.inr rfl

end Tablesmith.Sql

namespace Tablesmith.Config.Configuration

open Tablesmith.Schema Tablesmith.Sql

/-- Whether a schema is rebuilt: it is not the public one, and a declared table
lies in it. -/
def rebuilds (c : Configuration) (schema : String) : Bool :=
  schema ≠ publicSchema && c.tables.any fun d => d.schemaName = schema

/-- Whether a table that is there before is removed, given its name and its
schema. -/
def removes (c : Configuration) (name schema : String) : Bool :=
  c.rebuilds schema ||
    (c.tables.map TableDefinition.qualifiedName).contains name

/-- A catalogue is the result of rebuilding the declared tables in another
one. -/
structure RebuiltFrom (c : Configuration) (before after : Catalogue) : Prop where
  /-- Each declared table is as it is declared. -/
  declared :
    ∀ d ∈ c.tables, after.table? d.qualifiedName = some d.entry
  /-- Each table that is not removed loses only the foreign keys that point at
  tables that are. -/
  kept :
    ∀ name e, before.table? name = some e → c.removes name e.schema = false →
      after.table? name = some (e.withoutTargets (before.loses c.removes))
  /-- There are no other tables. -/
  nothingElse :
    ∀ name, name ∉ c.tables.map TableDefinition.qualifiedName →
      (∀ e, before.table? name = some e → c.removes name e.schema = true) →
        after.table? name = none
  /-- The schemas are those from before and those that are rebuilt. -/
  schemas :
    ∀ schema, after.hasSchema schema =
      (before.hasSchema schema || c.rebuilds schema)

end Tablesmith.Config.Configuration

namespace Tablesmith.Sql

open Tablesmith.Config Tablesmith.Schema

theorem contains_schemas (c : Configuration) (schema : String) :
    c.describedDatabase.schemas.contains schema = c.rebuilds schema := by
  have sameTables :
      (∃ t ∈ c.describedDatabase.tables, t.schema = schema) ↔
        ∃ d ∈ c.tables, d.schemaName = schema := by
    unfold Configuration.describedDatabase
    conv_rhs => rw [← map_snd_numbered c.tables]
    simp only [List.mem_map, exists_exists_and_eq_and]
    rfl
  rw [Bool.eq_iff_iff, List.contains_iff_mem]
  unfold Database.schemas Configuration.rebuilds
  rw [mem_collectSchemas_iff, sameTables, Bool.and_eq_true,
    decide_eq_true_eq, List.any_eq_true]
  simp only [decide_eq_true_eq]

theorem hasColumns_chosen
    (chosen : ColumnDefinition → Bool) (d : TableDefinition) :
    d.entry.hasColumns
      ((d.columns.filter chosen).map ColumnDefinition.name) = true := by
  unfold Entry.hasColumns
  rw [List.all_eq_true]
  intro name member
  obtain ⟨c, chosenMember, rfl⟩ := List.mem_map.mp member
  rw [List.contains_iff_mem]
  have own := List.mem_of_mem_filter chosenMember
  exact List.mem_map.mpr ⟨c.clause, List.mem_map.mpr ⟨c, own, rfl⟩, rfl⟩

theorem hasColumns_one
    {d : TableDefinition} {c : ColumnDefinition} (own : c ∈ d.columns) :
    d.entry.hasColumns [c.name] = true := by
  unfold Entry.hasColumns
  rw [List.all_eq_true]
  intro name member
  rw [List.mem_singleton.mp member, List.contains_iff_mem]
  exact List.mem_map.mpr ⟨c.clause, List.mem_map.mpr ⟨c, own, rfl⟩, rfl⟩

theorem consistent_entry
    {known : List String} {d : TableDefinition} (fits : d.Fits known) :
    d.entry.Consistent where
  distinctColumns := by
    have names :
        d.entry.columnNames = d.columns.map ColumnDefinition.name := by
      change (d.columns.map ColumnDefinition.clause).map _ = _
      rw [List.map_map]
      rfl
    rw [names]
    exact fits.columns.distinctNames
  ownKey := by
    intro columns isKey
    change d.primaryKey = some columns at isKey
    unfold TableDefinition.primaryKey at isKey
    simp only at isKey
    split at isKey
    · cases isKey
    · cases isKey
      exact hasColumns_chosen _ d
  ownUniques := by
    intro columns member
    rcases List.mem_append.mp member with own | wide
    · obtain ⟨c, chosen, rfl⟩ := List.mem_map.mp own
      exact hasColumns_one (List.mem_of_mem_filter chosen)
    · obtain ⟨names, _, rfl⟩ := List.mem_map.mp wide
      exact hasColumns_chosen _ d
  ownForeignKeys := by
    intro clause member
    obtain ⟨c, own, isReference⟩ := List.mem_filterMap.mp member
    obtain ⟨r, _, rfl⟩ := Option.map_eq_some_iff.mp isReference
    exact hasColumns_one own

theorem target_of_mem_references
    {known : List String} {d : TableDefinition} (fits : d.Fits known)
    {clause : ReferenceClause} (member : clause ∈ d.entry.foreignKeys) :
    clause.target ∈ known := by
  obtain ⟨c, own, isReference⟩ := List.mem_filterMap.mp member
  obtain ⟨r, isTarget, rfl⟩ := Option.map_eq_some_iff.mp isReference
  apply fits.columns.knownTargets c own r
  cases kind : c.kind with
  | primaryKey =>
      rw [kind] at isTarget
      cases isTarget
  | plain type =>
      rw [kind] at isTarget
      cases isTarget
  | reference other =>
      rw [kind] at isTarget
      cases isTarget
      rfl

/-! ## The whole script -/

section Rebuild

variable {c : Configuration} {start : Catalogue}

/-- The catalogue when the schemas are rebuilt and the declared tables are
gone. -/
def cleared (c : Configuration) (start : Catalogue) : Catalogue :=
  (start.rebuilt c.describedDatabase.schemas).remove fun name _ =>
    (c.tables.map TableDefinition.qualifiedName).contains name

theorem table?_cleared (c : Configuration) (start : Catalogue) :
    (cleared c start).table? = (start.remove c.removes).table? := by
  have bothRemovals :
      c.removes = fun name schema =>
        c.describedDatabase.schemas.contains schema ||
          (c.tables.map TableDefinition.qualifiedName).contains name := by
    funext name schema
    rw [contains_schemas]
    rfl
  have both := congrArg Catalogue.table?
    (Catalogue.remove_remove start
      (fun _ schema => c.describedDatabase.schemas.contains schema)
      (fun name _ =>
        (c.tables.map TableDefinition.qualifiedName).contains name))
  rw [bothRemovals]
  exact both

theorem hasSchema_cleared
    (c : Configuration) (start : Catalogue) (schema : String) :
    (cleared c start).hasSchema schema =
      (start.hasSchema schema || c.rebuilds schema) := by
  change
    (start.hasSchema schema ||
      c.describedDatabase.schemas.contains schema) = _
  rw [contains_schemas]

theorem table?_cleared_declared
    (start : Catalogue) {d : TableDefinition} (member : d ∈ c.tables) :
    (cleared c start).table? d.qualifiedName = none := by
  apply Catalogue.table?_remove_eq_none
  intro e _
  rw [List.contains_iff_mem]
  exact List.mem_map.mpr ⟨d, member, rfl⟩

theorem hasSchema_cleared_declared
    (wellFormed : start.WellFormed)
    {d : TableDefinition} (member : d ∈ c.tables) :
    (cleared c start).hasSchema d.schemaName = true := by
  rw [hasSchema_cleared]
  by_cases isPublic : d.schemaName = publicSchema
  · rw [isPublic, wellFormed.publicThere]
    rfl
  · have rebuilt : c.rebuilds d.schemaName = true := by
      unfold Configuration.rebuilds
      rw [Bool.and_eq_true, decide_eq_true_eq, List.any_eq_true]
      exact ⟨isPublic, d, member, by simp⟩
    rw [rebuilt, Bool.or_true]

/-- The catalogue after the whole script. -/
def afterScript (c : Configuration) (start : Catalogue) : Catalogue :=
  ((cleared c start).putAll
    ((declaredEntries c).map fun p => (p.1, p.2.unlinked))).putAll
      (declaredEntries c)

theorem map_fst_declaredEntries (c : Configuration) :
    (declaredEntries c).map Prod.fst =
      c.tables.map TableDefinition.qualifiedName := by
  unfold declaredEntries
  rw [List.map_map]
  rfl

theorem map_fst_unlinkedEntries (c : Configuration) :
    ((declaredEntries c).map fun p => (p.1, p.2.unlinked)).map Prod.fst =
      c.tables.map TableDefinition.qualifiedName := by
  rw [← map_fst_declaredEntries, List.map_map]
  rfl

/-- The script of a described database does not fail. -/
theorem replay_describedPlan (fits : c.Fits) (wellFormed : start.WellFormed) :
    start.replay (describedPlan c) = some (afterScript c start) := by
  have distinct : ((declaredEntries c).map Prod.fst).Nodup := by
    rw [map_fst_declaredEntries]
    exact fits.tables.distinctNames
  have schemas :=
    Catalogue.replay_rebuildSchemas wellFormed c.describedDatabase.schemas
  have dropped :
      (start.rebuilt c.describedDatabase.schemas).replay
          ((c.tables.map TableDefinition.qualifiedName).map .dropTable) =
        some (cleared c start) :=
    Catalogue.replay_dropTables _ _
  have consistent : ∀ p ∈ declaredEntries c, p.2.Consistent := by
    intro p member
    obtain ⟨d, declared, rfl⟩ := List.mem_map.mp member
    exact consistent_entry (fits.each d declared)
  have built :
      (cleared c start).replay
          ((declaredEntries c).flatMap fun p => p.2.building p.1) =
        some ((cleared c start).putAll
          ((declaredEntries c).map fun p => (p.1, p.2.unlinked))) := by
    apply Catalogue.replay_buildAll distinct
    · intro p member
      obtain ⟨d, declared, rfl⟩ := List.mem_map.mp member
      exact table?_cleared_declared start declared
    · intro p member
      obtain ⟨d, declared, rfl⟩ := List.mem_map.mp member
      rw [schemaOf_qualifiedName (fits.tables.noPoints d declared)]
      exact hasSchema_cleared_declared wellFormed declared
    · intro p member
      obtain ⟨d, declared, rfl⟩ := List.mem_map.mp member
      exact (schemaOf_qualifiedName (fits.tables.noPoints d declared)).symm
    · exact consistent
  have tableBuilt :
      ∀ p ∈ declaredEntries c,
        ((cleared c start).putAll
          ((declaredEntries c).map fun p => (p.1, p.2.unlinked))).table? p.1 =
          some p.2.unlinked := by
    intro p member
    have distinctUnlinked :
        (((declaredEntries c).map fun p => (p.1, p.2.unlinked)).map
          Prod.fst).Nodup := by
      rw [map_fst_unlinkedEntries]
      exact fits.tables.distinctNames
    exact Catalogue.table?_putAll_of_mem distinctUnlinked
      (List.mem_map.mpr ⟨p, member, rfl⟩)
  have linked :
      ((cleared c start).putAll
          ((declaredEntries c).map fun p => (p.1, p.2.unlinked))).replay
          ((declaredEntries c).flatMap fun p => p.2.linking p.1) =
        some (afterScript c start) := by
    -- A target may be declared later: all tables are built by now.
    apply Catalogue.replay_linkAll distinct tableBuilt consistent
    intro p member clause isForeignKey
    obtain ⟨d, declared, rfl⟩ := List.mem_map.mp member
    obtain ⟨target, targetDeclared, isTarget⟩ :=
      List.mem_map.mp
        (target_of_mem_references (fits.each d declared) isForeignKey)
    have there :=
      tableBuilt (target.qualifiedName, target.entry)
        (List.mem_map.mpr ⟨target, targetDeclared, rfl⟩)
    rw [← isTarget, there]
    rfl
  unfold describedPlan
  rw [List.append_assoc, List.append_assoc,
    Catalogue.replay_append_of_some schemas,
    Catalogue.replay_append_of_some dropped,
    Catalogue.replay_append_of_some built, linked]

/-- Tables that are not declared are as they are when the declared ones are
gone. -/
theorem table?_afterScript_of_not_declared
    {name : String}
    (other : name ∉ c.tables.map TableDefinition.qualifiedName) :
    (afterScript c start).table? name = (start.remove c.removes).table? name := by
  unfold afterScript
  rw [Catalogue.table?_putAll_of_not_mem, Catalogue.table?_putAll_of_not_mem,
    table?_cleared]
  · rw [map_fst_unlinkedEntries]
    exact other
  · rw [map_fst_declaredEntries]
    exact other

theorem hasSchema_afterScript (schema : String) :
    (afterScript c start).hasSchema schema =
      (start.hasSchema schema || c.rebuilds schema) := by
  unfold afterScript
  rw [Catalogue.hasSchema_putAll, Catalogue.hasSchema_putAll,
    hasSchema_cleared]

theorem rebuiltFrom_afterScript (fits : c.Fits) :
    c.RebuiltFrom start (afterScript c start) where
  declared := by
    intro d declared
    have distinct : ((declaredEntries c).map Prod.fst).Nodup := by
      rw [map_fst_declaredEntries]
      exact fits.tables.distinctNames
    exact Catalogue.table?_putAll_of_mem distinct
      (List.mem_map.mpr ⟨d, declared, rfl⟩)
  kept := by
    intro name e there stays
    have other : name ∉ c.tables.map TableDefinition.qualifiedName := by
      intro declared
      unfold Configuration.removes at stays
      rw [List.contains_iff_mem.mpr declared, Bool.or_true] at stays
      cases stays
    rw [table?_afterScript_of_not_declared other]
    exact Catalogue.table?_remove_of_stays there stays
  nothingElse := by
    intro name other goes
    rw [table?_afterScript_of_not_declared other]
    exact Catalogue.table?_remove_eq_none goes
  schemas := hasSchema_afterScript

theorem wellFormed_afterScript
    (fits : c.Fits) (wellFormed : start.WellFormed) :
    (afterScript c start).WellFormed where
  publicThere := by
    rw [hasSchema_afterScript, wellFormed.publicThere]
    rfl
  schemaThere := by
    intro name e there
    by_cases declared : name ∈ c.tables.map TableDefinition.qualifiedName
    · obtain ⟨d, member, rfl⟩ := List.mem_map.mp declared
      rw [(rebuiltFrom_afterScript fits).declared d member] at there
      cases there
      rw [hasSchema_afterScript, ← hasSchema_cleared]
      exact hasSchema_cleared_declared wellFormed member
    · rw [table?_afterScript_of_not_declared declared] at there
      have removed : (start.remove c.removes).WellFormed :=
        Catalogue.wellFormed_remove wellFormed
      have schemaThere : start.hasSchema e.schema = true :=
        removed.schemaThere name e there
      rw [hasSchema_afterScript, schemaThere]
      rfl

end Rebuild

/-- The statements of a database that is built from an accepted configuration
can be replayed in every well-formed catalogue.  They leave each declared table
as it is declared, and each table that does not have to go without the foreign
keys that point at tables that do. -/
theorem create_replays
    {v : Value} {c : Configuration} {d : Database} {start : Catalogue}
    (accepted : checkConfiguration v = .ok c)
    (built : (buildDatabase c).result = .ok d)
    (wellFormed : start.WellFormed) :
    ∃ statements after,
      plan d = .ok statements ∧
        create d = .ok (statements.map Statement.text) ∧
        start.replay statements = some after ∧
        c.RebuiltFrom start after ∧ after.WellFormed := by
  obtain ⟨configurationAccepted, _⟩ := checkConfiguration_ok accepted
  obtain ⟨fits, rfl⟩ :=
    (buildDatabase_eq_ok_iff configurationAccepted).mp built
  have planned := plan_describedDatabase c
  refine ⟨describedPlan c, afterScript c start, planned, ?_,
    replay_describedPlan fits wellFormed, rebuiltFrom_afterScript fits,
    wellFormed_afterScript fits wellFormed⟩
  unfold create
  rw [planned]
  rfl

def notes : Entry where
  schema := "public"
  columns := [⟨"order", .number, true, none, none⟩]
  primaryKey := none
  uniques := []
  foreignKeys := [⟨["order"], "sales.orders", ["id"], .cascade, .cascade⟩]

/-- A catalogue in which an earlier run has left a table of orders, and
somebody else has a table of notes. -/
def leftovers : Catalogue where
  hasSchema schema := schema = "public" || schema = "sales"
  table? name :=
    if name = "sales.orders" then some (.new "sales")
    else if name = "notes" then some notes
    else none

theorem leftovers_wellFormed : leftovers.WellFormed where
  publicThere := rfl
  schemaThere := by
    intro name e there
    change
      (if name = "sales.orders" then some (.new "sales")
        else if name = "notes" then some notes else none) = some e at there
    split at there
    · cases there
      rfl
    · split at there
      · cases there
        rfl
      · cases there

/-- The script of the shop can be replayed over the leftovers: the notes stay
and no longer point at the orders. -/
theorem shop_create_replays :
    checkConfiguration shopValue = .ok shop ∧ leftovers.WellFormed ∧
      ∃ d statements after,
        (buildDatabase shop).result = .ok d ∧
          plan d = .ok statements ∧
          leftovers.replay statements = some after ∧
          after.table? "notes" = some { notes with foreignKeys := [] } := by
  obtain ⟨d, built⟩ := shop_built
  obtain ⟨statements, after, planned, _, replayed, rebuilt, _⟩ :=
    create_replays shop_accepted built leftovers_wellFormed
  refine ⟨shop_accepted, leftovers_wellFormed, d, statements, after, built,
    planned, replayed, ?_⟩
  have stays : shop.removes "notes" notes.schema = false := by decide +kernel
  have lost :
      notes.withoutTargets (leftovers.loses shop.removes) =
        { notes with foreignKeys := [] } := by
    decide +kernel
  rw [rebuilt.kept "notes" notes rfl stays, lost]

end Tablesmith.Sql

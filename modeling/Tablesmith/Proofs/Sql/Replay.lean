import Mathlib.Data.List.Nodup
import Tablesmith.Proofs.Sql.Catalogue
import Tablesmith.Sql.Plan

/-!
# Replaying the passes of a plan

What each pass of a plan makes of a catalogue: the schemas are there and
empty, the declared tables are gone, each table is built without foreign keys,
and then the foreign keys are added.  No statement of a pass fails if the
passes before it have done their work.
-/

namespace Tablesmith.Sql

open Tablesmith.Schema

namespace Catalogue

/-! ## Schemas and old tables -/

/-- The catalogue with schemas that are there and empty. -/
def rebuilt (c : Catalogue) (schemas : List String) : Catalogue :=
  { c.remove fun _ schema => schemas.contains schema with
    hasSchema := fun schema =>
      c.hasSchema schema || schemas.contains schema }

theorem rebuilt_nil (c : Catalogue) : c.rebuilt [] = c := by
  have nothing :
      c.remove (fun _ schema => ([] : List String).contains schema) = c :=
    remove_eq_self fun _ _ _ => rfl
  refine Catalogue.ext ?_ ?_
  · funext schema
    simp [rebuilt]
  · unfold rebuilt
    rw [nothing]

theorem rebuilt_rebuilt (c : Catalogue) (first later : List String) :
    (c.rebuilt first).rebuilt later = c.rebuilt (first ++ later) := by
  have bothSchemas :
      (fun (_ : String) schema => (first ++ later).contains schema) =
        fun _ schema => first.contains schema || later.contains schema := by
    funext _ schema
    simp
  have both := remove_remove c (fun _ schema => first.contains schema)
    (fun _ schema => later.contains schema)
  unfold rebuilt
  rw [bothSchemas, ← both]
  refine Catalogue.ext ?_ rfl
  funext schema
  simp [Bool.or_assoc]

theorem wellFormed_rebuilt
    {c : Catalogue} (wellFormed : c.WellFormed) (schemas : List String) :
    (c.rebuilt schemas).WellFormed where
  publicThere := by
    simp [rebuilt, wellFormed.publicThere]
  schemaThere := by
    intro name left there
    have removed :
        (c.remove fun _ schema => schemas.contains schema).WellFormed :=
      wellFormed_remove wellFormed
    have schemaThere : c.hasSchema left.schema = true :=
      removed.schemaThere name left there
    simp [rebuilt, schemaThere]

/-- A schema is rebuilt, whether it was there or not. -/
theorem replay_rebuildSchema
    {c : Catalogue} (wellFormed : c.WellFormed) (schema : String) :
    c.replay (rebuildSchema schema) = some (c.rebuilt [schema]) := by
  have onlyOne :
      (fun (_ : String) (other : String) => [schema].contains other) =
        fun _ other => decide (other = schema) := by
    funext _ other
    simp
  have created (there : Bool) :
      (fun other =>
        if other = schema then true
        else if other = schema then there else c.hasSchema other) =
        fun other => c.hasSchema other || [schema].contains other := by
    funext other
    by_cases same : other = schema
    · simp [same]
    · simp [same]
  unfold rebuildSchema rebuilt
  rw [onlyOne]
  cases there : c.hasSchema schema with
  | true =>
      simp only [replay, apply, there, if_true, Option.bind_some, setSchema,
        Bool.false_eq_true, if_false]
      exact congrArg some (Catalogue.ext (created false) rfl)
  | false =>
      have stay :
          ∀ name e, c.table? name = some e →
            decide (e.schema = schema) = false := by
        intro name e found
        rw [decide_eq_false_iff_not]
        rintro rfl
        rw [wellFormed.schemaThere name e found] at there
        cases there
      rw [remove_eq_self stay]
      simp only [replay, apply, there, Bool.false_eq_true, if_false,
        Option.bind_some, setSchema]
      refine congrArg some (Catalogue.ext ?_ rfl)
      rw [← created false]
      funext other
      by_cases same : other = schema
      · simp [same]
      · simp [same]

theorem replay_rebuildSchemas
    {c : Catalogue} (wellFormed : c.WellFormed) (schemas : List String) :
    c.replay (schemas.flatMap rebuildSchema) = some (c.rebuilt schemas) := by
  induction schemas generalizing c with
  | nil => rw [List.flatMap_nil, rebuilt_nil, replay]
  | cons schema rest inductionHypothesis =>
      rw [List.flatMap_cons,
        replay_append_of_some (replay_rebuildSchema wellFormed schema),
        inductionHypothesis (wellFormed_rebuilt wellFormed [schema]),
        rebuilt_rebuilt, List.singleton_append]

theorem replay_dropTables (c : Catalogue) (names : List String) :
    c.replay (names.map Statement.dropTable) =
      some (c.remove fun name _ => names.contains name) := by
  induction names generalizing c with
  | nil =>
      rw [List.map_nil, replay, remove_eq_self]
      exact fun _ _ _ => rfl
  | cons name rest inductionHypothesis =>
      have both :
          (fun (other : String) (_ : String) => (name :: rest).contains other) =
            fun other _ => decide (other = name) || rest.contains other := by
        funext other _
        rw [List.contains_cons]
        rfl
      rw [List.map_cons, replay, apply, Option.bind_some, inductionHypothesis,
        remove_remove, both]

end Catalogue

/-! ## Entries as statements -/

namespace Entry

/-- The constraints of a table are over its columns, whose names are
different. -/
structure Consistent (e : Entry) : Prop where
  distinctColumns : e.columnNames.Nodup
  ownKey : ∀ columns, e.primaryKey = some columns → e.hasColumns columns = true
  ownUniques : ∀ columns ∈ e.uniques, e.hasColumns columns = true
  ownForeignKeys : ∀ r ∈ e.foreignKeys, e.hasColumns r.columns = true

def unlinked (e : Entry) : Entry :=
  { e with foreignKeys := [] }

/-- The statements that build a table without foreign keys. -/
def building (name : String) (e : Entry) : List Statement :=
  .createTable name :: e.columns.map (.addColumn name) ++
    e.primaryKey.toList.map (.addPrimaryKey name) ++
    e.uniques.map (.addUnique name)

/-- The statements that add the foreign keys of a table. -/
def linking (name : String) (e : Entry) : List Statement :=
  e.foreignKeys.map (.addForeignKey name)

end Entry

namespace Catalogue

section Put

variable {c : Catalogue} {name : String} {e : Entry}

@[simp]
theorem table?_put_self (c : Catalogue) (name : String) (e : Entry) :
    (c.put name e).table? name = some e :=
  if_pos rfl

theorem table?_put_of_ne
    {other : String} (different : other ≠ name) :
    (c.put name e).table? other = c.table? other :=
  if_neg different

@[simp]
theorem hasSchema_put (c : Catalogue) (name : String) (e : Entry) :
    (c.put name e).hasSchema = c.hasSchema := rfl

@[simp]
theorem put_put (c : Catalogue) (name : String) (first later : Entry) :
    (c.put name first).put name later = c.put name later := by
  refine Catalogue.ext rfl ?_
  funext other
  by_cases same : other = name
  · simp [put, same]
  · simp [put, same]

theorem put_eq_self (there : c.table? name = some e) : c.put name e = c := by
  refine Catalogue.ext rfl ?_
  funext other
  by_cases same : other = name
  · rw [same, table?_put_self, there]
  · exact table?_put_of_ne same

theorem alter_put
    {change : Entry → Option Entry} {changed : Entry}
    (changes : change e = some changed) :
    (c.put name e).alter name change = some (c.put name changed) := by
  unfold alter
  rw [table?_put_self]
  simp [changes]

end Put

/-! ## Building a table -/

section Build

variable {c : Catalogue} {name : String} {e : Entry}

theorem replay_addColumns
    {clauses : List ColumnClause}
    (distinct : (e.columnNames ++ clauses.map ColumnClause.name).Nodup) :
    (c.put name e).replay (clauses.map (.addColumn name)) =
      some (c.put name { e with columns := e.columns ++ clauses }) := by
  induction clauses generalizing e with
  | nil => simp [replay]
  | cons clause rest inductionHypothesis =>
      have fresh : clause.name ∉ e.columnNames := by
        rw [List.map_cons, List.nodup_middle, List.nodup_cons] at distinct
        exact fun taken => distinct.1 (List.mem_append_left _ taken)
      have changes :
          addColumn clause e =
            some { e with columns := e.columns ++ [clause] } := by
        simp [addColumn, fresh]
      have distinctRest :
          (({ e with columns := e.columns ++ [clause] } : Entry).columnNames ++
            rest.map ColumnClause.name).Nodup := by
        simpa [Entry.columnNames] using distinct
      rw [List.map_cons, replay, apply, alter_put changes, Option.bind_some,
        inductionHypothesis distinctRest]
      simp

theorem replay_addPrimaryKey
    {key : Option (List String)}
    (own : ∀ columns, key = some columns → e.hasColumns columns = true)
    (keyless : e.primaryKey = none) :
    (c.put name e).replay (key.toList.map (.addPrimaryKey name)) =
      some (c.put name { e with primaryKey := key }) := by
  cases key with
  | none =>
      have same : { e with primaryKey := none } = e := by
        rw [← keyless]
      rw [same]
      rfl
  | some columns =>
      have changes :
          addPrimaryKey columns e =
            some { e with primaryKey := some columns } := by
        simp [addPrimaryKey, own columns rfl, keyless]
      simp only [Option.toList_some, List.map_cons, List.map_nil]
      rw [replay, apply, alter_put changes]
      rfl

theorem replay_addUniques
    {uniques : List (List String)}
    (own : ∀ columns ∈ uniques, e.hasColumns columns = true) :
    (c.put name e).replay (uniques.map (.addUnique name)) =
      some (c.put name { e with uniques := e.uniques ++ uniques }) := by
  induction uniques generalizing e with
  | nil => simp [replay]
  | cons columns rest inductionHypothesis =>
      have changes :
          addUnique columns e =
            some { e with uniques := e.uniques ++ [columns] } := by
        simp [addUnique, own columns List.mem_cons_self]
      have ownRest :
          ∀ other ∈ rest,
            ({ e with uniques := e.uniques ++ [columns] } : Entry).hasColumns
              other = true :=
        fun other member => own other (List.mem_cons_of_mem _ member)
      rw [List.map_cons, replay, apply, alter_put changes, Option.bind_some,
        inductionHypothesis ownRest]
      simp

/-- A table that is not there is built in a schema that is there. -/
theorem replay_building
    (absent : c.table? name = none)
    (schemaThere : c.hasSchema (schemaOf name) = true)
    (sameSchema : e.schema = schemaOf name)
    (consistent : e.Consistent) :
    c.replay (e.building name) = some (c.put name e.unlinked) := by
  have created :
      c.replay [.createTable name] =
        some (c.put name (.new (schemaOf name))) := by
    simp [replay, apply, absent, schemaThere]
  have columns :
      (c.put name (.new (schemaOf name))).replay
          (e.columns.map (.addColumn name)) =
        some (c.put name
          { Entry.new (schemaOf name) with columns := [] ++ e.columns }) :=
    replay_addColumns consistent.distinctColumns
  have key :
      (c.put name
          { Entry.new (schemaOf name) with columns := e.columns }).replay
          (e.primaryKey.toList.map (.addPrimaryKey name)) =
        some (c.put name
          { Entry.new (schemaOf name) with
            columns := e.columns
            primaryKey := e.primaryKey }) :=
    replay_addPrimaryKey consistent.ownKey rfl
  have uniques :
      (c.put name
          { Entry.new (schemaOf name) with
            columns := e.columns
            primaryKey := e.primaryKey }).replay
          (e.uniques.map (.addUnique name)) =
        some (c.put name
          { Entry.new (schemaOf name) with
            columns := e.columns
            primaryKey := e.primaryKey
            uniques := [] ++ e.uniques }) :=
    replay_addUniques consistent.ownUniques
  have whole :
      ({ Entry.new (schemaOf name) with
        columns := e.columns
        primaryKey := e.primaryKey
        uniques := e.uniques } : Entry) = e.unlinked := by
    rw [← sameSchema]
    rfl
  rw [List.nil_append] at columns uniques
  unfold Entry.building
  rw [← List.singleton_append, List.append_assoc, List.append_assoc,
    replay_append_of_some created, replay_append_of_some columns,
    replay_append_of_some key, uniques, whole]

/-- Foreign keys are added once the tables that they point at are there. -/
theorem replay_addForeignKeys
    {clauses : List ReferenceClause}
    (own : ∀ r ∈ clauses, e.hasColumns r.columns = true)
    (targets : ∀ r ∈ clauses, ∀ e, ((c.put name e).table? r.target).isSome) :
    (c.put name e).replay (clauses.map (.addForeignKey name)) =
      some (c.put name { e with foreignKeys := e.foreignKeys ++ clauses }) := by
  induction clauses generalizing e with
  | nil => simp [replay]
  | cons clause rest inductionHypothesis =>
      have changes :
          addForeignKey clause e =
            some { e with foreignKeys := e.foreignKeys ++ [clause] } := by
        simp [addForeignKey, own clause List.mem_cons_self]
      have ownRest :
          ∀ other ∈ rest,
            ({ e with foreignKeys := e.foreignKeys ++ [clause] } :
              Entry).hasColumns other.columns = true :=
        fun other member => own other (List.mem_cons_of_mem _ member)
      have targetsRest :
          ∀ other ∈ rest, ∀ e, ((c.put name e).table? other.target).isSome :=
        fun other member => targets other (List.mem_cons_of_mem _ member)
      rw [List.map_cons, replay, apply,
        if_pos (targets clause List.mem_cons_self e), alter_put changes,
        Option.bind_some, inductionHypothesis ownRest targetsRest]
      simp

/-- A table that is built without foreign keys is linked. -/
theorem replay_linking
    (built : c.table? name = some e.unlinked)
    (consistent : e.Consistent)
    (targets : ∀ r ∈ e.foreignKeys, (c.table? r.target).isSome) :
    c.replay (e.linking name) = some (c.put name e) := by
  have targetsLater :
      ∀ r ∈ e.foreignKeys, ∀ other,
        ((c.put name other).table? r.target).isSome := by
    intro r member other
    by_cases same : r.target = name
    · rw [same, table?_put_self]
      rfl
    · rw [table?_put_of_ne same]
      exact targets r member
  have linked :
      (c.put name e.unlinked).replay
          (e.foreignKeys.map (.addForeignKey name)) =
        some (c.put name
          { e.unlinked with foreignKeys := [] ++ e.foreignKeys }) :=
    replay_addForeignKeys consistent.ownForeignKeys targetsLater
  rw [put_eq_self built] at linked
  exact linked

end Build

/-! ## Building all tables -/

/-- What is known about several tables from now on. -/
def putAll (c : Catalogue) (entries : List (String × Entry)) : Catalogue :=
  entries.foldl (fun reached p => reached.put p.1 p.2) c

theorem putAll_cons
    (c : Catalogue) (p : String × Entry) (rest : List (String × Entry)) :
    c.putAll (p :: rest) = (c.put p.1 p.2).putAll rest := rfl

@[simp]
theorem hasSchema_putAll
    (c : Catalogue) (entries : List (String × Entry)) :
    (c.putAll entries).hasSchema = c.hasSchema := by
  induction entries generalizing c with
  | nil => rfl
  | cons p rest inductionHypothesis =>
      rw [putAll_cons, inductionHypothesis, hasSchema_put]

section PutAll

variable {c : Catalogue} {entries : List (String × Entry)}

theorem table?_putAll_of_not_mem
    {name : String} (other : name ∉ entries.map Prod.fst) :
    (c.putAll entries).table? name = c.table? name := by
  induction entries generalizing c with
  | nil => rfl
  | cons p rest inductionHypothesis =>
      rw [List.map_cons, List.mem_cons, not_or] at other
      rw [putAll_cons, inductionHypothesis other.2, table?_put_of_ne other.1]

theorem table?_putAll_of_mem
    (distinct : (entries.map Prod.fst).Nodup)
    {p : String × Entry} (member : p ∈ entries) :
    (c.putAll entries).table? p.1 = some p.2 := by
  induction entries generalizing c with
  | nil => cases member
  | cons head rest inductionHypothesis =>
      rw [List.map_cons, List.nodup_cons] at distinct
      rw [putAll_cons]
      rcases List.mem_cons.mp member with rfl | later
      · rw [table?_putAll_of_not_mem distinct.1, table?_put_self]
      · exact inductionHypothesis distinct.2 later

/-- Tables that are not there are built one after the other. -/
theorem replay_buildAll
    (distinct : (entries.map Prod.fst).Nodup)
    (absent : ∀ p ∈ entries, c.table? p.1 = none)
    (schemaThere : ∀ p ∈ entries, c.hasSchema (schemaOf p.1) = true)
    (sameSchema : ∀ p ∈ entries, p.2.schema = schemaOf p.1)
    (consistent : ∀ p ∈ entries, p.2.Consistent) :
    c.replay (entries.flatMap fun p => p.2.building p.1) =
      some (c.putAll (entries.map fun p => (p.1, p.2.unlinked))) := by
  induction entries generalizing c with
  | nil => rfl
  | cons p rest inductionHypothesis =>
      rw [List.map_cons, List.nodup_cons] at distinct
      have here := List.mem_cons_self (a := p) (l := rest)
      have absentLater :
          ∀ other ∈ rest,
            (c.put p.1 p.2.unlinked).table? other.1 = none := by
        intro other member
        have different : other.1 ≠ p.1 := by
          intro same
          exact distinct.1
            (List.mem_map.mpr ⟨other, member, same⟩)
        rw [table?_put_of_ne different]
        exact absent other (List.mem_cons_of_mem _ member)
      rw [List.flatMap_cons,
        replay_append_of_some
          (replay_building (absent p here) (schemaThere p here)
            (sameSchema p here) (consistent p here)),
        inductionHypothesis distinct.2 absentLater
          (fun other member =>
            schemaThere other (List.mem_cons_of_mem _ member))
          (fun other member =>
            sameSchema other (List.mem_cons_of_mem _ member))
          (fun other member =>
            consistent other (List.mem_cons_of_mem _ member))]
      rfl

/-- Tables that are built without foreign keys are linked one after the
other. -/
theorem replay_linkAll
    (distinct : (entries.map Prod.fst).Nodup)
    (built : ∀ p ∈ entries, c.table? p.1 = some p.2.unlinked)
    (consistent : ∀ p ∈ entries, p.2.Consistent)
    (targets :
      ∀ p ∈ entries, ∀ r ∈ p.2.foreignKeys, (c.table? r.target).isSome) :
    c.replay (entries.flatMap fun p => p.2.linking p.1) =
      some (c.putAll entries) := by
  induction entries generalizing c with
  | nil => rfl
  | cons p rest inductionHypothesis =>
      rw [List.map_cons, List.nodup_cons] at distinct
      have here := List.mem_cons_self (a := p) (l := rest)
      have builtLater :
          ∀ other ∈ rest,
            (c.put p.1 p.2).table? other.1 = some other.2.unlinked := by
        intro other member
        have different : other.1 ≠ p.1 := by
          intro same
          exact distinct.1
            (List.mem_map.mpr ⟨other, member, same⟩)
        rw [table?_put_of_ne different]
        exact built other (List.mem_cons_of_mem _ member)
      have targetsLater :
          ∀ other ∈ rest, ∀ r ∈ other.2.foreignKeys,
            ((c.put p.1 p.2).table? r.target).isSome := by
        intro other member r isForeignKey
        by_cases same : r.target = p.1
        · rw [same, table?_put_self]
          rfl
        · rw [table?_put_of_ne same]
          exact targets other (List.mem_cons_of_mem _ member) r isForeignKey
      rw [List.flatMap_cons,
        replay_append_of_some
          (replay_linking (built p here) (consistent p here)
            (targets p here)),
        inductionHypothesis distinct.2 builtLater
          (fun other member =>
            consistent other (List.mem_cons_of_mem _ member))
          targetsLater]
      rfl

end PutAll

end Catalogue

end Tablesmith.Sql

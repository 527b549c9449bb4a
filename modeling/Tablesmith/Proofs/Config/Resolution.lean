import Tablesmith.Proofs.Config.Buildable
import Tablesmith.Proofs.Schema.Lookup

/-!
# Resolving the names of tables

A reference gives a table by its qualified name, and the public schema may be
named in front of it.  That schema is taken off as a text, so that a table is
reached by its own qualified name exactly if its schema does not begin with
the public one and a point.
-/

namespace Tablesmith.Config

open Tablesmith.Log Tablesmith.Schema Tablesmith.Sql

/-- Among the tables of definitions, every reference by the given text, from
wherever it is made, is resolved to the name of this table. -/
def Reaches
    (definitions : List TableDefinition) (d : Database) (text : String)
    (t : Table) :
    Prop :=
  ∀ (source : Value) (r : ReferenceDefinition), r.table = text →
    ∃ target,
      resolveTable (knownNames definitions) source r = .ok target ∧
        d.table? target = some t

/-! ## The tables that are declared -/

section Made

variable {before after : Database} {definitions : List TableDefinition}

/-- Making the tables of definitions is a session that declares them. -/
theorem afterSteps_of_makeTables
    (made : (makeTables before definitions).result = .ok after) :
    after =
      before.afterSteps
        (definitions.map fun d => .declare (.text d.name) d.schema) := by
  induction definitions generalizing before with
  | nil =>
      cases made
      rfl
  | cons d rest inductionHypothesis =>
      rw [makeTables] at made
      obtain ⟨next, added, others⟩ := result_bind_eq_ok_iff.mp made
      obtain ⟨_, _, others⟩ := result_bind_eq_ok_iff.mp others
      rw [Logged.result_ofResult] at added
      have declared :
          before.perform (.declare (.text d.name) d.schema) = next :=
        Database.perform_of_addTable added
      rw [inductionHypothesis others, ← declared]
      rfl

theorem qualifiedName_nextTable (d : Database) (definition : TableDefinition) :
    (d.nextTable (.text definition.name) definition.schema).qualifiedName =
      .text definition.qualifiedName := by
  unfold Database.nextTable
  rw [TableDefinition.empty_eq_table, TableDefinition.qualifiedName_table]
  rfl

/-- The tables have the qualified names of their definitions, in order. -/
theorem qualifiedNames_of_makeTables
    (made : (makeTables before definitions).result = .ok after) :
    after.tables.map Table.qualifiedName =
      before.tables.map Table.qualifiedName ++
        (definitions.map TableDefinition.qualifiedName).map Value.text := by
  induction definitions generalizing before with
  | nil =>
      cases made
      exact (List.append_nil _).symm
  | cons d rest inductionHypothesis =>
      rw [makeTables] at made
      obtain ⟨next, added, others⟩ := result_bind_eq_ok_iff.mp made
      obtain ⟨_, _, others⟩ := result_bind_eq_ok_iff.mp others
      rw [Logged.result_ofResult] at added
      obtain ⟨rfl, _⟩ := Database.addTable_eq_ok added
      rw [inductionHypothesis others, List.map_append, List.map_singleton,
        qualifiedName_nextTable, List.append_assoc]
      rfl

/-- What the declarations of a session leave holds of the tables that are
made. -/
theorem registered_of_makeTables
    (made : (makeTables .empty definitions).result = .ok after) :
    after.Registered ∧ ∀ t ∈ after.tables, t.HasPlainName := by
  have named :
      ∀ step ∈ definitions.map fun d =>
          Step.declare (.text d.name) d.schema,
        step.HasTextName := by
    rw [List.forall_mem_map]
    intro d _
    exact ⟨d.name, rfl⟩
  rw [afterSteps_of_makeTables made]
  exact ⟨Database.registered_afterSteps named,
    Database.hasPlainName_afterSteps named⟩

end Made

/-! ## The public schema in front of a name -/

/-- A schema other than the public one brings the public one and a point to the
front of a qualified name only if it begins with them itself. -/
theorem exists_public_pointed_iff
    {schema name : String} (notPublic : schema ≠ publicSchema) :
    (∃ rest, schema ++ "." ++ name = publicSchema ++ "." ++ rest) ↔
      ∃ rest, schema = publicSchema ++ "." ++ rest := by
  constructor
  · rintro ⟨rest, same⟩
    have noPoint : '.' ∉ publicSchema.toList := by decide
    have characters (first last : String) :
        (first ++ "." ++ last).toList =
          first.toList ++ '.' :: last.toList := by
      simp
    have sameCharacters := congrArg String.toList same
    rw [characters, characters] at sameCharacters
    by_cases pointed : '.' ∈ schema.toList
    · -- The first point of the schema is the one behind the public schema.
      obtain ⟨first, last, split, firstNoPoint⟩ :=
        List.eq_append_cons_of_mem pointed
      rw [split, List.append_assoc, List.cons_append] at sameCharacters
      obtain ⟨isPublic, _⟩ :=
        Text.append_mark_inj firstNoPoint noPoint sameCharacters
      refine ⟨String.ofList last, String.toList_injective ?_⟩
      rw [split, isPublic, characters, String.toList_ofList]
    · obtain ⟨isPublic, _⟩ :=
        Text.append_mark_inj pointed noPoint sameCharacters
      exact absurd (String.toList_injective isPublic) notPublic
  · rintro ⟨rest, rfl⟩
    exact ⟨rest ++ "." ++ name, by simp [String.append_assoc]⟩

/-! ## Which names reach a table -/

section Reached

variable {definitions : List TableDefinition} {d : Database} {t : Table}
variable (made : (makeTables .empty definitions).result = .ok d)

include made

/-- The loader knows exactly the tables that are made, by their qualified
names. -/
theorem mem_knownNames_iff {name : String} :
    name ∈ knownNames definitions ↔
      ∃ t ∈ d.tables, t.qualifiedName = .text name := by
  have sameNames :
      d.tables.map Table.qualifiedName =
        (definitions.map TableDefinition.qualifiedName).map Value.text :=
    qualifiedNames_of_makeTables made
  rw [knownNames_eq, ← List.mem_map_of_injective Value.text_injective,
    ← sameNames, List.mem_map]

/-- A reference is resolved to the name of a table exactly if that is what is
left of its text. -/
theorem resolves_iff {source : Value} {r : ReferenceDefinition} :
    (∃ target,
        resolveTable (knownNames definitions) source r = .ok target ∧
          d.table? target = some t) ↔
      t ∈ d.tables ∧ t.qualifiedName = .text r.tableName := by
  obtain ⟨registered, _⟩ := registered_of_makeTables made
  constructor
  · rintro ⟨target, resolved, found⟩
    obtain ⟨_, rfl⟩ := resolveTable_eq_ok_iff.mp resolved
    exact (Database.table?_eq_some_iff registered).mp found
  · rintro ⟨member, named⟩
    have isKnown := (mem_knownNames_iff made).mpr ⟨t, member, named⟩
    exact ⟨_, resolveTable_eq_ok_iff.mpr ⟨isKnown, rfl⟩,
      (Database.table?_eq_some_iff registered).mpr ⟨member, named⟩⟩

/-- A text that begins with the public schema reaches the table that is named
by the rest of it. -/
theorem reaches_pointed_iff (rest : String) :
    Reaches definitions d (publicSchema ++ "." ++ rest) t ↔
      t ∈ d.tables ∧ t.qualifiedName = .text rest := by
  constructor
  · intro reaches
    let r : ReferenceDefinition :=
      ⟨publicSchema ++ "." ++ rest, none, .cascade, .cascade⟩
    have left : r.tableName = rest :=
      ReferenceDefinition.tableName_of_public rfl
    rw [← left]
    exact (resolves_iff made).mp (reaches .null r rfl)
  · intro there source r sameText
    rw [resolves_iff made,
      ReferenceDefinition.tableName_of_public sameText]
    exact there

/-- Any other text reaches the table that has it as its qualified name. -/
theorem reaches_other_iff
    {text : String} (other : ∀ rest, text ≠ publicSchema ++ "." ++ rest) :
    Reaches definitions d text t ↔
      t ∈ d.tables ∧ t.qualifiedName = .text text := by
  constructor
  · intro reaches
    let r : ReferenceDefinition := ⟨text, none, .cascade, .cascade⟩
    have left : r.tableName = text :=
      ReferenceDefinition.tableName_of_other other
    rw [← left]
    exact (resolves_iff made).mp (reaches .null r rfl)
  · intro there source r sameText
    rw [resolves_iff made,
      ReferenceDefinition.tableName_of_other (sameText ▸ other), sameText]
    exact there

/-- A table is reached by its qualified name exactly if its schema does not
begin with the public one and a point. -/
theorem reaches_qualifiedName_iff
    (plain : t.HasPlainName) (member : t ∈ d.tables)
    {text : String} (qualified : t.qualifiedName = .text text) :
    Reaches definitions d text t ↔
      ∀ rest, t.schema ≠ publicSchema ++ "." ++ rest := by
  obtain ⟨name, isName, _, noPoint⟩ := plain
  have isText : text =
      if t.schema = publicSchema then name else t.schema ++ "." ++ name := by
    rw [← Value.text.injEq, ← qualified, ← qualify_text, ← isName]
    rfl
  have samePrefix :
      (∃ rest, text = publicSchema ++ "." ++ rest) ↔
        ∃ rest, t.schema = publicSchema ++ "." ++ rest := by
    by_cases isPublic : t.schema = publicSchema
    · rw [isText, if_pos isPublic, isPublic]
      refine iff_of_false ?_ ?_
      · rintro ⟨rest, same⟩
        exact ne_pointed noPoint same.symm
      · rintro ⟨rest, same⟩
        exact ne_pointed (by decide) same.symm
    · rw [isText, if_neg isPublic]
      exact exists_public_pointed_iff isPublic
  rw [← not_exists, ← samePrefix, not_exists]
  constructor
  · rintro reaches rest rfl
    -- What is left of the text is shorter than the text.
    have left := ((reaches_pointed_iff made _).mp reaches).2
    rw [qualified, Value.text.injEq] at left
    have lengths := congrArg String.length left
    simp at lengths
  · intro other
    exact (reaches_other_iff made other).mpr ⟨member, qualified⟩

/-- A table of the public schema is reached by its name, with the schema and
without it. -/
theorem reaches_of_public
    (plain : t.HasPlainName) (member : t ∈ d.tables)
    (isPublic : t.schema = publicSchema)
    {name : String} (isName : t.name = .text name) :
    Reaches definitions d name t ∧
      Reaches definitions d (publicSchema ++ "." ++ name) t := by
  have qualified : t.qualifiedName = .text name := by
    unfold Table.qualifiedName
    rw [isPublic, isName, qualify_text, if_pos rfl]
  refine ⟨?_, (reaches_pointed_iff made _).mpr ⟨member, qualified⟩⟩
  rw [reaches_qualifiedName_iff made plain member qualified, isPublic]
  intro rest same
  exact ne_pointed (by decide) same.symm

end Reached

/-- The tables of a configuration have the qualified names of their
definitions.  A table is reached by this name exactly if its schema does not
begin with the public one and a point; and a table of the public schema is
reached by its own name, with the schema and without it. -/
theorem reaches_declared_iff
    {c : Configuration} {d : Database}
    (made : (makeTables .empty c.tables).result = .ok d) :
    d.tables.map Table.qualifiedName =
        (c.tables.map TableDefinition.qualifiedName).map Value.text ∧
      ∀ t ∈ d.tables,
        (∀ text, t.qualifiedName = .text text →
          (Reaches c.tables d text t ↔
            ∀ rest, t.schema ≠ publicSchema ++ "." ++ rest)) ∧
        (t.schema = publicSchema → ∀ name, t.name = .text name →
          Reaches c.tables d name t ∧
            Reaches c.tables d (publicSchema ++ "." ++ name) t) := by
  obtain ⟨_, plain⟩ := registered_of_makeTables made
  refine ⟨qualifiedNames_of_makeTables made, ?_⟩
  intro t member
  refine ⟨?_, ?_⟩
  · intro text qualified
    exact reaches_qualifiedName_iff made (plain t member) member qualified
  · intro isPublic name isName
    exact reaches_of_public made (plain t member) member isPublic isName

/-- The orders of the shop are reached by their qualified name, and its buyers
with the public schema in front of theirs. -/
theorem reaches_of_shop :
    (makeTables .empty shop.tables).result =
        .ok (startedDatabase shop.tables) ∧
      ∃ buyers orders,
        (startedDatabase shop.tables).tables = [buyers, orders] ∧
          Reaches shop.tables (startedDatabase shop.tables) "public.buyers"
            buyers ∧
          Reaches shop.tables (startedDatabase shop.tables) "sales.orders"
            orders := by
  have distinct :
      (([] : List TableDefinition).map TableDefinition.qualifiedName).Nodup :=
    List.nodup_nil
  have fits : TablesFit [] shop.tables := ⟨by decide, by decide⟩
  have made :
      (makeTables .empty shop.tables).result =
        .ok (startedDatabase shop.tables) :=
    (makeTables_eq_ok_iff distinct (by decide)).mpr ⟨fits, rfl⟩
  obtain ⟨_, reached⟩ := reaches_declared_iff made
  let buyers := (shop.tables[0].withColumns []).table (.declared 0)
  let orders := (shop.tables[1].withColumns []).table (.declared 1)
  have tables : (startedDatabase shop.tables).tables = [buyers, orders] := rfl
  refine ⟨made, buyers, orders, tables, ?_, ?_⟩
  · exact ((reached buyers (by simp [tables])).2 rfl "buyers" rfl).2
  · apply ((reached orders (by simp [tables])).1 "sales.orders" rfl).mpr
    intro rest same
    have sameSchema : "sales" = publicSchema ++ "." ++ rest := same
    have firsts := congrArg (fun text => text.toList.head?) sameSchema
    simp [publicSchema] at firsts

/-- Users of two schemas, one of which is named as the other with the public
one in front, as a value; and posts that point at users. -/
def dottedValue : Value :=
  .dict [(.text "tables", .list [
    .dict [
      (.text "name", .text "users"),
      (.text "schema", .text "public.auth"),
      (.text "columns", .list [
        .dict [(.text "name", .text "id"), (.text "type", .text "primary_key")]])],
    .dict [
      (.text "name", .text "users"),
      (.text "schema", .text "auth"),
      (.text "columns", .list [
        .dict [(.text "name", .text "id"), (.text "type", .text "primary_key")]])],
    .dict [
      (.text "name", .text "posts"),
      (.text "columns", .list [
        .dict [
          (.text "name", .text "author"),
          (.text "type", .text "reference"),
          (.text "references", .dict [
            (.text "table", .text "public.auth.users"),
            (.text "column", .text "id")])]])]])]

def dotted : Configuration where
  dialect := .postgresql
  sqlOutput := none
  typesOutput := none
  database := none
  tables := [
    { name := "users"
      schema := some "public.auth"
      columns := [⟨"id", .primaryKey, true, false, none, none⟩]
      unique := [] },
    { name := "users"
      schema := some "auth"
      columns := [⟨"id", .primaryKey, true, false, none, none⟩]
      unique := [] },
    { name := "posts"
      schema := none
      columns := [
        ⟨"author",
          .reference ⟨"public.auth.users", some "id", .cascade, .cascade⟩,
          true, false, none, none⟩]
      unique := [] }]

/-- Not every table of an accepted configuration is reached by its qualified
name: the text of one table can reach another one. -/
theorem dotted_reaches_other :
    checkConfiguration dottedValue = .ok dotted ∧
      ∃ d, (makeTables .empty dotted.tables).result = .ok d ∧
        ∃ users ∈ d.tables, ∃ others ∈ d.tables,
          users.qualifiedName = .text "public.auth.users" ∧
            others.qualifiedName = .text "auth.users" ∧
            ¬ Reaches dotted.tables d "public.auth.users" users ∧
            Reaches dotted.tables d "public.auth.users" others := by
  have started : (makeTables .empty dotted.tables).result.isOk = true := by
    decide +kernel
  obtain ⟨d, made⟩ := succeeds_of_isOk started
  obtain ⟨registered, _⟩ := registered_of_makeTables made
  have names := qualifiedNames_of_makeTables made
  have declared (text : String)
      (isName : text ∈ dotted.tables.map TableDefinition.qualifiedName) :
      ∃ t ∈ d.tables, t.qualifiedName = .text text := by
    apply List.mem_map.mp
    rw [names]
    exact List.mem_map_of_mem isName
  obtain ⟨users, member, isUsers⟩ :=
    declared "public.auth.users" (by decide)
  obtain ⟨others, otherMember, isOthers⟩ :=
    declared "auth.users" (by decide)
  have reached (t : Table) :
      Reaches dotted.tables d "public.auth.users" t ↔
        t ∈ d.tables ∧ t.qualifiedName = .text "auth.users" :=
    reaches_pointed_iff made "auth.users"
  refine ⟨by decide +kernel, d, made, users, member, others, otherMember,
    isUsers, isOthers, ?_, (reached others).mpr ⟨otherMember, isOthers⟩⟩
  intro reaches
  have left := ((reached users).mp reaches).2
  rw [isUsers, Value.text.injEq] at left
  revert left
  decide

end Tablesmith.Config

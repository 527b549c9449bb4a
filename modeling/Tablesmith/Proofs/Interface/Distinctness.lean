import Tablesmith.Interface.File
import Tablesmith.Proofs.Interface.Words
import Tablesmith.Proofs.Schema.Registry
import Tablesmith.Proofs.Sql.Exactness

/-!
# Which tables share an interface

The name of an interface keeps the words of a qualified name and drops what
stands between them, so tables with different names can share an interface.
They do exactly if the words run together to the same text.  This cannot
happen among tables of one schema whose names are in snake case.
-/

namespace Tablesmith.Interface

open Tablesmith.Schema Tablesmith.Sql

/-- The names of the interfaces that are declared for tables, in order. -/
def interfaceNames (tables : List Table) : Except Failure (List String) :=
  tables.mapM fun t => interfaceNameOf t.qualifiedName

theorem interfaceNames_eq_ok
    {tables : List Table} {names : List String}
    (named : tables.map Table.qualifiedName = names.map Value.text) :
    interfaceNames tables = .ok (names.map interfaceName) := by
  have overNames :
      (tables.map Table.qualifiedName).mapM interfaceNameOf =
        interfaceNames tables :=
    List.mapM_map
  rw [← overNames, named, List.mapM_map]
  exact mapM_eq_ok fun _ _ => rfl

/-- Interfaces have different names exactly if no two of the tables' names have
words that run together to the same text. -/
theorem nodup_map_interfaceName_iff (names : List String) :
    (names.map interfaceName).Nodup ↔
      (names.map fun name => spelling name.toList).Nodup := by
  unfold List.Nodup
  rw [List.pairwise_map, List.pairwise_map]
  apply List.Pairwise.iff
  intro name other
  exact not_congr interfaceName_eq_iff

/-- Among names of plain words it is the words that count. -/
theorem nodup_spelling_iff_of_plain
    {names : List String}
    (plain : ∀ name ∈ names, ∀ word ∈ words name.toList, IsPlain word) :
    (names.map fun name => spelling name.toList).Nodup ↔
      (names.map fun name => words name.toList).Nodup := by
  unfold List.Nodup
  rw [List.pairwise_map, List.pairwise_map]
  apply List.Pairwise.iff_of_mem
  intro name other member otherMember
  refine not_congr ⟨?_, ?_⟩
  · intro same
    exact eq_of_flatMap_capitalised_eq (plain name member)
      (plain other otherMember) same
  · intro same
    unfold spelling
    rw [same]

/-! ## One schema -/

/-- What a schema adds to the words of the names of its tables. -/
def schemaWords (schema : String) : List (List Char) :=
  if schema = publicSchema then [] else words schema.toList

theorem words_qualified
    {t : Table} {name qualified : String}
    (hasName : t.name = .text name)
    (hasQualified : t.qualifiedName = .text qualified) :
    words qualified.toList = schemaWords t.schema ++ words name.toList := by
  unfold Table.qualifiedName at hasQualified
  rw [hasName, qualify_text, Value.text.injEq] at hasQualified
  unfold schemaWords
  by_cases isPublic : t.schema = publicSchema
  · rw [if_pos isPublic] at hasQualified
    rw [if_pos isPublic, List.nil_append, hasQualified]
  · rw [if_neg isPublic] at hasQualified
    rw [← hasQualified, if_neg isPublic, String.toList_append, String.toList_append,
      List.append_assoc]
    exact words_append (by decide) _ _

/-- The tables lie in one schema, and their names are in snake case. -/
def InSnakeCase (schema : String) (tables : List Table) : Prop :=
  ∀ t ∈ tables, t.schema = schema ∧
    ∃ name : String, t.name = .text name ∧ IsSnakeCase name.toList

/-- Tables of one schema in snake case have the same spelling only if they have
the same name. -/
theorem eq_of_spelling_eq
    {t u : Table} {qualified other : String}
    (sameSchema : t.schema = u.schema)
    (named : ∃ name : String, t.name = .text name ∧ IsSnakeCase name.toList)
    (otherNamed :
      ∃ name : String, u.name = .text name ∧ IsSnakeCase name.toList)
    (hasQualified : t.qualifiedName = .text qualified)
    (otherQualified : u.qualifiedName = .text other)
    (same : spelling qualified.toList = spelling other.toList) :
    t.qualifiedName = u.qualifiedName := by
  obtain ⟨name, isName, snake⟩ := named
  obtain ⟨otherName, isOtherName, otherSnake⟩ := otherNamed
  unfold spelling at same
  rw [words_qualified isName hasQualified,
    words_qualified isOtherName otherQualified, sameSchema,
    List.flatMap_append, List.flatMap_append,
    List.append_cancel_left_eq] at same
  have sameWords :=
    eq_of_flatMap_capitalised_eq snake.1 otherSnake.1 same
  have sameName : name = otherName :=
    String.toList_injective (snake.eq_of_words_eq otherSnake sameWords)
  unfold Table.qualifiedName
  rw [isName, isOtherName, sameName, sameSchema]

theorem nodup_spelling_of_snakeCase
    {schema : String} {tables : List Table} {names : List String}
    (named : tables.map Table.qualifiedName = names.map Value.text)
    (distinct : (tables.map Table.qualifiedName).Nodup)
    (snake : InSnakeCase schema tables) :
    (names.map fun name => spelling name.toList).Nodup := by
  have distinctNames : names.Nodup := by
    rw [named] at distinct
    exact distinct.of_map _
  have tableOf {name : String} (member : name ∈ names) :
      ∃ t ∈ tables, t.qualifiedName = .text name := by
    have isQualified :
        Value.text name ∈ tables.map Table.qualifiedName := by
      rw [named]
      exact List.mem_map_of_mem member
    exact List.mem_map.mp isQualified
  apply distinctNames.map_on
  intro name member other otherMember same
  obtain ⟨t, tMember, hasName⟩ := tableOf member
  obtain ⟨u, uMember, hasOther⟩ := tableOf otherMember
  obtain ⟨tSchema, tNamed⟩ := snake t tMember
  obtain ⟨uSchema, uNamed⟩ := snake u uMember
  have sameQualified :=
    eq_of_spelling_eq (tSchema.trans uSchema.symm) tNamed uNamed hasName
      hasOther same
  rw [hasName, hasOther] at sameQualified
  injection sameQualified

/-! ## Sessions -/

/-- In a database whose tables are declared under texts, the interfaces have
different names exactly if no two qualified names have words that run together
to the same text; where all words are plain, exactly if no two have the same
words; and always if the tables lie in one schema under names in snake case. -/
theorem interfaceNames_nodup_iff
    {steps : List Step} (named : ∀ step ∈ steps, step.HasTextName) :
    ∃ qualified : List String,
      (Database.empty.afterSteps steps).tables.map Table.qualifiedName =
          qualified.map Value.text ∧
        ∃ names,
          interfaceNames (Database.empty.afterSteps steps).tables =
              .ok names ∧
            (names.Nodup ↔
              (qualified.map fun name => spelling name.toList).Nodup) ∧
            ((∀ name ∈ qualified, ∀ word ∈ words name.toList, IsPlain word) →
              (names.Nodup ↔
                (qualified.map fun name => words name.toList).Nodup)) ∧
            ∀ schema,
              InSnakeCase schema (Database.empty.afterSteps steps).tables →
                names.Nodup := by
  have registered := Database.registered_afterSteps named
  obtain ⟨qualified, hasNames⟩ := registered.exists_qualifiedNames
  have spelled := nodup_map_interfaceName_iff qualified
  refine ⟨qualified, hasNames, _, interfaceNames_eq_ok hasNames, spelled,
    ?_, ?_⟩
  · intro plain
    exact spelled.trans (nodup_spelling_iff_of_plain plain)
  · intro schema snake
    exact spelled.mpr
      (nodup_spelling_of_snakeCase hasNames registered.distinctNames snake)

/-- A session that declares the tables of orders and of their lines, and tries
to declare one of them again. -/
def orderSession : List Step :=
  [.declare (.text "order") (some "sales"),
    .build 0 (.column "primary_key" none []),
    .declare (.text "order_line") (some "sales"),
    .declare (.text "order") (some "sales")]

theorem orderSession_hasTextNames :
    ∀ step ∈ orderSession, step.HasTextName := by
  simp [orderSession, Step.HasTextName, Value.IsText]

theorem orderSession_inSnakeCase :
    InSnakeCase "sales" (Database.empty.afterSteps orderSession).tables := by
  have shown :
      (Database.empty.afterSteps orderSession).tables.map
          (fun t => (t.schema, t.name.text?)) =
        ["order", "order_line"].map fun name => ("sales", some name) := by
    decide +kernel
  have snake : ∀ name ∈ ["order", "order_line"], IsSnakeCase name.toList := by
    decide +kernel
  intro t member
  have isShown :=
    List.mem_map_of_mem (f := fun t => (t.schema, t.name.text?)) member
  rw [shown] at isShown
  obtain ⟨name, isName, equality⟩ := List.mem_map.mp isShown
  injection equality with sameSchema sameName
  refine ⟨sameSchema.symm, name, ?_, snake name isName⟩
  cases given : t.name with
  | text own =>
      rw [given] at sameName
      cases sameName
      rfl
  | _ => simp [given, Value.text?] at sameName

/-- The two tables of the session have interfaces of their own. -/
theorem orderSession_interfaces_distinct :
    (∀ step ∈ orderSession, step.HasTextName) ∧
      InSnakeCase "sales" (Database.empty.afterSteps orderSession).tables ∧
      (Database.empty.afterSteps orderSession).tables.length = 2 ∧
      ∃ names,
        interfaceNames (Database.empty.afterSteps orderSession).tables =
            .ok names ∧
          names.Nodup := by
  obtain ⟨_, _, names, named, _, _, distinct⟩ :=
    interfaceNames_nodup_iff orderSession_hasTextNames
  exact ⟨orderSession_hasTextNames, orderSession_inSnakeCase,
    by decide +kernel, names, named,
    distinct "sales" orderSession_inSnakeCase⟩

/-- A table in a schema can share its interface with a table whose name begins
with that of the schema: different qualified names do not make different
interfaces. -/
theorem interfaceNames_not_always_distinct :
    ¬ ∀ steps : List Step, (∀ step ∈ steps, step.HasTextName) →
      ∀ names,
        interfaceNames (Database.empty.afterSteps steps).tables = .ok names →
          names.Nodup := by
  intro distinct
  have named :
      ∀ step ∈ [Step.declare (.text "item") (some "sales"),
          .declare (.text "sales_item") none], step.HasTextName := by
    simp [Step.HasTextName, Value.IsText]
  have shared :
      interfaceNames
          (Database.empty.afterSteps
            [.declare (.text "item") (some "sales"),
              .declare (.text "sales_item") none]).tables =
        .ok ["ISalesItem", "ISalesItem"] := by
    decide +kernel
  have nodup := distinct _ named _ shared
  simp at nodup

end Tablesmith.Interface

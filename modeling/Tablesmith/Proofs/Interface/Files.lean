import Tablesmith.Interface.File
import Tablesmith.Proofs.Interface.Entries
import Tablesmith.Proofs.Interface.Layout
import Tablesmith.Proofs.Sql.Described

/-!
# Files of interfaces

The text for several tables is made of the texts for each of them, with a blank
line in between.  It is laid out after it has been put together, but the blank
lines keep the declarations apart, so that each could have been laid out on
its own.
-/

namespace Tablesmith.Interface

open Tablesmith.Schema Tablesmith.Sql Tablesmith.Text

/-! ## Declarations -/

theorem typesText_eq (tables : List Table) :
    typesText tables =
      (tables.mapM declaration).map fun declarations =>
        tabsToSpaces tabWidth ("\n\n".intercalate declarations) := by
  unfold typesText
  cases tables.mapM declaration with
  | error failure => rfl
  | ok declarations => rfl

theorem typesText_singleton (t : Table) :
    typesText [t] = (declaration t).map (tabsToSpaces tabWidth) := by
  rw [typesText_eq, List.mapM_cons, List.mapM_nil]
  cases declaration t with
  | error failure => rfl
  | ok text =>
      exact congrArg (fun whole => Except.ok (tabsToSpaces tabWidth whole))
        String.intercalate_singleton

/-- Each declaration is the text for its table alone. -/
theorem typesText_eq_mapM (tables : List Table) :
    typesText tables =
      (tables.mapM fun t => typesText [t]).map ("\n\n".intercalate ·) := by
  have single :
      (fun t => typesText [t]) =
        fun t => (declaration t).map (tabsToSpaces tabWidth) :=
    funext typesText_singleton
  rw [single, mapM_map_result, typesText_eq]
  cases tables.mapM declaration with
  | error failure => rfl
  | ok declarations =>
      exact congrArg Except.ok
        (tabsToSpaces_intercalate tabWidth declarations)

theorem typesText_append
    {first later : List Table}
    (someFirst : first ≠ []) (someLater : later ≠ []) :
    typesText (first ++ later) = do
      let front ← typesText first
      let back ← typesText later
      return front ++ "\n\n" ++ back := by
  have filled {tables : List Table} (someTable : tables ≠ [])
      {texts : List String}
      (made : (tables.mapM fun t => typesText [t]) = .ok texts) :
      texts ≠ [] := by
    have lengths := (forall₂_of_mapM_eq_ok made).length_eq
    rintro rfl
    exact someTable (List.length_eq_zero_iff.mp lengths)
  rw [typesText_eq_mapM, typesText_eq_mapM, typesText_eq_mapM,
    List.mapM_append]
  cases front : first.mapM fun t => typesText [t] with
  | error failure => rfl
  | ok firstTexts =>
      cases back : later.mapM fun t => typesText [t] with
      | error failure => rfl
      | ok laterTexts =>
          exact congrArg Except.ok
            (String.intercalate_append_of_ne_nil (filled someFirst front)
              (filled someLater back))

/-- A table that is called by a text has a qualified name to be asked for. -/
theorem qualifiedName?_of_isAnyText
    {t : Table} (isText : t.qualifiedName.isAnyText = true) :
    t.qualifiedName? = .ok t.qualifiedName := by
  apply Table.qualifiedName?_of_isWritable
  rw [← isWritable_qualify t.schema t.name]
  exact Value.isWritable_of_isAnyText isText

theorem succeeds_declaration_iff {t : Table} :
    Succeeds (declaration t) ↔
      t.qualifiedName.isAnyText = true ∧
        ∀ c ∈ t.columns,
          c.name.isWritable = true ∧ ∃ type, c.type = .columnType type := by
  unfold declaration
  by_cases isText : t.qualifiedName.isAnyText = true
  · rw [qualifiedName?_of_isAnyText isText]
    change Succeeds (interfaceOf t.qualifiedName t.columns >>= _) ↔ _
    rw [succeeds_bind_iff fun text => succeeds_pure_iff _, and_true,
      succeeds_interfaceOf_iff]
  · refine iff_of_false ?_ fun named => isText named.1
    rintro ⟨text, made⟩
    obtain ⟨name, asked, rest⟩ := bind_eq_ok_iff.mp made
    obtain ⟨whole, written, _⟩ := bind_eq_ok_iff.mp rest
    have sameName : name = t.qualifiedName := by
      unfold Table.qualifiedName? at asked
      split at asked
      · exact (Except.ok.inj asked).symm
      · cases asked
    rw [sameName] at written
    exact isText (succeeds_interfaceOf_iff.mp ⟨whole, written⟩).1

theorem succeeds_typesText_iff {tables : List Table} :
    Succeeds (typesText tables) ↔
      ∀ t ∈ tables, t.qualifiedName.isAnyText = true ∧
        ∀ c ∈ t.columns,
          c.name.isWritable = true ∧ ∃ type, c.type = .columnType type := by
  rw [typesText_eq, succeeds_map_iff, succeeds_mapM_iff]
  simp only [succeeds_declaration_iff]

/-- The text for some tables and some more is the text for the first ones, a
blank line, and the text for the others, and it fails where they fail; each
declaration is the text for its table alone.  There is a text if the tables
are called by texts and their columns have names that can be written and
column types; it holds no tab, and no line of it ends in white space. -/
theorem typesText_composes :
    (∀ first later : List Table, first ≠ [] → later ≠ [] →
      typesText (first ++ later) = do
        let front ← typesText first
        let back ← typesText later
        return front ++ "\n\n" ++ back) ∧
    (∀ tables,
      typesText tables =
        (tables.mapM fun t => typesText [t]).map ("\n\n".intercalate ·)) ∧
    (∀ tables,
      Succeeds (typesText tables) ↔
        ∀ t ∈ tables, t.qualifiedName.isAnyText = true ∧
          ∀ c ∈ t.columns,
            c.name.isWritable = true ∧ ∃ type, c.type = .columnType type) ∧
    ∀ tables text, typesText tables = .ok text →
      '\t' ∉ text.toList ∧
        ∀ line ∈ text.toList.splitOn '\n',
          ∀ c ∈ line.getLast?, isBlank c = false := by
  refine ⟨fun _ _ someFirst someLater => typesText_append someFirst someLater,
    typesText_eq_mapM, fun _ => succeeds_typesText_iff, ?_⟩
  intro tables text made
  rw [typesText_eq] at made
  obtain ⟨declarations, _, rfl⟩ := map_eq_ok_iff.mp made
  exact ⟨not_tab_mem_tabsToSpaces _ _,
    fun line isLine => (isClean_of_mem_tabsToSpaces isLine).noBlankEnd⟩

/-- Tables and columns whose names hold tabs, newlines and white space at their
ends. -/
def oddSession : List Step :=
  [.declare (.text "first\t\ntable ") none,
    .build 0 (.column "string" (some (.text "body \n")) []),
    .declare (.text " second") (some "odd\n"),
    .build 1 (.column "number" (some (.text "\tcount"))
      [(.text "required", .bool false)])]

def oddTables : List Table := (Database.empty.afterSteps oddSession).tables

def oddFront : String :=
  "/**\n * Record of the first\ntable  table.\n */\n" ++
    "export interface IFirstTable \x7b\n    body\n: string;\n\x7d"

def oddBack : String :=
  "/**\n * Record of the odd\n. second table.\n */\n" ++
    "export interface IOddSecond \x7b\n        count?: number;\n\x7d"

theorem oddTables_compose :
    oddTables.take 1 ≠ [] ∧ oddTables.drop 1 ≠ [] ∧
      typesText (oddTables.take 1) = .ok oddFront ∧
      typesText (oddTables.drop 1) = .ok oddBack ∧
      typesText oddTables = .ok (oddFront ++ "\n\n" ++ oddBack) ∧
      '\t' ∉ (oddFront ++ "\n\n" ++ oddBack).toList ∧
        ∀ line ∈ (oddFront ++ "\n\n" ++ oddBack).toList.splitOn '\n',
          ∀ c ∈ line.getLast?, isBlank c = false := by
  obtain ⟨composes, _, _, clean⟩ := typesText_composes
  have lengths : oddTables.length = 2 := by decide +kernel
  have someFirst : oddTables.take 1 ≠ [] := by
    rw [ne_eq, List.take_eq_nil_iff, ← List.length_eq_zero_iff, lengths]
    decide
  have someLater : oddTables.drop 1 ≠ [] := by
    rw [ne_eq, List.drop_eq_nil_iff, lengths]
    decide
  have front : typesText (oddTables.take 1) = .ok oddFront := by
    decide +kernel
  have back : typesText (oddTables.drop 1) = .ok oddBack := by
    decide +kernel
  have made : typesText oddTables = .ok (oddFront ++ "\n\n" ++ oddBack) := by
    have both := composes _ _ someFirst someLater
    rw [List.take_append_drop, front, back] at both
    exact both
  exact ⟨someFirst, someLater, front, back, made, clean oddTables _ made⟩

end Tablesmith.Interface

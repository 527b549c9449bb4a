import Tablesmith.Proofs.Interface.Entries
import Tablesmith.Proofs.Schema.Registry

/-!
# Statements and interfaces agree

Two texts say which columns a table has: the statements that add them, and its
interface.  They name the same columns in the same order, and a statement says
that a column is not null exactly if the interface does not let it be left
out.
-/

namespace Tablesmith.Interface

open Tablesmith.Schema Tablesmith.Sql Tablesmith.Text

/-! ## Texts without their blank end -/

theorem dropBlankEnd_isPrefix (cs : List Char) : dropBlankEnd cs <+: cs := by
  unfold dropBlankEnd
  have suffix : cs.reverse.dropWhile isBlank <:+ cs.reverse :=
    List.dropWhile_suffix _
  simpa using List.reverse_prefix.mpr suffix

/-- Behind a character that is not blank, only the rest is trimmed. -/
theorem dropBlankEnd_append
    {shown : List Char} {c : Char} (notBlank : isBlank c = false)
    (rest : List Char) :
    dropBlankEnd (shown ++ [c] ++ rest) =
      shown ++ [c] ++ dropBlankEnd rest := by
  have kept :
      (shown ++ [c]).reverse.dropWhile isBlank = (shown ++ [c]).reverse := by
    rw [List.reverse_append, List.reverse_singleton, List.singleton_append,
      List.dropWhile_cons_of_neg (by simp [notBlank])]
  unfold dropBlankEnd
  rw [List.reverse_append, List.dropWhile_append, kept]
  split
  next restBlank =>
    rw [List.isEmpty_iff] at restBlank
    simp [restBlank]
  · simp

theorem trimEnd_isPrefix (text : String) :
    (trimEnd text).toList <+: text.toList := by
  unfold trimEnd
  rw [String.toList_ofList]
  exact dropBlankEnd_isPrefix _

/-- A text that ends in a character that is not blank stays in front of what
is trimmed. -/
theorem trimEnd_append
    {shown : String} {c : Char} (ends : shown.toList.getLast? = some c)
    (notBlank : isBlank c = false) (rest : String) :
    trimEnd (shown ++ rest) = shown ++ trimEnd rest := by
  obtain ⟨front, split⟩ := List.getLast?_eq_some_iff.mp ends
  unfold trimEnd
  apply String.toList_injective
  rw [String.toList_append, String.toList_append, String.toList_ofList,
    String.toList_ofList, split, dropBlankEnd_append notBlank]

theorem isPrefix_trimEnd
    {shown text : String} {c : Char} (ends : shown.toList.getLast? = some c)
    (notBlank : isBlank c = false) (isPrefix : shown.toList <+: text.toList) :
    shown.toList <+: (trimEnd text).toList := by
  obtain ⟨rest, split⟩ := isPrefix
  have isText : text = shown ++ String.ofList rest := by
    apply String.toList_injective
    rw [String.toList_append, String.toList_ofList, split]
  rw [isText, trimEnd_append ends notBlank, String.toList_append]
  exact List.prefix_append _ _

/-! ## Statements that add a column -/

theorem intercalate_cons (separator first : String) (others : List String) :
    String.intercalate separator (first :: others) =
      first ++ String.join (others.map fun part => separator ++ part) := by
  induction others generalizing first with
  | nil => simp
  | cons next rest inductionHypothesis =>
      rw [String.intercalate_cons_cons, inductionHypothesis, List.map_cons,
        String.join_cons]
      simp only [String.append_assoc]

/-- What a statement says first: the table, the column and its type. -/
def columnHead (table name : String) (type : ColumnType) : String :=
  "ALTER TABLE " ++ table ++ " ADD COLUMN " ++ name ++ " " ++ columnWord type

/-- What a statement says about a column after its type. -/
def columnRest (clause : ColumnClause) : String :=
  String.join (clause.parts.tail.map fun part => " " ++ part)

theorem text_addColumn (table : String) (clause : ColumnClause) :
    (Statement.addColumn table clause).text =
      trimEnd
        (columnHead table clause.name clause.type ++ columnRest clause) := by
  have parts :
      clause.parts = columnWord clause.type :: clause.parts.tail := by
    simp [ColumnClause.parts]
  have joined :
      String.intercalate " "
          (("ALTER TABLE " ++ table ++ " ADD COLUMN " ++ clause.name) ::
            clause.parts) =
        columnHead table clause.name clause.type ++ columnRest clause := by
    unfold columnHead columnRest
    rw [intercalate_cons, parts, List.map_cons, String.join_cons]
    simp only [List.tail_cons, String.append_assoc]
  exact congrArg trimEnd joined

theorem getLast?_columnHead (table name : String) (type : ColumnType) :
    ∃ c, (columnHead table name type).toList.getLast? = some c ∧
      isBlank c = false := by
  unfold columnHead
  rw [String.toList_append, List.getLast?_append]
  cases type <;> exact ⟨_, rfl, by decide⟩

/-- A statement names its table and column, and the type. -/
theorem columnHead_isPrefix (table : String) (clause : ColumnClause) :
    (columnHead table clause.name clause.type).toList <+:
      (Statement.addColumn table clause).text.toList := by
  obtain ⟨c, last, notBlank⟩ :=
    getLast?_columnHead table clause.name clause.type
  rw [text_addColumn]
  apply isPrefix_trimEnd last notBlank
  rw [String.toList_append]
  exact List.prefix_append _ _

/-- If a column is not required, something else follows, or nothing. -/
theorem columnRest_of_not_required
    {clause : ColumnClause} (notRequired : clause.required = false) :
    ¬ " NOT NULL".toList <+: (columnRest clause).toList := by
  obtain ⟨name, type, required, default, check⟩ := clause
  subst notRequired
  cases default with
  | some e =>
      simp [columnRest, ColumnClause.parts, String.toList_append]
  | none =>
      cases check with
      | some e => simp [columnRest, ColumnClause.parts, String.toList_append]
      | none => simp [columnRest, ColumnClause.parts]

theorem columnRest_of_required
    {clause : ColumnClause} (isRequired : clause.required = true) :
    " NOT NULL".toList <+: (columnRest clause).toList := by
  obtain ⟨name, type, required, default, check⟩ := clause
  subst isRequired
  simp [columnRest, ColumnClause.parts, String.toList_append]

/-- After that, a statement says NOT NULL exactly if the column is
required. -/
theorem notNull_prefix_iff {table : String} {clause : ColumnClause} :
    (columnHead table clause.name clause.type ++ " NOT NULL").toList <+:
        (Statement.addColumn table clause).text.toList ↔
      clause.required = true := by
  rw [text_addColumn]
  constructor
  · intro shown
    have inFull := shown.trans (trimEnd_isPrefix _)
    rw [String.toList_append, String.toList_append,
      List.prefix_append_right_inj] at inFull
    by_contra notRequired
    exact columnRest_of_not_required (eq_false_of_ne_true notRequired) inFull
  · intro required
    have ends :
        (columnHead table clause.name clause.type ++
          " NOT NULL").toList.getLast? = some 'L' := by
      rw [String.toList_append, List.getLast?_append]
      rfl
    apply isPrefix_trimEnd ends (by decide)
    rw [String.toList_append, String.toList_append,
      List.prefix_append_right_inj]
    exact columnRest_of_required required

/-! ## One column -/

/-- A statement adds the column that an entry of an interface stands for.
After name and type it says NOT NULL unless the entry may be left out. -/
def Agree (table statement : String) (entry : FieldEntry) : Prop :=
  ∃ type : ColumnType,
    entry.type = fieldType type ∧
      (columnHead table entry.name type).toList <+: statement.toList ∧
        (¬ (columnHead table entry.name type ++ " NOT NULL").toList <+:
            statement.toList ↔
          entry.optional = true)

theorem columnClause_eq_ok
    {c : Column} {clause : ColumnClause} (made : columnClause c = .ok clause) :
    clause.name = c.name.display ∧ c.type = .columnType clause.type ∧
      clause.required = c.options.required.truthy := by
  obtain ⟨name, named, rest⟩ := bind_eq_ok_iff.mp made
  obtain ⟨type, typed, expressions⟩ := bind_eq_ok_iff.mp rest
  obtain ⟨default, _, checks⟩ := bind_eq_ok_iff.mp expressions
  obtain ⟨check, _, same⟩ := bind_eq_ok_iff.mp checks
  cases same
  exact ⟨display_of_written named, columnType_of_asColumnType typed, rfl⟩

theorem agree_of_column
    {c : Column} {clause : ColumnClause} {entry : FieldEntry}
    (table : String) (made : columnClause c = .ok clause)
    (stands : StandsFor c entry) :
    Agree table (Statement.addColumn table clause).text entry := by
  obtain ⟨sameName, typed, sameRequired⟩ := columnClause_eq_ok made
  obtain ⟨type, isType, entryType⟩ := stands.type
  obtain rfl : type = clause.type := by
    rw [typed] at isType
    cases isType
    rfl
  have entryName : entry.name = clause.name := stands.name.trans sameName.symm
  refine ⟨clause.type, entryType, ?_, ?_⟩
  · rw [entryName]
    exact columnHead_isPrefix table clause
  · rw [entryName, notNull_prefix_iff, stands.optional, sameRequired]
    simp

/-! ## One table -/

theorem addColumns_eq_ok
    {t : Table} {statements : List Statement}
    (made : addColumns t = .ok statements) :
    List.Forall₂
      (fun c statement =>
        ∃ clause, columnClause c = .ok clause ∧
          statement = .addColumn (tableName t) clause)
      t.columns statements := by
  refine (forall₂_of_mapM_eq_ok made).imp ?_
  intro c statement stated
  obtain ⟨clause, isClause, same⟩ := map_eq_ok_iff.mp stated
  exact ⟨clause, isClause, same.symm⟩

/-- What two lists have to do with a third one, they have to do with each
other. -/
theorem forall₂_of_common
    {α β γ : Type} {first : α → β → Prop} {second : α → γ → Prop}
    {related : β → γ → Prop}
    (common : ∀ a b c, first a b → second a c → related b c)
    {as : List α} {bs : List β} {cs : List γ}
    (left : List.Forall₂ first as bs) (right : List.Forall₂ second as cs) :
    List.Forall₂ related bs cs := by
  induction left generalizing cs with
  | nil =>
      cases right
      exact .nil
  | cons head _ inductionHypothesis =>
      cases right with
      | cons otherHead otherTail =>
          exact .cons (common _ _ _ head otherHead)
            (inductionHypothesis otherTail)

/-- The statements that add the columns of a table agree with its interface,
one by one. -/
theorem forall₂_agree
    {t : Table} {statements : List Statement} {entries : List FieldEntry}
    (made : addColumns t = .ok statements)
    (stand : List.Forall₂ StandsFor t.columns entries) :
    List.Forall₂ (Agree (tableName t)) (statements.map Statement.text)
      entries := by
  rw [List.forall₂_map_left_iff]
  refine forall₂_of_common ?_ (addColumns_eq_ok made) stand
  rintro c statement entry ⟨clause, isClause, rfl⟩ stands
  exact agree_of_column (tableName t) isClause stands

/-! ## Statements of one table among all -/

/-- Whether a statement adds a column to the table with the given name. -/
def addsColumnTo (name : String) : Statement → Bool
  | .addColumn table _ => table = name
  | _ => false

section Among

variable {name : String}

/-- Statements that are all made in the same way add columns to the table, or
none of them does. -/
theorem addsColumnTo_of_mapM
    {α β : Type} {call : α → Except Failure β} {make : β → Statement}
    {xs : List α} {statements : List Statement} {adds : Bool}
    (each : ∀ y, addsColumnTo name (make y) = adds)
    (made : xs.mapM (fun x => (call x).map make) = .ok statements) :
    ∀ statement ∈ statements, addsColumnTo name statement = adds := by
  rw [mapM_map_result] at made
  obtain ⟨ys, _, rfl⟩ := map_eq_ok_iff.mp made
  rw [List.forall_mem_map]
  exact fun y _ => each y

theorem filter_eq_nil_of_mapM
    {α β : Type} {call : α → Except Failure β} {make : β → Statement}
    {xs : List α} {statements : List Statement}
    (other : ∀ y, addsColumnTo name (make y) = false)
    (made : xs.mapM (fun x => (call x).map make) = .ok statements) :
    statements.filter (addsColumnTo name) = [] := by
  rw [List.filter_eq_nil_iff]
  intro statement member
  simp [addsColumnTo_of_mapM other made statement member]

/-- Of the statements that build a table, those that add columns to a table are
all that add its own, or none. -/
theorem filter_buildTable
    (name : String) {t : Table} {statements : List Statement}
    (built : buildTable t = .ok statements) :
    ∃ columns, addColumns t = .ok columns ∧
      statements.filter (addsColumnTo name) =
        if tableName t = name then columns else [] := by
  obtain ⟨columns, isColumns, rest⟩ := bind_eq_ok_iff.mp built
  obtain ⟨key, isKey, others⟩ := bind_eq_ok_iff.mp rest
  obtain ⟨uniques, areUniques, same⟩ := bind_eq_ok_iff.mp others
  cases same
  have each :
      ∀ statement ∈ columns,
        addsColumnTo name statement = decide (tableName t = name) :=
    addsColumnTo_of_mapM (fun _ => rfl) isColumns
  have noKey : key.filter (addsColumnTo name) = [] :=
    filter_eq_nil_of_mapM (fun _ => rfl) isKey
  have noUniques : uniques.filter (addsColumnTo name) = [] :=
    filter_eq_nil_of_mapM (fun _ => rfl) areUniques
  refine ⟨columns, isColumns, ?_⟩
  rw [List.filter_append, List.filter_append, noKey, noUniques,
    List.append_nil, List.append_nil]
  rw [List.filter_cons_of_neg (by simp [addsColumnTo])]
  split
  next own =>
    rw [List.filter_eq_self]
    intro statement member
    rw [each statement member, decide_eq_true own]
  next notOwn =>
    rw [List.filter_eq_nil_iff]
    intro statement member
    rw [each statement member, decide_eq_false notOwn]
    exact Bool.false_ne_true

variable {tables : List Table} {built : List (List Statement)}

theorem filter_built_of_not_mem
    (pairs :
      List.Forall₂ (fun t statements => buildTable t = .ok statements) tables
        built)
    (absent : name ∉ tables.map tableName) :
    built.flatten.filter (addsColumnTo name) = [] := by
  induction pairs with
  | nil => rfl
  | cons head _ inductionHypothesis =>
      rw [List.map_cons, List.mem_cons, not_or] at absent
      obtain ⟨columns, _, own⟩ := filter_buildTable name head
      rw [List.flatten_cons, List.filter_append,
        inductionHypothesis absent.2, own, if_neg (Ne.symm absent.1),
        List.append_nil]

theorem filter_built
    {t : Table} {columns : List Statement}
    (pairs :
      List.Forall₂ (fun t statements => buildTable t = .ok statements) tables
        built)
    (distinct : (tables.map tableName).Nodup)
    (member : t ∈ tables) (made : addColumns t = .ok columns) :
    built.flatten.filter (addsColumnTo (tableName t)) = columns := by
  induction pairs with
  | nil => cases member
  | @cons u statements others _ head tail inductionHypothesis =>
      rw [List.map_cons, List.nodup_cons] at distinct
      obtain ⟨found, isFound, own⟩ := filter_buildTable (tableName t) head
      rw [List.flatten_cons, List.filter_append, own]
      rcases List.mem_cons.mp member with rfl | later
      · rw [made] at isFound
        cases isFound
        rw [if_pos rfl, filter_built_of_not_mem tail distinct.1,
          List.append_nil]
      · have otherName : tableName u ≠ tableName t := by
          intro same
          exact distinct.1 (same ▸ List.mem_map_of_mem later)
        rw [if_neg otherName, inductionHypothesis distinct.2 later,
          List.nil_append]

/-- The statements that add the columns of a table stand together among all
statements of its database. -/
theorem addColumns_isInfix_plan
    {d : Database} {t : Table} {columns statements : List Statement}
    (member : t ∈ d.tables) (made : addColumns t = .ok columns)
    (planned : plan d = .ok statements) :
    columns <:+: statements := by
  obtain ⟨dropped, _, others⟩ := bind_eq_ok_iff.mp planned
  obtain ⟨built, isBuilt, rest⟩ := bind_eq_ok_iff.mp others
  obtain ⟨linked, _, same⟩ := bind_eq_ok_iff.mp rest
  cases same
  obtain ⟨own, ownMember, isOwn⟩ := exists_mem_of_mapM_eq_ok isBuilt t member
  obtain ⟨found, isFound, others⟩ := bind_eq_ok_iff.mp isOwn
  obtain ⟨key, _, more⟩ := bind_eq_ok_iff.mp others
  obtain ⟨uniques, _, isAll⟩ := bind_eq_ok_iff.mp more
  cases isAll
  rw [made] at isFound
  cases isFound
  have inOwn :
      columns <:+: .createTable (tableName t) :: columns ++ key ++ uniques :=
    ⟨[.createTable (tableName t)], key ++ uniques, by simp⟩
  have inBuilt := inOwn.trans (List.infix_of_mem_flatten ownMember)
  exact inBuilt.trans
    ((List.suffix_append _ _).isInfix.trans (List.prefix_append _ _).isInfix)

/-- Among all statements of a database, those that add columns to a table are
its own, if no other table is written in the same way. -/
theorem filter_plan
    {d : Database} {t : Table} {columns statements : List Statement}
    (distinct : (d.tables.map tableName).Nodup)
    (member : t ∈ d.tables) (made : addColumns t = .ok columns)
    (planned : plan d = .ok statements) :
    statements.filter (addsColumnTo (tableName t)) = columns := by
  obtain ⟨dropped, isDropped, others⟩ := bind_eq_ok_iff.mp planned
  obtain ⟨built, isBuilt, rest⟩ := bind_eq_ok_iff.mp others
  obtain ⟨linked, isLinked, same⟩ := bind_eq_ok_iff.mp rest
  cases same
  have noSchemas :
      (d.schemas.flatMap rebuildSchema).filter
        (addsColumnTo (tableName t)) = [] := by
    simp [List.filter_flatMap, rebuildSchema, addsColumnTo]
  have noDrops : dropped.filter (addsColumnTo (tableName t)) = [] :=
    filter_eq_nil_of_mapM (fun _ => rfl) isDropped
  have noLinks :
      linked.flatten.filter (addsColumnTo (tableName t)) = [] := by
    rw [List.filter_flatten, List.flatten_eq_nil_iff, List.forall_mem_map]
    exact forall_of_mapM_eq_ok
      (fun u links linksMade => filter_eq_nil_of_mapM (fun _ => rfl) linksMade)
      isLinked
  rw [List.filter_append, List.filter_append, List.filter_append, noSchemas,
    noDrops, noLinks,
    filter_built (forall₂_of_mapM_eq_ok isBuilt) distinct member made]
  simp

end Among

/-! ## Sessions -/

/-- All through a session, the columns of tables have column types. -/
theorem typed_afterSteps (steps : List Step) :
    ∀ t ∈ (Database.empty.afterSteps steps).tables,
      ∀ c ∈ t.columns, ∃ type, c.type = .columnType type := by
  apply Database.forall_tables_afterSteps
  · intro t member
    cases member
  · intro id name schema _ _ c member
    cases member
  · intro position call _ t typed c member
    rcases (Table.extends_perform call t).columns c member with
      there | ⟨_, isTyped⟩
    · exact typed c there
    · exact isTyped

/-- Tables that are declared under texts are written in different ways. -/
theorem nodup_tableName {d : Database} (registered : d.Registered) :
    (d.tables.map tableName).Nodup := by
  obtain ⟨names, areNames⟩ := registered.exists_qualifiedNames
  have written : d.tables.map tableName = names := by
    have displayed := congrArg (List.map Value.display) areNames
    rw [List.map_map, List.map_map] at displayed
    exact displayed.trans (List.map_id names)
  have distinct := registered.distinctNames
  rw [areNames] at distinct
  rw [written]
  exact distinct.of_map _

theorem optional_of_standsFor
    {columns : List Column} {entries : List FieldEntry}
    (stand : List.Forall₂ StandsFor columns entries) :
    entries.map FieldEntry.optional =
      columns.map fun c => !c.options.required.truthy := by
  induction stand with
  | nil => rfl
  | cons head _ inductionHypothesis =>
      rw [List.map_cons, List.map_cons, head.optional, inductionHypothesis]

/-- For every table that a session reaches, whatever its calls were given.  The
statements that add its columns can be made if the names and the expressions of
the columns can be written, and its interface if the names can be and the table
is called by a text.  Both give one line to each column, in order; a statement
agrees with the entry beside it, and both texts call the table by its qualified
name.  The statements stand together among all those of the database; if all
tables are declared under texts, no others add columns to the table. -/
theorem statements_agree_with_interface
    {steps : List Step} {t : Table}
    (reached : t ∈ (Database.empty.afterSteps steps).tables) :
    (Succeeds (addColumns t) ↔
      ∀ c ∈ t.columns, c.name.isWritable = true ∧ c.options.IsWritable) ∧
      (Succeeds (interfaceOf t.qualifiedName t.columns) ↔
        t.qualifiedName.isAnyText = true ∧
          ∀ c ∈ t.columns, c.name.isWritable = true) ∧
      ∀ statements text,
        addColumns t = .ok statements →
        interfaceOf t.qualifiedName t.columns = .ok text →
          ∃ (name : String) (entries : List FieldEntry),
            t.qualifiedName.isAnyText = true ∧
              name = t.qualifiedName.display ∧
              text = interfaceText name entries ∧
              List.Forall₂ StandsFor t.columns entries ∧
              List.Forall₂ (Agree name) (statements.map Statement.text)
                entries ∧
              ∀ created,
                create (Database.empty.afterSteps steps) = .ok created →
                  ∃ all : List Statement,
                    created = all.map Statement.text ∧
                      statements <:+: all ∧
                      ((∀ step ∈ steps, step.HasTextName) →
                        all.filter (addsColumnTo name) = statements) := by
  have typed := typed_afterSteps steps t reached
  refine ⟨?_, ?_, ?_⟩
  · rw [succeeds_addColumns_iff]
    apply forall₂_congr
    intro c member
    constructor
    · intro statable
      exact ⟨statable.name, statable.writable⟩
    · rintro ⟨named, writable⟩
      exact ⟨⟨typed c member, writable⟩, named⟩
  · rw [succeeds_interfaceOf_iff]
    apply and_congr_right
    intro _
    apply forall₂_congr
    intro c member
    exact and_iff_left (typed c member)
  · intro statements text added made
    obtain ⟨name, entries, isName, shown, isText, stand⟩ :=
      interfaceOf_eq_ok made
    subst shown
    refine ⟨_, entries, isName, rfl, isText, stand,
      forall₂_agree added stand, ?_⟩
    intro created isCreated
    obtain ⟨all, planned, rfl⟩ := map_eq_ok_iff.mp isCreated
    refine ⟨all, rfl, addColumns_isInfix_plan reached added planned, ?_⟩
    intro textNames
    have distinct :=
      nodup_tableName (Database.registered_afterSteps textNames)
    exact filter_plan distinct reached added planned

/-- Users with all kinds of values for what is required: left out, nothing,
no, zero, an empty text, a text, and an empty list.  The second attempt to add
an email fails. -/
def userSession : List Step :=
  [.declare (.text "users") (some "auth"),
    .build 0 (.column "primary_key" none []),
    .build 0 (.column "string" (some (.text "email")) []),
    .build 0 (.column "string" (some (.text "nick"))
      [(.text "required", .null)]),
    .build 0 (.column "boolean" (some (.text "active"))
      [(.text "required", .bool false), (.text "default", .text "true ")]),
    .build 0 (.column "number" (some (.text "age"))
      [(.text "required", .int 0)]),
    .build 0 (.column "guid" (some (.text "code"))
      [(.text "required", .text "")]),
    .build 0 (.column "date_time" (some (.text "born"))
      [(.text "required", .text "no")]),
    .build 0 (.column "decimal" (some (.text "score"))
      [(.text "required", .list [])]),
    .build 0 (.column "string" (some (.text "email")) [])]

/-- Of the eight columns of a user, four may be left out, and the statements
and entries agree one by one. -/
theorem users_agree :
    ∃ t ∈ (Database.empty.afterSteps userSession).tables,
      ∃ statements text entries,
        addColumns t = .ok statements ∧
          interfaceOf t.qualifiedName t.columns = .ok text ∧
          text = interfaceText "auth.users" entries ∧
          entries.map FieldEntry.optional =
            [false, false, false, true, true, true, false, true] ∧
          List.Forall₂ (Agree "auth.users") (statements.map Statement.text)
            entries ∧
          ∃ all : List Statement,
            create (Database.empty.afterSteps userSession) =
                .ok (all.map Statement.text) ∧
              all.filter (addsColumnTo "auth.users") = statements := by
  have named : ∀ step ∈ userSession, step.HasTextName := by
    simp [userSession, Step.HasTextName, Value.IsText]
  obtain ⟨created, isCreated⟩ :
      Succeeds (create (Database.empty.afterSteps userSession)) :=
    succeeds_of_isOk (by decide +kernel)
  have shown :
      ((Database.empty.afterSteps userSession).tables.head?.map fun t =>
          (t.qualifiedName.text?, (addColumns t).isOk,
            (interfaceOf t.qualifiedName t.columns).isOk,
            t.columns.map fun c => !c.options.required.truthy)) =
        some (some "auth.users", true, true,
          [false, false, false, true, true, true, false, true]) := by
    decide +kernel
  obtain ⟨users, isFirst, facts⟩ := Option.map_eq_some_iff.mp shown
  simp only [Prod.mk.injEq] at facts
  obtain ⟨isNamed, adds, writes, optional⟩ := facts
  have reached := List.mem_of_head? isFirst
  obtain ⟨statements, added⟩ := succeeds_of_isOk adds
  obtain ⟨text, written⟩ := succeeds_of_isOk writes
  obtain ⟨_, _, agree⟩ := statements_agree_with_interface reached
  obtain ⟨name, entries, _, shown, isText, stand, agrees, among⟩ :=
    agree statements text added written
  obtain ⟨all, rfl, _, others⟩ := among created isCreated
  rw [Value.text?_eq_some_iff.mp isNamed] at shown
  subst shown
  exact ⟨users, reached, statements, text, entries, added, written, isText,
    (optional_of_standsFor stand).trans optional, agrees, all, isCreated,
    others named⟩

end Tablesmith.Interface

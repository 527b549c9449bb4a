import Tablesmith.Proofs.Schema.Sessions
import Tablesmith.Proofs.Sql.Described
import Tablesmith.Proofs.Sql.Schemas

/-!
# Statements are exact

The statements of a database say what its tables hold: each column, key,
uniqueness constraint and foreign key once, in its place, and nothing else.
This holds for every database that a session with proper arguments can reach.
-/

namespace Tablesmith.Sql

open Tablesmith.Config Tablesmith.Schema

/-! ## What statements say -/

/-- An expression as it is stated: its text, unless it counts as false. -/
def statedExpression (v : Value) : Option String :=
  if v.truthy then some v.display else none

structure StatesColumn (c : Column) (clause : ColumnClause) : Prop where
  name : c.name = .text clause.name
  type : c.type = .columnType clause.type
  required : clause.required = c.options.required.truthy
  default : clause.default = statedExpression c.options.default
  check : clause.check = statedExpression c.options.check

/-- A list of names says which columns a constraint is over. -/
def StatesColumns (k : Constraint) (names : List String) : Prop :=
  k.columnNames = names.map Value.text

structure StatesForeignKey
    (entry : Constraint × ForeignKey)
    (clause : ReferenceClause) :
    Prop where
  columns : StatesColumns entry.1 clause.columns
  target : entry.2.target = .table (.text clause.target)
  targetColumns : entry.2.columns = clause.targetColumns.map Value.text
  actions :
    entry.2.actions =
      ⟨.referentialAction clause.onUpdate, .referentialAction clause.onDelete⟩

/-- An entry under a name says what a table is, item by item in order. -/
structure StatesTable (t : Table) (p : String × Entry) : Prop where
  name : t.qualifiedName = .text p.1
  schema : p.2.schema = t.schema
  columns : List.Forall₂ StatesColumn t.columns p.2.columns
  primaryKey :
    List.Forall₂ StatesColumns t.primaryKey?.toList p.2.primaryKey.toList
  uniques : List.Forall₂ StatesColumns t.uniqueConstraints p.2.uniques
  foreignKeys : List.Forall₂ StatesForeignKey t.foreignKeys p.2.foreignKeys

/-- The statements that rebuild schemas and tables: schemas first, then all
tables are dropped, then each is built, and then each is linked. -/
def rebuildPlan (schemas : List String) (entries : List (String × Entry)) :
    List Statement :=
  schemas.flatMap rebuildSchema ++
    entries.map (fun p => .dropTable p.1) ++
    entries.flatMap (fun p => p.2.building p.1) ++
    entries.flatMap fun p => p.2.linking p.1

/-! ## Proper tables are stated -/

section Stated

variable {t : Table}

theorem expressionOf_of_isWritable
    {v : Value} (writable : v.isWritable = true) :
    expressionOf v = .ok (statedExpression v) := by
  have shown : v.display? = .ok v.display := if_pos writable
  unfold expressionOf statedExpression
  rw [shown]
  split
  · rfl
  · rfl

theorem exists_columnClause
    {c : Column} (nameText : c.name.IsText) (proper : c.IsProper) :
    ∃ clause, columnClause c = .ok clause ∧ StatesColumn c clause := by
  obtain ⟨name, isName⟩ := nameText
  obtain ⟨type, isType⟩ := proper.typed
  have typeRead : asColumnType "postgresql" c.type = .ok type := by
    rw [isType]
    simp [asColumnType, Value.unkeyable?]
  have default := expressionOf_of_isWritable proper.writable.1
  have check := expressionOf_of_isWritable proper.writable.2
  have shownName : c.name.written = .ok name := by
    rw [isName, Value.written_text]
  refine ⟨⟨name, type, c.options.required.truthy,
    statedExpression c.options.default, statedExpression c.options.check⟩,
    ?_, ⟨isName, isType, rfl, rfl, rfl⟩⟩
  unfold columnClause
  rw [shownName, typeRead, default, check]
  rfl

/-- The columns of a constraint are columns of the table, so they have
names. -/
theorem exists_columnNames
    (sound : t.Sound) {k : Constraint} (own : k ∈ t.constraints) :
    ∃ names, namesOf k.columnNames = .ok names ∧ StatesColumns k names := by
  have texts : ∀ v ∈ k.columnNames, v.IsText := by
    intro v member
    obtain ⟨c, columnMember, rfl⟩ := List.mem_map.mp member
    exact sound.textNames c ((sound.ownColumns k own).2 c columnMember)
  obtain ⟨names, areNames⟩ := Value.exists_eq_map_text texts
  refine ⟨names, ?_, areNames⟩
  rw [areNames, namesOf_map_text]

theorem exists_referenceClause
    (sound : t.Sound) {entry : Constraint × ForeignKey}
    (own : entry ∈ t.foreignKeys) (proper : entry.2.IsProper) :
    ∃ clause,
      referenceClause entry.1 entry.2 = .ok clause ∧
        StatesForeignKey entry clause := by
  obtain ⟨k, constraintMember, isKey⟩ := List.mem_filterMap.mp own
  obtain ⟨key, _, rfl⟩ := Option.map_eq_some_iff.mp isKey
  obtain ⟨columns, columnsRead, columnsStated⟩ :=
    exists_columnNames sound constraintMember
  obtain ⟨target, isTarget⟩ := proper.target
  obtain ⟨targetColumns, areColumns⟩ :=
    Value.exists_eq_map_text proper.columns
  obtain ⟨onUpdate, onDelete, areActions⟩ := proper.actions
  have targetColumnsRead : namesOf key.columns = .ok targetColumns := by
    rw [areColumns, namesOf_map_text]
  have updateRead : asAction key.actions.onUpdate = .ok onUpdate := by
    rw [areActions]
    simp [asAction, Value.unkeyable?]
  have deleteRead : asAction key.actions.onDelete = .ok onDelete := by
    rw [areActions]
    simp [asAction, Value.unkeyable?]
  have targetRead : targetOf key.target = .ok target := by
    rw [isTarget]
    rfl
  refine ⟨⟨columns, target, targetColumns, onUpdate, onDelete⟩, ?_,
    ⟨columnsStated, isTarget, areColumns, areActions⟩⟩
  unfold referenceClause
  rw [columnsRead, targetRead, targetColumnsRead, updateRead, deleteRead]
  rfl

theorem exists_mapM_map_eq_ok
    {α β γ : Type} {call : α → Except Failure β} {related : α → β → Prop}
    {xs : List α} (write : β → γ)
    (each : ∀ x ∈ xs, ∃ y, call x = .ok y ∧ related x y) :
    ∃ ys,
      xs.mapM (fun x => (call x).map write) = .ok (ys.map write) ∧
        List.Forall₂ related xs ys := by
  obtain ⟨ys, pairs⟩ := exists_forall₂ each
  refine ⟨ys, mapM_eq_ok_of_forall₂ ?_, pairs.imp fun _ _ both => both.2⟩
  rw [List.forall₂_map_right_iff]
  apply pairs.imp
  rintro x y ⟨succeeded, _⟩
  rw [succeeded]
  rfl

theorem tableName_eq
    {name : String} (named : t.qualifiedName = .text name) :
    tableName t = name := by
  unfold tableName
  rw [named, display_text]

theorem dropTable_eq
    {name : String} (named : t.qualifiedName = .text name) :
    dropTable t = .ok (.dropTable name) := by
  unfold dropTable
  rw [named]
  rfl

/-- A proper table is built and linked as some entry says. -/
theorem exists_statesTable (proper : t.IsProper) :
    ∃ p,
      StatesTable t p ∧ buildTable t = .ok (p.2.building p.1) ∧
        linkTable t = .ok (p.2.linking p.1) := by
  have sound := proper.sound
  obtain ⟨name, isName⟩ := isText_qualify t.schema proper.textName
  have named : t.qualifiedName = .text name := isName
  have constraintNames {type : ConstraintType} :
      ∀ k ∈ t.constraintsOf type,
        ∃ names, namesOf k.columnNames = .ok names ∧ StatesColumns k names :=
    fun k member => exists_columnNames sound (List.mem_of_mem_filter member)
  obtain ⟨columns, columnsAdded, columnsStated⟩ :=
    exists_mapM_map_eq_ok (Statement.addColumn name) fun c member =>
      exists_columnClause (sound.textNames c member) (proper.columns c member)
  obtain ⟨key, keyAdded, keyStated⟩ :=
    exists_mapM_map_eq_ok (Statement.addPrimaryKey name)
      fun k (member : k ∈ t.primaryKey?.toList) =>
        constraintNames k (List.mem_of_mem_head? (Option.mem_toList.mp member))
  obtain ⟨uniques, uniquesAdded, uniquesStated⟩ :=
    exists_mapM_map_eq_ok (Statement.addUnique name)
      fun k (member : k ∈ t.uniqueConstraints) => constraintNames k member
  obtain ⟨links, linksAdded, linksStated⟩ :=
    exists_mapM_map_eq_ok (Statement.addForeignKey name) fun entry member =>
      exists_referenceClause sound member (proper.foreignKeys entry member)
  -- A table has at most one primary key, and so its entry has.
  have oneKey : key.head?.toList = key := by
    have few := keyStated.length_eq
    rcases key with _ | ⟨first, _ | ⟨second, others⟩⟩
    · rfl
    · rfl
    · cases has : t.primaryKey? with
      | none => simp [has] at few
      | some k => simp [has] at few
  refine ⟨(name, ⟨t.schema, columns, key.head?, uniques, links⟩), ?_, ?_, ?_⟩
  · exact ⟨named, rfl, columnsStated, by rwa [oneKey], uniquesStated,
      linksStated⟩
  · unfold buildTable addColumns addPrimaryKey addUniques
    rw [tableName_eq named, columnsAdded, keyAdded, uniquesAdded]
    unfold Entry.building
    rw [oneKey]
    rfl
  · unfold linkTable
    rw [tableName_eq named, linksAdded]
    rfl

end Stated

/-! ## The whole plan -/

section Plan

variable {d : Database} {tables : List Table}
variable {entries : List (String × Entry)}

theorem plan_eq_rebuildPlan
    (pairs :
      List.Forall₂
        (fun t p =>
          StatesTable t p ∧ buildTable t = .ok (p.2.building p.1) ∧
            linkTable t = .ok (p.2.linking p.1))
        d.tables entries) :
    plan d = .ok (rebuildPlan (distinctSchemas d.tables) entries) := by
  have built :
      d.tables.mapM buildTable =
        .ok (entries.map fun p => p.2.building p.1) :=
    mapM_eq_ok_of_forall₂
      (List.forall₂_map_right_iff.mpr (pairs.imp fun _ _ stated => stated.2.1))
  have linked :
      d.tables.mapM linkTable = .ok (entries.map fun p => p.2.linking p.1) :=
    mapM_eq_ok_of_forall₂
      (List.forall₂_map_right_iff.mpr (pairs.imp fun _ _ stated => stated.2.2))
  have dropped :
      d.tables.mapM dropTable = .ok (entries.map fun p => .dropTable p.1) :=
    mapM_eq_ok_of_forall₂
      (List.forall₂_map_right_iff.mpr
        (pairs.imp fun _ _ stated => dropTable_eq stated.1.name))
  unfold plan
  rw [dropped, built, linked]
  change
    Except.ok
      ((Database.collectSchemas d.tables).flatMap rebuildSchema ++
        entries.map (fun p => .dropTable p.1) ++
        (entries.map fun p => p.2.building p.1).flatten ++
        (entries.map fun p => p.2.linking p.1).flatten) = _
  rw [collectSchemas_eq_distinctSchemas]
  rfl

/-! ## How many statements there are -/

theorem length_building
    {t : Table} {p : String × Entry} (stated : StatesTable t p) :
    (p.2.building p.1).length =
      1 + t.columns.length + (if t.primaryKey?.isSome then 1 else 0) +
        t.uniqueConstraints.length := by
  have key :
      p.2.primaryKey.toList.length =
        if t.primaryKey?.isSome then 1 else 0 := by
    rw [← stated.primaryKey.length_eq]
    cases t.primaryKey? <;> rfl
  unfold Entry.building
  simp only [List.length_append, List.length_cons, List.length_map, key,
    stated.columns.length_eq, stated.uniques.length_eq]
  omega

theorem length_buildings
    (pairs : List.Forall₂ StatesTable tables entries) :
    (entries.flatMap fun p => p.2.building p.1).length =
      tables.length + (tables.flatMap Table.columns).length +
        tables.countP (fun t => t.primaryKey?.isSome) +
        (tables.flatMap Table.uniqueConstraints).length := by
  induction pairs with
  | nil => rfl
  | cons stated _ inductionHypothesis =>
      rw [List.flatMap_cons, List.length_append, inductionHypothesis,
        length_building stated, List.countP_cons]
      simp only [List.length_cons, List.flatMap_cons, List.length_append]
      omega

theorem length_linkings
    (pairs : List.Forall₂ StatesTable tables entries) :
    (entries.flatMap fun p => p.2.linking p.1).length =
      (tables.flatMap Table.foreignKeys).length := by
  induction pairs with
  | nil => rfl
  | cons stated _ inductionHypothesis =>
      have here := stated.foreignKeys.length_eq
      rw [List.flatMap_cons, List.length_append, inductionHypothesis,
        List.flatMap_cons, List.length_append, here]
      unfold Entry.linking
      rw [List.length_map]

theorem length_rebuildPlan
    (pairs : List.Forall₂ StatesTable tables entries)
    (schemas : List String) :
    (rebuildPlan schemas entries).length =
      2 * schemas.length + 2 * tables.length +
        (tables.flatMap Table.columns).length +
        tables.countP (fun t => t.primaryKey?.isSome) +
        (tables.flatMap Table.uniqueConstraints).length +
        (tables.flatMap Table.foreignKeys).length := by
  have schemaStatements :
      (schemas.flatMap rebuildSchema).length = 2 * schemas.length := by
    induction schemas with
    | nil => rfl
    | cons schema rest inductionHypothesis =>
        rw [List.flatMap_cons, List.length_append, inductionHypothesis,
          List.length_cons]
        change 2 + _ = _
        omega
  have sameLength := pairs.length_eq
  unfold rebuildPlan
  rw [List.length_append, List.length_append, List.length_append,
    schemaStatements, List.length_map, length_buildings pairs,
    length_linkings pairs]
  omega

/-! ## Foreign keys come last -/

def Statement.linksTables : Statement → Bool
  | .addForeignKey _ _ => true
  | _ => false

theorem linksTables_linking
    {name : String} {e : Entry} {s : Statement}
    (member : s ∈ e.linking name) :
    s.linksTables = true := by
  obtain ⟨clause, _, rfl⟩ := List.mem_map.mp member
  rfl

theorem linksTables_building
    {name : String} {e : Entry} {s : Statement}
    (member : s ∈ e.building name) :
    s.linksTables = false := by
  simp only [Entry.building, List.mem_append, List.mem_cons, List.mem_map]
    at member
  rcases member with ((rfl | ⟨_, _, rfl⟩) | ⟨_, _, rfl⟩) | ⟨_, _, rfl⟩
  · rfl
  · rfl
  · rfl
  · rfl

/-- What is marked stands after what is not, if that holds of two parts. -/
theorem lt_of_getElem?_append
    {α : Type} {marked : α → Bool} {first last : List α}
    (firstUnmarked : ∀ a ∈ first, marked a = false)
    (lastMarked : ∀ a ∈ last, marked a = true)
    {i j : Nat} {a b : α}
    (atI : (first ++ last)[i]? = some a) (unmarked : marked a = false)
    (atJ : (first ++ last)[j]? = some b) (isMarked : marked b = true) :
    i < j := by
  have before : i < first.length := by
    by_contra after
    rw [List.getElem?_append_right (Nat.not_lt.mp after)] at atI
    have contrary := lastMarked a (List.mem_of_getElem? atI)
    rw [unmarked] at contrary
    cases contrary
  have behind : first.length ≤ j := by
    by_contra early
    rw [List.getElem?_append_left (Nat.not_le.mp early)] at atJ
    have contrary := firstUnmarked b (List.mem_of_getElem? atJ)
    rw [isMarked] at contrary
    cases contrary
  exact Nat.lt_of_lt_of_le before behind

theorem lt_of_linksTables
    {schemas : List String} {i j : Nat} {s link : Statement}
    (atI : (rebuildPlan schemas entries)[i]? = some s)
    (other : s.linksTables = false)
    (atJ : (rebuildPlan schemas entries)[j]? = some link)
    (links : link.linksTables = true) :
    i < j := by
  unfold rebuildPlan at atI atJ
  refine lt_of_getElem?_append ?_ ?_ atI other atJ links
  · intro early member
    simp only [List.mem_append, List.mem_flatMap, List.mem_map] at member
    rcases member with (⟨schema, _, inSchema⟩ | ⟨p, _, rfl⟩) | ⟨p, _, built⟩
    · simp only [rebuildSchema, List.mem_cons, List.not_mem_nil, or_false]
        at inSchema
      rcases inSchema with rfl | rfl
      · rfl
      · rfl
    · rfl
    · exact linksTables_building built
  · intro late member
    obtain ⟨p, _, linked⟩ := List.mem_flatMap.mp member
    exact linksTables_linking linked

end Plan

/-! ## Sessions -/

/-- Statements are exactly those of a database. -/
structure Rebuilds (d : Database) (statements : List Statement) : Prop where
  /-- The schemas, then the tables, each of which is stated as it is. -/
  exact :
    ∃ entries,
      List.Forall₂ StatesTable d.tables entries ∧
        statements = rebuildPlan (distinctSchemas d.tables) entries
  length :
    statements.length =
      2 * (distinctSchemas d.tables).length + 2 * d.tables.length +
        (d.tables.flatMap Table.columns).length +
        d.tables.countP (fun t => t.primaryKey?.isSome) +
        (d.tables.flatMap Table.uniqueConstraints).length +
        (d.tables.flatMap Table.foreignKeys).length
  /-- Every column of every table comes before every foreign key. -/
  columnsFirst :
    ∀ (i j : Nat) table clause other reference,
      statements[i]? = some (Statement.addColumn table clause) →
        statements[j]? = some (Statement.addForeignKey other reference) →
          i < j

theorem create_of_isProper {d : Database} (proper : d.IsProper) :
    ∃ statements,
      create d = .ok (statements.map Statement.text) ∧
        Rebuilds d statements := by
  obtain ⟨entries, pairs⟩ :=
    exists_forall₂ fun t member => exists_statesTable (proper t member)
  have stated : List.Forall₂ StatesTable d.tables entries :=
    pairs.imp fun _ _ both => both.1
  refine ⟨rebuildPlan (distinctSchemas d.tables) entries, ?_, ?_⟩
  · unfold create
    rw [plan_eq_rebuildPlan pairs]
    rfl
  · refine ⟨⟨entries, stated, rfl⟩, length_rebuildPlan stated _, ?_⟩
    intro i j table clause other reference atI atJ
    exact lt_of_linksTables atI rfl atJ rfl

/-- The statements of every database that a session reaches, whatever the order
of its steps and whichever of them failed, are exactly those of its tables. -/
theorem afterSteps_create
    {steps : List Step} (proper : ∀ step ∈ steps, step.IsProper) :
    ∃ statements,
      create (Database.empty.afterSteps steps) =
          .ok (statements.map Statement.text) ∧
        Rebuilds (Database.empty.afterSteps steps) statements := by
  have noTables : Database.empty.IsProper := by
    intro t member
    cases member
  exact create_of_isProper (Database.isProper_afterSteps noTables proper)

/-- A session that goes to and fro between two tables, which point at each
other.  The second declaration of the buyers fails, and so does their second
column of that name. -/
def shopSession : List Step :=
  [.declare (.text "buyers") none,
    .build 0 (.column "primary_key" none []),
    .declare (.text "orders") (some "sales"),
    .build 1 (.reference (.text "buyer") (.table (.text "buyers")) (.text "id")
      (.of .null (.referentialAction .setNull)) []),
    .build 0 (.column "string" (some (.text "code"))
      [(.text "unique", .bool true), (.text "default", .text "'none'")]),
    .declare (.text "buyers") none,
    .build 0 (.column "number" (some (.text "code")) []),
    .build 0 (.reference (.text "latest") (.table (.text "sales.orders"))
      (.text "id") .standard [])]

theorem shopSession_isProper : ∀ step ∈ shopSession, step.IsProper := by
  have setsNull :
      ReferenceActions.IsProper
        (.of .null (.referentialAction .setNull)) :=
    ⟨_, _, Or.inl rfl, Or.inr ⟨.setNull, rfl⟩, rfl⟩
  have cascades : ReferenceActions.IsProper .standard :=
    ⟨_, _, Or.inl rfl, Or.inl rfl, rfl⟩
  have texts (s : String) : (Value.text s).IsText := ⟨s, rfl⟩
  intro step member
  simp only [shopSession, List.mem_cons, List.not_mem_nil, or_false] at member
  rcases member with rfl | rfl | rfl | rfl | rfl | rfl | rfl | rfl
  · exact texts _
  · exact ⟨by simp [Call.HasTextNames, Value.lookupText?],
      by simp [Call.keywords], by simp [Call.reference?]⟩
  · exact texts _
  · refine ⟨⟨texts _, Or.inl (texts _)⟩, by simp [Call.keywords], ?_⟩
    rintro target actions equality
    cases equality
    exact ⟨⟨_, rfl⟩, setsNull⟩
  · refine ⟨?_, ?_, by simp [Call.reference?]⟩
    · simp [Call.HasTextNames, Value.lookupText?, Value.IsText]
    · simp [Call.keywords, Value.isWritable]
  · exact texts _
  · refine ⟨?_, by simp [Call.keywords], by simp [Call.reference?]⟩
    simp [Call.HasTextNames, Value.lookupText?, Value.IsText]
  · refine ⟨⟨texts _, Or.inl (texts _)⟩, by simp [Call.keywords], ?_⟩
    rintro target actions equality
    cases equality
    exact ⟨⟨_, rfl⟩, cascades⟩

/-- The session comes to fourteen statements: those of one schema and two
tables with four columns, a key, a unique column and two foreign keys. -/
theorem shopSession_create :
    (∀ step ∈ shopSession, step.IsProper) ∧
      ∃ statements : List Statement,
        create (Database.empty.afterSteps shopSession) =
            .ok (statements.map Statement.text) ∧
          statements.length = 14 := by
  obtain ⟨statements, created, rebuilds⟩ :=
    afterSteps_create shopSession_isProper
  refine ⟨shopSession_isProper, statements, created, ?_⟩
  rw [rebuilds.length]
  decide +kernel

end Tablesmith.Sql

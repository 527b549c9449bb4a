import Tablesmith.Proofs.Schema.Registry
import Tablesmith.Proofs.Text.Splitting

/-!
# Looking tables up

A declared table has a name without points, so its qualified name tells its
schema and its own name apart, whatever the schema is.  A table is therefore
refused as a duplicate exactly if there is one with the same name in the same
schema, and each table is found under its qualified name.
-/

namespace Tablesmith.Schema

/-- The schema that is meant by a given one.  No schema, and an empty one, mean
the public schema. -/
def meantSchema : Option String → String
  | none => publicSchema
  | some given => if given = "" then publicSchema else given

theorem schema_empty (id : TableId) (name : Value) (schema : Option String) :
    (Table.empty id name schema).schema = meantSchema schema := by
  cases schema with
  | none => rfl
  | some given =>
      by_cases noText : given = ""
      · simp [Table.empty, meantSchema, noText]
      · simp [Table.empty, meantSchema, noText]

/-! ## Qualified names -/

theorem qualify_text (schema name : String) :
    qualify schema (.text name) =
      .text (if schema = publicSchema then name
        else schema ++ "." ++ name) := by
  have writable : (Value.text name).isWritable = true := rfl
  unfold qualify
  simp only [writable, Bool.not_true, Bool.or_false, decide_eq_true_eq]
  split
  · rfl
  · rfl

/-- The last point of a qualified name stands in front of the own name, so the
name is read from its end. -/
theorem eq_of_pointed_eq
    {schema other name otherName : String}
    (noPoint : '.' ∉ name.toList) (otherNoPoint : '.' ∉ otherName.toList)
    (same : schema ++ "." ++ name = other ++ "." ++ otherName) :
    schema = other ∧ name = otherName := by
  have characters (s n : String) :
      (s ++ "." ++ n).toList.reverse =
        n.toList.reverse ++ '.' :: s.toList.reverse := by
    simp
  have reversed := congrArg (fun text => text.toList.reverse) same
  simp only [characters] at reversed
  obtain ⟨sameName, sameSchema⟩ :=
    Text.append_mark_inj (mt List.mem_reverse.mp noPoint)
      (mt List.mem_reverse.mp otherNoPoint) reversed
  exact ⟨String.toList_injective (List.reverse_injective sameSchema),
    String.toList_injective (List.reverse_injective sameName)⟩

theorem ne_pointed {schema name otherName : String}
    (otherNoPoint : '.' ∉ otherName.toList) :
    schema ++ "." ++ name ≠ otherName := by
  rintro rfl
  apply otherNoPoint
  simp

/-- Tables whose names hold no points have the same qualified name only if they
have the same name and the same schema. -/
theorem qualify_text_inj
    {schema other name otherName : String}
    (noPoint : '.' ∉ name.toList) (otherNoPoint : '.' ∉ otherName.toList) :
    qualify schema (.text name) = qualify other (.text otherName) ↔
      schema = other ∧ name = otherName := by
  rw [qualify_text, qualify_text, Value.text.injEq]
  constructor
  · intro same
    split at same
    next isPublic =>
      split at same
      next otherPublic => exact ⟨isPublic.trans otherPublic.symm, same⟩
      next => exact absurd same.symm (ne_pointed noPoint)
    next =>
      split at same
      next => exact absurd same (ne_pointed otherNoPoint)
      next => exact eq_of_pointed_eq noPoint otherNoPoint same
  · rintro ⟨rfl, rfl⟩
    rfl

/-- The name of a table as it can be declared: a text that is not empty and
holds no point. -/
def Table.HasPlainName (t : Table) : Prop :=
  ∃ name, t.name = .text name ∧ name ≠ "" ∧ '.' ∉ name.toList

namespace Database

theorem isTableName_text (name : String) :
    isTableName (.text name) =
      .ok (decide (name ≠ "") && !name.toList.contains '.') := by
  unfold isTableName
  by_cases named : name = ""
  · rw [if_neg (by simp [Value.truthy, named]), decide_eq_false (by simp [named])]
    rfl
  · rw [if_pos (by simpa [Value.truthy] using named), decide_eq_true named]
    rfl

theorem isTableName_text_iff {name : String} :
    isTableName (.text name) = .ok true ↔
      name ≠ "" ∧ '.' ∉ name.toList := by
  rw [isTableName_text, Except.ok.injEq, Bool.and_eq_true, decide_eq_true_eq,
    Bool.not_eq_true', ← Bool.not_eq_true, List.contains_iff_mem]

/-- What adding a table under a text comes to. -/
theorem addTable_text (d : Database) (name : String) (schema : Option String) :
    d.addTable (.text name) schema =
      if name = "" ∨ '.' ∈ name.toList then
        .error (.report (invalidName (.text name)))
      else
        match d.table? (d.nextTable (.text name) schema).qualifiedName with
        | some _ =>
          .error (.report
            (tableTaken (d.nextTable (.text name) schema).qualifiedName))
        | none => .ok ⟨d.tables ++ [d.nextTable (.text name) schema]⟩ := by
  have writable : (Value.text name).isWritable = true := rfl
  have asked :
      (d.nextTable (.text name) schema).qualifiedName? =
        .ok (d.nextTable (.text name) schema).qualifiedName :=
    Table.qualifiedName?_of_isWritable rfl
  unfold addTable declare
  by_cases proper : name = "" ∨ '.' ∈ name.toList
  · have noName :
        (decide (name ≠ "") && !name.toList.contains '.') = false := by
      rcases proper with empty | point
      · simp [empty]
      · simp [point]
    simp only [isTableName_text, writable, noName, if_true]
    rw [if_pos proper]
    rfl
  · have isName := isTableName_text_iff.mpr (not_or.mp proper)
    simp only [isName, writable, asked, if_true]
    rw [if_neg proper]
    cases d.table? (d.nextTable (.text name) schema).qualifiedName with
    | some other => rfl
    | none => rfl

/-! ## Tables of a session -/

variable {d : Database}

/-- All through a session that declares tables under texts, no name holds a
point. -/
theorem hasPlainName_afterSteps
    {steps : List Step} (named : ∀ step ∈ steps, step.HasTextName) :
    ∀ t ∈ (empty.afterSteps steps).tables, t.HasPlainName := by
  apply forall_tables_afterSteps
  · intro t member
    cases member
  · intro id name schema declared isName
    obtain ⟨text, rfl⟩ := named _ declared
    exact ⟨text, rfl, isTableName_text_iff.mp isName⟩
  · intro position call _ t plain
    unfold Table.HasPlainName
    rw [(Table.extends_perform call t).sameTable.1]
    exact plain

theorem table?_eq_none_iff {text : String} :
    d.table? (.text text) = none ↔
      ∀ t ∈ d.tables, t.qualifiedName ≠ .text text := by
  unfold table?
  rw [List.find?_eq_none]
  apply forall₂_congr
  intro t _
  exact not_congr Value.beq_text_iff

/-- A table is found under a text exactly if that is its qualified name. -/
theorem table?_eq_some_iff
    (registered : d.Registered) {text : String} {t : Table} :
    d.table? (.text text) = some t ↔
      t ∈ d.tables ∧ t.qualifiedName = .text text := by
  have isName {u : Table} (found : d.table? (.text text) = some u) :
      u ∈ d.tables ∧ u.qualifiedName = .text text := by
    have member := List.mem_of_find?_eq_some found
    have same : (u.qualifiedName == Value.text text) = true :=
      List.find?_some
        (p := fun t : Table => t.qualifiedName == Value.text text) found
    exact ⟨member, Value.beq_text_iff.mp same⟩
  constructor
  · exact isName
  · rintro ⟨member, named⟩
    cases found : d.table? (.text text) with
    | none =>
        exact absurd named (table?_eq_none_iff.mp found t member)
    | some u =>
        -- There is no other table of that name.
        obtain ⟨otherMember, otherNamed⟩ := isName found
        exact congrArg some
          (List.inj_on_of_nodup_map registered.distinctNames otherMember member
            (otherNamed.trans named.symm))

theorem table?_qualifiedName
    (registered : d.Registered) {t : Table} (member : t ∈ d.tables) :
    d.table? t.qualifiedName = some t := by
  obtain ⟨text, named⟩ := isText_qualify t.schema (registered.textNames t member)
  have isNamed : t.qualifiedName = .text text := named
  rw [isNamed]
  exact (table?_eq_some_iff registered).mpr ⟨member, isNamed⟩

/-- The qualified name of the next table is taken exactly if some table has its
name and its schema. -/
theorem isTaken_iff
    (plain : ∀ t ∈ d.tables, t.HasPlainName)
    {name : String} (noPoint : '.' ∉ name.toList) (schema : Option String) :
    d.table? (d.nextTable (.text name) schema).qualifiedName ≠ none ↔
      ∃ t ∈ d.tables, t.name = .text name ∧ t.schema = meantSchema schema := by
  have nextSchema :
      (d.nextTable (.text name) schema).qualifiedName =
        qualify (meantSchema schema) (.text name) :=
    congrArg (qualify · (.text name)) (schema_empty _ _ schema)
  have sameTable {t : Table} (member : t ∈ d.tables) :
      t.qualifiedName = qualify (meantSchema schema) (.text name) ↔
        t.name = .text name ∧ t.schema = meantSchema schema := by
    obtain ⟨own, isOwn, _, ownNoPoint⟩ := plain t member
    unfold Table.qualifiedName
    rw [isOwn, qualify_text_inj ownNoPoint noPoint, Value.text.injEq, and_comm]
  obtain ⟨text, isText⟩ : ∃ text,
      qualify (meantSchema schema) (.text name) = .text text :=
    ⟨_, qualify_text _ _⟩
  rw [nextSchema, isText, ne_eq, table?_eq_none_iff, ← isText]
  push Not
  constructor
  · rintro ⟨t, member, named⟩
    exact ⟨t, member, (sameTable member).mp named⟩
  · rintro ⟨t, member, same⟩
    exact ⟨t, member, (sameTable member).mpr same⟩

/-! ## Declarations -/

/-- A text is refused as the name of a table exactly if it is empty, holds a
point, or is the name of another table in the same schema. -/
theorem addTable_text_fails_iff
    (plain : ∀ t ∈ d.tables, t.HasPlainName)
    (name : String) (schema : Option String) :
    (∃ failure, d.addTable (.text name) schema = .error failure) ↔
      name = "" ∨ '.' ∈ name.toList ∨
        ∃ t ∈ d.tables, t.name = .text name ∧ t.schema = meantSchema schema := by
  rw [addTable_text]
  by_cases improper : name = "" ∨ '.' ∈ name.toList
  · rw [if_pos improper, ← or_assoc]
    exact iff_of_true ⟨_, rfl⟩ (.inl improper)
  · obtain ⟨named, noPoint⟩ := not_or.mp improper
    rw [if_neg improper, ← isTaken_iff plain noPoint schema]
    constructor
    · rintro ⟨failure, refused⟩
      refine .inr (.inr ?_)
      intro isFree
      rw [isFree] at refused
      cases refused
    · rintro (empty | point | isTaken)
      · exact absurd empty named
      · exact absurd point noPoint
      · obtain ⟨t, found⟩ := Option.ne_none_iff_exists'.mp isTaken
        exact ⟨_, by rw [found]⟩

/-- A text that is refused is refused by a report about the model. -/
theorem category_of_addTable_text
    {name : String} {schema : Option String} {failure : Failure}
    (refused : d.addTable (.text name) schema = .error failure) :
    ∃ r, failure = .report r ∧ r.category = .model := by
  rw [addTable_text] at refused
  split at refused
  · exact ⟨_, (Except.error.inj refused).symm, rfl⟩
  · split at refused
    · exact ⟨_, (Except.error.inj refused).symm, rfl⟩
    · cases refused

/-- In every database that a session reaches, a table is refused exactly if its
name cannot be given or is taken in its schema; it leaves no trace then, and
comes last otherwise.  So each table is found under its qualified name, and
under no other name is there any. -/
theorem registers_exactly_afterSteps
    {steps : List Step} (named : ∀ step ∈ steps, step.HasTextName) :
    let d := empty.afterSteps steps
    (∀ (name : String) (schema : Option String),
      ((∃ failure, d.addTable (.text name) schema = .error failure) ↔
        name = "" ∨ '.' ∈ name.toList ∨
          ∃ t ∈ d.tables,
            t.name = .text name ∧ t.schema = meantSchema schema) ∧
      (∀ failure, d.addTable (.text name) schema = .error failure →
        (∃ r, failure = .report r ∧ r.category = .model) ∧
          d.perform (.declare (.text name) schema) = d) ∧
      (∀ after, d.addTable (.text name) schema = .ok after →
        d.perform (.declare (.text name) schema) = after ∧
          ∃ t, after.tables = d.tables ++ [t] ∧
            t.name = .text name ∧ t.schema = meantSchema schema ∧
            t.columns = [] ∧ t.constraints = [])) ∧
      (∀ t ∈ d.tables, d.table? t.qualifiedName = some t) ∧
      ∀ text : String,
        (∀ t ∈ d.tables, t.qualifiedName ≠ .text text) →
          d.table? (.text text) = none := by
  intro d
  have registered : d.Registered := registered_afterSteps named
  have plain : ∀ t ∈ d.tables, t.HasPlainName := hasPlainName_afterSteps named
  refine ⟨?_, ?_, ?_⟩
  · intro name schema
    refine ⟨addTable_text_fails_iff plain name schema, ?_, ?_⟩
    · intro failure refused
      refine ⟨category_of_addTable_text refused, ?_⟩
      rcases perform_declare_of_isText ⟨name, rfl⟩ with same | added
      · exact same
      · rw [refused] at added
        cases added
    · intro after added
      obtain ⟨rfl, _⟩ := addTable_eq_ok added
      exact ⟨perform_of_addTable added,
        _, rfl, rfl, schema_empty _ _ schema, rfl, rfl⟩
  · intro t member
    exact table?_qualifiedName registered member
  · intro text unnamed
    exact table?_eq_none_iff.mpr unnamed

/-- One name in three schemas, two of which hold a point or are left empty;
a name with a point, and a name that is taken, are refused on the way. -/
theorem registers_exactly_of_shops :
    let steps : List Step :=
      [.declare (.text "items") (some "shop.eu"),
        .declare (.text "eu.items") (some "shop"),
        .declare (.text "items") (some "shop"),
        .declare (.text "items") (some ""),
        .declare (.text "items") none,
        .build 0 (.column "string" (some (.text "label")) [])]
    ((empty.afterSteps steps).tables.map fun t => t.qualifiedName.text?) =
        [some "shop.eu.items", some "shop.items", some "items"] ∧
      ∀ t ∈ (empty.afterSteps steps).tables,
        (empty.afterSteps steps).table? t.qualifiedName = some t := by
  intro steps
  have named : ∀ step ∈ steps, step.HasTextName := by
    intro step member
    simp only [steps, List.mem_cons, List.not_mem_nil, or_false] at member
    rcases member with rfl | rfl | rfl | rfl | rfl | rfl
    · exact ⟨_, rfl⟩
    · exact ⟨_, rfl⟩
    · exact ⟨_, rfl⟩
    · exact ⟨_, rfl⟩
    · exact ⟨_, rfl⟩
    · trivial
  exact ⟨by decide +kernel, (registers_exactly_afterSteps named).2.1⟩

end Database

end Tablesmith.Schema

import Tablesmith.Proofs.Schema.Sessions

/-!
# The names of declared tables

However a session goes on, the tables that it has declared keep their names and
schemas, and no two of them have the same qualified name.
-/

namespace Tablesmith.Schema

def Step.HasTextName : Step → Prop
  | .declare name _ => name.IsText
  | .build _ _ => True

/-- A qualified name is a text if the name of the table is one. -/
theorem isText_qualify (schema : String) {name : Value} (text : name.IsText) :
    (qualify schema name).IsText := by
  obtain ⟨s, rfl⟩ := text
  unfold qualify
  split
  · exact ⟨s, rfl⟩
  · exact ⟨_, rfl⟩

namespace Database

/-- Every table has a text for a name, and the qualified names are
different. -/
structure Registered (d : Database) : Prop where
  textNames : ∀ t ∈ d.tables, t.name.IsText
  distinctNames : (d.tables.map Table.qualifiedName).Nodup

variable {d : Database}

namespace Registered

theorem exists_qualifiedNames (registered : d.Registered) :
    ∃ names : List String,
      d.tables.map Table.qualifiedName = names.map Value.text := by
  apply Value.exists_eq_map_text
  intro v member
  obtain ⟨t, tMember, rfl⟩ := List.mem_map.mp member
  exact isText_qualify t.schema (registered.textNames t tMember)

/-- A table that can be added has a name that is not taken. -/
theorem of_addTable
    (registered : d.Registered)
    {name : Value} (nameText : name.IsText)
    {schema : Option String} {after : Database}
    (added : d.addTable name schema = .ok after) :
    after.Registered := by
  have nextText : (d.nextTable name schema).name.IsText := nameText
  have nextQualified := isText_qualify (d.nextTable name schema).schema nextText
  obtain ⟨rfl, isFree⟩ := addTable_eq_ok added
  unfold table? at isFree
  rw [List.find?_eq_none] at isFree
  refine ⟨?_, ?_⟩
  · rw [List.forall_mem_append, List.forall_mem_singleton]
    exact ⟨registered.textNames, nextText⟩
  · rw [List.map_append, List.map_singleton, ← List.concat_eq_append]
    refine registered.distinctNames.concat ?_
    intro taken
    obtain ⟨t, there, same⟩ := List.mem_map.mp taken
    exact isFree t there ((Value.beq_iff_eq_of_isText nextQualified).mpr same)

/-- A builder call changes neither name nor schema of its table. -/
theorem of_build
    (registered : d.Registered) (position : Nat) (call : Call) :
    (d.perform (.build position call)).Registered := by
  have kept (t : Table) :
      (call.perform t).table.name = t.name ∧
        (call.perform t).table.schema = t.schema :=
    (Table.extends_perform call t).sameTable
  have sameNames {β : Type} (view : Table → β)
      (keeps : ∀ t, view (call.perform t).table = view t) :
      (d.perform (.build position call)).tables.map view =
        d.tables.map view := by
    apply List.ext_getElem?
    intro i
    unfold perform
    simp only [List.getElem?_map, List.getElem?_modify]
    cases d.tables[i]? with
    | none => rfl
    | some t =>
        by_cases here : position = i
        · simp [here, keeps]
        · simp [here]
  refine ⟨?_, ?_⟩
  · rw [← List.forall_mem_map, sameNames Table.name fun t => (kept t).1,
      List.forall_mem_map]
    exact registered.textNames
  · rw [sameNames Table.qualifiedName]
    · exact registered.distinctNames
    · intro t
      unfold Table.qualifiedName
      rw [(kept t).1, (kept t).2]

theorem step
    (registered : d.Registered) {step : Step} (named : step.HasTextName) :
    (d.perform step).Registered := by
  cases step with
  | declare name schema =>
      rcases perform_declare_of_isText named with same | added
      · rw [same]
        exact registered
      · exact registered.of_addTable named added
  | build position call => exact registered.of_build position call

end Registered

/-- All through a session that declares tables under texts, their qualified
names are different. -/
theorem registered_afterSteps
    {steps : List Step} (named : ∀ step ∈ steps, step.HasTextName) :
    (empty.afterSteps steps).Registered := by
  induction steps using List.reverseRecOn with
  | nil =>
      exact ⟨fun t member => absurd member List.not_mem_nil, List.nodup_nil⟩
  | append_singleton earlier step inductionHypothesis =>
      rw [afterSteps_append]
      apply Registered.step
      · exact inductionHypothesis fun other member =>
          named other (List.mem_append_left _ member)
      · exact named step (by simp)

end Database

end Tablesmith.Schema

import Tablesmith.Proofs.Config.Reading
import Tablesmith.Proofs.Value.Entries

/-!
# Output paths of a loaded configuration

An output path that the caller asks for takes the place of the one in the file,
also if it is empty.  Without one the file counts.
-/

namespace Tablesmith

namespace Value

/-! ## Entries of a dictionary inside itself -/

variable {entries : List (Value × Value)} {name : String}

/-- What stands for a dictionary inside it does not change where an entry is
found. -/
theorem lookupText?_unfoldEntries (whole : Value) (depth : Nat) :
    lookupText? (unfoldEntries whole depth entries) name =
      (lookupText? entries name).map (unfold whole depth) := by
  induction entries with
  | nil => rfl
  | cons entry rest inductionHypothesis =>
      obtain ⟨k, v⟩ := entry
      rw [unfoldEntries, lookupText?_cons, lookupText?_cons,
        inductionHypothesis]
      split
      · rfl
      · rfl

theorem unfold_enclosing
    (whole : Value) (depth levels : Nat) (isDict : Bool) :
    unfold whole depth (.enclosing levels isDict) = whole ∨
      unfold whole depth (.enclosing levels isDict) =
        .enclosing levels isDict := by
  rw [unfold]
  by_cases meant : levels = depth
  · exact Or.inl (if_pos meant)
  · exact Or.inr (if_neg meant)

end Value

end Tablesmith

namespace Tablesmith.Config

open Tablesmith.Disk

/-! ## Checks of plain values -/

/-- A check takes a reference to an enclosing dictionary for what it takes the
dictionary itself for. -/
def IsShallow {α : Type} (check : Value → Checked α) : Prop :=
  ∀ (whole : List (Value × Value)) (depth : Nat) (v : Value),
    check (Value.unfold (.dict whole) depth v) = check v

section Shallow

variable {α : Type} {check : Value → Checked α}

theorem givenText_unfold
    (whole : List (Value × Value)) (depth : Nat) (v : Value) :
    givenText (Value.unfold (.dict whole) depth v) = givenText v := by
  cases v with
  | enclosing levels isDict =>
      rcases Value.unfold_enclosing (.dict whole) depth levels isDict with
        meant | kept
      · rw [meant]
        rfl
      · rw [kept]
  | _ => rfl

theorem isShallow_checkText : IsShallow checkText := by
  intro whole depth v
  unfold checkText
  rw [givenText_unfold]

theorem isShallow_checkFilledText : IsShallow checkFilledText := by
  intro whole depth v
  unfold checkFilledText
  rw [isShallow_checkText]

theorem isShallow_checkPositive : IsShallow checkPositive := by
  intro whole depth v
  have integer :
      checkInteger (Value.unfold (.dict whole) depth v) = checkInteger v := by
    cases v with
    | enclosing levels isDict =>
        rcases Value.unfold_enclosing (.dict whole) depth levels isDict with
          meant | kept
        · rw [meant]
          rfl
        · rw [kept]
    | _ => rfl
  unfold checkPositive
  rw [integer]

theorem IsShallow.orNull (shallow : IsShallow check) :
    IsShallow (Checked.orNull check) := by
  intro whole depth v
  have isNull : (Value.unfold (.dict whole) depth v).isNull = v.isNull := by
    cases v with
    | enclosing levels isDict =>
        rcases Value.unfold_enclosing (.dict whole) depth levels isDict with
          meant | kept
        · rw [meant]
          rfl
        · rw [kept]
    | _ => rfl
  unfold Checked.orNull
  rw [isNull, shallow]

theorem findField?_unfoldEntries
    (whole : Value) (depth : Nat) (entries : Entries) (names : List String) :
    findField? (Value.unfoldEntries whole depth entries) names =
      (findField? entries names).map fun p =>
        (p.1, Value.unfold whole depth p.2) := by
  induction names with
  | nil => rfl
  | cons name rest inductionHypothesis =>
      rw [findField?, findField?, Value.lookupText?_unfoldEntries]
      cases Value.lookupText? entries name with
      | none => exact inductionHypothesis
      | some v => rfl

/-- What such a check reads out of a dictionary does not depend on what the
dictionary contains of itself. -/
theorem IsShallow.fieldOr_unfoldEntries
    (shallow : IsShallow check) (absent : Checked α)
    (whole : List (Value × Value)) (depth : Nat) (entries : Entries)
    (names : List String) :
    fieldOr absent (Value.unfoldEntries (.dict whole) depth entries) names
        check =
      fieldOr absent entries names check := by
  unfold fieldOr
  rw [findField?_unfoldEntries]
  cases findField? entries names with
  | none => rfl
  | some p =>
      show (check (Value.unfold (.dict whole) depth p.2)).within _ = _
      rw [shallow]

end Shallow

/-! ## Outputs -/

/-- The output path of a configuration under a key: what the caller asks for,
and else what the entries of the file hold, from the root. -/
structure OutputChosen
    (working : Path)
    (entries : List (Value × Value))
    (key : String)
    (asked : Option String)
    (output : Option String) :
    Prop where
  ofCaller : ∀ text, asked = some text → output = some (fromRoot working text)
  ofFile :
    asked = none → ∃ given, nullableField entries key checkText = .ok given ∧
      output = given.map (fromRoot working)

/-- Of the values that are set for a key the last one counts, and else the
entry that was there. -/
theorem lookupText?_override
    (attributes : Attributes) (entries : List (Value × Value)) (key : String) :
    Value.lookupText? (override entries attributes) key =
      (attributes.reverse.lookup key).or (Value.lookupText? entries key) := by
  unfold override
  induction attributes generalizing entries with
  | nil => rfl
  | cons earliest rest inductionHypothesis =>
      obtain ⟨name, value⟩ := earliest
      rw [List.foldl_cons, inductionHypothesis, Value.lookupText?_put,
        List.reverse_cons, List.lookup_append, Option.or_assoc]
      congr 1
      by_cases same : key = name
      · simp [same]
      · rw [if_neg same, List.lookup_cons, beq_false_of_ne same]
        rfl

/-- A field that is read from a dictionary with entries in place of those of a
file holds what the caller asks for, and else what the file holds. -/
theorem chosen_of_nullableField
    {entries whole : List (Value × Value)} {attributes : Attributes}
    {key : String} {asked given : Option String}
    (isAsked : attributes.reverse.lookup key = asked.map Value.text)
    (checked :
      nullableField
        (Value.unfoldEntries (.dict whole) 0 (override entries attributes))
        key checkText = .ok given) :
    (∀ text, asked = some text → given = some text) ∧
      (asked = none → nullableField entries key checkText = .ok given) := by
  have found (entries : List (Value × Value)) :
      Value.lookupText?
          (Value.unfoldEntries (.dict whole) 0 (override entries attributes))
          key =
        ((asked.map Value.text).or (Value.lookupText? entries key)).map
          (Value.unfold (.dict whole) 0) := by
    rw [Value.lookupText?_unfoldEntries, lookupText?_override, isAsked]
  have fields := optionalField_eq_ok_iff.mp checked
  rw [found] at fields
  constructor
  · rintro text rfl
    rcases fields with ⟨absent, _⟩ | ⟨v, isText, checked⟩
    · simp at absent
    · obtain rfl : Value.text text = v := by
        simpa [Value.unfold] using isText
      cases checked
      rfl
  · rintro rfl
    apply optionalField_eq_ok_iff.mpr
    rw [Option.map_none, Option.none_or] at fields
    rcases fields with ⟨absent, rfl⟩ | ⟨v, isThere, checked⟩
    · exact Or.inl ⟨by simpa using absent, rfl⟩
    · obtain ⟨own, isOwn, rfl⟩ := Option.map_eq_some_iff.mp isThere
      rw [isShallow_checkText.orNull] at checked
      exact Or.inr ⟨own, isOwn, checked⟩

theorem OutputChosen.of_nullableField
    {working : Path} {entries whole : List (Value × Value)}
    {attributes : Attributes} {key : String} {asked given : Option String}
    (isAsked : attributes.reverse.lookup key = asked.map Value.text)
    (checked :
      nullableField
        (Value.unfoldEntries (.dict whole) 0 (override entries attributes))
        key checkText = .ok given) :
    OutputChosen working entries key asked
      (given.map (fromRoot working)) := by
  obtain ⟨ofCaller, ofFile⟩ := chosen_of_nullableField isAsked checked
  constructor
  · intro text isText
    rw [ofCaller text isText]
    rfl
  · intro notAsked
    exact ⟨given, ofFile notAsked, rfl⟩

/-- The output paths of a loaded configuration are those that the caller asks
for, and else those of the file. -/
theorem outputsChosen_of_load
    {disk : Disk} {path : String} {attributes : Attributes}
    {c : Configuration} {sql types : Option String}
    (sqlAsked :
      (overriding attributes).reverse.lookup "sql_output" =
        sql.map Value.text)
    (typesAsked :
      (overriding attributes).reverse.lookup "types_output" =
        types.map Value.text)
    (loaded : (load disk path attributes).result = .ok c) :
    ∃ entries, readEntries disk path = .ok entries ∧
      OutputChosen disk.working entries "sql_output" sql c.sqlOutput ∧
      OutputChosen disk.working entries "types_output" types c.typesOutput := by
  have course := load_course disk path attributes
  rw [loaded] at course
  cases course with
  | @loaded bytes entries valid opens isDict accepted located =>
      refine ⟨entries, ?_, ?_⟩
      · rw [readEntries_of_opens opens, isDict]
      · obtain ⟨_, isModel, read⟩ := openModel_eq_ok_iff.mp accepted
        cases isModel
        obtain ⟨⟨_, sqlOutput, typesOutput, _, _⟩, fields, rfl⟩ :=
          Checked.map_eq_ok_iff.mp read
        obtain ⟨_, fields⟩ := Checked.both_eq_ok_iff.mp fields
        obtain ⟨sqlRead, fields⟩ := Checked.both_eq_ok_iff.mp fields
        obtain ⟨typesRead, _⟩ := Checked.both_eq_ok_iff.mp fields
        exact ⟨.of_nullableField sqlAsked sqlRead,
          .of_nullableField typesAsked typesRead⟩

end Tablesmith.Config

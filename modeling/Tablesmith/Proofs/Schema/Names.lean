import Mathlib.Data.List.Basic
import Mathlib.Data.List.Nodup
import Mathlib.Data.List.Perm.Subperm
import Tablesmith.Schema.Builder

/-!
# Names that are texts

A caller may hand any value to a builder as a name.  For names that are proper
texts, equality of values is equality, every name can be a key, and joining
names cannot fail.
-/

namespace Tablesmith

open Tablesmith.Text

namespace Value

def IsText (v : Value) : Prop :=
  ∃ s, v = .text s

@[simp]
theorem text?_text (s : String) : (Value.text s).text? = some s := rfl

theorem text?_eq_some_iff {v : Value} {s : String} :
    v.text? = some s ↔ v = .text s := by
  cases v with
  | text t => simp
  | _ => simp [text?]

theorem text_injective : Function.Injective Value.text := by
  intro s t equality
  injection equality

/-- Nothing but the same text equals a text. -/
theorem beq_text_eq (v : Value) (key : String) :
    (v == Value.text key) = (v.text? == some key) := by
  change Value.same v (.text key) = _
  cases v with
  | text s => simp [Value.same, Bool.beq_eq_decide_eq]
  | bool b => cases b <;> simp [Value.same, sameNumbers, asNumber, text?]
  | _ => simp [Value.same, sameNumbers, asNumber, text?]

theorem beq_text_iff {v : Value} {s : String} :
    (v == Value.text s) = true ↔ v = .text s := by
  rw [beq_text_eq, beq_iff_eq]
  exact text?_eq_some_iff

@[simp]
theorem text_beq_text (s t : String) :
    (Value.text s == Value.text t) = decide (s = t) := by
  rw [beq_text_eq, text?_text, Option.some_beq_some, Bool.beq_eq_decide_eq]

theorem beq_iff_eq_of_isText {v w : Value} (text : w.IsText) :
    (v == w) = true ↔ v = w := by
  obtain ⟨s, rfl⟩ := text
  exact beq_text_iff

theorem IsText.isWritable {v : Value} (text : v.IsText) :
    v.isWritable = true := by
  obtain ⟨s, rfl⟩ := text
  rfl

theorem IsText.isAnyText {v : Value} (text : v.IsText) :
    v.isAnyText = true := by
  obtain ⟨s, rfl⟩ := text
  rfl

/-- Only lone surrogates keep a text from being a proper one. -/
theorem isWritable_of_isAnyText {v : Value} (text : v.isAnyText = true) :
    v.isWritable = true := by
  cases v with
  | text s => rfl
  | brokenText points => rfl
  | _ => cases text

theorem written_text (s : String) : (Value.text s).written = .ok s :=
  rfl

theorem map_display_map_text (texts : List String) :
    (texts.map Value.text).map display = texts := by
  rw [List.map_map]
  exact List.map_id texts

theorem isText_of_mem_map_text (names : List String) :
    ∀ v ∈ names.map Value.text, v.IsText := by
  intro v member
  obtain ⟨name, _, rfl⟩ := List.mem_map.mp member
  exact ⟨name, rfl⟩

/-- Values that are texts are the texts of some strings. -/
theorem exists_eq_map_text
    {vs : List Value} (texts : ∀ v ∈ vs, v.IsText) :
    ∃ names : List String, vs = names.map Value.text := by
  induction vs with
  | nil =>
      exact ⟨[], rfl⟩
  | cons v rest inductionHypothesis =>
      obtain ⟨s, rfl⟩ := texts v List.mem_cons_self
      obtain ⟨names, rfl⟩ :=
        inductionHypothesis fun w member =>
          texts w (List.mem_cons_of_mem _ member)
      exact ⟨s :: names, rfl⟩

theorem charOfCode_toNat (c : Char) : charOfCode c.toNat = c := by
  have isChar : c.toNat.isValidChar := c.valid
  unfold charOfCode
  rw [if_pos isChar, Char.ofNat_toNat]

/-- The characters of a proper text give back the text. -/
theorem ofCodes_codesOf (s : String) : ofCodes (codesOf s) = .text s := by
  have proper :
      ((codesOf s).all fun point => decide point.isValidChar) = true := by
    unfold codesOf
    rw [List.all_map, List.all_eq_true]
    intro c _
    exact decide_eq_true c.valid
  have sameChars : (codesOf s).map charOfCode = s.toList := by
    unfold codesOf
    rw [List.map_map]
    exact (List.map_congr_left fun c _ => charOfCode_toNat c).trans
      (List.map_id _)
  unfold ofCodes
  rw [if_pos proper, sameChars, String.ofList_toList]

theorem map_intercalate
    {α β : Type} (f : α → β) (separator : List α) (parts : List (List α)) :
    (List.intercalate separator parts).map f =
      List.intercalate (separator.map f) (parts.map (List.map f)) := by
  induction parts with
  | nil => rfl
  | cons part rest inductionHypothesis =>
      cases rest with
      | nil => simp
      | cons next others =>
          simp only [List.map_cons] at inductionHypothesis ⊢
          rw [List.intercalate_cons_cons, List.intercalate_cons_cons,
            List.map_append, List.map_append, inductionHypothesis]

theorem codesOf_intercalate (separator : String) (texts : List String) :
    codesOf (String.intercalate separator texts) =
      List.intercalate (codesOf separator) (texts.map codesOf) := by
  unfold codesOf
  rw [String.toList_intercalate, map_intercalate, List.map_map]
  rfl

/-- Proper texts are joined as such. -/
theorem joined_map_text (separator : String) (texts : List String) :
    joined separator (texts.map Value.text) =
      .text (String.intercalate separator texts) := by
  have sameCodes : (texts.map Value.text).map codes = texts.map codesOf := by
    rw [List.map_map]
    rfl
  unfold joined
  rw [sameCodes, ← codesOf_intercalate, ofCodes_codesOf]

theorem firstUnkeyable?_eq_none_iff {vs : List Value} :
    firstUnkeyable? vs = none ↔ ∀ v ∈ vs, v.unkeyable? = none := by
  induction vs with
  | nil => simp [firstUnkeyable?]
  | cons v rest inductionHypothesis =>
      rw [firstUnkeyable?, List.forall_mem_cons, ← inductionHypothesis]
      cases v.unkeyable? with
      | none => simp
      | some typeName => simp

theorem IsText.unkeyable?_eq_none {v : Value} (text : v.IsText) :
    v.unkeyable? = none := by
  obtain ⟨s, rfl⟩ := text
  simp [unkeyable?]

theorem firstUnkeyable?_of_texts
    {vs : List Value} (texts : ∀ v ∈ vs, v.IsText) :
    firstUnkeyable? vs = none :=
  firstUnkeyable?_eq_none_iff.mpr fun v member =>
    (texts v member).unkeyable?_eq_none

end Value

namespace Schema

@[simp]
theorem filterMap_text?_map_text (names : List String) :
    (names.map Value.text).filterMap Value.text? = names := by
  rw [List.filterMap_map]
  change names.filterMap some = names
  exact List.filterMap_some

/-- Joining texts cannot fail. -/
theorem joinNames_of_texts
    {separator : String} {names : List Value}
    (texts : ∀ name ∈ names, name.isAnyText = true) :
    joinNames separator names = .ok (Value.joined separator names) := by
  have allTexts : names.findIdx? (fun v => !v.isAnyText) = none := by
    rw [List.findIdx?_eq_none_iff]
    intro name member
    exact (Bool.not_eq_false' _).mpr (texts name member)
  unfold joinNames
  rw [allTexts]

@[simp]
theorem joinNames_map_text (separator : String) (names : List String) :
    joinNames separator (names.map Value.text) =
      .ok (.text (String.intercalate separator names)) := by
  rw [joinNames_of_texts fun v member =>
      (Value.isText_of_mem_map_text names v member).isAnyText,
    Value.joined_map_text]

/-- Only texts can be joined. -/
theorem exists_joinNames_iff {separator : String} {names : List Value} :
    (∃ joined, joinNames separator names = .ok joined) ↔
      ∀ name ∈ names, name.isAnyText = true := by
  constructor
  · rintro ⟨joined, joins⟩ name member
    unfold joinNames at joins
    split at joins
    · cases joins
    next allTexts =>
      rw [List.findIdx?_eq_none_iff] at allTexts
      exact (Bool.not_eq_false' _).mp (allTexts name member)
  · intro texts
    exact ⟨_, joinNames_of_texts texts⟩

namespace Table

theorem allDifferent_iff_nodup
    {names : List Value} (texts : ∀ name ∈ names, name.IsText) :
    allDifferent names = true ↔ names.Nodup := by
  induction names with
  | nil => simp [allDifferent]
  | cons name rest inductionHypothesis =>
      have restTexts : ∀ w ∈ rest, w.IsText := fun w member =>
        texts w (List.mem_cons_of_mem _ member)
      have headText := texts name List.mem_cons_self
      have absent :
          (!rest.any fun w => w == name) = true ↔ name ∉ rest := by
        rw [Bool.not_eq_true', List.any_eq_false]
        constructor
        · intro different member
          exact different name member <|
            (Value.beq_iff_eq_of_isText headText).mpr rfl
        · intro absent w member same
          have equality :=
            (Value.beq_iff_eq_of_isText headText).mp same
          exact absent (equality ▸ member)
      rw [allDifferent, Bool.and_eq_true, absent, List.nodup_cons,
        inductionHypothesis restTexts]

@[simp]
theorem namesIn_list (items : List Value) :
    namesIn (.list items) = .ok (Value.unfoldAll (.list items) 0 items) :=
  rfl

theorem qualifiedName?_of_isWritable
    {t : Table} (writable : t.name.isWritable = true) :
    t.qualifiedName? = .ok t.qualifiedName := by
  unfold qualifiedName?
  rw [writable, Bool.or_true, if_pos rfl]

/-- A table whose name can be written refuses by a report. -/
theorem refusal_of_isWritable
    {t : Table} (writable : t.name.isWritable = true)
    (message : String) (names : List Value) (suggestions : List String) :
    t.refusal message names suggestions =
      .report
        (.invalidModel message t.qualifiedName (some names) suggestions) := by
  unfold refusal
  rw [qualifiedName?_of_isWritable writable]

/-- The columns of a table have texts as names. -/
def HasTextNames (t : Table) : Prop :=
  ∀ c ∈ t.columns, c.name.IsText

/-- The names of all columns can be keys. -/
def HasKeyableNames (t : Table) : Prop :=
  ∀ c ∈ t.columns, c.name.unkeyable? = none

theorem HasTextNames.keyable {t : Table} (texts : t.HasTextNames) :
    t.HasKeyableNames :=
  fun c member => (texts c member).unkeyable?_eq_none

/-- A name is free exactly if no column has it. -/
theorem column?_eq_none_iff {t : Table} {name : Value} (text : name.IsText) :
    t.column? name = none ↔ ∀ c ∈ t.columns, c.name ≠ name := by
  unfold Table.column?
  rw [List.find?_eq_none]
  apply forall₂_congr
  intro c _
  exact not_congr (Value.beq_iff_eq_of_isText text)

end Table

end Schema

end Tablesmith

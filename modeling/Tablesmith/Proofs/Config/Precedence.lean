import Tablesmith.Proofs.Config.Overriding

/-!
# Precedence of the caller

Two files that differ only in what the caller sets in their place give the same
configuration or the same report.  A value of a file that is set aside is never
checked, and no other attribute of the caller is looked at.
-/

namespace Tablesmith

namespace Value

/-! ## References out of a value -/

/-- No reference climbs `depth` levels out of a value. -/
def IsClosed (depth : Nat) (v : Value) : Prop :=
  ∀ whole other, unfold whole depth v = unfold other depth v

section Closed

variable {whole other : Value}

mutual

/-- Two values that stand for a reference in the same place are the same,
unless there is no such reference. -/
theorem eq_or_isClosed (depth : Nat) (v : Value)
    (agree : unfold whole depth v = unfold other depth v) :
    whole = other ∨ IsClosed depth v := by
  cases v with
  | enclosing levels isDict =>
      by_cases meant : levels = depth
      · rw [unfold, unfold, if_pos meant, if_pos meant] at agree
        exact Or.inl agree
      · refine Or.inr fun front back => ?_
        rw [unfold, unfold, if_neg meant, if_neg meant]
  | list items =>
      rw [unfold, unfold, list.injEq] at agree
      refine (eq_or_closedAll (depth + 1) items agree).imp_right ?_
      intro closed front back
      rw [unfold, unfold, closed front back]
  | tuple items =>
      rw [unfold, unfold, tuple.injEq] at agree
      refine (eq_or_closedAll (depth + 1) items agree).imp_right ?_
      intro closed front back
      rw [unfold, unfold, closed front back]
  | set items =>
      rw [unfold, unfold, set.injEq] at agree
      refine (eq_or_closedAll (depth + 1) items agree).imp_right ?_
      intro closed front back
      rw [unfold, unfold, closed front back]
  | dict entries =>
      rw [unfold, unfold, dict.injEq] at agree
      refine (eq_or_closedEntries (depth + 1) entries agree).imp_right ?_
      intro closed front back
      rw [unfold, unfold, closed front back]
  | _ => exact Or.inr fun _ _ => rfl

theorem eq_or_closedAll (depth : Nat) (items : List Value)
    (agree : unfoldAll whole depth items = unfoldAll other depth items) :
    whole = other ∨
      ∀ front back,
        unfoldAll front depth items = unfoldAll back depth items := by
  cases items with
  | nil => exact Or.inr fun _ _ => rfl
  | cons v rest =>
      rw [unfoldAll, unfoldAll, List.cons.injEq] at agree
      rcases eq_or_isClosed depth v agree.1 with equal | closed
      · exact Or.inl equal
      · refine (eq_or_closedAll depth rest agree.2).imp_right ?_
        intro closedRest front back
        rw [unfoldAll, unfoldAll, closed front back, closedRest front back]

theorem eq_or_closedEntries (depth : Nat) (entries : List (Value × Value))
    (agree :
      unfoldEntries whole depth entries = unfoldEntries other depth entries) :
    whole = other ∨
      ∀ front back,
        unfoldEntries front depth entries =
          unfoldEntries back depth entries := by
  cases entries with
  | nil => exact Or.inr fun _ _ => rfl
  | cons entry rest =>
      obtain ⟨k, v⟩ := entry
      rw [unfoldEntries, unfoldEntries, List.cons.injEq, Prod.mk.injEq] at agree
      rcases eq_or_isClosed depth v agree.1.2 with equal | closed
      · exact Or.inl equal
      · refine (eq_or_closedEntries depth rest agree.2).imp_right ?_
        intro closedRest front back
        rw [unfoldEntries, unfoldEntries, closed front back,
          closedRest front back]

end

end Closed

/-- Two dictionaries agree under a key: the same is written there, and it is the
same once it is unfolded.  The second part matters only for a value that
contains its dictionary. -/
structure AgreeAt (key : String) (entries others : List (Value × Value)) :
    Prop where
  held : lookupText? entries key = lookupText? others key
  unfolded :
    lookupText? (unfoldEntries (.dict entries) 0 entries) key =
      lookupText? (unfoldEntries (.dict others) 0 others) key

/-- Dictionaries that hold the same agree, if it does not contain them. -/
theorem AgreeAt.of_isClosed
    {key : String} {entries others : List (Value × Value)}
    (held : lookupText? entries key = lookupText? others key)
    (closed : ∀ v, lookupText? entries key = some v → IsClosed 0 v) :
    AgreeAt key entries others := by
  refine ⟨held, ?_⟩
  rw [lookupText?_unfoldEntries, lookupText?_unfoldEntries, ← held]
  cases found : lookupText? entries key with
  | none => rfl
  | some v => rw [Option.map_some, Option.map_some, closed v found]

/-- Where different dictionaries agree, what they hold does not depend on the
dictionary around it. -/
theorem AgreeAt.isClosed
    {key : String} {entries others : List (Value × Value)} {v : Value}
    (agree : AgreeAt key entries others) (differ : entries ≠ others)
    (found : lookupText? entries key = some v) :
    IsClosed 0 v := by
  have unfolded := agree.unfolded
  rw [lookupText?_unfoldEntries, lookupText?_unfoldEntries, ← agree.held,
    found, Option.map_some, Option.map_some, Option.some_inj] at unfolded
  rcases eq_or_isClosed 0 v unfolded with equal | closed
  · exact absurd (dict.inj equal) differ
  · exact closed

end Value

end Tablesmith

namespace Tablesmith.Config

open Tablesmith.Disk Tablesmith.Log

/-! ## What the caller sets -/

/-- An attribute of the caller that is set in place of the file. -/
structure IsOverride (name : String) (value : Value) : Prop where
  isOutput : name = "sql_output" ∨ name = "types_output"
  notNull : value ≠ .null

def Overrides (attributes : Attributes) (key : String) : Prop :=
  ∃ value, (key, value) ∈ attributes ∧ IsOverride key value

theorem mem_overriding_iff
    {attributes : Attributes} {name : String} {value : Value} :
    (name, value) ∈ overriding attributes ↔
      (name, value) ∈ attributes ∧ IsOverride name value := by
  have isNull : value.isNull = false ↔ value ≠ .null := by
    cases value <;> simp [Value.isNull]
  have isKey :
      callerKeys.contains name = true ↔
        name = "sql_output" ∨ name = "types_output" := by
    simp [callerKeys]
  unfold overriding
  rw [List.mem_filter, Bool.and_eq_true, isKey, Bool.not_eq_true', isNull]
  exact ⟨fun ⟨isIn, isOutput, notNull⟩ => ⟨isIn, isOutput, notNull⟩,
    fun ⟨isIn, isOutput, notNull⟩ => ⟨isIn, isOutput, notNull⟩⟩

theorem lookup_overriding_eq_none_iff
    {attributes : Attributes} {key : String} :
    (overriding attributes).reverse.lookup key = none ↔
      ¬ Overrides attributes key := by
  rw [List.lookup_eq_none_iff]
  constructor
  · rintro none ⟨value, isSet⟩
    have isIn := List.mem_reverse.mpr (mem_overriding_iff.mpr isSet)
    simpa using none _ isIn
  · rintro notSet ⟨name, value⟩ isIn
    rw [bne_iff_ne]
    rintro rfl
    exact notSet ⟨value, mem_overriding_iff.mp (List.mem_reverse.mp isIn)⟩

/-- An attribute that is not set in place of the file could as well be
missing. -/
theorem overriding_append_cons
    {before after : Attributes} {name : String} {value : Value}
    (notSet : ¬ IsOverride name value) :
    overriding (before ++ (name, value) :: after) =
      overriding (before ++ after) := by
  have dropped :
      overriding ((name, value) :: after) = overriding after := by
    apply List.filter_cons_of_neg
    intro kept
    have isIn : (name, value) ∈ overriding [(name, value)] :=
      List.mem_filter.mpr ⟨List.mem_singleton_self _, kept⟩
    exact notSet (mem_overriding_iff.mp isIn).2
  unfold overriding at dropped ⊢
  rw [List.filter_append, List.filter_append, dropped]

/-! ## Two files -/

section Fields

variable {entries others : Entries} {attributes : Attributes} {key : String}

/-- The entries of a file as they are validated, with those of the caller in
their place. -/
def validatedEntries (entries : Entries) (attributes : Attributes) : Entries :=
  Value.unfoldEntries (givenValue entries attributes) 0
    (override entries (overriding attributes))

theorem fieldOr_congr {α : Type} (absent : Checked α)
    (check : Value → Checked α)
    (same : Value.lookupText? entries key = Value.lookupText? others key) :
    fieldOr absent entries [key] check = fieldOr absent others [key] check := by
  unfold fieldOr findField?
  rw [same]
  rfl

/-- A field that the caller does not set is read as in the other file. -/
theorem fieldOr_validated_of_agree {α : Type} (absent : Checked α)
    (check : Value → Checked α)
    (agree : Value.AgreeAt key entries others) (differ : entries ≠ others)
    (notSet : ¬ Overrides attributes key) :
    fieldOr absent (validatedEntries entries attributes) [key] check =
      fieldOr absent (validatedEntries others attributes) [key] check := by
  apply fieldOr_congr
  unfold validatedEntries
  rw [Value.lookupText?_unfoldEntries, Value.lookupText?_unfoldEntries,
    lookupText?_override, lookupText?_override,
    lookup_overriding_eq_none_iff.mpr notSet, Option.none_or, Option.none_or,
    ← agree.held]
  cases found : Value.lookupText? entries key with
  | none => rfl
  | some v =>
      rw [Option.map_some, Option.map_some, agree.isClosed differ found]

/-- What a file holds under a key that the caller sets does not count. -/
theorem nullableField_validated_of_overrides
    (isSet : Overrides attributes key) :
    nullableField (validatedEntries entries attributes) key checkText =
      nullableField (validatedEntries others attributes) key checkText := by
  have ofCaller :
      Value.lookupText? (override entries (overriding attributes)) key =
        Value.lookupText? (override others (overriding attributes)) key := by
    rw [lookupText?_override, lookupText?_override]
    cases found : (overriding attributes).reverse.lookup key with
    | none => exact absurd isSet (lookup_overriding_eq_none_iff.mp found)
    | some value => rfl
  unfold nullableField optionalField validatedEntries
  rw [givenValue, givenValue, isShallow_checkText.orNull.fieldOr_unfoldEntries,
    isShallow_checkText.orNull.fieldOr_unfoldEntries]
  exact fieldOr_congr _ _ ofCaller

theorem not_overrides_of_ne
    (notSql : key ≠ "sql_output") (notTypes : key ≠ "types_output") :
    ¬ Overrides attributes key := by
  rintro ⟨value, _, ⟨isSql | isTypes, _⟩⟩
  · exact notSql isSql
  · exact notTypes isTypes

/-- Files that agree wherever the caller sets nothing are read alike, and have
the same faults. -/
theorem checkConfiguration_givenValue
    (agree :
      ∀ key, ¬ Overrides attributes key → Value.AgreeAt key entries others) :
    checkConfiguration (givenValue entries attributes) =
      checkConfiguration (givenValue others attributes) := by
  -- Where the dictionaries differ, no value that counts contains its own.
  by_cases equal : entries = others
  · rw [equal]
  have untouched {α : Type} (absent : Checked α) (check : Value → Checked α)
      {key : String} (notSet : ¬ Overrides attributes key) :
      fieldOr absent (validatedEntries entries attributes) [key] check =
        fieldOr absent (validatedEntries others attributes) [key] check :=
    fieldOr_validated_of_agree absent check (agree key notSet) equal notSet
  have output (key : String) :
      nullableField (validatedEntries entries attributes) key checkText =
        nullableField (validatedEntries others attributes) key checkText := by
    by_cases isSet : Overrides attributes key
    · exact nullableField_validated_of_overrides isSet
    · exact untouched _ _ isSet
  have dialect :
      optionalField (validatedEntries entries attributes) "dialect"
          Schema.Dialect.standard checkDialect =
        optionalField (validatedEntries others attributes) "dialect"
          Schema.Dialect.standard checkDialect :=
    untouched _ _ (not_overrides_of_ne (by decide) (by decide))
  have database :
      nullableField (validatedEntries entries attributes) "database"
          checkSettings =
        nullableField (validatedEntries others attributes) "database"
          checkSettings :=
    untouched _ _ (not_overrides_of_ne (by decide) (by decide))
  have tables :
      requiredField (validatedEntries entries attributes) "tables"
          (checkFilledList checkTable) =
        requiredField (validatedEntries others attributes) "tables"
          (checkFilledList checkTable) :=
    untouched _ _ (not_overrides_of_ne (by decide) (by decide))
  have isModel (entries : Entries) :
      (givenValue entries attributes).entries? =
        some (validatedEntries entries attributes) := rfl
  unfold checkConfiguration openModel
  rw [isModel, isModel]
  dsimp only
  rw [dialect, output "sql_output", output "types_output", database, tables]

end Fields

/-! ## Loading -/

theorem load_of_readEntries
    {disk : Disk} {path : String} {entries : Entries}
    (isRead : readEntries disk path = .ok entries)
    (attributes : Attributes) :
    load disk path attributes =
      (do
        Logged.write (.debug logger ("Loaded configuration from " ++ path))
        configure disk.working path entries attributes) := by
  unfold load
  rw [isRead]
  rfl

theorem configure_eq_of_agree
    {entries others : Entries} {attributes : Attributes}
    (working : Path) (path : String)
    (agree :
      ∀ key, ¬ Overrides attributes key → Value.AgreeAt key entries others) :
    configure working path entries attributes =
      configure working path others attributes := by
  have valid (file : Value) :
      validate (givenValue entries attributes) file =
        validate (givenValue others attributes) file := by
    unfold validate
    rw [checkConfiguration_givenValue agree]
  unfold givenValue at valid
  unfold configure
  dsimp only
  rw [valid]

/-- What the caller sets takes the place of the file completely: files that
agree under all other keys are loaded alike, whatever they hold there, and no
other attribute of the caller makes a difference. -/
theorem caller_takes_precedence
    (disk : Disk) (path : String) (attributes : Attributes) :
    (∀ (other : Disk) (entries others : Entries),
        other.working = disk.working →
        readEntries disk path = .ok entries →
        readEntries other path = .ok others →
        (∀ key, ¬ Overrides attributes key →
          Value.AgreeAt key entries others) →
        load other path attributes = load disk path attributes) ∧
      ∀ before name value after,
        attributes = before ++ (name, value) :: after →
        ¬ IsOverride name value →
        load disk path (before ++ after) = load disk path attributes := by
  constructor
  · intro other entries others working isRead otherRead agree
    rw [load_of_readEntries isRead, load_of_readEntries otherRead, working,
      configure_eq_of_agree _ _ agree]
  · rintro before name value after rfl notSet
    unfold load configure
    rw [overriding_append_cons notSet]

/-- A disk with a configuration file. -/
def diskOf (text : String) : Disk where
  working := ⟨"/", []⟩
  entries := [(⟨"/", ["schema.yaml"]⟩, .file text.toUTF8.data.toList)]

def draftDisk : Disk := diskOf "sql_output: draft.sql\ndialect: mysql\n"

def plainDisk : Disk := diskOf "dialect: mysql\n"

def textEntries (texts : List (String × String)) : Entries :=
  texts.map fun t => (.text t.1, .text t.2)

theorem eq_textEntries
    {entries : Entries} {texts : List (String × String)}
    (areTexts :
      (entries.map fun e => (e.1.text?, e.2.text?)) =
        texts.map fun t => (some t.1, some t.2)) :
    entries = textEntries texts := by
  induction entries generalizing texts with
  | nil =>
      rw [List.map_nil, eq_comm, List.map_eq_nil_iff] at areTexts
      subst areTexts
      rfl
  | cons entry rest inductionHypothesis =>
      obtain ⟨k, v⟩ := entry
      rw [List.map_cons, eq_comm, List.map_eq_cons_iff] at areTexts
      obtain ⟨t, ts, rfl, isFirst, areRest⟩ := areTexts
      obtain ⟨isKey, isValue⟩ := Prod.mk.inj isFirst
      rw [eq_comm, Value.text?_eq_some_iff] at isKey isValue
      subst isKey isValue
      rw [inductionHypothesis areRest.symm]
      rfl

theorem readEntries_of_texts
    {disk : Disk} {path : String} {texts : List (String × String)}
    (areTexts :
      ((readEntries disk path).toOption.map fun entries =>
          entries.map fun e => (e.1.text?, e.2.text?)) =
        some (texts.map fun t => (some t.1, some t.2))) :
    readEntries disk path = .ok (textEntries texts) := by
  cases isRead : readEntries disk path with
  | error failure =>
      rw [isRead] at areTexts
      cases areTexts
  | ok entries =>
      rw [isRead] at areTexts
      rw [eq_textEntries (Option.some.inj areTexts)]

/-- A caller who asks for the script to go nowhere. -/
def nowhere : Attributes := [("verbose", .bool true), ("sql_output", .text "")]

theorem agreeAt_of_not_nowhere
    (key : String) (notSet : ¬ Overrides nowhere key) :
    Value.AgreeAt key
      (textEntries [("sql_output", "draft.sql"), ("dialect", "mysql")])
      (textEntries [("dialect", "mysql")]) := by
  have isSet : Overrides nowhere "sql_output" :=
    ⟨.text "", List.mem_cons_of_mem _ (List.mem_singleton_self _), Or.inl rfl,
      by simp⟩
  have isOther : "sql_output" ≠ key := by
    rintro rfl
    exact notSet isSet
  have held :
      Value.lookupText?
          (textEntries [("sql_output", "draft.sql"), ("dialect", "mysql")])
          key =
        Value.lookupText? (textEntries [("dialect", "mysql")]) key := by
    rw [textEntries, List.map_cons, Value.lookupText?_cons,
      if_neg (by simpa [Value.text?] using isOther)]
    rfl
  refine .of_isClosed held fun v found => ?_
  rw [held, textEntries, List.map_singleton, Value.lookupText?_cons] at found
  split at found
  · cases found
    exact fun _ _ => rfl
  · cases found

/-- An empty output path takes the place of one that is not empty, and of one
that is missing. -/
theorem nowhere_precedence :
    readEntries draftDisk "schema.yaml" =
        .ok (textEntries [("sql_output", "draft.sql"), ("dialect", "mysql")]) ∧
      readEntries plainDisk "schema.yaml" =
        .ok (textEntries [("dialect", "mysql")]) ∧
      load plainDisk "schema.yaml" nowhere =
        load draftDisk "schema.yaml" nowhere ∧
      load draftDisk "schema.yaml" [("sql_output", .text "")] =
        load draftDisk "schema.yaml" nowhere := by
  have draftRead :
      readEntries draftDisk "schema.yaml" =
        .ok (textEntries [("sql_output", "draft.sql"), ("dialect", "mysql")]) :=
    readEntries_of_texts (by decide +kernel)
  have plainRead :
      readEntries plainDisk "schema.yaml" =
        .ok (textEntries [("dialect", "mysql")]) :=
    readEntries_of_texts (by decide +kernel)
  have noOverride : ¬ IsOverride "verbose" (.bool true) := by
    rintro ⟨isSql | isTypes, _⟩
    · exact absurd isSql (by decide)
    · exact absurd isTypes (by decide)
  have precedence := caller_takes_precedence draftDisk "schema.yaml" nowhere
  refine ⟨draftRead, plainRead, ?_, ?_⟩
  · exact precedence.1 plainDisk _ _ rfl draftRead plainRead
      agreeAt_of_not_nowhere
  · exact precedence.2 [] "verbose" (.bool true) [("sql_output", .text "")] rfl
      noOverride

end Tablesmith.Config

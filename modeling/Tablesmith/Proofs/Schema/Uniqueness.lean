import Tablesmith.Proofs.Schema.Endings

/-!
# Uniqueness constraints over named columns

A table finds the columns of a uniqueness constraint by asking each of its
columns whether it is named, and does not walk through the names.  No two
columns of a table that calls have built are named by the same text, so that
the columns found are the named ones, each once; and the order in which the
names are given shows in nothing but the report about names that do not fit.
-/

namespace Tablesmith.Schema

namespace Table

/-- The texts among the names of the columns. -/
def textNames (t : Table) : List String :=
  t.columns.filterMap fun c => c.name.text?

/-! ## The names in a built table -/

section Calls

variable {t : Table}

/-- No call gives a column a text that names another one already. -/
theorem nodup_textNames_perform
    (different : t.textNames.Nodup) (call : Call) :
    (call.perform t).table.textNames.Nodup := by
  unfold textNames at different ⊢
  rcases columns_perform call t with same | ⟨c, free, same⟩
  · rw [same]
    exact different
  · rw [same, List.filterMap_append]
    cases word : c.name.text? with
    | none =>
        simpa [word] using different
    | some own =>
        have ownName : c.name = .text own := Value.text?_eq_some_iff.mp word
        have isNew : own ∉ t.columns.filterMap fun c => c.name.text? := by
          intro taken
          obtain ⟨other, member, otherWord⟩ := List.mem_filterMap.mp taken
          rw [ownName, column?_eq_none_iff ⟨own, rfl⟩] at free
          exact free other member (Value.text?_eq_some_iff.mp otherWord)
        simpa [word] using List.Nodup.concat isNew different

theorem nodup_textNames_afterCalls
    (different : t.textNames.Nodup) (calls : List Call) :
    (t.afterCalls calls).textNames.Nodup := by
  induction calls generalizing t with
  | nil => exact different
  | cons call rest inductionHypothesis =>
      exact inductionHypothesis (nodup_textNames_perform different call)

/-- Texts can be keys, so calls that name columns by texts leave nothing that
cannot be one. -/
theorem keyable_afterCalls
    (id : TableId) {name : Value} (writable : name.isWritable = true)
    (schema : Option String)
    {calls : List Call} (texts : ∀ call ∈ calls, call.HasTextNames) :
    ((Table.empty id name schema).afterCalls calls).HasKeyableNames := by
  obtain ⟨sound, _⟩ :=
    sound_afterCalls (sound_empty id name schema) writable texts
  exact sound.textNames.keyable

end Calls

/-! ## The columns that are found -/

section Found

variable {t : Table} {names : List String}

/-- The columns that texts name have texts for names, as many times as the
table has them. -/
theorem exists_words_columnsNamed (t : Table) (names : List String) :
    ∃ words : List String,
      (t.columnsNamed (names.map Value.text)).map Column.name =
          words.map Value.text ∧
        words.Sublist t.textNames := by
  have texts :
      ∀ v ∈ (t.columnsNamed (names.map Value.text)).map Column.name,
        v.IsText := by
    rw [List.forall_mem_map]
    intro c found
    obtain ⟨_, isNamed⟩ :=
      (mem_columnsNamed_iff (Value.isText_of_mem_map_text names)).mp found
    exact Value.isText_of_mem_map_text names _ isNamed
  obtain ⟨words, isWords⟩ := Value.exists_eq_map_text texts
  refine ⟨words, isWords, ?_⟩
  have sameWords :
      (t.columnsNamed (names.map Value.text)).filterMap
          (fun c => c.name.text?) =
        words := by
    rw [← filterMap_text?_map_text words, ← isWords, List.filterMap_map]
    rfl
  rw [← sameWords]
  exact (t.columnsNamed_sublist _).filterMap _

/-- Names that can be unique are those of the columns that are found. -/
theorem perm_of_canBeUnique
    (different : t.textNames.Nodup)
    (fits : t.CanBeUnique (names.map Value.text))
    {words : List String}
    (found :
      (t.columnsNamed (names.map Value.text)).map Column.name =
        words.map Value.text)
    (inTable : words.Sublist t.textNames) :
    words.Perm names := by
  have nameTexts := Value.isText_of_mem_map_text names
  have distinctNames : names.Nodup := fits.different.of_map _
  rw [List.perm_ext_iff_of_nodup (different.sublist inTable) distinctNames]
  intro word
  constructor
  · intro isFound
    have named : Value.text word ∈
        (t.columnsNamed (names.map Value.text)).map Column.name := by
      rw [found]
      exact List.mem_map_of_mem isFound
    obtain ⟨c, isColumn, ownName⟩ := List.mem_map.mp named
    have isGiven := ((mem_columnsNamed_iff nameTexts).mp isColumn).2
    rw [ownName, List.mem_map] at isGiven
    obtain ⟨name, member, same⟩ := isGiven
    cases same
    exact member
  · intro member
    have isFound :=
      names_subset_columnsNamed nameTexts fits (List.mem_map_of_mem member)
    rw [found, List.mem_map] at isFound
    obtain ⟨other, otherMember, same⟩ := isFound
    cases same
    exact otherMember

end Found

/-! ## Names in another order -/

/-- Two outcomes that are alike: both are a success, or both a refusal by the
same table with the same message, about the same names in some order. -/
inductive SameOutcome : Except Failure Unit → Except Failure Unit → Prop
  | done : SameOutcome (.ok ()) (.ok ())
  | refused
      (t : Table) (message : String) (suggestions : List String)
      {columns others : List Value} (sameColumns : columns.Perm others) :
      SameOutcome
        (.error (t.refusal message columns suggestions))
        (.error (t.refusal message others suggestions))

section Reordered

variable {t : Table} {names others : List Value}

theorem columnsNamed_congr (t : Table) (reordered : names.Perm others) :
    t.columnsNamed names = t.columnsNamed others := by
  unfold columnsNamed
  apply List.filter_congr
  intro c _
  exact reordered.any_eq

theorem sameOutcome_checkUnique
    (keyable : t.HasKeyableNames) (nameTexts : ∀ name ∈ names, name.IsText)
    (reordered : names.Perm others) :
    SameOutcome (t.checkUnique names) (t.checkUnique others) := by
  have otherTexts : ∀ name ∈ others, name.IsText := fun name member =>
    nameTexts name (reordered.mem_iff.mpr member)
  have sameMissing :=
    reordered.filter fun n => !(t.columns.map Column.name).any fun k => k == n
  have sameDifferent : allDifferent names = allDifferent others := by
    rw [Bool.eq_iff_iff, allDifferent_iff_nodup nameTexts,
      allDifferent_iff_nodup otherTexts]
    exact reordered.nodup_iff
  unfold checkUnique
  rw [← reordered.length_eq, ← sameDifferent]
  by_cases few : names.length < 2
  · rw [if_pos few, if_pos few]
    exact .refused _ _ _ reordered
  · rw [if_neg few, if_neg few]
    simp only [firstUnkeyable?_of_keyable keyable nameTexts,
      firstUnkeyable?_of_keyable keyable otherTexts]
    have sameEmpty :
        (names.filter fun n =>
            !(t.columns.map Column.name).any fun k => k == n).isEmpty =
          (others.filter fun n =>
            !(t.columns.map Column.name).any fun k => k == n).isEmpty := by
      rw [Bool.eq_iff_iff, List.isEmpty_iff, List.isEmpty_iff]
      exact ⟨fun empty => (empty ▸ sameMissing).symm.eq_nil,
        fun empty => (empty ▸ sameMissing).eq_nil⟩
    rw [← sameEmpty]
    split
    · exact .done
    · apply SameOutcome.refused
      split
      · exact reordered
      · exact sameMissing

/-- A call that is given names in another order leaves the same table. -/
theorem table_addUnique_congr
    (reordered : names.Perm others)
    (alike : SameOutcome (t.checkUnique names) (t.checkUnique others)) :
    (t.addUnique names).table = (t.addUnique others).table := by
  have sameColumns := t.columnsNamed_congr reordered
  unfold columnsNamed at sameColumns
  unfold addUnique
  rw [sameColumns]
  generalize t.checkUnique names = first at alike ⊢
  generalize t.checkUnique others = second at alike ⊢
  cases alike with
  | done => rfl
  | refused => rfl

end Reordered

/-! ## Asking for a constraint -/

/-- The call for a uniqueness constraint over the columns of the given
names. -/
def askUnique (t : Table) (names : List String) : Attempt :=
  (Call.unique (.list (names.map Value.text))).perform t

theorem unfoldAll_map_text (whole : Value) (depth : Nat) (names : List String) :
    Value.unfoldAll whole depth (names.map Value.text) =
      names.map Value.text := by
  induction names with
  | nil => rw [List.map_nil, Value.unfoldAll]
  | cons name rest inductionHypothesis =>
      rw [List.map_cons, Value.unfoldAll, inductionHypothesis, Value.unfold]
      all_goals simp

section Asked

variable {t : Table} {names : List String}

theorem askUnique_eq (t : Table) (names : List String) :
    t.askUnique names = t.addUnique (names.map Value.text) := by
  have items :
      namesIn (.list (names.map Value.text)) = .ok (names.map Value.text) := by
    rw [namesIn_list, unfoldAll_map_text]
  change t.addUniqueOf (.list (names.map Value.text)) = _
  unfold addUniqueOf
  rw [if_neg (by simp [Value.isAnyText]), items]

/-- A check that succeeds is followed by a constraint, since names that are
texts can be joined. -/
theorem askUnique_of_checked
    (checked : t.checkUnique (names.map Value.text) = .ok ()) :
    ∃ words : List String,
      (t.columnsNamed (names.map Value.text)).map Column.name =
          words.map Value.text ∧
        words.Sublist t.textNames ∧
        t.askUnique names =
          .done (t.addConstraint
            ⟨.text ("unique_" ++ String.intercalate "_" words), .unique,
              t.columnsNamed (names.map Value.text)⟩) := by
  obtain ⟨words, isWords, inTable⟩ := t.exists_words_columnsNamed names
  refine ⟨words, isWords, inTable, ?_⟩
  have joins :
      joinNames "_"
          ((t.columnsNamed (names.map Value.text)).map Column.name) =
        .ok (.text (String.intercalate "_" words)) := by
    rw [isWords, joinNames_map_text]
  rw [askUnique_eq, addUnique_of_checked checked joins]
  rfl

theorem askUnique_of_refused
    {failure : Failure}
    (refused : t.checkUnique (names.map Value.text) = .error failure) :
    t.askUnique names = .failed t failure := by
  rw [askUnique_eq]
  simp only [addUnique, refused]

/-- The call ends as the check of the names does. -/
theorem result_askUnique (t : Table) (names : List String) :
    (t.askUnique names).result = t.checkUnique (names.map Value.text) := by
  cases checked : t.checkUnique (names.map Value.text) with
  | error failure =>
      rw [askUnique_of_refused checked]
      rfl
  | ok =>
      obtain ⟨words, _, _, done⟩ := askUnique_of_checked checked
      rw [done]
      rfl

theorem canBeUnique_iff :
    t.CanBeUnique (names.map Value.text) ↔
      2 ≤ names.length ∧ names.Nodup ∧
        ∀ name ∈ names, ∃ c ∈ t.columns, c.name = .text name := by
  constructor
  · rintro ⟨several, different, known⟩
    rw [List.length_map] at several
    rw [List.forall_mem_map] at known
    exact ⟨several, different.of_map _,
      fun name member => List.mem_map.mp (known name member)⟩
  · rintro ⟨several, different, known⟩
    refine ⟨?_, different.map Value.text_injective, ?_⟩
    · rwa [List.length_map]
    · rw [List.forall_mem_map]
      exact fun name member => List.mem_map.mpr (known name member)

/-- On a table that calls have built, texts are accepted for a uniqueness
constraint exactly if there are at least two, all different and all names of
columns.  The constraint is then over the named columns, each once and in the
order of the table, and is named after them; otherwise nothing changes.  The
same texts in another order do the same. -/
theorem askUnique_exact_afterCalls
    (id : TableId) (tableName : Value) (schema : Option String)
    {calls : List Call}
    (keyable :
      ((Table.empty id tableName schema).afterCalls calls).HasKeyableNames)
    (names : List String) :
    let t := (Table.empty id tableName schema).afterCalls calls
    ((t.askUnique names).result = .ok () ↔
      2 ≤ names.length ∧ names.Nodup ∧
        ∀ name ∈ names, ∃ c ∈ t.columns, c.name = .text name) ∧
      ((t.askUnique names).result = .ok () →
        ∃ columns words, columns.Sublist t.columns ∧
          columns.map Column.name = words.map Value.text ∧
          words.Perm names ∧
          (t.askUnique names).table =
            t.addConstraint
              ⟨.text ("unique_" ++ String.intercalate "_" words), .unique,
                columns⟩) ∧
      (∀ failure, (t.askUnique names).result = .error failure →
        (t.askUnique names).table = t) ∧
      ∀ others, others.Perm names →
        (t.askUnique others).table = (t.askUnique names).table ∧
          SameOutcome (t.askUnique others).result
            (t.askUnique names).result := by
  intro t
  have different : t.textNames.Nodup := by
    apply nodup_textNames_afterCalls
    exact List.nodup_nil
  have nameTexts := Value.isText_of_mem_map_text names
  have checks := checkUnique_eq_ok_iff keyable nameTexts
  rw [result_askUnique]
  refine ⟨checks.trans canBeUnique_iff, ?_, ?_, ?_⟩
  · intro checked
    obtain ⟨words, isWords, inTable, done⟩ := askUnique_of_checked checked
    refine ⟨_, words, t.columnsNamed_sublist _, isWords, ?_, ?_⟩
    · exact perm_of_canBeUnique different (checks.mp checked) isWords inTable
    · rw [done]
      rfl
  · intro failure refused
    rw [askUnique_of_refused refused]
    rfl
  · intro others reordered
    have sameTexts := reordered.map Value.text
    have alike :=
      sameOutcome_checkUnique keyable (Value.isText_of_mem_map_text others)
        sameTexts
    rw [result_askUnique, askUnique_eq, askUnique_eq]
    exact ⟨table_addUnique_congr sameTexts alike, alike⟩

/-- The columns of a table of parts. -/
def partCalls : List Call :=
  [.column "string" (some (.text "maker")) [],
    .column "string" (some (.text "code")) [],
    .column "number" (some (.text "place")) []]

/-- Places and makers of parts are asked for in this order, and the constraint
is over makers and places; a code that is named twice changes nothing. -/
theorem askUnique_of_parts :
    let t := (Table.empty (.loose 0) (.text "parts") none).afterCalls partCalls
    (t.askUnique ["place", "maker"]).result = .ok () ∧
      ((t.askUnique ["place", "maker"]).table.constraints.map fun k =>
          (k.name.text?, k.columnNames.map Value.text?)) =
        [(some "unique_maker_place", [some "maker", some "place"])] ∧
      ∀ failure, (t.askUnique ["code", "code"]).result = .error failure →
        (t.askUnique ["code", "code"]).table = t := by
  intro t
  have texts : ∀ call ∈ partCalls, call.HasTextNames := by
    simp [partCalls, Call.HasTextNames, Value.lookupText?, Value.IsText]
  have keyable : t.HasKeyableNames := keyable_afterCalls _ rfl _ texts
  refine ⟨?_, by decide +kernel, ?_⟩
  · apply (askUnique_exact_afterCalls _ _ _ keyable ["place", "maker"]).1.mpr
    refine ⟨by decide, by decide, ?_⟩
    intro name member
    have found : (t.column? (.text name)).isSome = true := by
      simp only [List.mem_cons, List.not_mem_nil, or_false] at member
      rcases member with rfl | rfl
      · decide +kernel
      · decide +kernel
    obtain ⟨c, isColumn⟩ := Option.isSome_iff_exists.mp found
    have sameName : (c.name == Value.text name) = true :=
      List.find?_some
        (p := fun c : Column => c.name == Value.text name) isColumn
    exact ⟨c, List.mem_of_find?_eq_some isColumn,
      Value.beq_text_iff.mp sameName⟩
  · exact (askUnique_exact_afterCalls _ _ _ keyable ["code", "code"]).2.2.1

end Asked

end Table

end Tablesmith.Schema

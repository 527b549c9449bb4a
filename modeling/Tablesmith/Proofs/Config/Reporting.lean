import Mathlib.Data.List.Nodup
import Tablesmith.Proofs.Config.Collecting
import Tablesmith.Proofs.Config.Overriding

/-!
# What a rejected configuration reports

The report about a rejected configuration has a table of what is wrong at which
place, and says how many entries that table has.  It names every fault exactly
if no key that belongs to no field is written like the place of another fault.
-/

namespace Tablesmith.Config

/-! ## The table of faults -/

theorem faultTable_concat (faults : List Fault) (f : Fault) :
    faultTable (faults ++ [f]) =
      Value.put (faultTable faults) (.text (placeText f))
        (.text f.problem.message) := by
  unfold faultTable
  rw [List.foldl_append]
  rfl

/-- The places that the table names are those of the faults. -/
theorem isSome_lookupText?_faultTable (faults : List Fault) (name : String) :
    (Value.lookupText? (faultTable faults) name).isSome = true ↔
      name ∈ faults.map placeText := by
  induction faults using List.reverseRecOn with
  | nil => simp [faultTable, Value.lookupText?]
  | append_singleton earlier f inductionHypothesis =>
      rw [faultTable_concat, Value.lookupText?_put, List.map_append,
        List.mem_append, List.map_singleton, List.mem_singleton]
      by_cases same : name = placeText f
      · simp [same]
      · simp [same, inductionHypothesis]

theorem length_faultTable_concat (faults : List Fault) (f : Fault) :
    (faultTable (faults ++ [f])).length =
      if placeText f ∈ faults.map placeText then (faultTable faults).length
      else (faultTable faults).length + 1 := by
  rw [faultTable_concat, Value.length_put]
  simp only [isSome_lookupText?_faultTable]

theorem length_faultTable_le (faults : List Fault) :
    (faultTable faults).length ≤ faults.length := by
  induction faults using List.reverseRecOn with
  | nil => exact le_refl 0
  | append_singleton earlier f inductionHypothesis =>
      rw [length_faultTable_concat, List.length_append, List.length_singleton]
      split
      · omega
      · omega

/-- The table has an entry for every fault only if all of them are at different
places. -/
theorem length_faultTable_eq_iff (faults : List Fault) :
    (faultTable faults).length = faults.length ↔
      (faults.map placeText).Nodup := by
  induction faults using List.reverseRecOn with
  | nil => simp [faultTable]
  | append_singleton earlier f inductionHypothesis =>
      have bound := length_faultTable_le earlier
      rw [length_faultTable_concat, List.length_append, List.length_singleton,
        List.map_append, List.map_singleton, List.nodup_append_comm,
        List.singleton_append, List.nodup_cons, ← inductionHypothesis]
      split
      next taken =>
        constructor
        · intro equality
          omega
        · rintro ⟨free, _⟩
          exact absurd taken free
      next free =>
        constructor
        · intro equality
          exact ⟨free, by omega⟩
        · rintro ⟨_, equality⟩
          omega

/-- If all places are different, the table says what is wrong at each. -/
theorem lookupText?_faultTable
    {faults : List Fault} (distinct : (faults.map placeText).Nodup)
    {f : Fault} (member : f ∈ faults) :
    Value.lookupText? (faultTable faults) (placeText f) =
      some (.text f.problem.message) := by
  induction faults using List.reverseRecOn with
  | nil => cases member
  | append_singleton earlier last inductionHypothesis =>
      rw [List.map_append, List.map_singleton, List.nodup_append_comm,
        List.singleton_append, List.nodup_cons] at distinct
      rw [faultTable_concat, Value.lookupText?_put]
      rcases List.mem_append.mp member with early | late
      · rw [if_neg]
        · exact inductionHypothesis distinct.2 early
        · intro same
          exact distinct.1 (same ▸ List.mem_map_of_mem early)
      · obtain rfl := List.mem_singleton.mp late
        rw [if_pos rfl]

/-! ## The report -/

/-- A report names every fault with its place, and says how many there are. -/
structure NamesEvery (r : Report) (faults : List Fault) : Prop where
  listed :
    ∃ table, r.context.lookup "errors" = some (.dict table) ∧
      ∀ f ∈ faults,
        Value.lookupText? table (placeText f) =
          some (.text f.problem.message)
  counted :
    r.message =
      "Invalid configuration (" ++ toString faults.length ++ " error(s))"

theorem namesEvery_faultReport_iff (faults : List Fault) (file : Value) :
    NamesEvery (faultReport faults file) faults ↔
      (faults.map placeText).Nodup := by
  rw [← length_faultTable_eq_iff]
  constructor
  · intro names
    have same :
        ("Invalid configuration (" ++
            (faultTable faults).length.repr) ++ " error(s))" =
          ("Invalid configuration (" ++ faults.length.repr) ++
            " error(s))" :=
      names.counted
    exact repr_injective
      ((String.append_right_inj _).mp ((String.append_left_inj _).mp same))
  · intro sameLength
    refine ⟨⟨faultTable faults, rfl, ?_⟩, ?_⟩
    · intro f member
      exact lookupText?_faultTable
        ((length_faultTable_eq_iff faults).mp sameLength) member
    · rw [← sameLength]
      rfl

theorem result_validate_of_rejected
    {v : Value} {faults : List Fault}
    (rejected : checkConfiguration v = .error faults) (file : Value) :
    (validate v file).result = .error (.report (faultReport faults file)) := by
  unfold validate
  rw [rejected]

/-- The places of faults are written differently, as far as their problems
count. -/
theorem placeText_apart
    {counts : Problem → Prop} {v : Value} {faults : List Fault}
    (apart : AllKeysApart counts v)
    (rejected : checkConfiguration v = .error faults) :
    faults.Pairwise fun f g =>
      counts f.problem → counts g.problem → placeText f ≠ placeText g := by
  obtain ⟨placed, few⟩ := placed_checkConfiguration apart
  rw [rejected] at placed few
  rcases few with single | atFields
  · match faults, single with
    | [], _ => exact List.Pairwise.nil
    | [f], _ => exact List.pairwise_singleton _ f
  · refine placed.apart.imp_of_mem ?_
    intro f g fMember gMember stepsApart fCounted gCounted same
    have fPath := atFields f fMember
    have gPath := atFields g gMember
    have written {f : Fault} (atField : f.steps ≠ []) :
        placeText f = String.intercalate " -> " f.steps := by
      have nonempty : f.path.isEmpty = false := by
        rw [List.isEmpty_eq_false_iff]
        intro empty
        exact atField (congrArg (List.map Place.text) empty)
      unfold placeText
      rw [nonempty]
      rfl
    rw [written fPath, written gPath] at same
    exact stepsApart fCounted gCounted
      ((placed.separable f fMember fCounted).eq_of_intercalate_eq
        (placed.separable g gMember gCounted) fPath gPath same)

/-- The report about a rejected configuration names every fault exactly if no
fault of a key that belongs to no field is at a place that is written like that
of another fault. -/
theorem rejection_namesEvery_iff
    {v : Value} {faults : List Fault}
    (rejected : checkConfiguration v = .error faults) (file : Value) :
    ∃ r, (validate v file).result = .error (.report r) ∧
      r.category = .configuration ∧
      (NamesEvery r faults ↔
        faults.Pairwise fun f g =>
          f.problem.isStray || g.problem.isStray →
            placeText f ≠ placeText g) := by
  refine ⟨_, result_validate_of_rejected rejected file, rfl, ?_⟩
  rw [namesEvery_faultReport_iff, List.Nodup, List.pairwise_map]
  constructor
  · intro distinct
    refine distinct.imp ?_
    intro f g apart _
    exact apart
  · intro strays
    have known := placeText_apart (allKeysApart_of_known v) rejected
    refine (known.and strays).imp ?_
    rintro f g ⟨ifKnown, ifStray⟩
    cases fStray : f.problem.isStray with
    | true => exact ifStray (by simp [fStray])
    | false =>
        cases gStray : g.problem.isStray with
        | true => exact ifStray (by simp [gStray])
        | false => exact ifKnown fStray gStray

/-- A column of no known type. -/
def paintedColumn : Value :=
  .dict [(.text "name", .text "colour"), (.text "type", .text "paint")]

def unknownType : Problem :=
  .notOneOf (KindWord.all.map KindWord.text)

/-- A table without a name, with a column of no known type and a key that
belongs to no field. -/
def paintValue : Value :=
  .dict [
    (.text "tables", .list [
      .dict [
        (.text "name", .text ""),
        (.text "columns", .list [paintedColumn]),
        (.text "colour", .text "red")]])]

def paintFaults : List Fault :=
  [⟨[.field "tables", .item 0, .field "name"], .emptyText⟩,
    ⟨[.field "tables", .item 0, .field "columns", .item 0, .field "type"],
      unknownType⟩,
    ⟨[.field "tables", .item 0, .field "colour"], .extra⟩]

theorem paint_namesEvery :
    ∃ r, (validate paintValue .null).result = .error (.report r) ∧
      NamesEvery r paintFaults := by
  have rejected : checkConfiguration paintValue = .error paintFaults := by
    decide +kernel
  obtain ⟨r, failed, _, exactly⟩ := rejection_namesEvery_iff rejected .null
  exact ⟨r, failed, exactly.mpr (by decide +kernel)⟩

/-- A table with a column of no known type and a key that is written like the
place of that type. -/
def hidingValue : Value :=
  .dict [
    (.text "tables", .list [
      .dict [
        (.text "name", .text "walls"),
        (.text "columns", .list [paintedColumn]),
        (.text "columns -> 0 -> type", .text "string")]])]

def hidingFaults : List Fault :=
  [⟨[.field "tables", .item 0, .field "columns", .item 0, .field "type"],
      unknownType⟩,
    ⟨[.field "tables", .item 0, .field "columns -> 0 -> type"], .extra⟩]

/-- The report about the key takes the place of the one about the type. -/
theorem hiding_loses_fault :
    ¬ ∀ v faults file, checkConfiguration v = .error faults →
      ∃ r, (validate v file).result = .error (.report r) ∧
        NamesEvery r faults := by
  intro always
  have rejected : checkConfiguration hidingValue = .error hidingFaults := by
    decide +kernel
  obtain ⟨r, failed, names⟩ := always hidingValue hidingFaults .null rejected
  rw [result_validate_of_rejected rejected] at failed
  cases failed
  have distinct := (namesEvery_faultReport_iff hidingFaults .null).mp names
  have same : ¬ (hidingFaults.map placeText).Nodup := by
    decide +kernel
  exact same distinct

/-! ## Plain keys -/

/-- All keys of a dictionary are texts without an arrow, and none occurs
twice. -/
structure HasPlainKeys (entries : Entries) : Prop where
  plain : ∀ e ∈ entries, ∃ s, e.1 = .text s ∧ ¬ arrow <:+: s.toList
  distinct : entries.Pairwise fun e g => e.1.text? ≠ g.1.text?

theorem not_mem_of_lookupText?_eq_none
    {entries : Entries} {name : String}
    (absent : Value.lookupText? entries name = none) :
    ∀ e ∈ entries, e.1 ≠ .text name := by
  intro e isEntry isText
  have notNamed :=
    List.find?_eq_none.mp (Option.map_eq_none_iff.mp absent) e isEntry
  rw [isText] at notNamed
  exact notNamed (by simp [Value.text?])

theorem lookupText?_eq_none_of_findField?
    {entries : Entries} {names : List String}
    (absent : findField? entries names = none) :
    ∀ name ∈ names, Value.lookupText? entries name = none := by
  induction names with
  | nil =>
      intro name member
      cases member
  | cons first rest inductionHypothesis =>
      rw [findField?] at absent
      cases there : Value.lookupText? entries first with
      | some held =>
          rw [there] at absent
          cases absent
      | none =>
          rw [there] at absent
          intro name member
          rcases List.mem_cons.mp member with rfl | later
          · exact there
          · exact inductionHypothesis absent name later

/-- An entry under a plain key is reported only if no field is looked at under
that key, and then with the key as the step to it. -/
theorem extra_of_plain
    {fields : List (List String)} {entries : Entries} {e : Value × Value}
    {s : String} {f : Fault} (isText : e.1 = .text s)
    (isExtra :
      (extraProblem
        (fields.filterMap fun names =>
          (findField? entries names).map Prod.fst) e.1).map
        (fun p => ⟨[keyPlace e.1], p⟩) = some f) :
    f.steps = [s] ∧
      ∀ names ∈ fields, ∀ v, findField? entries names ≠ some (s, v) := by
  obtain ⟨p, isProblem, rfl⟩ := Option.map_eq_some_iff.mp isExtra
  rw [isText] at isProblem
  constructor
  · rw [isText]
    rfl
  · intro names isField v found
    have isUsed :
        (fields.filterMap fun names =>
          (findField? entries names).map Prod.fst).contains s = true := by
      refine List.contains_iff_mem.mpr
        (List.mem_filterMap.mpr ⟨names, isField, ?_⟩)
      rw [found]
      rfl
    simp only [extraProblem, givenText, isUsed, if_true] at isProblem
    cases isProblem

/-- Plain keys can be told apart. -/
theorem HasPlainKeys.keysApart
    {entries : Entries} (plainKeys : HasPlainKeys entries)
    (counts : Problem → Prop) (fields : List (List String)) :
    KeysApart counts fields entries := by
  refine ⟨⟨?_, ?_⟩, ?_⟩
  · intro f member _
    obtain ⟨e, isEntry, isExtra⟩ := List.mem_filterMap.mp member
    obtain ⟨s, isText, noArrow⟩ := plainKeys.plain e isEntry
    rw [(extra_of_plain isText isExtra).1]
    exact noArrow
  · refine List.pairwise_filterMap.mpr (plainKeys.distinct.imp_of_mem ?_)
    intro e g isEntry isOther different f isExtra other isToo _ _ same
    obtain ⟨s, isText, _⟩ := plainKeys.plain e isEntry
    obtain ⟨t, isOtherText, _⟩ := plainKeys.plain g isOther
    rw [(extra_of_plain isText isExtra).1,
      (extra_of_plain isOtherText isToo).1] at same
    cases same
    rw [isText, isOtherText] at different
    exact different rfl
  · rintro f member _ head ⟨names, isField, isName, isHead⟩ single
    obtain ⟨e, isEntry, isExtra⟩ := List.mem_filterMap.mp member
    obtain ⟨s, isText, _⟩ := plainKeys.plain e isEntry
    obtain ⟨steps, notUsed⟩ := extra_of_plain isText isExtra
    obtain rfl : s = head := by simpa [steps] using single
    unfold fieldHead at isHead
    cases found : findField? entries names with
    | some field =>
        rw [found] at isHead
        obtain ⟨used, v⟩ := field
        cases isHead
        exact notUsed names isField v found
    | none =>
        exact not_mem_of_lookupText?_eq_none
          (lookupText?_eq_none_of_findField? found s isName) e isEntry isText

/-- If all keys are plain, every fault is named. -/
theorem rejection_namesEvery_of_plainKeys
    {v : Value} {faults : List Fault}
    (rejected : checkConfiguration v = .error faults)
    (plainKeys :
      ∀ part, IsPart part v → ∀ entries, part.entries? = some entries →
        HasPlainKeys entries)
    (file : Value) :
    ∃ r, (validate v file).result = .error (.report r) ∧
      NamesEvery r faults := by
  refine ⟨_, result_validate_of_rejected rejected file, ?_⟩
  rw [namesEvery_faultReport_iff, List.Nodup, List.pairwise_map]
  have apart : AllKeysApart (fun _ => True) v :=
    fun part isPart entries isModel =>
      (plainKeys part isPart entries isModel).keysApart _
  exact (placeText_apart apart rejected).imp fun differ =>
    differ trivial trivial

end Tablesmith.Config

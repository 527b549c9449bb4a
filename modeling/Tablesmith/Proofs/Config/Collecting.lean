import Tablesmith.Proofs.Config.Places

/-!
# The faults that validation collects

Every fault of a configuration can be told apart from the others by its place,
if that is so of the keys that belong to no field.  Faults in known fields need
no such assumption.
-/

namespace Tablesmith.Config

/-- Whether the problem is that an entry belongs to no field. -/
def Problem.isStray : Problem → Bool
  | .extra => true
  | .keyNotText => true
  | _ => false

/-! ## Parts -/

/-- A value is a part of another if it is that value, or a part of one of its
elements or of what one of its entries holds. -/
inductive IsPart (part : Value) : Value → Prop
  | whole : IsPart part part
  | element {v item : Value} {items : List Value} :
      v.elements? = some items → item ∈ items → IsPart part item →
        IsPart part v
  | entry {v : Value} {entries : Entries} {e : Value × Value} :
      v.entries? = some entries → e ∈ entries → IsPart part e.2 →
        IsPart part v

/-- The name under which a field is looked at: the first one that is there, or
else its first name. -/
def fieldHead (entries : Entries) (names : List String) : String :=
  match findField? entries names with
  | some (name, _) => name
  | none => names.headD ""

/-- The names under which the given fields are looked at. -/
def fieldHeads (entries : Entries) (fields : List (List String)) :
    Set String :=
  { head | ∃ names ∈ fields, head ∈ names ∧ head = fieldHead entries names }

/-- The keys of a dictionary that belong to none of the given fields can be
told apart, from each other and from the fields. -/
structure KeysApart
    (counts : Problem → Prop)
    (fields : List (List String))
    (entries : Entries) :
    Prop where
  strays : WellPlaced counts (extraFaults fields entries)
  offFields :
    ∀ f ∈ extraFaults fields entries, counts f.problem →
      ∀ head ∈ fieldHeads entries fields, f.steps ≠ [head]

/-- The keys of all dictionaries in a value can be told apart, whatever the
fields are. -/
def AllKeysApart (counts : Problem → Prop) (v : Value) : Prop :=
  ∀ part, IsPart part v → ∀ entries, part.entries? = some entries →
    ∀ fields, KeysApart counts fields entries

variable {counts : Problem → Prop}

theorem AllKeysApart.element
    {v item : Value} {items : List Value}
    (apart : AllKeysApart counts v)
    (isList : v.elements? = some items) (member : item ∈ items) :
    AllKeysApart counts item :=
  fun part isPart => apart part (.element isList member isPart)

theorem AllKeysApart.entry
    {v : Value} {entries : Entries} {e : Value × Value}
    (apart : AllKeysApart counts v)
    (isModel : v.entries? = some entries) (member : e ∈ entries) :
    AllKeysApart counts e.2 :=
  fun part isPart => apart part (.entry isModel member isPart)

/-- What is wrong with a key that belongs to no field says that it does. -/
theorem isStray_of_extraFaults
    {fields : List (List String)} {entries : Entries} {f : Fault}
    (member : f ∈ extraFaults fields entries) :
    f.problem.isStray = true := by
  obtain ⟨e, _, isExtra⟩ := List.mem_filterMap.mp member
  obtain ⟨p, isProblem, rfl⟩ := Option.map_eq_some_iff.mp isExtra
  unfold extraProblem at isProblem
  split at isProblem
  · split at isProblem
    · cases isProblem
    · cases isProblem
      rfl
  · cases isProblem
    rfl
  · cases isProblem
    rfl

theorem steps_of_extraFaults
    {fields : List (List String)} {entries : Entries} {f : Fault}
    (member : f ∈ extraFaults fields entries) :
    ∃ step, f.steps = [step] := by
  obtain ⟨e, _, isExtra⟩ := List.mem_filterMap.mp member
  obtain ⟨p, _, rfl⟩ := Option.map_eq_some_iff.mp isExtra
  exact ⟨(keyPlace e.1).text, rfl⟩

/-- If only faults in known fields count, no key has to be told apart. -/
theorem allKeysApart_of_known (v : Value) :
    AllKeysApart (fun p => p.isStray = false) v := by
  intro part _ entries _ fields
  have counted {f : Fault} (member : f ∈ extraFaults fields entries)
      (isKnown : f.problem.isStray = false) : False := by
    rw [isStray_of_extraFaults member] at isKnown
    cases isKnown
  refine ⟨⟨fun f member isKnown => (counted member isKnown).elim, ?_⟩,
    fun f member isKnown => (counted member isKnown).elim⟩
  apply List.pairwise_of_forall_mem_list
  intro f member g _ isKnown
  exact (counted member isKnown).elim

/-! ## Fields -/

theorem mem_of_lookupText?
    {entries : Entries} {name : String} {v : Value}
    (found : Value.lookupText? entries name = some v) :
    ∃ e ∈ entries, e.2 = v := by
  obtain ⟨e, isEntry, rfl⟩ := Option.map_eq_some_iff.mp found
  exact ⟨e, List.mem_of_find?_eq_some isEntry, rfl⟩

theorem mem_of_findField?
    {entries : Entries} {names : List String} {name : String} {v : Value}
    (found : findField? entries names = some (name, v)) :
    name ∈ names ∧ ∃ e ∈ entries, e.2 = v := by
  induction names with
  | nil => cases found
  | cons first rest inductionHypothesis =>
      rw [findField?] at found
      cases there : Value.lookupText? entries first with
      | some held =>
          rw [there] at found
          cases found
          exact ⟨List.mem_cons_self, mem_of_lookupText? there⟩
      | none =>
          rw [there] at found
          obtain ⟨member, entry⟩ := inductionHypothesis found
          exact ⟨List.mem_cons_of_mem _ member, entry⟩

theorem fieldHead_mem (entries : Entries) (name : String)
    (others : List String) :
    fieldHead entries (name :: others) ∈ name :: others := by
  unfold fieldHead
  split
  next found => exact (mem_of_findField? found).1
  · exact List.mem_cons_self

/-- A field is reported under the name under which it is looked at. -/
theorem placedUnder_fieldOr
    {α : Type} {absent : Checked α} {entries : Entries} {name : String}
    {others : List String} {check : Value → Checked α}
    (plain : ∀ n ∈ name :: others, ' ' ∉ n.toList)
    (missing : WellPlaced counts absent.faults)
    (there : ∀ e ∈ entries, WellPlaced counts (check e.2).faults) :
    PlacedUnder counts (fieldHeads entries [name :: others])
      (fieldOr absent entries (name :: others) check).faults := by
  have isName := fieldHead_mem entries name others
  have isHead :
      {fieldHead entries (name :: others)} ⊆
        fieldHeads entries [name :: others] := by
    rintro head rfl
    exact ⟨_, List.mem_singleton_self _, isName, rfl⟩
  refine PlacedUnder.mono ?_ isHead
  have plainHead := plain _ isName
  unfold fieldHead at plainHead ⊢
  unfold fieldOr
  cases found : findField? entries (name :: others) with
  | none =>
      simp only [found] at plainHead ⊢
      rw [Checked.faults_within]
      exact missing.within (.field _) plainHead
  | some field =>
      obtain ⟨used, v⟩ := field
      obtain ⟨_, e, member, rfl⟩ := mem_of_findField? found
      simp only [found] at plainHead ⊢
      rw [Checked.faults_within]
      exact (there e member).within (.field used) plainHead

section SingleName

variable
  {α : Type} {entries : Entries} {check : Value → Checked α}
  {name : String} (plain : ' ' ∉ name.toList)
  (there : ∀ e ∈ entries, WellPlaced counts (check e.2).faults)

include plain there

theorem placedUnder_requiredField :
    PlacedUnder counts (fieldHeads entries [[name]])
      (requiredField entries name check).faults :=
  placedUnder_fieldOr (List.forall_mem_singleton.mpr plain)
    (wellPlaced_alone .missing) there

theorem placedUnder_optionalField (standard : α) :
    PlacedUnder counts (fieldHeads entries [[name]])
      (optionalField entries name standard check).faults :=
  placedUnder_fieldOr (List.forall_mem_singleton.mpr plain) wellPlaced_nil
    there

theorem placedUnder_nullableField :
    PlacedUnder counts (fieldHeads entries [[name]])
      (nullableField entries name check).faults :=
  placedUnder_optionalField plain
    (fun e member => Checked.wellPlaced_orNull (there e member)) none

end SingleName

/-- Fields side by side can be told apart by their names. -/
theorem PlacedUnder.both
    {α β : Type} {x : Checked α} {y : Checked β} {entries : Entries}
    {names : List String} {others : List (List String)}
    (first : PlacedUnder counts (fieldHeads entries [names]) x.faults)
    (second : PlacedUnder counts (fieldHeads entries others) y.faults)
    (distinct : ∀ name ∈ names, name ∉ others.flatten) :
    PlacedUnder counts (fieldHeads entries (names :: others))
      (x.both y).faults := by
  have disjoint :
      ∀ head ∈ fieldHeads entries [names],
        head ∉ fieldHeads entries others := by
    rintro head ⟨own, isOwn, isName, _⟩ ⟨more, isOther, isToo, _⟩
    obtain rfl := List.mem_singleton.mp isOwn
    exact distinct head isName (List.mem_flatten.mpr ⟨more, isOther, isToo⟩)
  rw [Checked.faults_both]
  refine (first.append second disjoint).mono ?_
  rintro head (⟨own, isOwn, isHead⟩ | ⟨more, isOther, isHead⟩)
  · obtain rfl := List.mem_singleton.mp isOwn
    exact ⟨own, List.mem_cons_self, isHead⟩
  · exact ⟨more, List.mem_cons_of_mem names isOther, isHead⟩

/-- A model that ignores other entries reports its fields, or that it is no
dictionary. -/
theorem placed_openModel
    {α : Type} {name : String} {read : Entries → Checked α} {v : Value}
    (fields : List (List String))
    (placed :
      ∀ entries, v.entries? = some entries →
        PlacedUnder counts (fieldHeads entries fields)
          (read entries).faults) :
    WellPlaced counts (openModel name read v).faults ∧
      ((openModel name read v).faults.length ≤ 1 ∨
        ∀ f ∈ (openModel name read v).faults, f.steps ≠ []) := by
  unfold openModel
  cases isModel : v.entries? with
  | none => exact ⟨wellPlaced_alone _, Or.inl (le_refl 1)⟩
  | some entries =>
      have fieldsPlaced := placed entries isModel
      refine ⟨fieldsPlaced.toWellPlaced, Or.inr ?_⟩
      intro f member empty
      obtain ⟨head, _, fHead⟩ := fieldsPlaced.headed f member
      rw [empty] at fHead
      cases fHead

/-- A model that refuses other entries reports its fields, and the keys that
belong to none of them. -/
theorem wellPlaced_closedModel
    {α : Type} {name : String} {fields : List (List String)}
    {read : Entries → Checked α} {v : Value}
    (apart : AllKeysApart counts v)
    (placed :
      ∀ entries, v.entries? = some entries →
        PlacedUnder counts (fieldHeads entries fields)
          (read entries).faults) :
    WellPlaced counts (closedModel name fields read v).faults := by
  unfold closedModel
  cases isModel : v.entries? with
  | none => exact wellPlaced_alone _
  | some entries =>
      have fieldsPlaced := placed entries isModel
      have keys := apart v .whole entries isModel fields
      dsimp only
      split
      · exact wellPlaced_alone _
      · split
        · exact fieldsPlaced.toWellPlaced
        · refine fieldsPlaced.toWellPlaced.append keys.strays ?_
          intro f member g isStray _ counted same
          -- A key that belongs to no field is the only step to its fault.
          obtain ⟨step, single⟩ := steps_of_extraFaults isStray
          obtain ⟨head, isHead, fHead⟩ := fieldsPlaced.headed f member
          obtain rfl : step = head := by simpa [same, single] using fHead
          exact keys.offFields g isStray counted step isHead single

/-! ## Single values -/

section Single

variable (v : Value)

theorem wellPlaced_checkText : WellPlaced counts (checkText v).faults := by
  unfold checkText
  split
  · exact wellPlaced_nil
  · exact wellPlaced_alone _
  · exact wellPlaced_alone _

theorem wellPlaced_checkFilledText :
    WellPlaced counts (checkFilledText v).faults := by
  refine Checked.wellPlaced_bind (wellPlaced_checkText v) ?_
  intro s
  split
  · exact wellPlaced_alone _
  · exact wellPlaced_nil

theorem wellPlaced_checkChoice {α : Type} (choices : List (String × α)) :
    WellPlaced counts (checkChoice choices v).faults := by
  unfold checkChoice
  split
  · split
    · exact wellPlaced_nil
    · exact wellPlaced_alone _
  · exact wellPlaced_alone _
  · exact wellPlaced_alone _

theorem wellPlaced_checkBooleanWord (s : String) :
    WellPlaced counts (checkBooleanWord s).faults := by
  unfold checkBooleanWord
  extract_lets word
  split
  · exact wellPlaced_nil
  · split
    · exact wellPlaced_nil
    · exact wellPlaced_alone _

theorem wellPlaced_checkBooleanNumber (n : Int) :
    WellPlaced counts (checkBooleanNumber n).faults := by
  unfold checkBooleanNumber
  split
  · exact wellPlaced_nil
  · split
    · exact wellPlaced_nil
    · exact wellPlaced_alone _

theorem wellPlaced_checkBoolean :
    WellPlaced counts (checkBoolean v).faults := by
  unfold checkBoolean
  split
  · exact wellPlaced_nil
  · split
    · exact wellPlaced_checkBooleanNumber _
    · exact wellPlaced_alone _
  · split
    · split
      · exact wellPlaced_checkBooleanNumber _
      · exact wellPlaced_alone _
    · exact wellPlaced_alone _
  · split
    · exact wellPlaced_checkBooleanWord _
    · exact wellPlaced_alone _
    · exact wellPlaced_alone _
    · exact wellPlaced_alone _

theorem wellPlaced_checkIntegerText (s : String) :
    WellPlaced counts (checkIntegerText s).faults := by
  unfold checkIntegerText
  extract_lets inner body
  split
  extract_lets wellFormed
  split
  · exact wellPlaced_alone _
  · split
    · exact wellPlaced_nil
    · exact wellPlaced_alone _

theorem wellPlaced_checkInteger :
    WellPlaced counts (checkInteger v).faults := by
  unfold checkInteger
  split
  · exact wellPlaced_nil
  · exact wellPlaced_nil
  · split
    · exact wellPlaced_alone _
    · split
      · exact wellPlaced_alone _
      · split
        · exact wellPlaced_nil
        · exact wellPlaced_alone _
  · split
    · exact wellPlaced_checkIntegerText _
    · exact wellPlaced_alone _
    · exact wellPlaced_alone _
    · exact wellPlaced_alone _

theorem wellPlaced_checkPositive :
    WellPlaced counts (checkPositive v).faults := by
  refine Checked.wellPlaced_bind (wellPlaced_checkInteger v) ?_
  intro n
  split
  · exact wellPlaced_nil
  · exact wellPlaced_alone _

theorem wellPlaced_checkPort : WellPlaced counts (checkPort v).faults := by
  unfold checkPort
  extract_lets inRange
  have inRangePlaced (n : Int) : WellPlaced counts (inRange n).faults := by
    unfold inRange
    split
    · exact wellPlaced_nil
    · split
      · exact wellPlaced_alone _
      · exact wellPlaced_alone _
  split
  · exact wellPlaced_nil
  · exact wellPlaced_nil
  · exact inRangePlaced _
  · split
    · exact wellPlaced_nil
    · split
      · split
        · exact inRangePlaced _
        · exact wellPlaced_alone _
      · exact wellPlaced_alone _
  · exact wellPlaced_alone _

theorem wellPlaced_checkDefault :
    WellPlaced counts (checkDefault v).faults := by
  unfold checkDefault
  split
  · exact wellPlaced_nil
  · exact wellPlaced_nil
  · exact wellPlaced_alone _
  · exact wellPlaced_nil
  · split
    · exact wellPlaced_nil
    · exact wellPlaced_alone _

end Single

/-! ## Definitions -/

theorem wellPlaced_checkList
    {α : Type} {check : Value → Checked α} {v : Value}
    (placed :
      ∀ items, v.elements? = some items → ∀ item ∈ items,
        WellPlaced counts (check item).faults) :
    WellPlaced counts (checkList check v).faults := by
  unfold checkList
  cases found : v.elements? with
  | none => exact wellPlaced_alone .notList
  | some items =>
      exact (Checked.placedUnder_eachFrom 0 (placed items found)).toWellPlaced

theorem wellPlaced_checkFilledList
    {α : Type} {check : Value → Checked α} {v : Value}
    (placed :
      ∀ items, v.elements? = some items → ∀ item ∈ items,
        WellPlaced counts (check item).faults) :
    WellPlaced counts (checkFilledList check v).faults := by
  refine Checked.wellPlaced_bind (wellPlaced_checkList placed) ?_
  intro xs
  split
  · exact wellPlaced_alone _
  · exact wellPlaced_nil

theorem wellPlaced_checkSettings (v : Value) :
    WellPlaced counts (checkSettings v).faults := by
  refine (placed_openModel
    [["name"], ["user"], ["password"], ["host"], ["port"],
      ["connect_timeout"]] ?_).1
  intro entries _
  rw [Checked.faults_map]
  refine .both ?name (.both ?user (.both ?password (.both ?host
    (.both ?port ?timeout (by decide)) (by decide)) (by decide))
    (by decide)) (by decide)
  case name =>
    exact placedUnder_requiredField (by decide)
      fun e _ => wellPlaced_checkFilledText e.2
  case user =>
    exact placedUnder_nullableField (by decide)
      fun e _ => wellPlaced_checkText e.2
  case password =>
    exact placedUnder_nullableField (by decide)
      fun e _ => wellPlaced_checkText e.2
  case host =>
    exact placedUnder_optionalField (by decide)
      (fun e _ => wellPlaced_checkText e.2) _
  case port =>
    exact placedUnder_optionalField (by decide)
      (fun e _ => wellPlaced_checkPort e.2) _
  case timeout =>
    exact placedUnder_optionalField (by decide)
      (fun e _ => wellPlaced_checkPositive e.2) _

theorem wellPlaced_checkReference
    {v : Value} (apart : AllKeysApart counts v) :
    WellPlaced counts (checkReference v).faults := by
  refine wellPlaced_closedModel apart ?_
  intro entries _
  rw [Checked.faults_map]
  refine .both ?table (.both ?column (.both ?onUpdate ?onDelete (by decide))
    (by decide)) (by decide)
  case table =>
    exact placedUnder_requiredField (by decide)
      fun e _ => wellPlaced_checkFilledText e.2
  case column =>
    exact placedUnder_nullableField (by decide)
      fun e _ => wellPlaced_checkText e.2
  case onUpdate =>
    exact placedUnder_optionalField (by decide)
      (fun e _ => wellPlaced_checkChoice e.2 _) _
  case onDelete =>
    exact placedUnder_optionalField (by decide)
      (fun e _ => wellPlaced_checkChoice e.2 _) _

theorem wellPlaced_checkColumnKind
    (name : String) (kind : KindWord) (target : Option ReferenceDefinition)
    (options : List String) :
    WellPlaced counts (checkColumnKind name kind target options).faults := by
  unfold checkColumnKind
  split
  · exact wellPlaced_alone _
  · exact wellPlaced_nil
  · exact wellPlaced_alone _
  · exact wellPlaced_nil
  · split
    · exact wellPlaced_nil
    · exact wellPlaced_alone _

theorem wellPlaced_checkColumn
    {v : Value} (apart : AllKeysApart counts v) :
    WellPlaced counts (checkColumn v).faults := by
  refine Checked.wellPlaced_bind (wellPlaced_closedModel apart ?_) ?_
  · intro entries isModel
    rw [Checked.faults_map, checkColumnFields, Checked.faults_map]
    refine .both ?name (.both ?type (.both ?required (.both ?unique
      (.both ?default (.both ?check ?references (by decide)) (by decide))
      (by decide)) (by decide)) (by decide)) (by decide)
    case name =>
      exact placedUnder_requiredField (by decide)
        fun e _ => wellPlaced_checkFilledText e.2
    case type =>
      exact placedUnder_requiredField (by decide)
        fun e _ => wellPlaced_checkChoice e.2 _
    case required =>
      exact placedUnder_optionalField (by decide)
        (fun e _ => wellPlaced_checkBoolean e.2) _
    case unique =>
      exact placedUnder_optionalField (by decide)
        (fun e _ => wellPlaced_checkBoolean e.2) _
    case default =>
      exact placedUnder_optionalField (by decide)
        (fun e _ => wellPlaced_checkDefault e.2) _
    case check =>
      exact placedUnder_nullableField (by decide)
        fun e _ => wellPlaced_checkText e.2
    case references =>
      exact placedUnder_nullableField (by decide)
        fun e member => wellPlaced_checkReference (apart.entry isModel member)
  · rintro ⟨⟨column, kind, target⟩, options⟩
    rw [Checked.faults_map]
    exact wellPlaced_checkColumnKind column.name kind target options

theorem wellPlaced_checkTable
    {v : Value} (apart : AllKeysApart counts v) :
    WellPlaced counts (checkTable v).faults := by
  refine wellPlaced_closedModel apart ?_
  intro entries isModel
  rw [Checked.faults_map]
  refine .both ?name (.both ?schema (.both ?columns ?unique (by decide))
    (by decide)) (by decide)
  case name =>
    exact placedUnder_requiredField (by decide)
      fun e _ => wellPlaced_checkFilledText e.2
  case schema =>
    exact placedUnder_fieldOr (by decide) wellPlaced_nil
      fun e _ => Checked.wellPlaced_orNull (wellPlaced_checkText e.2)
  case columns =>
    refine placedUnder_optionalField (by decide) (fun e member => ?_) _
    have inEntry := apart.entry isModel member
    exact wellPlaced_checkList fun items isList item itemMember =>
      wellPlaced_checkColumn (inEntry.element isList itemMember)
  case unique =>
    refine placedUnder_optionalField (by decide) (fun e _ => ?_) _
    exact wellPlaced_checkList fun _ _ names _ =>
      wellPlaced_checkList fun _ _ item _ => wellPlaced_checkText item

/-- The faults of a configuration can be told apart.  Either there is at most
one, or each of them is at a field. -/
theorem placed_checkConfiguration
    {v : Value} (apart : AllKeysApart counts v) :
    WellPlaced counts (checkConfiguration v).faults ∧
      ((checkConfiguration v).faults.length ≤ 1 ∨
        ∀ f ∈ (checkConfiguration v).faults, f.steps ≠ []) := by
  refine placed_openModel
    [["dialect"], ["sql_output"], ["types_output"], ["database"],
      ["tables"]] ?_
  intro entries isModel
  rw [Checked.faults_map]
  refine .both ?dialect (.both ?sqlOutput (.both ?typesOutput
    (.both ?database ?tables (by decide)) (by decide)) (by decide))
    (by decide)
  case dialect =>
    exact placedUnder_optionalField (by decide)
      (fun e _ => wellPlaced_checkChoice e.2 _) _
  case sqlOutput =>
    exact placedUnder_nullableField (by decide)
      fun e _ => wellPlaced_checkText e.2
  case typesOutput =>
    exact placedUnder_nullableField (by decide)
      fun e _ => wellPlaced_checkText e.2
  case database =>
    exact placedUnder_nullableField (by decide)
      fun e _ => wellPlaced_checkSettings e.2
  case tables =>
    refine placedUnder_requiredField (by decide) fun e member => ?_
    have inEntry := apart.entry isModel member
    exact wellPlaced_checkFilledList fun items isList item itemMember =>
      wellPlaced_checkTable (inEntry.element isList itemMember)

end Tablesmith.Config

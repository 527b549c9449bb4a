import Tablesmith.Proofs.Yaml.Parsing
import Tablesmith.Proofs.Yaml.Scanning
import Tablesmith.Yaml.Reading

/-!
# Where the faults of a YAML text come from

While values are made, tags of keys change and mappings are merged.  A node
stays of its kind all the same, so a fault that is found is one that a node of
the document gives.  Together with the faults of the scanner these are all
faults of a text that is not malformed.
-/

namespace Tablesmith.Yaml

/-! ## Scalars -/

section Scalars

open FailsAs (ok error)

theorem failsAs_number {α : Type} (x : Except Number.NumberFault α) :
    FailsAs Fault.IsKnown (ofNumberFault x) :=
  .mapError (fun fault => .scalar (.number fault)) x

theorem failsAs_signed (cs : List Char) :
    FailsAs Fault.IsKnown (signed cs) :=
  .ite (error (.scalar .noFigures)) (ok _)

theorem failsAs_boolOf (cs : List Char) :
    FailsAs Fault.IsKnown (boolOf cs) :=
  .ite (ok _) (.ite (ok _) (error (.scalar (.noTruthValue _))))

theorem failsAs_unsignedOf (cs : List Char) :
    FailsAs Fault.IsKnown (unsignedOf cs) := by
  unfold unsignedOf
  split
  · exact error (.scalar .noFigures)
  · exact ok 0
  · exact failsAs_number _
  · exact failsAs_number _
  · exact failsAs_number _
  · exact .ite ((FailsAs.mapM (fun _ => failsAs_number _) _).map _)
      (failsAs_number _)

theorem failsAs_integerOf (cs : List Char) :
    FailsAs Fault.IsKnown (integerOf cs) :=
  (failsAs_signed _).bind fun _ => (failsAs_unsignedOf _).bind fun _ => ok _

theorem failsAs_weightOf (n : Nat) : FailsAs Fault.IsKnown (weightOf n) :=
  .ite (ok _) (error (.scalar (.number .tooLargeForFloat)))

theorem failsAs_addSixtieths :
    ∀ figures total weight,
      FailsAs Fault.IsKnown (addSixtieths total weight figures)
  | [], _, _ => ok _
  | _ :: rest, _, weight =>
      (failsAs_weightOf weight).bind fun _ => failsAs_addSixtieths rest _ _

theorem failsAs_unsignedFloatOf (cs : List Char) :
    FailsAs Fault.IsKnown (unsignedFloatOf cs) := by
  refine .ite ?_ (failsAs_number _)
  exact (FailsAs.mapM (fun _ => failsAs_number _) _).bind fun _ =>
    failsAs_addSixtieths _ _ _

theorem failsAs_floatOf (cs : List Char) :
    FailsAs Fault.IsKnown (floatOf cs) := by
  refine (failsAs_signed _).bind fun _ => ?_
  dsimp only
  split
  · exact ok _
  · exact ok _
  · exact (failsAs_unsignedFloatOf _).bind fun _ => ok _

theorem failsAs_binaryOf (codes : List Nat) :
    FailsAs Fault.IsKnown (binaryOf codes) := by
  refine .ite ?_ (error .malformed)
  split
  · exact ok _
  · exact error .malformed

theorem failsAs_timestampOf (cs : List Char) :
    FailsAs Fault.IsKnown (timestampOf cs) := by
  unfold timestampOf
  split
  · exact .mapError (fun fault => .scalar (.calendar fault)) _
  · exact error (.scalar .noTimestamp)

/-- A scalar that cannot be made has a known fault. -/
theorem failsAs_scalarValue (tag : Tag) (codes : List Nat) :
    FailsAs Fault.IsKnown (scalarValue tag codes) := by
  cases tag with
  | null => exact ok _
  | bool => exact failsAs_boolOf _
  | int => exact failsAs_integerOf _
  | float => exact failsAs_floatOf _
  | binary => exact failsAs_binaryOf _
  | timestamp => exact failsAs_timestampOf _
  | text => exact ok _
  | _ => exact error .malformed

end Scalars

/-! ## What a node gives -/

/-- A node gives a fault: the text of a scalar does not fit its tag, or a
mapping has the tag of a scalar, whose text is then another node's. -/
inductive Node.Gives : Node → Fault → Prop
  | scalar {tag : Tag} {codes : List Nat} {fault : Fault} :
      scalarValue tag codes = .error fault → Gives (.scalar tag codes) fault
  | mapping {tag : Tag} {entries : List (NodeId × NodeId)} {codes : List Nat}
      {fault : Fault} :
      scalarValue tag codes = .error fault → Gives (.mapping tag entries) fault
  | timestampMapping {entries : List (NodeId × NodeId)} :
      Gives (.mapping .timestamp entries)
        (.scalar (.call (.notScannable "list")))

/-- A node has become another one: its kind and the text of a scalar are the
same, and its tag is the same or that of a text. -/
inductive Node.Became : Node → Node → Prop
  | scalar {tag : Tag} {codes : List Nat} {changed : Tag} :
      changed = tag ∨ changed = .text →
      Became (.scalar tag codes) (.scalar changed codes)
  | sequence {tag : Tag} {items : List NodeId} {changed : Tag} :
      changed = tag ∨ changed = .text →
      Became (.sequence tag items) (.sequence changed items)
  | mapping {tag : Tag} {entries others : List (NodeId × NodeId)}
      {changed : Tag} :
      changed = tag ∨ changed = .text →
      Became (.mapping tag entries) (.mapping changed others)

namespace Node

theorem Became.withText {node now : Node} (became : node.Became now) :
    node.Became (now.withTag .text) := by
  cases became with
  | scalar => exact .scalar (Or.inr rfl)
  | sequence => exact .sequence (Or.inr rfl)
  | mapping => exact .mapping (Or.inr rfl)

/-- What a node gives after it was changed, it gave before. -/
theorem Became.gives {node now : Node} {fault : Fault}
    (became : node.Became now) (gives : now.Gives fault) :
    node.Gives fault := by
  cases became with
  | scalar same =>
      cases gives with
      | scalar failed =>
          rcases same with rfl | rfl
          · exact .scalar failed
          · cases failed
  | sequence => cases gives
  | mapping same =>
      cases gives with
      | mapping failed =>
          rcases same with rfl | rfl
          · exact .mapping failed
          · cases failed
      | timestampMapping =>
          rcases same with rfl | impossible
          · exact .timestampMapping
          · cases impossible

end Node

def Node.IsMapping (node : Node) : Prop :=
  ∃ tag entries, node = .mapping tag entries

theorem Node.Became.withEntries {node now : Node} (became : node.Became now)
    (isMapping : node.IsMapping) (entries : List (NodeId × NodeId)) :
    node.Became (.mapping now.tag entries) := by
  obtain ⟨tag, own, rfl⟩ := isMapping
  cases became with
  | mapping same => exact .mapping same

/-- The codes that a node hands to its tag: those of a scalar are its own, and
those of a mapping are found elsewhere. -/
def Node.Hands : Node → List Nat → Prop
  | .scalar _ own, codes => codes = own
  | .sequence _ _, _ => False
  | .mapping _ _, _ => True

theorem Node.Became.gives_of_hands {node now : Node} {codes : List Nat}
    {fault : Fault} (became : node.Became now) (hands : node.Hands codes)
    (failed : scalarValue now.tag codes = .error fault) :
    node.Gives fault := by
  cases became with
  | scalar same =>
      obtain rfl := hands
      exact (Became.scalar same).gives (.scalar failed)
  | sequence => cases hands
  | @mapping tag entries others changed same =>
      have became :
          (Node.mapping tag entries).Became (.mapping changed others) :=
        .mapping same
      exact became.gives (.mapping failed)

/-! ## Making -/

/-- The nodes of a workshop have become what they are from the nodes of a
document. -/
def Workshop.From (nodes : Nodes) (w : Workshop) : Prop :=
  ∀ id, (nodes.node id).Became (w.nodes.node id)

theorem node_put (nodes : Nodes) (id : NodeId) (new : Node) (other : NodeId) :
    (nodes.put id new).node other = new ∧ other = id ∨
      (nodes.put id new).node other = nodes.node other := by
  unfold Nodes.put Nodes.node
  by_cases same : other = id
  · subst same
    by_cases inside : other < nodes.size
    · exact Or.inl ⟨by simp [Array.getD, inside], rfl⟩
    · exact Or.inr (by simp [Array.getD, inside])
  · right
    rw [Array.getD_eq_getD_getElem?, Array.getD_eq_getD_getElem?,
      Array.getElem?_setIfInBounds_ne (Ne.symm same)]

/-- Values are made from a document: nodes change only as they may, and a
fault is one that a node of the document gives. -/
def Made {α : Type} (nodes : Nodes) (expected : α → Prop) (x : Make α) : Prop :=
  Sound (Workshop.From nodes)
    (fun fault => fault = .malformed ∨ ∃ id, (nodes.node id).Gives fault)
    expected x

/-- What is expected of a value about which nothing need be known. -/
abbrev anything {α : Type} (_ : α) : Prop := True

namespace Made

variable {α β : Type} {nodes : Nodes}
variable {expected : α → Prop} {wanted : β → Prop}

theorem pure {a : α} (isExpected : expected a) :
    Made nodes expected (Pure.pure a) :=
  Sound.pure isExpected

theorem bind {x : Make α} {f : α → Make β}
    (first : Made nodes expected x)
    (next : ∀ a, expected a → Made nodes wanted (f a)) :
    Made nodes wanted (x >>= f) :=
  Sound.bind first next

theorem map {x : Make α} (f : α → β) (first : Made nodes expected x) :
    Made nodes anything (f <$> x) :=
  first.bind fun _ _ => pure trivial

theorem mapM {f : α → Make β} (each : ∀ a, Made nodes anything (f a))
    (xs : List α) :
    Made nodes anything (xs.mapM f) :=
  (Sound.mapM each xs).weaken fun _ _ => trivial

theorem get : Made nodes (Workshop.From nodes) MonadState.get :=
  Sound.get

theorem malformed : Made nodes expected (Make.malformed : Make α) :=
  Sound.throw (Or.inl rfl)

/-- A change that leaves the nodes alone is made as it may. -/
theorem modify {f : Workshop → Workshop} (same : ∀ w, (f w).nodes = w.nodes) :
    Made nodes anything (modify f : Make Unit) := by
  refine Sound.modify fun w origin id => ?_
  rw [same]
  exact origin id

theorem node (id : NodeId) :
    Made nodes (fun now => (nodes.node id).Became now) (Make.node id) :=
  get.bind fun _ origin => pure (origin id)

/-- Only a mapping has entries. -/
theorem entriesOf (id : NodeId) :
    Made nodes (fun entries => entries ≠ [] → (nodes.node id).IsMapping)
      (Make.entriesOf id) := by
  refine get.bind fun w origin => pure fun some => ?_
  have became := origin id
  unfold Nodes.entries at some
  generalize nodes.node id = before at became
  generalize w.nodes.node id = now at became some
  cases became with
  | scalar => exact absurd rfl some
  | sequence => exact absurd rfl some
  | mapping => exact ⟨_, _, rfl⟩

theorem putNode {id : NodeId} {new : Node}
    (became : (nodes.node id).Became new) :
    Made nodes anything (Make.putNode id new) := by
  refine Sound.modify fun w origin other => ?_
  rcases node_put w.nodes id new other with ⟨changed, rfl⟩ | unchanged
  · change (nodes.node other).Became ((w.nodes.put other new).node other)
    rw [changed]
    exact became
  · change (nodes.node other).Became ((w.nodes.put id new).node other)
    rw [unchanged]
    exact origin other

/-! ## Merging -/

theorem putEntries {id : NodeId} (isMapping : (nodes.node id).IsMapping)
    (entries : List (NodeId × NodeId)) :
    Made nodes anything (Make.putEntries id entries) :=
  (node id).bind fun _ became => putNode (became.withEntries isMapping entries)

section Flatten

variable {flatten : NodeId → Make Unit}
variable (made : ∀ id, Made nodes anything (flatten id))

include made

theorem flatEntries (id : NodeId) :
    Made nodes anything (Make.flatEntries flatten id) := by
  refine (node id).bind fun _ _ => ?_
  split
  · exact (made id).bind fun _ _ => (entriesOf id).weaken fun _ _ => trivial
  · exact malformed

theorem mergedEntries (id : NodeId) :
    Made nodes anything (Make.mergedEntries flatten id) := by
  refine (node id).bind fun _ _ => ?_
  split
  · exact (mapM (flatEntries made) _).bind fun _ _ => pure trivial
  · exact flatEntries made id

/-- What is merged into a node that is no mapping is nothing. -/
theorem collectMerged (id : NodeId) :
    ∀ budget index,
      Made nodes (fun merged => merged ≠ [] → (nodes.node id).IsMapping)
        (Make.collectMerged flatten id index budget)
  | 0, _ => pure fun some => absurd rfl some
  | budget + 1, index => by
      unfold Make.collectMerged
      refine (entriesOf id).bind fun entries hasEntries => ?_
      split
      · exact pure fun some => absurd rfl some
      · rename_i key value found
        have isMapping : (nodes.node id).IsMapping := by
          apply hasEntries
          rintro rfl
          cases found
        refine (node key).bind fun keyNode became => ?_
        split
        · refine (putEntries isMapping _).bind fun _ _ => ?_
          refine (mergedEntries made value).bind fun _ _ => ?_
          refine (collectMerged id budget index).bind fun _ _ => ?_
          exact pure fun _ => isMapping
        · exact (putNode became.withText).bind fun _ _ =>
            collectMerged id budget (index + 1)
        · exact collectMerged id budget (index + 1)

end Flatten

theorem flatten : ∀ depth id, Made nodes anything (Make.flatten depth id)
  | 0, _ => pure trivial
  | depth + 1, id => by
      unfold Make.flatten
      refine (entriesOf id).bind fun _ _ => ?_
      dsimp only
      refine (collectMerged (flatten depth) id _ _).bind fun merged some => ?_
      split
      · rename_i notEmpty
        have isMapping : (nodes.node id).IsMapping := by
          apply some
          rintro rfl
          simp at notEmpty
        exact (entriesOf id).bind fun _ _ => putEntries isMapping _
      · exact pure trivial

/-! ## Parts -/

theorem scalarCodes :
    ∀ depth id, Made nodes (nodes.node id).Hands (Make.scalarCodes depth id)
  | 0, _ => malformed
  | depth + 1, id => by
      unfold Make.scalarCodes
      refine (node id).bind fun now became => ?_
      generalize nodes.node id = before at became
      cases became with
      | scalar => exact pure rfl
      | sequence => exact malformed
      | mapping =>
          refine get.bind fun _ _ => ?_
          dsimp only
          split
          · exact (scalarCodes depth _).weaken fun _ _ => trivial
          · exact malformed

theorem scalarPart {id : NodeId} {now : Node}
    (became : (nodes.node id).Became now) :
    Made nodes anything (Make.scalarPart id now) := by
  refine get.bind fun _ _ => (scalarCodes _ id).bind fun codes hands => ?_
  split
  · rename_i entries isTimestamp
    refine Sound.throw (Or.inr ⟨id, became.gives ?_⟩)
    obtain rfl : _ = Tag.timestamp := isTimestamp
    exact .timestampMapping
  · refine Sound.lift fun fault failed => Or.inr ⟨id, ?_⟩
    exact became.gives_of_hands hands failed

theorem part (id : NodeId) : Made nodes anything (Make.part id) := by
  unfold Make.part
  refine get.bind fun w origin => ?_
  split
  · exact pure trivial
  · dsimp only
    split
    · refine Sound.bind (Sound.set origin) fun _ _ => pure trivial
    · exact (scalarPart (origin id)).bind fun _ _ => pure trivial

theorem keyPart (id : NodeId) : Made nodes anything (Make.keyPart id) := by
  refine (part id).bind fun _ _ => ?_
  split
  · exact pure trivial
  · exact malformed

/-! ## Filling -/

theorem dictEntries (id : NodeId) :
    Made nodes anything (Make.dictEntries id) := by
  have entry (e : NodeId × NodeId) :
      Made nodes anything (do
        let k ← Make.keyPart e.1
        let v ← Make.part e.2
        Pure.pure (k, v)) :=
    (keyPart e.1).bind fun _ _ => (part e.2).bind fun _ _ => pure trivial
  refine get.bind fun _ _ => (flatten _ id).bind fun _ _ => ?_
  refine (entriesOf id).bind fun _ _ => ?_
  exact (mapM entry _).bind fun _ _ => pure trivial

theorem pairOf (id : NodeId) : Made nodes anything (Make.pairOf id) := by
  refine (node id).bind fun _ _ => ?_
  split
  · exact (part _).bind fun _ _ => (part _).bind fun _ _ => pure trivial
  · exact malformed

theorem contents (id : NodeId) : Made nodes anything (Make.contents id) := by
  refine (node id).bind fun _ _ => ?_
  split
  · exact (mapM part _).map _
  · exact (dictEntries id).map _
  · exact (dictEntries id).bind fun _ _ => pure trivial
  · exact (mapM pairOf _).map _
  · exact (mapM pairOf _).map _
  · exact malformed

theorem fillAll (budget : Nat) :
    Made nodes anything (Make.fillAll budget) := by
  induction budget with
  | zero => exact pure trivial
  | succ budget inductionHypothesis =>
      unfold Make.fillAll
      refine get.bind fun _ _ => ?_
      split
      · exact pure trivial
      · rename_i id rest _
        refine (modify
          (f := fun w => { w with queue := rest })
          fun _ => rfl).bind fun _ _ => ?_
        refine (contents id).bind fun made _ => ?_
        refine (modify
          (f := fun w => { w with filled := (id, made) :: w.filled })
          fun _ => rfl).bind fun _ _ => ?_
        exact inductionHypothesis

end Made

/-! ## Values -/

/-- A text holds a fault: the scanner finds it, or a node of its document gives
it. -/
inductive Holds (source : Source) (fault : Fault) : Prop
  | scanned : (tokensOf source).fault = some fault → Holds source fault
  | given {nodes : Nodes} {root : Option NodeId} {id : NodeId} :
      documentOf source = .ok (nodes, root) → (nodes.node id).Gives fault →
      Holds source fault

theorem Node.Gives.isKnown {node : Node} {fault : Fault}
    (gives : node.Gives fault) :
    fault.IsKnown := by
  cases gives with
  | scalar failed => exact failsAs_scalarValue _ _ _ failed
  | mapping failed => exact failsAs_scalarValue _ _ _ failed
  | timestampMapping => exact .scalar .timestampMapping

/-- A text holds only known faults, and the one with which it breaks off. -/
theorem Holds.isFrom {source : Source} {fault : Fault}
    (holds : Holds source fault) :
    fault.IsFrom source.fault := by
  cases holds with
  | scanned ends => exact (comeFrom_tokensOf source).known fault ends
  | given _ gives => exact Or.inl gives.isKnown

end Tablesmith.Yaml

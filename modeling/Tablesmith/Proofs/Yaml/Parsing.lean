import Tablesmith.Proofs.Yaml.Soundness
import Tablesmith.Yaml.Parsing

/-!
# Faults of parsing

The parser finds a text malformed, or it comes to the place where the scanner
failed and passes that fault on.  It has no faults of its own, and it is done
only when it has come to the end of the text.
-/

namespace Tablesmith.Yaml

/-- A parser is at work on tokens: those that are still to come are the last of
them, and the fault of the scanner is the one after them. -/
structure Parser.WorksOn (stream : Tokens) (p : Parser) : Prop where
  left : p.tokens <:+ stream.tokens
  sameFault : p.fault = stream.fault

/-- A parser stays at its tokens, reads what is expected, and fails as
malformed or with the fault of the scanner. -/
abbrev SteadyFor (stream : Tokens) {α : Type} (expected : α → Prop)
    (x : Parse α) : Prop :=
  Sound (Parser.WorksOn stream)
    (fun fault => fault = .malformed ∨ stream.fault = some fault) expected x

/-- A steady parser, of which nothing more is expected. -/
abbrev Steady (stream : Tokens) {α : Type} (x : Parse α) : Prop :=
  SteadyFor stream (fun _ => True) x

namespace Steady

open Parse (Place)

variable {α β : Type} {stream : Tokens}

theorem pure (a : α) : Steady stream (Pure.pure a) :=
  Sound.pure trivial

theorem bind {x : Parse α} {f : α → Parse β}
    (first : Steady stream x) (next : ∀ a, Steady stream (f a)) :
    Steady stream (x >>= f) :=
  Sound.bind first fun a _ => next a

theorem ite {condition : Prop} [Decidable condition] {x y : Parse α}
    (first : Steady stream x) (second : Steady stream y) :
    Steady stream (if condition then x else y) := by
  split
  · exact first
  · exact second

theorem get : Steady stream (MonadState.get : Parse Parser) :=
  Sound.get.weaken fun _ _ => trivial

/-- A parser goes on to read what is expected. -/
theorem expecting {expected : β → Prop} {x : Parse α} {f : α → Parse β}
    (first : Steady stream x)
    (next : ∀ a, SteadyFor stream expected (f a)) :
    SteadyFor stream expected (x >>= f) :=
  Sound.bind first fun a _ => next a

theorem modifyGet {f : Parser → α × Parser}
    (sameTokens : ∀ p, (f p).2.tokens = p.tokens)
    (sameFault : ∀ p, (f p).2.fault = p.fault) :
    Steady stream (MonadStateOf.modifyGet f) := by
  refine Sound.modifyGet fun p works => ⟨⟨?_, ?_⟩, trivial⟩
  · rw [sameTokens]
    exact works.left
  · rw [sameFault]
    exact works.sameFault

theorem malformedFor {expected : α → Prop} :
    SteadyFor stream expected (Parse.malformed : Parse α) :=
  Sound.throw (Or.inl rfl)

theorem malformed : Steady stream (Parse.malformed : Parse α) :=
  malformedFor

/-- The token that comes next is one of those that the parser is at; after the
last the parser finds the fault of the scanner. -/
theorem next_mem : SteadyFor stream (· ∈ stream.tokens) Parse.next := by
  unfold Parse.next
  refine Sound.bind Sound.get fun p works => ?_
  split
  next t rest isNext =>
    refine Sound.pure (works.left.mem ?_)
    rw [isNext]
    exact List.mem_cons_self
  next =>
    apply Sound.throw
    rw [works.sameFault]
    cases stream.fault with
    | none => exact Or.inl rfl
    | some fault => exact Or.inr rfl

theorem next : Steady stream Parse.next :=
  next_mem.weaken fun _ _ => trivial

theorem advance : Steady stream Parse.advance := by
  refine Sound.modify fun p works => ⟨?_, works.sameFault⟩
  exact (List.drop_suffix 1 _).trans works.left

theorem expect (t : Token) : Steady stream (Parse.expect t) :=
  next.bind fun _ => .ite advance malformed

theorem addNode (anchor : Option String) (node : Node) :
    Steady stream (Parse.addNode anchor node) :=
  modifyGet (fun _ => rfl) fun _ => rfl

theorem complete (id : NodeId) (node : Node) :
    Steady stream (Parse.complete id node) :=
  modifyGet (fun _ => rfl) fun _ => rfl

theorem aliased (name : String) : Steady stream (Parse.aliased name) := by
  refine get.bind fun _ => ?_
  split
  · exact pure _
  · exact malformed

theorem checkAnchor : ∀ anchor, Steady stream (Parse.checkAnchor anchor)
  | none => pure ()
  | some _ => get.bind fun _ => .ite malformed (pure ())

/-! ## Tags -/

theorem tagName (handle : Option String) (suffix : String) :
    Steady stream (Parse.tagName handle suffix) := by
  unfold Parse.tagName
  split
  · exact pure _
  · refine get.bind fun _ => ?_
    split
    · exact pure _
    · exact malformed

theorem anchorHere : Steady stream Parse.anchorHere := by
  refine next.bind fun _ => ?_
  split
  · exact advance.bind fun _ => pure _
  · exact pure _

theorem tagHere : Steady stream Parse.tagHere := by
  refine next.bind fun _ => ?_
  split
  · exact advance.bind fun _ => pure _
  · exact pure _

theorem properties : Steady stream Parse.properties := by
  have named (tag? : Option (Option String × String)) :
      Steady stream
        (tag?.mapM fun given => Parse.tagName given.1 given.2) := by
    cases tag? with
    | none => exact pure none
    | some given => exact (tagName _ _).bind fun _ => pure _
  unfold Parse.properties
  refine anchorHere.bind fun _ => tagHere.bind fun tag? => ?_
  dsimp only
  refine .ite ?_ ?_
  · exact anchorHere.bind fun _ => (named tag?).bind fun _ => pure _
  · exact (pure _).bind fun _ => (named tag?).bind fun _ => pure _

/-! ## Nodes -/

theorem emptyNode : Steady stream Parse.emptyNode :=
  addNode _ _

theorem nodeUnless {read : Parse NodeId} (steady : Steady stream read)
    (stops : List Token) :
    Steady stream (Parse.nodeUnless stops read) :=
  next.bind fun _ => .ite emptyNode steady

theorem commaUnless (isFirst : Bool) :
    Steady stream (Parse.commaUnless isFirst) :=
  .ite (pure ()) (expect _)

theorem valueOr {read : Parse NodeId} (steady : Steady stream read)
    (stops : List Token) :
    Steady stream (Parse.valueOr stops read) :=
  next.bind fun _ =>
    .ite (advance.bind fun _ => nodeUnless steady stops) emptyNode

theorem collection {read : Parse α} (steady : Steady stream read)
    (anchor : Option String) (make : α → Node) (none : α) :
    Steady stream (Parse.collection anchor make none read) :=
  (addNode _ _).bind fun _ => steady.bind fun _ => complete _ _

mutual

theorem node (place : Place) :
    ∀ budget, Steady stream (Parse.node place budget)
  | 0 => malformed
  | budget + 1 => by
      unfold Parse.node
      refine next.bind fun _ => ?_
      split
      · exact advance.bind fun _ => aliased _
      · refine properties.bind fun given => ?_
        obtain ⟨anchor, name⟩ := given
        refine next.bind fun t => ?_
        have anchored : Steady stream (Parse.checkAnchor anchor) :=
          checkAnchor anchor
        dsimp only
        split
        · exact anchored.bind fun _ => collection (looseItems budget) _ _ _
        · refine advance.bind fun _ => anchored.bind fun _ => ?_
          exact addNode _ _
        · refine anchored.bind fun _ => advance.bind fun _ => ?_
          exact collection (flowItems true budget) _ _ _
        · refine anchored.bind fun _ => advance.bind fun _ => ?_
          exact collection (flowEntries true budget) _ _ _
        · exact malformed
        · refine anchored.bind fun _ => advance.bind fun _ => ?_
          exact collection (blockItems budget) _ _ _
        · exact malformed
        · refine anchored.bind fun _ => advance.bind fun _ => ?_
          exact collection (blockEntries budget) _ _ _
        · exact .ite (anchored.bind fun _ => addNode _ _) malformed

theorem blockItems : ∀ budget, Steady stream (Parse.blockItems budget)
  | 0 => malformed
  | budget + 1 => by
      unfold Parse.blockItems
      refine next.bind fun _ => ?_
      split
      · refine advance.bind fun _ => ?_
        refine (nodeUnless (node .block budget) _).bind fun _ => ?_
        exact (blockItems budget).bind fun _ => pure _
      · exact advance.bind fun _ => pure _
      · exact malformed

theorem looseItems : ∀ budget, Steady stream (Parse.looseItems budget)
  | 0 => malformed
  | budget + 1 => by
      unfold Parse.looseItems
      refine next.bind fun _ => ?_
      split
      · refine advance.bind fun _ => ?_
        refine (nodeUnless (node .block budget) _).bind fun _ => ?_
        exact (looseItems budget).bind fun _ => pure _
      · exact pure _

theorem blockEntries : ∀ budget, Steady stream (Parse.blockEntries budget)
  | 0 => malformed
  | budget + 1 => by
      unfold Parse.blockEntries
      refine next.bind fun _ => ?_
      split
      · refine advance.bind fun _ => ?_
        dsimp only
        refine (nodeUnless (node .mappingPart budget) _).bind fun _ => ?_
        refine (valueOr (node .mappingPart budget) _).bind fun _ => ?_
        exact (blockEntries budget).bind fun _ => pure _
      · exact advance.bind fun _ => pure _
      · exact malformed

theorem flowItems (isFirst : Bool) :
    ∀ budget, Steady stream (Parse.flowItems isFirst budget)
  | 0 => malformed
  | budget + 1 => by
      unfold Parse.flowItems
      refine next.bind fun _ => .ite (advance.bind fun _ => pure _) ?_
      refine (commaUnless isFirst).bind fun _ => next.bind fun _ => ?_
      split
      · exact advance.bind fun _ => pure _
      · have pair :
            Steady stream (do
              Parse.advance
              let key ←
                Parse.nodeUnless [.value, .flowEntry, .flowSequenceEnd]
                  (Parse.node .flow budget)
              let value ←
                Parse.valueOr [.flowEntry, .flowSequenceEnd]
                  (Parse.node .flow budget)
              Pure.pure [(key, value)]) := by
          refine advance.bind fun _ => ?_
          refine (nodeUnless (node .flow budget) _).bind fun _ => ?_
          exact (valueOr (node .flow budget) _).bind fun _ => pure _
        refine (collection pair _ _ _).bind fun _ => ?_
        exact (flowItems false budget).bind fun _ => pure _
      · refine (node .flow budget).bind fun _ => ?_
        exact (flowItems false budget).bind fun _ => pure _

theorem flowEntries (isFirst : Bool) :
    ∀ budget, Steady stream (Parse.flowEntries isFirst budget)
  | 0 => malformed
  | budget + 1 => by
      unfold Parse.flowEntries
      refine next.bind fun _ => .ite (advance.bind fun _ => pure _) ?_
      refine (commaUnless isFirst).bind fun _ => next.bind fun _ => ?_
      split
      · exact advance.bind fun _ => pure _
      · refine advance.bind fun _ => ?_
        refine (nodeUnless (node .flow budget) _).bind fun _ => ?_
        refine (valueOr (node .flow budget) _).bind fun _ => ?_
        exact (flowEntries false budget).bind fun _ => pure _
      · refine (node .flow budget).bind fun _ => emptyNode.bind fun _ => ?_
        exact (flowEntries false budget).bind fun _ => pure _

end

/-! ## Documents -/

theorem directives :
    ∀ budget hasVersion handles,
      Steady stream (Parse.directives hasVersion handles budget)
  | 0, _, _ => malformed
  | budget + 1, hasVersion, handles => by
      unfold Parse.directives
      refine next.bind fun _ => ?_
      split
      · refine advance.bind fun _ => .ite malformed ?_
        exact directives budget _ _
      · refine advance.bind fun _ => .ite malformed ?_
        exact directives budget _ _
      · exact advance.bind fun _ => directives budget _ _
      · exact pure _

theorem documentStart (budget : Nat) :
    Steady stream (Parse.documentStart budget) := by
  refine (directives budget _ _).bind fun _ => (expect _).bind fun _ => ?_
  exact modifyGet (fun _ => rfl) fun _ => rfl

theorem skipDocumentEnds :
    ∀ budget, Steady stream (Parse.skipDocumentEnds budget)
  | 0 => pure ()
  | budget + 1 => by
      unfold Parse.skipDocumentEnds
      refine next.bind fun _ => .ite ?_ (pure ())
      exact advance.bind fun _ => skipDocumentEnds budget

/-- A document has been read only if the end of the text has come. -/
theorem document (budget : Nat) :
    SteadyFor stream (fun _ => .streamEnd ∈ stream.tokens)
      (Parse.document budget) := by
  have ending (root : NodeId) :
      SteadyFor stream (fun _ => .streamEnd ∈ stream.tokens) (do
        Parse.skipDocumentEnds budget
        if (← Parse.next) ≠ .streamEnd then
          Parse.documentStart budget
          Parse.malformed
        else
          Pure.pure (some root)) := by
    refine (skipDocumentEnds budget).expecting fun _ => ?_
    refine Sound.bind next_mem fun t member => ?_
    split
    next => exact (documentStart budget).expecting fun _ => malformedFor
    next isEnd =>
      have sameToken := Decidable.of_not_not isEnd
      exact Sound.pure (sameToken ▸ member)
  unfold Parse.document
  refine Sound.bind next_mem fun first member => ?_
  split
  next isEnd => exact Sound.pure (isEnd ▸ member)
  next =>
    split
    · refine (documentStart budget).expecting fun _ => next.expecting fun _ => ?_
      split
      · exact emptyNode.expecting ending
      · exact (node .block budget).expecting ending
    · refine (documentStart budget).expecting fun _ => next.expecting fun _ => ?_
      split
      · exact emptyNode.expecting ending
      · exact (node .block budget).expecting ending
    · exact (node .block budget).expecting ending

end Steady

end Tablesmith.Yaml

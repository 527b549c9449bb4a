import Tablesmith.Proofs.Yaml.Soundness
import Tablesmith.Yaml.Scanner

/-!
# Faults of scanning

A scan finds a text malformed; the only other faults are a code point that does
not exist, a version number that is too long, and the fault with which the text
breaks off.  The end of a text that breaks off is never reached.
-/

namespace Tablesmith

/-- What can go wrong while the scalars of a YAML text are read and made into
values. -/
inductive Failure.IsYaml : Failure → Prop
  | number (fault : Number.NumberFault) : IsYaml (.number fault)
  | calendar (fault : CalendarFault) : IsYaml (.calendar fault)
  | noFigures : IsYaml .textIndex
  | noTruthValue (word : String) : IsYaml (.missingKey (.text word))
  | noTimestamp : IsYaml (.property (.absent "NoneType" "groupdict"))
  | timestampMapping : IsYaml (.call (.notScannable "list"))
  | noCodePoint : IsYaml (.range .codePoint)
  | codePointSize : IsYaml (.range (.tooLargeFor "int"))

end Tablesmith

namespace Tablesmith.Yaml

/-- A text is malformed, or one of its scalars cannot be made. -/
inductive Fault.IsKnown : Fault → Prop
  | malformed : IsKnown .malformed
  | scalar {failure : Failure} (isYaml : failure.IsYaml) :
      IsKnown (.scalar failure)

/-- A fault is a known one, or the one with which a text breaks off. -/
def Fault.IsFrom (ending : Option Fault) (fault : Fault) : Prop :=
  fault.IsKnown ∨ ending = some fault

/-- A scan of a text with the given ending stays in that text, reads what is
expected, and fails only with a known fault or the one at the ending. -/
abbrev CarefulFor (ending : Option Fault) {α : Type} (expected : α → Prop)
    (x : Scan α) : Prop :=
  Sound (fun c => c.ending = ending) (Fault.IsFrom ending) expected x

/-- A careful scan of a token, which is not the one for the end of a text. -/
abbrev Tokenizes (ending : Option Fault) (x : Scan Token) : Prop :=
  CarefulFor ending (· ≠ .streamEnd) x

/-- A careful scan, of which nothing more is expected. -/
abbrev Careful (ending : Option Fault) {α : Type} (x : Scan α) : Prop :=
  CarefulFor ending (fun _ => True) x

@[simp]
theorem Cursor.ending_forward (c : Cursor) : c.forward.ending = c.ending := by
  unfold forward
  split
  · rfl
  · split
    · rfl
    · split <;> rfl

@[simp]
theorem Cursor.ending_forwardBy (c : Cursor) (n : Nat) :
    (c.forwardBy n).ending = c.ending := by
  induction n generalizing c with
  | zero => rfl
  | succ n inductionHypothesis =>
      rw [forwardBy, inductionHypothesis, ending_forward]

/-- Asking for characters fails only with the fault at the ending. -/
theorem Cursor.failsAs_need (c : Cursor) (count : Nat) :
    FailsAs (Fault.IsFrom c.ending) (c.need count) := by
  unfold need
  split
  · exact .ok ()
  · rename_i fault ends
    exact .ite (.ok ()) (.error (Or.inr ends))

variable {ending : Option Fault}

namespace Careful

variable {α β : Type}

theorem pure (a : α) : Careful ending (Pure.pure a) :=
  Sound.pure trivial

theorem bind {x : Scan α} {f : α → Scan β}
    (first : Careful ending x) (next : ∀ a, Careful ending (f a)) :
    Careful ending (x >>= f) :=
  Sound.bind first fun a _ => next a

/-- A careful scan goes on to read what is expected. -/
theorem expecting {expected : β → Prop} {x : Scan α} {f : α → Scan β}
    (first : Careful ending x)
    (next : ∀ a, CarefulFor ending expected (f a)) :
    CarefulFor ending expected (x >>= f) :=
  Sound.bind first fun a _ => next a

theorem ofGet (f : Cursor → α) :
    Careful ending (MonadState.get >>= fun s => Pure.pure (f s)) :=
  Sound.bind Sound.get fun _ _ => Sound.pure trivial

theorem malformed : Careful ending (Scan.malformed : Scan α) :=
  Sound.throw (Or.inl .malformed)

theorem lift {x : Except Fault α} (fails : FailsAs Fault.IsKnown x) :
    Careful ending (liftM x : Scan α) :=
  Sound.lift (fails.weaken fun _ => Or.inl)

/-! ## Steps of a scan -/

theorem demand (condition : Bool) :
    Careful ending (Scan.demand condition) := by
  unfold Scan.demand
  split
  · exact pure ()
  · exact malformed

theorem need (count : Nat) : Careful ending (Scan.need count) := by
  refine Sound.bind Sound.get fun cursor same => ?_
  have fails := cursor.failsAs_need count
  rw [same] at fails
  exact Sound.lift fails

theorem ahead (count : Nat) : Careful ending (Scan.ahead count) :=
  (need count).bind fun _ => ofGet _

theorem rest : Careful ending Scan.rest :=
  ahead 1

theorem column : Careful ending Scan.column :=
  ofGet _

theorem budget : Careful ending Scan.budget :=
  ofGet _

theorem forwardBy (n : Nat) : Careful ending (Scan.forwardBy n) := by
  refine (need _).bind fun _ => Sound.modify fun cursor same => ?_
  rw [Cursor.ending_forwardBy, same]

theorem forward : Careful ending Scan.forward :=
  forwardBy 1

theorem taken (test : Char → Bool) : Careful ending (Scan.taken test) := by
  refine Sound.bind Sound.get fun _ _ => ?_
  exact (forwardBy _).bind fun _ => pure _

theorem skip (test : Char → Bool) : Careful ending (Scan.skip test) :=
  (taken test).bind fun _ => pure _

theorem skipSpacesTo (column : Nat) :
    Careful ending (Scan.skipSpacesTo column) :=
  Sound.bind Sound.get fun _ _ => forwardBy _

theorem expect (c : Char) : Careful ending (Scan.expect c) :=
  rest.bind fun _ => (demand _).bind fun _ => forward

theorem comment : Careful ending Scan.comment := by
  refine rest.bind fun _ => ?_
  split
  · exact skip _
  · exact pure ()

theorem lineBreak : Careful ending Scan.lineBreak := by
  refine rest.bind fun _ => ?_
  split
  · exact pure []
  · exact forward.bind fun _ => pure _

theorem restOfLine : Careful ending Scan.restOfLine := by
  refine (skip _).bind fun _ => comment.bind fun _ => rest.bind fun _ => ?_
  exact (demand _).bind fun _ => lineBreak.bind fun _ => pure _

theorem separatorHere : Careful ending Scan.separatorHere := by
  refine (ahead 3).bind fun _ => ?_
  split
  · exact (ahead 4).bind fun _ => pure _
  · exact pure false

end Careful

open Careful

/-! ## Names, tags and directives -/

theorem careful_anchorName : Careful ending anchorName := by
  refine forward.bind fun _ => (taken _).bind fun _ => ?_
  refine (demand _).bind fun _ => rest.bind fun _ => ?_
  exact (demand _).bind fun _ => pure _

theorem tokenizes_anchor : Tokenizes ending (Token.anchor <$> anchorName) :=
  careful_anchorName.expecting fun _ => Sound.pure nofun

theorem tokenizes_alias : Tokenizes ending (Token.alias <$> anchorName) :=
  careful_anchorName.expecting fun _ => Sound.pure nofun

theorem careful_escapedByte : Careful ending escapedByte := by
  refine forward.bind fun _ => rest.bind fun _ => (demand _).bind fun _ => ?_
  refine (ahead 2).bind fun _ => (demand _).bind fun _ => ?_
  exact (forwardBy 2).bind fun _ => pure _

theorem careful_escapedBytes :
    ∀ budget, Careful ending (escapedBytes budget)
  | 0 => pure []
  | budget + 1 => by
      unfold escapedBytes
      refine rest.bind fun _ => ?_
      split
      · refine careful_escapedByte.bind fun _ => ?_
        exact (careful_escapedBytes budget).bind fun _ => pure _
      · exact pure []

theorem careful_tagChars : ∀ budget, Careful ending (tagChars budget)
  | 0 => pure []
  | budget + 1 => by
      unfold tagChars
      refine rest.bind fun cs => ?_
      split
      · exact pure []
      · split
        · refine Careful.budget.bind fun _ => ?_
          refine (careful_escapedBytes _).bind fun bytes => ?_
          split
          · exact malformed
          · exact (careful_tagChars budget).bind fun _ => pure _
        · split
          · refine forward.bind fun _ => ?_
            exact (careful_tagChars budget).bind fun _ => pure _
          · exact pure []

theorem careful_tagText : Careful ending tagText := by
  refine budget.bind fun _ => (careful_tagChars _).bind fun _ => ?_
  exact (demand _).bind fun _ => pure _

theorem careful_tagHandle : Careful ending tagHandle := by
  refine (expect _).bind fun _ => rest.bind fun _ => ?_
  split
  · exact pure _
  · exact (taken _).bind fun _ => (expect _).bind fun _ => pure _

theorem careful_handleHere : Careful ending handleHere :=
  (ahead 2).bind fun _ => (ahead _).bind fun _ => pure _

theorem tokenizes_tagEnd (handle : Option String) (suffix : String) :
    Tokenizes ending (tagEnd handle suffix) :=
  rest.expecting fun _ => (demand _).expecting fun _ => Sound.pure nofun

theorem tokenizes_tag : Tokenizes ending tag := by
  refine (ahead 2).expecting fun _ => ?_
  dsimp only
  split
  · refine (forwardBy 2).expecting fun _ => careful_tagText.expecting fun _ => ?_
    exact (expect _).expecting fun _ => tokenizes_tagEnd _ _
  · split
    · exact forward.expecting fun _ => tokenizes_tagEnd _ _
    · refine careful_handleHere.expecting fun _ => ?_
      split
      · refine careful_tagHandle.expecting fun _ => ?_
        exact careful_tagText.expecting fun _ => tokenizes_tagEnd _ _
      · refine forward.expecting fun _ => ?_
        exact careful_tagText.expecting fun _ => tokenizes_tagEnd _ _

theorem careful_versionNumber : Careful ending versionNumber := by
  refine (taken _).bind fun _ => (demand _).bind fun _ => ?_
  split
  · exact pure _
  · exact Sound.throw (Or.inl (.scalar (.number _)))

theorem careful_version : Careful ending version := by
  refine (skip _).bind fun _ => careful_versionNumber.bind fun _ => ?_
  refine (expect _).bind fun _ => careful_versionNumber.bind fun _ => ?_
  exact rest.bind fun _ => (demand _).bind fun _ => pure _

theorem careful_handleMeaning : Careful ending handleMeaning := by
  refine (skip _).bind fun _ => careful_tagHandle.bind fun _ => ?_
  refine rest.bind fun _ => (demand _).bind fun _ => (skip _).bind fun _ => ?_
  refine careful_tagText.bind fun _ => ?_
  exact rest.bind fun _ => (demand _).bind fun _ => pure _

theorem tokenizes_directive : Tokenizes ending directive := by
  have whole (meaning : Directive) :
      Tokenizes ending (do
        Scan.restOfLine
        Pure.pure (Token.directive meaning)) :=
    restOfLine.expecting fun _ => Sound.pure nofun
  refine forward.expecting fun _ => (taken _).expecting fun _ => ?_
  refine (demand _).expecting fun _ => rest.expecting fun _ => ?_
  refine (demand _).expecting fun _ => ?_
  dsimp only
  split
  · exact careful_version.expecting whole
  · exact careful_handleMeaning.expecting whole
  · exact ((skip _).bind fun _ => pure _).expecting whole

/-! ## Quoted scalars -/

theorem failsAs_namedCode (code : Nat) :
    FailsAs Fault.IsKnown (namedCode code) := by
  unfold namedCode
  split
  · exact .ok code
  · split
    · exact .error (.scalar .noCodePoint)
    · exact .error (.scalar .codePointSize)

theorem careful_quotedBreaks : ∀ budget, Careful ending (quotedBreaks budget)
  | 0 => pure []
  | budget + 1 => by
      unfold quotedBreaks
      refine separatorHere.bind fun _ => (demand _).bind fun _ => ?_
      refine (skip _).bind fun _ => lineBreak.bind fun _ => ?_
      split
      · exact pure []
      · exact (careful_quotedBreaks budget).bind fun _ => pure _

theorem careful_quotedGap : Careful ending quotedGap := by
  refine (taken _).bind fun _ => rest.bind fun _ => (demand _).bind fun _ => ?_
  refine lineBreak.bind fun _ => ?_
  split
  · exact pure _
  · exact budget.bind fun _ => (careful_quotedBreaks _).bind fun _ => pure _

theorem careful_escapedCode (width : Nat) :
    Careful ending (escapedCode width) := by
  refine rest.bind fun _ => (need _).bind fun _ => (demand _).bind fun _ => ?_
  refine (lift (failsAs_namedCode _)).bind fun _ => ?_
  exact (forwardBy _).bind fun _ => pure _

theorem careful_escape : Careful ending escape := by
  refine rest.bind fun _ => ?_
  split
  · exact malformed
  · split
    · exact forward.bind fun _ => pure _
    · exact forward.bind fun _ => (careful_escapedCode _).bind fun _ => pure _
    · refine (demand _).bind fun _ => forward.bind fun _ => ?_
      exact budget.bind fun _ => careful_quotedBreaks _

theorem careful_quotedRun (isDouble : Bool) :
    ∀ budget, Careful ending (quotedRun isDouble budget)
  | 0 => pure []
  | budget + 1 => by
      have further := careful_quotedRun isDouble budget
      unfold quotedRun
      refine (taken _).bind fun _ => ?_
      dsimp only
      refine rest.bind fun _ => ?_
      split
      · exact pure _
      · split
        · exact pure _
        · split
          · refine forward.bind fun _ => careful_escape.bind fun _ => ?_
            exact further.bind fun _ => pure _
          · split
            · exact forward.bind fun _ => further.bind fun _ => pure _
            · split
              · exact pure _
              · refine (ahead 2).bind fun _ => ?_
                split
                · exact (forwardBy 2).bind fun _ =>
                    further.bind fun _ => pure _
                · exact pure _

theorem careful_quotedParts (isDouble : Bool) :
    ∀ budget, Careful ending (quotedParts isDouble budget)
  | 0 => pure []
  | budget + 1 => by
      unfold quotedParts
      refine Careful.budget.bind fun _ => ?_
      refine (careful_quotedRun _ _).bind fun _ => rest.bind fun _ => ?_
      split
      · exact pure _
      · refine careful_quotedGap.bind fun _ => ?_
        exact (careful_quotedParts isDouble budget).bind fun _ => pure _

theorem tokenizes_quotedScalar (isDouble : Bool) :
    Tokenizes ending (quotedScalar isDouble) := by
  refine forward.expecting fun _ => budget.expecting fun _ => ?_
  refine (careful_quotedParts _ _).expecting fun _ => ?_
  exact forward.expecting fun _ => Sound.pure nofun

/-! ## Block scalars -/

theorem careful_chomping? : Careful ending chomping? := by
  refine rest.bind fun _ => ?_
  split
  · exact forward.bind fun _ => pure _
  · exact forward.bind fun _ => pure _
  · exact pure _

theorem careful_increment? : Careful ending increment? := by
  refine rest.bind fun _ => ?_
  split
  · exact pure _
  · split
    · exact (demand _).bind fun _ => forward.bind fun _ => pure _
    · exact pure _

theorem careful_blockHeader : Careful ending blockHeader := by
  unfold blockHeader
  refine careful_chomping?.bind fun _ => careful_increment?.bind fun _ => ?_
  dsimp only
  split
  · refine careful_chomping?.bind fun _ => ?_
    exact rest.bind fun _ => (demand _).bind fun _ => pure _
  · refine (pure _).bind fun _ => ?_
    exact rest.bind fun _ => (demand _).bind fun _ => pure _

theorem careful_blockStart :
    ∀ budget widest, Careful ending (blockStart widest budget)
  | 0, _ => pure _
  | budget + 1, widest => by
      unfold blockStart
      refine (skip _).bind fun _ => column.bind fun _ => ?_
      dsimp only
      refine lineBreak.bind fun _ => ?_
      split
      · exact pure _
      · exact (careful_blockStart budget _).bind fun _ => pure _

theorem careful_blockBreaks (indentation : Nat) :
    ∀ budget, Careful ending (blockBreaks indentation budget)
  | 0 => pure []
  | budget + 1 => by
      unfold blockBreaks
      refine (skipSpacesTo _).bind fun _ => lineBreak.bind fun _ => ?_
      split
      · exact pure []
      · exact (careful_blockBreaks indentation budget).bind fun _ => pure _

theorem careful_atBlockLine (indentation : Nat) :
    Careful ending (atBlockLine indentation) :=
  column.bind fun _ => rest.bind fun _ => pure _

theorem careful_blockLines (isFolded : Bool) (indentation : Nat) :
    ∀ budget above, Careful ending (blockLines isFolded indentation above budget)
  | 0, _ => pure _
  | budget + 1, above => by
      unfold blockLines
      refine (careful_atBlockLine _).bind fun _ => ?_
      split
      · refine rest.bind fun _ => (taken _).bind fun _ => ?_
        refine lineBreak.bind fun _ => Careful.budget.bind fun _ => ?_
        refine (careful_blockBreaks _ _).bind fun _ => ?_
        refine (careful_atBlockLine _).bind fun _ => ?_
        split
        · refine rest.bind fun _ => ?_
          exact (careful_blockLines isFolded indentation budget _).bind
            fun _ => pure _
        · exact pure _
      · exact pure _

theorem tokenizes_blockScalar (isFolded : Bool) (leastColumn : Nat) :
    Tokenizes ending (blockScalar isFolded leastColumn) := by
  have lines (above : List Nat) (indentation : Nat)
      (kept : BlockText → List Nat) :
      Tokenizes ending (do
        let text ← blockLines isFolded indentation above (← Scan.budget)
        Pure.pure (Token.scalar (text.lines ++ kept text) false)) := by
    refine budget.expecting fun _ => ?_
    exact (careful_blockLines _ _ _ _).expecting fun _ => Sound.pure nofun
  unfold blockScalar
  refine forward.expecting fun _ => careful_blockHeader.expecting fun header => ?_
  refine restOfLine.expecting fun _ => ?_
  dsimp only
  split
  · refine budget.expecting fun _ => (careful_blockStart _ _).expecting fun _ => ?_
    exact (pure _).expecting fun _ => lines _ _ _
  · refine budget.expecting fun _ => (careful_blockBreaks _ _).expecting fun _ => ?_
    exact (pure _).expecting fun _ => lines _ _ _

/-! ## Plain scalars -/

theorem careful_plainPart (inFlow : Bool) :
    Careful ending (plainPart inFlow) := by
  have whole (run : List Char) :
      Careful ending (do
        Scan.forwardBy run.length
        Pure.pure run) :=
    (forwardBy _).bind fun _ => pure _
  refine rest.bind fun _ => (ahead _).bind fun _ => ?_
  dsimp only
  split
  · exact (need _).bind fun _ => whole _
  · exact whole _

theorem careful_plainBreaks : ∀ budget, Careful ending (plainBreaks budget)
  | 0 => pure _
  | budget + 1 => by
      unfold plainBreaks
      refine separatorHere.bind fun _ => ?_
      split
      · exact pure _
      · refine (skip _).bind fun _ => lineBreak.bind fun _ => ?_
        split
        · exact pure _
        · exact (careful_plainBreaks budget).bind fun _ => pure _

theorem careful_plainGap : Careful ending plainGap := by
  refine (taken _).bind fun _ => lineBreak.bind fun _ => ?_
  split
  · exact pure _
  · refine budget.bind fun _ => (careful_plainBreaks _).bind fun _ => ?_
    split
    · exact pure _
    · exact pure _

theorem careful_plainParts (inFlow : Bool) (leastColumn : Nat) :
    ∀ budget gap lineEnded,
      Careful ending (plainParts inFlow leastColumn gap lineEnded budget)
  | 0, _, _ => pure _
  | budget + 1, gap, lineEnded => by
      unfold plainParts
      refine rest.bind fun _ => ?_
      split
      · exact pure _
      · refine (careful_plainPart inFlow).bind fun _ => ?_
        split
        · exact pure _
        · refine careful_plainGap.bind fun _ => column.bind fun _ => ?_
          split
          · exact pure _
          · exact (careful_plainParts inFlow leastColumn budget _ _).bind
              fun _ => pure _

theorem tokenizes_plainScalar (inFlow : Bool) (leastColumn : Nat) :
    CarefulFor ending (fun read => read.1 ≠ .streamEnd)
      (plainScalar inFlow leastColumn) := by
  refine budget.expecting fun _ => ?_
  exact (careful_plainParts _ _ _ _ _).expecting fun _ => Sound.pure nofun

/-! ## Between tokens -/

theorem careful_skipLines : ∀ budget, Careful ending (skipLines budget)
  | 0 => pure _
  | budget + 1 => by
      unfold skipLines
      refine (skip _).bind fun _ => comment.bind fun _ => ?_
      refine lineBreak.bind fun _ => ?_
      split
      · exact pure _
      · exact (careful_skipLines budget).bind fun _ => pure _

theorem careful_skipToToken : Careful ending skipToToken := by
  have lines :
      Careful ending (do
        skipLines (← Scan.budget)) :=
    budget.bind fun _ => careful_skipLines _
  refine Sound.bind Sound.get fun _ _ => rest.bind fun _ => ?_
  split
  · exact forward.bind fun _ => lines
  · exact lines

/-! ## The scanner -/

namespace Scanner

/-- A scanner reads a text with the given ending.  It has come to the end of
the text only if that does not break off. -/
structure Reads (ending : Option Fault) (s : Scanner) : Prop where
  sameEnding : s.cursor.ending = ending
  whole : .streamEnd ∈ s.tokens → ending = none

/-- A step of a scanner stays in its text, and fails only with a known fault or
the one with which the text breaks off. -/
abbrev Safe (ending : Option Fault) (x : Except Fault Scanner) : Prop :=
  EndsAs (Fault.IsFrom ending) (Reads ending) x

theorem safe_malformed :
    Safe ending (.error .malformed) :=
  Or.inl .malformed

variable {s : Scanner}

theorem Reads.start (source : Source) :
    Reads source.fault (Scanner.start source) :=
  ⟨rfl, nofun⟩

theorem Reads.emit (reads : Reads ending s) {t : Token}
    (notEnd : t ≠ .streamEnd) :
    Reads ending (s.emit t) := by
  refine ⟨reads.sameEnding, fun member => reads.whole ?_⟩
  rcases List.mem_cons.mp member with same | earlier
  · exact absurd same.symm notEnd
  · exact earlier

theorem Reads.insert (reads : Reads ending s) (number : Nat) {t : Token}
    (notEnd : t ≠ .streamEnd) :
    Reads ending (s.insert number t) := by
  refine ⟨reads.sameEnding, fun member => reads.whole ?_⟩
  rcases List.mem_append.mp member with newer | older
  · exact List.mem_of_mem_take newer
  · rcases List.mem_cons.mp older with same | earlier
    · exact absurd same.symm notEnd
    · exact List.mem_of_mem_drop earlier

theorem Reads.closeTo (reads : Reads ending s) (leastColumn : Nat) :
    Reads ending (s.closeTo leastColumn) := by
  unfold Scanner.closeTo
  split
  · exact reads
  · refine ⟨reads.sameEnding, fun member => reads.whole ?_⟩
    rcases List.mem_append.mp member with closed | earlier
    · obtain ⟨_, _, same⟩ := List.mem_map.mp closed
      cases same
    · exact earlier

theorem failsAs_refreshed (key : Option PendingKey) :
    FailsAs Fault.IsKnown (s.refreshed key) := by
  unfold refreshed
  split
  · exact .ok _
  · exact .ite (.ok _) (.ite (.error .malformed) (.ok _))

theorem safe_dropStale (reads : Reads ending s) :
    Safe ending s.dropStale := by
  have refreshes {α : Type} {x : Except Fault α}
      (fails : FailsAs Fault.IsKnown x) :
      EndsAs (Fault.IsFrom ending) (fun _ => True) x :=
    .ofFailsAs (fails.weaken fun _ => Or.inl)
  refine (refreshes (failsAs_refreshed _)).bind fun _ _ => ?_
  refine (refreshes (FailsAs.mapM failsAs_refreshed _)).bind fun _ _ => ?_
  exact ⟨reads.sameEnding, reads.whole⟩

theorem safe_dropPending (reads : Reads ending s) :
    Safe ending s.dropPending := by
  unfold dropPending
  split
  · exact .ite safe_malformed ⟨reads.sameEnding, reads.whole⟩
  · exact reads

theorem safe_notePending (reads : Reads ending s) :
    Safe ending s.notePending := by
  unfold notePending
  split
  · refine (safe_dropPending reads).bind fun _ dropped => ?_
    exact ⟨dropped.sameEnding, dropped.whole⟩
  · exact reads

theorem ends_need (reads : Reads ending s) (count : Nat) :
    EndsAs (Fault.IsFrom ending) (fun _ => True) (s.cursor.need count) := by
  rw [← reads.sameEnding]
  exact .ofFailsAs (s.cursor.failsAs_need count)

theorem safe_forwardBy (reads : Reads ending s) (n : Nat) :
    Safe ending (s.forwardBy n) := by
  refine (ends_need reads _).bind fun _ _ => ⟨?_, reads.whole⟩
  exact (s.cursor.ending_forwardBy n).trans reads.sameEnding

theorem safe_forward (reads : Reads ending s) : Safe ending s.forward :=
  safe_forwardBy reads 1

/-- Passing over a character and handing on a token is safe, unless that is the
token for the end. -/
theorem safe_mark (reads : Reads ending s) {t : Token}
    (notEnd : t ≠ .streamEnd) :
    Safe ending (do
      let s ← s.forward
      return s.emit t) :=
  (safe_forward reads).bind fun _ moved => moved.emit notEnd

theorem safe_scanToken (reads : Reads ending s) {scan : Scan Token}
    (tokenizes : Tokenizes ending scan) :
    Safe ending (s.scanToken scan) := by
  refine (tokenizes.run reads.sameEnding).bind fun _ done => ?_
  have moved : Reads ending { s with cursor := _ } := ⟨done.1, reads.whole⟩
  exact moved.emit done.2

theorem safe_openBlock (reads : Reads ending s) {t : Token}
    (notEnd : t ≠ .streamEnd) :
    Safe ending (s.openBlock t) := by
  have opened (columns : List Nat) : Reads ending { s with columns } :=
    ⟨reads.sameEnding, reads.whole⟩
  unfold openBlock indent
  refine .ite reads (.ite safe_malformed ?_)
  split
  · exact (opened _).emit notEnd
  · exact reads

theorem safe_skipToToken (reads : Reads ending s) :
    Safe ending s.skipToToken := by
  refine (Sound.run careful_skipToToken reads.sameEnding).bind fun _ done => ?_
  exact ⟨done.1, reads.whole⟩

theorem safe_directive (reads : Reads ending s) : Safe ending s.directive := by
  refine (safe_dropPending (reads.closeTo 0)).bind fun _ dropped => ?_
  refine safe_scanToken ?_ tokenizes_directive
  exact ⟨dropped.sameEnding, dropped.whole⟩

theorem safe_separator (reads : Reads ending s) {t : Token}
    (notEnd : t ≠ .streamEnd) :
    Safe ending (s.separator t) := by
  refine (safe_dropPending (reads.closeTo 0)).bind fun _ dropped => ?_
  refine (safe_forwardBy ?_ 3).bind fun _ moved => moved.emit notEnd
  exact ⟨dropped.sameEnding, dropped.whole⟩

theorem safe_flowStart (reads : Reads ending s) {t : Token}
    (notEnd : t ≠ .streamEnd) :
    Safe ending (s.flowStart t) := by
  refine (safe_notePending reads).bind fun _ noted => safe_mark ?_ notEnd
  exact ⟨noted.sameEnding, noted.whole⟩

theorem safe_flowEnd (reads : Reads ending s) {t : Token}
    (notEnd : t ≠ .streamEnd) :
    Safe ending (s.flowEnd t) := by
  refine (safe_dropPending reads).bind fun _ dropped => ?_
  refine (safe_forward dropped).bind fun _ moved => ?_
  split
  · exact safe_malformed
  · refine Reads.emit ?_ notEnd
    exact ⟨moved.sameEnding, moved.whole⟩

theorem safe_flowEntry (reads : Reads ending s) : Safe ending s.flowEntry := by
  refine (safe_dropPending reads).bind fun _ dropped => ?_
  refine safe_mark ?_ (by decide)
  exact ⟨dropped.sameEnding, dropped.whole⟩

theorem safe_blockEntry (reads : Reads ending s) :
    Safe ending s.blockEntry := by
  refine (safe_openBlock reads (by decide)).bind fun _ opened => ?_
  refine (safe_dropPending ?_).bind fun _ dropped =>
    safe_mark dropped (by decide)
  exact ⟨opened.sameEnding, opened.whole⟩

theorem safe_key (reads : Reads ending s) : Safe ending s.key := by
  refine (safe_openBlock reads (by decide)).bind fun _ opened => ?_
  refine (safe_dropPending ?_).bind fun _ dropped =>
    safe_mark dropped (by decide)
  exact ⟨opened.sameEnding, opened.whole⟩

theorem safe_value (reads : Reads ending s) : Safe ending s.value := by
  unfold value indent
  split
  next key _ =>
    have answered :
        Reads ending { s with pending := none, allowsKey := false } :=
      ⟨reads.sameEnding, reads.whole⟩
    have keyed := answered.insert key.number (t := .key) (by decide)
    refine safe_mark ?_ (by decide)
    split
    · exact keyed
    · split
      · refine Reads.insert ?_ _ (by decide)
        exact ⟨keyed.sameEnding, keyed.whole⟩
      · exact keyed
  next =>
    refine (safe_openBlock reads (by decide)).bind fun _ opened => ?_
    refine safe_mark ?_ (by decide)
    exact ⟨opened.sameEnding, opened.whole⟩

theorem safe_keyToken (reads : Reads ending s) {scan : Scan Token}
    (tokenizes : Tokenizes ending scan) :
    Safe ending (s.keyToken scan) := by
  refine (safe_notePending reads).bind fun _ noted => ?_
  refine safe_scanToken ?_ tokenizes
  exact ⟨noted.sameEnding, noted.whole⟩

theorem safe_blockScalar (reads : Reads ending s) (isFolded : Bool) :
    Safe ending (s.blockScalar isFolded) := by
  refine (safe_dropPending ?_).bind fun _ dropped =>
    safe_scanToken dropped (tokenizes_blockScalar isFolded _)
  exact ⟨reads.sameEnding, reads.whole⟩

theorem safe_plainScalar (reads : Reads ending s) :
    Safe ending s.plainScalar := by
  refine (safe_notePending reads).bind fun _ noted => ?_
  have scanned : ∀ inFlow leastColumn,
      CarefulFor ending (fun read => read.1 ≠ .streamEnd)
        (Yaml.plainScalar inFlow leastColumn) :=
    tokenizes_plainScalar
  refine ((scanned _ _).run noted.sameEnding).bind fun _ done => ?_
  refine Reads.emit ?_ done.2
  exact ⟨done.1, noted.whole⟩

/-- The token for the end comes only at the end of a text that does not break
off: there the first character is asked for. -/
theorem safe_streamEnd (reads : Reads ending s) (complete : ending = none) :
    Safe ending s.streamEnd := by
  refine (safe_dropPending (reads.closeTo 0)).bind fun _ dropped => ?_
  exact ⟨dropped.sameEnding, fun _ => complete⟩

theorem safe_tokenHere (reads : Reads ending s)
    (complete : s.cursor.rest = [] → ending = none) :
    Safe ending s.tokenHere := by
  unfold tokenHere
  dsimp only
  split
  next atEnd => exact safe_streamEnd reads (complete atEnd)
  next =>
    -- The cases follow the characters that a token can begin with.
    refine .ite (safe_directive reads) ?_
    refine .ite (safe_separator reads (by decide)) ?_
    refine .ite (safe_separator reads (by decide)) ?_
    refine .ite (safe_flowStart reads (by decide)) ?_
    refine .ite (safe_flowStart reads (by decide)) ?_
    refine .ite (safe_flowEnd reads (by decide)) ?_
    refine .ite (safe_flowEnd reads (by decide)) ?_
    refine .ite (safe_flowEntry reads) (.ite (safe_blockEntry reads) ?_)
    refine .ite (safe_key reads) (.ite (safe_value reads) ?_)
    refine .ite (safe_keyToken reads tokenizes_alias) ?_
    refine .ite (safe_keyToken reads tokenizes_anchor) ?_
    refine .ite (safe_keyToken reads tokenizes_tag) ?_
    refine .ite (safe_blockScalar reads _) (.ite (safe_blockScalar reads _) ?_)
    refine .ite (safe_keyToken reads (tokenizes_quotedScalar _)) ?_
    refine .ite (safe_keyToken reads (tokenizes_quotedScalar _)) ?_
    exact .ite (safe_plainScalar reads) safe_malformed

theorem safe_token (reads : Reads ending s) : Safe ending s.token := by
  have looked :
      EndsAs (Fault.IsFrom ending)
        (fun _ => s.cursor.rest = [] → ending = none)
        (s.cursor.need s.lookahead) := by
    rw [← reads.sameEnding]
    unfold Cursor.need
    split
    next complete => exact fun _ => complete
    next fault ends =>
      split
      next there =>
        intro atEnd
        rw [atEnd] at there
        unfold lookahead at there
        rw [atEnd] at there
        cases there
      next => exact Or.inr ends
  exact looked.bind fun _ complete => safe_tokenHere reads complete

theorem safe_step (reads : Reads ending s) : Safe ending s.step := by
  refine (safe_skipToToken reads).bind fun _ skipped => ?_
  refine (safe_dropStale skipped).bind fun _ fresh => ?_
  exact safe_token (fresh.closeTo _)

end Scanner

/-! ## Token streams -/

/-- Tokens come from a text with the given ending: a fault after them is a
known one or that at the ending, and the token for the end of the text is
among them only if it does not break off. -/
structure Tokens.ComeFrom (ending : Option Fault) (stream : Tokens) : Prop where
  known : ∀ fault, stream.fault = some fault → fault.IsFrom ending
  whole : .streamEnd ∈ stream.tokens → ending = none

open Scanner in
theorem comeFrom_scanFrom (budget : Nat) {s : Scanner}
    (reads : Reads ending s) :
    (scanFrom s budget).ComeFrom ending := by
  have failed {s : Scanner} (reads : Reads ending s) {fault : Fault}
      (isFrom : fault.IsFrom ending) (count : Nat) :
      Tokens.ComeFrom ending ⟨s.tokens.reverse.take count, some fault⟩ := by
    refine ⟨?_, ?_⟩
    · intro other same
      cases same
      exact isFrom
    · intro member
      exact reads.whole (List.mem_reverse.mp (List.mem_of_mem_take member))
  induction budget generalizing s with
  | zero =>
      refine ⟨?_, fun member => reads.whole (List.mem_reverse.mp member)⟩
      intro other same
      cases same
      exact Or.inl .malformed
  | succ budget inductionHypothesis =>
      have refreshed := safe_dropStale reads
      unfold scanFrom
      cases fresh : s.dropStale with
      | error fault =>
          rw [fresh] at refreshed
          exact failed reads refreshed _
      | ok s =>
          rw [fresh] at refreshed
          have stepped := safe_step refreshed
          dsimp only
          cases result : s.step with
          | error fault =>
              rw [result] at stepped
              exact failed refreshed stepped _
          | ok next =>
              rw [result] at stepped
              dsimp only
              split
              · refine ⟨nofun, fun member => ?_⟩
                exact stepped.whole (List.mem_reverse.mp member)
              · exact inductionHypothesis stepped

/-- The scanner fails only with a known fault or as the text breaks off, and it
comes to the end only of a text that does not. -/
theorem comeFrom_tokensOf (source : Source) :
    (tokensOf source).ComeFrom source.fault :=
  comeFrom_scanFrom _ (.start source)

end Tablesmith.Yaml

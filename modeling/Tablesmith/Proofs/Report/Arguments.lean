import Tablesmith.Proofs.Value.Entries
import Tablesmith.Report.Arguments

/-!
# What a report from arguments shows

The circumstances that a category knows by name are entered into the given
context one after the other.  Their names differ, so each stays as it was
entered, and the rest of the context is left alone.
-/

namespace Tablesmith.Report

variable {category : Category} {given : String → Value}

/-! ## Entering circumstances -/

/-- A context shows the circumstances that count, an address masked, and under
all other names what the given context shows. -/
structure Shows
    (known : List (String × (Value → Bool))) (given : String → Value)
    (before after : List (Value × Value)) : Prop where
  counted :
    ∀ circumstance ∈ known, circumstance.2 (given circumstance.1) = true →
      ∃ shown,
        shownValue circumstance.1 (given circumstance.1) = .ok shown ∧
          Value.lookupText? after circumstance.1 = some shown
  others :
    ∀ name,
      (∀ circumstance ∈ known, circumstance.1 = name →
        circumstance.2 (given name) = false) →
      Value.lookupText? after name = Value.lookupText? before name

theorem shows_of_enterAll
    {known : List (String × (Value → Bool))}
    (distinct : (known.map Prod.fst).Nodup)
    {before : List (Value × Value)} {entered : Value}
    (made : enterAll (.dict before) given known = .ok entered) :
    ∃ after, entered = .dict after ∧ Shows known given before after := by
  induction known generalizing before with
  | nil =>
      cases made
      exact ⟨before, rfl, nofun, fun _ _ => rfl⟩
  | cons first rest inductionHypothesis =>
      obtain ⟨name, counts⟩ := first
      rw [List.map_cons, List.nodup_cons] at distinct
      obtain ⟨isNew, restDistinct⟩ := distinct
      rw [enterAll] at made
      split at made
      next isCounted =>
        cases shown : shownValue name (given name) with
        | error fault =>
            rw [shown] at made
            cases made
        | ok value =>
            rw [shown] at made
            obtain ⟨after, rfl, shows⟩ :=
              inductionHypothesis restDistinct made
            -- No later circumstance has the name of this one.
            have stays :
                Value.lookupText? after name = some value := by
              rw [shows.others name, Value.lookupText?_put, if_pos rfl]
              rintro circumstance member rfl
              exact absurd (List.mem_map_of_mem member) isNew
            refine ⟨after, rfl, ?_, ?_⟩
            · intro circumstance member
              rcases List.mem_cons.mp member with rfl | later
              · exact fun _ => ⟨value, shown, stays⟩
              · exact shows.counted circumstance later
            · intro other uncounted
              have isOther : other ≠ name := by
                rintro rfl
                exact Bool.false_ne_true
                  ((uncounted _ List.mem_cons_self rfl).symm.trans isCounted)
              rw [shows.others other fun circumstance member =>
                  uncounted circumstance (List.mem_cons_of_mem _ member),
                Value.lookupText?_put, if_neg isOther]
      next notCounted =>
        obtain ⟨after, rfl, shows⟩ := inductionHypothesis restDistinct made
        refine ⟨after, rfl, ?_, ?_⟩
        · intro circumstance member isCounted
          rcases List.mem_cons.mp member with rfl | later
          · exact absurd isCounted notCounted
          · exact shows.counted circumstance later isCounted
        · exact fun other uncounted =>
            shows.others other fun circumstance member =>
              uncounted circumstance (List.mem_cons_of_mem _ member)

theorem nodup_circumstances (category : Category) :
    ((circumstances category).map Prod.fst).Nodup := by
  cases category with
  | general => decide
  | model => decide
  | unmapped => decide
  | configuration => decide
  | execution => decide

/-! ## Reports -/

theorem contextEntries_dict (entries : List (Value × Value)) :
    contextEntries (.dict entries) =
      .ok (entries.map fun e => (e.1.display, e.2)) := by
  unfold contextEntries
  cases entries with
  | nil => rfl
  | cons e rest => rfl

theorem suggestions_ne_nil (notGeneral : category ≠ .general) :
    category.suggestions ≠ [] := by
  cases category with
  | general => exact absurd rfl notGeneral
  | _ => exact List.cons_ne_nil _ _

/-- A report that is made from arguments with a dictionary as its context shows
the circumstances that its category knows, and otherwise that context.  Only a
general report takes a code from its arguments, and only a general report can
be without suggestions. -/
theorem ofArguments_shows
    {message : String} {arguments : List (Value × Value)} {r : Report}
    (made : ofArguments category message arguments = .ok r)
    {before : List (Value × Value)}
    (context :
      (Value.lookupText? arguments "context").getD (.dict []) =
        .dict before) :
    let given := fun name => (Value.lookupText? arguments name).getD .null
    r.category = category ∧ r.message = message ∧
      (category ≠ .general →
        r.code = category.code ∧ r.suggestions ≠ []) ∧
      ∃ after,
        r.context = after.map (fun e => (e.1.display, e.2)) ∧
          Shows (circumstances category) given before after := by
  intro given
  unfold ofArguments at made
  dsimp only at made
  rw [context] at made
  split at made
  · cases made
  · split at made
    · cases made
    next entered entering =>
      obtain ⟨after, rfl, shows⟩ :=
        shows_of_enterAll (nodup_circumstances category) entering
      rw [contextEntries_dict] at made
      cases suggested :
          suggestionsIn
            ((Value.lookupText? arguments "suggestions").getD .null) with
      | error failure =>
          rw [suggested] at made
          cases made
      | ok suggestions =>
          rw [suggested] at made
          cases made
          refine ⟨rfl, rfl, fun notGeneral => ⟨if_neg notGeneral, ?_⟩,
            after, rfl, shows⟩
          dsimp only
          split
          · exact suggestions_ne_nil notGeneral
          next filled =>
            rintro rfl
            exact filled rfl

end Tablesmith.Report

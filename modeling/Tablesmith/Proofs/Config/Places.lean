import Mathlib.Data.List.Infix
import Mathlib.Data.Set.Defs
import Tablesmith.Config.Validation
import Tablesmith.Proofs.Text.Splitting

/-!
# The places of faults

The text of a place joins the steps to it with arrows.  The steps can be read
off that text if none but the last holds a blank, and the last no arrow.  Steps
into known fields and to positions are of that kind, and no two faults in known
fields share their steps.
-/

namespace Tablesmith.Config

/-! ## Steps -/

/-- What stands between two steps. -/
def arrow : List Char := [' ', '-', '>', ' ']

/-- The texts of the steps to a fault. -/
def Fault.steps (f : Fault) : List String := f.path.map Place.text

/-- Steps that can be told apart once they are joined.  The last one may hold
blanks, since a key that belongs to no field can only be the last step. -/
def Separable : List String → Prop
  | [] => True
  | [last] => ¬ arrow <:+: last.toList
  | step :: next :: rest => ' ' ∉ step.toList ∧ Separable (next :: rest)

theorem not_arrow_of_plain {cs : List Char} (plain : ' ' ∉ cs) :
    ¬ arrow <:+: cs := by
  intro occurs
  exact plain (occurs.subset (by decide))

theorem Separable.cons
    {step : String} {rest : List String}
    (plain : ' ' ∉ step.toList) (separable : Separable rest) :
    Separable (step :: rest) := by
  cases rest with
  | nil => exact not_arrow_of_plain plain
  | cons next later => exact ⟨plain, separable⟩

theorem toList_intercalate_cons_cons (step next : String) (rest : List String) :
    (String.intercalate " -> " (step :: next :: rest)).toList =
      step.toList ++ arrow ++
        (String.intercalate " -> " (next :: rest)).toList := by
  rw [String.intercalate_cons_cons, String.toList_append, String.toList_append]
  rfl

/-- A single step is no join of several. -/
theorem not_arrow_ne_intercalate
    {last step next : String} {rest : List String}
    (single : ¬ arrow <:+: last.toList) :
    last ≠ String.intercalate " -> " (step :: next :: rest) := by
  rintro rfl
  rw [toList_intercalate_cons_cons] at single
  exact single ⟨_, _, rfl⟩

/-- Of two joins, the first blank of either ends its first step. -/
theorem append_arrow_inj
    {step other rest later : List Char}
    (plain : ' ' ∉ step) (otherPlain : ' ' ∉ other)
    (same : step ++ arrow ++ rest = other ++ arrow ++ later) :
    step = other ∧ rest = later := by
  have shape (front back : List Char) :
      front ++ arrow ++ back = front ++ ' ' :: (['-', '>', ' '] ++ back) := by
    rw [List.append_assoc]
    rfl
  rw [shape, shape] at same
  obtain ⟨sameStep, sameRest⟩ := Text.append_mark_inj plain otherPlain same
  exact ⟨sameStep, List.append_cancel_left sameRest⟩

/-- Steps that can be told apart are given by their join. -/
theorem Separable.eq_of_intercalate_eq
    {xs ys : List String}
    (separable : Separable xs) (otherSeparable : Separable ys)
    (nonempty : xs ≠ []) (otherNonempty : ys ≠ [])
    (same :
      String.intercalate " -> " xs = String.intercalate " -> " ys) :
    xs = ys := by
  induction xs generalizing ys with
  | nil => exact absurd rfl nonempty
  | cons x rest inductionHypothesis =>
      cases ys with
      | nil => exact absurd rfl otherNonempty
      | cons y later =>
          cases rest with
          | nil =>
              cases later with
              | nil => simpa using same
              | cons next last =>
                  rw [String.intercalate_singleton] at same
                  exact absurd same (not_arrow_ne_intercalate separable)
          | cons next last =>
              cases later with
              | nil =>
                  rw [String.intercalate_singleton] at same
                  exact absurd same.symm
                    (not_arrow_ne_intercalate otherSeparable)
              | cons otherNext otherLast =>
                  have chars := congrArg String.toList same
                  rw [toList_intercalate_cons_cons,
                    toList_intercalate_cons_cons] at chars
                  obtain ⟨sameFirst, sameRest⟩ :=
                    append_arrow_inj separable.1 otherSeparable.1 chars
                  rw [String.toList_injective sameFirst,
                    inductionHypothesis separable.2 otherSeparable.2
                      (List.cons_ne_nil _ _) (List.cons_ne_nil _ _)
                      (String.toList_injective sameRest)]

/-! ## Positions -/

/-- Numbers are written differently. -/
theorem repr_injective {m n : Nat} (same : m.repr = n.repr) : m = n := by
  have digits : Nat.toDigits 10 m = Nat.toDigits 10 n := by
    rw [← Nat.toList_repr, ← Nat.toList_repr, same]
  calc
    m = Nat.ofDigitChars 10 (Nat.toDigits 10 m) 0 :=
      Nat.ofDigitChars_ten_toDigits.symm
    _ = Nat.ofDigitChars 10 (Nat.toDigits 10 n) 0 := by rw [digits]
    _ = n := Nat.ofDigitChars_ten_toDigits

theorem plain_text_item (position : Nat) :
    ' ' ∉ (Place.item position).text.toList := by
  intro member
  have isDigit : Char.isDigit ' ' = true := by
    refine Nat.isDigit_of_mem_toDigits (b := 10) (n := position)
      (by decide) (by decide) ?_
    rwa [← Nat.toList_repr]
  exact absurd isDigit (by decide)

/-- The texts of the positions from the given one on. -/
def positionsFrom (position : Nat) : Set String :=
  { step | ∃ later : Nat, position ≤ later ∧ step = (Place.item later).text }

/-! ## Faults that can be told apart -/

/-- The places of faults can be told apart, as far as their problems count.
Which problems do is left open: only those of known fields, or all. -/
structure WellPlaced (counts : Problem → Prop) (faults : List Fault) :
    Prop where
  separable : ∀ f ∈ faults, counts f.problem → Separable f.steps
  apart :
    faults.Pairwise fun f g =>
      counts f.problem → counts g.problem → f.steps ≠ g.steps

/-- Faults that can be told apart, all of them below one of the given first
steps. -/
structure PlacedUnder
    (counts : Problem → Prop)
    (heads : Set String)
    (faults : List Fault) :
    Prop extends WellPlaced counts faults where
  headed : ∀ f ∈ faults, ∃ head ∈ heads, f.steps.head? = some head

variable {counts : Problem → Prop} {faults others : List Fault}

theorem wellPlaced_nil : WellPlaced counts [] :=
  ⟨fun _ member => absurd member List.not_mem_nil, List.Pairwise.nil⟩

theorem wellPlaced_alone (p : Problem) : WellPlaced counts [⟨[], p⟩] := by
  refine ⟨?_, List.pairwise_singleton _ _⟩
  intro f member _
  obtain rfl := List.mem_singleton.mp member
  trivial

theorem WellPlaced.append
    (first : WellPlaced counts faults) (second : WellPlaced counts others)
    (apart :
      ∀ f ∈ faults, ∀ g ∈ others, counts f.problem → counts g.problem →
        f.steps ≠ g.steps) :
    WellPlaced counts (faults ++ others) := by
  constructor
  · intro f member
    rcases List.mem_append.mp member with early | late
    · exact first.separable f early
    · exact second.separable f late
  · exact List.pairwise_append.mpr ⟨first.apart, second.apart, apart⟩

theorem PlacedUnder.mono
    {heads more : Set String}
    (placed : PlacedUnder counts heads faults) (included : heads ⊆ more) :
    PlacedUnder counts more faults := by
  refine ⟨placed.toWellPlaced, ?_⟩
  intro f member
  obtain ⟨head, isHead, fHead⟩ := placed.headed f member
  exact ⟨head, included isHead, fHead⟩

theorem PlacedUnder.append
    {heads otherHeads : Set String}
    (first : PlacedUnder counts heads faults)
    (second : PlacedUnder counts otherHeads others)
    (disjoint : ∀ head ∈ heads, head ∉ otherHeads) :
    PlacedUnder counts (heads ∪ otherHeads) (faults ++ others) := by
  constructor
  · apply first.toWellPlaced.append second.toWellPlaced
    intro f fMember g gMember _ _ same
    obtain ⟨head, isHead, fHead⟩ := first.headed f fMember
    obtain ⟨other, isOther, gHead⟩ := second.headed g gMember
    rw [same, gHead] at fHead
    cases fHead
    exact disjoint head isHead isOther
  · intro f member
    rcases List.mem_append.mp member with early | late
    · obtain ⟨head, isHead, fHead⟩ := first.headed f early
      exact ⟨head, Or.inl isHead, fHead⟩
    · obtain ⟨head, isHead, fHead⟩ := second.headed f late
      exact ⟨head, Or.inr isHead, fHead⟩

/-- One step further out, all faults are below that step. -/
theorem WellPlaced.within
    (placed : WellPlaced counts faults)
    (place : Place)
    (plain : ' ' ∉ place.text.toList) :
    PlacedUnder counts {place.text} (faults.map (Fault.within place)) := by
  refine ⟨⟨?_, ?_⟩, ?_⟩
  · intro f member
    obtain ⟨inner, innerMember, rfl⟩ := List.mem_map.mp member
    intro isCounted
    exact (placed.separable inner innerMember isCounted).cons plain
  · rw [List.pairwise_map]
    refine placed.apart.imp ?_
    intro f g apart fCounted gCounted same
    exact apart fCounted gCounted (List.tail_eq_of_cons_eq same)
  · intro f member
    obtain ⟨inner, _, rfl⟩ := List.mem_map.mp member
    exact ⟨place.text, rfl, rfl⟩

/-! ## Faults of combined checks -/

namespace Checked

variable {α β : Type}

theorem faults_both (x : Checked α) (y : Checked β) :
    (x.both y).faults = x.faults ++ y.faults := by
  cases x with
  | error fs => rfl
  | ok a =>
      cases y with
      | error fs => rfl
      | ok b => rfl

theorem faults_map (x : Checked α) (f : α → β) :
    Checked.faults (x.map f) = x.faults := by
  cases x with
  | error fs => rfl
  | ok a => rfl

theorem faults_within (place : Place) (x : Checked α) :
    (x.within place).faults = x.faults.map (Fault.within place) := by
  cases x with
  | error fs => rfl
  | ok a => rfl

theorem wellPlaced_bind
    {x : Checked α} {f : α → Checked β}
    (first : WellPlaced counts x.faults)
    (next : ∀ a, WellPlaced counts (f a).faults) :
    WellPlaced counts (Checked.faults (x.bind f)) := by
  cases x with
  | error fs => exact first
  | ok a => exact next a

theorem wellPlaced_orNull
    {check : Value → Checked α} {v : Value}
    (placed : WellPlaced counts (check v).faults) :
    WellPlaced counts (orNull check v).faults := by
  unfold orNull
  split
  · exact wellPlaced_nil
  · rwa [faults_map]

theorem placedUnder_eachFrom
    {check : Value → Checked α} {items : List Value} (position : Nat)
    (placed : ∀ v ∈ items, WellPlaced counts (check v).faults) :
    PlacedUnder counts (positionsFrom position)
      (eachFrom check position items).faults := by
  induction items generalizing position with
  | nil =>
      exact ⟨wellPlaced_nil, fun _ member => absurd member List.not_mem_nil⟩
  | cons v rest inductionHypothesis =>
      have here := (placed v List.mem_cons_self).within
        (.item position) (plain_text_item position)
      have later := inductionHypothesis (position + 1) fun w member =>
        placed w (List.mem_cons_of_mem v member)
      have disjoint :
          ∀ head ∈ ({(Place.item position).text} : Set String),
            head ∉ positionsFrom (position + 1) := by
        rintro head rfl ⟨other, isLater, same⟩
        have equality : position = other := repr_injective same
        omega
      have both := here.append later disjoint
      rw [eachFrom, faults_map, faults_both, faults_within]
      refine both.mono ?_
      rintro head (rfl | ⟨other, isLater, rfl⟩)
      · exact ⟨position, le_refl position, rfl⟩
      · exact ⟨other, Nat.le_of_succ_le isLater, rfl⟩

end Checked

end Tablesmith.Config

import Mathlib.Data.List.Infix

/-!
# Splitting texts

A text splits at the places where a mark stands in it.  For a mark of one
character that is splitting at each of these; a longer mark is looked for from
left to right.  Either way nothing but the marks is lost, and no part holds the
mark.
-/

namespace Tablesmith.Text

/-! ## Marks of one character -/

section Characters

variable {mark : Char}

/-- A mark begins a new part, and any other character goes in front of the
first part. -/
theorem splitOn_cons_cases (mark c : Char) (rest : List Char) :
    (c = mark ∧ (c :: rest).splitOn mark = [] :: rest.splitOn mark) ∨
      ∃ first later, c ≠ mark ∧ rest.splitOn mark = first :: later ∧
        (c :: rest).splitOn mark = (c :: first) :: later := by
  rw [List.splitOn_cons_eq_if_modifyHead]
  by_cases isMark : c = mark
  · have begins : (c == mark) = true := by simpa using isMark
    rw [if_pos begins]
    exact Or.inl ⟨isMark, rfl⟩
  · obtain ⟨first, later, parts⟩ :=
      List.exists_cons_of_ne_nil (List.splitOn_ne_nil mark rest)
    have goesOn : ¬ (c == mark) = true := by simpa using isMark
    rw [if_neg goesOn, parts]
    exact Or.inr ⟨first, later, isMark, rfl, rfl⟩

/-- A function that begins a new part at each mark splits at the mark. -/
theorem eq_splitOn_of_steps
    {split : List Char → List (List Char)}
    (atEnd : split [] = [[]])
    (atMark : ∀ rest, split (mark :: rest) = [] :: split rest)
    (inPart : ∀ c rest part more, c ≠ mark → split rest = part :: more →
      split (c :: rest) = (c :: part) :: more)
    (cs : List Char) :
    split cs = cs.splitOn mark := by
  induction cs with
  | nil => exact atEnd
  | cons c rest inductionHypothesis =>
      rcases splitOn_cons_cases mark c rest with
        ⟨isMark, parts⟩ | ⟨first, later, notMark, behind, parts⟩
      · rw [parts, isMark, atMark, inductionHypothesis]
      · rw [behind] at inductionHypothesis
        rw [parts]
        exact inPart c rest first later notMark inductionHypothesis

theorem splitOn_injective (mark : Char) :
    Function.Injective (List.splitOn mark) := by
  have rejoined :
      Function.LeftInverse (List.intercalate [mark]) (List.splitOn mark) :=
    fun _ => List.intercalate_splitOn mark
  exact rejoined.injective

theorem not_mem_of_mem_splitOn
    {cs part : List Char} (member : part ∈ cs.splitOn mark) :
    mark ∉ part := by
  induction cs generalizing part with
  | nil =>
      rw [List.splitOn_nil, List.mem_singleton] at member
      rw [member]
      exact List.not_mem_nil
  | cons c rest inductionHypothesis =>
      rcases splitOn_cons_cases mark c rest with
        ⟨_, parts⟩ | ⟨first, later, notMark, behind, parts⟩
      · rw [parts, List.mem_cons] at member
        rcases member with isFirst | isLater
        · rw [isFirst]
          exact List.not_mem_nil
        · exact inductionHypothesis isLater
      · rw [behind] at inductionHypothesis
        rw [parts, List.mem_cons] at member
        rcases member with isFirst | isLater
        · rw [isFirst, List.mem_cons, not_or]
          exact ⟨Ne.symm notMark, inductionHypothesis List.mem_cons_self⟩
        · exact inductionHypothesis (List.mem_cons_of_mem first isLater)

/-- A character that is no mark stands in a part. -/
theorem exists_mem_splitOn
    {c : Char} {cs : List Char} (member : c ∈ cs) (notMark : c ≠ mark) :
    ∃ part ∈ cs.splitOn mark, c ∈ part := by
  induction cs with
  | nil => cases member
  | cons d rest inductionHypothesis =>
      rcases splitOn_cons_cases mark d rest with
        ⟨isMark, parts⟩ | ⟨first, later, _, behind, parts⟩
      · rw [parts]
        rcases List.mem_cons.mp member with isHead | isLater
        · exact absurd (isHead.trans isMark) notMark
        · obtain ⟨part, isPart, inside⟩ := inductionHypothesis isLater
          exact ⟨part, List.mem_cons_of_mem [] isPart, inside⟩
      · rw [behind] at inductionHypothesis
        rw [parts]
        rcases List.mem_cons.mp member with isHead | isLater
        · rw [isHead]
          exact ⟨d :: first, List.mem_cons_self, List.mem_cons_self⟩
        · obtain ⟨part, isPart, inside⟩ := inductionHypothesis isLater
          rcases List.mem_cons.mp isPart with isFirst | isLaterPart
          · rw [isFirst] at inside
            exact ⟨d :: first, List.mem_cons_self,
              List.mem_cons_of_mem d inside⟩
          · exact ⟨part, List.mem_cons_of_mem (d :: first) isLaterPart,
              inside⟩

theorem mem_of_mem_splitOn
    {c : Char} {cs part : List Char}
    (isPart : part ∈ cs.splitOn mark) (inside : c ∈ part) : c ∈ cs := by
  induction cs generalizing part with
  | nil =>
      rw [List.splitOn_nil, List.mem_singleton] at isPart
      rw [isPart] at inside
      exact inside
  | cons d rest inductionHypothesis =>
      rcases splitOn_cons_cases mark d rest with
        ⟨_, parts⟩ | ⟨first, later, _, behind, parts⟩
      · rw [parts] at isPart
        rcases List.mem_cons.mp isPart with isFirst | isLater
        · rw [isFirst] at inside
          cases inside
        · exact List.mem_cons_of_mem d (inductionHypothesis isLater inside)
      · rw [behind] at inductionHypothesis
        rw [parts] at isPart
        rcases List.mem_cons.mp isPart with isFirst | isLater
        · rw [isFirst] at inside
          rcases List.mem_cons.mp inside with isHead | insideFirst
          · rw [isHead]
            exact List.mem_cons_self
          · exact List.mem_cons_of_mem d
              (inductionHypothesis List.mem_cons_self insideFirst)
        · exact List.mem_cons_of_mem d
            (inductionHypothesis (List.mem_cons_of_mem first isLater) inside)
/-- Two lists that are split at their first mark have the same parts. -/
theorem append_mark_inj
    {before other after otherAfter : List Char}
    (noMark : mark ∉ before) (otherNoMark : mark ∉ other)
    (same : before ++ mark :: after = other ++ mark :: otherAfter) :
    before = other ∧ after = otherAfter := by
  induction before generalizing other with
  | nil =>
      cases other with
      | nil => exact ⟨rfl, by simpa using same⟩
      | cons c rest =>
          injection same with isMark
          exact absurd (List.mem_cons.mpr (.inl isMark)) otherNoMark
  | cons c rest inductionHypothesis =>
      rw [List.mem_cons, not_or] at noMark
      cases other with
      | nil =>
          injection same with isMark
          exact absurd isMark.symm noMark.1
      | cons d otherRest =>
          rw [List.mem_cons, not_or] at otherNoMark
          injection same with sameFirst sameRest
          obtain ⟨sameBefore, sameAfter⟩ :=
            inductionHypothesis noMark.2 otherNoMark.2 sameRest
          exact ⟨by rw [sameFirst, sameBefore], sameAfter⟩

end Characters

/-! ## Longer marks -/

/-- The parts of a list of characters between the places where a mark stands.
The places are found from left to right and do not overlap; an empty mark
stands nowhere. -/
def partsBetween (mark : List Char) : List Char → List (List Char)
  | [] => [[]]
  | c :: rest =>
    if _begins : mark ≠ [] ∧ mark <+: c :: rest then
      [] :: partsBetween mark ((c :: rest).drop mark.length)
    else
      (partsBetween mark rest).modifyHead (c :: ·)
termination_by cs => cs.length
decreasing_by
  · have filled := List.length_pos_iff.mpr _begins.1
    simp only [List.length_drop, List.length_cons]
    omega
  · simp only [List.length_cons]
    omega

/-- The parts of a text between the places where a mark stands. -/
def splitText (mark text : String) : List String :=
  (partsBetween mark.toList text.toList).map String.ofList

section Parts

variable {mark : List Char}

theorem partsBetween_nil (mark : List Char) : partsBetween mark [] = [[]] := by
  rw [partsBetween]

theorem partsBetween_mark_append (filled : mark ≠ []) (rest : List Char) :
    partsBetween mark (mark ++ rest) = [] :: partsBetween mark rest := by
  cases mark with
  | nil => exact absurd rfl filled
  | cons c more =>
      have begins : c :: more <+: c :: (more ++ rest) :=
        List.prefix_append (c :: more) rest
      have behind : (c :: (more ++ rest)).drop (c :: more).length = rest :=
        List.drop_left
      rw [List.cons_append, partsBetween, dif_pos ⟨filled, begins⟩, behind]

theorem partsBetween_cons
    {c : Char} {rest : List Char} (notHere : ¬ mark <+: c :: rest) :
    partsBetween mark (c :: rest) =
      (partsBetween mark rest).modifyHead (c :: ·) := by
  rw [partsBetween, dif_neg fun begins => notHere begins.2]

theorem exists_partsBetween (mark cs : List Char) :
    ∃ first later, partsBetween mark cs = first :: later := by
  induction cs using partsBetween.induct mark with
  | case1 => exact ⟨[], [], partsBetween_nil mark⟩
  | case2 c rest begins _ =>
      rw [partsBetween, dif_pos begins]
      exact ⟨[], _, rfl⟩
  | case3 c rest notHere inductionHypothesis =>
      obtain ⟨first, later, parts⟩ := inductionHypothesis
      rw [partsBetween, dif_neg notHere, parts]
      exact ⟨c :: first, later, rfl⟩

/-- Nothing is lost but the marks. -/
theorem intercalate_partsBetween (mark cs : List Char) :
    mark.intercalate (partsBetween mark cs) = cs := by
  induction cs using partsBetween.induct mark with
  | case1 =>
      rw [partsBetween_nil]
      rfl
  | case2 c rest begins inductionHypothesis =>
      obtain ⟨first, later, parts⟩ :=
        exists_partsBetween mark ((c :: rest).drop mark.length)
      rw [partsBetween, dif_pos begins, parts, List.intercalate_cons_cons,
        ← parts, inductionHypothesis, List.nil_append]
      exact (List.prefix_iff_eq_append.mp begins.2)
  | case3 c rest notHere inductionHypothesis =>
      obtain ⟨first, later, parts⟩ := exists_partsBetween mark rest
      rw [partsBetween, dif_neg notHere]
      rw [parts] at inductionHypothesis ⊢
      rw [List.modifyHead_cons]
      cases later with
      | nil =>
          rw [List.intercalate_singleton] at inductionHypothesis ⊢
          rw [inductionHypothesis]
      | cons next more =>
          rw [List.intercalate_cons_cons] at inductionHypothesis ⊢
          rw [List.cons_append, List.cons_append, inductionHypothesis]

theorem isPrefix_of_partsBetween
    {cs first : List Char} {later : List (List Char)}
    (parts : partsBetween mark cs = first :: later) : first <+: cs := by
  have whole := intercalate_partsBetween mark cs
  rw [parts] at whole
  cases later with
  | nil =>
      rw [List.intercalate_singleton] at whole
      exact ⟨[], by rw [whole, List.append_nil]⟩
  | cons next more =>
      rw [List.intercalate_cons_cons, List.append_assoc] at whole
      exact ⟨_, whole⟩

/-- The mark stands in no part. -/
theorem not_isInfix_of_mem_partsBetween
    (filled : mark ≠ []) {cs part : List Char}
    (member : part ∈ partsBetween mark cs) : ¬ mark <:+: part := by
  induction cs using partsBetween.induct mark generalizing part with
  | case1 =>
      rw [partsBetween_nil, List.mem_singleton] at member
      rw [member, List.infix_nil]
      exact filled
  | case2 c rest begins inductionHypothesis =>
      rw [partsBetween, dif_pos begins, List.mem_cons] at member
      rcases member with isFirst | isLater
      · rw [isFirst, List.infix_nil]
        exact filled
      · exact inductionHypothesis isLater
  | case3 c rest notHere inductionHypothesis =>
      obtain ⟨first, later, parts⟩ := exists_partsBetween mark rest
      rw [partsBetween, dif_neg notHere, parts, List.modifyHead_cons,
        List.mem_cons] at member
      rw [parts] at inductionHypothesis
      rcases member with isFirst | isLater
      · rw [isFirst, List.infix_cons_iff]
        rintro (begins | inside)
        · have front : c :: first <+: c :: rest :=
            List.cons_prefix_cons.mpr
              ⟨rfl, isPrefix_of_partsBetween parts⟩
          exact notHere ⟨filled, begins.trans front⟩
        · exact inductionHypothesis List.mem_cons_self inside
      · exact inductionHypothesis (List.mem_cons_of_mem first isLater)

/-- A mark of two different characters does not straddle the end of a part. -/
theorem partsBetween_append_pair
    {c d : Char} (different : c ≠ d) {part : List Char}
    (absent : ¬ [c, d] <:+: part) (rest : List Char) :
    partsBetween [c, d] (part ++ [c, d] ++ rest) =
      part :: partsBetween [c, d] rest := by
  induction part with
  | nil => exact partsBetween_mark_append (List.cons_ne_nil c [d]) rest
  | cons e more inductionHypothesis =>
      rw [List.infix_cons_iff, not_or] at absent
      have notHere : ¬ [c, d] <+: e :: (more ++ [c, d] ++ rest) := by
        intro begins
        rw [List.cons_prefix_cons] at begins
        obtain ⟨rfl, second⟩ := begins
        cases more with
        | nil =>
            have same : d = c := (List.cons_prefix_cons.mp second).1
            exact different same.symm
        | cons f others =>
            have same : d = f := (List.cons_prefix_cons.mp second).1
            rw [← same] at absent
            exact absent.1 ⟨others, rfl⟩
      rw [List.cons_append, List.cons_append, partsBetween_cons notHere,
        inductionHypothesis absent.2, List.modifyHead_cons]

end Parts

end Tablesmith.Text

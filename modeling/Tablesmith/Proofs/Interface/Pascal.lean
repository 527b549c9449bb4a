import Tablesmith.Proofs.Interface.Words

/-!
# Laws of Pascal case

Whether a letter becomes a capital depends only on the character in front of
it.  So a name can be spelled in two parts if the second part is told whether a
word is open at the end of the first.  Marks between the parts close the word,
and what follows is spelled as if it stood alone.
-/

namespace Tablesmith.Interface

/-! ## Capitals -/

section Capitals

variable {c : Char}

theorem toUpper_eq_self (notLower : c.isLower = false) : c.toUpper = c := by
  have outside : ¬ ('a'.val ≤ c.val ∧ c.val ≤ 'z'.val) := by
    intro bounds
    have lower : c.isLower = true := isLower_iff.mpr bounds
    rw [notLower] at lower
    cases lower
  delta Char.toUpper
  rw [dif_neg outside]

theorem isLower_of_isUpper (upper : c.isUpper = true) : c.isLower = false := by
  have bounds := isUpper_iff.mp upper
  rw [Bool.eq_false_iff]
  intro lower
  have lowerBounds := isLower_iff.mp lower
  omega

theorem isLower_toUpper (c : Char) : c.toUpper.isLower = false := by
  cases lower : c.isLower with
  | true => exact isLower_of_isUpper (isUpper_toUpper lower)
  | false => rw [toUpper_eq_self lower, lower]

theorem isWordChar_toUpper (isWord : isWordChar c = true) :
    isWordChar c.toUpper = true := by
  cases lower : c.isLower with
  | true =>
      have upper := isUpper_toUpper lower
      unfold isWordChar Char.isAlphanum Char.isAlpha
      rw [upper, Bool.true_or, Bool.true_or]
  | false => rwa [toUpper_eq_self lower]

/-- A small letter comes 32 places behind its capital. -/
theorem toNat_toLower (upper : c.isUpper = true) :
    c.toLower.toNat = c.toNat + 32 := by
  have bounds := isUpper_iff.mp upper
  have isLetter : c.val ≥ 'A'.val ∧ c.val ≤ 'Z'.val := bounds
  have small : c.toLower.val = c.val + ('a'.val - 'A'.val) := by
    delta Char.toLower
    rw [dif_pos isLetter]
  have sum : c.toLower.toNat = (c.toNat + 32) % 2 ^ 32 := by
    change c.toLower.val.toNat = _
    rw [small, UInt32.toNat_add]
    rfl
  omega

theorem toLower_eq_self (notUpper : c.isUpper = false) : c.toLower = c := by
  have outside : ¬ (c.val ≥ 'A'.val ∧ c.val ≤ 'Z'.val) := by
    intro bounds
    have upper : c.isUpper = true := isUpper_iff.mpr bounds
    rw [notUpper] at upper
    cases upper
  delta Char.toLower
  rw [dif_neg outside]

/-- A letter and its capital are the same letter in any case. -/
theorem toLower_toUpper (c : Char) : c.toUpper.toLower = c.toLower := by
  cases lower : c.isLower with
  | false => rw [toUpper_eq_self lower]
  | true =>
      have notUpper : c.isUpper = false := by
        rw [Bool.eq_false_iff]
        intro upper
        rw [isLower_of_isUpper upper] at lower
        cases lower
      have up := toNat_toUpper lower
      have down := toNat_toLower (isUpper_toUpper lower)
      rw [toLower_eq_self notUpper]
      apply Char.toNat_inj.mp
      omega

end Capitals

/-! ## Names in two parts -/

/-- Whether a word is open behind a part of a name that begins inside or
outside of a word. -/
def inWordAfter (inWord : Bool) (part : List Char) : Bool :=
  (part.getLast?.map isWordChar).getD inWord

theorem inWordAfter_cons (inWord : Bool) (c : Char) (rest : List Char) :
    inWordAfter inWord (c :: rest) = inWordAfter (isWordChar c) rest := by
  cases rest with
  | nil => rfl
  | cons d more => rfl

theorem inWordAfter_false (part : List Char) :
    inWordAfter false part = part.getLast?.any isWordChar := by
  unfold inWordAfter
  cases part.getLast? with
  | none => rfl
  | some c => rfl

theorem pascalChars_append (inWord : Bool) (first last : List Char) :
    pascalChars inWord (first ++ last) =
      pascalChars inWord first ++
        pascalChars (inWordAfter inWord first) last := by
  induction first generalizing inWord with
  | nil => rfl
  | cons c rest inductionHypothesis =>
      rw [List.cons_append, pascalChars, pascalChars, inWordAfter_cons,
        inductionHypothesis, inductionHypothesis]
      cases isWordChar c with
      | true => rfl
      | false => rfl

theorem pascalChars_of_marks
    (inWord : Bool) {marks : List Char}
    (areMarks : ∀ c ∈ marks, isWordChar c = false) :
    pascalChars inWord marks = [] := by
  induction marks generalizing inWord with
  | nil => rfl
  | cons c rest inductionHypothesis =>
      rw [List.forall_mem_cons] at areMarks
      rw [pascalChars, if_neg (Bool.eq_false_iff.mp areMarks.1)]
      exact inductionHypothesis false areMarks.2

/-- Marks close the word that is open in front of them. -/
theorem inWordAfter_append_marks
    (inWord : Bool) (first : List Char) {marks : List Char}
    (filled : marks ≠ []) (areMarks : ∀ c ∈ marks, isWordChar c = false) :
    inWordAfter inWord (first ++ marks) = false := by
  have last : marks.getLast? = some (marks.getLast filled) :=
    List.getLast?_eq_some_getLast filled
  unfold inWordAfter
  rw [List.getLast?_append, last, Option.some_or, Option.map_some,
    Option.getD_some]
  exact areMarks _ (List.getLast_mem filled)

theorem pascalCase_append_marks
    (first last : String) {marks : String}
    (filled : marks ≠ "") (areMarks : ∀ c ∈ marks.toList, isWordChar c = false) :
    pascalCase (first ++ marks ++ last) = pascalCase first ++ pascalCase last := by
  have someMark : marks.toList ≠ [] := by simpa using filled
  unfold pascalCase
  rw [String.toList_append, String.toList_append, pascalChars_append,
    pascalChars_append, pascalChars_of_marks _ areMarks, List.append_nil,
    inWordAfter_append_marks false first.toList someMark areMarks,
    String.ofList_append]

/-! ## What is spelled -/

theorem isWordChar_of_mem_pascalChars
    {inWord : Bool} {name : List Char} {c : Char}
    (member : c ∈ pascalChars inWord name) : isWordChar c = true := by
  induction name generalizing inWord with
  | nil => cases member
  | cons d rest inductionHypothesis =>
      rw [pascalChars] at member
      by_cases isWord : isWordChar d = true
      · rw [if_pos isWord, List.mem_cons] at member
        rcases member with isFirst | isLater
        · rw [isFirst]
          cases inWord with
          | true => exact isWord
          | false => exact isWordChar_toUpper isWord
        · exact inductionHypothesis isLater
      · rw [if_neg isWord] at member
        exact inductionHypothesis member

/-- The letters and digits of a name stay in order, but for their case. -/
theorem map_toLower_pascalChars (inWord : Bool) (name : List Char) :
    (pascalChars inWord name).map Char.toLower =
      (name.filter isWordChar).map Char.toLower := by
  induction name generalizing inWord with
  | nil => rfl
  | cons c rest inductionHypothesis =>
      rw [pascalChars]
      by_cases isWord : isWordChar c = true
      · have sameLetter :
            (if inWord then c else c.toUpper).toLower = c.toLower := by
          cases inWord with
          | true => rfl
          | false => exact toLower_toUpper c
        rw [if_pos isWord, List.filter_cons_of_pos isWord, List.map_cons,
          List.map_cons, sameLetter, inductionHypothesis]
      · rw [if_neg isWord, List.filter_cons_of_neg isWord,
          inductionHypothesis]

theorem length_pascalChars (inWord : Bool) (name : List Char) :
    (pascalChars inWord name).length = (name.filter isWordChar).length := by
  have lengths := congrArg List.length (map_toLower_pascalChars inWord name)
  rwa [List.length_map, List.length_map] at lengths

/-- A letter or digit stands in its place among them, as a capital if no word
is open in front of it. -/
theorem getElem?_pascalChars
    (inWord : Bool) (before after : List Char) {c : Char}
    (isWord : isWordChar c = true) :
    (pascalChars inWord (before ++ c :: after))[
        (before.filter isWordChar).length]? =
      some (if inWordAfter inWord before then c else c.toUpper) := by
  rw [pascalChars_append, ← length_pascalChars inWord before,
    List.getElem?_append_right (Nat.le_refl _), Nat.sub_self, pascalChars,
    if_pos isWord, List.getElem?_cons_zero]

theorem isLower_head?_pascalChars {name : List Char} {c : Char}
    (isFirst : (pascalChars false name).head? = some c) :
    c.isLower = false := by
  induction name with
  | nil => cases isFirst
  | cons d rest inductionHypothesis =>
      rw [pascalChars] at isFirst
      by_cases isWord : isWordChar d = true
      · rw [if_pos isWord] at isFirst
        cases isFirst
        exact isLower_toUpper d
      · rw [if_neg isWord] at isFirst
        exact inductionHypothesis isFirst

/-! ## Spelling twice -/

/-- Inside a word nothing changes. -/
theorem pascalChars_true_of_word {word : List Char}
    (isWord : ∀ c ∈ word, isWordChar c = true) :
    pascalChars true word = word := by
  induction word with
  | nil => rfl
  | cons c rest inductionHypothesis =>
      rw [List.forall_mem_cons] at isWord
      rw [pascalChars, if_pos isWord.1, if_pos rfl,
        inductionHypothesis isWord.2]

/-- A single word that does not begin with a small letter is in Pascal case
already. -/
theorem pascalChars_of_word {word : List Char}
    (isWord : ∀ c ∈ word, isWordChar c = true)
    (begins : ∀ c, word.head? = some c → c.isLower = false) :
    pascalChars false word = word := by
  cases word with
  | nil => rfl
  | cons c rest =>
      rw [List.forall_mem_cons] at isWord
      rw [pascalChars, if_pos isWord.1, if_neg Bool.false_ne_true,
        toUpper_eq_self (begins c rfl), pascalChars_true_of_word isWord.2]

theorem pascalCase_pascalCase (name : String) :
    pascalCase (pascalCase name) = pascalCase name := by
  have settled :
      pascalChars false (pascalChars false name.toList) =
        pascalChars false name.toList :=
    pascalChars_of_word (fun _ member => isWordChar_of_mem_pascalChars member)
      fun _ isFirst => isLower_head?_pascalChars isFirst
  unfold pascalCase
  rw [String.toList_ofList, settled]

/-- Parts of a name with marks between them are spelled one by one, and a name
that is spelled stays as it is.  What is spelled are the letters and digits of
the name, in order and the same in any case; the first is no small letter, and
each is as it was unless no letter or digit stands right in front of it, in
which case it is a capital. -/
theorem pascalCase_laws :
    (∀ first marks last : String,
      marks ≠ "" → (∀ c ∈ marks.toList, isWordChar c = false) →
        pascalCase (first ++ marks ++ last) =
          pascalCase first ++ pascalCase last) ∧
    (∀ name, pascalCase (pascalCase name) = pascalCase name) ∧
    (∀ name, ∀ c ∈ (pascalCase name).toList, isWordChar c = true) ∧
    (∀ name, ∀ c ∈ (pascalCase name).toList.head?, c.isLower = false) ∧
    (∀ name,
      (pascalCase name).toList.map Char.toLower =
        (name.toList.filter isWordChar).map Char.toLower) ∧
    ∀ name before c after,
      name.toList = before ++ c :: after → isWordChar c = true →
        (pascalCase name).toList[(before.filter isWordChar).length]? =
          some (if before.getLast?.any isWordChar then c else c.toUpper) := by
  have spelled (name : String) :
      (pascalCase name).toList = pascalChars false name.toList :=
    String.toList_ofList
  refine ⟨?_, pascalCase_pascalCase, ?_, ?_, ?_, ?_⟩
  · intro first marks last filled areMarks
    exact pascalCase_append_marks first last filled areMarks
  · intro name c member
    rw [spelled] at member
    exact isWordChar_of_mem_pascalChars member
  · intro name c isFirst
    rw [spelled, Option.mem_def] at isFirst
    exact isLower_head?_pascalChars isFirst
  · intro name
    rw [spelled]
    exact map_toLower_pascalChars false name.toList
  · intro name before c after parts isWord
    rw [spelled, parts, ← inWordAfter_false]
    exact getElem?_pascalChars false before after isWord

/-- A name with marks at its ends and of several kinds in between. -/
theorem orderLines_pascalCase :
    "-é." ≠ "" ∧
      (∀ c ∈ "-é.".toList, isWordChar c = false) ∧
      pascalCase ("__order" ++ "-é." ++ "2nd_lineItem ") =
        pascalCase "__order" ++ pascalCase "2nd_lineItem " ∧
      pascalCase "__order" ++ pascalCase "2nd_lineItem " =
        "Order2ndLineItem" ∧
      "__order".toList = "__".toList ++ 'o' :: "rder".toList ∧
      isWordChar 'o' = true ∧
      (pascalCase "__order").toList[0]? = some 'O' := by
  obtain ⟨apart, _, _, _, _, placed⟩ := pascalCase_laws
  have someMark : "-é." ≠ "" := by decide
  have marks : "-é.".toList = ['-', 'é', '.'] := by decide
  have areMarks : ∀ c ∈ "-é.".toList, isWordChar c = false := by
    rw [marks, List.forall_mem_cons, List.forall_mem_cons,
      List.forall_mem_singleton]
    decide
  have isWord : isWordChar 'o' = true := by decide
  have spelled :
      pascalCase "__order" ++ pascalCase "2nd_lineItem " =
        "Order2ndLineItem" := by
    decide +kernel
  exact ⟨someMark, areMarks,
    apart "__order" "-é." "2nd_lineItem " someMark areMarks, spelled, rfl,
    isWord, placed "__order" "__".toList 'o' "rder".toList rfl isWord⟩

end Tablesmith.Interface

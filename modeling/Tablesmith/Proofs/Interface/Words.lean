import Tablesmith.Interface.Naming

/-!
# The words of a name

A name in Pascal case is made of the words of the name, each with a capital
first.  Words that begin with a small letter and hold no capital can be read
off again, for then every capital begins a word.
-/

namespace Tablesmith.Interface

/-- The words of a name: its maximal runs of letters and digits. -/
def words (name : List Char) : List (List Char) :=
  (name.splitOnP fun c => !isWordChar c).filter fun word => !word.isEmpty

def capitalised : List Char → List Char
  | [] => []
  | c :: rest => c.toUpper :: rest

/-- The words of a name run together, each with a capital first. -/
def spelling (name : List Char) : List Char :=
  (words name).flatMap capitalised

/-! ## Pascal case -/

/-- Runs without characters do not show. -/
theorem flatMap_capitalised_filter (runs : List (List Char)) :
    (runs.filter fun word => !word.isEmpty).flatMap capitalised =
      runs.flatMap capitalised := by
  induction runs with
  | nil => rfl
  | cons run rest inductionHypothesis =>
      cases run with
      | nil => exact inductionHypothesis
      | cons c more =>
          rw [List.filter_cons_of_pos rfl, List.flatMap_cons,
            List.flatMap_cons, inductionHypothesis]

/-- Inside a word the first run goes on as it is. -/
theorem pascalChars_splitOnP (inWord : Bool) (name : List Char) :
    ∃ first later,
      name.splitOnP (fun c => !isWordChar c) = first :: later ∧
        pascalChars inWord name =
          (if inWord then first else capitalised first) ++
            later.flatMap capitalised := by
  induction name generalizing inWord with
  | nil =>
      refine ⟨[], [], List.splitOnP_nil, ?_⟩
      cases inWord with
      | true => rfl
      | false => rfl
  | cons c rest inductionHypothesis =>
      rw [List.splitOnP_cons_eq_if_modifyHead, pascalChars]
      by_cases isWord : isWordChar c = true
      · obtain ⟨first, later, runs, spelled⟩ := inductionHypothesis true
        refine ⟨c :: first, later, ?_, ?_⟩
        · rw [isWord, runs]
          rfl
        · rw [if_pos isWord, spelled]
          cases inWord with
          | true => rfl
          | false => rfl
      · obtain ⟨first, later, runs, spelled⟩ := inductionHypothesis false
        refine ⟨[], first :: later, ?_, ?_⟩
        · rw [Bool.eq_false_iff.mpr isWord, runs]
          rfl
        · rw [if_neg isWord, spelled]
          cases inWord with
          | true => rfl
          | false => rfl

theorem toList_pascalCase (name : String) :
    (pascalCase name).toList = spelling name.toList := by
  obtain ⟨first, later, runs, spelled⟩ :=
    pascalChars_splitOnP false name.toList
  unfold pascalCase spelling words
  rw [String.toList_ofList, flatMap_capitalised_filter, runs, spelled]
  rfl

theorem interfaceName_eq_iff {name other : String} :
    interfaceName name = interfaceName other ↔
      spelling name.toList = spelling other.toList := by
  unfold interfaceName
  rw [String.append_right_inj, ← toList_pascalCase, ← toList_pascalCase,
    String.toList_inj]

/-! ## Names in parts -/

theorem words_append
    {mark : Char} (isMark : isWordChar mark = false)
    (name rest : List Char) :
    words (name ++ mark :: rest) = words name ++ words rest := by
  have splits : (!isWordChar mark) = true := by rw [isMark]; rfl
  unfold words
  rw [List.splitOnP_append_cons name rest splits, List.filter_append]

/-! ## Plain words -/

/-- A word that begins with a small letter and goes on with letters and digits
that are no capitals. -/
def IsPlain : List Char → Prop
  | [] => False
  | c :: rest =>
    c.isLower = true ∧ rest.all (fun d => isWordChar d && !d.isUpper) = true

instance : DecidablePred IsPlain
  | [] => inferInstanceAs (Decidable False)
  | c :: rest =>
    inferInstanceAs
      (Decidable
        (c.isLower = true ∧
          rest.all (fun d => isWordChar d && !d.isUpper) = true))

theorem IsPlain.exists_cons {word : List Char} (plain : IsPlain word) :
    ∃ c rest,
      word = c :: rest ∧ c.isLower = true ∧ ∀ d ∈ rest, d.isUpper = false := by
  cases word with
  | nil => cases plain
  | cons c rest =>
      refine ⟨c, rest, rfl, plain.1, ?_⟩
      intro d member
      have isPlain := List.all_eq_true.mp plain.2 d member
      rw [Bool.and_eq_true, Bool.not_eq_true'] at isPlain
      exact isPlain.2

/-! ## Letters -/

theorem isLower_iff {c : Char} :
    c.isLower = true ↔ 97 ≤ c.toNat ∧ c.toNat ≤ 122 := by
  change (decide (97 ≤ c.toNat) && decide (c.toNat ≤ 122)) = true ↔ _
  rw [Bool.and_eq_true, decide_eq_true_eq, decide_eq_true_eq]

theorem isUpper_iff {c : Char} :
    c.isUpper = true ↔ 65 ≤ c.toNat ∧ c.toNat ≤ 90 := by
  change decide (65 ≤ c.toNat ∧ c.toNat ≤ 90) = true ↔ _
  rw [decide_eq_true_eq]

/-- A capital comes 32 places before its small letter. -/
theorem toNat_toUpper {c : Char} (lower : c.isLower = true) :
    c.toUpper.toNat + 32 = c.toNat := by
  have bounds := isLower_iff.mp lower
  have isLetter : 'a'.val ≤ c.val ∧ c.val ≤ 'z'.val := bounds
  have capital : c.toUpper.val = c.val + ('A'.val - 'a'.val) := by
    delta Char.toUpper
    rw [dif_pos isLetter]
  -- The distance is negative, so the sum wraps around.
  have wraps : c.toUpper.toNat = (c.toNat + 4294967264) % 2 ^ 32 := by
    change c.toUpper.val.toNat = _
    rw [capital, UInt32.toNat_add]
    rfl
  omega

theorem isUpper_toUpper {c : Char} (lower : c.isLower = true) :
    c.toUpper.isUpper = true := by
  have bounds := isLower_iff.mp lower
  have distance := toNat_toUpper lower
  rw [isUpper_iff]
  omega

/-- Small letters with the same capital are the same. -/
theorem eq_of_toUpper_eq
    {c d : Char} (cLower : c.isLower = true) (dLower : d.isLower = true)
    (same : c.toUpper = d.toUpper) :
    c = d := by
  apply Char.toNat_inj.mp
  rw [← toNat_toUpper cLower, same, toNat_toUpper dLower]

/-! ## Plain words that run together -/

/-- The rest of a plain word ends where the next capital stands. -/
theorem takeWhile_plain
    {rest : List Char} (restPlain : ∀ d ∈ rest, d.isUpper = false)
    {others : List (List Char)} (plain : ∀ word ∈ others, IsPlain word) :
    (rest ++ others.flatMap capitalised).takeWhile (fun d => !d.isUpper) =
      rest := by
  have stops :
      (others.flatMap capitalised).takeWhile (fun d => !d.isUpper) = [] := by
    cases others with
    | nil => rfl
    | cons word more =>
        obtain ⟨c, tail, rfl, lower, _⟩ :=
          (plain word List.mem_cons_self).exists_cons
        have isCapital : c.toUpper.isUpper = true := isUpper_toUpper lower
        rw [List.flatMap_cons, capitalised, List.cons_append,
          List.takeWhile_cons_of_neg]
        simp [isCapital]
  rw [List.takeWhile_append_of_pos, stops, List.append_nil]
  intro d member
  rw [restPlain d member]
  rfl

/-- Plain words that run together to the same text are the same words. -/
theorem eq_of_flatMap_capitalised_eq
    {first second : List (List Char)}
    (firstPlain : ∀ word ∈ first, IsPlain word)
    (secondPlain : ∀ word ∈ second, IsPlain word)
    (same : first.flatMap capitalised = second.flatMap capitalised) :
    first = second := by
  induction first generalizing second with
  | nil =>
      cases second with
      | nil => rfl
      | cons word more =>
          obtain ⟨c, rest, rfl, _, _⟩ :=
            (secondPlain word List.mem_cons_self).exists_cons
          cases same
  | cons word more inductionHypothesis =>
      obtain ⟨c, rest, rfl, lower, restPlain⟩ :=
        (firstPlain word List.mem_cons_self).exists_cons
      cases second with
      | nil => cases same
      | cons otherWord otherMore =>
          obtain ⟨d, otherRest, rfl, otherLower, otherRestPlain⟩ :=
            (secondPlain otherWord List.mem_cons_self).exists_cons
          have morePlain : ∀ w ∈ more, IsPlain w :=
            fun w member => firstPlain w (List.mem_cons_of_mem _ member)
          have otherMorePlain : ∀ w ∈ otherMore, IsPlain w :=
            fun w member => secondPlain w (List.mem_cons_of_mem _ member)
          rw [List.flatMap_cons, List.flatMap_cons, capitalised, capitalised,
            List.cons_append, List.cons_append] at same
          injection same with sameCapital sameRest
          have sameLetter : c = d :=
            eq_of_toUpper_eq lower otherLower sameCapital
          have sameTail : rest = otherRest := by
            rw [← takeWhile_plain restPlain morePlain, sameRest,
              takeWhile_plain otherRestPlain otherMorePlain]
          rw [sameTail, List.append_cancel_left_eq] at sameRest
          rw [sameLetter, sameTail,
            inductionHypothesis morePlain otherMorePlain sameRest]

/-! ## Snake case -/

/-- A name that consists of plain words with a single underscore between each
two. -/
def IsSnakeCase (name : List Char) : Prop :=
  (∀ word ∈ words name, IsPlain word) ∧
    name = ['_'].intercalate (words name)

instance : DecidablePred IsSnakeCase := fun name =>
  inferInstanceAs
    (Decidable
      ((∀ word ∈ words name, IsPlain word) ∧
        name = ['_'].intercalate (words name)))

theorem IsSnakeCase.eq_of_words_eq
    {name other : List Char}
    (snake : IsSnakeCase name) (otherSnake : IsSnakeCase other)
    (same : words name = words other) :
    name = other := by
  rw [snake.2, same, ← otherSnake.2]

end Tablesmith.Interface

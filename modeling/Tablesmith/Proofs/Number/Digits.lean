import Mathlib.Data.List.Basic
import Mathlib.Data.List.TakeWhile
import Mathlib.Data.Nat.Digits.Defs
import Tablesmith.Number.Reading

/-!
# Reading texts of digits

A text of digit characters is read as a whole number exactly if all of them are
decimal digits, of any script, and there are not too many.  The number is the
one that the digits spell.
-/

namespace Tablesmith.Text

/-! ## Digit characters -/

theorem exists_of_digitValue?
    {c : Char} {d : Nat} (value : digitValue? c = some d) :
    ∃ start ∈ zeroCodes, c.toNat = start + d ∧ d < 10 := by
  obtain ⟨start, found, isValue⟩ := Option.map_eq_some_iff.mp value
  have member := List.mem_of_find?_eq_some found
  have inRun := List.find?_some found
  simp only [Bool.and_eq_true, decide_eq_true_eq] at inRun
  exact ⟨start, member, by omega, by omega⟩

theorem mem_ranges {ranges : List (Nat × Nat)} {code : Nat}
    (inside : inRanges ranges code = true) :
    ∃ range ∈ ranges, range.1 ≤ code ∧ code ≤ range.2 := by
  unfold inRanges at inside
  obtain ⟨range, member, within⟩ := List.any_eq_true.mp inside
  simp only [Bool.and_eq_true, decide_eq_true_eq] at within
  exact ⟨range, member, within⟩

/-- A digit character is no ASCII character but the ten digits, and no
blank. -/
theorem isDigitChar_cases {c : Char} (digit : isDigitChar c = true) :
    isBlank c = false ∧
      (c.toNat < 0x80 → 48 ≤ c.toNat ∧ c.toNat < 58) := by
  have runs :
      ∀ start ∈ zeroCodes, (start = 48 ∨ 0x80 ≤ start) ∧
        ∀ range ∈ blankRanges, range.2 < start ∨ start + 10 ≤ range.1 := by
    decide
  have specials :
      ∀ special ∈ specialDigitRanges, 0x80 ≤ special.1 ∧
        ∀ range ∈ blankRanges, range.2 < special.1 ∨ special.2 < range.1 := by
    decide
  have noBlank
      (apart : ∀ range ∈ blankRanges, ¬ (range.1 ≤ c.toNat ∧
        c.toNat ≤ range.2)) : isBlank c = false := by
    rw [← Bool.not_eq_true]
    intro blank
    obtain ⟨range, member, within⟩ := mem_ranges blank
    exact apart range member within
  unfold isDigitChar at digit
  rcases Bool.or_eq_true_iff.mp digit with decimal | special
  · obtain ⟨d, value⟩ := Option.isSome_iff_exists.mp decimal
    obtain ⟨start, member, code, small⟩ := exists_of_digitValue? value
    obtain ⟨ascii, apart⟩ := runs start member
    refine ⟨noBlank fun range inBlanks within => ?_, by omega⟩
    have := apart range inBlanks
    omega
  · obtain ⟨range, member, within⟩ := mem_ranges special
    obtain ⟨beyond, apart⟩ := specials range member
    refine ⟨noBlank fun blank inBlanks inside => ?_, by omega⟩
    have := apart blank inBlanks
    omega

theorem digitValue?_of_ascii {c : Char}
    (low : 48 ≤ c.toNat) (high : c.toNat < 58) :
    digitValue? c = some (c.toNat - 48) := by
  have found :
      (zeroCodes.find? fun start =>
        decide (start ≤ c.toNat) && decide (c.toNat < start + 10)) =
        some 48 := by
    apply List.find?_cons_of_pos
    simp [low, high]
  unfold digitValue?
  rw [found]
  rfl

end Tablesmith.Text

namespace Tablesmith.Number

open Tablesmith.Text

/-! ## Numerals -/

/-- The ASCII digit of a value. -/
def numeral (d : Nat) : Char := Char.ofNat (48 + d)

theorem digitOf?_numeral {d : Nat} (small : d < 10) :
    digitOf? (numeral d) = some d := by
  have each : ∀ d < 10, digitOf? (numeral d) = some d := by decide
  exact each d small

/-- A digit character counts as the ASCII digit of its value, or spoils the
number if it has none. -/
theorem plainNumeral_of_digit {c : Char} (digit : isDigitChar c = true) :
    plainNumeral c = (digitValue? c).elim '?' numeral := by
  obtain ⟨notBlank, ascii⟩ := isDigitChar_cases digit
  unfold plainNumeral
  by_cases plain : c.toNat < 0x7f
  · obtain ⟨low, high⟩ := ascii (by omega)
    rw [if_pos plain, digitValue?_of_ascii low high]
    have code : 48 + (c.toNat - 48) = c.toNat := by omega
    show c = numeral (c.toNat - 48)
    unfold numeral
    rw [code, Char.ofNat_toNat]
  · rw [if_neg plain, if_neg (by simp [notBlank])]
    cases digitValue? c <;> rfl

/-- What is read of a text of digit characters. -/
theorem plain_of_digits {text : String}
    (digits : ∀ c ∈ text.toList, isDigitChar c = true) :
    (if text.toList.all fun c => c.toNat < 0x80 then text.toList
      else text.toList.map plainNumeral) =
      text.toList.map plainNumeral := by
  by_cases ascii : (text.toList.all fun c => c.toNat < 0x80) = true
  · rw [if_pos ascii]
    have unchanged (c : Char) (member : c ∈ text.toList) :
        c = plainNumeral c := by
      have inAscii : c.toNat < 0x80 := by
        simpa using List.all_eq_true.mp ascii c member
      have bounds := (isDigitChar_cases (digits c member)).2 inAscii
      unfold plainNumeral
      rw [if_pos (by omega)]
    calc
      text.toList = text.toList.map id := (List.map_id _).symm
      _ = text.toList.map plainNumeral := List.map_congr_left unchanged
  · rw [if_neg ascii]

theorem underscoresFit_of_plain {cs : List Char} (plain : '_' ∉ cs) :
    underscoresFit cs = true := by
  induction cs with
  | nil => rfl
  | cons c rest inductionHypothesis =>
      rw [List.mem_cons, not_or] at plain
      have notMark : c ≠ '_' := Ne.symm plain.1
      rw [underscoresFit, inductionHypothesis plain.2]
      · rintro rfl
        exact absurd rfl notMark
      · rintro more rfl
        exact absurd rfl notMark

theorem ofDigits_numerals {ds : List Nat} (small : ∀ d ∈ ds, d < 10) :
    ofDigits 10 (ds.map numeral) = Nat.ofDigits 10 ds.reverse := by
  have folded :
      ofDigits 10 (ds.map numeral) =
        ds.foldl (fun total d => total * 10 + d) 0 := by
    unfold ofDigits
    rw [List.foldl_map]
    apply List.foldl_ext
    intro total d member
    rw [digitOf?_numeral (small d member)]
  rw [folded, Nat.ofDigits_eq_foldr, List.foldr_reverse]
  apply List.foldl_ext
  intro total d _
  simp [Nat.add_comm, Nat.mul_comm]

/-! ## Reading -/

theorem takeWhile_dropWhile_congr {p q : Char → Bool} {cs : List Char}
    (same : ∀ c ∈ cs, p c = q c) :
    cs.takeWhile p = cs.takeWhile q ∧ cs.dropWhile p = cs.dropWhile q := by
  induction cs with
  | nil => exact ⟨rfl, rfl⟩
  | cons c rest inductionHypothesis =>
      obtain ⟨taken, dropped⟩ := inductionHypothesis fun other member =>
        same other (List.mem_cons_of_mem c member)
      rw [List.takeWhile_cons, List.takeWhile_cons, List.dropWhile_cons,
        List.dropWhile_cons, same c List.mem_cons_self, taken, dropped]
      exact ⟨rfl, rfl⟩

/-- Without signs, blanks and underscores, a number consists of the digits that
its text begins with, and nothing may follow them. -/
theorem readInteger_of_unsigned
    {text : String} {plain : List Char}
    (isPlain :
      (if text.toList.all fun c => c.toNat < 0x80 then text.toList
        else text.toList.map plainNumeral) = plain)
    (noBlank : ∀ c ∈ plain, isNumberBlank c = false)
    (noMinus : '-' ∉ plain) (noPlus : '+' ∉ plain) (noMark : '_' ∉ plain) :
    readInteger 10 text =
      if plain.takeWhile (isDigitIn 10) = [] then
        .error (.notInteger 10 text)
      else if digitLimit < (plain.takeWhile (isDigitIn 10)).length then
        .error (.tooManyDigits (plain.takeWhile (isDigitIn 10)).length)
      else if plain.dropWhile (isDigitIn 10) = [] then
        .ok (ofDigits 10 (plain.takeWhile (isDigitIn 10)))
      else
        .error (.notInteger 10 text) := by
  have noStart : plain.dropWhile isNumberBlank = plain := by
    cases plain with
    | nil => rfl
    | cons c rest =>
        apply List.dropWhile_cons_of_neg
        simp [noBlank c List.mem_cons_self]
  have counts (c : Char) (member : c ∈ plain) :
      (isDigitIn 10 c || decide (c = '_')) = isDigitIn 10 c := by
    have notMark : c ≠ '_' := by
      rintro rfl
      exact noMark member
    simp [notMark]
  obtain ⟨taken, dropped⟩ := takeWhile_dropWhile_congr counts
  have runPlain : '_' ∉ plain.takeWhile (isDigitIn 10) :=
    fun member => noMark (List.takeWhile_subset _ member)
  have notFirst : (plain.takeWhile (isDigitIn 10)).head? ≠ some '_' :=
    fun first => runPlain (List.mem_of_mem_head? first)
  have all :
      (plain.takeWhile (isDigitIn 10)).countP (fun c => decide (c ≠ '_')) =
        (plain.takeWhile (isDigitIn 10)).length := by
    rw [List.countP_eq_length]
    intro c member
    rw [decide_eq_true_eq]
    rintro rfl
    exact runPlain member
  have restBlank :
      ((plain.dropWhile (isDigitIn 10)).all isNumberBlank = true) ↔
        plain.dropWhile (isDigitIn 10) = [] := by
    constructor
    · intro blanks
      by_contra filled
      obtain ⟨c, member⟩ := List.exists_mem_of_ne_nil _ filled
      have blank := List.all_eq_true.mp blanks c member
      rw [noBlank c (List.dropWhile_subset _ member)] at blank
      cases blank
    · intro empty
      rw [empty]
      rfl
  unfold readInteger
  simp only [isPlain, noStart]
  split
  · exact absurd List.mem_cons_self noMinus
  · exact absurd List.mem_cons_self noPlus
  · have notMarker : dropBaseMarker 10 plain = plain := rfl
    dsimp only
    rw [notMarker, taken, dropped, all, underscoresFit_of_plain runPlain]
    simp only [restBlank]
    simp [notFirst]

/-! ## Texts of digits -/

section Digits

variable {text : String} {ds : List Nat}

/-- The characters of a text of digit characters count as ASCII digits, or as a
character that is none. -/
theorem plain_cases
    (digits : ∀ c ∈ text.toList, isDigitChar c = true) :
    ∀ p ∈ text.toList.map plainNumeral,
      p = '?' ∨ ∃ d, d < 10 ∧ p = numeral d := by
  intro p member
  obtain ⟨c, inText, rfl⟩ := List.mem_map.mp member
  rw [plainNumeral_of_digit (digits c inText)]
  cases value : digitValue? c with
  | none => exact Or.inl rfl
  | some d =>
      obtain ⟨_, _, _, small⟩ := exists_of_digitValue? value
      exact Or.inr ⟨d, small, rfl⟩

theorem readInteger_of_digits
    (digits : ∀ c ∈ text.toList, isDigitChar c = true) :
    readInteger 10 text =
      let plain := text.toList.map plainNumeral
      if plain.takeWhile (isDigitIn 10) = [] then
        .error (.notInteger 10 text)
      else if digitLimit < (plain.takeWhile (isDigitIn 10)).length then
        .error (.tooManyDigits (plain.takeWhile (isDigitIn 10)).length)
      else if plain.dropWhile (isDigitIn 10) = [] then
        .ok (ofDigits 10 (plain.takeWhile (isDigitIn 10)))
      else
        .error (.notInteger 10 text) := by
  have holds (property : Char → Prop) (ofMark : property '?')
      (ofNumeral : ∀ d < 10, property (numeral d)) :
      ∀ p ∈ text.toList.map plainNumeral, property p := by
    intro p member
    rcases plain_cases digits p member with rfl | ⟨d, small, rfl⟩
    · exact ofMark
    · exact ofNumeral d small
  have absent (mark : Char) (notMark : '?' ≠ mark)
      (noNumeral : ∀ d < 10, numeral d ≠ mark) :
      mark ∉ text.toList.map plainNumeral :=
    fun member => holds (· ≠ mark) notMark noNumeral mark member rfl
  exact readInteger_of_unsigned (plain_of_digits digits)
    (holds (isNumberBlank · = false) (by decide) (by decide))
    (absent '-' (by decide) (by decide)) (absent '+' (by decide) (by decide))
    (absent '_' (by decide) (by decide))

theorem map_plainNumeral
    (digits : ∀ c ∈ text.toList, isDigitChar c = true)
    (values : text.toList.map digitValue? = ds.map some) :
    text.toList.map plainNumeral = ds.map numeral :=
  calc
    text.toList.map plainNumeral =
        (text.toList.map digitValue?).map (Option.elim · '?' numeral) := by
      rw [List.map_map]
      exact List.map_congr_left fun c member =>
        plainNumeral_of_digit (digits c member)
    _ = ds.map numeral := by
      rw [values, List.map_map]
      rfl

theorem forall_lt_ten (values : text.toList.map digitValue? = ds.map some) :
    ∀ d ∈ ds, d < 10 := by
  intro d member
  have isValue : some d ∈ text.toList.map digitValue? := by
    rw [values]
    exact List.mem_map.mpr ⟨d, member, rfl⟩
  obtain ⟨c, _, value⟩ := List.mem_map.mp isValue
  obtain ⟨_, _, _, small⟩ := exists_of_digitValue? value
  exact small

theorem readInteger_of_values
    (filled : text ≠ "")
    (digits : ∀ c ∈ text.toList, isDigitChar c = true)
    (values : text.toList.map digitValue? = ds.map some) :
    readInteger 10 text =
      if digitLimit < ds.length then .error (.tooManyDigits ds.length)
      else .ok (Nat.ofDigits 10 ds.reverse : Nat) := by
  have small := forall_lt_ten values
  have counts : ∀ p ∈ ds.map numeral, isDigitIn 10 p = true := by
    intro p member
    obtain ⟨d, inValues, rfl⟩ := List.mem_map.mp member
    unfold isDigitIn
    rw [digitOf?_numeral (small d inValues)]
    exact decide_eq_true (small d inValues)
  have someDigits : ds.map numeral ≠ [] := by
    rw [← map_plainNumeral digits values]
    simpa using filled
  rw [readInteger_of_digits digits, map_plainNumeral digits values]
  dsimp only
  rw [List.takeWhile_eq_self_iff.mpr counts,
    List.dropWhile_eq_nil_iff.mpr counts, if_neg someDigits, if_pos rfl,
    List.length_map, ofDigits_numerals small]

/-- A text of digit characters is read as a number exactly if every one of them
is a decimal digit and there are at most 4300 of them. -/
theorem readInteger_eq_ok_iff
    (filled : text ≠ "")
    (digits : ∀ c ∈ text.toList, isDigitChar c = true) {n : Int} :
    readInteger 10 text = .ok n ↔
      ∃ ds : List Nat, text.toList.map digitValue? = ds.map some ∧
        ds.length ≤ digitLimit ∧ n = (Nat.ofDigits 10 ds.reverse : Nat) := by
  constructor
  · intro read
    have allRead :
        (text.toList.map plainNumeral).dropWhile (isDigitIn 10) = [] := by
      by_contra rest
      rw [readInteger_of_digits digits] at read
      simp only [if_neg rest] at read
      split at read
      · cases read
      · split at read <;> cases read
    have valued : ∀ c ∈ text.toList, (digitValue? c).isSome = true := by
      intro c member
      have counts :=
        List.dropWhile_eq_nil_iff.mp allRead (plainNumeral c)
          (List.mem_map.mpr ⟨c, member, rfl⟩)
      rw [plainNumeral_of_digit (digits c member)] at counts
      cases value : digitValue? c with
      | none =>
          rw [value] at counts
          exact absurd counts (by decide)
      | some d => rfl
    obtain ⟨ds, values⟩ :
        ∃ ds : List Nat, text.toList.map digitValue? = ds.map some := by
      refine ⟨text.toList.map fun c => (digitValue? c).getD 0, ?_⟩
      rw [List.map_map]
      apply List.map_congr_left
      intro c member
      obtain ⟨d, value⟩ := Option.isSome_iff_exists.mp (valued c member)
      simp [value]
    rw [readInteger_of_values filled digits values] at read
    by_cases long : digitLimit < ds.length
    · rw [if_pos long] at read
      cases read
    · rw [if_neg long] at read
      cases read
      exact ⟨ds, values, by omega, rfl⟩
  · rintro ⟨ds, values, short, rfl⟩
    rw [readInteger_of_values filled digits values, if_neg (by omega)]

end Digits

end Tablesmith.Number

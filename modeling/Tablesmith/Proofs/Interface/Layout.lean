import Mathlib.Data.List.DropRight
import Mathlib.Data.List.Forall2
import Tablesmith.Interface.Layout
import Tablesmith.Proofs.Text.Splitting

/-!
# Laid out text

Text is laid out line by line, and only newlines end a line.  A line that is
laid out is clean: it holds no tab and no blank stands at its end.  Since
newlines stay where they are, two texts with a newline between them are laid
out one by one.  A text whose lines are all clean is laid out already.
-/

namespace Tablesmith.Interface

open Tablesmith.Text

/-! ## Lines -/

theorem splitLines_eq_splitOn (cs : List Char) :
    splitLines cs = cs.splitOn '\n' := by
  apply eq_splitOn_of_steps
  · rfl
  · intro rest
    rw [splitLines, if_pos rfl]
  · intro c rest line more notNewline lines
    rw [splitLines, if_neg notNewline, lines]

/-- A line as it stands in generated text. -/
def laidOut (width : Int) (line : List Char) : List Char :=
  dropBlankEnd (expandTabs width line)

/-- A line without tabs and without white space at its end. -/
structure IsClean (line : List Char) : Prop where
  noTab : '\t' ∉ line
  noBlankEnd : ∀ c ∈ line.getLast?, isBlank c = false

/-- A character of an expanded line is a space or was there before. -/
theorem mem_expandTabs
    {width : Int} {line : List Char} {c : Char}
    (member : c ∈ expandTabs width line) : c = ' ' ∨ c ∈ line ∧ c ≠ '\t' := by
  obtain ⟨d, isThere, expanded⟩ := List.mem_flatMap.mp member
  by_cases isTab : d = '\t'
  · rw [if_pos isTab] at expanded
    exact Or.inl (List.eq_of_mem_replicate expanded)
  · rw [if_neg isTab, List.mem_singleton] at expanded
    rw [expanded]
    exact Or.inr ⟨isThere, isTab⟩

theorem mem_laidOut
    {width : Int} {line : List Char} {c : Char}
    (member : c ∈ laidOut width line) : c = ' ' ∨ c ∈ line ∧ c ≠ '\t' := by
  have kept : laidOut width line <+: expandTabs width line :=
    List.rdropWhile_prefix isBlank (expandTabs width line)
  exact mem_expandTabs (kept.subset member)

theorem isBlank_getLast?_dropBlankEnd
    {cs : List Char} {c : Char} (isLast : c ∈ (dropBlankEnd cs).getLast?) :
    isBlank c = false := by
  have filled : cs.rdropWhile isBlank ≠ [] := by
    intro isEmpty
    change (cs.rdropWhile isBlank).getLast? = some c at isLast
    rw [isEmpty] at isLast
    cases isLast
  have notBlank := List.rdropWhile_last_not isBlank cs filled
  have last : (cs.rdropWhile isBlank).getLast filled = c := by
    change (cs.rdropWhile isBlank).getLast? = some c at isLast
    rw [List.getLast?_eq_some_getLast filled] at isLast
    exact Option.some.inj isLast
  rw [last] at notBlank
  exact Bool.eq_false_iff.mpr notBlank

theorem isClean_laidOut (width : Int) (line : List Char) :
    IsClean (laidOut width line) := by
  refine ⟨?_, fun c isLast => isBlank_getLast?_dropBlankEnd isLast⟩
  intro tab
  rcases mem_laidOut tab with isSpace | ⟨_, notTab⟩
  · cases isSpace
  · exact notTab rfl

/-! ## Texts -/

variable {width : Int}

theorem toList_tabsToSpaces (width : Int) (text : String) :
    (tabsToSpaces width text).toList =
      ['\n'].intercalate ((text.toList.splitOn '\n').map (laidOut width)) := by
  unfold tabsToSpaces
  rw [String.toList_ofList, splitLines_eq_splitOn]
  rfl

/-- The lines of a text stay apart when they are laid out. -/
theorem splitOn_tabsToSpaces (width : Int) (text : String) :
    (tabsToSpaces width text).toList.splitOn '\n' =
      (text.toList.splitOn '\n').map (laidOut width) := by
  rw [toList_tabsToSpaces]
  apply List.splitOn_intercalate
  · intro line isLine newline
    obtain ⟨original, isOriginal, rfl⟩ := List.mem_map.mp isLine
    rcases mem_laidOut newline with isSpace | ⟨inside, _⟩
    · cases isSpace
    · exact not_mem_of_mem_splitOn isOriginal inside
  · rw [ne_eq, List.map_eq_nil_iff]
    exact List.splitOn_ne_nil '\n' text.toList

theorem isClean_of_mem_tabsToSpaces
    {text : String} {line : List Char}
    (isLine : line ∈ (tabsToSpaces width text).toList.splitOn '\n') :
    IsClean line := by
  rw [splitOn_tabsToSpaces] at isLine
  obtain ⟨original, _, rfl⟩ := List.mem_map.mp isLine
  exact isClean_laidOut width original

theorem not_tab_mem_tabsToSpaces (width : Int) (text : String) :
    '\t' ∉ (tabsToSpaces width text).toList := by
  intro tab
  have notNewline : '\t' ≠ '\n' := by decide
  obtain ⟨line, isLine, inside⟩ := exists_mem_splitOn tab notNewline
  exact (isClean_of_mem_tabsToSpaces isLine).noTab inside

theorem tabsToSpaces_append_newline (width : Int) (first last : String) :
    tabsToSpaces width (first ++ "\n" ++ last) =
      tabsToSpaces width first ++ "\n" ++ tabsToSpaces width last := by
  have newline : "\n".toList = ['\n'] := by decide
  have parts (before after : String) :
      (before ++ "\n" ++ after).toList.splitOn '\n' =
        before.toList.splitOn '\n' ++ after.toList.splitOn '\n' := by
    rw [String.toList_append, String.toList_append, newline,
      List.append_assoc, List.singleton_append,
      List.splitOn_append_cons_self]
  apply String.toList_injective
  apply splitOn_injective '\n'
  rw [splitOn_tabsToSpaces, parts, parts, splitOn_tabsToSpaces,
    splitOn_tabsToSpaces, List.map_append]

theorem tabsToSpaces_empty (width : Int) : tabsToSpaces width "" = "" := rfl

/-- Texts with a blank line between each two of them are laid out one by
one. -/
theorem tabsToSpaces_intercalate (width : Int) (texts : List String) :
    tabsToSpaces width ("\n\n".intercalate texts) =
      "\n\n".intercalate (texts.map (tabsToSpaces width)) := by
  have blankLine (first last : String) :
      first ++ "\n\n" ++ last = first ++ "\n" ++ ("" ++ "\n" ++ last) := by
    have two : "\n\n" = "\n" ++ "\n" := by decide
    rw [two, String.empty_append]
    simp only [String.append_assoc]
  induction texts with
  | nil => exact tabsToSpaces_empty width
  | cons first rest inductionHypothesis =>
      cases rest with
      | nil =>
          rw [List.map_singleton, String.intercalate_singleton,
            String.intercalate_singleton]
      | cons next more =>
          rw [List.map_cons] at inductionHypothesis ⊢
          rw [List.map_cons, String.intercalate_cons_cons,
            String.intercalate_cons_cons, blankLine,
            tabsToSpaces_append_newline, tabsToSpaces_append_newline,
            inductionHypothesis, tabsToSpaces_empty, ← blankLine]

/-! ## Clean texts -/

theorem expandTabs_eq_self
    {line : List Char} (noTab : '\t' ∉ line) :
    expandTabs width line = line := by
  induction line with
  | nil => rfl
  | cons c rest inductionHypothesis =>
      rw [List.mem_cons, not_or] at noTab
      obtain ⟨notTab, noneLater⟩ := noTab
      have expanded := inductionHypothesis noneLater
      unfold expandTabs at expanded ⊢
      rw [List.flatMap_cons, if_neg (Ne.symm notTab), expanded,
        List.singleton_append]

/-- What is dropped at the end of a line is blank. -/
theorem exists_eq_dropBlankEnd_append (cs : List Char) :
    ∃ ending, (∀ c ∈ ending, isBlank c = true) ∧
      cs = dropBlankEnd cs ++ ending := by
  refine ⟨cs.rtakeWhile isBlank, fun c => List.mem_rtakeWhile_imp, ?_⟩
  exact List.rdropWhile_append_rtakeWhile.symm

theorem laidOut_eq_self_iff {line : List Char} :
    laidOut width line = line ↔ IsClean line := by
  constructor
  · intro unchanged
    rw [← unchanged]
    exact isClean_laidOut width line
  · intro clean
    unfold laidOut
    rw [expandTabs_eq_self clean.noTab]
    change line.rdropWhile isBlank = line
    rw [List.rdropWhile_eq_self_iff]
    intro filled
    rw [clean.noBlankEnd _ (List.getLast_mem_getLast? filled)]
    exact Bool.false_ne_true

/-- Only the texts with clean lines stay as they are. -/
theorem tabsToSpaces_eq_self_iff {text : String} :
    tabsToSpaces width text = text ↔
      ∀ line ∈ text.toList.splitOn '\n', IsClean line := by
  have unchanged :
      (text.toList.splitOn '\n').map (laidOut width) =
          (text.toList.splitOn '\n').map id ↔
        ∀ line ∈ text.toList.splitOn '\n', laidOut width line = line :=
    List.map_inj_left
  rw [List.map_id] at unchanged
  rw [← String.toList_inj, ← (splitOn_injective '\n').eq_iff,
    splitOn_tabsToSpaces, unchanged]
  exact forall₂_congr fun _ _ => laidOut_eq_self_iff

theorem tabsToSpaces_tabsToSpaces (width other : Int) (text : String) :
    tabsToSpaces other (tabsToSpaces width text) = tabsToSpaces width text :=
  tabsToSpaces_eq_self_iff.mpr fun _ => isClean_of_mem_tabsToSpaces

/-! ## What stands in a line -/

/-- The characters of a line that are not blank. -/
def shownChars (line : List Char) : List Char :=
  line.filter fun c => !isBlank c

theorem shownChars_append (first last : List Char) :
    shownChars (first ++ last) = shownChars first ++ shownChars last :=
  List.filter_append first last

theorem shownChars_eq_nil
    {line : List Char} (areBlank : ∀ c ∈ line, isBlank c = true) :
    shownChars line = [] := by
  unfold shownChars
  rw [List.filter_eq_nil_iff]
  intro c member
  rw [areBlank c member]
  decide

theorem shownChars_expandTabs (line : List Char) :
    shownChars (expandTabs width line) = shownChars line := by
  induction line with
  | nil => rfl
  | cons c rest inductionHypothesis =>
      have front :
          shownChars (if c = '\t' then List.replicate width.toNat ' ' else [c]) =
            shownChars [c] := by
        by_cases isTab : c = '\t'
        · rw [if_pos isTab, isTab, shownChars_eq_nil]
          · rfl
          · intro d member
            rw [List.eq_of_mem_replicate member]
            decide
        · rw [if_neg isTab]
      unfold expandTabs at inductionHypothesis ⊢
      rw [List.flatMap_cons, shownChars_append, front, inductionHypothesis,
        ← shownChars_append, List.singleton_append]

theorem shownChars_laidOut (line : List Char) :
    shownChars (laidOut width line) = shownChars line := by
  obtain ⟨ending, areBlank, whole⟩ :=
    exists_eq_dropBlankEnd_append (expandTabs width line)
  calc
    shownChars (laidOut width line) =
        shownChars (laidOut width line ++ ending) := by
      rw [shownChars_append, shownChars_eq_nil areBlank, List.append_nil]
    _ = shownChars (expandTabs width line) := congrArg shownChars whole.symm
    _ = shownChars line := shownChars_expandTabs line

/-- A line and the line that is laid out in its place: the characters that are
not blank are the same, and what the expanded line loses is blank. -/
structure LaidOutFrom (width : Int) (before after : List Char) : Prop where
  shown : shownChars after = shownChars before
  cut :
    ∃ ending, (∀ c ∈ ending, isBlank c = true) ∧
      expandTabs width before = after ++ ending

theorem laidOutFrom_laidOut (width : Int) (line : List Char) :
    LaidOutFrom width line (laidOut width line) :=
  ⟨shownChars_laidOut line,
    exists_eq_dropBlankEnd_append (expandTabs width line)⟩

/-- Laying out brings a text into a normal form, line by line.  Done again, with
any width, it changes nothing, and the texts in normal form are those without
tabs and without white space at the end of a line.  There are as many lines as
before; each is the line in its place with its tabs expanded and the white
space at its end cut off, so that the other characters are the same. -/
theorem tabsToSpaces_normalises (width : Int) (text : String) :
    (∀ other,
      tabsToSpaces other (tabsToSpaces width text) =
        tabsToSpaces width text) ∧
    (tabsToSpaces width text = text ↔
      '\t' ∉ text.toList ∧
        ∀ line ∈ text.toList.splitOn '\n',
          ∀ c ∈ line.getLast?, isBlank c = false) ∧
    ((tabsToSpaces width text).toList.splitOn '\n').length =
      (text.toList.splitOn '\n').length ∧
    '\t' ∉ (tabsToSpaces width text).toList ∧
    (∀ line ∈ (tabsToSpaces width text).toList.splitOn '\n',
      ∀ c ∈ line.getLast?, isBlank c = false) ∧
    List.Forall₂ (LaidOutFrom width) (text.toList.splitOn '\n')
      ((tabsToSpaces width text).toList.splitOn '\n') := by
  have noTab := not_tab_mem_tabsToSpaces width text
  have noBlankEnd :
      ∀ line ∈ (tabsToSpaces width text).toList.splitOn '\n',
        ∀ c ∈ line.getLast?, isBlank c = false :=
    fun line isLine => (isClean_of_mem_tabsToSpaces isLine).noBlankEnd
  refine ⟨fun other => tabsToSpaces_tabsToSpaces width other text, ?_, ?_,
    noTab, noBlankEnd, ?_⟩
  · constructor
    · intro unchanged
      rw [unchanged] at noTab noBlankEnd
      exact ⟨noTab, noBlankEnd⟩
    · rintro ⟨noTab, noBlankEnd⟩
      rw [tabsToSpaces_eq_self_iff]
      intro line isLine
      exact ⟨fun inside => noTab (mem_of_mem_splitOn isLine inside),
        noBlankEnd line isLine⟩
  · rw [splitOn_tabsToSpaces, List.length_map]
  · rw [splitOn_tabsToSpaces, List.forall₂_map_right_iff, List.forall₂_same]
    exact fun line _ => laidOutFrom_laidOut width line

end Tablesmith.Interface

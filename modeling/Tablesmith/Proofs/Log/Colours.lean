import Mathlib.Data.List.TakeWhile
import Tablesmith.Log.Formatter

/-!
# Colours around records

Colours are put around the text of a record and never into it.  A warning or
an error has the colour of its level; any other record has the colour of the
mark that its message begins with, and without a mark only a record of details
has one.
-/

namespace Tablesmith.Text

theorem beginsWith_iff {text start : String} :
    beginsWith text start = true ↔
      ∃ rest, text.toList = start.toList ++ rest := by
  unfold beginsWith
  rw [List.isPrefixOf_iff_prefix]
  exact exists_congr fun rest => eq_comm

/-- Blank characters end where a character that is not blank begins. -/
theorem dropBlankStart_append
    {blanks rest : List Char} {first : Char}
    (areBlank : ∀ c ∈ blanks, isBlank c = true)
    (notBlank : isBlank first = false) :
    dropBlankStart (blanks ++ first :: rest) = first :: rest := by
  unfold dropBlankStart
  rw [List.dropWhile_append_of_pos areBlank,
    List.dropWhile_cons_of_neg (by simp [notBlank])]

end Tablesmith.Text

namespace Tablesmith.Log

open Tablesmith.Text

/-! ## Names of levels -/

def namedLevels : List Level :=
  [0, Level.debug, Level.info, Level.warning, Level.error, Level.critical]

/-- The name of a level with a name of its own belongs to no other level. -/
theorem Level.name_eq_name_iff
    {level known : Level} (isKnown : known ∈ namedLevels) :
    Level.name level = Level.name known ↔ level = known := by
  constructor
  · intro same
    by_cases isNamed : level ∈ namedLevels
    · have distinct :
          ∀ one ∈ namedLevels, ∀ other ∈ namedLevels,
            Level.name one = Level.name other → one = other := by
        decide
      exact distinct _ isNamed _ isKnown same
    · have numbered : Level.name level = "Level " ++ toString level := by
        simp only [namedLevels, List.mem_cons, List.not_mem_nil, not_or]
          at isNamed
        unfold Level.name
        simp only [isNamed, if_false]
      have otherStart :
          ∀ one ∈ namedLevels, (Level.name one).toList.head? ≠ some 'L' := by
        decide
      have start : (Level.name level).toList.head? = some 'L' := by
        rw [numbered, String.toList_append]
        rfl
      exact absurd (same ▸ start) (otherStart _ isKnown)
  · rintro rfl
    rfl

/-! ## Marks -/

/-- What the start of a message can say about it. -/
inductive Mark where
  | success
  | progress
  | divider
  deriving DecidableEq, Repr

namespace Mark

def sign : Mark → List Char
  | success => ['✓']
  | progress => ['→']
  | divider => ['=', '=', '=']

def colour : Mark → String
  | success => "\x1b[92m\x1b[1m"
  | progress => "\x1b[94m"
  | divider => "\x1b[1m\x1b[96m"

/-- A message begins with a mark.  Only a line between sections may have blank
characters before it. -/
def Leads (mark : Mark) (message : String) : Prop :=
  ∃ blanks rest, message.toList = blanks ++ mark.sign ++ rest ∧
    (∀ c ∈ blanks, isBlank c = true) ∧ (blanks = [] ∨ mark = divider)

end Mark

theorem leads_iff_of_ne_divider {mark : Mark} {message : String}
    (notDivider : mark ≠ .divider) :
    mark.Leads message ↔
      beginsWith message (String.ofList mark.sign) = true := by
  rw [beginsWith_iff, String.toList_ofList]
  constructor
  · rintro ⟨blanks, rest, isText, _, rfl | isDivider⟩
    · exact ⟨rest, isText⟩
    · exact absurd isDivider notDivider
  · rintro ⟨rest, isText⟩
    exact ⟨[], rest, isText, by simp, Or.inl rfl⟩

/-- What a message with a mark begins with, blank characters aside. -/
theorem Mark.Leads.dropBlankStart
    {mark : Mark} {message : String} (leads : mark.Leads message) :
    ∃ rest, dropBlankStart message.toList = mark.sign ++ rest := by
  obtain ⟨blanks, rest, isText, areBlank, _⟩ := leads
  refine ⟨rest, ?_⟩
  rw [isText, List.append_assoc]
  cases mark with
  | success => exact dropBlankStart_append areBlank (by decide)
  | progress => exact dropBlankStart_append areBlank (by decide)
  | divider => exact dropBlankStart_append areBlank (by decide)

theorem leads_divider_iff {message : String} :
    Mark.divider.Leads message ↔ marksSection message = true := by
  unfold marksSection
  rw [beginsWith_iff, trimStart, String.toList_ofList, String.toList_ofList]
  constructor
  · exact Mark.Leads.dropBlankStart
  · rintro ⟨rest, dropped⟩
    refine ⟨message.toList.takeWhile isBlank, rest, ?_, ?_, Or.inr rfl⟩
    · rw [List.append_assoc]
      exact (List.takeWhile_append_dropWhile.symm.trans
        (congrArg _ dropped))
    · intro c isBlankStart
      exact List.mem_takeWhile_imp isBlankStart

/-- A message begins with one mark at most. -/
theorem Mark.Leads.unique
    {mark other : Mark} {message : String}
    (leads : mark.Leads message) (otherLeads : other.Leads message) :
    mark = other := by
  obtain ⟨rest, dropped⟩ := leads.dropBlankStart
  obtain ⟨otherRest, otherDropped⟩ := otherLeads.dropBlankStart
  rw [dropped] at otherDropped
  cases mark <;> cases other <;> simp [Mark.sign] at otherDropped ⊢

/-! ## The colour of a record -/

/-- The levels whose records have a colour whatever their message, by name. -/
def graveColours : List (String × String) :=
  [("WARNING", "\x1b[33m"), ("ERROR", "\x1b[31m"), ("CRITICAL", "\x1b[35m")]

def IsGrave (level : Level) : Prop :=
  ∃ colour, (Level.name level, colour) ∈ graveColours

/-- The colour of the details for a developer. -/
def detailColour : String := "\x1b[36m"

def fixedColours : List String :=
  graveColours.map Prod.snd ++
    [Mark.success.colour, Mark.progress.colour, Mark.divider.colour,
      detailColour]

/-- The colour is the one that a record of a level has, if its message is the
given one. -/
structure Suits
    (level : Level) (message : String) (colour : Option String) : Prop where
  ofLevel :
    ∀ c, (Level.name level, c) ∈ graveColours → colour = some c
  ofMark :
    ¬ IsGrave level → ∀ mark : Mark, mark.Leads message →
      colour = some mark.colour
  ofDetails :
    ¬ IsGrave level → (∀ mark : Mark, ¬ mark.Leads message) →
      Level.name level = "DEBUG" → colour = some detailColour
  none :
    ¬ IsGrave level → (∀ mark : Mark, ¬ mark.Leads message) →
      Level.name level ≠ "DEBUG" → colour = none

theorem levelColour?_eq_some_iff {level : Level} {colour : String} :
    levelColour? level = some colour ↔
      (Level.name level, colour) ∈ graveColours := by
  have isWarning :
      Level.name level = "WARNING" ↔ level = Level.warning :=
    Level.name_eq_name_iff (by decide : Level.warning ∈ namedLevels)
  have isError : Level.name level = "ERROR" ↔ level = Level.error :=
    Level.name_eq_name_iff (by decide : Level.error ∈ namedLevels)
  have isCritical : Level.name level = "CRITICAL" ↔ level = Level.critical :=
    Level.name_eq_name_iff (by decide : Level.critical ∈ namedLevels)
  simp only [graveColours, List.mem_cons, Prod.mk.injEq, List.not_mem_nil,
    or_false, isWarning, isError, isCritical]
  have yellow : escape "33" = "\x1b[33m" := by decide
  have red : escape "31" = "\x1b[31m" := by decide
  have magenta : escape "35" = "\x1b[35m" := by decide
  unfold levelColour?
  split
  · next warned =>
      simp [warned, yellow, eq_comm, Level.warning, Level.error, Level.critical]
  · split
    · next failed =>
        simp [failed, red, eq_comm, Level.warning, Level.error, Level.critical]
    · split
      · next ended =>
          simp [ended, magenta, eq_comm, Level.warning, Level.error,
            Level.critical]
      · simp [*]

/-- The mark that a message begins with. -/
def leadingMark? (message : String) : Option Mark :=
  if beginsWith message successMark then some .success
  else if beginsWith message progressMark then some .progress
  else if marksSection message then some .divider
  else none

theorem leadingMark?_eq_some_iff {message : String} {mark : Mark} :
    leadingMark? message = some mark ↔ mark.Leads message := by
  have success :
      Mark.success.Leads message ↔ beginsWith message successMark = true :=
    leads_iff_of_ne_divider (by decide)
  have progress :
      Mark.progress.Leads message ↔ beginsWith message progressMark = true :=
    leads_iff_of_ne_divider (by decide)
  constructor
  · intro found
    unfold leadingMark? at found
    split at found
    · next begins =>
        cases found
        exact success.mpr begins
    · split at found
      · next begins =>
          cases found
          exact progress.mpr begins
      · split at found
        · next begins =>
            cases found
            exact leads_divider_iff.mpr begins
        · cases found
  · intro leads
    -- The tests run in a fixed order, which makes no difference: a message
    -- begins with one mark only.
    have noOther {other : Mark} (isOther : other ≠ mark) :
        ¬ other.Leads message := fun otherLeads =>
      isOther (otherLeads.unique leads)
    unfold leadingMark?
    cases mark with
    | success => rw [if_pos (success.mp leads)]
    | progress =>
        rw [if_neg (mt success.mpr (noOther (by decide))),
          if_pos (progress.mp leads)]
    | divider =>
        rw [if_neg (mt success.mpr (noOther (by decide))),
          if_neg (mt progress.mpr (noOther (by decide))),
          if_pos (leads_divider_iff.mp leads)]

theorem leadingMark?_eq_none_iff {message : String} :
    leadingMark? message = none ↔ ∀ mark : Mark, ¬ mark.Leads message := by
  rw [Option.eq_none_iff_forall_ne_some]
  exact forall_congr' fun mark => not_congr leadingMark?_eq_some_iff

/-- The colour of a record is that of its level, else that of its mark, and
else that of its details. -/
theorem colour?_eq (level : Level) (message : String) :
    colour? level message =
      (levelColour? level).or
        (((leadingMark? message).map Mark.colour).or
          (if Level.name level = "DEBUG" then some detailColour
          else none)) := by
  have isDebug : Level.name level = "DEBUG" ↔ level = Level.debug :=
    Level.name_eq_name_iff (by decide : Level.debug ∈ namedLevels)
  have green : escape "92" ++ bold = Mark.success.colour := by decide
  have blue : escape "94" = Mark.progress.colour := by decide
  have bright : bold ++ escape "96" = Mark.divider.colour := by decide
  have cyan : escape "36" = detailColour := by decide
  simp only [isDebug]
  unfold colour? leadingMark?
  rw [green, blue, bright, cyan]
  cases levelColour? level with
  | some colour => rfl
  | none =>
      dsimp only
      split
      · rfl
      · split
        · rfl
        · split
          · rfl
          · rfl

theorem suits_colour? (level : Level) (message : String) :
    Suits level message (colour? level message) := by
  have ofLevel (c : String) (isGrave : (Level.name level, c) ∈ graveColours) :
      colour? level message = some c := by
    rw [colour?_eq, levelColour?_eq_some_iff.mpr isGrave, Option.some_or]
  have notOfLevel (notGrave : ¬ IsGrave level) :
      colour? level message =
        ((leadingMark? message).map Mark.colour).or
          (if Level.name level = "DEBUG" then some detailColour
          else none) := by
    have noColour : levelColour? level = none :=
      Option.eq_none_iff_forall_ne_some.mpr fun c isColour =>
        notGrave ⟨c, levelColour?_eq_some_iff.mp isColour⟩
    rw [colour?_eq, noColour, Option.none_or]
  refine ⟨ofLevel, ?_, ?_, ?_⟩
  · intro notGrave mark leads
    rw [notOfLevel notGrave, leadingMark?_eq_some_iff.mpr leads,
      Option.map_some, Option.some_or]
  · intro notGrave unmarked isDebug
    rw [notOfLevel notGrave, leadingMark?_eq_none_iff.mpr unmarked,
      Option.map_none, Option.none_or, if_pos isDebug]
  · intro notGrave unmarked notDebug
    rw [notOfLevel notGrave, leadingMark?_eq_none_iff.mpr unmarked,
      Option.map_none, Option.none_or, if_neg notDebug]

theorem Suits.isFixed
    {level : Level} {message : String} {colour : Option String}
    (suits : Suits level message colour) (c : String)
    (isColour : colour = some c) :
    c ∈ fixedColours := by
  by_cases grave : IsGrave level
  · obtain ⟨own, isOwn⟩ := grave
    rw [suits.ofLevel own isOwn] at isColour
    cases isColour
    exact List.mem_append_left _ (List.mem_map_of_mem isOwn)
  · apply List.mem_append_right
    cases marked : leadingMark? message with
    | some mark =>
        have leads := leadingMark?_eq_some_iff.mp marked
        rw [suits.ofMark grave mark leads] at isColour
        cases isColour
        cases mark <;> simp
    | none =>
        have unmarked := leadingMark?_eq_none_iff.mp marked
        by_cases isDebug : Level.name level = "DEBUG"
        · rw [suits.ofDetails grave unmarked isDebug] at isColour
          cases isColour
          simp
        · rw [suits.none grave unmarked isDebug] at isColour
          cases isColour

/-! ## The text of a record -/

theorem render_of_formatPlain
    {pattern text : String} {e : Entry}
    (written : formatPlain pattern e = .ok text) :
    ∃ message, e.render = .ok message := by
  unfold formatPlain at written
  cases rendered : e.render with
  | ok message => exact ⟨message, rfl⟩
  | error failure =>
      cases checked : checkFormat pattern with
      | ok used =>
          rw [checked, rendered] at written
          cases written
      | error fault =>
          rw [checked] at written
          cases written

theorem format_of_error
    {pattern : String} {e : Entry} {failure : Failure}
    (failed : formatPlain pattern e = .error failure) :
    format true pattern e = .error failure := by
  unfold format
  rw [failed]
  rfl

theorem format_of_ok
    {pattern text message : String} {e : Entry}
    (written : formatPlain pattern e = .ok text)
    (rendered : e.render = .ok message) :
    format true pattern e =
      .ok ((colour? e.level message).elim text (· ++ text ++ "\x1b[0m")) := by
  have ending : reset = "\x1b[0m" := by decide
  unfold format
  rw [written, rendered, ← ending]
  show Except.ok (coloured (colour? e.level message) text) = _
  cases colour? e.level message with
  | none => rfl
  | some c => rfl

/-- With colours a record cannot be written exactly if it cannot be written
without them; else its text stays as it is, with one of the fixed colours
before it and their end behind it, or with nothing around it.  The colour suits
the level and the message. -/
theorem format_keeps_text (pattern : String) (e : Entry) :
    (∀ failure, format true pattern e = .error failure ↔
        formatPlain pattern e = .error failure) ∧
      ∀ text, formatPlain pattern e = .ok text →
        ∃ message colour, e.render = .ok message ∧
          Suits e.level message colour ∧
          (∀ c, colour = some c → c ∈ fixedColours) ∧
          format true pattern e =
            .ok (colour.elim text (· ++ text ++ "\x1b[0m")) := by
  constructor
  · intro failure
    refine ⟨?_, format_of_error⟩
    intro failed
    cases written : formatPlain pattern e with
    | error fault => rw [← failed, format_of_error written]
    | ok text =>
        obtain ⟨message, rendered⟩ := render_of_formatPlain written
        rw [format_of_ok written rendered] at failed
        cases failed
  · intro text written
    obtain ⟨message, rendered⟩ := render_of_formatPlain written
    have suits := suits_colour? e.level message
    exact ⟨message, colour? e.level message, rendered, suits, suits.isFixed,
      format_of_ok written rendered⟩

/-- An error with arguments, a line number and a time. -/
def alarm : Entry where
  level := Level.error
  logger := ""
  message := "=== %s"
  arguments := [.text "A"]
  attributes := [("lineno", .int 7)]
  time := "12:00"
  trace := ""
  stack := ""

/-- An error is red, also if its message is a line between sections. -/
theorem alarm_keeps_text :
    formatPlain "%(asctime)s, %(lineno)03d: %(message)s" alarm =
        .ok "12:00, 007: === A" ∧
      Mark.divider.Leads alarm.message ∧
      format true "%(asctime)s, %(lineno)03d: %(message)s" alarm =
        .ok "\x1b[31m12:00, 007: === A\x1b[0m" := by
  have written :
      formatPlain "%(asctime)s, %(lineno)03d: %(message)s" alarm =
        .ok "12:00, 007: === A" := by
    decide +kernel
  have marked : Mark.divider.Leads alarm.message :=
    leads_divider_iff.mpr (by decide)
  obtain ⟨message, colour, _, suits, _, coloured⟩ :=
    (format_keeps_text _ alarm).2 _ written
  have isRed : colour = some "\x1b[31m" := suits.ofLevel _ (by decide)
  refine ⟨written, marked, ?_⟩
  rw [coloured, isRed]
  exact congrArg Except.ok (by decide)

end Tablesmith.Log

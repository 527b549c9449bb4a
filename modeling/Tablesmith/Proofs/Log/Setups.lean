import Mathlib.Algebra.GroupWithZero.Nat
import Mathlib.Data.List.Forall2
import Tablesmith.Log.Console
import Tablesmith.Proofs.Value.Entries

/-!
# Setups of the console

A setup removes all handlers before it adds its own, so that nothing of what
was set up before is left.  From then on a record is written once, by that one
handler, if it is at the level of the setup or above.
-/

namespace Tablesmith.Pattern

/-! ## Fields of a format -/

/-- The layout of a conversion without flags, width and precision. -/
def unmeasured : Layout :=
  ⟨false, false, false, false, false, 0, none⟩

theorem convert_text (text : String) (position : Nat) :
    convert unmeasured 's' position (.text text) = .ok text.toList := by
  show Except.ok (List.replicate (0 - text.toList.length) ' ' ++ text.toList) =
    Except.ok text.toList
  rw [Nat.zero_sub, List.replicate_zero, List.nil_append]

/-- A field is filled with the text under its name. -/
theorem fillPiece_text
    {row : List Value} {entries : List (Value × Value)} {key text : String}
    (found : Value.lookupText? entries key = some (.text text))
    (position : Nat) :
    fillPiece ⟨row, some entries⟩
        (.convert ⟨some key, [], .none, .none⟩ 's' position) =
      .ok (text.toList, ⟨[], some entries⟩) := by
  have selected :
      Arguments.select ⟨row, some entries⟩ (some key) =
        .ok ⟨[.text text], some entries⟩ := by
    unfold Arguments.select
    dsimp only
    rw [found]
  dsimp only [fillPiece]
  rw [selected]
  show (convert unmeasured 's' position (.text text)).bind
      (fun cs => .ok (cs, (⟨[], some entries⟩ : Arguments))) = _
  rw [convert_text]
  rfl

theorem fillPieces_cons
    {a after : Arguments} {p : Piece} {cs : List Char}
    (filled : fillPiece a p = .ok (cs, after))
    (rest : List Piece) :
    fillPieces a (p :: rest) =
      (fillPieces after rest).map (cs ++ ·) := by
  rw [fillPieces, filled]
  show (fillPieces after rest).bind (fun more => .ok (cs ++ more)) = _
  cases fillPieces after rest with
  | error failure => rfl
  | ok more => rfl

end Tablesmith.Pattern

namespace Tablesmith.Log

open Tablesmith.Text

/-! ## The standard format -/

theorem pieces_standardFormat :
    Pattern.pieces standardFormat =
      [.convert ⟨some "levelname", [], .none, .none⟩ 's' 12,
        .literal ':', .literal ' ',
        .convert ⟨some "message", [], .none, .none⟩ 's' 25] := rfl

/-- A format finds the message and, if it asks for it, the time; else what the
entry has from the start. -/
theorem lookupText?_fields
    (used : String) (e : Entry) (message name : String) :
    Value.lookupText? (fields used e message) name =
      if usesTime used = true ∧ name = "asctime" then some (.text e.time)
      else if name = "message" then some (.text message)
      else Value.lookupText? e.fields name := by
  unfold fields
  by_cases asks : usesTime used = true
  · rw [if_pos asks, Value.lookupText?_put, Value.lookupText?_put]
    simp only [asks, true_and]
  · have notTime : ¬ (usesTime used = true ∧ name = "asctime") :=
      fun both => asks both.1
    rw [if_neg asks, if_neg notTime, Value.lookupText?_put]

theorem fill_standardFormat (e : Entry) (message : String) :
    Pattern.fill standardFormat
        (.ofEntries (fields standardFormat e message)) =
      .ok (Level.name e.level ++ ": " ++ message) := by
  have noTime : usesTime standardFormat = false := by decide
  have level :
      Value.lookupText? (fields standardFormat e message) "levelname" =
        some (.text (Level.name e.level)) := by
    rw [lookupText?_fields, noTime]
    rfl
  have text :
      Value.lookupText? (fields standardFormat e message) "message" =
        some (.text message) := by
    rw [lookupText?_fields, noTime]
    rfl
  have nothingLeft :
      Pattern.fillPieces ⟨[], some (fields standardFormat e message)⟩ [] =
        .ok [] :=
    rfl
  have colon : ": ".toList = [':', ' '] := by decide
  have joined :
      Level.name e.level ++ ": " ++ message =
        String.ofList
          ((Level.name e.level).toList ++ ([':'] ++ ([' '] ++
            (message.toList ++ [])))) := by
    apply String.toList_injective
    rw [String.toList_append, String.toList_append, colon,
      String.toList_ofList, List.append_nil, List.append_assoc]
    rfl
  unfold Pattern.fill Pattern.Arguments.ofEntries
  rw [pieces_standardFormat,
    Pattern.fillPieces_cons (Pattern.fillPiece_text level 12),
    Pattern.fillPieces_cons rfl, Pattern.fillPieces_cons rfl,
    Pattern.fillPieces_cons (Pattern.fillPiece_text text 25),
    nothingLeft, joined]
  rfl

theorem formatPlain_of_ok
    {pattern used message text : String} {e : Entry}
    (checked : checkFormat pattern = .ok used)
    (rendered : e.render = .ok message)
    (filled :
      Pattern.fill used (.ofEntries (fields used e message)) = .ok text) :
    formatPlain pattern e =
      .ok (withTrace (withTrace text e.trace) e.stack) := by
  simp only [formatPlain, checked, rendered, filled, bind, Except.bind,
    Except.mapError, pure, Except.pure]

theorem formatPlain_standardFormat (r : Record) :
    formatPlain standardFormat (.ofRecord r) =
      .ok
        (withTrace (Level.name r.level ++ ": " ++ r.message)
          (r.trace.elim "" traceText)) :=
  formatPlain_of_ok (by decide +kernel) rfl
    (fill_standardFormat (.ofRecord r) r.message)

/-- A record in the standard format. -/
def Record.shown (colours : Bool) (r : Record) : String :=
  coloured (if colours then colour? r.level r.message else none)
    (withTrace (Level.name r.level ++ ": " ++ r.message)
      (r.trace.elim "" traceText))

/-- Every record can be written in the standard format. -/
theorem format_standardFormat (colours : Bool) (r : Record) :
    format colours standardFormat (.ofRecord r) = .ok (r.shown colours) := by
  unfold format
  rw [formatPlain_standardFormat]
  cases colours with
  | false => rfl
  | true => rfl

/-! ## Handlers -/

theorem removeHandlers_eq (root : Root) :
    root.removeHandlers = ⟨[], root.level⟩ := by
  -- The handlers to remove are those of the start, while the list that they
  -- are removed from shrinks: each is the first one when its turn comes.
  have emptied (handlers : List Handler) :
      handlers.foldl Root.removeHandler ⟨handlers, root.level⟩ =
        ⟨[], root.level⟩ := by
    induction handlers with
    | nil => rfl
    | cons handler rest inductionHypothesis =>
        have first :
            Root.removeHandler ⟨handler :: rest, root.level⟩ handler =
              ⟨rest, root.level⟩ := by
          unfold Root.removeHandler
          rw [List.erase_cons_head]
        rw [List.foldl_cons, first, inductionHypothesis]
  exact emptied root.handlers

/-- A setup forgets what was set up before. -/
theorem setup_eq (before : Root) (level : Level) (colours : Bool) :
    before.setup level colours = ⟨[.console level colours], level⟩ := by
  unfold Root.setup Root.addHandler
  rw [removeHandlers_eq]
  rfl

/-! ## Output -/

section Output

variable {level : Level} {colours : Bool}

/-- The root and its handler have the same level, so that a record which reaches
the one is written by the other. -/
theorem console_write {r : Record} (positive : 0 < r.level) :
    (Root.mk [.console level colours] level).write r =
      if level ≤ r.level then r.shown colours ++ "\n" else "" := by
  have accepted :
      (Root.mk [.console level colours] level).accepts r =
        decide (level ≤ r.level) := by
    unfold Root.accepts
    rw [decide_eq_true positive, Bool.true_and]
  unfold Root.write
  rw [accepted]
  by_cases reaches : level ≤ r.level
  · rw [if_pos (decide_eq_true reaches), if_pos reaches, List.map_singleton,
      String.join_cons, String.join_nil, String.append_empty]
    show (if level ≤ r.level then _ else _) = _
    rw [if_pos reaches, format_standardFormat]
  · rw [if_neg (by simpa using reaches), if_neg reaches]

theorem console_writeAll
    {records : List Record} (positive : ∀ r ∈ records, 0 < r.level) :
    (Root.mk [.console level colours] level).writeAll records =
      String.join
        (((records.filter fun r => level ≤ r.level).map
          (Record.shown colours)).map (· ++ "\n")) := by
  induction records with
  | nil => rfl
  | cons r rest inductionHypothesis =>
      have later :=
        inductionHypothesis fun other member =>
          positive other (List.mem_cons_of_mem r member)
      unfold Root.writeAll at later ⊢
      rw [List.map_cons, String.join_cons, later,
        console_write (positive r List.mem_cons_self)]
      by_cases reaches : level ≤ r.level
      · rw [if_pos reaches, List.filter_cons_of_pos (by simpa using reaches),
          List.map_cons, List.map_cons, String.join_cons]
      · rw [if_neg reaches, List.filter_cons_of_neg (by simpa using reaches),
          String.empty_append]

end Output

/-! ## Calls -/

/-- How many records a call writes. -/
def Call.size : Call → Nat
  | .success _ => 1
  | .progress _ => 1
  | .sectionStart _ => 3
  | .plain _ _ => 1

theorem length_records (logger : String) (call : Call) :
    (call.records logger).length = call.size := by
  cases call with
  | success message => rfl
  | progress message => rfl
  | sectionStart title => rfl
  | plain level message => rfl

theorem length_recordsOfCalls (calls : List (String × Call)) :
    (recordsOfCalls calls).length = (calls.map fun c => c.2.size).sum := by
  unfold recordsOfCalls
  rw [List.length_flatMap]
  exact congrArg List.sum
    (List.map_congr_left fun c _ => length_records c.1 c.2)

/-- The level of the records of a call, which only plain calls choose. -/
def Call.level : Call → Level
  | .success _ => Level.info
  | .progress _ => Level.info
  | .sectionStart _ => Level.info
  | .plain level _ => level

theorem level_of_mem_records
    {logger : String} {call : Call} {r : Record}
    (member : r ∈ call.records logger) : r.level = call.level := by
  cases call with
  | success message =>
      rw [List.mem_singleton.mp member]
      rfl
  | progress message =>
      rw [List.mem_singleton.mp member]
      rfl
  | sectionStart title =>
      have oneOfThree :
          r = .info logger sectionLine ∨
            r = .info logger ("  " ++ upperCase title) ∨
              r = .info logger sectionLine := by
        simpa only [Call.records, Log.sectionStart, List.mem_cons,
          List.not_mem_nil, or_false] using member
      rcases oneOfThree with isLine | isTitle | isLine
      · rw [isLine]
        rfl
      · rw [isTitle]
        rfl
      · rw [isLine]
        rfl
  | plain level message =>
      rw [List.mem_singleton.mp member]
      rfl

theorem level_pos_of_mem_recordsOfCalls
    {calls : List (String × Call)} (positive : ∀ c ∈ calls, 0 < c.2.level)
    {r : Record} (member : r ∈ recordsOfCalls calls) : 0 < r.level := by
  obtain ⟨c, isCall, isRecord⟩ := List.mem_flatMap.mp member
  rw [level_of_mem_records isRecord]
  exact positive c isCall

/-! ## Several setups -/

theorem setupFor_eq (isTerminal : Bool) (before : Root) (s : Setup) :
    before.setupFor isTerminal s =
      ⟨[.console s.level (s.colours && isTerminal)], s.level⟩ :=
  setup_eq before s.level (s.colours && isTerminal)

theorem setupAll_concat
    (isTerminal : Bool) (before : Root) (earlier : List Setup)
    (last : Setup) :
    before.setupAll isTerminal (earlier ++ [last]) =
      ⟨[.console last.level (last.colours && isTerminal)], last.level⟩ := by
  unfold Root.setupAll
  rw [List.foldl_concat, setupFor_eq]

/-- Of several setups the last one counts, and nothing is written twice.  The
output of the calls that follow, the number of handlers and the level of the
root are those after the last setup alone.  There is one handler, and the
output consists of one formatted text and a newline for each record at the
level of that setup or above, in the order of the calls, where a section has
three records and any other call has one. -/
theorem last_setup_counts
    (before : Root) (isTerminal : Bool) (earlier : List Setup) (last : Setup)
    (calls : List (String × Call))
    (positive : ∀ c ∈ calls, 0 < c.2.level) :
    let root := before.setupAll isTerminal (earlier ++ [last])
    let alone := before.setupFor isTerminal last
    let records := recordsOfCalls calls
    (root.writeAll records = alone.writeAll records ∧
      root.handlers.length = alone.handlers.length ∧
      root.level = alone.level) ∧
    root.handlers.length = 1 ∧ root.level = last.level ∧
    records.length = (calls.map fun c => c.2.size).sum ∧
    ∃ texts,
      List.Forall₂
        (fun r text =>
          format (last.colours && isTerminal) standardFormat (.ofRecord r) =
            .ok text)
        (records.filter fun r => last.level ≤ r.level) texts ∧
      root.writeAll records = String.join (texts.map (· ++ "\n")) := by
  intro root alone records
  have isRoot :
      root =
        ⟨[.console last.level (last.colours && isTerminal)], last.level⟩ :=
    setupAll_concat isTerminal before earlier last
  have same : root = alone :=
    isRoot.trans (setupFor_eq isTerminal before last).symm
  have oneHandler : root.handlers.length = 1 := by
    rw [isRoot]
    rfl
  have isLevel : root.level = last.level := by
    rw [isRoot]
  refine ⟨⟨by rw [same], by rw [same], by rw [same]⟩, oneHandler, isLevel,
    length_recordsOfCalls calls, ?_⟩
  refine ⟨(records.filter fun r => last.level ≤ r.level).map
    (Record.shown (last.colours && isTerminal)), ?_, ?_⟩
  · rw [List.forall₂_map_right_iff, List.forall₂_same]
    exact fun r _ => format_standardFormat _ r
  · rw [isRoot]
    exact console_writeAll fun r => level_pos_of_mem_recordsOfCalls positive

/-- A root with handlers from elsewhere, two of them alike. -/
def crowdedRoot : Root :=
  ⟨[.console Level.debug true, .silent, .console Level.debug true], 0⟩

def crowdedSetups : List Setup :=
  [{ level := Level.debug }, { level := Level.critical, colours := false }]

def crowdedCalls : List (String × Call) :=
  [("cli", .success "done"), ("types", .progress "on"),
    ("cli", .sectionStart "fuß"), ("cli", .plain Level.debug "detail"),
    ("types", .plain 15 "odd"), ("cli", .plain Level.warning "care")]

def crowdedOutput : String :=
  "\x1b[92m\x1b[1mINFO: ✓ done\x1b[0m\n" ++
    "\x1b[94mINFO: → on\x1b[0m\n" ++
    "\x1b[1m\x1b[96mINFO: " ++ sectionLine ++ "\x1b[0m\n" ++
    "INFO:   FUSS\n" ++
    "\x1b[1m\x1b[96mINFO: " ++ sectionLine ++ "\x1b[0m\n" ++
    "Level 15: odd\n" ++
    "\x1b[33mWARNING: care\x1b[0m\n"

theorem crowdedRoot_last_setup_counts :
    (∀ c ∈ crowdedCalls, 0 < c.2.level) ∧
    (crowdedRoot.setupAll true (crowdedSetups ++ [{ level := 15 }])).writeAll
        (recordsOfCalls crowdedCalls) = crowdedOutput ∧
    (crowdedRoot.setupAll true
        (crowdedSetups ++ [{ level := 15 }])).handlers.length = 1 ∧
    (crowdedRoot.setupAll true (crowdedSetups ++ [{ level := 15 }])).level =
      15 := by
  have positive : ∀ c ∈ crowdedCalls, 0 < c.2.level := by decide
  obtain ⟨⟨asAlone, _, _⟩, oneHandler, level, _, _⟩ :=
    last_setup_counts crowdedRoot true crowdedSetups { level := 15 }
      crowdedCalls positive
  have alone :
      (crowdedRoot.setupFor true { level := 15 }).writeAll
          (recordsOfCalls crowdedCalls) = crowdedOutput := by
    rw [setupFor_eq,
      console_writeAll fun r => level_pos_of_mem_recordsOfCalls positive]
    decide +kernel
  exact ⟨positive, asAlone.trans alone, oneHandler, level⟩

end Tablesmith.Log

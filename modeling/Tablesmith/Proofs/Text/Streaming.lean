import Mathlib.Data.List.Basic
import Tablesmith.Text.Stream

/-!
# Streams hand over what files hold

Reading a file chunk by chunk and handing it over piece by piece changes
nothing: together the pieces are the text that the bytes of the file hold, with
unified line ends.  Only if the bytes are no text does the stream end with a
fault.

What a reader has still to hand over is computed from its state.  Fetching a
chunk and handing over a piece keep that up to what they hand over, and both
make the work that is left smaller.
-/

namespace Tablesmith.Text

/-! ## Characters and chunks -/

/-- The bytes of a character are there when it is read. -/
theorem size_le_of_utf8Step {first : UInt8} {rest : List UInt8} {c : Char}
    {size : Nat} (isChar : utf8Step first rest = .char c size) :
    size ≤ rest.length + 1 := by
  match rest with
  | [] => grind [utf8Step]
  | [_] => grind [utf8Step]
  | [_, _] => grind [utf8Step]
  | _ :: _ :: _ :: more =>
      simp only [List.length_cons]
      grind [utf8Step]

/-- Bytes that come later change how a character is read only if it was
truncated. -/
theorem utf8Step_append (first : UInt8) (rest more : List UInt8) :
    (∃ count, utf8Step first rest = .fault .unexpectedEnd count) ∨
      utf8Step first (rest ++ more) = utf8Step first rest := by
  match rest with
  | [] => unfold utf8Step; grind
  | [_] => unfold utf8Step; grind
  | [_, _] => unfold utf8Step; grind
  | _ :: _ :: _ :: _ => exact Or.inr rfl

theorem utf8Step_append_of_char {first : UInt8} {rest : List UInt8} {c : Char}
    {size : Nat} (isChar : utf8Step first rest = .char c size)
    (more : List UInt8) :
    utf8Step first (rest ++ more) = .char c size := by
  rcases utf8Step_append first rest more with ⟨_, truncated⟩ | same
  · rw [isChar] at truncated
    cases truncated
  · rw [same, isChar]

theorem isHeldBack_of_unexpectedEnd {first : UInt8} {rest : List UInt8}
    {count : Nat}
    (truncated : utf8Step first rest = .fault .unexpectedEnd count) :
    isHeldBack first rest = true := by
  unfold isHeldBack
  rw [truncated]

theorem utf8Decode_of_char {first : UInt8} {rest : List UInt8} {c : Char}
    {size : Nat} (isChar : utf8Step first rest = .char c size)
    (isLast : Bool) (position : Nat) :
    utf8Decode isLast position 0 (first :: rest) =
      (utf8Decode isLast (position + 1) (size - 1) rest).map
        fun done => (c :: done.1, done.2) := by
  rw [utf8Decode, isChar]

theorem utf8Decode_of_fault {first : UInt8} {rest : List UInt8}
    {reason : Utf8Reason} {count : Nat}
    (isFault : utf8Step first rest = .fault reason count)
    (isLast : Bool) (position : Nat) :
    utf8Decode isLast position 0 (first :: rest) =
      if !isLast && isHeldBack first rest then .ok ([], first :: rest)
      else .error ⟨reason, first, position, count⟩ := by
  rw [utf8Decode, isFault]

/-- The characters that bytes hold after a number of bytes that belong to a
character before, if all of them can be decoded. -/
def decoded? (skip : Nat) : List UInt8 → Option (List Char)
  | [] => some []
  | first :: rest =>
    match skip with
    | skip + 1 => decoded? skip rest
    | 0 =>
      match utf8Step first rest with
      | .char c size => (decoded? (size - 1) rest).map (c :: ·)
      | .fault _ _ => none

theorem decoded?_of_char {first : UInt8} {rest : List UInt8} {c : Char}
    {size : Nat} (isChar : utf8Step first rest = .char c size) :
    decoded? 0 (first :: rest) = (decoded? (size - 1) rest).map (c :: ·) := by
  rw [decoded?, isChar]

theorem decoded?_of_fault {first : UInt8} {rest : List UInt8}
    {reason : Utf8Reason} {count : Nat}
    (isFault : utf8Step first rest = .fault reason count) :
    decoded? 0 (first :: rest) = none := by
  rw [decoded?, isFault]

/-- The last chunk is decoded as a whole, and nothing of it is held back. -/
theorem utf8Decode_last (position skip : Nat) (bytes : List UInt8) :
    (utf8Decode true position skip bytes).toOption =
      (decoded? skip bytes).map fun cs => (cs, []) := by
  induction bytes generalizing position skip with
  | nil => rfl
  | cons first rest inductionHypothesis =>
      cases skip with
      | succ skip => exact inductionHypothesis _ _
      | zero =>
          cases isStep : utf8Step first rest with
          | fault reason count =>
              rw [utf8Decode_of_fault isStep, decoded?_of_fault isStep]
              rfl
          | char c size =>
              rw [utf8Decode_of_char isStep, decoded?_of_char isStep,
                Option.map_map]
              have later := inductionHypothesis (position + 1) (size - 1)
              cases result : utf8Decode true (position + 1) (size - 1) rest with
              | error fault =>
                  rw [result] at later
                  rw [Option.map_eq_none_iff.mp later.symm]
                  rfl
              | ok done =>
                  rw [result] at later
                  obtain ⟨cs, there, rfl⟩ := Option.map_eq_some_iff.mp later.symm
                  rw [there]
                  rfl

theorem held_eq_nil_of_last {position skip : Nat} {bytes held : List UInt8}
    {cs : List Char}
    (decodes : utf8Decode true position skip bytes = .ok (cs, held)) :
    held = [] := by
  have last := utf8Decode_last position skip bytes
  rw [decodes] at last
  obtain ⟨_, _, same⟩ := Option.map_eq_some_iff.mp last.symm
  exact (Prod.mk.inj same).2.symm

/-- What is read of a chunk and what is held back of it: decoding goes on from
there. -/
theorem decoded?_append_of_ok {isLast : Bool} {position skip : Nat}
    {chunk held : List UInt8} {cs : List Char}
    (decodes : utf8Decode isLast position skip chunk = .ok (cs, held))
    (within : skip ≤ chunk.length) (more : List UInt8) :
    decoded? skip (chunk ++ more) =
        (decoded? 0 (held ++ more)).map (cs ++ ·) ∧
      cs.length + held.length ≤ chunk.length := by
  induction chunk generalizing position skip cs with
  | nil =>
      cases decodes
      obtain rfl : skip = 0 := Nat.le_zero.mp within
      simp
  | cons first rest inductionHypothesis =>
      cases skip with
      | succ skip =>
          have later :=
            inductionHypothesis decodes (Nat.le_of_succ_le_succ within)
          exact ⟨later.1, Nat.le_succ_of_le later.2⟩
      | zero =>
          cases isStep : utf8Step first rest with
          | char c size =>
              have enough : size - 1 ≤ rest.length :=
                Nat.sub_le_of_le_add (size_le_of_utf8Step isStep)
              have sameStep := utf8Step_append_of_char isStep more
              rw [utf8Decode_of_char isStep] at decodes
              cases result :
                  utf8Decode isLast (position + 1) (size - 1) rest with
              | error fault =>
                  rw [result] at decodes
                  cases decodes
              | ok done =>
                  rw [result] at decodes
                  cases decodes
                  obtain ⟨same, fewer⟩ := inductionHypothesis result enough
                  refine ⟨?_, ?_⟩
                  · rw [List.cons_append, decoded?_of_char sameStep, same,
                      Option.map_map]
                    rfl
                  · simp only [List.length_cons]
                    omega
          | fault reason count =>
              rw [utf8Decode_of_fault isStep] at decodes
              split at decodes
              · cases decodes
                simp
              · cases decodes

/-- A chunk that cannot be decoded cannot be decoded with more bytes either. -/
theorem decoded?_append_of_error {position skip : Nat} {chunk : List UInt8}
    {fault : Utf8Fault}
    (failed : utf8Decode false position skip chunk = .error fault)
    (within : skip ≤ chunk.length) (more : List UInt8) :
    decoded? skip (chunk ++ more) = none := by
  induction chunk generalizing position skip fault with
  | nil => cases failed
  | cons first rest inductionHypothesis =>
      cases skip with
      | succ skip =>
          exact inductionHypothesis failed (Nat.le_of_succ_le_succ within)
      | zero =>
          cases isStep : utf8Step first rest with
          | char c size =>
              have enough : size - 1 ≤ rest.length :=
                Nat.sub_le_of_le_add (size_le_of_utf8Step isStep)
              rw [List.cons_append,
                decoded?_of_char (utf8Step_append_of_char isStep more)]
              rw [utf8Decode_of_char isStep] at failed
              cases result :
                  utf8Decode false (position + 1) (size - 1) rest with
              | error other =>
                  rw [inductionHypothesis result enough]
                  rfl
              | ok done =>
                  rw [result] at failed
                  cases failed
          | fault reason count =>
              rw [utf8Decode_of_fault isStep] at failed
              split at failed
              next => cases failed
              next notHeld =>
                rcases utf8Step_append first rest more with ⟨_, cut⟩ | same
                · exact absurd (isHeldBack_of_unexpectedEnd cut) notHeld
                · exact decoded?_of_fault (same.trans isStep)

/-! ## Line ends -/

/-- Line ends can be unified part by part if no line end lies across. -/
theorem unifyLineEnds_append {earlier later : List Char}
    (apart : earlier.getLast? = some '\r' → later.head? ≠ some '\n') :
    unifyLineEnds (earlier ++ later) =
      unifyLineEnds earlier ++ unifyLineEnds later := by
  fun_induction unifyLineEnds earlier with
  | case1 => rfl
  | case2 rest inductionHypothesis =>
      have restApart : rest.getLast? = some '\r' → later.head? ≠ some '\n' := by
        intro endsSo
        apply apart
        rw [List.getLast?_cons, List.getLast?_cons, endsSo]
        rfl
      simp only [List.cons_append, unifyLineEnds,
        inductionHypothesis restApart]
  | case3 c rest notPair inductionHypothesis =>
      have restApart : rest.getLast? = some '\r' → later.head? ≠ some '\n' := by
        intro endsSo
        apply apart
        rw [List.getLast?_cons, endsSo]
        rfl
      have stillNoPair :
          ∀ more, c = '\r' → rest ++ later ≠ '\n' :: more := by
        intro more isReturn same
        cases rest with
        | nil =>
            subst isReturn
            exact apart rfl (by rw [List.nil_append] at same; rw [same]; rfl)
        | cons d others =>
            cases same
            exact notPair others isReturn rfl
      rw [List.cons_append, unifyLineEnds]
      · rw [inductionHypothesis restApart]
        rfl
      · exact stillNoPair

theorem length_unifyLineEnds_le (cs : List Char) :
    (unifyLineEnds cs).length ≤ cs.length := by
  fun_induction unifyLineEnds cs with
  | case1 => exact Nat.le_refl 0
  | case2 rest inductionHypothesis =>
      simp only [List.length_cons]
      omega
  | case3 c rest notPair inductionHypothesis =>
      simp only [List.length_cons]
      omega

/-! ## Reading a chunk -/

namespace TextReader

/-- The characters that are still to be handed over, if all the bytes can be
decoded. -/
def remaining? (r : TextReader) : Option (List Char) :=
  (decoded? 0 (r.held ++ r.bytes)).map fun cs =>
    r.ready ++ unifyLineEnds (waiting r.hasReturn ++ cs)

/-- How much work is left at most: bytes are fetched, then decoded and handed
over, and what waits has still to be looked at again. -/
def work (r : TextReader) : Nat :=
  3 * r.bytes.length + 2 * r.held.length +
    2 * (waiting r.hasReturn).length + r.ready.length

/-- A carriage return is put off or not, but nothing is lost. -/
theorem splitReturn_append (isLast : Bool) (cs : List Char) :
    (splitReturn isLast cs).1 ++ waiting (splitReturn isLast cs).2 = cs := by
  unfold splitReturn waiting
  split
  next putOff =>
    rw [Bool.and_eq_true, decide_eq_true_eq] at putOff
    exact List.dropLast_append_getLast? '\r' putOff.2
  next => exact List.append_nil cs

/-- Line ends are unified up to where a chunk ends. -/
theorem unifyLineEnds_split {isLast : Bool} {cs later : List Char}
    (nothingLater : isLast = true → later = []) :
    unifyLineEnds (cs ++ later) =
      unifyLineEnds (splitReturn isLast cs).1 ++
        unifyLineEnds (waiting (splitReturn isLast cs).2 ++ later) := by
  conv_lhs => rw [← splitReturn_append isLast cs, List.append_assoc]
  apply unifyLineEnds_append
  unfold splitReturn waiting
  split
  next => simp
  next notPutOff =>
    intro endsSo
    cases isLast with
    | true => simp [nothingLater rfl]
    | false => exact absurd (by simpa using endsSo) notPutOff

theorem decode_eq_ok_iff {r next : TextReader} {chunk : List UInt8} :
    r.decode chunk = .ok next ↔
      ∃ cs held,
        utf8Decode chunk.isEmpty 0 0 (r.held ++ chunk) = .ok (cs, held) ∧
          next = r.afterChunk chunk cs held := by
  unfold decode
  cases utf8Decode chunk.isEmpty 0 0 (r.held ++ chunk) with
  | error fault => simp [Except.map]
  | ok done =>
      obtain ⟨cs, held⟩ := done
      simp [Except.map, eq_comm]

theorem bytes_afterChunk {r : TextReader} {chunk later : List UInt8}
    (bytes : r.bytes = chunk ++ later) (cs : List Char) (held : List UInt8) :
    (r.afterChunk chunk cs held).bytes = later := by
  change r.bytes.drop chunk.length = later
  rw [bytes, List.drop_left]

section Chunks

variable {r next : TextReader} {chunk later : List UInt8}

/-- A chunk that cannot be decoded is in bytes that are no text. -/
theorem remaining?_of_decode_error {fault : Utf8Fault}
    (bytes : r.bytes = chunk ++ later) (atEnd : chunk = [] → later = [])
    (failed : r.decode chunk = .error fault) :
    r.remaining? = none := by
  have notDecoded : decoded? 0 ((r.held ++ chunk) ++ later) = none := by
    unfold decode at failed
    cases result : utf8Decode chunk.isEmpty 0 0 (r.held ++ chunk) with
    | ok done =>
        rw [result] at failed
        cases failed
    | error found =>
        cases chunk with
        | nil =>
            have last := utf8Decode_last 0 0 (r.held ++ [])
            rw [show utf8Decode true 0 0 (r.held ++ []) = _ from result] at last
            rw [atEnd rfl, List.append_nil]
            exact Option.map_eq_none_iff.mp last.symm
        | cons first rest =>
            exact decoded?_append_of_error result (Nat.zero_le _) later
  unfold remaining?
  rw [bytes, ← List.append_assoc, notDecoded]
  rfl

/-- After a chunk there is still to be handed over what there was before, apart
from the characters that were ready. -/
theorem remaining?_of_decode_ok
    (bytes : r.bytes = chunk ++ later) (atEnd : chunk = [] → later = [])
    (decodes : r.decode chunk = .ok next) :
    r.remaining? = next.remaining?.map (r.ready ++ ·) := by
  obtain ⟨cs, held, result, rfl⟩ := decode_eq_ok_iff.mp decodes
  obtain ⟨same, _⟩ := decoded?_append_of_ok result (Nat.zero_le _) later
  unfold remaining?
  rw [bytes_afterChunk bytes, bytes, ← List.append_assoc, same, Option.map_map,
    Option.map_map]
  change
    (decoded? 0 (held ++ later)).map _ = (decoded? 0 (held ++ later)).map _
  cases there : decoded? 0 (held ++ later) with
  | none => rfl
  | some more =>
      have nothingLater : chunk.isEmpty = true → more = [] := by
        intro isEmpty
        rw [isEmpty] at result
        rw [held_eq_nil_of_last result,
          atEnd (List.isEmpty_iff.mp isEmpty)] at there
        cases there
        rfl
      have split :=
        @unifyLineEnds_split chunk.isEmpty (waiting r.hasReturn ++ cs) more
          nothingLater
      rw [List.append_assoc] at split
      exact congrArg (fun shown => some (r.ready ++ shown)) split

/-- Decoding a chunk makes the work smaller, unless there is nothing left to
hand over. -/
theorem work_lt_of_decode_ok
    (bytes : r.bytes = chunk ++ later)
    (decodes : r.decode chunk = .ok next)
    (goesOn : chunk ≠ [] ∨ next.ready ≠ []) :
    next.work < r.work := by
  obtain ⟨cs, held, result, rfl⟩ := decode_eq_ok_iff.mp decodes
  obtain ⟨_, fewer⟩ := decoded?_append_of_ok result (Nat.zero_le _) later
  let split := splitReturn chunk.isEmpty (waiting r.hasReturn ++ cs)
  have kept :
      split.1.length + (waiting split.2).length =
        (waiting r.hasReturn).length + cs.length := by
    rw [← List.length_append, splitReturn_append, List.length_append]
  have ready : (unifyLineEnds split.1).length ≤ split.1.length :=
    length_unifyLineEnds_le _
  have oneAtMost : (waiting split.2).length ≤ 1 := by
    unfold waiting
    split <;> simp
  unfold work
  rw [bytes_afterChunk bytes, bytes]
  change
    3 * later.length + 2 * held.length + 2 * (waiting split.2).length +
      (unifyLineEnds split.1).length < _
  rw [List.length_append] at fewer ⊢
  cases chunk with
  | cons first rest =>
      simp only [List.length_cons] at fewer ⊢
      omega
  | nil =>
      have noneHeld : held = [] := held_eq_nil_of_last result
      have noReturn : (waiting split.2).length = 0 := rfl
      have someReady : 0 < (unifyLineEnds split.1).length := by
        rcases goesOn with impossible | some
        · exact absurd rfl impossible
        · exact List.length_pos_iff.mpr some
      subst noneHeld
      simp only [List.length_nil] at fewer ⊢
      omega

/-- After the last chunk only what is ready is still to be handed over. -/
theorem remaining?_of_last (bytes : r.bytes = [])
    (decodes : r.decode [] = .ok next) :
    next.remaining? = some next.ready := by
  obtain ⟨cs, held, result, rfl⟩ := decode_eq_ok_iff.mp decodes
  obtain rfl : held = [] := held_eq_nil_of_last result
  have noBytes : (r.afterChunk [] cs []).bytes = [] :=
    bytes_afterChunk (by rw [bytes, List.nil_append]) cs []
  unfold remaining?
  rw [noBytes]
  exact congrArg some (List.append_nil _)

end Chunks

end TextReader

/-! ## Handing over pieces -/

/-- A stream hands over characters in its pieces, or it ends with a fault if
there are none to be handed over. -/
def Stream.HandsOver (s : Stream) : Option (List Char) → Prop
  | some cs => s.fault = none ∧ s.pieces.flatten = cs
  | none => s.fault ≠ none

theorem Stream.HandsOver.cons {s : Stream} {cs? : Option (List Char)}
    (later : s.HandsOver cs?) (piece : List Char) :
    { s with pieces := piece :: s.pieces }.HandsOver
      (cs?.map (piece ++ ·)) := by
  cases cs? with
  | none => exact later
  | some cs => exact ⟨later.1, congrArg (piece ++ ·) later.2⟩

namespace TextReader

/-- Handing over characters that are ready leaves the others. -/
theorem remaining?_take (r : TextReader) (count : Nat) :
    r.remaining? =
      ({ r with ready := r.ready.drop count }.remaining?).map
        (r.ready.take count ++ ·) := by
  unfold remaining?
  rw [Option.map_map]
  congr 1
  funext cs
  change _ = _ ++ (_ ++ _)
  rw [← List.append_assoc, List.take_append_drop]

/-- A chunk is empty only at the end of the file. -/
theorem bytes_eq_nil_of_take {r : TextReader} {wanted : Nat}
    (isEmpty : r.bytes.take (r.bytesFor wanted) = []) :
    r.bytes = [] := by
  have atLeast : chunkSize ≤ r.bytesFor wanted := Nat.le_max_left _ _
  rcases List.take_eq_nil_iff.mp isEmpty with none | nothing
  · rw [none] at atLeast
    cases atLeast
  · exact nothing

/-- Fetching a chunk fails, ends the file, or makes the work smaller; what
remains is kept. -/
theorem fetch_cases (r : TextReader) (wanted : Nat) :
    match r.fetch wanted with
    | .error _ => r.remaining? = none
    | .ok next =>
      r.remaining? = next.remaining?.map (r.ready ++ ·) ∧
        if r.bytes.isEmpty && next.ready.isEmpty then
          next.remaining? = some []
        else
          next.work < r.work := by
  let chunk := r.bytes.take (r.bytesFor wanted)
  let later := r.bytes.drop (r.bytesFor wanted)
  have bytes : r.bytes = chunk ++ later := (List.take_append_drop _ _).symm
  have atEnd : chunk = [] → later = [] := by
    intro isEmpty
    change r.bytes.drop _ = []
    rw [bytes_eq_nil_of_take isEmpty, List.drop_nil]
  change
    match r.decode chunk with
    | .error _ => r.remaining? = none
    | .ok next => _
  cases decodes : r.decode chunk with
  | error fault => exact remaining?_of_decode_error bytes atEnd decodes
  | ok next =>
      refine ⟨remaining?_of_decode_ok bytes atEnd decodes, ?_⟩
      split
      next isDone =>
        simp only [Bool.and_eq_true, List.isEmpty_iff] at isDone
        have noChunk : chunk = [] := by
          change r.bytes.take _ = []
          rw [isDone.1, List.take_nil]
        rw [noChunk] at decodes
        rw [remaining?_of_last isDone.1 decodes, isDone.2]
      next goesOn =>
        refine work_lt_of_decode_ok bytes decodes ?_
        by_contra neither
        rw [not_or, not_not, not_not] at neither
        apply goesOn
        rw [bytes_eq_nil_of_take neither.1, neither.2]
        rfl

/-- A reader hands over what a piece was begun with and then all that remains,
if its budget is enough for its work. -/
theorem handsOver_stream (budget : Nat) {r : TextReader} {begun : List Char}
    (short : begun.length < pieceSize) (enough : r.work < budget) :
    (r.stream begun budget).HandsOver (r.remaining?.map (begun ++ ·)) := by
  induction budget generalizing r begun with
  | zero => cases enough
  | succ budget inductionHypothesis =>
      unfold stream
      dsimp only
      split
      next there =>
        -- A piece is complete; at least one character of it was ready.
        let after := { r with ready := r.ready.drop (pieceSize - begun.length) }
        have fewer : after.work < budget := by
          unfold work at enough ⊢
          simp only [after, List.length_drop]
          omega
        have later : (after.stream [] budget).HandsOver
            (after.remaining?.map ([] ++ ·)) :=
          inductionHypothesis (by decide) fewer
        have handedOver :=
          later.cons (begun ++ r.ready.take (pieceSize - begun.length))
        rw [Option.map_map] at handedOver
        rw [r.remaining?_take (pieceSize - begun.length), Option.map_map]
        simpa only [Function.comp_def, List.nil_append, List.append_assoc]
          using handedOver
      next notThere =>
        -- The characters that are ready do not complete the piece.
        have fetched := r.fetch_cases
          (pieceSize - (begun ++ r.ready).length)
        cases result : r.fetch (pieceSize - (begun ++ r.ready).length) with
        | error fault =>
            rw [result] at fetched
            rw [fetched]
            exact nofun
        | ok next =>
            rw [result] at fetched
            obtain ⟨same, goesOn⟩ := fetched
            rw [same, Option.map_map]
            dsimp only
            split at goesOn
            next isDone =>
              rw [if_pos isDone, goesOn]
              refine ⟨rfl, ?_⟩
              rw [Function.comp_apply, List.append_nil]
              split
              next isEmpty => exact (List.isEmpty_iff.mp isEmpty).symm
              next => exact List.flatten_singleton
            next notDone =>
              rw [if_neg notDone]
              have short : (begun ++ r.ready).length < pieceSize := by
                rw [List.length_append]
                omega
              have later := inductionHypothesis short
                (show next.work < budget by omega)
              simpa only [Function.comp_def, List.append_assoc] using later

end TextReader

/-- The characters that bytes hold are those that decoding them in one chunk
gives. -/
theorem toOption_utf8Chars (bytes : List UInt8) :
    (utf8Chars bytes).toOption = decoded? 0 bytes := by
  have last := utf8Decode_last 0 0 bytes
  unfold utf8Chars
  cases result : utf8Decode true 0 0 bytes with
  | error fault =>
      rw [result] at last
      exact (Option.map_eq_none_iff.mp last.symm).symm
  | ok done =>
      rw [result] at last
      obtain ⟨cs, there, rfl⟩ := Option.map_eq_some_iff.mp last.symm
      exact there.symm

/-- The stream of a file hands over the text that its bytes hold, with unified
line ends, and it ends with a fault exactly if they hold none. -/
theorem handsOver_streamOf (bytes : List UInt8) :
    (streamOf bytes).HandsOver
      ((utf8Chars bytes).toOption.map unifyLineEnds) := by
  have enough : (TextReader.start bytes).work < 3 * bytes.length + 1 :=
    Nat.lt_succ_self _
  have remaining :
      (TextReader.start bytes).remaining? =
        (decoded? 0 bytes).map unifyLineEnds :=
    rfl
  have short : ([] : List Char).length < pieceSize := by decide
  have handedOver := TextReader.handsOver_stream _ short enough
  rw [remaining, Option.map_map] at handedOver
  rw [toOption_utf8Chars]
  exact handedOver

end Tablesmith.Text

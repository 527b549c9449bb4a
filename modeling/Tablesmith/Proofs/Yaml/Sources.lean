import Tablesmith.Proofs.Text.Streaming
import Tablesmith.Yaml.Source

/-!
# What comes of a file

If the bytes of a file are a text and all its characters may stand there, the
text comes as a whole, however the file is read.  Otherwise it breaks off, with
one of two faults.
-/

namespace Tablesmith.Yaml

open Tablesmith.Text

namespace Source

/-! ## Pieces -/

theorem ofPieces_of_allowed {pieces : List (List Char)}
    (allowed : pieces.flatten.all isTextChar = true) (fault : Option Fault) :
    ofPieces fault pieces = ⟨pieces.flatten, fault⟩ := by
  induction pieces with
  | nil => rfl
  | cons piece later inductionHypothesis =>
      rw [List.flatten_cons, List.all_append, Bool.and_eq_true] at allowed
      rw [ofPieces, if_pos allowed.1, inductionHypothesis allowed.2,
        List.flatten_cons]

theorem fault_ofPieces_of_not_allowed {pieces : List (List Char)}
    (notAllowed : pieces.flatten.all isTextChar = false)
    (fault : Option Fault) :
    (ofPieces fault pieces).fault = some .malformed := by
  induction pieces with
  | nil => cases notAllowed
  | cons piece later inductionHypothesis =>
      unfold ofPieces
      split
      next fine =>
        rw [List.flatten_cons, List.all_append, fine, Bool.true_and]
          at notAllowed
        exact inductionHypothesis notAllowed
      next => rfl

/-! ## Streams -/

/-- A stream without a fault comes as its pieces do. -/
theorem exists_pieces {stream : Stream} (complete : stream.fault = none) :
    ∃ pieces, pieces.flatten = stream.pieces.flatten ∧
      ofStream stream = ofPieces none pieces := by
  obtain ⟨pieces, fault⟩ := stream
  obtain rfl : fault = none := complete
  match pieces with
  | [] => exact ⟨[], rfl, rfl⟩
  | [piece] => exact ⟨[piece], rfl, rfl⟩
  | first :: second :: later =>
      refine ⟨(first ++ second) :: later, ?_, rfl⟩
      simp only [List.flatten_cons, List.append_assoc]

/-! ## Files -/

section Files

variable {bytes : List UInt8}

/-- The stream of bytes that are a text has no fault, and its pieces are that
text. -/
theorem streamOf_of_text {text : String} (isText : ofUtf8 bytes = .ok text) :
    (streamOf bytes).fault = none ∧
      (streamOf bytes).pieces.flatten = unifyLineEnds text.toList := by
  have handedOver := handsOver_streamOf bytes
  unfold ofUtf8 at isText
  cases decodes : utf8Chars bytes with
  | error fault =>
      rw [decodes] at isText
      cases isText
  | ok cs =>
      rw [decodes] at isText handedOver
      cases isText
      rw [String.toList_ofList]
      exact handedOver

/-- A text comes as a whole, whatever the places where its file is cut. -/
theorem ofBytes_of_text {text : String} (isText : ofUtf8 bytes = .ok text)
    (allowed : (unifyLineEnds text.toList).all isTextChar = true) :
    ofBytes bytes = ⟨unifyLineEnds text.toList, none⟩ := by
  obtain ⟨complete, whole⟩ := streamOf_of_text isText
  obtain ⟨pieces, same, comes⟩ := exists_pieces complete
  rw [← whole, ← same] at allowed ⊢
  rw [ofBytes, comes, ofPieces_of_allowed allowed]

/-- A text with a character that may not stand there breaks off as
malformed. -/
theorem fault_ofBytes_of_not_allowed {text : String}
    (isText : ofUtf8 bytes = .ok text)
    (notAllowed : (unifyLineEnds text.toList).all isTextChar = false) :
    (ofBytes bytes).fault = some .malformed := by
  obtain ⟨complete, whole⟩ := streamOf_of_text isText
  obtain ⟨pieces, same, comes⟩ := exists_pieces complete
  rw [← whole, ← same] at notAllowed
  rw [ofBytes, comes, fault_ofPieces_of_not_allowed notAllowed]

end Files

end Source

end Tablesmith.Yaml

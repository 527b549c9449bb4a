import Tablesmith.Number.Binary64
import Tablesmith.Text.Utf8

/-!
# Text files as streams

A text file is handed over in pieces of a fixed number of characters.  Its
bytes are read in chunks, whose size depends on how many bytes the characters
took so far; they are decoded chunk by chunk, and line ends are unified.  When
a chunk cannot be decoded, the piece that was asked for does not come, and
what was decoded for it before is lost.
-/

namespace Tablesmith.Text

open Tablesmith.Number

/-- The number of characters in a piece. -/
def pieceSize : Nat := 4096

/-- The least number of bytes that are asked for at once. -/
def chunkSize : Nat := 8192

/-- How far a text file has been read: the bytes to come, those of a character
that is not complete, whether a carriage return waits for what follows it, the
characters that were decoded and not handed over, and the number of bytes for
each character of the last chunk. -/
structure TextReader where
  bytes : List UInt8
  held : List UInt8
  hasReturn : Bool
  ready : List Char
  density : Binary64

namespace TextReader

def start (bytes : List UInt8) : TextReader where
  bytes
  held := []
  hasReturn := false
  ready := []
  density := .ofRatio false 0 1

/-- The number of bytes that some characters take, if they are as dense as
those of the last chunk.  Every character counts as one byte at least. -/
def estimate (r : TextReader) (wanted : Nat) : Nat :=
  let (bytes, characters) := r.density.magnitude
  if bytes ≤ characters then
    wanted
  else
    let (n, d) := (r.density.times (.ofRatio false wanted 1)).magnitude
    n / d

/-- The number of bytes to ask for when some characters are wanted. -/
def bytesFor (r : TextReader) (wanted : Nat) : Nat :=
  max chunkSize (r.estimate wanted)

/-- The carriage return that waits for what follows it, if there is one. -/
def waiting (hasReturn : Bool) : List Char :=
  if hasReturn then ['\r'] else []

/-- Characters without a carriage return at their end, and whether there was
one.  At the end of the file it stays. -/
def splitReturn (isLast : Bool) (cs : List Char) : List Char × Bool :=
  if !isLast && cs.getLast? = some '\r' then (cs.dropLast, true)
  else (cs, false)

/-- The reader after a chunk, with the characters that were decoded and the
bytes that are held back.  An empty chunk is the end of the file. -/
def afterChunk (r : TextReader) (chunk : List UInt8) (cs : List Char)
    (held : List UInt8) : TextReader :=
  let (kept, hasReturn) :=
    splitReturn chunk.isEmpty (waiting r.hasReturn ++ cs)
  let ready := unifyLineEnds kept
  { bytes := r.bytes.drop chunk.length
    held
    hasReturn
    ready
    density :=
      if ready.isEmpty then .ofRatio false 0 1
      else .ofRatio false chunk.length ready.length }

/-- Decode a chunk after the bytes that are held back. -/
def decode (r : TextReader) (chunk : List UInt8) :
    Except Utf8Fault TextReader :=
  (utf8Decode chunk.isEmpty 0 0 (r.held ++ chunk)).map fun (cs, held) =>
    r.afterChunk chunk cs held

/-- Read and decode one chunk, when some characters are wanted and none are
ready. -/
def fetch (r : TextReader) (wanted : Nat) : Except Utf8Fault TextReader :=
  r.decode (r.bytes.take (r.bytesFor wanted))

end TextReader

/-- A text in pieces, and the fault in place of the next one, if there is
one. -/
structure Stream where
  pieces : List (List Char)
  fault : Option Utf8Fault
  deriving DecidableEq, Repr

/-- Read on, within a budget of steps, when a piece has been begun. -/
def TextReader.stream (r : TextReader) (begun : List Char) : Nat → Stream
  | 0 => ⟨[], none⟩
  | budget + 1 =>
    let wanted := pieceSize - begun.length
    if wanted ≤ r.ready.length then
      let later := { r with ready := r.ready.drop wanted }.stream [] budget
      { later with pieces := (begun ++ r.ready.take wanted) :: later.pieces }
    else
      let piece := begun ++ r.ready
      match r.fetch (pieceSize - piece.length) with
      | .error fault => ⟨[], some fault⟩
      | .ok next =>
        if r.bytes.isEmpty && next.ready.isEmpty then
          ⟨if piece.isEmpty then [] else [piece], none⟩
        else
          next.stream piece budget

/-- The pieces of a file with the given bytes.  Every step hands a piece over,
decodes bytes or ends the file. -/
def streamOf (bytes : List UInt8) : Stream :=
  (TextReader.start bytes).stream [] (3 * bytes.length + 1)

end Tablesmith.Text

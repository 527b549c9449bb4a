import Tablesmith.Text.Stream
import Tablesmith.Yaml.Fault

/-!
# Sources

A YAML text is read from a stream, piece by piece and only as far as it is
asked for.  A piece with a character that may not stand in a text does not
come, and neither does one that cannot be decoded, so a text can break off
with a fault.  That fault counts only if what comes before it does not end the
reading.
-/

namespace Tablesmith.Yaml

/-- Whether a character may stand in a text. -/
def isTextChar (c : Char) : Bool :=
  let code := c.toNat
  code = 0x09 || code = 0x0a || code = 0x0d || (0x20 ≤ code && code ≤ 0x7e) ||
    code = 0x85 || (0xa0 ≤ code && code ≤ 0xfffd) || 0x10000 ≤ code

/-- A text as far as it comes, and the fault in place of what would follow, if
it breaks off. -/
structure Source where
  text : List Char
  fault : Option Fault
  deriving Repr

namespace Source

/-- What comes of pieces with a fault after them. -/
def ofPieces (fault : Option Fault) : List (List Char) → Source
  | [] => ⟨[], fault⟩
  | piece :: later =>
    if piece.all isTextChar then
      let rest := ofPieces fault later
      { rest with text := piece ++ rest.text }
    else
      ⟨[], some .malformed⟩

/-- What comes of a stream.  Its first two pieces are asked for together. -/
def ofStream (stream : Text.Stream) : Source :=
  let fault := stream.fault.map Fault.undecoded
  match stream.pieces, fault with
  | first :: second :: later, _ => ofPieces fault ((first ++ second) :: later)
  | _, some _ => ⟨[], fault⟩
  | pieces, none => ofPieces none pieces

/-- What comes of a file with the given bytes. -/
def ofBytes (bytes : List UInt8) : Source :=
  ofStream (Text.streamOf bytes)

end Source

end Tablesmith.Yaml

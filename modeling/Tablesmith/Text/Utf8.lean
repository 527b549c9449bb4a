import Tablesmith.Text.Quoted

/-!
# Reading UTF-8

Bytes are read as UTF-8.  The first place where they are not UTF-8 is a fault
with a reason and the bytes it concerns.  Bytes may come in several chunks: a
character that is cut off by the end of a chunk is held back, to be read with
the bytes of the next one.
-/

namespace Tablesmith.Text

/-- Why bytes are not UTF-8. -/
inductive Utf8Reason where
  | invalidStart
  | invalidContinuation
  | unexpectedEnd
  deriving DecidableEq, Repr

/-- A place where bytes are not UTF-8: the first byte concerned, its position
and the number of bytes concerned. -/
structure Utf8Fault where
  reason : Utf8Reason
  byte : UInt8
  position : Nat
  count : Nat
  deriving DecidableEq, Repr

def Utf8Reason.words : Utf8Reason → String
  | .invalidStart => "invalid start byte"
  | .invalidContinuation => "invalid continuation byte"
  | .unexpectedEnd => "unexpected end of data"

def Utf8Fault.message (fault : Utf8Fault) : String :=
  let place :=
    if fault.count = 1 then
      "byte 0x" ++ String.ofList (hexDigits 2 fault.byte.toNat) ++
        " in position " ++ toString fault.position
    else
      "bytes in position " ++ toString fault.position ++ "-" ++
        toString (fault.position + fault.count - 1)
  "'utf-8' codec can't decode " ++ place ++ ": " ++ fault.reason.words

/-- What the bytes at one place hold: a character and the number of its
bytes, or a reason and the number of bytes concerned. -/
inductive Utf8Step where
  | char (c : Char) (size : Nat)
  | fault (reason : Utf8Reason) (count : Nat)
  deriving DecidableEq, Repr

/-- Whether a byte continues a character. -/
def isContinuation (b : UInt8) : Bool :=
  0x80 ≤ b && b ≤ 0xbf

/-- The six bits that a continuation byte carries. -/
def continuationBits (b : UInt8) : Nat :=
  b.toNat - 0x80

/-- Whether a byte may come second after the given first byte of three or
four.  Shorter spellings, surrogates and numbers past the last code point are
ruled out here. -/
def isSecondByte (first second : UInt8) : Bool :=
  if first = 0xe0 then 0xa0 ≤ second && second ≤ 0xbf
  else if first = 0xed then 0x80 ≤ second && second ≤ 0x9f
  else if first = 0xf0 then 0x90 ≤ second && second ≤ 0xbf
  else if first = 0xf4 then 0x80 ≤ second && second ≤ 0x8f
  else isContinuation second

/-- Read the character that starts with the byte `first`. -/
def utf8Step (first : UInt8) (rest : List UInt8) : Utf8Step :=
  if first < 0x80 then
    .char (Char.ofNat first.toNat) 1
  else if first < 0xc2 then
    .fault .invalidStart 1
  else if first < 0xe0 then
    match rest with
    | [] => .fault .unexpectedEnd 1
    | b :: _ =>
      if isContinuation b then
        .char (Char.ofNat ((first.toNat - 0xc0) * 64 + continuationBits b)) 2
      else
        .fault .invalidContinuation 1
  else if first < 0xf0 then
    match rest with
    | [] => .fault .unexpectedEnd 1
    | b :: more =>
      if !isSecondByte first b then
        .fault .invalidContinuation 1
      else
        match more with
        | [] => .fault .unexpectedEnd 2
        | c :: _ =>
          if isContinuation c then
            .char (Char.ofNat ((first.toNat - 0xe0) * 4096 +
              continuationBits b * 64 + continuationBits c)) 3
          else
            .fault .invalidContinuation 2
  else if first < 0xf5 then
    match rest with
    | [] => .fault .unexpectedEnd 1
    | b :: more =>
      if !isSecondByte first b then
        .fault .invalidContinuation 1
      else
        match more with
        | [] => .fault .unexpectedEnd 2
        | c :: last =>
          if !isContinuation c then
            .fault .invalidContinuation 2
          else
            match last with
            | [] => .fault .unexpectedEnd 3
            | d :: _ =>
              if isContinuation d then
                .char (Char.ofNat ((first.toNat - 0xf0) * 262144 +
                  continuationBits b * 4096 + continuationBits c * 64 +
                  continuationBits d)) 4
              else
                .fault .invalidContinuation 3
  else
    .fault .invalidStart 1

/-- Whether the last bytes could be the start of a character that is still to
be completed: a truncated character, or the first two bytes of a surrogate. -/
def isHeldBack (first : UInt8) (rest : List UInt8) : Bool :=
  match utf8Step first rest with
  | .fault .unexpectedEnd _ => true
  | _ =>
    match rest with
    | [second] => first = 0xed && 0xa0 ≤ second && second ≤ 0xbf
    | _ => false

/-- Read a chunk of bytes from the given position on; `skip` bytes belong to a
character that has been read already.  With the characters come the bytes at
the end that are held back; of the last chunk none are. -/
def utf8Decode (isLast : Bool) (position skip : Nat) :
    List UInt8 → Except Utf8Fault (List Char × List UInt8)
  | [] => .ok ([], [])
  | first :: rest =>
    match skip with
    | skip + 1 => utf8Decode isLast (position + 1) skip rest
    | 0 =>
      match utf8Step first rest with
      | .char c size =>
        (utf8Decode isLast (position + 1) (size - 1) rest).map
          fun (cs, held) => (c :: cs, held)
      | .fault reason count =>
        if !isLast && isHeldBack first rest then .ok ([], first :: rest)
        else .error ⟨reason, first, position, count⟩

/-- The characters that bytes hold in UTF-8. -/
def utf8Chars (bytes : List UInt8) : Except Utf8Fault (List Char) :=
  (utf8Decode true 0 0 bytes).map Prod.fst

/-- The text that bytes hold in UTF-8. -/
def ofUtf8 (bytes : List UInt8) : Except Utf8Fault String :=
  (utf8Chars bytes).map String.ofList

/-- Whether bytes are UTF-8, and which text they hold. -/
def ofUtf8? (bytes : List UInt8) : Option String :=
  (ofUtf8 bytes).toOption

/-- Every line end as a newline: a carriage return, alone or before a
newline, is one line end. -/
def unifyLineEnds : List Char → List Char
  | [] => []
  | '\r' :: '\n' :: rest => '\n' :: unifyLineEnds rest
  | c :: rest => (if c = '\r' then '\n' else c) :: unifyLineEnds rest

end Tablesmith.Text

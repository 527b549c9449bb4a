import Tablesmith.Yaml.Block
import Tablesmith.Yaml.Plain
import Tablesmith.Yaml.Quoting

/-!
# The scanner

The scanner turns a text into tokens.  Two things need more than the next
characters.  Block collections begin and end where the indentation changes, so
the columns of the open ones are kept.  And a key need not be marked: whatever
could be one is pending until a colon follows on the same line, and only then
the token of the key is put in front of it.

Tokens are handed on as late as possible, since a pending key could still get
its token.  When the scanner finds a fault, the tokens that were not handed on
before are dropped.
-/

namespace Tablesmith.Yaml

/-! ## Between tokens -/

/-- Pass over spaces, comments and line ends, within a budget of lines, and
tell whether a line has ended. -/
def skipLines : Nat → Scan Bool
  | 0 => return false
  | budget + 1 => do
    Scan.skip (· = ' ')
    Scan.comment
    match ← Scan.lineBreak with
    | [] => return false
    | _ =>
      let _ ← skipLines budget
      return true

/-- Pass over what lies before a token, and tell whether a line has ended.  A
mark of the byte order may come first in a text. -/
def skipToToken : Scan Bool := do
  if (← get).index = 0 && firstIs (· = '\uFEFF') (← Scan.rest) then
    Scan.forward
  skipLines (← Scan.budget)

/-! ## The state -/

/-- A place where a key may have begun: the number of tokens before it, where
it is, and whether it has to be one. -/
structure PendingKey where
  number : Nat
  index : Nat
  line : Nat
  column : Nat
  isRequired : Bool
  deriving Repr

/-- The state of the scanner: the place in the text; the tokens so far, the
newest first; the columns of the open block collections, the innermost first;
the pending key of the innermost flow collection, or outside of all; those of
the collections around it; and whether a key may begin here. -/
structure Scanner where
  cursor : Cursor
  tokens : List Token
  columns : List Nat
  pending : Option PendingKey
  outer : List (Option PendingKey)
  allowsKey : Bool

namespace Scanner

def start (source : Source) : Scanner where
  cursor := .start source
  tokens := []
  columns := []
  pending := none
  outer := []
  allowsKey := true

/-- Whether the scanner is inside a flow collection. -/
def inFlow (s : Scanner) : Bool :=
  !s.outer.isEmpty

/-- The first column to the right of the innermost block collection. -/
def leastColumn (s : Scanner) : Nat :=
  match s.columns with
  | [] => 0
  | column :: _ => column + 1

def emit (s : Scanner) (t : Token) : Scanner :=
  { s with tokens := t :: s.tokens }

/-- Put a token in front of all but the given number of tokens. -/
def insert (s : Scanner) (number : Nat) (t : Token) : Scanner :=
  let newer := s.tokens.length - number
  { s with tokens := s.tokens.take newer ++ t :: s.tokens.drop newer }

/-! ## Pending keys -/

/-- Whether a pending key can no longer become a key: the line has ended, or
more than 1024 characters have passed. -/
def isStale (s : Scanner) (key : PendingKey) : Bool :=
  key.line ≠ s.cursor.line || 1024 < s.cursor.index - key.index

/-- A pending key, unless it is stale; one that is required must not be. -/
def refreshed (s : Scanner) : Option PendingKey → Except Fault (Option PendingKey)
  | none => .ok none
  | some key =>
    if !s.isStale key then .ok (some key)
    else if key.isRequired then .error .malformed
    else .ok none

/-- Drop the stale pending keys. -/
def dropStale (s : Scanner) : Except Fault Scanner := do
  let pending ← s.refreshed s.pending
  let outer ← s.outer.mapM s.refreshed
  return { s with pending, outer }

/-- Drop the pending key; it must not be a required one. -/
def dropPending (s : Scanner) : Except Fault Scanner :=
  match s.pending with
  | some key =>
    if key.isRequired then .error .malformed
    else .ok { s with pending := none }
  | none => .ok s

/-- Note that a key may begin here, if one is allowed.  At the column of the
innermost block collection it has to be one. -/
def notePending (s : Scanner) : Except Fault Scanner :=
  if s.allowsKey then do
    let s ← s.dropPending
    let key : PendingKey :=
      { number := s.tokens.length
        index := s.cursor.index
        line := s.cursor.line
        column := s.cursor.column
        isRequired := !s.inFlow && s.columns.head? = some s.cursor.column }
    return { s with pending := some key }
  else
    .ok s

/-- The number of tokens before the first pending key, or of all tokens. -/
def settled (s : Scanner) : Nat :=
  ((s.pending :: s.outer).filterMap fun key? => key?.map PendingKey.number)
    |>.foldl min s.tokens.length

/-! ## Indentation -/

/-- Open a block collection at a column, unless one is open there or further
right already. -/
def indent (s : Scanner) (column : Nat) : Option Scanner :=
  if s.leastColumn ≤ column then
    some { s with columns := column :: s.columns }
  else
    none

/-- Close the block collections that begin further right than a column, given
with one added; zero closes all. -/
def closeTo (s : Scanner) (leastColumn : Nat) : Scanner :=
  if s.inFlow then
    s
  else
    let closed := s.columns.takeWhile fun column => leastColumn ≤ column
    { s with
      columns := s.columns.drop closed.length
      tokens := closed.map (fun _ => Token.blockEnd) ++ s.tokens }

/-! ## Moving on -/

/-- Pass over a number of characters. -/
def forwardBy (s : Scanner) (n : Nat) : Except Fault Scanner := do
  s.cursor.need (n + 1)
  return { s with cursor := s.cursor.forwardBy n }

/-- Pass over one character. -/
def forward (s : Scanner) : Except Fault Scanner :=
  s.forwardBy 1

/-- Read a token that a scan gives. -/
def scanToken (s : Scanner) (scan : Scan Token) : Except Fault Scanner := do
  let (t, cursor) ← scan.run s.cursor
  return { s with cursor }.emit t

/-- Pass over what lies before a token.  After the end of a line a key is
allowed, except inside flow collections. -/
def skipToToken (s : Scanner) : Except Fault Scanner := do
  let (lineEnded, cursor) ← Yaml.skipToToken.run s.cursor
  return {
    s with cursor, allowsKey := s.allowsKey || (lineEnded && !s.inFlow) }

/-! ## Tokens -/

def streamEnd (s : Scanner) : Except Fault Scanner := do
  let s ← (s.closeTo 0).dropPending
  return s.emit .streamEnd

def directive (s : Scanner) : Except Fault Scanner := do
  let s ← (s.closeTo 0).dropPending
  { s with allowsKey := false }.scanToken Yaml.directive

/-- A marker between documents. -/
def separator (s : Scanner) (t : Token) : Except Fault Scanner := do
  let s ← (s.closeTo 0).dropPending
  let s ← { s with allowsKey := false }.forwardBy 3
  return s.emit t

/-- The opening bracket of a flow collection. -/
def flowStart (s : Scanner) (t : Token) : Except Fault Scanner := do
  let s ← s.notePending
  let outer := s.pending :: s.outer
  let s ← { s with pending := none, outer, allowsKey := true }.forward
  return s.emit t

/-- The closing bracket of a flow collection, which must be open. -/
def flowEnd (s : Scanner) (t : Token) : Except Fault Scanner := do
  let s ← (← s.dropPending).forward
  match s.outer with
  | [] => .error .malformed
  | pending :: outer =>
    return { s with pending, outer, allowsKey := false }.emit t

/-- A comma between the entries of a flow collection. -/
def flowEntry (s : Scanner) : Except Fault Scanner := do
  let s ← s.dropPending
  let s ← { s with allowsKey := true }.forward
  return s.emit .flowEntry

/-- Open a block collection for a mark outside of flow collections, where a
key must be allowed. -/
def openBlock (s : Scanner) (t : Token) : Except Fault Scanner :=
  if s.inFlow then .ok s
  else if !s.allowsKey then .error .malformed
  else .ok (((s.indent s.cursor.column).map (·.emit t)).getD s)

/-- The hyphen before an entry. -/
def blockEntry (s : Scanner) : Except Fault Scanner := do
  let s ← s.openBlock .blockSequenceStart
  let s ← { s with allowsKey := true }.dropPending
  return (← s.forward).emit .blockEntry

/-- The question mark before a key. -/
def key (s : Scanner) : Except Fault Scanner := do
  let s ← s.openBlock .blockMappingStart
  let s ← { s with allowsKey := !s.inFlow }.dropPending
  return (← s.forward).emit .key

/-- The colon before a value.  If a key is pending, it becomes one, and a
block mapping opens at its column if need be. -/
def value (s : Scanner) : Except Fault Scanner := do
  match s.pending with
  | some key =>
    let keyed := { s with pending := none, allowsKey := false
      }.insert key.number .key
    let opened :=
      if keyed.inFlow then keyed
      else
        ((keyed.indent key.column).map
          (·.insert key.number .blockMappingStart)).getD keyed
    return (← opened.forward).emit .value
  | none =>
    let s ← s.openBlock .blockMappingStart
    let s ← { s with allowsKey := !s.inFlow }.forward
    return s.emit .value

/-- A token that can be or begin a key. -/
def keyToken (s : Scanner) (scan : Scan Token) : Except Fault Scanner := do
  let s ← s.notePending
  { s with allowsKey := false }.scanToken scan

def blockScalar (s : Scanner) (isFolded : Bool) : Except Fault Scanner := do
  let s ← { s with allowsKey := true }.dropPending
  s.scanToken (Yaml.blockScalar isFolded (max s.leastColumn 1))

/-- A plain scalar; a key is allowed after it if a line has ended. -/
def plainScalar (s : Scanner) : Except Fault Scanner := do
  let s ← s.notePending
  let ((t, lineEnded), cursor) ←
    (Yaml.plainScalar s.inFlow s.leastColumn).run s.cursor
  return { s with cursor, allowsKey := lineEnded }.emit t

/-- How many characters are looked at to tell which token begins here. -/
def lookahead (s : Scanner) : Nat :=
  match s.cursor.rest with
  | [] => 1
  | c :: more =>
    if (c = '-' || c = '.') && s.cursor.column = 0 then
      if beginsMarker (c :: more) then 4 else 3
    else if c = '-' then 2
    else if c = '?' || c = ':' then
      if s.inFlow then 1 else 2
    else if c = '|' || c = '>' then
      if s.inFlow then 2 else 1
    else if c = '%' then
      if s.cursor.column = 0 then 1 else 2
    else if c = '@' || c.toNat = 0x60 || isWhite c then 2
    else 1

/-- Read the token that begins here, which its first characters tell. -/
def tokenHere (s : Scanner) : Except Fault Scanner :=
  let text := s.cursor.rest
  let more := text.drop 1
  let beforeWhite := endsOrFirst isWhite more
  match text with
  | [] => s.streamEnd
  | c :: _ =>
    let code := c.toNat
    if c = '%' && s.cursor.column = 0 then s.directive
    else if c = '-' && s.cursor.column = 0 && atSeparator text then
      s.separator .documentStart
    else if c = '.' && s.cursor.column = 0 && atSeparator text then
      s.separator .documentEnd
    else if c = '[' then s.flowStart .flowSequenceStart
    else if code = 0x7b then s.flowStart .flowMappingStart
    else if c = ']' then s.flowEnd .flowSequenceEnd
    else if code = 0x7d then s.flowEnd .flowMappingEnd
    else if c = ',' then s.flowEntry
    else if c = '-' && beforeWhite then s.blockEntry
    else if c = '?' && (s.inFlow || beforeWhite) then s.key
    else if c = ':' && (s.inFlow || beforeWhite) then s.value
    else if c = '*' then s.keyToken (Token.alias <$> anchorName)
    else if c = '&' then s.keyToken (Token.anchor <$> anchorName)
    else if c = '!' then s.keyToken tag
    else if c = '|' && !s.inFlow then s.blockScalar false
    else if c = '>' && !s.inFlow then s.blockScalar true
    else if code = 0x27 then s.keyToken (quotedScalar false)
    else if c = '"' then s.keyToken (quotedScalar true)
    else if beginsPlain s.inFlow text then s.plainScalar
    else .error .malformed

def token (s : Scanner) : Except Fault Scanner := do
  s.cursor.need s.lookahead
  s.tokenHere

/-- Read the next token, and with it the ends of the block collections that
are further right. -/
def step (s : Scanner) : Except Fault Scanner := do
  let s ← (← s.skipToToken).dropStale
  (s.closeTo (s.cursor.column + 1)).token

end Scanner

/-! ## Token streams -/

/-- The tokens of a text up to its end or to a fault. -/
structure Tokens where
  tokens : List Token
  fault : Option Fault

/-- Read tokens, within a budget of steps. -/
def scanFrom (s : Scanner) : Nat → Tokens
  | 0 => ⟨s.tokens.reverse, some .malformed⟩
  | budget + 1 =>
    match s.dropStale with
    | .error fault => ⟨s.tokens.reverse.take s.settled, some fault⟩
    | .ok fresh =>
      match fresh.step with
      | .error fault => ⟨fresh.tokens.reverse.take fresh.settled, some fault⟩
      | .ok next =>
        if next.tokens.head? = some .streamEnd then
          ⟨next.tokens.reverse, none⟩
        else
          scanFrom next budget

/-- The tokens of a text. -/
def tokensOf (source : Source) : Tokens :=
  scanFrom (.start source) (source.text.length + 1)

end Tablesmith.Yaml

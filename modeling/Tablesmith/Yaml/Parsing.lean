import Tablesmith.Yaml.Document
import Tablesmith.Yaml.Scalar
import Tablesmith.Yaml.Scanner

/-!
# Parsing

The parser turns tokens into a document.  It looks at one token at a time; a
fault of the scanner counts only when the token in its place is looked at.

Anchors belong to the nodes that are complete or open, so an alias inside a
collection can name that collection.  No name is given twice.
-/

namespace Tablesmith.Yaml

/-- The state of the parser: the tokens to come, the fault after them, what
the tag handles stand for, the anchored nodes, and the nodes so far. -/
structure Parser where
  tokens : List Token
  fault : Option Fault
  handles : List (String × String)
  anchors : List (String × NodeId)
  nodes : Nodes

/-- The parser at the start of a text. -/
def Parser.start (stream : Tokens) (handles : List (String × String)) :
    Parser where
  tokens := stream.tokens
  fault := stream.fault
  handles
  anchors := []
  nodes := #[]

/-- A computation that reads tokens and may find a fault. -/
abbrev Parse := StateT Parser (Except Fault)

namespace Parse

/-- Find the text malformed. -/
def malformed {α : Type} : Parse α :=
  throw .malformed

def next : Parse Token := do
  let p ← get
  match p.tokens with
  | t :: _ => return t
  | [] => throw (p.fault.getD .malformed)

/-- Pass over a token. -/
def advance : Parse Unit :=
  modify fun p => { p with tokens := p.tokens.drop 1 }

/-- Pass over a token that must be next. -/
def expect (t : Token) : Parse Unit := do
  if (← next) = t then advance else malformed

/-- Add a node to the table, under an anchor if it has one. -/
def addNode (anchor : Option String) (node : Node) : Parse NodeId :=
  modifyGet fun p =>
    let id := p.nodes.size
    let anchors :=
      match anchor with
      | some name => (name, id) :: p.anchors
      | none => p.anchors
    (id, { p with nodes := p.nodes.push node, anchors })

def complete (id : NodeId) (node : Node) : Parse NodeId :=
  modifyGet fun p => (id, { p with nodes := p.nodes.put id node })

def aliased (name : String) : Parse NodeId := do
  match (← get).anchors.lookup name with
  | some id => return id
  | none => malformed

/-- Make sure that an anchor is new. -/
def checkAnchor : Option String → Parse Unit
  | none => return ()
  | some name => do
    if ((← get).anchors.lookup name).isSome then malformed

/-! ## Tags -/

def tagName (handle : Option String) (suffix : String) : Parse String := do
  match handle with
  | none => return suffix
  | some handle =>
    match (← get).handles.lookup handle with
    | some start => return start ++ suffix
    | none => malformed

/-- The tag that a name gives to a node; without one, or with a single
exclamation mark, it is found out otherwise. -/
def tagOr (otherwise : Tag) : Option String → Tag
  | none => otherwise
  | some "!" => otherwise
  | some name => .ofName name

/-- The tag of a scalar.  A quoted one without a tag is a text. -/
def scalarTag (name : Option String) (codes : List Nat) (isPlain : Bool) :
    Tag :=
  if name.isNone && !isPlain then .text
  else tagOr (resolvedTag (charsOfCodes codes)) name

/-- Read an anchor, if one is next. -/
def anchorHere : Parse (Option String) := do
  match ← next with
  | .anchor name => advance; return some name
  | _ => return none

/-- Read a tag, if one is next. -/
def tagHere : Parse (Option (Option String × String)) := do
  match ← next with
  | .tag handle suffix => advance; return some (handle, suffix)
  | _ => return none

/-- Read the anchor and the tag of a node, in either order. -/
def properties : Parse (Option String × Option String) := do
  let early ← anchorHere
  let tag? ← tagHere
  let late ← if early.isNone && tag?.isSome then anchorHere else pure none
  let name ← tag?.mapM fun (handle, suffix) => tagName handle suffix
  return (early.or late, name)

/-! ## Nodes -/

/-- What a node may be: anything inside a flow collection, also a block
collection outside, also a sequence that is not indented as part of a block
mapping. -/
inductive Place where
  | flow
  | block
  | mappingPart
  deriving DecidableEq, Repr

/-- Add an empty scalar. -/
def emptyNode : Parse NodeId :=
  addNode none (.scalar .null [])

/-- Read a node, or add an empty one if a token comes next that cannot begin
one here. -/
def nodeUnless (stops : List Token) (read : Parse NodeId) : Parse NodeId := do
  if stops.contains (← next) then emptyNode else read

/-- Read the comma before an entry of a flow collection that is not the
first. -/
def commaUnless (isFirst : Bool) : Parse Unit :=
  if isFirst then pure () else expect .flowEntry

/-- The value of a key, after a colon; without one it is empty. -/
def valueOr (stops : List Token) (read : Parse NodeId) : Parse NodeId := do
  if (← next) = .value then
    advance
    nodeUnless stops read
  else
    emptyNode

/-- Add a collection, read its parts and complete it. -/
def collection {α : Type}
    (anchor : Option String)
    (make : α → Node)
    (none : α)
    (read : Parse α) :
    Parse NodeId := do
  let id ← addNode anchor (make none)
  let parts ← read
  complete id (make parts)

mutual

/-- Read a node, within a budget of steps. -/
def node (place : Place) : Nat → Parse NodeId
  | 0 => malformed
  | budget + 1 => do
    if let .alias name ← next then
      advance
      aliased name
    else
      let (anchor, name) ← properties
      let t ← next
      let list := Node.sequence (tagOr .list name)
      let dict := Node.mapping (tagOr .dict name)
      match t, place with
      | .blockEntry, .mappingPart =>
        checkAnchor anchor
        collection anchor list [] (looseItems budget)
      | .scalar codes isPlain, _ =>
        advance
        checkAnchor anchor
        addNode anchor (.scalar (scalarTag name codes isPlain) codes)
      | .flowSequenceStart, _ =>
        checkAnchor anchor
        advance
        collection anchor list [] (flowItems true budget)
      | .flowMappingStart, _ =>
        checkAnchor anchor
        advance
        collection anchor dict [] (flowEntries true budget)
      | .blockSequenceStart, .flow => malformed
      | .blockSequenceStart, _ =>
        checkAnchor anchor
        advance
        collection anchor list [] (blockItems budget)
      | .blockMappingStart, .flow => malformed
      | .blockMappingStart, _ =>
        checkAnchor anchor
        advance
        collection anchor dict [] (blockEntries budget)
      | _, _ =>
        if anchor.isSome || name.isSome then
          checkAnchor anchor
          addNode anchor (.scalar (scalarTag name [] true) [])
        else
          malformed

/-- Read the items of a block sequence to its end. -/
def blockItems : Nat → Parse (List NodeId)
  | 0 => malformed
  | budget + 1 => do
    match ← next with
    | .blockEntry =>
      advance
      let item ← nodeUnless [.blockEntry, .blockEnd] (node .block budget)
      return item :: (← blockItems budget)
    | .blockEnd =>
      advance
      return []
    | _ => malformed

/-- Read the items of a sequence that is not indented. -/
def looseItems : Nat → Parse (List NodeId)
  | 0 => malformed
  | budget + 1 => do
    match ← next with
    | .blockEntry =>
      advance
      let item ←
        nodeUnless [.blockEntry, .key, .value, .blockEnd] (node .block budget)
      return item :: (← looseItems budget)
    | _ => return []

/-- Read the entries of a block mapping to its end. -/
def blockEntries : Nat → Parse (List (NodeId × NodeId))
  | 0 => malformed
  | budget + 1 => do
    match ← next with
    | .key =>
      advance
      let stops := [Token.key, .value, .blockEnd]
      let key ← nodeUnless stops (node .mappingPart budget)
      let value ← valueOr stops (node .mappingPart budget)
      return (key, value) :: (← blockEntries budget)
    | .blockEnd =>
      advance
      return []
    | _ => malformed

/-- Read the items of a flow sequence to its end.  A key in it begins a
mapping with a single entry. -/
def flowItems (isFirst : Bool) : Nat → Parse (List NodeId)
  | 0 => malformed
  | budget + 1 => do
    if (← next) = .flowSequenceEnd then
      advance
      return []
    else
      commaUnless isFirst
      match ← next with
      | .flowSequenceEnd =>
        advance
        return []
      | .key =>
        let item ← collection none (.mapping .dict) [] (do
          advance
          let key ←
            nodeUnless [.value, .flowEntry, .flowSequenceEnd]
              (node .flow budget)
          let value ←
            valueOr [.flowEntry, .flowSequenceEnd] (node .flow budget)
          return [(key, value)])
        return item :: (← flowItems false budget)
      | _ =>
        let item ← node .flow budget
        return item :: (← flowItems false budget)

/-- Read the entries of a flow mapping to its end. -/
def flowEntries (isFirst : Bool) : Nat → Parse (List (NodeId × NodeId))
  | 0 => malformed
  | budget + 1 => do
    if (← next) = .flowMappingEnd then
      advance
      return []
    else
      commaUnless isFirst
      match ← next with
      | .flowMappingEnd =>
        advance
        return []
      | .key =>
        advance
        let key ←
          nodeUnless [.value, .flowEntry, .flowMappingEnd] (node .flow budget)
        let value ← valueOr [.flowEntry, .flowMappingEnd] (node .flow budget)
        return (key, value) :: (← flowEntries false budget)
      | _ =>
        let key ← node .flow budget
        let value ← emptyNode
        return (key, value) :: (← flowEntries false budget)

end

/-! ## Documents -/

/-- The handles that every document has. -/
def standardHandles : List (String × String) :=
  [("!", "!"), ("!!", Tag.commonStart)]

/-- Read the directives of a document, within a budget of steps: at most one
version, which must be 1, and at most one meaning for each handle. -/
def directives (hasVersion : Bool) (handles : List (String × String)) :
    Nat → Parse (List (String × String))
  | 0 => malformed
  | budget + 1 => do
    match ← next with
    | .directive (.version major) =>
      advance
      if hasVersion || major ≠ 1 then malformed
      else directives true handles budget
    | .directive (.handle handle start) =>
      advance
      if (handles.lookup handle).isSome then malformed
      else directives hasVersion ((handle, start) :: handles) budget
    | .directive .other =>
      advance
      directives hasVersion handles budget
    | _ => return handles

/-- Read the directives before a document and its marker. -/
def documentStart (budget : Nat) : Parse Unit := do
  let handles ← directives false [] budget
  expect .documentStart
  modify fun p => { p with handles := handles ++ standardHandles }

/-- Whether a token cannot begin the content of a document. -/
def endsContent : Token → Bool
  | .directive _ => true
  | .documentStart => true
  | .documentEnd => true
  | .streamEnd => true
  | _ => false

/-- Pass over the markers after a document, within a budget of steps. -/
def skipDocumentEnds : Nat → Parse Unit
  | 0 => return ()
  | budget + 1 => do
    if (← next) = .documentEnd then
      advance
      skipDocumentEnds budget

/-- Read the only document of a text; an empty text has none.  A second
document is a fault, which is found once its start has been read. -/
def document (budget : Nat) : Parse (Option NodeId) := do
  let first ← next
  if first = .streamEnd then
    return none
  else
    let root ←
      match first with
      | .directive _ | .documentStart => do
        documentStart budget
        if endsContent (← next) then emptyNode else node .block budget
      | _ => node .block budget
    skipDocumentEnds budget
    if (← next) ≠ .streamEnd then
      documentStart budget
      malformed
    else
      return some root

end Parse

/-- The document of a text: its nodes and its root, if there is one. -/
def documentOf (source : Source) : Except Fault (Nodes × Option NodeId) := do
  let stream := tokensOf source
  let (root, done) ←
    (Parse.document (3 * stream.tokens.length + 10)).run
      (.start stream Parse.standardHandles)
  return (done.nodes, root)

end Tablesmith.Yaml

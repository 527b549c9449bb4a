import Tablesmith.Yaml.Document
import Tablesmith.Yaml.Scalar

/-!
# Making values

A document stands for a value.  Scalars are made at once; collections are
filled one after the other, in the order in which they were met, so that a
collection can contain itself.  The first fault in that order counts.

Before a mapping is filled, the mappings under its merge keys are put in front
of its own entries, where the entries of an earlier one come later and so
count more, and its value keys become texts.
-/

namespace Tablesmith.Yaml

/-- What a node stands for: a scalar's value, or the collection of that
node. -/
inductive Part where
  | value (v : Value)
  | collection (id : NodeId)

/-- What a filled collection holds. -/
inductive Contents where
  | items (parts : List Part)
  | entries (parts : List (Value × Part))
  | members (values : List Value)
  | pairs (parts : List (Part × Part))

def Contents.isDict : Contents → Bool
  | .entries _ => true
  | _ => false

/-- The state while values are made: the nodes, the collections that were met,
those still to be filled, and those filled. -/
structure Workshop where
  nodes : Nodes
  met : List NodeId
  queue : List NodeId
  filled : List (NodeId × Contents)

/-- A computation that makes values and may find a fault. -/
abbrev Make := StateT Workshop (Except Fault)

namespace Make

/-- Find the text malformed. -/
def malformed {α : Type} : Make α :=
  throw .malformed

def node (id : NodeId) : Make Node :=
  return (← get).nodes.node id

/-- The entries of the mapping at a place. -/
def entriesOf (id : NodeId) : Make (List (NodeId × NodeId)) :=
  return (← get).nodes.entries id

def putNode (id : NodeId) (node : Node) : Make Unit :=
  modify fun w => { w with nodes := w.nodes.put id node }

/-! ## Merging -/

/-- Replace the entries of a mapping. -/
def putEntries (id : NodeId) (entries : List (NodeId × NodeId)) :
    Make Unit := do
  putNode id (.mapping (← node id).tag entries)

/-- The entries of the mapping at a place, which is flattened first. -/
def flatEntries (flatten : NodeId → Make Unit) (id : NodeId) :
    Make (List (NodeId × NodeId)) := do
  match ← node id with
  | .mapping _ _ =>
    flatten id
    entriesOf id
  | _ => malformed

/-- The entries that a merge key brings in: those of one mapping, or those of
several, the last first. -/
def mergedEntries (flatten : NodeId → Make Unit) (id : NodeId) :
    Make (List (NodeId × NodeId)) := do
  match ← node id with
  | .sequence _ items =>
    let parts ← items.mapM (flatEntries flatten)
    return parts.reverse.flatten
  | _ => flatEntries flatten id

/-- Go through the entries of a mapping from an index on, within a budget of
steps: take the merge keys out and collect what they bring in, and make texts
of the value keys. -/
def collectMerged
    (flatten : NodeId → Make Unit)
    (id : NodeId)
    (index : Nat) :
    Nat → Make (List (NodeId × NodeId))
  | 0 => return []
  | budget + 1 => do
    let entries ← entriesOf id
    match entries[index]? with
    | none => return []
    | some (key, value) =>
      let keyNode ← node key
      match keyNode.tag with
      | .merge =>
        putEntries id (entries.eraseIdx index)
        let merged ← mergedEntries flatten value
        return merged ++ (← collectMerged flatten id index budget)
      | .value =>
        putNode key (keyNode.withTag .text)
        collectMerged flatten id (index + 1) budget
      | _ => collectMerged flatten id (index + 1) budget

/-- Resolve the merge keys of a mapping, to a depth that each merge takes one
from. -/
def flatten : Nat → NodeId → Make Unit
  | 0, _ => return ()
  | depth + 1, id => do
    let count := (← entriesOf id).length
    let merged ← collectMerged (flatten depth) id 0 (count + 1)
    if !merged.isEmpty then
      putEntries id (merged ++ (← entriesOf id))

def entryCount : Node → Nat
  | .mapping _ entries => entries.length
  | _ => 0

/-- A depth that is enough for all merges. -/
def mergeDepth (nodes : Nodes) : Nat :=
  nodes.foldl (fun total node => total + entryCount node) 1

/-! ## Parts -/

/-- The text of a scalar.  That of a mapping is the text under its value key,
to a depth. -/
def scalarCodes : Nat → NodeId → Make (List Nat)
  | 0, _ => malformed
  | depth + 1, id => do
    match ← node id with
    | .scalar _ codes => return codes
    | .sequence _ _ => malformed
    | .mapping _ entries =>
      let nodes := (← get).nodes
      match entries.find? fun e => (nodes.node e.1).tag = .value with
      | some e => scalarCodes depth e.2
      | none => malformed

/-- The value of a node with a scalar's tag.  A timestamp is looked for in the
node's own text, so there is none in a mapping. -/
def scalarPart (id : NodeId) (node : Node) : Make Value := do
  let codes ← scalarCodes ((← get).nodes.size + 1) id
  match node, node.tag with
  | .mapping _ _, .timestamp => throw (.scalar (.call (.notScannable "list")))
  | _, tag => (scalarValue tag codes : Except Fault Value)

/-- What a node stands for.  A collection that is met for the first time is
queued. -/
def part (id : NodeId) : Make Part := do
  let w ← get
  if w.met.contains id then
    return .collection id
  else
    let node := w.nodes.node id
    if node.tag.isCollection then
      set { w with met := id :: w.met, queue := w.queue ++ [id] }
      return .collection id
    else
      return .value (← scalarPart id node)

/-- What a node stands for as a key, which no collection can be. -/
def keyPart (id : NodeId) : Make Value := do
  match ← part id with
  | .value v => return v
  | .collection _ => malformed

/-! ## Filling -/

/-- Whether two keys are the same.  There is one value that is no number, and
it is the same key as itself. -/
def sameKey (a b : Value) : Bool :=
  match a, b with
  | .float x, .float y => (x.isNaN && y.isNaN) || a == b
  | _, _ => a == b

/-- Put a part under a key: a key that is there already keeps its place and
its spelling. -/
def putPart (entries : List (Value × Part)) (key : Value) (p : Part) :
    List (Value × Part) :=
  if entries.any fun e => sameKey e.1 key then
    entries.map fun e => if sameKey e.1 key then (e.1, p) else e
  else
    entries ++ [(key, p)]

/-- The entries of a mapping, merged and with each key once. -/
def dictEntries (id : NodeId) : Make (List (Value × Part)) := do
  flatten (mergeDepth (← get).nodes) id
  let made ← (← entriesOf id).mapM fun (key, value) => do
    let k ← keyPart key
    let v ← part value
    return (k, v)
  return made.foldl (fun entries (k, v) => putPart entries k v) []

/-- The pair that a mapping with a single entry stands for. -/
def pairOf (id : NodeId) : Make (Part × Part) := do
  match ← node id with
  | .mapping _ [(key, value)] =>
    let k ← part key
    let v ← part value
    return (k, v)
  | _ => malformed

/-- What the collection at a place holds. -/
def contents (id : NodeId) : Make Contents := do
  let node ← node id
  match node.tag, node with
  | .list, .sequence _ items => .items <$> items.mapM part
  | .dict, .mapping _ _ => .entries <$> dictEntries id
  | .set, .mapping _ _ =>
    return .members ((← dictEntries id).map Prod.fst)
  | .orderedPairs, .sequence _ items => .pairs <$> items.mapM pairOf
  | .pairs, .sequence _ items => .pairs <$> items.mapM pairOf
  | _, _ => malformed

/-- Fill the collections of the queue, within a budget of steps. -/
def fillAll : Nat → Make Unit
  | 0 => return ()
  | budget + 1 => do
    match (← get).queue with
    | [] => return ()
    | id :: rest =>
      modify fun w => { w with queue := rest }
      let made ← contents id
      modify fun w => { w with filled := (id, made) :: w.filled }
      fillAll budget

end Make

/-! ## Values -/

/-- The value of a part, to a depth.  The collections around it, the innermost
first, are given by their nodes; a pair has none. -/
def partValue (filled : List (NodeId × Contents)) :
    Nat → List (Option NodeId) → Part → Value
  | _, _, .value v => v
  | 0, _, .collection _ => .null
  | depth + 1, above, .collection id =>
    let contents := (filled.lookup id).getD (.items [])
    match above.idxOf? (some id) with
    | some levels => .enclosing levels contents.isDict
    | none =>
      let inside := partValue filled depth (some id :: above)
      match contents with
      | .items parts => .list (parts.map inside)
      | .entries parts => .dict (parts.map fun (k, p) => (k, inside p))
      | .members values => .set values
      | .pairs parts =>
        let inPair := partValue filled depth (none :: some id :: above)
        .list (parts.map fun (k, v) => .tuple [inPair k, inPair v])

/-- The value that a document stands for. -/
def valueOf (nodes : Nodes) (root : NodeId) : Except Fault Value := do
  let make : Make Part := do
    let whole ← Make.part root
    Make.fillAll (nodes.size + 1)
    return whole
  let (whole, done) ← make.run ⟨nodes, [], [], []⟩
  return partValue done.filled (nodes.size + 1) [] whole

end Tablesmith.Yaml

import Tablesmith.Yaml.Tag

/-!
# Documents

A document is a table of nodes with a root.  Nodes name each other by their
place in the table, so a node can occur in several places, and in itself.
-/

namespace Tablesmith.Yaml

/-- The place of a node in its table. -/
abbrev NodeId := Nat

/-- A node: a scalar with the code points of its text, a sequence, or a
mapping with its entries in order. -/
inductive Node where
  | scalar (tag : Tag) (codes : List Nat)
  | sequence (tag : Tag) (items : List NodeId)
  | mapping (tag : Tag) (entries : List (NodeId × NodeId))
  deriving DecidableEq, Repr

def Node.tag : Node → Tag
  | .scalar tag _ => tag
  | .sequence tag _ => tag
  | .mapping tag _ => tag

/-- The same node with another tag. -/
def Node.withTag (tag : Tag) : Node → Node
  | .scalar _ codes => .scalar tag codes
  | .sequence _ items => .sequence tag items
  | .mapping _ entries => .mapping tag entries

abbrev Nodes := Array Node

def Nodes.node (nodes : Nodes) (id : NodeId) : Node :=
  nodes.getD id (.scalar .unknown [])

/-- The entries of the mapping at a place; any other node has none. -/
def Nodes.entries (nodes : Nodes) (id : NodeId) : List (NodeId × NodeId) :=
  match nodes.node id with
  | .mapping _ entries => entries
  | _ => []

/-- Put a node at a place of the table. -/
def Nodes.put (nodes : Nodes) (id : NodeId) (node : Node) : Nodes :=
  nodes.setIfInBounds id node

end Tablesmith.Yaml

import HandlerGen.Yaml.Tag
/-!
# Nodes

A document is a tree of nodes. A leaf of the tree may be an alias, which
stands for the node that its anchor was put on; as the anchor may be on
a node around the alias, the tree can stand for a graph with cycles. So
that a node can be known again where it is met more than once, each has
a place of its own: the count of the tokens up to its first one.
-/

namespace HandlerGen

namespace Yaml

/-- A node of a document. -/
inductive Node
  | reference (name : Text)
  | scalar (place : Nat) (tag : Tag) (text : Text)
  | sequence (place : Nat) (tag : Tag) (items : List Node)
  | mapping (place : Nat) (tag : Tag) (entries : List (Node × Node))
deriving Repr

namespace Node

/-- What stands where a node may be left out. It has no tokens. -/
def absent : Node := scalar 0 .null []

instance : Inhabited Node := ⟨absent⟩

/-- The tag of a node. An alias has none of its own. -/
def tag : Node → Tag
  | reference _ => .unknown
  | scalar _ tag _ => tag
  | sequence _ tag _ => tag
  | mapping _ tag _ => tag

/-- The place of a node. An alias has none of its own. -/
def place : Node → Nat
  | reference _ => 0
  | scalar place _ _ => place
  | sequence place _ _ => place
  | mapping place _ _ => place

end Node

/-- An entry of a mapping: a key and its value. -/
abbrev Entry := Node × Node

/-- A document: its outermost node, the nodes with anchors, and the count
of its tokens, which no chain of nodes within nodes is longer than. -/
structure Document where
  root : Node
  anchors : List (Text × Node) := []
  size : Nat := 0

/-- The node that a node stands for. -/
def Document.target (doc : Document) : Node → Node
  | .reference name => (doc.anchors.lookup name).getD .absent
  | n => n

end Yaml

end HandlerGen

import CloudScaffold.Yaml.Tag
/-!
# Nodes

A document is a graph of nodes: scalars, sequences and mappings, each with its tag. Nodes have
numbers, and collections name their parts by number, so that an alias is the same node as its
anchor, even inside it.
-/
namespace CloudScaffold.Yaml

open Text

/-- The number of a node in its document. -/
abbrev NodeId := Nat

/-- The key and the value of an entry in a mapping. -/
abbrev Entry := NodeId × NodeId

inductive Content where
  | scalar (text : Points)
  | sequence (items : List NodeId)
  | mapping (entries : List Entry)
  deriving DecidableEq, Repr

def Content.isScalar : Content → Bool
  | .scalar _ => true
  | _ => false

structure Node where
  tag : Tag
  content : Content
  deriving DecidableEq, Repr

/-- An absent node, which is null. -/
def Node.absent : Node := ⟨.null, .scalar []⟩

/-- The nodes of a document by number. -/
abbrev Nodes := Array Node

namespace Nodes

/-- The node of a number. -/
def node (ns : Nodes) (n : NodeId) : Node := ns.getD n .absent

/-- The entries of a mapping; other nodes have none. -/
def entries (ns : Nodes) (n : NodeId) : List Entry :=
  match (ns.node n).content with
  | .mapping es => es
  | _ => []

def setContent (ns : Nodes) (n : NodeId) (c : Content) : Nodes :=
  ns.setIfInBounds n { ns.node n with content := c }

def setTag (ns : Nodes) (n : NodeId) (t : Tag) : Nodes :=
  ns.setIfInBounds n { ns.node n with tag := t }

/-- How many entries all mappings have together. -/
def entryCount (ns : Nodes) : Nat := ns.foldl (fun k n => match n.content with
  | .mapping es => k + es.length
  | _ => k) 0

end Nodes

/-- A document: its nodes and the one at the top. -/
structure Document where
  nodes : Nodes
  root : NodeId
  deriving Repr

end CloudScaffold.Yaml

import Palette.Yaml.Schema

/-!
# The graph of a YAML document

The nodes of a document are scalars, sequences and mappings, each with its tag.  They lie
in places of one graph, and collections name the places of what they hold.  So an alias
is the place of the node it stands for, and a node can hold itself.

Nodes are added at the end (`Graph.add`) and changed where they are (`Graph.set`).
-/

namespace Palette.Yaml

/-- A place in a graph. -/
abbrev Place := Nat

/-- A key and a value in their places. -/
abbrev Entry := Place × Place

/-- A part of a document with its tag. -/
inductive Node where
  | scalar (tag : Tag) (text : String)
  | sequence (tag : Tag) (items : List Place)
  | mapping (tag : Tag) (entries : List Entry)

namespace Node

/-- The scalar that stands where nothing is written. -/
def empty : Node :=
  .scalar .null ""

/-- What a node is. -/
def tag : Node → Tag
  | scalar tag _ => tag
  | sequence tag _ => tag
  | mapping tag _ => tag

/-- The same node with another tag. -/
def withTag (tag : Tag) : Node → Node
  | scalar _ text => scalar tag text
  | sequence _ items => sequence tag items
  | mapping _ entries => mapping tag entries

/-- The entries of a mapping, and none of any other node. -/
def entries : Node → List Entry
  | mapping _ entries => entries
  | _ => []

/-- The same mapping with other entries.  Any other node stays as it is. -/
def withEntries (entries : List Entry) : Node → Node
  | mapping tag _ => mapping tag entries
  | other => other

@[simp] theorem tag_withTag (tag : Tag) (node : Node) : (node.withTag tag).tag = tag := by
  cases node <;> rfl

@[simp] theorem entries_withEntries (tag : Tag) (before entries : List Entry) :
    ((mapping tag before).withEntries entries).entries = entries := rfl

end Node

/-- The nodes of a document in their places. -/
structure Graph where
  nodes : Array Node

namespace Graph

/-- The graph without any node. -/
def empty : Graph := ⟨#[]⟩

/-- How many nodes there are. -/
def size (graph : Graph) : Nat :=
  graph.nodes.size

/-- The node in a place, which is empty outside the graph. -/
def node (graph : Graph) (place : Place) : Node :=
  graph.nodes[place]?.getD .empty

/-- What the node in a place is. -/
def tag (graph : Graph) (place : Place) : Tag :=
  (graph.node place).tag

/-- The graph with a node in the next place. -/
def add (graph : Graph) (node : Node) : Graph :=
  ⟨graph.nodes.push node⟩

/-- The graph with another node in a place. -/
def set (graph : Graph) (place : Place) (node : Node) : Graph :=
  ⟨graph.nodes.setIfInBounds place node⟩

/-- How many entries all mappings have. -/
def entryCount (graph : Graph) : Nat :=
  graph.nodes.foldl (fun count node => count + node.entries.length) 0

/-! ## Interface lemmas -/

@[simp] theorem size_add (graph : Graph) (node : Node) :
    (graph.add node).size = graph.size + 1 := by
  simp [add, size]

@[simp] theorem size_set (graph : Graph) (place : Place) (node : Node) :
    (graph.set place node).size = graph.size := by
  simp [set, size]

/-- A node that is added lies in the first place that was free. -/
@[simp] theorem node_add_size (graph : Graph) (node : Node) :
    (graph.add node).node graph.size = node := by
  simp [add, size, Graph.node]

/-- Adding a node changes no other. -/
theorem node_add_of_lt {graph : Graph} {place : Place} (node : Node) (hplace : place < graph.size) :
    (graph.add node).node place = graph.node place := by
  unfold size at hplace
  simp [add, Graph.node, Array.getElem?_push, Nat.ne_of_lt hplace]

/-- A node is found where it was set. -/
theorem node_set_same {graph : Graph} {place : Place} (node : Node) (hplace : place < graph.size) :
    (graph.set place node).node place = node := by
  unfold size at hplace
  simp [set, Graph.node, hplace]

/-- Setting a node changes no other. -/
theorem node_set_of_ne {graph : Graph} {place other : Place} (node : Node) (hne : place ≠ other) :
    (graph.set place node).node other = graph.node other := by
  simp [set, Graph.node, hne]

end Graph

end Palette.Yaml

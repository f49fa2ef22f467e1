import StructGen.Json.Basic

/-!
# Schema graphs

A document becomes a graph of nodes, one for each place that holds a schema. Nodes are numbered in
the order they are met, and refer to each other by number, so that a definition may be shared and
may lead back to itself.

* `Node` is a schema with its subschemas replaced by numbers;
* `primaryType` is the one type of a schema other than null;
* `Graph.preorder` lists the nodes that some nodes lead to.
-/

namespace StructGen.Schema

/-- The number of a node. -/
abbrev NodeId := Nat

/-- A schema of a document. A node that stands for a reference has only `ref`. -/
structure Node where
  pointer : String := ""
  types : List Json := []
  properties : List (String × NodeId) := []
  items : Option NodeId := none
  ref : Option NodeId := none
  required : List Json := []
  description : Option String := none
  format : Option String := none
  deriving DecidableEq

/-- The type that a list of types names beside null, if it names exactly one. -/
def primaryType (types : List Json) : Option Json :=
  let tag :=
    match types with
    | [t] => t
    | [t, u] => if t = .str "null" then u else if u = .str "null" then t else .null
    | _ => .null
  if tag = .null then none else some tag

namespace Node

/-- The one type of a schema other than null. -/
def primaryType (n : Node) : Option Json := Schema.primaryType n.types

/-- Whether an object of the schema has to have a property. -/
def isRequired (n : Node) (property : String) : Bool := n.required.contains (.str property)

/-- The properties in the order of their names. -/
def sortedProperties (n : Node) : List (String × NodeId) :=
  n.properties.mergeSort fun a b => decide (a.1 ≤ b.1)

/-- The nodes that a node refers to. -/
def children (n : Node) : List NodeId :=
  n.ref.toList ++ n.properties.map Prod.snd ++ n.items.toList

end Node

/-- The schemas of a document. -/
structure Graph where
  nodes : List Node := []
  deriving DecidableEq

namespace Graph

/-- The number of nodes. -/
def size (g : Graph) : Nat := g.nodes.length

/-- The node with a number. -/
def node (g : Graph) (id : NodeId) : Node := g.nodes[id]?.getD {}

/-- The number of the node at a pointer. -/
def find? (g : Graph) (pointer : String) : Option NodeId :=
  g.nodes.findIdx? (·.pointer == pointer)

/-- Add a node at the end. -/
def push (g : Graph) (n : Node) : Graph := ⟨g.nodes ++ [n]⟩

/-- Replace a node. -/
def set (g : Graph) (id : NodeId) (n : Node) : Graph := ⟨g.nodes.set id n⟩

/-- The node that a node refers to, or the node itself. -/
def target (g : Graph) (id : NodeId) : NodeId := (g.node id).ref.getD id

/-- Whether null is allowed, as the target of a node says. -/
def nullAllowed (g : Graph) (id : NodeId) : Bool :=
  (g.node (g.target id)).types.contains (.str "null")

@[simp] theorem size_push (g : Graph) (n : Node) : (g.push n).size = g.size + 1 := by
  simp [push, size]

@[simp] theorem size_set (g : Graph) (id : NodeId) (n : Node) : (g.set id n).size = g.size := by
  simp [set, size]

/-- The nodes met from those in `todo` on, after those in `seen`, which are reversed. -/
def preorderFrom (g : Graph) : Nat → List NodeId → List NodeId → List NodeId
  | 0, seen, _ => seen.reverse
  | _, seen, [] => seen.reverse
  | fuel + 1, seen, id :: todo =>
    if seen.contains id then preorderFrom g fuel seen todo
    else preorderFrom g fuel (id :: seen) ((g.node id).children ++ todo)

/-- The nodes that some nodes lead to, depth first: a node, its reference, its properties and its
items. -/
def preorder (g : Graph) (roots : List NodeId) : List NodeId :=
  g.preorderFrom (roots.length + (g.nodes.flatMap Node.children).length + 1) [] roots

end Graph

end StructGen.Schema

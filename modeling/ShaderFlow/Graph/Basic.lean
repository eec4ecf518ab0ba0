/-
Module: ShaderFlow.Graph.Basic
Purpose: Arena of values joined by ordered "depends on" edges.
Main exports: NodeIndex, DependencyGraph, DependencyGraph.add, DependencyGraph.connect,
  DependencyGraph.setDependencies, DependencyGraph.dependencies
-/

namespace ShaderFlow

/-!
Nodes live in an arena and are addressed by their slot.  Each node keeps the list of nodes it
depends on, in the order in which they were given.  Edges may point anywhere, also outside the
arena: being free of cycles is a discipline of whoever builds the graph, and the traversal in
`ShaderFlow.Graph.Order` reports every breach of it.
-/

universe u

/-- Slot of a node in its arena. -/
abbrev NodeIndex := Nat

/-- How a slot is spelled in messages, for instance `#3`. -/
def NodeIndex.label (index : NodeIndex) : String := s!"#{index}"

/-- A value together with the nodes it depends on, in argument order. -/
structure GraphNode (α : Type u) where
  value : α
  dependencies : List NodeIndex := []
deriving Repr, Inhabited, DecidableEq

/-- An arena of values connected by "depends on" edges. -/
structure DependencyGraph (α : Type u) where
  nodes : Array (GraphNode α) := #[]
deriving Repr, Inhabited, DecidableEq

namespace DependencyGraph

variable {α : Type u}

/-- The graph without nodes. -/
def empty : DependencyGraph α := {}

/-- Number of nodes. -/
def size (graph : DependencyGraph α) : Nat := graph.nodes.size

/-- Whether a slot belongs to the arena. -/
def contains (graph : DependencyGraph α) (node : NodeIndex) : Bool := node < graph.size

/-- Value of a node, if the slot belongs to the arena. -/
def get? (graph : DependencyGraph α) (node : NodeIndex) : Option α :=
  graph.nodes[node]?.map GraphNode.value

/-- Ordered dependencies of a node; a foreign slot depends on nothing. -/
def dependencies (graph : DependencyGraph α) (node : NodeIndex) : List NodeIndex :=
  (graph.nodes[node]?.map GraphNode.dependencies).getD []

/-- Append a node without dependencies; its slot is the former size. -/
def add (graph : DependencyGraph α) (value : α) : DependencyGraph α :=
  { nodes := graph.nodes.push { value } }

/-- Replace the value of a node; a foreign slot changes nothing. -/
def set (graph : DependencyGraph α) (node : NodeIndex) (value : α) : DependencyGraph α :=
  { nodes := graph.nodes.modify node ({ · with value }) }

/-- Replace the whole dependency list of a node; a foreign slot changes nothing. -/
def setDependencies (graph : DependencyGraph α) (node : NodeIndex)
    (dependencies : List NodeIndex) : DependencyGraph α :=
  { nodes := graph.nodes.modify node ({ · with dependencies }) }

/-- Record that `node` depends on `dependency`.  An edge is recorded once, however often it is
given, so that sharing does not inflate the list. -/
def connect (graph : DependencyGraph α) (node dependency : NodeIndex) : DependencyGraph α :=
  { nodes := graph.nodes.modify node fun entry =>
      if entry.dependencies.contains dependency then entry
      else { entry with dependencies := entry.dependencies ++ [dependency] } }

/-- Values in slot order. -/
def values (graph : DependencyGraph α) : List α := graph.nodes.toList.map GraphNode.value

/-! ### What each operation does to the views -/

@[simp] theorem size_add (graph : DependencyGraph α) (value : α) :
    (graph.add value).size = graph.size + 1 := by
  simp [size, add]

@[simp] theorem size_setDependencies (graph : DependencyGraph α) (node : NodeIndex)
    (dependencies : List NodeIndex) :
    (graph.setDependencies node dependencies).size = graph.size := by
  simp [size, setDependencies]

@[simp] theorem size_set (graph : DependencyGraph α) (node : NodeIndex) (value : α) :
    (graph.set node value).size = graph.size := by
  simp [size, set]

@[simp] theorem get?_add_size (graph : DependencyGraph α) (value : α) :
    (graph.add value).get? graph.size = some value := by
  simp [get?, add, size]

theorem get?_setDependencies (graph : DependencyGraph α) (node other : NodeIndex)
    (dependencies : List NodeIndex) :
    (graph.setDependencies node dependencies).get? other = graph.get? other := by
  simp only [get?, setDependencies, Array.getElem?_modify]
  split <;> simp [Option.map_map, Function.comp_def]

theorem dependencies_setDependencies_self (graph : DependencyGraph α) {node : NodeIndex}
    (dependencies : List NodeIndex) (inside : node < graph.size) :
    (graph.setDependencies node dependencies).dependencies node = dependencies := by
  have inside' : node < graph.nodes.size := inside
  simp [DependencyGraph.dependencies, setDependencies, Array.getElem_modify, inside']

end DependencyGraph

end ShaderFlow

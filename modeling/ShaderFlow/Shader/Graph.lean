/-
Module: ShaderFlow.Shader.Graph
Purpose: Shader graphs and the operations that build them.
Main exports: NodeId, EntryNames, ShaderGraph, ShaderGraph.lookup, ShaderGraph.bind, Workspace
-/
import ShaderFlow.Shader.Swizzle
import ShaderFlow.Shader.Node
import ShaderFlow.Text.Blank

namespace ShaderFlow

/-!
A shader graph describes one vertex and one fragment program.  Every edge is checked for its type as
it is made, so compiling only has to look at structure.  A node id names the generation of the graph
that issued it; generations are never reused, so ids of other graphs, or of the same graph before it
was reset, are refused.  An operation that fails gives no new graph, and so changes nothing.
-/

/-- Handle of a node in one generation of one graph. -/
structure NodeId where
  generation : Nat
  index : NodeIndex
deriving DecidableEq, Repr, Inhabited

/-- Names used by the generated entry points. -/
structure EntryNames where
  vertexEntry : String := "vs_main"
  fragmentEntry : String := "fs_main"
  /-- Variable that the fragment root is assigned to before it is returned. -/
  fragmentOutput : String := "frag_color"
deriving DecidableEq, Repr, Inhabited

/-- One vertex and fragment program as a graph of typed nodes. -/
structure ShaderGraph where
  generation : Nat
  registry : FunctionRegistry
  options : EntryNames := {}
  nodes : DependencyGraph ShaderNode := .empty
  vertexRoot : Option NodeIndex := none
  fragmentRoot : Option NodeIndex := none
  /-- Values handed from the vertex to the fragment stage, by slot name. -/
  varys : OrderedMap String NodeIndex := .empty
deriving DecidableEq, Repr, Inhabited

namespace ShaderGraph

/-- Id of a slot in the present generation. -/
def idOf (graph : ShaderGraph) (index : NodeIndex) : NodeId := ⟨graph.generation, index⟩

/-- The node that an id denotes. -/
def node? (graph : ShaderGraph) (id : NodeId) : Option ShaderNode :=
  if id.generation = graph.generation then graph.nodes.get? id.index else none

/-- The node that an id denotes, with its slot; any other id is foreign. -/
def lookup (graph : ShaderGraph) (id : NodeId) : Except ShaderError (NodeIndex × ShaderNode) :=
  match graph.node? id with
  | some node => .ok (id.index, node)
  | none => .error .foreignNode

/-- Type of the node that an id denotes. -/
def nodeType (graph : ShaderGraph) (id : NodeId) : Except ShaderError ShaderType := do
  let (_, node) ← graph.lookup id
  return node.ty

/-- Append a node together with its edges. -/
def insert (graph : ShaderGraph) (node : ShaderNode) : NodeId × ShaderGraph :=
  let index := graph.nodes.size
  (graph.idOf index,
    { graph with nodes := (graph.nodes.add node).setDependencies index node.arguments })

/-- Replace a node together with its edges. -/
def replace (graph : ShaderGraph) (index : NodeIndex) (node : ShaderNode) : ShaderGraph :=
  { graph with nodes := (graph.nodes.set index node).setDependencies index node.arguments }

/-- A name that may be declared. -/
def checkIdentifier (name : String) : Except ShaderError Unit :=
  if isIdentifier name then .ok () else .error (.invalidIdentifier name)

/-! ### Creating nodes -/

/-- A per-vertex input. -/
def vertexAttribute (graph : ShaderGraph) (name : String) (ty : ShaderType) :
    Except ShaderError (NodeId × ShaderGraph) := do
  checkIdentifier name
  return graph.insert (.vertexAttribute name ty)

/-- A user uniform; its type is the type of its default. -/
def uniform (graph : ShaderGraph) (name : String) (default : ShaderValue) :
    Except ShaderError (NodeId × ShaderGraph) := do
  checkIdentifier name
  if default.isFinite then return graph.insert (.uniform name default)
  else throw (.nonFiniteValue (.uniformDefault name))

/-- A uniform provided by the renderer. -/
def engineUniform (graph : ShaderGraph) (quantity : EngineUniform) : NodeId × ShaderGraph :=
  graph.insert (.engine quantity)

/-- A literal value. -/
def constant (graph : ShaderGraph) (value : ShaderValue) :
    Except ShaderError (NodeId × ShaderGraph) :=
  if value.isFinite then .ok (graph.insert (.constant value))
  else .error (.nonFiniteValue (.constant value))

/-- A sample of a two-dimensional texture at a `vec2` coordinate. -/
def textureFetch (graph : ShaderGraph) (texture : String) (coordinate : NodeId) :
    Except ShaderError (NodeId × ShaderGraph) := do
  checkIdentifier texture
  let (index, node) ← graph.lookup coordinate
  if node.ty = .vec2 then return graph.insert (.fetch texture index)
  else throw (.typeMismatch (.textureCoordinate texture) .vec2 node.ty)

/-- Slots and total component count of parts, none of which may be a matrix. -/
def combineParts (graph : ShaderGraph) (ty : ShaderType) :
    List NodeId → Except ShaderError (List NodeIndex × Nat)
  | [] => .ok ([], 0)
  | part :: rest => do
      let (index, node) ← graph.lookup part
      match node.ty.componentCount? with
      | none => throw (.typeMismatch (.combinePart ty) .float node.ty)
      | some count =>
          let (indices, total) ← graph.combineParts ty rest
          return (index :: indices, count + total)

/-- A vector made of scalar and vector parts, whose component counts add up to its size. -/
def combine (graph : ShaderGraph) (ty : ShaderType) (parts : List NodeId) :
    Except ShaderError (NodeId × ShaderGraph) :=
  match ty.vectorSize? with
  | none => .error (.combineArity ty 0)
  | some size => do
      let (indices, total) ← graph.combineParts ty parts
      if total = size then return graph.insert (.combine ty indices)
      else throw (.combineArity ty total)

/-- A selection of components of a vector.  White space around the mask does not count. -/
def swizzle (graph : ShaderGraph) (source : NodeId) (mask : String) :
    Except ShaderError (NodeId × ShaderGraph) := do
  let (index, node) ← graph.lookup source
  let mask := Text.trimBlank mask.toList
  match Swizzle.resultType node.ty mask with
  | .ok ty => return graph.insert (.swizzle index (String.ofList mask) ty)
  | .error fault => throw (.invalidSwizzle (String.ofList mask) fault)

/-- An invocation of a registered function, with all its slots unbound. -/
def call (graph : ShaderGraph) (function : String) : Except ShaderError (NodeId × ShaderGraph) :=
  match graph.registry.get? function with
  | some definition => .ok (graph.insert (.call { function := definition }))
  | none => .error (.unknownFunction function)

/-- A read of a vary slot, of the type that the slot has now. -/
def vary (graph : ShaderGraph) (name : String) : Except ShaderError (NodeId × ShaderGraph) :=
  match graph.varys.get? name with
  | none => .error (.unknownVary name)
  | some index =>
      match graph.nodes.get? index with
      | some node => .ok (graph.insert (.vary name node.ty))
      | none => .error .foreignNode

/-! ### Changing nodes, roots and slots -/

/-- Bind a slot of a function node to a node of the declared type.  A second binding replaces the
first. -/
def bind (graph : ShaderGraph) (node : NodeId) (slot : String) (input : NodeId) :
    Except ShaderError ShaderGraph := do
  let (index, target) ← graph.lookup node
  let (inputIndex, inputNode) ← graph.lookup input
  match target with
  | .call invocation =>
      match invocation.function.inputType? slot with
      | none => throw (.unknownInputSlot invocation.function.name slot)
      | some expected =>
          if expected = inputNode.ty then
            return graph.replace index (.call (invocation.bind slot inputIndex))
          else
            throw (.typeMismatch (.functionInput slot invocation.function.name) expected
              inputNode.ty)
  | other => throw (.unknownInputSlot other.describe slot)

/-- Bind slots of a function node one after another, up to the first binding that is refused.  The
bindings before it stay. -/
def bindEach (graph : ShaderGraph) (node : NodeId) :
    List (String × NodeId) → Except ShaderError Unit × ShaderGraph
  | [] => (.ok (), graph)
  | (slot, input) :: rest =>
      match graph.bind node slot input with
      | .ok bound => bound.bindEach node rest
      | .error e => (.error e, graph)

/-- Label a function node; the label shows in the names of generated temporaries.  Other nodes take
no label. -/
def setLabel (graph : ShaderGraph) (node : NodeId) (label : String) :
    Except ShaderError ShaderGraph := do
  let (index, target) ← graph.lookup node
  match target with
  | .call invocation =>
      let labelled := ShaderNode.call { invocation with label := some label }
      return { graph with nodes := graph.nodes.set index labelled }
  | _ => return graph

/-- Slot of a node that may be a root. -/
def checkRoot (graph : ShaderGraph) (node : NodeId) (place : TypedPlace) :
    Except ShaderError NodeIndex := do
  let (index, root) ← graph.lookup node
  if root.ty = .vec4 then return index
  else throw (.typeMismatch place .vec4 root.ty)

/-- Set the clip-space position, a `vec4`. -/
def setVertexRoot (graph : ShaderGraph) (node : NodeId) : Except ShaderError ShaderGraph := do
  let index ← graph.checkRoot node .vertexRoot
  return { graph with vertexRoot := some index }

/-- Set the color, a `vec4`. -/
def setFragmentRoot (graph : ShaderGraph) (node : NodeId) : Except ShaderError ShaderGraph := do
  let index ← graph.checkRoot node .fragmentRoot
  return { graph with fragmentRoot := some index }

/-- Declare a value that the vertex stage computes and the fragment stage reads.  Declaring a slot
again moves it to another node and keeps its place. -/
def setVary (graph : ShaderGraph) (name : String) (node : NodeId) :
    Except ShaderError ShaderGraph := do
  checkIdentifier name
  let (index, producer) ← graph.lookup node
  if producer.ty.componentCount?.isSome then
    return { graph with varys := graph.varys.insert name index }
  else throw (.typeMismatch (.vary name) .vec4 producer.ty)

/-- Remove every node, root and slot and go on under a new generation. -/
def reset (graph : ShaderGraph) (generation : Nat) : ShaderGraph :=
  { generation, registry := graph.registry, options := graph.options }

end ShaderGraph

/-- The graphs that share one registry and one supply of generations. -/
structure Workspace where
  registry : FunctionRegistry := .empty
  nextGeneration : Nat := 1
  graphs : Array ShaderGraph := #[]
deriving Repr, Inhabited

namespace Workspace

/-- Add an empty graph; its number is the former count of graphs. -/
def newGraph (workspace : Workspace) (options : EntryNames) : Workspace :=
  { workspace with
    nextGeneration := workspace.nextGeneration + 1
    graphs := workspace.graphs.push
      { generation := workspace.nextGeneration, registry := workspace.registry, options } }

/-- Reset a graph under a generation that no graph has had. -/
def resetGraph (workspace : Workspace) (number : Nat) : Workspace :=
  { workspace with
    nextGeneration := workspace.nextGeneration + 1
    graphs := workspace.graphs.modify number (·.reset workspace.nextGeneration) }

/-- Store a graph under its number. -/
def putGraph (workspace : Workspace) (number : Nat) (graph : ShaderGraph) : Workspace :=
  { workspace with graphs := workspace.graphs.setIfInBounds number graph }

end Workspace

end ShaderFlow

/-
Module: ShaderFlow.Shader.StageCode
Purpose: Code of one pipeline stage, generated from the nodes that its outputs reach.
Main exports: StageOutput, StageCode, generateStage
-/
import ShaderFlow.Graph.Order
import ShaderFlow.Shader.Statement
import ShaderFlow.Shader.Temporary

namespace ShaderFlow

/-!
The nodes reached from the outputs are put into dependency order.  Every operation among them gets a
temporary, except one whose only use is a single output: its expression is assigned to the output
directly.  Leaves are referred to in place.
-/

/-- An output of a stage and the node written to it. -/
structure StageOutput where
  target : OutputTarget
  node : NodeIndex
deriving DecidableEq, Repr, Inhabited

/-- The generated pieces of one stage. -/
structure StageCode where
  stage : Stage
  /-- Reached nodes, each after its arguments. -/
  order : List NodeIndex
  /-- Invoked functions in the order of their first use. -/
  functions : List ShaderFunction
  body : StageBody
deriving DecidableEq, Repr, Inhabited

/-- The nodes of a shader graph. -/
abbrev ShaderNodes := DependencyGraph ShaderNode

namespace ShaderNodes

/-- The node in a slot that an output leads to. -/
def nodeAt (nodes : ShaderNodes) (index : NodeIndex) : Except ShaderError ShaderNode :=
  match nodes.get? index with
  | some node => .ok node
  | none => .error (.danglingReference s!"node {index.label}" "stage output")

/-- Description of a slot in traversal errors. -/
def describeSlot (nodes : ShaderNodes) (index : NodeIndex) : String :=
  match nodes.get? index with
  | some node => s!"{node.describe} [{node.variableName index}]"
  | none => s!"node {index.label}"

/-- A traversal error in terms of shader nodes. -/
def traversalError (nodes : ShaderNodes) : TraversalError → ShaderError
  | .cycle node => .graphCycle (nodes.describeSlot node)
  | .missingNode node referencedBy =>
      .danglingReference (nodes.describeSlot node) (nodes.describeSlot referencedBy)
  | .missingRoot root => .danglingReference (nodes.describeSlot root) "stage output"

/-- Dependency order of what the outputs reach. -/
def stageOrder (nodes : ShaderNodes) (outputs : List StageOutput) :
    Except ShaderError (List NodeIndex) :=
  match nodes.orderFrom (outputs.map StageOutput.node) with
  | .ok order => .ok order
  | .error error => .error (nodes.traversalError error)

/-- Attributes exist in the vertex stage only and vary reads in the fragment stage only, and a
function needs all its slots. -/
def checkNode (nodes : ShaderNodes) (stage : Stage) (index : NodeIndex) :
    Except ShaderError Unit := do
  let node ← nodes.nodeAt index
  match node, stage with
  | .vertexAttribute .., .fragment => throw (.stageMismatch node.describe .fragment)
  | .vary .., .vertex => throw (.stageMismatch node.describe .vertex)
  | .call invocation, _ =>
      match invocation.unbound? with
      | some input =>
          throw (.missingBinding (node.variableName index) invocation.function.name input.name)
      | none => return ()
  | _, _ => return ()

/-- The invoked functions, each once, as the registry defines them. -/
def collectFunctions (nodes : ShaderNodes) (registry : FunctionRegistry)
    (functions : List ShaderFunction) (index : NodeIndex) :
    Except ShaderError (List ShaderFunction) := do
  match ← nodes.nodeAt index with
  | .call invocation =>
      let name := invocation.function.name
      if functions.any (·.name = name) then return functions
      else
        match registry.get? name with
        | some definition => return functions ++ [definition]
        | none => throw (.unknownFunction name)
  | _ => return functions

/-- Number of uses of a node: as an argument, counted with multiplicity, and as an output. -/
def useCount (nodes : ShaderNodes) (order : List NodeIndex) (outputs : List StageOutput)
    (index : NodeIndex) : Nat :=
  (order.flatMap nodes.dependencies).count index + (outputs.map StageOutput.node).count index

/-- Whether the node of an output is an operation without other use. -/
def isDirect (nodes : ShaderNodes) (order : List NodeIndex) (outputs : List StageOutput)
    (index : NodeIndex) : Except ShaderError Bool := do
  let node ← nodes.nodeAt index
  return !node.isLeaf && nodes.useCount order outputs index == 1

/-- How a statement refers to a node: by name or literal if it is a leaf, by its temporary
otherwise, which must be among the bound ones. -/
def operandFor (nodes : ShaderNodes) (bound : List NodeIndex) (referencedBy : String)
    (index : NodeIndex) : Except ShaderError Operand :=
  match nodes.get? index with
  | none => .error (.danglingReference s!"node {index.label}" referencedBy)
  | some (.vertexAttribute name _) => .ok (.vertexAttribute name)
  | some (.uniform name _) => .ok (.uniform name)
  | some (.engine quantity) => .ok (.engine quantity)
  | some (.vary name _) => .ok (.vary name)
  | some (.constant value) => .ok (.constant value)
  | some node =>
      if bound.contains index then .ok (.temporary (node.variableName index))
      else .error (.danglingReference (node.variableName index) referencedBy)

/-- The expression that computes a node from its arguments. -/
def expressionFor (nodes : ShaderNodes) (bound : List NodeIndex) (index : NodeIndex)
    (node : ShaderNode) : Except ShaderError Expression := do
  let owner := node.variableName index
  match node with
  | .call invocation =>
      match invocation.unbound? with
      | some input => throw (.missingBinding owner invocation.function.name input.name)
      | none =>
          return .call invocation.function.name
            (← invocation.arguments.mapM (nodes.operandFor bound owner))
  | .fetch texture coordinate => return .fetch texture (← nodes.operandFor bound owner coordinate)
  | .combine ty parts => return .combine ty (← parts.mapM (nodes.operandFor bound owner))
  | .swizzle source mask _ => return .swizzle (← nodes.operandFor bound owner source) mask
  | .vertexAttribute .. | .uniform .. | .engine .. | .vary .. | .constant .. =>
      return .operand (← nodes.operandFor bound owner index)

/-- Temporaries for the operations in a list of nodes, those in `direct` apart; `bound` holds the
nodes that have a temporary already. -/
def letBindings (nodes : ShaderNodes) (direct bound : List NodeIndex) :
    List NodeIndex → Except ShaderError (List LetBinding)
  | [] => .ok []
  | index :: rest => do
      let node ← nodes.nodeAt index
      if node.isLeaf || direct.contains index then nodes.letBindings direct bound rest
      else
        let value ← nodes.expressionFor bound index node
        let later ← nodes.letBindings direct (index :: bound) rest
        return ⟨node.variableName index, node.ty, value⟩ :: later

/-- The assignment of one output. -/
def assignmentFor (nodes : ShaderNodes) (direct bound : List NodeIndex) (output : StageOutput) :
    Except ShaderError Assignment := do
  let node ← nodes.nodeAt output.node
  if direct.contains output.node then
    return ⟨output.target, ← nodes.expressionFor bound output.node node⟩
  else
    return ⟨output.target, .operand (← nodes.operandFor bound output.target.text output.node)⟩

/-- The slots of a list that hold operations outside `direct`: the nodes with a temporary. -/
def boundNodes (nodes : ShaderNodes) (direct order : List NodeIndex) : List NodeIndex :=
  order.filter fun index =>
    !direct.contains index && (nodes.get? index).any fun node => !node.isLeaf

end ShaderNodes

/-- Generate one stage.  The nodes of the outputs are the roots of the traversal, in order. -/
def generateStage (nodes : ShaderNodes) (registry : FunctionRegistry) (stage : Stage)
    (outputs : List StageOutput) : Except ShaderError StageCode := do
  let order ← nodes.stageOrder outputs
  order.forM (nodes.checkNode stage)
  let functions ← order.foldlM (nodes.collectFunctions registry) []
  let direct ← (outputs.map StageOutput.node).filterM (nodes.isDirect order outputs)
  let lets ← nodes.letBindings direct [] order
  let assignments ← outputs.mapM (nodes.assignmentFor direct (nodes.boundNodes direct order))
  return { stage, order, functions, body := { lets, assignments } }

end ShaderFlow

/-
Module: ShaderFlow.Proofs.Shader.BoundedLink
Purpose: Linking with a bound on the traversals, so that closed graphs can be linked by evaluation.
Main exports: generateWithin, generateStage_eq_of_generateWithin, ShaderGraph.linkWithin,
  ShaderGraph.link_eq_of_linkWithin, ShaderGraph.map_link_eq_of_linkWithin
-/
import ShaderFlow.Proofs.Graph.BoundedVisit
import ShaderFlow.Shader.Program

namespace ShaderFlow

/-- A color or a position, for closed graphs. -/
def ShaderValue.vec4 (x y z w : Scalar) : ShaderValue := ⟨.vec4, [x, y, z, w], rfl⟩

variable {nodes : ShaderNodes} {registry : FunctionRegistry} {stage : Stage}
  {outputs : List StageOutput}

/-- The code of a stage along an order of its nodes. -/
def generateAlong (nodes : ShaderNodes) (registry : FunctionRegistry) (stage : Stage)
    (outputs : List StageOutput) (order : List NodeIndex) : Except ShaderError StageCode := do
  order.forM (nodes.checkNode stage)
  let functions ← order.foldlM (nodes.collectFunctions registry) []
  let direct ← (outputs.map StageOutput.node).filterM (nodes.isDirect order outputs)
  let lets ← nodes.letBindings direct [] order
  let assignments ← outputs.mapM (nodes.assignmentFor direct (nodes.boundNodes direct order))
  return { stage, order, functions, body := { lets, assignments } }

/-- Generate one stage, with a bound on the steps of the visit of each output. -/
def generateWithin (steps : Nat) (nodes : ShaderNodes) (registry : FunctionRegistry)
    (stage : Stage) (outputs : List StageOutput) : Option (Except ShaderError StageCode) :=
  match nodes.orderWithin steps (outputs.map StageOutput.node) with
  | some (.ok order) => some (generateAlong nodes registry stage outputs order)
  | some (.error error) => some (.error (nodes.traversalError error))
  | none => none

theorem generateStage_eq_of_generateWithin (steps : Nat) {outcome : Except ShaderError StageCode}
    (ended : generateWithin steps nodes registry stage outputs = some outcome) :
    generateStage nodes registry stage outputs = outcome := by
  unfold generateWithin at ended
  unfold generateStage ShaderNodes.stageOrder
  cases within : nodes.orderWithin steps (outputs.map StageOutput.node) with
  | none =>
      rw [within] at ended
      cases ended
  | some order =>
      rw [within] at ended
      rw [DependencyGraph.orderFrom_eq_of_orderWithin steps within]
      cases order with
      | error error =>
          cases ended
          rfl
      | ok order =>
          cases ended
          rfl

namespace ShaderGraph

variable {graph : ShaderGraph}

/-- Generate and link both stages within a bound. -/
def linkWithin (steps : Nat) (graph : ShaderGraph) : Option (Except ShaderError Program) :=
  match graph.vertexRoot, graph.fragmentRoot with
  | some vertexRoot, some fragmentRoot =>
      match generateWithin steps graph.nodes graph.registry .vertex (graph.vertexOutputs vertexRoot),
        generateWithin steps graph.nodes graph.registry .fragment
          (graph.fragmentOutputs fragmentRoot) with
      | some vertex, some fragment => some do
          let vertex ← vertex
          let fragment ← fragment
          linkProgram graph.nodes graph.options graph.varys vertex fragment
      | _, _ => none
  | _, _ => none

/-- A bounded link that ends does so like the link without bound. -/
theorem link_eq_of_linkWithin (steps : Nat) {outcome : Except ShaderError Program}
    (ended : graph.linkWithin steps = some outcome) : graph.link = outcome := by
  unfold linkWithin at ended
  split at ended
  · next vertexRoot fragmentRoot vertexPlaced fragmentPlaced =>
      split at ended
      · next vertex fragment vertexWithin fragmentWithin =>
          cases ended
          unfold link
          rw [vertexPlaced, fragmentPlaced]
          dsimp only
          rw [generateStage_eq_of_generateWithin steps vertexWithin,
            generateStage_eq_of_generateWithin steps fragmentWithin]
      · cases ended
  · cases ended

theorem map_link_eq_of_linkWithin {β : Type} {view : Program → β} (steps : Nat)
    {outcome : Except ShaderError β}
    (ended : (graph.linkWithin steps).map (·.map view) = some outcome) :
    graph.link.map view = outcome := by
  obtain ⟨linked, within, rfl⟩ := Option.map_eq_some_iff.mp ended
  rw [link_eq_of_linkWithin steps within]

end ShaderGraph

end ShaderFlow

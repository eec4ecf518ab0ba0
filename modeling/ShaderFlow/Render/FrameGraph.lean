/-
Module: ShaderFlow.Render.FrameGraph
Purpose: Frame graphs: targets and passes, checked as they are added.
Main exports: FrameGraph, FrameGraph.addTarget, FrameGraph.addPass, FrameGraph.build
-/
import ShaderFlow.Render.DebugGrid
import ShaderFlow.Render.Pass

namespace ShaderFlow

/-!
A pass can only depend on offscreen targets that an earlier pass already renders, and each offscreen
target has one producer.  So passes run in the order in which they were added, and no dependency
cycle can be expressed.  The arena joins passes to the targets they read and targets to the passes
that write them; walking it back from the screen tells which passes contribute to the picture.
-/

/-- A node of the arena of a frame graph. -/
inductive FrameNode where
  | target (name : String)
  | pass (index : Nat)
deriving DecidableEq, Repr, Inhabited

/-- Targets and passes as they are authored. -/
structure FrameGraph (π ς : Type) where
  targets : OrderedMap String RenderTarget
  passes : List (Pass π ς)
  /-- The pass that renders each offscreen target, by its number. -/
  producers : OrderedMap String Nat
  arena : DependencyGraph FrameNode
  /-- The arena slot of each target. -/
  targetNodes : OrderedMap String NodeIndex
deriving DecidableEq, Repr, Inhabited

/-- A frame graph that is ready to run. -/
structure CompiledGraph (π ς : Type) where
  targets : OrderedMap String RenderTarget
  passes : List (Pass π ς)
deriving DecidableEq, Repr, Inhabited

namespace FrameGraph

variable {π ς ε : Type}

/-- Arena slot of the screen target. -/
def screenNode : NodeIndex := 0

/-- Register a target without checks. -/
def insertTarget (graph : FrameGraph π ς) (target : RenderTarget) : FrameGraph π ς :=
  { graph with
    targets := graph.targets.insert target.name target
    targetNodes := graph.targetNodes.insert target.name graph.arena.size
    arena := graph.arena.add (.target target.name) }

/-- The graph that holds only the screen target. -/
def new : FrameGraph π ς :=
  insertTarget
    { targets := .empty, passes := [], producers := .empty, arena := .empty,
      targetNodes := .empty }
    .screen

/-- Register an offscreen target under a name of its own. -/
def addTarget (graph : FrameGraph π ς) (target : RenderTarget) :
    Except (RenderError ε) (FrameGraph π ς) :=
  if graph.targets.contains target.name then .error (.duplicateTarget target.name)
  else .ok (graph.insertTarget target)

/-- The target of a given name, if a pass already renders into it.  The screen is never read. -/
def dependencyTarget? (graph : FrameGraph π ς) (name : String) : Option RenderTarget :=
  (graph.targets.get? name).filter fun target =>
    !target.isScreen && graph.producers.contains name

/-- Arena slots of the dependencies of a pass. -/
def inputNodes (graph : FrameGraph π ς) (pass : Pass π ς) :
    List String → Except (RenderError ε) (List NodeIndex)
  | [] => .ok []
  | name :: rest =>
      match (graph.dependencyTarget? name).bind fun _ => graph.targetNodes.get? name with
      | none => .error (.dependencyNotFound pass.name name)
      | some node => do
          let nodes ← graph.inputNodes pass rest
          return node :: nodes

/-- The pass that already renders the output of a pass, unless that is the screen. -/
def producer? (graph : FrameGraph π ς) (pass : Pass π ς) : Option (Pass π ς) :=
  if pass.rendersToScreen then none
  else (graph.producers.get? pass.output).bind fun number => graph.passes[number]?

/-- Append a pass without checks. -/
def insertPass (graph : FrameGraph π ς) (pass : Pass π ς) (output : NodeIndex)
    (inputs : List NodeIndex) : FrameGraph π ς :=
  let number := graph.passes.length
  let node := graph.arena.size
  { graph with
    passes := graph.passes ++ [pass]
    producers :=
      if pass.rendersToScreen then graph.producers else graph.producers.insert pass.output number
    arena := ((graph.arena.add (.pass number)).setDependencies node inputs).connect output node }

/-- Append a pass.  A failure leaves no trace. -/
def addPass (graph : FrameGraph π ς) (pass : Pass π ς) :
    Except (RenderError ε) (FrameGraph π ς) :=
  if graph.passes.any (·.name = pass.name) then .error (.duplicatePass pass.name)
  else
    match graph.targetNodes.get? pass.output with
    | none => .error (.unknownTarget pass.name pass.output)
    | some output => do
        pass.validate
        let inputs ← graph.inputNodes pass pass.dependencies.values
        match graph.producer? pass with
        | some producer => throw (.duplicateProducer pass.output producer.name pass.name)
        | none => return graph.insertPass pass output inputs

/-- A traversal error in terms of targets and passes. -/
def traversalError (graph : FrameGraph π ς) : TraversalError → RenderError ε
  | .cycle node =>
      let description :=
        match graph.arena.get? node with
        | some (.target name) => s!"target '{name}'"
        | some (.pass number) =>
            let name := (graph.passes[number]?.map Pass.name).getD ""
            s!"pass '{name}'"
        | none => s!"node {node.label}"
      .graphCycle description
  | error => .frame error

/-- Numbers of the passes among the nodes of an order. -/
def passNumbers (graph : FrameGraph π ς) (order : List NodeIndex) : List Nat :=
  order.filterMap fun node =>
    match graph.arena.get? node with
    | some (.pass number) => some number
    | _ => none

/-- Warnings of a build, given the numbers of the passes that contribute to the screen. -/
def buildWarnings (graph : FrameGraph π ς) (contributing : List Nat) : List RenderWarning :=
  let noScreen : List RenderWarning :=
    if graph.passes.any Pass.rendersToScreen then [] else [.noScreenPass]
  noScreen ++ graph.passes.zipIdx.filterMap fun (pass, number) =>
    if contributing.contains number then none else some (.idlePass pass.name)

/-- Freeze the graph.  Passes that do not contribute to the screen are reported and run all the
same. -/
def build (graph : FrameGraph π ς) :
    Except (RenderError ε) (CompiledGraph π ς × List RenderWarning) :=
  match graph.arena.order screenNode with
  | .error error => .error (graph.traversalError error)
  | .ok order =>
      .ok ({ targets := graph.targets, passes := graph.passes },
        graph.buildWarnings (graph.passNumbers order))

end FrameGraph

end ShaderFlow

/-
Module: ShaderFlow.Render.FrameRun
Purpose: Execution of a frame on a renderer.
Main exports: FrameRun, CompiledGraph.run
-/
import ShaderFlow.Render.FrameGraph
import ShaderFlow.Render.PassRun

namespace ShaderFlow

/-- What remains of the execution of a frame. -/
structure FrameRun (σ π ς ε : Type) where
  result : Except (RenderError ε) Unit
  state : σ
  /-- The graph with its debug cells and the wiring that its programs now have. -/
  graph : CompiledGraph π ς
  warnings : List RenderWarning := []

namespace CompiledGraph

variable {σ φ π ς ε : Type} [Renderer σ φ π ς ε]

/-- Targets with the cells of a frame: all of them in the debug view, none otherwise. -/
def frameTargets (graph : CompiledGraph π ς) (surface : Extent) (options : FrameOptions) :
    OrderedMap String RenderTarget :=
  if options.debugView then options.grid.assign surface graph.targets
  else DebugGrid.clear graph.targets

/-- Run passes in turn until one fails.  The passes come back in order, with the wiring of those
that ran. -/
def runPasses (targets : OrderedMap String RenderTarget) (debugView : Bool) :
    List (Pass π ς) → σ → Except (RenderError ε) Unit × List (Pass π ς) × List RenderWarning × σ
  | [], state => (.ok (), [], [], state)
  | pass :: rest, state =>
      let run := pass.run targets debugView state
      match run.result with
      | .error error => (.error error, run.pass :: rest, run.warnings, run.state)
      | .ok () =>
          let (result, passes, warnings, state) := runPasses targets debugView rest run.state
          (result, run.pass :: passes, run.warnings ++ warnings, state)

/-- Run every pass in order. -/
def run (graph : CompiledGraph π ς) (options : FrameOptions) (state : σ) : FrameRun σ π ς ε :=
  let targets := graph.frameTargets (Renderer.surfaceSize state) options
  let (result, passes, warnings, state) :=
    runPasses targets options.debugView graph.passes state
  { result, state, graph := { targets, passes }, warnings }

end CompiledGraph

end ShaderFlow

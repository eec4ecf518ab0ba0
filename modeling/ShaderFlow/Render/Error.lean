/-
Module: ShaderFlow.Render.Error
Purpose: Causes of failure and of warnings while a frame graph is built or run.
Main exports: RenderError, RenderError.message, RenderWarning
-/
import ShaderFlow.Graph.Order

namespace ShaderFlow

/-- Why a step of building or running a frame graph failed; `ε` are the errors of the renderer. -/
inductive RenderError (ε : Type) where
  | dependencyNotFound (pass texture : String)
  | selfDependency (pass target : String)
  | emptyPass (pass : String)
  | unknownTarget (pass target : String)
  | duplicateTarget (target : String)
  | duplicatePass (pass : String)
  | duplicateProducer (target producer pass : String)
  | graphCycle (node : String)
  | frame (error : TraversalError)
  | backend (error : ε)
deriving DecidableEq, Repr

namespace RenderError

variable {ε : Type}

/-- Title of the kind of error. -/
def kind : RenderError ε → String
  | dependencyNotFound .. => "DependencyNotFound"
  | selfDependency .. => "SelfDependency"
  | emptyPass .. => "EmptyPass"
  | unknownTarget .. => "UnknownTarget"
  | duplicateTarget .. => "DuplicateTarget"
  | duplicatePass .. => "DuplicatePass"
  | duplicateProducer .. => "DuplicateProducer"
  | graphCycle .. => "GraphCycle"
  | frame .. => "Frame"
  | backend .. => "Backend"

/-- Message of an error; errors of the renderer speak for themselves. -/
def message (rendererMessage : ε → String) : RenderError ε → String
  | dependencyNotFound pass texture =>
      s!"pass '{pass}' depends on texture '{texture}', which no earlier pass renders"
  | selfDependency pass target => s!"pass '{pass}' depends on its own output target '{target}'"
  | emptyPass pass => s!"pass '{pass}' renders offscreen but has no render sources"
  | unknownTarget pass target => s!"pass '{pass}' outputs to unknown target '{target}'"
  | duplicateTarget target => s!"a render target named '{target}' already exists"
  | duplicatePass pass => s!"a pass named '{pass}' already exists"
  | duplicateProducer target producer pass =>
      s!"target '{target}' is already rendered by pass '{producer}', so pass '{pass}' cannot " ++
        "write it"
  | graphCycle node => s!"render graph cycle through {node}"
  | frame error => s!"invalid frame graph: {error.message}"
  | backend error => rendererMessage error

end RenderError

/-- What is reported without being a failure. -/
inductive RenderWarning where
  | noScreenPass
  | idlePass (pass : String)
  | skippedCell (target : String)
deriving DecidableEq, Repr, Inhabited

/-- Message of a warning. -/
def RenderWarning.message : RenderWarning → String
  | noScreenPass => "render graph has no pass writing to the screen"
  | idlePass pass => s!"pass '{pass}' does not contribute to the screen output"
  | skippedCell target =>
      s!"debug view: target '{target}' has no framebuffer or viewport; skipped"

end ShaderFlow

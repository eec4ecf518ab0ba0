/-
Module: ShaderFlow.Proofs.Gpu.Realization
Purpose: What it means that a pass on the GPU carries out a recorded command.
Main exports: Attachment, GpuBackend.attachment?, ProgramNaming, GpuProgram.recorded, GpuStep.recorded,
  GpuSource.recorded, Pass.recorded, CompiledGraph.recorded, Realizes, GpuBackend.InState,
  GpuBackend.InState.realizes_draw
-/
import ShaderFlow.Proofs.Gpu.Framebuffers
import ShaderFlow.Proofs.Headless.Openings
import ShaderFlow.Proofs.Render.DebugCells

namespace ShaderFlow

/-!
The recording renderer knows targets by name, areas by how they were set, and programs by what it
remembers of them.  The GPU renderer knows views, rectangles and pipelines.  A recorded command is
carried out by a pass on the views of its target; a draw also starts with the viewport and the program
that the record gives.
-/

/-- What a pass is recorded on. -/
structure Attachment where
  color : Handle .view
  depth : Option (Handle .view)
  size : Extent
deriving DecidableEq, Repr, Inhabited

namespace GpuBackend

/-- What stands for a target in a frame with the given view of the surface. -/
def attachment? (backend : GpuBackend) (view : Handle .view) : DrawTarget → Option Attachment
  | .screen => some ⟨view, some backend.screenDepth.view, backend.surfaceSize⟩
  | .framebuffer name => (backend.framebuffers.get? name).map fun framebuffer =>
      ⟨framebuffer.colorView, framebuffer.depth.map DepthBuffer.view, framebuffer.descriptor.size⟩

/-- What the bound target is recorded on. -/
def attachment (backend : GpuBackend) (frame : GpuFrame) : Attachment :=
  ⟨(backend.attachments frame).1, (backend.attachments frame).2, backend.targetSize⟩

end GpuBackend

/-- The rectangle of an area on a target of the given size. -/
def DrawArea.on (size : Extent) : DrawArea → Viewport
  | .whole => .full size
  | .rectangle viewport => viewport

/-! ### What is remembered of a graph -/

/-- Labels for programs; they can tell any two programs apart, whatever their wiring. -/
abbrev ProgramNaming := ProgramResources → OrderedMap String ShaderValue → String

/-- What the recording renderer remembers of a program. -/
def GpuProgram.recorded (naming : ProgramNaming) (program : GpuProgram) : HeadlessProgram where
  label := naming program.resources program.values
  inputs := program.textureInputs

/-- A step of draw work as the recording renderer takes it: a submission is a draw under its label. -/
def GpuStep.recorded : GpuStep → SourceStep
  | submit submission => .draw submission.label
  | fail error => .fail error.kind

/-- Draw work as the recording renderer takes it. -/
def GpuSource.recorded (source : GpuSource) : HeadlessSource where
  steps := source.steps.map GpuStep.recorded

/-- A pass with programs and draw work as the recording renderer takes them. -/
def Pass.recorded (naming : ProgramNaming) (pass : Pass GpuProgram GpuSource) :
    Pass HeadlessProgram HeadlessSource where
  name := pass.name
  output := pass.output
  sources := pass.sources.map GpuSource.recorded
  dependencies := pass.dependencies
  clearsColor := pass.clearsColor
  clearsDepth := pass.clearsDepth
  clearColor := pass.clearColor
  override := pass.override.map (GpuProgram.recorded naming)

/-- A graph as the recording renderer takes it. -/
def CompiledGraph.recorded (naming : ProgramNaming) (graph : CompiledGraph GpuProgram GpuSource) :
    CompiledGraph HeadlessProgram HeadlessSource where
  targets := graph.targets
  passes := graph.passes.map (Pass.recorded naming)

/-! ### Passes for commands -/

/-- The calls that bind a program, on a target with a depth buffer or without one, and the bind group
of its textures. -/
def GpuProgram.bindingCalls (deep : Bool) (applied : GpuProgram × Handle .bindGroup) :
    List GpuEvent :=
  [.setPipeline (if deep then applied.1.resources.depthPipeline else applied.1.resources.pipeline),
    .setBindGroup uniformGroup applied.1.resources.uniformGroup,
    .setBindGroup textureGroup applied.2]

/-- The pass carries out the command.  Clears are load operations of passes without commands, so they
concern the whole target, whatever viewport and program are in force.  A draw keeps what the target
holds; it starts with the viewport and the program, and goes on with the commands of its source. -/
inductive Realizes (attach : DrawTarget → Option Attachment) (naming : ProgramNaming) :
    Command × DrawState → ListedPass → Prop where
  | clearColor {color : Color} {state : DrawState} {target : DrawTarget} {attachment : Attachment}
      {encoder : Handle .encoder} (bound : state.target = some target)
      (held : attach target = some attachment) :
      Realizes attach naming (.clearColor color, state)
        { encoder, label := "Clear Color", color := attachment.color, colorLoad := .clear color
          depth := attachment.depth.map (·, .keep), body := [] }
  | clearDepth {state : DrawState} {target : DrawTarget} {attachment : Attachment}
      {encoder : Handle .encoder} {depth : Handle .view} (bound : state.target = some target)
      (held : attach target = some attachment) (deep : attachment.depth = some depth) :
      Realizes attach naming (.clearDepth, state)
        { encoder, label := "Clear Depth", color := attachment.color, colorLoad := .keep
          depth := some (depth, .clear .one), body := [] }
  | draw {label : String} {state : DrawState} {target : DrawTarget} {area : DrawArea}
      {attachment : Attachment} {encoder : Handle .encoder}
      {prepared : Option (GpuProgram × Handle .bindGroup)} {commands : List GpuEvent}
      (bound : state.target = some target) (held : attach target = some attachment)
      (covered : state.area = some area)
      (installed : prepared.map (·.1.recorded naming) = state.override)
      (proper : ∀ event ∈ commands, event.inPass = true) :
      Realizes attach naming (.draw label, state)
        { encoder, label, color := attachment.color, colorLoad := .keep
          depth := attachment.depth.map (·, .keep)
          body := .setViewport (area.on attachment.size) ::
            (prepared.toList.flatMap (GpuProgram.bindingCalls attachment.depth.isSome) ++
              commands) }

/-- Which passes carry out a command only depends on what stands for the target of the command. -/
theorem Realizes.congr {attach other : DrawTarget → Option Attachment} {naming : ProgramNaming}
    {opening : Command × DrawState} {pass : ListedPass} (realizes : Realizes attach naming opening pass)
    (same : ∀ target, opening.2.target = some target → other target = attach target) :
    Realizes other naming opening pass := by
  cases realizes with
  | clearColor bound held => exact .clearColor bound ((same _ bound).trans held)
  | clearDepth bound held deep => exact .clearDepth bound ((same _ bound).trans held) deep
  | draw bound held covered installed proper =>
      exact .draw bound ((same _ bound).trans held) covered installed proper

/-! ### The renderer in the state of a record -/

/-- Target, area and program of the renderer are those of the state, and the area lies on the target. -/
structure GpuBackend.InState (backend : GpuBackend) (frame : GpuFrame) (naming : ProgramNaming)
    (state : DrawState) : Prop where
  bound : ∃ target, state.target = some target ∧
    backend.attachment? frame.view target = some (backend.attachment frame)
  covered : ∃ area, state.area = some area ∧
    backend.viewport.getD (.full backend.targetSize) = area.on backend.targetSize ∧
    (area.on backend.targetSize).Fits backend.targetSize
  installed : backend.override.map (GpuProgram.recorded naming) = state.override

namespace GpuBackend.InState

variable {backend : GpuBackend} {frame : GpuFrame} {naming : ProgramNaming} {state : DrawState}

theorem realizes_clearColor (inState : backend.InState frame naming state) (color : Color) :
    Realizes (backend.attachment? frame.view) naming (.clearColor color, state)
      (backend.clearPass frame "Clear Color" (.clear color) .keep) := by
  obtain ⟨target, bound, held⟩ := inState.bound
  exact .clearColor bound held

theorem realizes_clearDepth (inState : backend.InState frame naming state)
    (deep : backend.targetHasDepth = true) :
    Realizes (backend.attachment? frame.view) naming (.clearDepth, state)
      (backend.clearPass frame "Clear Depth" .keep (.clear .one)) := by
  obtain ⟨target, bound, held⟩ := inState.bound
  have attached : (backend.attachments frame).2.isSome = true := by
    rw [← deep, attachments, targetHasDepth]
    cases backend.target with
    | screen => rfl
    | framebuffer framebuffer => exact Option.isSome_map
  obtain ⟨depth, found⟩ := Option.isSome_iff_exists.mp attached
  rw [clearPass, found]
  exact .clearDepth bound held found

theorem realizes_draw (inState : backend.InState frame naming state) (label : String)
    {prepared : Option (GpuProgram × Handle .bindGroup)} {commands : List GpuEvent}
    (installed : prepared.map Prod.fst = backend.override)
    (proper : ∀ event ∈ commands, event.inPass = true) :
    Realizes (backend.attachment? frame.view) naming (.draw label, state)
      (backend.drawnPass frame label prepared commands) := by
  obtain ⟨target, bound, held⟩ := inState.bound
  obtain ⟨area, covered, same, fits⟩ := inState.covered
  have recorded : prepared.map (·.1.recorded naming) = state.override := by
    rw [← inState.installed, ← installed, Option.map_map]
    rfl
  rw [drawnPass, same, Viewport.clamp?_of_fits fits, Option.toList_some, List.map_singleton,
    List.singleton_append, List.cons_append]
  exact .draw bound held covered recorded proper

end GpuBackend.InState

end ShaderFlow

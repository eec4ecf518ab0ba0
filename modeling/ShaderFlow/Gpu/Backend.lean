/-
Module: ShaderFlow.Gpu.Backend
Purpose: The GPU renderer: frames, bound target, programs, draws.
Main exports: GpuBackend, GpuBackend.beginFrame, GpuBackend.endFrame, GpuBackend.renderPass,
  GpuBackend.createProgram
-/
import ShaderFlow.Gpu.Blitter
import ShaderFlow.Gpu.Program
import ShaderFlow.Render.Renderer

namespace ShaderFlow

/-!
A frame is recorded into command encoders.  Writes to uniform buffers take effect at the next
submission, so before uniforms are written everything recorded so far is submitted and recording goes
on in a fresh encoder.  Rectangles of the debug view are kept until the end of the frame, so that
clearing the screen cannot wipe them.
-/

/-- A frame in progress. -/
structure GpuFrame where
  /-- View of the texture acquired from the surface. -/
  view : Handle .view
  encoder : Handle .encoder
deriving DecidableEq, Repr, Inhabited

/-- What draws go to. -/
inductive BoundTarget where
  | screen
  | framebuffer (framebuffer : GpuFramebuffer)
deriving DecidableEq, Repr, Inhabited

/-- State of the GPU renderer. -/
structure GpuBackend where
  device : Device
  /-- Size that the surface is configured to. -/
  surfaceSize : Extent
  /-- Largest side of a texture. -/
  limit : Nat
  screenDepth : DepthBuffer
  blitter : Blitter
  frame : Option GpuFrame := none
  framebuffers : OrderedMap String GpuFramebuffer := .empty
  target : BoundTarget := .screen
  /-- Rectangle that draws are restricted to, or the whole target. -/
  viewport : Option Viewport := none
  clearColor : Color := .black
  override : Option GpuProgram := none
  engineValues : OrderedMap EngineUniform ShaderValue := .empty
  programs : OrderedMap ProgramKey ProgramResources := .empty
  pendingBlits : List (GpuFramebuffer × Viewport) := []
deriving Inhabited

/-- Steps of the GPU renderer. -/
abbrev GpuAction := Action GpuBackend GpuError

namespace GpuBackend

/-- A step on the device. -/
def onDevice {α : Type} (step : DeviceM α) : GpuAction α := fun backend =>
  let (value, device) := step backend.device
  (.ok value, { backend with device })

/-- A renderer on a surface of the given size. -/
def create (surfaceSize : Extent) (limit : Nat) (device : Device) : GpuBackend :=
  let setup : DeviceM (DepthBuffer × Blitter) := do
    Device.emit (.configure surfaceSize)
    let screenDepth ← DepthBuffer.create "Screen Depth" surfaceSize
    let blitter ← Blitter.create
    return (screenDepth, blitter)
  let ((screenDepth, blitter), device) := setup device
  { device, surfaceSize, limit, screenDepth, blitter }

/-- Resize the surface.  A size without pixels, as of a minimized window, is ignored. -/
def resize (backend : GpuBackend) (size : Extent) : GpuBackend :=
  if 0 < size.width ∧ 0 < size.height then
    { backend with
      surfaceSize := size
      device := (Device.emit (.configure size) backend.device).2 }
  else backend

/-- Width divided by height. -/
def aspect (backend : GpuBackend) : Scalar :=
  (Scalar.ofNat backend.surfaceSize.width.toNat).div
    (Scalar.ofNat backend.surfaceSize.height.toNat)

/-! ### Programs and engine uniforms -/

/-- A program for vertices of the given layout.  Programs of the same label, source and layout share
their resources. -/
def createProgram (label : String) (descriptor : ProgramDescriptor) (layout : VertexLayout) :
    GpuAction GpuProgram := do
  let key := ProgramKey.of label descriptor layout
  match (← get).programs.get? key with
  | some resources => return .ofResources resources
  | none =>
      match ← onDevice (ProgramResources.create label descriptor layout) with
      | .error error => throw error
      | .ok resources =>
          modify fun backend => { backend with programs := backend.programs.insert key resources }
          return .ofResources resources

/-- Set an engine uniform for every program that is bound from now on. -/
def setEngineUniform (quantity : EngineUniform) (value : ShaderValue) : GpuAction Unit := do
  if value.ty = quantity.ty then
    modify fun backend =>
      { backend with engineValues := backend.engineValues.insert quantity value }
  else throw (.uniformType quantity.name quantity.ty value.ty)

/-- Value of an engine uniform that nobody has set: the resolution is the size of the bound
target. -/
def defaultEngineValue (quantity : EngineUniform) (target : Extent) : ShaderValue :=
  match quantity with
  | .resolution => .vec2 (.ofNat target.width.toNat) (.ofNat target.height.toNat)
  | other => .defaultFor other.ty

/-- Value of an engine uniform. -/
def engineValue (backend : GpuBackend) (target : Extent) (quantity : EngineUniform) : ShaderValue :=
  (backend.engineValues.get? quantity).getD (defaultEngineValue quantity target)

/-! ### Targets -/

/-- Size of the bound target. -/
def targetSize (backend : GpuBackend) : Extent :=
  match backend.target with
  | .screen => backend.surfaceSize
  | .framebuffer framebuffer => framebuffer.descriptor.size

/-- Whether the bound target has a depth buffer. -/
def targetHasDepth (backend : GpuBackend) : Bool :=
  match backend.target with
  | .screen => true
  | .framebuffer framebuffer => framebuffer.depth.isSome

/-- Color and depth views of the bound target in a frame. -/
def attachments (backend : GpuBackend) (frame : GpuFrame) : Handle .view × Option (Handle .view) :=
  match backend.target with
  | .screen => (frame.view, some backend.screenDepth.view)
  | .framebuffer framebuffer => (framebuffer.colorView, framebuffer.depth.map DepthBuffer.view)

/-- Bind the display surface. -/
def bindScreen (backend : GpuBackend) : GpuBackend :=
  { backend with target := .screen, viewport := none }

/-- Bind a framebuffer. -/
def bindFramebuffer (framebuffer : GpuFramebuffer) (backend : GpuBackend) : GpuBackend :=
  { backend with target := .framebuffer framebuffer, viewport := none }

/-- The framebuffer of a descriptor, created anew if the last one of its name differs. -/
def ensureFramebuffer (descriptor : FramebufferDescriptor) : GpuAction GpuFramebuffer := do
  let backend ← get
  match (backend.framebuffers.get? descriptor.name).filter (·.descriptor = descriptor) with
  | some existing => return existing
  | none =>
      if backend.limit < descriptor.size.width.toNat ∨
          backend.limit < descriptor.size.height.toNat then
        throw (.framebufferTooLarge descriptor.name descriptor.size backend.limit)
      let framebuffer ← onDevice (GpuFramebuffer.create descriptor)
      modify fun backend =>
        { backend with framebuffers := backend.framebuffers.insert descriptor.name framebuffer }
      return framebuffer

/-! ### Frames -/

/-- The frame in progress. -/
def currentFrame : GpuAction GpuFrame := do
  match (← get).frame with
  | some frame => return frame
  | none => throw .noFrame

/-- Acquire a texture from the surface.  A stale surface is configured once more before giving
up. -/
def acquireSurface : GpuAction Unit := do
  let status ← onDevice Device.acquire
  if status.isAcquired then return ()
  else if status.isStale then
    onDevice (Device.emit (.configure (← get).surfaceSize))
    let again ← onDevice Device.acquire
    if again.isAcquired then return () else throw (.surface again)
  else throw (.surface status)

/-- Make the depth buffer of the screen as large as the surface. -/
def fitScreenDepth : GpuAction Unit := do
  let size := (← get).surfaceSize
  if (← get).screenDepth.size = size then return ()
  else
    let screenDepth ← onDevice (DepthBuffer.create "Screen Depth" size)
    modify fun backend => { backend with screenDepth }

/-- Acquire the next surface texture and start recording. -/
def beginFrame : GpuAction Unit := do
  if (← get).frame.isSome then throw .frameInProgress
  acquireSurface
  let view ← onDevice (Device.createView .surface)
  fitScreenDepth
  let encoder ← onDevice Device.createEncoder
  modify fun backend =>
    { backend with
      frame := some { view, encoder }, target := .screen, viewport := none, override := none,
      pendingBlits := [] }

/-- Draw pending rectangles of the debug view onto the surface, in one pass. -/
def drawBlits (blitter : Blitter) (frame : GpuFrame) (surface : Extent)
    (blits : List (GpuFramebuffer × Viewport)) : DeviceM Unit := do
  if blits.isEmpty then return ()
  let groups ← blits.mapM fun (framebuffer, viewport) => do
    let group ← blitter.bindGroup framebuffer.colorView
    return (group, viewport)
  Device.emit (.beginPass frame.encoder "Debug View" frame.view .keep none)
  groups.forM fun (group, viewport) => (viewport.clamp? surface).forM (blitter.draw group)
  Device.emit .endPass

/-- Draw pending rectangles, submit the frame and present it. -/
def endFrame : GpuAction Unit := do
  let frame ← currentFrame
  let backend ← get
  set { backend with frame := none, pendingBlits := [] }
  onDevice do
    drawBlits backend.blitter frame backend.surfaceSize backend.pendingBlits
    Device.emit (.submit [frame.encoder])
    Device.emit .present

/-- Submit everything recorded so far and go on in a fresh encoder. -/
def flush : GpuAction Unit := do
  let frame ← currentFrame
  let encoder ← onDevice Device.createEncoder
  modify fun backend => { backend with frame := some { frame with encoder } }
  onDevice (Device.emit (.submit [frame.encoder]))

/-! ### Passes -/

/-- Open and close a pass that only clears. -/
def clear (label : String) (colorLoad : ColorLoad) (depthLoad : DepthLoad) : GpuAction Unit := do
  let frame ← currentFrame
  let (color, depth) := (← get).attachments frame
  onDevice do
    Device.emit (.beginPass frame.encoder label color colorLoad (depth.map (·, depthLoad)))
    Device.emit .endPass

/-- Clear the color of the bound target. -/
def clearTargetColor : GpuAction Unit := do
  clear "Clear Color" (.clear (← get).clearColor) .keep

/-- Clear the depth of the bound target, if it has any. -/
def clearTargetDepth : GpuAction Unit := do
  if (← get).targetHasDepth then clear "Clear Depth" .keep (.clear .one) else return ()

/-- Upload the uniforms of a program and create the bind group of its textures. -/
def prepareProgram (program : GpuProgram) (target : Extent) : GpuAction (Handle .bindGroup) := do
  if !program.descriptor.uniforms.isEmpty then
    flush
    let backend ← get
    onDevice (program.writeUniforms (backend.engineValue target))
  match program.textureBindings (← get).framebuffers with
  | .error error => throw error
  | .ok bindings =>
      onDevice (Device.createBindGroup s!"{program.label} textures"
        program.resources.textureLayout bindings)

/-- Restrict a pass to the part of a viewport that lies on its target, if there is any. -/
def applyViewport (viewport : Viewport) (target : Extent) : DeviceM Unit :=
  (viewport.clamp? target).forM fun visible => Device.emit (.setViewport visible)

/-- Bind the pipeline, the uniforms and the textures of a program. -/
def applyProgram (program : GpuProgram) (hasDepth : Bool) (textures : Handle .bindGroup) :
    DeviceM Unit := do
  Device.emit (.setPipeline
    (if hasDepth then program.resources.depthPipeline else program.resources.pipeline))
  Device.emit (.setBindGroup uniformGroup program.resources.uniformGroup)
  Device.emit (.setBindGroup textureGroup textures)

/-- The installed program, ready to be bound, with the bind group of its textures. -/
def prepareOverride (target : Extent) : GpuAction (Option (GpuProgram × Handle .bindGroup)) := do
  match (← get).override with
  | none => return none
  | some program =>
      let textures ← prepareProgram program target
      return some (program, textures)

/-- Open a pass on the bound target that keeps its contents, with viewport and program applied, draw,
and close it. -/
def renderPass (label : String) (draws : DeviceM Unit) : GpuAction Unit := do
  let _ ← currentFrame
  let size := (← get).targetSize
  let prepared ← prepareOverride size
  let frame ← currentFrame
  let backend ← get
  let (color, depth) := backend.attachments frame
  onDevice do
    Device.emit (.beginPass frame.encoder label color .keep (depth.map (·, .keep)))
    applyViewport (backend.viewport.getD (.full size)) size
    prepared.forM fun (program, textures) => applyProgram program depth.isSome textures
    draws
    Device.emit .endPass

end GpuBackend

end ShaderFlow

/-
Module: ShaderFlow.Gpu.Source
Purpose: Draw work for the GPU renderer, and the renderer as the frame graph sees it.
Main exports: FullscreenQuad, GpuSubmission, GpuStep, GpuSource, GpuSource.submit
-/
import ShaderFlow.Gpu.Backend

namespace ShaderFlow

/-- A quad over the whole viewport, for passes that work on images. -/
structure FullscreenQuad where
  vertexBuffer : Handle .buffer
  indexBuffer : Handle .buffer
deriving DecidableEq, Repr, Inhabited

namespace FullscreenQuad

/-- Layout of the vertices of the quad. -/
def layout : VertexLayout := ⟨[("position", .vec3), ("uv", .vec2)]⟩

/-- Minus one. -/
def minusOne : Scalar := ⟨0xBF800000⟩

/-- Clip-space position and texture coordinate of each corner; texture coordinates start at the top
left. -/
def corners : List (List Scalar) :=
  [[minusOne, minusOne, .zero, .zero, .one], [.one, minusOne, .zero, .one, .one],
    [.one, .one, .zero, .one, .zero], [minusOne, .one, .zero, .zero, .zero]]

/-- Corners of the two triangles. -/
def indices : List Nat := [0, 1, 2, 2, 3, 0]

/-- Two bytes of an index, the lower first. -/
def indexBytes (index : Nat) : List UInt8 := [UInt8.ofNat index, UInt8.ofNat (index / 256)]

/-- Create the buffers of a quad. -/
def create : DeviceM FullscreenQuad := do
  let vertexBuffer ← Device.createBuffer "Fullscreen Quad Vertex Buffer" [.vertex]
    (corners.flatMap fun corner => corner.flatMap Scalar.bytes)
  let indexBuffer ← Device.createBuffer "Fullscreen Quad Index Buffer" [.index]
    (indices.flatMap indexBytes)
  return { vertexBuffer, indexBuffer }

/-- Draw the quad in an open pass. -/
def draw (quad : FullscreenQuad) : DeviceM Unit := do
  Device.emit (.setVertexBuffer 0 quad.vertexBuffer 0)
  Device.emit (.setIndexBuffer quad.indexBuffer 0)
  Device.emit (.drawIndexed ⟨0, indices.length⟩ 0 ⟨0, 1⟩)

/-- Draw the quad in a pass of its own.  It has no material, so a program must be installed. -/
def submit (quad : FullscreenQuad) : GpuAction Unit := do
  if (← get).override.isNone then throw .noProgram
  GpuBackend.renderPass "Fullscreen Quad" quad.draw

end FullscreenQuad

/-- One pass of draw work. -/
inductive GpuSubmission where
  | quad (buffers : FullscreenQuad)
  /-- One triangle in a pass of the given label. -/
  | triangle (label : String)
  /-- Any commands in a pass of the given label. -/
  | pass (label : String) (commands : List PassCommand)
deriving DecidableEq, Repr, Inhabited

/-- Open, fill and close the pass. -/
def GpuSubmission.submit : GpuSubmission → GpuAction Unit
  | quad buffers => buffers.submit
  | triangle label => GpuBackend.renderPass label (Device.emit (.draw ⟨0, 3⟩ ⟨0, 1⟩))
  | pass label commands => GpuBackend.renderPass label (PassCommand.record commands)

/-- A step of draw work. -/
inductive GpuStep where
  | submit (submission : GpuSubmission)
  /-- A failure, which ends the work. -/
  | fail (error : GpuError)
deriving DecidableEq, Repr, Inhabited

/-- Take a step of draw work. -/
def GpuStep.take : GpuStep → GpuAction Unit
  | submit submission => submission.submit
  | fail error => throw error

/-- Draw work for the GPU: any number of steps, taken in order until one fails. -/
structure GpuSource where
  steps : List GpuStep
deriving DecidableEq, Repr, Inhabited

namespace GpuSource

/-- Work of one quad. -/
def quad (buffers : FullscreenQuad) : GpuSource := ⟨[.submit (.quad buffers)]⟩

/-- Work of one triangle. -/
def triangle (label : String) : GpuSource := ⟨[.submit (.triangle label)]⟩

/-- Submit draw work. -/
def submit (source : GpuSource) : GpuAction Unit := Action.each GpuStep.take source.steps

end GpuSource

instance : Renderer GpuBackend GpuFramebuffer GpuProgram GpuSource GpuError where
  surfaceSize := GpuBackend.surfaceSize
  bindScreen := GpuBackend.bindScreen
  bindFramebuffer := GpuBackend.bindFramebuffer
  setViewport := fun viewport backend => { backend with viewport := some viewport }
  coverTarget := fun backend => { backend with viewport := none }
  clearColorValue := GpuBackend.clearColor
  setClearColor := fun clearColor backend => { backend with clearColor }
  clearColor := GpuBackend.clearTargetColor
  clearDepth := GpuBackend.clearTargetDepth
  setOverride := fun override backend => { backend with override }
  ensureFramebuffer := GpuBackend.ensureFramebuffer
  framebuffer? := fun name backend => backend.framebuffers.get? name
  renderFramebuffer := fun framebuffer viewport backend =>
    (.ok (), { backend with pendingBlits := backend.pendingBlits ++ [(framebuffer, viewport)] })
  wire := GpuProgram.wire
  submit := GpuSource.submit

end ShaderFlow

/-
Module: ShaderFlow.Gpu.Blitter
Purpose: Copies of framebuffers into rectangles of the screen.
Main exports: Blitter, Blitter.create, Blitter.bindGroup, Blitter.draw
-/
import ShaderFlow.Gpu.Device

namespace ShaderFlow

/-- Source of the shader that draws a texture over the viewport with a single triangle. -/
def blitSource : String := "\n".intercalate
  ["",
    "struct BlitOutput \x7b",
    "    @builtin(position) position: vec4f,",
    "    @location(0) uv: vec2f,",
    "\x7d",
    "",
    "@group(0) @binding(0) var source_texture: texture_2d<f32>;",
    "@group(0) @binding(1) var source_sampler: sampler;",
    "",
    "@vertex",
    "fn vs(@builtin(vertex_index) vi: u32) -> BlitOutput \x7b",
    "    // Fullscreen triangle",
    "    let uv = vec2f(f32((vi << 1u) & 2u), f32(vi & 2u));",
    "    var out: BlitOutput;",
    "    out.position = vec4f(uv * vec2f(2.0, -2.0) + vec2f(-1.0, 1.0), 0.0, 1.0);",
    "    out.uv = uv;",
    "    return out;",
    "\x7d",
    "",
    "@fragment",
    "fn fs(in: BlitOutput) -> @location(0) vec4f \x7b",
    "    return textureSample(source_texture, source_sampler, in.uv);",
    "\x7d",
    ""]

/-- What copying needs on the GPU. -/
structure Blitter where
  pipeline : Handle .pipeline
  layout : Handle .bindGroupLayout
  sampler : Handle .sampler
deriving DecidableEq, Repr, Inhabited

namespace Blitter

/-- Create shader, layouts, pipeline and sampler. -/
def create : DeviceM Blitter := do
  let shader ← Device.createShader "Blit Shader" blitSource
  let layout ← Device.createBindGroupLayout "Blit Bind Group Layout"
    [⟨0, [.fragment], .texture⟩, ⟨1, [.fragment], .sampler⟩]
  let pipelineLayout ← Device.createPipelineLayout "Blit Pipeline Layout" [layout]
  let pipeline ← Device.createPipeline
    { label := "Blit Pipeline", layout := pipelineLayout, vertex := ⟨shader, "vs"⟩, buffers := [],
      fragment := ⟨shader, "fs"⟩, depth := none }
  let sampler ← Device.createSampler
  return { pipeline, layout, sampler }

/-- Create the bind group that reads a texture. -/
def bindGroup (blitter : Blitter) (source : Handle .view) : DeviceM (Handle .bindGroup) :=
  Device.createBindGroup "Blit Bind Group" blitter.layout
    [⟨0, .view source⟩, ⟨1, .sampler blitter.sampler⟩]

/-- Draw the texture of a bind group over a rectangle. -/
def draw (blitter : Blitter) (group : Handle .bindGroup) (viewport : Viewport) : DeviceM Unit := do
  Device.emit (.setViewport viewport)
  Device.emit (.setPipeline blitter.pipeline)
  Device.emit (.setBindGroup 0 group)
  Device.emit (.draw ⟨0, 3⟩ ⟨0, 1⟩)

end Blitter

end ShaderFlow

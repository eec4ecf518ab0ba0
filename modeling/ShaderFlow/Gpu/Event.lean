/-
Module: ShaderFlow.Gpu.Event
Purpose: Calls that reach the GPU.
Main exports: GpuEvent, PassCommand, ColorLoad, DepthLoad
-/
import ShaderFlow.Gpu.Resource
import ShaderFlow.Render.Geometry
import ShaderFlow.Scalar.Rounding

namespace ShaderFlow

/-- What a pass does with the color of its target at the start. -/
inductive ColorLoad where
  | keep
  | clear (color : Color)
deriving DecidableEq, Repr, Inhabited

/-- What a pass does with the depth of its target at the start. -/
inductive DepthLoad where
  | keep
  | clear (depth : Scalar)
deriving DecidableEq, Repr, Inhabited

/-- The texture that a view is made of. -/
inductive ViewedTexture where
  /-- The texture acquired from the surface. -/
  | surface
  | texture (handle : Handle .texture)
deriving DecidableEq, Repr, Inhabited

/-- Name of a viewed texture. -/
def ViewedTexture.name : ViewedTexture → String
  | surface => "surface"
  | texture handle => handle.name

/-- A half-open range of vertices, indices or instances. -/
structure Span where
  start : Nat
  stop : Nat
deriving DecidableEq, Repr, Inhabited

/-- A call that reaches the GPU. -/
inductive GpuEvent where
  | configure (size : Extent)
  | acquire (status : SurfaceStatus)
  | present
  | submit (encoders : List (Handle .encoder))
  | createTexture (texture : Handle .texture) (label : String) (size : Extent)
      (format : TextureFormat) (usages : List TextureUsage)
  | createView (view : Handle .view) (texture : ViewedTexture)
  | createEncoder (encoder : Handle .encoder)
  | createShader (shader : Handle .shader) (label source : String)
  | createBindGroupLayout (layout : Handle .bindGroupLayout) (label : String)
      (entries : List LayoutEntry)
  | createPipelineLayout (layout : Handle .pipelineLayout) (label : String)
      (groups : List (Handle .bindGroupLayout))
  | createSampler (sampler : Handle .sampler) (descriptor : SamplerDescriptor)
  | createPipeline (pipeline : Handle .pipeline) (descriptor : PipelineDescriptor)
  | createBuffer (buffer : Handle .buffer) (label : String) (usages : List BufferUsage)
      (contents : List UInt8)
  | createBindGroup (group : Handle .bindGroup) (label : String)
      (layout : Handle .bindGroupLayout) (entries : List BindGroupEntry)
  | pushErrorScope
  | popErrorScope
  | writeBuffer (buffer : Handle .buffer) (offset : Nat) (contents : List UInt8)
  | beginPass (encoder : Handle .encoder) (label : String) (color : Handle .view)
      (colorLoad : ColorLoad) (depth : Option (Handle .view × DepthLoad))
  | endPass
  | setViewport (viewport : Viewport)
  | setPipeline (pipeline : Handle .pipeline)
  | setBindGroup (index : Nat) (group : Handle .bindGroup)
  | setVertexBuffer (slot : Nat) (buffer : Handle .buffer) (offset : Nat)
  | setIndexBuffer (buffer : Handle .buffer) (offset : Nat)
  | draw (vertices instances : Span)
  | drawIndexed (indices : Span) (base : Nat) (instances : Span)
deriving DecidableEq, Repr, Inhabited

/-- Whether a call is recorded inside a pass, between its beginning and its end. -/
def GpuEvent.inPass : GpuEvent → Bool
  | .setViewport _ | .setPipeline _ | .setBindGroup .. | .setVertexBuffer .. | .setIndexBuffer ..
  | .draw .. | .drawIndexed .. => true
  | .configure _ | .acquire _ | .present | .submit _ | .createTexture .. | .createView ..
  | .createEncoder _ | .createShader .. | .createBindGroupLayout .. | .createPipelineLayout ..
  | .createSampler .. | .createPipeline .. | .createBuffer .. | .createBindGroup ..
  | .pushErrorScope | .popErrorScope | .writeBuffer .. | .beginPass .. | .endPass => false

/-- A call that whoever draws can record in an open pass. -/
abbrev PassCommand := { event : GpuEvent // event.inPass = true }

/-- Position, size and depth range of a viewport as the GPU takes them. -/
def Viewport.scalars (viewport : Viewport) : List Scalar :=
  [viewport.x, viewport.y, viewport.width, viewport.height].map
    (fun pixels => Scalar.ofNat pixels.toNat) ++ [.zero, .one]

end ShaderFlow

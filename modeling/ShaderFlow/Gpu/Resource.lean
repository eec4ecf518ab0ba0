/-
Module: ShaderFlow.Gpu.Resource
Purpose: Handles of GPU resources and the options they are created with.
Main exports: ResourceKind, Handle, PipelineDescriptor, BindGroupEntry
-/
import ShaderFlow.Gpu.VertexLayout

namespace ShaderFlow

/-- Kind of a resource. -/
inductive ResourceKind where
  | texture
  | view
  | shader
  | buffer
  | sampler
  | bindGroup
  | bindGroupLayout
  | pipelineLayout
  | pipeline
  | encoder
deriving DecidableEq, Repr, Inhabited

/-- Stem of the names of resources of a kind. -/
def ResourceKind.stem : ResourceKind → String
  | texture => "texture"
  | view => "view"
  | shader => "shader"
  | buffer => "buffer"
  | sampler => "sampler"
  | bindGroup => "bind_group"
  | bindGroupLayout => "bind_group_layout"
  | pipelineLayout => "pipeline_layout"
  | pipeline => "pipeline"
  | encoder => "encoder"

/-- A resource of a given kind; resources of a kind are numbered in the order of their creation. -/
structure Handle (kind : ResourceKind) where
  number : Nat
deriving DecidableEq, Repr, Inhabited

/-- Name of a resource. -/
def Handle.name {kind : ResourceKind} (handle : Handle kind) : String :=
  s!"{kind.stem}{handle.number}"

/-- Format of a texture. -/
inductive TextureFormat where
  /-- Color, in the format of the surface. -/
  | color
  | depth
deriving DecidableEq, Repr, Inhabited

/-- Name of a texture format. -/
def TextureFormat.name : TextureFormat → String
  | color => "Bgra8UnormSrgb"
  | depth => "Depth32Float"

/-- What a texture is used for. -/
inductive TextureUsage where
  | textureBinding
  | renderAttachment
deriving DecidableEq, Repr, Inhabited

/-- Name of a texture usage. -/
def TextureUsage.name : TextureUsage → String
  | textureBinding => "TEXTURE_BINDING"
  | renderAttachment => "RENDER_ATTACHMENT"

/-- What a buffer is used for. -/
inductive BufferUsage where
  | copyTarget
  | index
  | vertex
  | uniform
deriving DecidableEq, Repr, Inhabited

/-- Name of a buffer usage. -/
def BufferUsage.name : BufferUsage → String
  | copyTarget => "COPY_DST"
  | index => "INDEX"
  | vertex => "VERTEX"
  | uniform => "UNIFORM"

/-- What a binding of a bind group layout takes. -/
inductive BindingKind where
  | uniform
  | texture
  | sampler
deriving DecidableEq, Repr, Inhabited

/-- Name of a kind of binding. -/
def BindingKind.name : BindingKind → String
  | uniform => "uniform"
  | texture => "texture"
  | sampler => "sampler"

/-- A binding of a bind group layout and the stages that see it. -/
structure LayoutEntry where
  binding : Nat
  stages : List Stage
  kind : BindingKind
deriving DecidableEq, Repr, Inhabited

/-- Name of a stage in a set of stages. -/
def Stage.flag : Stage → String
  | vertex => "VERTEX"
  | fragment => "FRAGMENT"

/-- How a sampler reads a texture. -/
structure SamplerDescriptor where
  label : String
  addressMode : String
  magnify : String
  minify : String
  mipmap : String
deriving DecidableEq, Repr, Inhabited

/-- The sampler of all textures: linear between texels, clamped at the edges. -/
def linearClampSampler : SamplerDescriptor :=
  { label := "Linear Clamp Sampler", addressMode := "ClampToEdge", magnify := "Linear",
    minify := "Linear", mipmap := "Nearest" }

/-- A resource in a bind group. -/
inductive BoundResource where
  | buffer (handle : Handle .buffer)
  | view (handle : Handle .view)
  | sampler (handle : Handle .sampler)
deriving DecidableEq, Repr, Inhabited

/-- Name of a resource in a bind group. -/
def BoundResource.name : BoundResource → String
  | buffer handle => handle.name
  | view handle => handle.name
  | sampler handle => handle.name

/-- A binding of a bind group. -/
structure BindGroupEntry where
  binding : Nat
  resource : BoundResource
deriving DecidableEq, Repr, Inhabited

/-- An entry point of a shader module. -/
structure ShaderEntry where
  shader : Handle .shader
  entry : String
deriving DecidableEq, Repr, Inhabited

/-- A vertex buffer as a pipeline reads it. -/
structure VertexBufferLayout where
  stride : Nat
  inputs : List VertexInput
deriving DecidableEq, Repr, Inhabited

/-- How a pipeline treats the depth buffer. -/
structure DepthState where
  format : TextureFormat
  write : Bool
  compare : String
deriving DecidableEq, Repr, Inhabited

/-- What a render pipeline is made of. -/
structure PipelineDescriptor where
  label : String
  layout : Handle .pipelineLayout
  vertex : ShaderEntry
  buffers : List VertexBufferLayout
  fragment : ShaderEntry
  depth : Option DepthState
deriving DecidableEq, Repr, Inhabited

end ShaderFlow

/-
Module: ShaderFlow.Gpu.Program
Purpose: Compiled programs on the GPU, their uniform values and texture wiring.
Main exports: ProgramResources, GpuProgram, ProgramKey, GpuProgram.setUniform
-/
import ShaderFlow.Gpu.Framebuffer
import ShaderFlow.Render.Pass
import ShaderFlow.Shader.Descriptor

namespace ShaderFlow

/-!
A program has two pipelines, for targets with and without a depth buffer, and one buffer per
uniform.  Programs made from the same source share these; uniform values and texture wiring belong
to each program of its own.
-/

/-- What programs of one source share on the GPU. -/
structure ProgramResources where
  label : String
  descriptor : ProgramDescriptor
  pipeline : Handle .pipeline
  depthPipeline : Handle .pipeline
  /-- One buffer per uniform of the descriptor, in its order. -/
  uniformBuffers : List (Handle .buffer)
  uniformGroup : Handle .bindGroup
  textureLayout : Handle .bindGroupLayout
  sampler : Handle .sampler
deriving DecidableEq, Repr, Inhabited

/-- A program as a pass uses it. -/
structure GpuProgram where
  resources : ProgramResources
  /-- Values of user uniforms that were set. -/
  values : OrderedMap String ShaderValue := .empty
  /-- Texture slots and the framebuffers wired into them. -/
  textureInputs : OrderedMap String String := .empty
deriving DecidableEq, Repr, Inhabited

/-- What the shared resources of a program are looked up by. -/
structure ProgramKey where
  label : String
  vertexSource : String
  fragmentSource : String
  vertexEntry : String
  fragmentEntry : String
  layout : VertexLayout
deriving DecidableEq, Repr, Inhabited

/-- The key of a program. -/
def ProgramKey.of (label : String) (descriptor : ProgramDescriptor) (layout : VertexLayout) :
    ProgramKey :=
  { label, layout, vertexSource := descriptor.vertexSource,
    fragmentSource := descriptor.fragmentSource, vertexEntry := descriptor.vertexEntry,
    fragmentEntry := descriptor.fragmentEntry }

namespace ProgramResources

/-- Bindings of the uniforms of a program. -/
def uniformEntries (descriptor : ProgramDescriptor) : List LayoutEntry :=
  descriptor.uniforms.map fun slot => ⟨slot.binding, [.vertex, .fragment], .uniform⟩

/-- Bindings of the textures and samplers of a program. -/
def textureEntries (descriptor : ProgramDescriptor) : List LayoutEntry :=
  descriptor.textures.flatMap fun slot =>
    [⟨slot.binding, [.vertex, .fragment], .texture⟩,
      ⟨slot.samplerBinding, [.vertex, .fragment], .sampler⟩]

/-- Depth test and depth write against the depth buffer of a target. -/
def depthState : DepthState := ⟨.depth, true, "Less"⟩

/-- Layouts and pipelines of a program, created inside an error scope. -/
structure Pipelines where
  uniformLayout : Handle .bindGroupLayout
  textureLayout : Handle .bindGroupLayout
  pipeline : Handle .pipeline
  depthPipeline : Handle .pipeline
deriving DecidableEq, Repr, Inhabited

/-- Create shader modules, layouts and both pipelines. -/
def createPipelines (label : String) (descriptor : ProgramDescriptor) (layout : VertexLayout)
    (inputs : List VertexInput) : DeviceM Pipelines := do
  let vertex ← Device.createShader s!"{label} vertex" descriptor.vertexSource
  let fragment ← Device.createShader s!"{label} fragment" descriptor.fragmentSource
  let uniformLayout ←
    Device.createBindGroupLayout s!"{label} uniforms" (uniformEntries descriptor)
  let textureLayout ←
    Device.createBindGroupLayout s!"{label} textures" (textureEntries descriptor)
  let pipelineLayout ←
    Device.createPipelineLayout s!"{label} pipeline layout" [uniformLayout, textureLayout]
  let buffers : List VertexBufferLayout :=
    if inputs.isEmpty then [] else [⟨layout.stride, inputs⟩]
  let flat : PipelineDescriptor :=
    { label, layout := pipelineLayout, vertex := ⟨vertex, descriptor.vertexEntry⟩, buffers,
      fragment := ⟨fragment, descriptor.fragmentEntry⟩, depth := none }
  let pipeline ← Device.createPipeline flat
  let depthPipeline ← Device.createPipeline { flat with depth := some depthState }
  return { uniformLayout, textureLayout, pipeline, depthPipeline }

/-- Create the buffer of each uniform, holding its default. -/
def createUniformBuffers : List UniformSlot → DeviceM (List (Handle .buffer))
  | [] => return []
  | slot :: rest => do
      let buffer ←
        Device.createBuffer slot.name [.copyTarget, .uniform] slot.default.uniformBytes
      let buffers ← createUniformBuffers rest
      return buffer :: buffers

/-- Create what a program needs.  The vertex layout is checked first; a program that the shader
compiler rejects gets no buffers. -/
def create (label : String) (descriptor : ProgramDescriptor) (layout : VertexLayout) :
    DeviceM (Except GpuError ProgramResources) := do
  match layout.attributes descriptor.attributes with
  | .error error => return .error error
  | .ok inputs =>
      Device.emit .pushErrorScope
      let pipelines ← createPipelines label descriptor layout inputs
      match ← Device.popErrorScope with
      | some message => return .error (.shader label message)
      | none =>
          let uniformBuffers ← createUniformBuffers descriptor.uniforms
          let bindings := (descriptor.uniforms.zip uniformBuffers).map fun (slot, buffer) =>
            BindGroupEntry.mk slot.binding (.buffer buffer)
          let uniformGroup ←
            Device.createBindGroup s!"{label} uniforms" pipelines.uniformLayout bindings
          let sampler ← Device.createSampler
          return .ok
            { label, descriptor, pipeline := pipelines.pipeline,
              depthPipeline := pipelines.depthPipeline, uniformBuffers, uniformGroup,
              textureLayout := pipelines.textureLayout, sampler }

end ProgramResources

namespace GpuProgram

/-- Label of a program. -/
def label (program : GpuProgram) : String := program.resources.label

/-- Descriptor of a program. -/
def descriptor (program : GpuProgram) : ProgramDescriptor := program.resources.descriptor

/-- A program with default uniform values and no wiring. -/
def ofResources (resources : ProgramResources) : GpuProgram := { resources }

/-- Whether two programs draw with the same pipelines and uniform buffers. -/
def sharesPipelines (a b : GpuProgram) : Bool :=
  a.resources.pipeline == b.resources.pipeline

/-- Set the value of a user uniform; it is uploaded when the program is bound next. -/
def setUniform (program : GpuProgram) (name : String) (value : ShaderValue) :
    Except GpuError GpuProgram :=
  match (program.descriptor.uniform? name).filter (·.engine.isNone) with
  | none => .error (.unknownUniform name)
  | some slot =>
      if slot.ty = value.ty then .ok { program with values := program.values.insert name value }
      else .error (.uniformType name slot.ty value.ty)

/-- The value of a uniform: as set, or its default. -/
def uniformValue? (program : GpuProgram) (name : String) : Option ShaderValue :=
  (program.values.get? name).or ((program.descriptor.uniform? name).map UniformSlot.default)

/-- Wire a framebuffer, by name, into a texture slot. -/
def wire (slot framebuffer : String) (program : GpuProgram) : GpuProgram :=
  { program with textureInputs := program.textureInputs.insert slot framebuffer }

/-- The value that a uniform gets when the program is bound; `engine` gives the values of engine
uniforms. -/
def boundValue (program : GpuProgram) (engine : EngineUniform → ShaderValue) (slot : UniformSlot) :
    ShaderValue :=
  match slot.engine with
  | some quantity => engine quantity
  | none => (program.values.get? slot.name).getD slot.default

/-- Upload every uniform. -/
def writeUniforms (program : GpuProgram) (engine : EngineUniform → ShaderValue) : DeviceM Unit :=
  (program.descriptor.uniforms.zip program.resources.uniformBuffers).forM fun (slot, buffer) =>
    Device.emit (.writeBuffer buffer 0 (program.boundValue engine slot).uniformBytes)

/-- The framebuffer wired into a texture of a program. -/
def wiredFramebuffer (program : GpuProgram) (framebuffers : OrderedMap String GpuFramebuffer)
    (texture : TextureSlot) : Except GpuError GpuFramebuffer :=
  match program.textureInputs.get? texture.name with
  | none => .error (.unboundTexture program.label texture.name)
  | some name =>
      match framebuffers.get? name with
      | none => .error (.missingFramebuffer name)
      | some framebuffer => .ok framebuffer

/-- Bindings of all textures of a program. -/
def textureBindings (program : GpuProgram) (framebuffers : OrderedMap String GpuFramebuffer) :
    Except GpuError (List BindGroupEntry) := do
  let bindings ← program.descriptor.textures.mapM fun texture => do
    let framebuffer ← program.wiredFramebuffer framebuffers texture
    return [BindGroupEntry.mk texture.binding (.view framebuffer.colorView),
      BindGroupEntry.mk texture.samplerBinding (.sampler program.resources.sampler)]
  return bindings.flatten

/-- Description of a program on one line. -/
def describe (program : GpuProgram) : String :=
  let values := Pass.describeMap
    (program.values.entries.map fun entry => (entry.1, entry.2.describe))
  let inputs := Pass.describeMap
    (program.textureInputs.entries.map fun entry => (entry.1, Text.quoted entry.2))
  "WgpuProgram \x7b " ++
    s!"label: {Text.quoted program.label}, values: {values}, texture_inputs: {inputs}" ++ " \x7d"

end GpuProgram

end ShaderFlow

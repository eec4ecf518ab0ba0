/-
Module: ShaderFlow.Shader.Descriptor
Purpose: What a renderer gets of a program: its manifests and the source of its two modules.
Main exports: ProgramDescriptor, Program.vertexModule, Program.fragmentModule,
  Program.descriptor, ShaderGraph.compile
-/
import ShaderFlow.Shader.CodeLayout
import ShaderFlow.Shader.Program

namespace ShaderFlow

/-- Manifests and sources of a compiled program. -/
structure ProgramDescriptor where
  attributes : List AttributeSlot
  uniforms : List UniformSlot
  textures : List TextureSlot
  varyings : List VaryingSlot
  vertexSource : String
  fragmentSource : String
  vertexEntry : String
  fragmentEntry : String
deriving DecidableEq, Repr, Inhabited

namespace ProgramDescriptor

/-- The attribute of a given name. -/
def attribute? (descriptor : ProgramDescriptor) (name : String) : Option AttributeSlot :=
  descriptor.attributes.find? (·.name = name)

/-- The uniform of a given name. -/
def uniform? (descriptor : ProgramDescriptor) (name : String) : Option UniformSlot :=
  descriptor.uniforms.find? (·.name = name)

/-- The texture of a given name. -/
def texture? (descriptor : ProgramDescriptor) (name : String) : Option TextureSlot :=
  descriptor.textures.find? (·.name = name)

end ProgramDescriptor

namespace Program

/-- A value at a location, as it stands in structs and parameter lists. -/
def located (location : Nat) (name : String) (ty : ShaderType) : String :=
  s!"@location({location}) {name}: {ty.wgsl}"

/-- Declaration of the struct that carries the vertex output. -/
def structDeclaration (program : Program) : List CodeLine :=
  ⟨0, s!"struct {vertexOutputStruct} " ++ "\x7b"⟩ ::
    ⟨1, s!"@builtin(position) {clipPositionField}: {ShaderType.vec4.wgsl},"⟩ ::
    (program.varyings.map fun varying =>
      ⟨1, s!"{located varying.location varying.name varying.ty},"⟩) ++
    [⟨0, "\x7d"⟩, ⟨0, ""⟩]

/-- Declaration of a uniform. -/
def uniformDeclaration (uniform : UniformSlot) : CodeLine :=
  ⟨0, s!"@group({uniformGroup}) @binding({uniform.binding}) var<uniform> {uniform.name}: " ++
    s!"{uniform.ty.wgsl};"⟩

/-- Declarations of a texture and its sampler. -/
def textureDeclarations (texture : TextureSlot) : List CodeLine :=
  [⟨0, s!"@group({textureGroup}) @binding({texture.binding}) var {texture.name}: " ++
      "texture_2d<f32>;"⟩,
    ⟨0, s!"@group({textureGroup}) @binding({texture.samplerBinding}) var " ++
      s!"{samplerName texture.name}: sampler;"⟩]

/-- Declarations of all uniforms and textures, with an empty line after them if there are any. -/
def resourceDeclarations (program : Program) : List CodeLine :=
  let lines := program.uniforms.map uniformDeclaration ++
    program.textures.flatMap textureDeclarations
  if lines.isEmpty then [] else lines ++ [⟨0, ""⟩]

/-- Declarations of the functions of a stage. -/
def functionDeclarations (stage : StageCode) : List CodeLine :=
  stage.functions.flatMap fun function => function.declaration ++ [⟨0, ""⟩]

/-- Everything that a module declares before its entry point. -/
def declarations (program : Program) (stage : StageCode) : List CodeLine :=
  program.structDeclaration ++ program.resourceDeclarations ++ functionDeclarations stage

/-- An entry point: its output variable, the statements of the stage, and the return. -/
def entryPoint (code : StageCode) (stageMark header variableName variableType : String) :
    List CodeLine :=
  [⟨0, stageMark⟩, ⟨0, header ++ " \x7b"⟩, ⟨1, s!"var {variableName}: {variableType};"⟩] ++
    (code.body.statements code.stage).map (CodeLine.mk 1) ++
    [⟨1, s!"return {variableName};"⟩, ⟨0, "\x7d"⟩]

/-- The vertex module. -/
def vertexModule (program : Program) : List CodeLine :=
  let parameters := ", ".intercalate
    (program.attributes.map fun slot => located slot.location slot.name slot.ty)
  program.declarations program.vertex ++
    entryPoint program.vertex "@vertex"
      s!"fn {program.options.vertexEntry}({parameters}) -> {vertexOutputStruct}"
      vertexOutputVariable vertexOutputStruct

/-- The fragment module. -/
def fragmentModule (program : Program) : List CodeLine :=
  let parameters := ", ".intercalate
    (program.varyings.map fun slot => located slot.location slot.name slot.ty)
  let color := ShaderType.vec4.wgsl
  program.declarations program.fragment ++
    entryPoint program.fragment "@fragment"
      s!"fn {program.options.fragmentEntry}({parameters}) -> @location(0) {color}"
      program.options.fragmentOutput color

/-- The descriptor of a program. -/
def descriptor (program : Program) : ProgramDescriptor :=
  { attributes := program.attributes
    uniforms := program.uniforms
    textures := program.textures
    varyings := program.varyings
    vertexSource := renderCode program.vertexModule
    fragmentSource := renderCode program.fragmentModule
    vertexEntry := program.options.vertexEntry
    fragmentEntry := program.options.fragmentEntry }

end Program

/-- Compile both stages of a graph. -/
def ShaderGraph.compile (graph : ShaderGraph) : Except ShaderError ProgramDescriptor := do
  let program ← graph.link
  return program.descriptor

end ShaderFlow

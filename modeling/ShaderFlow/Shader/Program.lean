/-
Module: ShaderFlow.Shader.Program
Purpose: A linked program: the code of both stages and the resources they share.
Main exports: AttributeSlot, UniformSlot, TextureSlot, VaryingSlot, Program, linkProgram
-/
import ShaderFlow.Shader.Graph
import ShaderFlow.Shader.StageCode

namespace ShaderFlow

/-!
Both modules of a program share one resource layout: group 0 holds uniform `i` at binding `i`, and
group 1 holds texture `i` at binding `2 i` and its sampler at `2 i + 1`.  Uniforms and textures are
collected from the vertex stage first, in the order of first use.  Attributes and varyings get
consecutive locations.

Names at module scope must not be declared as two different things, and names local to an entry point
must not shadow one of them.
-/

/-- Group of the uniforms. -/
def uniformGroup : Nat := 0

/-- Group of the textures and samplers. -/
def textureGroup : Nat := 1

/-- A per-vertex input of a program. -/
structure AttributeSlot where
  name : String
  ty : ShaderType
  location : Nat
deriving DecidableEq, Repr, Inhabited

/-- A uniform of a program with its initial value. -/
structure UniformSlot where
  name : String
  ty : ShaderType
  default : ShaderValue
  binding : Nat
  /-- Set for uniforms that the renderer fills. -/
  engine : Option EngineUniform
deriving DecidableEq, Repr, Inhabited

/-- A texture of a program, with its sampler. -/
structure TextureSlot where
  name : String
  binding : Nat
  samplerBinding : Nat
deriving DecidableEq, Repr, Inhabited

/-- A value handed from the vertex to the fragment stage. -/
structure VaryingSlot where
  name : String
  ty : ShaderType
  location : Nat
deriving DecidableEq, Repr, Inhabited

/-- Names declared at module scope, and as what. -/
abbrev ModuleNames := OrderedMap String DeclarationKind

namespace ModuleNames

/-- Declare a name; declaring it again as the same thing is no conflict. -/
def declare (names : ModuleNames) (name : String) (kind : DeclarationKind) :
    Except ShaderError ModuleNames :=
  match names.get? name with
  | some existing =>
      if existing = kind then .ok names else .error (.conflictingDeclaration name existing kind)
  | none => .ok (names.insert name kind)

/-- Refuse a local name that would shadow a name at module scope. -/
def checkLocal (names : ModuleNames) (name : String) (kind : DeclarationKind) :
    Except ShaderError Unit :=
  match names.get? name with
  | some existing => .error (.conflictingDeclaration name existing kind)
  | none => .ok ()

end ModuleNames

/-- What is collected about module scope while the nodes are walked. -/
structure Resources where
  names : ModuleNames
  uniforms : List UniformSlot := []
  textures : List TextureSlot := []
deriving DecidableEq, Repr, Inhabited

namespace Resources

/-- Module scope before any node: the struct of the vertex output. -/
def initial : Resources :=
  { names := OrderedMap.empty.insert vertexOutputStruct .vertexOutputStruct }

/-- Add a uniform; the first node of a name fixes binding and default. -/
def addUniform (resources : Resources) (name : String) (default : ShaderValue)
    (engine : Option EngineUniform) : Except ShaderError Resources := do
  let kind : DeclarationKind :=
    match engine with
    | some _ => .engineUniform default.ty
    | none => .uniform default.ty
  let names ← resources.names.declare name kind
  if resources.uniforms.any (·.name = name) then return { resources with names }
  else
    let slot : UniformSlot :=
      { name, ty := default.ty, default, binding := resources.uniforms.length, engine }
    return { resources with names, uniforms := resources.uniforms ++ [slot] }

/-- Add a texture and its sampler. -/
def addTexture (resources : Resources) (name : String) : Except ShaderError Resources := do
  let names ← resources.names.declare name .texture
  let names ← names.declare (samplerName name) .sampler
  if resources.textures.any (·.name = name) then return { resources with names }
  else
    let position := resources.textures.length
    let slot : TextureSlot :=
      { name, binding := 2 * position, samplerBinding := 2 * position + 1 }
    return { resources with names, textures := resources.textures ++ [slot] }

/-- Add what a node needs at module scope. -/
def addNode (resources : Resources) : ShaderNode → Except ShaderError Resources
  | .uniform name default => resources.addUniform name default none
  | .engine quantity =>
      resources.addUniform quantity.name (.defaultFor quantity.ty) (some quantity)
  | .fetch texture _ => resources.addTexture texture
  | _ => .ok resources

end Resources

/-- Add the attribute of a node; nodes of one name must agree in type. -/
def addAttribute (names : ModuleNames) (attributes : List AttributeSlot) :
    ShaderNode → Except ShaderError (List AttributeSlot)
  | .vertexAttribute name ty =>
      match attributes.find? (·.name = name) with
      | some existing =>
          if existing.ty = ty then .ok attributes
          else
            .error (.conflictingDeclaration name (.typedAttribute existing.ty)
              (.typedAttribute ty))
      | none => do
          names.checkLocal name .vertexAttribute
          if name = vertexOutputVariable then
            throw (.conflictingDeclaration name .generatedName .vertexAttribute)
          else return attributes ++ [{ name, ty, location := attributes.length }]
  | _ => .ok attributes

/-- Add the varying of a slot; it has the type of the node that produces it. -/
def addVarying (nodes : ShaderNodes) (names : ModuleNames) (fragmentOutput : String)
    (varyings : List VaryingSlot) (slot : String × NodeIndex) :
    Except ShaderError (List VaryingSlot) := do
  let (name, producer) := slot
  names.checkLocal name .vary
  if name = clipPositionField ∨ name = fragmentOutput then
    throw (.conflictingDeclaration name .generatedName .vary)
  match nodes.get? producer with
  | some node => return varyings ++ [{ name, ty := node.ty, location := varyings.length }]
  | none => throw (.danglingReference s!"node {producer.label}" s!"vary '{name}'")

/-- A program: both stages and what they share. -/
structure Program where
  options : EntryNames
  attributes : List AttributeSlot
  uniforms : List UniformSlot
  textures : List TextureSlot
  varyings : List VaryingSlot
  vertex : StageCode
  fragment : StageCode
deriving DecidableEq, Repr, Inhabited

/-- Collect the resources of both stages and check all names against each other. -/
def linkProgram (nodes : ShaderNodes) (options : EntryNames) (varys : OrderedMap String NodeIndex)
    (vertex fragment : StageCode) : Except ShaderError Program := do
  ShaderGraph.checkIdentifier options.vertexEntry
  ShaderGraph.checkIdentifier options.fragmentEntry
  ShaderGraph.checkIdentifier options.fragmentOutput
  let reached := (vertex.order ++ fragment.order).filterMap nodes.get?
  let resources ← reached.foldlM Resources.addNode Resources.initial
  let names ← (vertex.functions ++ fragment.functions).foldlM
    (fun names function => names.declare function.name .function) resources.names
  let attributes ← (vertex.order.filterMap nodes.get?).foldlM (addAttribute names) []
  let varyings ← varys.entries.foldlM (addVarying nodes names options.fragmentOutput) []
  names.checkLocal options.fragmentOutput .fragmentOutput
  return { options, attributes, uniforms := resources.uniforms, textures := resources.textures,
           varyings, vertex, fragment }

namespace ShaderGraph

/-- Outputs of the vertex stage: the clip-space position, then the vary slots. -/
def vertexOutputs (graph : ShaderGraph) (root : NodeIndex) : List StageOutput :=
  ⟨.clipPosition, root⟩ :: graph.varys.entries.map fun slot => ⟨.varying slot.1, slot.2⟩

/-- Output of the fragment stage. -/
def fragmentOutputs (graph : ShaderGraph) (root : NodeIndex) : List StageOutput :=
  [⟨.color graph.options.fragmentOutput, root⟩]

/-- Generate and link both stages. -/
def link (graph : ShaderGraph) : Except ShaderError Program := do
  let some vertexRoot := graph.vertexRoot | throw (.missingRoot .vertex)
  let some fragmentRoot := graph.fragmentRoot | throw (.missingRoot .fragment)
  let vertex ← generateStage graph.nodes graph.registry .vertex (graph.vertexOutputs vertexRoot)
  let fragment ←
    generateStage graph.nodes graph.registry .fragment (graph.fragmentOutputs fragmentRoot)
  linkProgram graph.nodes graph.options graph.varys vertex fragment

end ShaderGraph

end ShaderFlow

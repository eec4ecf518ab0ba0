/-
Module: ShaderFlow.Shader.Node
Purpose: The closed set of shader nodes.
Main exports: FunctionCall, ShaderNode, ShaderNode.ty, ShaderNode.arguments, ShaderNode.describe
-/
import ShaderFlow.Data.OrderedMap
import ShaderFlow.Graph.Basic
import ShaderFlow.Shader.EngineUniform
import ShaderFlow.Shader.Function

namespace ShaderFlow

/-!
Leaves (attributes, uniforms, engine uniforms, vary reads and constants) depend on nothing and are
referred to in place.  Every other node is an operation on its arguments.
-/

/-- The invocation of a registered function.  Slots may be bound in any order. -/
structure FunctionCall where
  function : ShaderFunction
  bound : OrderedMap String NodeIndex := .empty
  label : Option String := none
deriving DecidableEq, Repr, Inhabited

namespace FunctionCall

/-- Bound inputs in the order of the parameters; unbound slots are left out. -/
def arguments (call : FunctionCall) : List NodeIndex :=
  call.function.inputs.filterMap fun input => call.bound.get? input.name

/-- The first parameter whose slot is not bound. -/
def unbound? (call : FunctionCall) : Option Parameter :=
  call.function.inputs.find? fun input => !call.bound.contains input.name

/-- Bind a slot, replacing what was bound to it. -/
def bind (call : FunctionCall) (slot : String) (input : NodeIndex) : FunctionCall :=
  { call with bound := call.bound.insert slot input }

end FunctionCall

/-- A node of a shader graph. -/
inductive ShaderNode where
  | call (invocation : FunctionCall)
  | vertexAttribute (name : String) (ty : ShaderType)
  | uniform (name : String) (default : ShaderValue)
  | engine (quantity : EngineUniform)
  /-- Read, in the fragment stage, of a value that the vertex stage hands over. -/
  | vary (name : String) (ty : ShaderType)
  | fetch (texture : String) (coordinate : NodeIndex)
  | constant (value : ShaderValue)
  | combine (ty : ShaderType) (parts : List NodeIndex)
  | swizzle (source : NodeIndex) (mask : String) (ty : ShaderType)
deriving DecidableEq, Repr, Inhabited

namespace ShaderNode

/-- Type of the value a node produces. -/
def ty : ShaderNode → ShaderType
  | call invocation => invocation.function.returnType
  | vertexAttribute _ ty => ty
  | uniform _ default => default.ty
  | engine quantity => quantity.ty
  | vary _ ty => ty
  | fetch .. => .vec4
  | constant value => value.ty
  | combine ty _ => ty
  | swizzle _ _ ty => ty

/-- Whether a node is referred to in place. -/
def isLeaf : ShaderNode → Bool
  | vertexAttribute .. | uniform .. | engine .. | vary .. | constant .. => true
  | call .. | fetch .. | combine .. | swizzle .. => false

/-- Arguments of a node, in order. -/
def arguments : ShaderNode → List NodeIndex
  | call invocation => invocation.arguments
  | fetch _ coordinate => [coordinate]
  | combine _ parts => parts
  | swizzle source _ _ => [source]
  | vertexAttribute .. | uniform .. | engine .. | vary .. | constant .. => []

/-- Description of a node in messages. -/
def describe : ShaderNode → String
  | call invocation =>
      match invocation.label with
      | some label => s!"function '{invocation.function.name}' ({label})"
      | none => s!"function '{invocation.function.name}'"
  | vertexAttribute name _ => s!"attribute '{name}'"
  | uniform name _ => s!"uniform '{name}'"
  | engine quantity => s!"uniform '{quantity.name}'"
  | vary name _ => s!"vary '{name}'"
  | fetch texture _ => s!"fetch of texture '{texture}'"
  | constant value => s!"constant {value.wgsl}"
  | combine ty _ => s!"{ty.wgsl} combine"
  | swizzle _ mask _ => s!"swizzle '.{mask}'"

end ShaderNode

end ShaderFlow

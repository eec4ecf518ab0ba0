/-
Module: ShaderFlow.Shader.Statement
Purpose: Straight-line code of one stage: temporaries, then one assignment per output.
Main exports: Operand, Expression, LetBinding, OutputTarget, Assignment, StageBody
-/
import ShaderFlow.Shader.Node

namespace ShaderFlow

/-!
The code of a stage is data; `StageBody.statements` is its spelling in WGSL.  Arguments of an
operation are operands: an operation never nests another one, its value goes through a temporary.
-/

/-- What a statement can refer to. -/
inductive Operand where
  | vertexAttribute (name : String)
  | uniform (name : String)
  | engine (quantity : EngineUniform)
  | vary (name : String)
  | constant (value : ShaderValue)
  | temporary (name : String)
deriving DecidableEq, Repr, Inhabited

/-- The right-hand side of a statement. -/
inductive Expression where
  | operand (source : Operand)
  | call (function : String) (arguments : List Operand)
  | fetch (texture : String) (coordinate : Operand)
  | combine (ty : ShaderType) (parts : List Operand)
  | swizzle (source : Operand) (mask : String)
deriving DecidableEq, Repr, Inhabited

/-- The declaration of a temporary. -/
structure LetBinding where
  name : String
  ty : ShaderType
  value : Expression
deriving DecidableEq, Repr, Inhabited

/-- A variable or field that a stage writes. -/
inductive OutputTarget where
  | clipPosition
  | varying (name : String)
  | color (name : String)
deriving DecidableEq, Repr, Inhabited

/-- The assignment of an output. -/
structure Assignment where
  target : OutputTarget
  value : Expression
deriving DecidableEq, Repr, Inhabited

/-- The code of a stage, run from top to bottom. -/
structure StageBody where
  lets : List LetBinding
  assignments : List Assignment
deriving DecidableEq, Repr, Inhabited

/-! ### Generated names -/

/-- Field of the vertex output that holds the clip-space position. -/
def clipPositionField : String := "clip_position"

/-- Variable of the vertex entry point that holds its output. -/
def vertexOutputVariable : String := "out"

/-- Struct that carries the vertex output. -/
def vertexOutputStruct : String := "VertexOutput"

/-- Name of the sampler that goes with a texture. -/
def samplerName (texture : String) : String := texture ++ "_sampler"

/-! ### Spelling -/

namespace Operand

/-- Spelling of an operand. -/
def text : Operand → String
  | vertexAttribute name | uniform name | vary name | temporary name => name
  | engine quantity => quantity.name
  | constant value => value.wgsl

end Operand

/-- Spelling of a list of operands. -/
def operandList (operands : List Operand) : String := ", ".intercalate (operands.map Operand.text)

/-- Spelling of an expression.  The vertex stage has no derivatives, so it names the level that it
samples. -/
def Expression.text (stage : Stage) : Expression → String
  | .operand source => source.text
  | .call function arguments => s!"{function}({operandList arguments})"
  | .fetch texture coordinate =>
      match stage with
      | .fragment => s!"textureSample({texture}, {samplerName texture}, {coordinate.text})"
      | .vertex =>
          s!"textureSampleLevel({texture}, {samplerName texture}, {coordinate.text}, 0.0)"
  | .combine ty parts => s!"{ty.wgsl}({operandList parts})"
  | .swizzle source mask => s!"{source.text}.{mask}"

/-- Spelling of a declaration. -/
def LetBinding.text (stage : Stage) (binding : LetBinding) : String :=
  s!"let {binding.name}: {binding.ty.wgsl} = {binding.value.text stage};"

/-- Spelling of an output. -/
def OutputTarget.text : OutputTarget → String
  | clipPosition => s!"{vertexOutputVariable}.{clipPositionField}"
  | varying name => s!"{vertexOutputVariable}.{name}"
  | color name => name

/-- Spelling of an assignment. -/
def Assignment.text (stage : Stage) (assignment : Assignment) : String :=
  s!"{assignment.target.text} = {assignment.value.text stage};"

/-- Spelling of the statements of a stage, one text each. -/
def StageBody.statements (stage : Stage) (body : StageBody) : List String :=
  body.lets.map (LetBinding.text stage) ++ body.assignments.map (Assignment.text stage)

end ShaderFlow

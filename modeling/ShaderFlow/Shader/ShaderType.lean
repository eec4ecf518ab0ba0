/-
Module: ShaderFlow.Shader.ShaderType
Purpose: Types of the values that flow along shader graph edges.
Main exports: ShaderType, ShaderType.wgsl, ShaderType.componentCount?, ShaderType.uniformSize
-/

namespace ShaderFlow

/-- Type of a value produced by a shader node or expected by a function input. -/
inductive ShaderType where
  | float
  | vec2
  | vec3
  | vec4
  | mat3
  | mat4
deriving DecidableEq, Repr, Inhabited

namespace ShaderType

/-- Spelling in WGSL. -/
def wgsl : ShaderType → String
  | float => "f32"
  | vec2 => "vec2<f32>"
  | vec3 => "vec3<f32>"
  | vec4 => "vec4<f32>"
  | mat3 => "mat3x3<f32>"
  | mat4 => "mat4x4<f32>"

/-- Spelling in function libraries. -/
def tag : ShaderType → String
  | float => "f32"
  | vec2 => "vec2"
  | vec3 => "vec3"
  | vec4 => "vec4"
  | mat3 => "mat3"
  | mat4 => "mat4"

/-- Every type. -/
def all : List ShaderType := [float, vec2, vec3, vec4, mat3, mat4]

/-- The type with a given tag. -/
def ofTag? (text : String) : Option ShaderType := all.find? fun ty => ty.tag == text

/-- Number of components of scalars and vectors; matrices have none. -/
def componentCount? : ShaderType → Option Nat
  | float => some 1
  | vec2 => some 2
  | vec3 => some 3
  | vec4 => some 4
  | mat3 | mat4 => none

/-- The scalar or vector type with a given number of components. -/
def ofComponentCount? : Nat → Option ShaderType
  | 1 => some float
  | 2 => some vec2
  | 3 => some vec3
  | 4 => some vec4
  | _ => none

/-- Whether the type is a vector. -/
def isVector : ShaderType → Bool
  | vec2 | vec3 | vec4 => true
  | float | mat3 | mat4 => false

/-- Number of components of a vector type. -/
def vectorSize? (ty : ShaderType) : Option Nat :=
  if ty.isVector then ty.componentCount? else none

/-- Number of columns of a value; what is no matrix is one column. -/
def columnCount : ShaderType → Nat
  | float | vec2 | vec3 | vec4 => 1
  | mat3 => 3
  | mat4 => 4

/-- Number of scalars in a column. -/
def rowCount : ShaderType → Nat
  | float => 1
  | vec2 => 2
  | vec3 | mat3 => 3
  | vec4 | mat4 => 4

/-- Number of scalars in a value. -/
def scalarCount (ty : ShaderType) : Nat := ty.columnCount * ty.rowCount

/-- Bytes of a uniform buffer that holds a value: columns are padded to sixteen bytes. -/
def uniformSize : ShaderType → Nat
  | float | vec2 | vec3 | vec4 => 16
  | mat3 => 48
  | mat4 => 64

theorem ofTag?_tag (ty : ShaderType) : ofTag? ty.tag = some ty := by
  cases ty <;> decide

theorem ofComponentCount?_eq_some_iff {count : Nat} {ty : ShaderType} :
    ofComponentCount? count = some ty ↔ ty.componentCount? = some count := by
  constructor
  · intro h
    unfold ofComponentCount? at h
    split at h <;> simp_all [componentCount?] <;> subst h <;> rfl
  · intro h
    cases ty <;> simp_all [componentCount?] <;> subst h <;> rfl

end ShaderType

end ShaderFlow

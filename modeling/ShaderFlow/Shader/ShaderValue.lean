/-
Module: ShaderFlow.Shader.ShaderValue
Purpose: Literal values: payloads of constants and defaults of uniforms.
Main exports: ShaderValue, ShaderValue.defaultFor, ShaderValue.wgsl, ShaderValue.uniformBytes,
  ShaderValue.describe
-/
import ShaderFlow.Scalar.Text
import ShaderFlow.Shader.ShaderType

namespace ShaderFlow

/-- A value: as many scalars as its type has, column by column for matrices. -/
structure ShaderValue where
  ty : ShaderType
  scalars : List Scalar
  length_scalars : scalars.length = ty.scalarCount
deriving DecidableEq, Repr

namespace ShaderValue

/-- The value of a type with the given scalars, if their number fits. -/
def ofScalars? (ty : ShaderType) (scalars : List Scalar) : Option ShaderValue :=
  if h : scalars.length = ty.scalarCount then some ⟨ty, scalars, h⟩ else none

/-- A single number. -/
def float (x : Scalar) : ShaderValue := ⟨.float, [x], rfl⟩

/-- A pair of numbers. -/
def vec2 (x y : Scalar) : ShaderValue := ⟨.vec2, [x, y], rfl⟩

/-- The neutral value of a type: zero, or the identity for matrices. -/
def defaultFor : ShaderType → ShaderValue
  | .float => float .zero
  | .vec2 => vec2 .zero .zero
  | .vec3 => ⟨.vec3, List.replicate 3 .zero, rfl⟩
  | .vec4 => ⟨.vec4, List.replicate 4 .zero, rfl⟩
  | .mat3 =>
      ⟨.mat3, [.one, .zero, .zero, .zero, .one, .zero, .zero, .zero, .one], rfl⟩
  | .mat4 =>
      ⟨.mat4, [.one, .zero, .zero, .zero, .zero, .one, .zero, .zero, .zero, .zero, .one, .zero,
        .zero, .zero, .zero, .one], rfl⟩

instance : Inhabited ShaderValue := ⟨defaultFor .float⟩

@[simp] theorem ty_defaultFor (ty : ShaderType) : (defaultFor ty).ty = ty := by
  cases ty <;> rfl

/-- WGSL has no literal for a NaN or an infinity. -/
def isFinite (value : ShaderValue) : Bool := value.scalars.all Scalar.isFinite

/-- Comparison of numbers, scalar by scalar. -/
def equal (a b : ShaderValue) : Bool :=
  a.ty == b.ty && (a.scalars.zip b.scalars).all fun pair => pair.1.equal pair.2

/-- Texts of the scalars, separated by commas. -/
def scalarList (scalars : List Scalar) : String := ", ".intercalate (scalars.map Scalar.text)

/-- WGSL literal, for instance `vec3<f32>(1.0, 0.5, 0.0)`. -/
def wgsl (value : ShaderValue) : String :=
  match value.ty with
  | .float => scalarList value.scalars
  | ty => s!"{ty.wgsl}({scalarList value.scalars})"

/-- The columns of a value; what is no matrix is one column. -/
def columns (value : ShaderValue) : List (List Scalar) :=
  (List.range value.ty.columnCount).map fun column =>
    (value.scalars.drop (value.ty.rowCount * column)).take value.ty.rowCount

/-- Fill scalars up with zeros to a multiple of four. -/
def fillUp (scalars : List Scalar) : List Scalar :=
  scalars ++ List.replicate ((4 - scalars.length % 4) % 4) .zero

/-- Scalars of a uniform variable that holds the value.  The columns of a matrix of three columns are
padded one by one, any other value at its end. -/
def uniformScalars (value : ShaderValue) : List Scalar :=
  fillUp <|
    match value.ty with
    | .mat3 => value.columns.flatMap fun column => column ++ [.zero]
    | .float | .vec2 | .vec3 | .vec4 | .mat4 => value.scalars

/-- Bytes of a uniform variable that holds the value. -/
def uniformBytes (value : ShaderValue) : List UInt8 := value.uniformScalars.flatMap Scalar.bytes

/-- Names of the axes of a matrix. -/
def axisNames : List String := ["x_axis", "y_axis", "z_axis", "w_axis"]

/-- Description of a matrix by its columns. -/
def describeMatrix (kind column : String) (columns : List (List Scalar)) : String :=
  let axes := (axisNames.zip columns).map fun axis =>
    s!"{axis.1}: {column}({scalarList axis.2})"
  kind ++ "(" ++ kind ++ " \x7b " ++ ", ".intercalate axes ++ " \x7d)"

/-- Description of a value in messages. -/
def describe (value : ShaderValue) : String :=
  let scalars := scalarList value.scalars
  match value.ty with
  | .float => s!"Float({scalars})"
  | .vec2 => s!"Vec2(Vec2({scalars}))"
  | .vec3 => s!"Vec3(Vec3({scalars}))"
  | .vec4 => s!"Vec4(Vec4({scalars}))"
  | .mat3 => describeMatrix "Mat3" "Vec3" value.columns
  | .mat4 => describeMatrix "Mat4" "Vec4" value.columns

end ShaderValue

end ShaderFlow

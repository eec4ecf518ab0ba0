/-
Module: ShaderFlow.Gpu.VertexLayout
Purpose: Interleaved vertex buffers and the attributes read from them.
Main exports: VertexFormat, VertexLayout, VertexLayout.attributes
-/
import ShaderFlow.Gpu.Error
import ShaderFlow.Shader.Program

namespace ShaderFlow

/-- Format of a vertex attribute. -/
inductive VertexFormat where
  | float32
  | float32x2
  | float32x3
  | float32x4
deriving DecidableEq, Repr, Inhabited

namespace VertexFormat

/-- Name of a format. -/
def name : VertexFormat → String
  | float32 => "Float32"
  | float32x2 => "Float32x2"
  | float32x3 => "Float32x3"
  | float32x4 => "Float32x4"

/-- Bytes of a format. -/
def size : VertexFormat → Nat
  | float32 => 4
  | float32x2 => 8
  | float32x3 => 12
  | float32x4 => 16

end VertexFormat

namespace ShaderType

/-- Format of attributes of a type; matrices cannot be attributes. -/
def vertexFormat? : ShaderType → Option VertexFormat
  | float => some .float32
  | vec2 => some .float32x2
  | vec3 => some .float32x3
  | vec4 => some .float32x4
  | mat3 | mat4 => none

/-- Bytes of a field of a type in a vertex buffer, without padding. -/
def fieldSize (ty : ShaderType) : Nat := 4 * ty.scalarCount

theorem size_of_vertexFormat? {ty : ShaderType} {format : VertexFormat}
    (h : ty.vertexFormat? = some format) : format.size = ty.fieldSize := by
  cases ty <;> simp [vertexFormat?] at h <;> subst h <;> rfl

end ShaderType

/-- The fields of one interleaved vertex buffer, in memory order. -/
structure VertexLayout where
  fields : List (String × ShaderType) := []
deriving DecidableEq, Repr, Inhabited

/-- A vertex attribute as a pipeline reads it. -/
structure VertexInput where
  format : VertexFormat
  offset : Nat
  location : Nat
deriving DecidableEq, Repr, Inhabited

namespace VertexLayout

/-- Bytes of a list of fields. -/
def sizeOf : List (String × ShaderType) → Nat
  | [] => 0
  | field :: rest => field.2.fieldSize + sizeOf rest

/-- Bytes of one vertex. -/
def stride (layout : VertexLayout) : Nat := sizeOf layout.fields

/-- Offset of the first field of a name, behind `before` bytes of other fields. -/
def offsetFrom? (name : String) (before : Nat) : List (String × ShaderType) → Option Nat
  | [] => none
  | field :: rest =>
      if field.1 = name then some before
      else offsetFrom? name (before + field.2.fieldSize) rest

/-- Offset of the first field of a name. -/
def offsetOf? (layout : VertexLayout) (name : String) : Option Nat :=
  offsetFrom? name 0 layout.fields

/-- Type of the first field of a name. -/
def fieldType? (layout : VertexLayout) (name : String) : Option ShaderType :=
  (layout.fields.find? (·.1 = name)).map Prod.snd

/-- The vertex attribute that feeds an attribute of a program. -/
def input (layout : VertexLayout) (slot : AttributeSlot) : Except GpuError VertexInput :=
  match layout.fieldType? slot.name, layout.offsetOf? slot.name with
  | some held, some offset =>
      if held = slot.ty then
        match held.vertexFormat? with
        | some format => .ok { format, offset, location := slot.location }
        | none => .error (.vertexLayout slot.name (.notAttribute held))
      else .error (.vertexLayout slot.name (.typeMismatch slot.ty held))
  | _, _ => .error (.vertexLayout slot.name .noField)

/-- The vertex attributes that feed a list of attributes, in their order.  Fields that no attribute
reads are skipped. -/
def attributes (layout : VertexLayout) (slots : List AttributeSlot) :
    Except GpuError (List VertexInput) :=
  slots.mapM layout.input

end VertexLayout

end ShaderFlow

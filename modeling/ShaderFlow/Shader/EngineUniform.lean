/-
Module: ShaderFlow.Shader.EngineUniform
Purpose: Uniforms that the renderer fills before each draw.
Main exports: EngineUniform, EngineUniform.name, EngineUniform.ty
-/
import ShaderFlow.Shader.ShaderType

namespace ShaderFlow

/-- A uniform provided by the renderer. -/
inductive EngineUniform where
  | modelMatrix
  | viewProjectionMatrix
  | inverseViewProjectionMatrix
  | lastViewProjectionMatrix
  | cameraWorldPosition
  | resolution
  | time
deriving DecidableEq, Repr, Inhabited

namespace EngineUniform

/-- Every engine uniform. -/
def all : List EngineUniform :=
  [modelMatrix, viewProjectionMatrix, inverseViewProjectionMatrix, lastViewProjectionMatrix,
    cameraWorldPosition, resolution, time]

/-- Name in generated source. -/
def name : EngineUniform → String
  | modelMatrix => "inner_model_matrix"
  | viewProjectionMatrix => "inner_view_projection"
  | inverseViewProjectionMatrix => "inner_view_projection_inverse"
  | lastViewProjectionMatrix => "inner_last_view_projection"
  | cameraWorldPosition => "inner_camera_world_position"
  | resolution => "inner_resolution"
  | time => "inner_time"

/-- Title in listings. -/
def title : EngineUniform → String
  | modelMatrix => "ModelMatrix"
  | viewProjectionMatrix => "ViewProjectionMatrix"
  | inverseViewProjectionMatrix => "InverseViewProjectionMatrix"
  | lastViewProjectionMatrix => "LastViewProjectionMatrix"
  | cameraWorldPosition => "CameraWorldPosition"
  | resolution => "Resolution"
  | time => "Time"

/-- The engine uniform with a given title. -/
def ofTitle? (text : String) : Option EngineUniform := all.find? fun u => u.title == text

/-- Type of the uniform. -/
def ty : EngineUniform → ShaderType
  | modelMatrix | viewProjectionMatrix | inverseViewProjectionMatrix
  | lastViewProjectionMatrix => .mat4
  | cameraWorldPosition => .vec3
  | resolution => .vec2
  | time => .float

theorem name_injective {u v : EngineUniform} (same : u.name = v.name) : u = v := by
  revert same
  cases u <;> cases v <;> decide

end EngineUniform

end ShaderFlow

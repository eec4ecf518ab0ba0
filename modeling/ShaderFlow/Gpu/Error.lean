/-
Module: ShaderFlow.Gpu.Error
Purpose: Causes of failure in the GPU renderer, and their messages.
Main exports: SurfaceStatus, LayoutFault, GpuError, GpuError.message
-/
import ShaderFlow.Render.Geometry
import ShaderFlow.Shader.ShaderType

namespace ShaderFlow

/-- Outcome of asking the surface for its next texture. -/
inductive SurfaceStatus where
  | good
  | suboptimal
  | timeout
  | outdated
  | lost
  | unknown
deriving DecidableEq, Repr, Inhabited

namespace SurfaceStatus

/-- Name of a status. -/
def name : SurfaceStatus → String
  | good => "good"
  | suboptimal => "suboptimal"
  | timeout => "timeout"
  | outdated => "outdated"
  | lost => "lost"
  | unknown => "unknown"

/-- Every status. -/
def all : List SurfaceStatus := [good, suboptimal, timeout, outdated, lost, unknown]

/-- The status of a given name. -/
def ofName? (text : String) : Option SurfaceStatus := all.find? fun status => status.name == text

/-- Whether a texture was handed out. -/
def isAcquired : SurfaceStatus → Bool
  | good | suboptimal => true
  | timeout | outdated | lost | unknown => false

/-- Whether configuring the surface again may help. -/
def isStale : SurfaceStatus → Bool
  | outdated | lost => true
  | good | suboptimal | timeout | unknown => false

/-- Explanation of a status. -/
def reason : SurfaceStatus → String
  | good | suboptimal => "a texture was acquired"
  | timeout => "A timeout was encountered while trying to acquire the next frame"
  | outdated =>
      "The underlying surface has changed, and therefore the swap chain must be updated"
  | lost => "The swap chain has been lost and needs to be recreated"
  | unknown =>
      "Acquiring a texture failed with a generic error. Check error callbacks for more information"

end SurfaceStatus

/-- Why a vertex layout cannot feed an attribute. -/
inductive LayoutFault where
  | noField
  | typeMismatch (read held : ShaderType)
  | notAttribute (ty : ShaderType)
deriving DecidableEq, Repr, Inhabited

/-- Reason given for a fault of a vertex layout. -/
def LayoutFault.reason : LayoutFault → String
  | noField => "no field of that name in the vertex layout"
  | typeMismatch read held =>
      s!"the shader reads {read.wgsl} but the vertex layout holds {held.wgsl}"
  | notAttribute ty => s!"{ty.wgsl} cannot be a vertex attribute"

/-- Why a call of the GPU renderer failed. -/
inductive GpuError where
  | noFrame
  | frameInProgress
  | surface (status : SurfaceStatus)
  | framebufferTooLarge (name : String) (size : Extent) (limit : Nat)
  | shader (program message : String)
  | vertexLayout (vertexAttribute : String) (fault : LayoutFault)
  | noProgram
  | unboundTexture (program texture : String)
  | missingFramebuffer (name : String)
  | unknownUniform (name : String)
  | uniformType (name : String) (expected found : ShaderType)
deriving DecidableEq, Repr, Inhabited

namespace GpuError

/-- Title of the kind of error. -/
def kind : GpuError → String
  | noFrame => "NoFrame"
  | frameInProgress => "FrameInProgress"
  | surface .. => "Surface"
  | framebufferTooLarge .. => "FramebufferTooLarge"
  | shader .. => "Shader"
  | vertexLayout .. => "VertexLayout"
  | noProgram => "NoProgram"
  | unboundTexture .. => "UnboundTexture"
  | missingFramebuffer .. => "MissingFramebuffer"
  | unknownUniform .. => "UnknownUniform"
  | uniformType .. => "UniformType"

/-- Message of an error. -/
def message : GpuError → String
  | noFrame => "no frame in progress; call begin_frame first"
  | frameInProgress => "a frame is already in progress"
  | surface status => s!"failed to acquire the next surface texture: {status.reason}"
  | framebufferTooLarge name size limit =>
      s!"framebuffer '{name}' is {size.width}x{size.height}, above the device limit of {limit}"
  | shader program message => s!"program '{program}' failed to compile: {message}"
  | vertexLayout name fault => s!"vertex attribute '{name}': {fault.reason}"
  | noProgram => "no override program is installed"
  | unboundTexture program texture =>
      s!"program '{program}' samples '{texture}', which is not wired to a framebuffer"
  | missingFramebuffer name => s!"framebuffer '{name}' has not been allocated"
  | unknownUniform name => s!"no uniform named '{name}'"
  | uniformType name expected found =>
      s!"uniform '{name}' has type {expected.wgsl}, not {found.wgsl}"

end GpuError

end ShaderFlow

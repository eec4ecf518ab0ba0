/-
Module: ShaderFlow.Render.WindowConfig
Purpose: Window and frame settings at startup.
Main exports: WindowConfig
-/
import ShaderFlow.Render.DebugGrid

namespace ShaderFlow

/-- Settings of a window that shows a frame graph. -/
structure WindowConfig where
  title : String := "Phalanx"
  size : Extent := ⟨800, 600⟩
  /-- Whether the debug view is on at startup. -/
  debugView : Bool := false
  grid : DebugGrid := {}
deriving DecidableEq, Repr, Inhabited

/-- Options of the first frame. -/
def WindowConfig.frameOptions (config : WindowConfig) : FrameOptions :=
  { debugView := config.debugView, grid := config.grid }

end ShaderFlow

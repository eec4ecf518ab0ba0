/-
Module: ShaderFlow.Render.Geometry
Purpose: Sizes, rectangles and colors of render targets.
Main exports: Extent, Viewport, Viewport.full, Viewport.clamp?, Color
-/
import ShaderFlow.Scalar.Basic

namespace ShaderFlow

/-- A size in pixels. -/
structure Extent where
  width : UInt32
  height : UInt32
deriving DecidableEq, Repr, Inhabited

/-- A rectangle of a render target in pixels, with the origin at the top left. -/
structure Viewport where
  x : UInt32
  y : UInt32
  width : UInt32
  height : UInt32
deriving DecidableEq, Repr, Inhabited

namespace Viewport

/-- The rectangle that covers a whole target. -/
def full (size : Extent) : Viewport := ⟨0, 0, size.width, size.height⟩

/-- The part of a rectangle that lies on a target, if there is any. -/
def clamp? (viewport : Viewport) (size : Extent) : Option Viewport :=
  if viewport.x < size.width ∧ viewport.y < size.height then
    let width := min viewport.width (size.width - viewport.x)
    let height := min viewport.height (size.height - viewport.y)
    if 0 < width ∧ 0 < height then some ⟨viewport.x, viewport.y, width, height⟩ else none
  else none

end Viewport

/-- A color with its opacity. -/
structure Color where
  red : Scalar
  green : Scalar
  blue : Scalar
  alpha : Scalar
deriving DecidableEq, Repr, Inhabited

namespace Color

/-- Opaque black. -/
def black : Color := ⟨.zero, .zero, .zero, .one⟩

/-- The four channels. -/
def channels (color : Color) : List Scalar := [color.red, color.green, color.blue, color.alpha]

end Color

end ShaderFlow

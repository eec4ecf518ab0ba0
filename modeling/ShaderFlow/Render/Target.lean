/-
Module: ShaderFlow.Render.Target
Purpose: Named outputs of passes and the display surface.
Main exports: TargetSize, TargetSize.resolve, FramebufferDescriptor, RenderTarget
-/
import ShaderFlow.Render.Geometry
import ShaderFlow.Scalar.Rounding

namespace ShaderFlow

/-- Name of the target that stands for the display surface. -/
def screenName : String := "screen"

/-- Size of an offscreen target. -/
inductive TargetSize where
  /-- A fixed number of pixels. -/
  | absolute (size : Extent)
  /-- A fraction of the surface in each direction. -/
  | relative (width height : Scalar)
deriving DecidableEq, Repr, Inhabited

namespace TargetSize

/-- A fraction of a length in pixels, to the nearest pixel. -/
def scalePixels (pixels : UInt32) (factor : Scalar) : UInt32 :=
  ((Scalar.ofNat pixels.toNat).mul factor).toPixels

/-- Pixels of a target on a given surface; there is at least one in either direction. -/
def resolve (size : TargetSize) (surface : Extent) : Extent :=
  let pixels : Extent :=
    match size with
    | absolute size => size
    | relative width height =>
        ⟨scalePixels surface.width width, scalePixels surface.height height⟩
  ⟨max pixels.width 1, max pixels.height 1⟩

theorem one_le_resolve (size : TargetSize) (surface : Extent) :
    1 ≤ (size.resolve surface).width ∧ 1 ≤ (size.resolve surface).height := by
  have bound (n : UInt32) : 1 ≤ max n 1 := by
    rw [show max n 1 = if n ≤ 1 then 1 else n from rfl]
    split
    · exact UInt32.le_refl 1
    · next h => exact UInt32.le_of_lt (UInt32.not_le.mp h)
  exact ⟨bound _, bound _⟩

end TargetSize

/-- What a renderer needs to know to allocate the framebuffer of a target. -/
structure FramebufferDescriptor where
  name : String
  size : Extent
  depth : Bool
deriving DecidableEq, Repr, Inhabited

/-- A named render target.  The size of the screen target is the surface's, whatever it says. -/
structure RenderTarget where
  name : String
  size : TargetSize := .relative .one .one
  /-- Whether the target has a depth buffer. -/
  depth : Bool := true
  isScreen : Bool := false
  /-- Where the debug view shows this target. -/
  debugViewport : Option Viewport := none
deriving DecidableEq, Repr, Inhabited

namespace RenderTarget

/-- The display surface. -/
def screen : RenderTarget := { name := screenName, isScreen := true }

/-- Framebuffer of a target on a given surface. -/
def descriptor (target : RenderTarget) (surface : Extent) : FramebufferDescriptor :=
  { name := target.name, size := target.size.resolve surface, depth := target.depth }

end RenderTarget

end ShaderFlow

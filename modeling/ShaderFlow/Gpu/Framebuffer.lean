/-
Module: ShaderFlow.Gpu.Framebuffer
Purpose: Offscreen framebuffers and depth buffers.
Main exports: DepthBuffer, GpuFramebuffer
-/
import ShaderFlow.Gpu.Device
import ShaderFlow.Render.Target

namespace ShaderFlow

/-- A depth buffer. -/
structure DepthBuffer where
  view : Handle .view
  size : Extent
deriving DecidableEq, Repr, Inhabited

/-- Create a depth buffer. -/
def DepthBuffer.create (label : String) (size : Extent) : DeviceM DepthBuffer := do
  let texture ← Device.createTexture label size .depth [.renderAttachment]
  let view ← Device.createView (.texture texture)
  return { view, size }

/-- An offscreen color texture in the format of the surface, with a depth buffer or without. -/
structure GpuFramebuffer where
  descriptor : FramebufferDescriptor
  colorView : Handle .view
  depth : Option DepthBuffer
deriving DecidableEq, Repr, Inhabited

namespace GpuFramebuffer

/-- Create the framebuffer of a descriptor. -/
def create (descriptor : FramebufferDescriptor) : DeviceM GpuFramebuffer := do
  let texture ← Device.createTexture descriptor.name descriptor.size .color
    [.textureBinding, .renderAttachment]
  let colorView ← Device.createView (.texture texture)
  if descriptor.depth then
    let depth ← DepthBuffer.create s!"{descriptor.name} depth" descriptor.size
    return { descriptor, colorView, depth := some depth }
  else return { descriptor, colorView, depth := none }

end GpuFramebuffer

end ShaderFlow

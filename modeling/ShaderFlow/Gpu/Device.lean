/-
Module: ShaderFlow.Gpu.Device
Purpose: The device under the GPU renderer: it numbers resources and lists the calls made.
Main exports: Device, DeviceM
-/
import ShaderFlow.Gpu.Event

namespace ShaderFlow

/-!
The device stands for everything below the renderer.  Creating a resource takes the next number of
its kind; every call is listed in order.  What the surface answers is given in advance by a queue,
and an empty queue means success.  The shader compiler has at most one failure in store, which the
next closed error scope reports and uses up.
-/

/-- State of the device. -/
structure Device where
  /-- Calls made so far. -/
  events : Array GpuEvent := #[]
  /-- Number of resources of each kind. -/
  counts : ResourceKind → Nat := fun _ => 0
  /-- What the next acquisitions of a surface texture answer. -/
  surfaceAnswers : List SurfaceStatus := []
  /-- What the next closed error scope reports, if anything. -/
  shaderFailure : Option String := none

instance : Inhabited Device := ⟨{}⟩

/-- Steps on the device. -/
abbrev DeviceM := StateM Device

namespace Device

/-- List a call. -/
def emit (event : GpuEvent) : DeviceM Unit := fun device =>
  ((), { device with events := device.events.push event })

/-- Take the next number of a kind. -/
def fresh (kind : ResourceKind) : DeviceM (Handle kind) := fun device =>
  (⟨device.counts kind⟩,
    { device with
      counts := fun other => if other = kind then device.counts kind + 1 else device.counts other })

/-- The calls so far, and the device without them. -/
def takeEvents : DeviceM (List GpuEvent) := fun device =>
  (device.events.toList, { device with events := #[] })

/-- Create a resource and list the call that did. -/
def create {kind : ResourceKind} (event : Handle kind → GpuEvent) : DeviceM (Handle kind) := do
  let handle ← fresh kind
  emit (event handle)
  return handle

/-- Ask the surface for its next texture. -/
def acquire : DeviceM SurfaceStatus := do
  let status : SurfaceStatus ← modifyGet fun device =>
    match device.surfaceAnswers with
    | [] => (.good, device)
    | status :: rest => (status, { device with surfaceAnswers := rest })
  emit (.acquire status)
  return status

/-- Close an error scope; the answer is what went wrong inside it. -/
def popErrorScope : DeviceM (Option String) := do
  emit .popErrorScope
  modifyGet fun device => (device.shaderFailure, { device with shaderFailure := none })

/-- Create a texture. -/
def createTexture (label : String) (size : Extent) (format : TextureFormat)
    (usages : List TextureUsage) : DeviceM (Handle .texture) :=
  create fun texture => .createTexture texture label size format usages

/-- Create a view of a texture. -/
def createView (texture : ViewedTexture) : DeviceM (Handle .view) :=
  create fun view => .createView view texture

/-- Create a command encoder. -/
def createEncoder : DeviceM (Handle .encoder) := create .createEncoder

/-- Create a shader module. -/
def createShader (label source : String) : DeviceM (Handle .shader) :=
  create fun shader => .createShader shader label source

/-- Create a bind group layout. -/
def createBindGroupLayout (label : String) (entries : List LayoutEntry) :
    DeviceM (Handle .bindGroupLayout) :=
  create fun layout => .createBindGroupLayout layout label entries

/-- Create a pipeline layout. -/
def createPipelineLayout (label : String) (groups : List (Handle .bindGroupLayout)) :
    DeviceM (Handle .pipelineLayout) :=
  create fun layout => .createPipelineLayout layout label groups

/-- Create a render pipeline. -/
def createPipeline (descriptor : PipelineDescriptor) : DeviceM (Handle .pipeline) :=
  create fun pipeline => .createPipeline pipeline descriptor

/-- Create the sampler that every texture is read with. -/
def createSampler : DeviceM (Handle .sampler) :=
  create fun sampler => .createSampler sampler linearClampSampler

/-- Create a buffer with its contents. -/
def createBuffer (label : String) (usages : List BufferUsage) (contents : List UInt8) :
    DeviceM (Handle .buffer) :=
  create fun buffer => .createBuffer buffer label usages contents

/-- Create a bind group. -/
def createBindGroup (label : String) (layout : Handle .bindGroupLayout)
    (entries : List BindGroupEntry) : DeviceM (Handle .bindGroup) :=
  create fun group => .createBindGroup group label layout entries

end Device

/-- Record commands in the open pass. -/
def PassCommand.record (commands : List PassCommand) : DeviceM Unit :=
  commands.forM fun command => Device.emit command.val

end ShaderFlow

/-
Module: ShaderFlow.Proofs.Gpu.ViewSizes
Purpose: How large views are, by the calls that a log lists.
Main exports: Sizes, sizesBehind, AcquiredAsConfigured, Device.KeepsSizes, Device.ViewSized,
  DeviceM.KeepsSizes, GpuAction.KeepsSizes, GpuFramebuffer.ViewsSized
-/
import ShaderFlow.Proofs.Gpu.PassRecording

namespace ShaderFlow

/-!
A view is as large as the texture that it is made of.  Most textures are created with a size; how large
those of the surface are is up to the surface, which answers every acquisition with one.  Numbers are
given out once, so a view stays as large as it was made, whatever is created, configured or acquired
behind it.
-/

/-! ### Sizes behind a log -/

/-- What the calls of a log tell about sizes. -/
structure Sizes where
  /-- Size that the surface is configured to. -/
  configured : Option Extent := none
  /-- Number of textures acquired from the surface. -/
  acquisitions : Nat := 0
  texture : Handle .texture → Option Extent := fun _ => none
  view : Handle .view → Option Extent := fun _ => none

/-- Size of a texture that a view is made of.  The textures of the surface are as large as `acquired`
says, in the order in which they are acquired; a view is made of the last one. -/
def Sizes.viewed (acquired : Nat → Extent) (sizes : Sizes) : ViewedTexture → Option Extent
  | .surface =>
      match sizes.acquisitions with
      | 0 => none
      | last + 1 => some (acquired last)
  | .texture handle => sizes.texture handle

/-- The sizes behind a call. -/
def Sizes.after (acquired : Nat → Extent) (sizes : Sizes) : GpuEvent → Sizes
  | .configure size => { sizes with configured := some size }
  | .acquire status =>
      if status.isAcquired then { sizes with acquisitions := sizes.acquisitions + 1 } else sizes
  | .createTexture texture _ size _ _ =>
      { sizes with
        texture := fun other => if other = texture then some size else sizes.texture other }
  | .createView view texture =>
      { sizes with
        view := fun other => if other = view then sizes.viewed acquired texture else sizes.view other }
  | _ => sizes

/-- The sizes behind further calls. -/
def Sizes.behind (acquired : Nat → Extent) (sizes : Sizes) (events : List GpuEvent) : Sizes :=
  events.foldl (Sizes.after acquired) sizes

/-- The sizes behind the calls of a log. -/
def sizesBehind (acquired : Nat → Extent) (log : List GpuEvent) : Sizes :=
  ({} : Sizes).behind acquired log

/-- Whether a call acquires a texture of the surface. -/
def GpuEvent.acquires : GpuEvent → Bool
  | .acquire status => status.isAcquired
  | _ => false

/-- Every texture that the surface gives out is as large as the surface is configured to when it is
acquired. -/
def AcquiredAsConfigured (acquired : Nat → Extent) (log : List GpuEvent) : Prop :=
  ∀ index, (inside : index < log.length) → log[index].acquires = true →
    (sizesBehind acquired (log.take index)).configured =
      some (acquired (sizesBehind acquired (log.take index)).acquisitions)

instance (acquired : Nat → Extent) (log : List GpuEvent) :
    Decidable (AcquiredAsConfigured acquired log) :=
  inferInstanceAs (Decidable (∀ index, (_ : index < log.length) → _))

/-- A call that has nothing to do with sizes. -/
def GpuEvent.Sizeless (event : GpuEvent) : Prop :=
  ∀ acquired sizes, Sizes.after acquired sizes event = sizes

section Behind

variable {acquired : Nat → Extent} {sizes : Sizes} {events others : List GpuEvent}

theorem Sizes.behind_append : sizes.behind acquired (events ++ others) =
    (sizes.behind acquired events).behind acquired others := List.foldl_append

/-- What is acquired up to some time belongs to what is acquired in the end. -/
theorem AcquiredAsConfigured.of_append
    (asConfigured : AcquiredAsConfigured acquired (events ++ others)) :
    AcquiredAsConfigured acquired events := by
  intro index inside acquires
  have later : index < (events ++ others).length := by
    rw [List.length_append]
    omega
  have same := asConfigured index later
  rw [List.getElem_append_left inside, List.take_append_of_le_length (Nat.le_of_lt inside)] at same
  exact same acquires

theorem AcquiredAsConfigured.last {event : GpuEvent}
    (asConfigured : AcquiredAsConfigured acquired (events ++ [event]))
    (acquires : event.acquires = true) :
    (sizesBehind acquired events).configured =
      some (acquired (sizesBehind acquired events).acquisitions) := by
  have same := asConfigured events.length (by simp)
  rw [List.getElem_concat_length rfl, List.take_left] at same
  exact same acquires

theorem Sizes.behind_of_sizeless (sizeless : ∀ event ∈ events, event.Sizeless) :
    sizes.behind acquired events = sizes := by
  induction events with
  | nil => rfl
  | cons event rest ih =>
      obtain ⟨here, later⟩ := List.forall_mem_cons.mp sizeless
      show (sizes.after acquired event).behind acquired rest = sizes
      rw [here acquired sizes, ih later]

end Behind

theorem GpuEvent.sizeless_of_inPass {event : GpuEvent} (inPass : event.inPass = true) :
    event.Sizeless := by
  cases event <;> first | exact fun _ _ => rfl | cases inPass

theorem ListedPass.Proper.sizeless {pass : ListedPass} (proper : pass.Proper) :
    ∀ event ∈ pass.events, event.Sizeless := by
  intro event member
  rcases List.mem_cons.mp member with rfl | member
  · exact fun _ _ => rfl
  · rcases List.mem_append.mp member with inside | last
    · exact GpuEvent.sizeless_of_inPass (proper event inside)
    · rw [List.mem_singleton.mp last]
      exact fun _ _ => rfl

/-! ### Views of a device -/

variable {acquired : Nat → Extent}

namespace Device

/-- The sizes behind the calls that a device has listed. -/
def sizes (acquired : Nat → Extent) (device : Device) : Sizes := sizesBehind acquired device.log

/-- The device has listed further calls; the surface is configured to the same size afterwards, and the
views that were there before are as large as before. -/
structure KeepsSizes (acquired : Nat → Extent) (device later : Device) : Prop where
  advance : ∃ events, device.Advances later events
  configured : (later.sizes acquired).configured = (device.sizes acquired).configured
  view : ∀ view, view.number < device.counts .view →
    (later.sizes acquired).view view = (device.sizes acquired).view view

/-- The view is there and has the given size. -/
structure ViewSized (acquired : Nat → Extent) (device : Device) (view : Handle .view)
    (size : Extent) : Prop where
  taken : view.number < device.counts .view
  size_eq : (device.sizes acquired).view view = some size

variable {device middle later : Device} {events : List GpuEvent} {view : Handle .view} {size : Extent}

theorem Advances.sizes_eq (advance : device.Advances later events) :
    later.sizes acquired = (device.sizes acquired).behind acquired events := by
  rw [sizes, advance.log_eq, sizesBehind, Sizes.behind_append]
  rfl

theorem KeepsSizes.refl (device : Device) : device.KeepsSizes acquired device :=
  ⟨⟨[], .refl device⟩, rfl, fun _ _ => rfl⟩

theorem KeepsSizes.trans (first : device.KeepsSizes acquired middle)
    (second : middle.KeepsSizes acquired later) : device.KeepsSizes acquired later := by
  obtain ⟨events, here⟩ := first.advance
  obtain ⟨others, there⟩ := second.advance
  refine ⟨⟨events ++ others, here.trans there⟩, second.configured.trans first.configured,
    fun view old => ?_⟩
  rw [second.view view (Nat.lt_of_lt_of_le old (here.counts_le .view)), first.view view old]

theorem KeepsSizes.of_sizeless (advance : device.Advances later events)
    (sizeless : ∀ event ∈ events, event.Sizeless) : device.KeepsSizes acquired later := by
  have same : later.sizes acquired = device.sizes acquired := by
    rw [advance.sizes_eq, Sizes.behind_of_sizeless sizeless]
  exact ⟨⟨events, advance⟩, by rw [same], fun _ _ => by rw [same]⟩

/-- A device that lists nothing and gives out no number keeps all sizes. -/
theorem KeepsSizes.of_same (events : later.events = device.events)
    (counts : later.counts = device.counts) : device.KeepsSizes acquired later :=
  .of_sizeless (CalmlyAdvances.of_same events counts).toAdvances fun _ => nofun

theorem ViewSized.to_later (sized : device.ViewSized acquired view size)
    (keeps : device.KeepsSizes acquired later) : later.ViewSized acquired view size := by
  obtain ⟨events, advance⟩ := keeps.advance
  exact ⟨Nat.lt_of_lt_of_le sized.taken (advance.counts_le .view),
    (keeps.view view sized.taken).trans sized.size_eq⟩

/-- To configure the surface leaves the views alone. -/
theorem ViewSized.configure (sized : device.ViewSized acquired view size) (surface : Extent) :
    (emit (.configure surface) device).2.ViewSized acquired view size := by
  refine ⟨sized.taken, ?_⟩
  rw [(advances_emit device (.configure surface)).sizes_eq]
  exact sized.size_eq

theorem advances_acquire (device : Device) :
    device.Advances (acquire device).2 [.acquire (acquire device).1] := by
  obtain ⟨events, counts, answers, failure⟩ := device
  cases answers with
  | nil => exact advances_emit _ (.acquire .good)
  | cons status rest =>
      exact ⟨(advances_emit ⟨events, counts, rest, failure⟩ (.acquire status)).log_eq,
        fun _ => Nat.le_refl _⟩

theorem keepsSizes_acquire (device : Device) : device.KeepsSizes acquired (acquire device).2 := by
  have advance := advances_acquire device
  refine ⟨⟨_, advance⟩, ?_, fun view _ => ?_⟩ <;>
  · rw [advance.sizes_eq]
    simp only [Sizes.behind, List.foldl_cons, List.foldl_nil, Sizes.after]
    split <;> rfl

/-- The surface may be configured anew to the size that it is configured to. -/
theorem keepsSizes_configure (configured : (device.sizes acquired).configured = some size) :
    device.KeepsSizes acquired (emit (.configure size) device).2 := by
  have advance := advances_emit device (.configure size)
  refine ⟨⟨_, advance⟩, ?_, fun view _ => ?_⟩
  · rw [advance.sizes_eq, configured]
    rfl
  · rw [advance.sizes_eq]
    rfl

theorem keepsSizes_createTexture (label : String) (size : Extent) (format : TextureFormat)
    (usages : List TextureUsage) (device : Device) :
    device.KeepsSizes acquired (createTexture label size format usages device).2 := by
  have advance := advances_create device fun texture =>
    .createTexture texture label size format usages
  refine ⟨⟨_, advance⟩, ?_, fun view _ => ?_⟩ <;>
  · rw [createTexture, advance.sizes_eq]
    rfl

/-- A new view has a number of its own, so no other view changes. -/
theorem keepsSizes_createView (texture : ViewedTexture) (device : Device) :
    device.KeepsSizes acquired (createView texture device).2 := by
  have advance := advances_create device fun view => .createView view texture
  refine ⟨⟨_, advance⟩, ?_, fun view old => ?_⟩
  · rw [createView, advance.sizes_eq]
    rfl
  · rw [createView, advance.sizes_eq]
    refine if_neg ?_
    rintro rfl
    exact Nat.lt_irrefl _ old

/-- A new view is as large as the texture that it is made of. -/
theorem viewSized_createView {texture : ViewedTexture}
    (viewed : (device.sizes acquired).viewed acquired texture = some size) :
    (createView texture device).2.ViewSized acquired (createView texture device).1 size := by
  have advance := advances_create device fun view => .createView view texture
  refine ⟨(gives_create device _).taken, ?_⟩
  rw [createView, advance.sizes_eq]
  exact (if_pos rfl).trans viewed

theorem viewSized_createTexture (label : String) (size : Extent) (format : TextureFormat)
    (usages : List TextureUsage) (device : Device) :
    let made := (createTexture label size format usages >>= fun texture =>
      createView (.texture texture)) device
    made.2.ViewSized acquired made.1 size := by
  have advance := advances_create device fun texture =>
    .createTexture texture label size format usages
  have viewed : ((createTexture label size format usages device).2.sizes acquired).texture
      (createTexture label size format usages device).1 = some size := by
    rw [createTexture, advance.sizes_eq]
    exact if_pos rfl
  exact viewSized_createView viewed

/-- The texture that was acquired last is as large as the surface is configured to. -/
theorem viewed_surface {status : SurfaceStatus} (ends : device.Advances later [.acquire status])
    (good : status.isAcquired = true)
    (asConfigured : AcquiredAsConfigured acquired later.log) :
    (later.sizes acquired).viewed acquired .surface = (device.sizes acquired).configured := by
  rw [ends.log_eq] at asConfigured
  have configured : (device.sizes acquired).configured =
      some (acquired (device.sizes acquired).acquisitions) := asConfigured.last good
  rw [configured, ends.sizes_eq]
  simp only [Sizes.behind, List.foldl_cons, List.foldl_nil, Sizes.after, good, if_true]
  rfl

end Device

/-! ### Steps on the device -/

namespace DeviceM

variable {α β : Type}

/-- A step that leaves the sizes of views alone, from wherever it starts. -/
def KeepsSizes (acquired : Nat → Extent) (step : DeviceM α) : Prop :=
  ∀ device, Device.KeepsSizes acquired device (step device).2

theorem keepsSizes_pure (value : α) : KeepsSizes acquired (pure value : DeviceM α) := fun device =>
  .refl device

theorem KeepsSizes.bind {first : DeviceM α} {next : α → DeviceM β}
    (keeps : KeepsSizes acquired first) (keepsNext : ∀ value, KeepsSizes acquired (next value)) :
    KeepsSizes acquired (first >>= next) := fun device =>
  (keeps device).trans (keepsNext _ _)

theorem keepsSizes_emit {event : GpuEvent} (sizeless : event.Sizeless) :
    KeepsSizes acquired (Device.emit event) := fun device =>
  .of_sizeless (Device.advances_emit device event) (List.forall_mem_singleton.mpr sizeless)

theorem keepsSizes_create {kind : ResourceKind} {event : Handle kind → GpuEvent}
    (sizeless : ∀ handle, (event handle).Sizeless) : KeepsSizes acquired (Device.create event) :=
  fun device => .of_sizeless (Device.advances_create device event)
    (List.forall_mem_singleton.mpr (sizeless _))

theorem keepsSizes_createEncoder : KeepsSizes acquired Device.createEncoder :=
  keepsSizes_create fun _ _ _ => rfl

theorem Lists.keepsSizes {step : DeviceM α} {listed : List GpuEvent} (lists : Lists step listed)
    (sizeless : ∀ event ∈ listed, event.Sizeless) : KeepsSizes acquired step := fun device =>
  .of_sizeless (lists device) sizeless

theorem keepsSizes_optionForM {item : Option α} {step : α → DeviceM Unit}
    (keeps : ∀ item, KeepsSizes acquired (step item)) : KeepsSizes acquired (item.forM step) := by
  cases item with
  | none => exact keepsSizes_pure ()
  | some item => exact keeps item

theorem keepsSizes_depthBuffer (label : String) (size : Extent) :
    KeepsSizes acquired (DepthBuffer.create label size) :=
  KeepsSizes.bind (Device.keepsSizes_createTexture _ _ _ _) fun _ =>
    KeepsSizes.bind (Device.keepsSizes_createView _) fun _ => keepsSizes_pure _

theorem keepsSizes_framebuffer (descriptor : FramebufferDescriptor) :
    KeepsSizes acquired (GpuFramebuffer.create descriptor) := by
  refine KeepsSizes.bind (Device.keepsSizes_createTexture _ _ _ _) fun _ =>
    KeepsSizes.bind (Device.keepsSizes_createView _) fun _ => ?_
  split
  · exact (keepsSizes_depthBuffer _ _).bind fun _ => keepsSizes_pure _
  · exact keepsSizes_pure _

theorem keepsSizes_quad : KeepsSizes acquired FullscreenQuad.create :=
  (keepsSizes_create fun _ _ _ => rfl).bind fun _ =>
    (keepsSizes_create fun _ _ _ => rfl).bind fun _ => keepsSizes_pure _

theorem keepsSizes_blitter : KeepsSizes acquired Blitter.create := by
  refine (keepsSizes_create fun _ _ _ => rfl).bind fun _ => ?_
  refine (keepsSizes_create fun _ _ _ => rfl).bind fun _ => ?_
  refine (keepsSizes_create fun _ _ _ => rfl).bind fun _ => ?_
  refine (keepsSizes_create fun _ _ _ => rfl).bind fun _ => ?_
  exact (keepsSizes_create fun _ _ _ => rfl).bind fun _ => keepsSizes_pure _

theorem keepsSizes_createUniformBuffers (slots : List UniformSlot) :
    KeepsSizes acquired (ProgramResources.createUniformBuffers slots) := by
  induction slots with
  | nil => exact keepsSizes_pure []
  | cons slot rest ih =>
      exact (keepsSizes_create fun _ _ _ => rfl).bind fun _ => ih.bind fun _ => keepsSizes_pure _

theorem keepsSizes_createPipelines (label : String) (descriptor : ProgramDescriptor)
    (layout : VertexLayout) (inputs : List VertexInput) :
    KeepsSizes acquired (ProgramResources.createPipelines label descriptor layout inputs) := by
  unfold ProgramResources.createPipelines
  refine (keepsSizes_create fun _ _ _ => rfl).bind fun _ => ?_
  refine (keepsSizes_create fun _ _ _ => rfl).bind fun _ => ?_
  refine (keepsSizes_create fun _ _ _ => rfl).bind fun _ => ?_
  refine (keepsSizes_create fun _ _ _ => rfl).bind fun _ => ?_
  refine (keepsSizes_create fun _ _ _ => rfl).bind fun _ => ?_
  refine (keepsSizes_create fun _ _ _ => rfl).bind fun _ => ?_
  exact (keepsSizes_create fun _ _ _ => rfl).bind fun _ => keepsSizes_pure _

theorem keepsSizes_popErrorScope : KeepsSizes acquired Device.popErrorScope :=
  (keepsSizes_emit fun _ _ => rfl).bind fun _ _ => .of_same rfl rfl

theorem keepsSizes_createResources (label : String) (descriptor : ProgramDescriptor)
    (layout : VertexLayout) :
    KeepsSizes acquired (ProgramResources.create label descriptor layout) := by
  unfold ProgramResources.create
  split
  · exact keepsSizes_pure _
  · refine (keepsSizes_emit fun _ _ => rfl).bind fun _ =>
      (keepsSizes_createPipelines _ _ _ _).bind fun _ =>
        keepsSizes_popErrorScope.bind fun failure => ?_
    cases failure with
    | some message => exact keepsSizes_pure _
    | none =>
        refine (keepsSizes_createUniformBuffers _).bind fun _ => ?_
        refine (keepsSizes_create fun _ _ _ => rfl).bind fun _ => ?_
        exact (keepsSizes_create fun _ _ _ => rfl).bind fun _ => keepsSizes_pure _

theorem keepsSizes_writeUniforms (program : GpuProgram) (engine : EngineUniform → ShaderValue) :
    KeepsSizes acquired (program.writeUniforms engine) := by
  refine (lists_writeUniforms program engine).keepsSizes fun event member => ?_
  obtain ⟨_, _, rfl⟩ := List.mem_map.mp member
  exact fun _ _ => rfl

end DeviceM

/-! ### Steps of the renderer -/

namespace GpuAction

variable {α β : Type}

/-- An action that leaves the sizes of views alone, whether it fails or not. -/
def KeepsSizes (acquired : Nat → Extent) (action : GpuAction α) : Prop :=
  ∀ backend : GpuBackend, backend.device.KeepsSizes acquired (action backend).2.device

theorem keepsSizes_pure (value : α) : KeepsSizes acquired (pure value : GpuAction α) :=
  fun backend => .refl backend.device

theorem keepsSizes_throw (error : GpuError) : KeepsSizes acquired (throw error : GpuAction α) :=
  fun backend => .refl backend.device

theorem keepsSizes_get : KeepsSizes acquired (get : GpuAction GpuBackend) := fun backend =>
  .refl backend.device

theorem KeepsSizes.bind {first : GpuAction α} {next : α → GpuAction β}
    (keeps : KeepsSizes acquired first) (keepsNext : ∀ value, KeepsSizes acquired (next value)) :
    KeepsSizes acquired (first >>= next) := by
  intro backend
  have here := keeps backend
  rw [Action.bind_apply]
  cases ran : first backend with
  | mk outcome middle =>
      rw [ran] at here
      cases outcome with
      | error error => exact here
      | ok value => exact here.trans (keepsNext value middle)

theorem keepsSizes_onDevice {step : DeviceM α} (keeps : DeviceM.KeepsSizes acquired step) :
    KeepsSizes acquired (GpuBackend.onDevice step) := fun backend => keeps backend.device

theorem keepsSizes_currentFrame : KeepsSizes acquired GpuBackend.currentFrame := by
  intro backend
  rw [GpuBackend.currentFrame_apply]
  split <;> exact .refl backend.device

theorem keepsSizes_flush : KeepsSizes acquired GpuBackend.flush :=
  keepsSizes_currentFrame.bind fun _ =>
    (keepsSizes_onDevice DeviceM.keepsSizes_createEncoder).bind fun _ =>
      KeepsSizes.bind (fun backend => .refl backend.device) fun _ =>
        keepsSizes_onDevice (DeviceM.keepsSizes_emit fun _ _ => rfl)

theorem keepsSizes_bindTextures (program : GpuProgram) :
    KeepsSizes acquired (GpuBackend.bindTextures program) := by
  refine keepsSizes_get.bind fun backend => ?_
  split
  · exact keepsSizes_throw _
  · exact keepsSizes_onDevice (DeviceM.keepsSizes_create fun _ _ _ => rfl)

theorem keepsSizes_prepareOverride (size : Extent) :
    KeepsSizes acquired (GpuBackend.prepareOverride size) := by
  refine keepsSizes_get.bind fun backend => ?_
  split
  · exact keepsSizes_pure _
  · refine KeepsSizes.bind ?_ fun textures => keepsSizes_pure _
    rw [GpuBackend.prepareProgram_eq]
    split
    · exact keepsSizes_bindTextures _
    · refine KeepsSizes.bind ?_ fun _ => keepsSizes_bindTextures _
      exact keepsSizes_flush.bind fun _ => keepsSizes_get.bind fun _ =>
        keepsSizes_onDevice (DeviceM.keepsSizes_writeUniforms _ _)

theorem keepsSizes_drawPass {draws : DeviceM Unit} (keeps : DeviceM.KeepsSizes acquired draws)
    (label : String) (size : Extent) (prepared : Option (GpuProgram × Handle .bindGroup)) :
    KeepsSizes acquired (GpuBackend.drawPass label draws size prepared) := by
  refine keepsSizes_currentFrame.bind fun frame => keepsSizes_get.bind fun backend =>
    keepsSizes_onDevice ?_
  refine (DeviceM.keepsSizes_emit fun _ _ => rfl).bind fun _ => DeviceM.KeepsSizes.bind ?_ fun _ =>
    DeviceM.KeepsSizes.bind ?_ fun _ => keeps.bind fun _ =>
      DeviceM.keepsSizes_emit fun _ _ => rfl
  · exact DeviceM.keepsSizes_optionForM fun _ => DeviceM.keepsSizes_emit fun _ _ => rfl
  · refine DeviceM.keepsSizes_optionForM fun applied => ?_
    exact (DeviceM.keepsSizes_emit fun _ _ => rfl).bind fun _ =>
      (DeviceM.keepsSizes_emit fun _ _ => rfl).bind fun _ =>
        DeviceM.keepsSizes_emit fun _ _ => rfl

theorem keepsSizes_renderPass (label : String) (commands : List PassCommand) :
    KeepsSizes acquired (GpuBackend.renderPass label (PassCommand.record commands)) := by
  have drawn : DeviceM.KeepsSizes acquired (PassCommand.record commands) := by
    refine (GpuBackend.lists_record commands).keepsSizes fun event member => ?_
    exact GpuEvent.sizeless_of_inPass (GpuBackend.inPass_of_mem_commands member)
  rw [GpuBackend.renderPass_eq]
  exact keepsSizes_currentFrame.bind fun _ => keepsSizes_get.bind fun _ =>
    (keepsSizes_prepareOverride _).bind fun _ => keepsSizes_drawPass drawn _ _ _

end GpuAction

theorem keepsSizes_drawBlits (blitter : Blitter) (frame : GpuFrame) (surface : Extent)
    (blits : List (GpuFramebuffer × Viewport)) (device : Device) :
    device.KeepsSizes acquired (GpuBackend.drawBlits blitter frame surface blits device).2 := by
  by_cases pending : blits = []
  · rw [pending, GpuBackend.drawBlits_nil]
    exact .refl device
  · obtain ⟨copies, middle, _, created, drawn⟩ :=
      GpuBackend.drawBlits_of_pending blitter frame surface pending device
    refine .trans (.of_sizeless created fun event member => ?_)
      (.of_sizeless drawn GpuBackend.proper_debugPass.sizeless)
    obtain ⟨place, _, rfl⟩ := List.mem_iff_getElem.mp member
    rw [List.getElem_zipWith]
    exact fun _ _ => rfl

/-! ### Depth buffers and framebuffers -/

variable {device later : Device}

theorem viewSized_depthBuffer (label : String) (size : Extent) (device : Device) :
    (DepthBuffer.create label size device).2.ViewSized acquired
      (DepthBuffer.create label size device).1.view size :=
  Device.viewSized_createTexture label size .depth [.renderAttachment] device

/-- The views of a framebuffer, or its only one, have the size that its descriptor says. -/
structure GpuFramebuffer.ViewsSized (acquired : Nat → Extent) (device : Device)
    (framebuffer : GpuFramebuffer) : Prop where
  color : device.ViewSized acquired framebuffer.colorView framebuffer.descriptor.size
  depth : ∀ depth, framebuffer.depth = some depth →
    device.ViewSized acquired depth.view framebuffer.descriptor.size

theorem GpuFramebuffer.ViewsSized.to_later {framebuffer : GpuFramebuffer}
    (sized : framebuffer.ViewsSized acquired device) (keeps : device.KeepsSizes acquired later) :
    framebuffer.ViewsSized acquired later :=
  ⟨sized.color.to_later keeps, fun depth has => (sized.depth depth has).to_later keeps⟩

theorem GpuFramebuffer.ViewsSized.configure {framebuffer : GpuFramebuffer}
    (sized : framebuffer.ViewsSized acquired device) (surface : Extent) :
    framebuffer.ViewsSized acquired (Device.emit (.configure surface) device).2 :=
  ⟨sized.color.configure surface, fun depth has => (sized.depth depth has).configure surface⟩

theorem GpuFramebuffer.viewsSized_create (descriptor : FramebufferDescriptor) (device : Device) :
    (create descriptor device).1.ViewsSized acquired (create descriptor device).2 := by
  have color : Device.ViewSized acquired _ _ descriptor.size :=
    Device.viewSized_createTexture descriptor.name descriptor.size .color
      [.textureBinding, .renderAttachment] device
  unfold create
  cases asked : descriptor.depth with
  | false => exact ⟨color, nofun⟩
  | true =>
      refine ⟨color.to_later (DeviceM.keepsSizes_depthBuffer _ _ _), ?_⟩
      rintro _ ⟨⟩
      exact viewSized_depthBuffer _ _ _

end ShaderFlow

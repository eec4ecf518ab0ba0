/-
Module: ShaderFlow.Proofs.Gpu.DeviceLog
Purpose: What steps on the device list, and which numbers they give out.
Main exports: Device.log, GpuEvent.Calm, GpuEvent.SetsUp, Device.Advances, Device.Gives,
  DeviceM.Calm, DeviceM.SetsUp, DeviceM.Lists
-/
import ShaderFlow.Gpu.Source

namespace ShaderFlow

/-!
The calls that a device lists only ever grow, and so do the numbers that it has given out.  Most steps
are calm: they neither submit a command buffer nor write to a buffer, and the buffers that they create
have numbers that were free.  Steps that only set something up are calm and record nothing.  Sequences
of such steps are such steps again, so one line settles each function that creates resources or records
a pass.
-/

/-! ### Calm steps -/

/-- Neither a submission nor a write, nor the creation of a buffer of a number below `count`. -/
def GpuEvent.Calm (count : Nat) : GpuEvent → Prop
  | .submit _ | .writeBuffer .. => False
  | .createBuffer buffer .. => count ≤ buffer.number
  | .configure _ | .acquire _ | .present | .createTexture .. | .createView .. | .createEncoder _
  | .createShader .. | .createBindGroupLayout .. | .createPipelineLayout .. | .createSampler ..
  | .createPipeline .. | .createBindGroup .. | .pushErrorScope | .popErrorScope | .beginPass ..
  | .endPass | .setViewport _ | .setPipeline _ | .setBindGroup .. | .setVertexBuffer ..
  | .setIndexBuffer .. | .draw .. | .drawIndexed .. => True

theorem GpuEvent.Calm.mono {event : GpuEvent} {count earlier : Nat} (calm : event.Calm count)
    (le : earlier ≤ count) : event.Calm earlier := by
  cases event with
  | createBuffer => exact Nat.le_trans le calm
  | submit | writeBuffer => exact calm
  | _ => trivial

/-- A call that asks the surface for something or creates a resource.  Buffers that it creates have
numbers from `count` on. -/
def GpuEvent.SetsUp (count : Nat) : GpuEvent → Prop
  | .createBuffer buffer .. => count ≤ buffer.number
  | .configure _ | .acquire _ | .createTexture .. | .createView .. | .createEncoder _
  | .createShader .. | .createBindGroupLayout .. | .createPipelineLayout .. | .createSampler ..
  | .createPipeline .. | .createBindGroup .. | .pushErrorScope | .popErrorScope => True
  | .present | .submit _ | .writeBuffer .. | .beginPass .. | .endPass | .setViewport _
  | .setPipeline _ | .setBindGroup .. | .setVertexBuffer .. | .setIndexBuffer .. | .draw ..
  | .drawIndexed .. => False

theorem GpuEvent.SetsUp.calm {event : GpuEvent} {count : Nat} (setsUp : event.SetsUp count) :
    event.Calm count := by
  cases event <;> first | exact setsUp | trivial

theorem GpuEvent.SetsUp.mono {event : GpuEvent} {count earlier : Nat} (setsUp : event.SetsUp count)
    (le : earlier ≤ count) : event.SetsUp earlier := by
  cases event with
  | createBuffer => exact Nat.le_trans le setsUp
  | _ => exact setsUp

namespace Device

/-- The calls so far, in order. -/
def log (device : Device) : List GpuEvent := device.events.toList

/-- The later device has listed further calls and taken no number back. -/
structure Advances (device later : Device) (events : List GpuEvent) : Prop where
  log_eq : later.log = device.log ++ events
  counts_le : ∀ kind, device.counts kind ≤ later.counts kind

/-- The number of the handle was free before and is taken afterwards. -/
structure Gives (device later : Device) {kind : ResourceKind} (handle : Handle kind) : Prop where
  free : device.counts kind ≤ handle.number
  taken : handle.number < later.counts kind

/-- The further calls are calm. -/
structure CalmlyAdvances (device later : Device) (events : List GpuEvent) : Prop
    extends Advances device later events where
  calm : ∀ event ∈ events, event.Calm (device.counts .buffer)

variable {device middle later : Device} {events others : List GpuEvent}

theorem Advances.refl (device : Device) : device.Advances device [] :=
  ⟨by rw [List.append_nil], fun _ => Nat.le_refl _⟩

theorem Advances.trans (first : device.Advances middle events)
    (second : middle.Advances later others) : device.Advances later (events ++ others) where
  log_eq := by rw [second.log_eq, first.log_eq, List.append_assoc]
  counts_le kind := Nat.le_trans (first.counts_le kind) (second.counts_le kind)

theorem Advances.mem_log (advance : device.Advances later events) {event : GpuEvent}
    (member : event ∈ device.log) : event ∈ later.log :=
  advance.log_eq ▸ List.mem_append_left events member

theorem CalmlyAdvances.refl (device : Device) : device.CalmlyAdvances device [] :=
  ⟨.refl device, by simp⟩

theorem CalmlyAdvances.trans (first : device.CalmlyAdvances middle events)
    (second : middle.CalmlyAdvances later others) :
    device.CalmlyAdvances later (events ++ others) where
  toAdvances := first.toAdvances.trans second.toAdvances
  calm := by
    intro event member
    rcases List.mem_append.mp member with before | after
    · exact first.calm event before
    · exact (second.calm event after).mono (first.counts_le .buffer)

theorem Gives.of_earlier {kind : ResourceKind} {handle : Handle kind}
    (gives : middle.Gives later handle) (advance : device.Advances middle events) :
    device.Gives later handle :=
  ⟨Nat.le_trans (advance.counts_le kind) gives.free, gives.taken⟩

theorem Gives.to_later {kind : ResourceKind} {handle : Handle kind}
    (gives : device.Gives middle handle) (advance : middle.Advances later events) :
    device.Gives later handle :=
  ⟨gives.free, Nat.lt_of_lt_of_le gives.taken (advance.counts_le kind)⟩

/-- A device that lists nothing and gives out no number advances by no call. -/
theorem CalmlyAdvances.of_same (events : later.events = device.events)
    (counts : later.counts = device.counts) : device.CalmlyAdvances later [] := by
  refine ⟨⟨?_, fun kind => Nat.le_of_eq (congrFun counts kind).symm⟩, by simp⟩
  rw [log, events, List.append_nil, log]

theorem advances_emit (device : Device) (event : GpuEvent) :
    device.Advances (emit event device).2 [event] :=
  ⟨by simp [log, emit], fun _ => Nat.le_refl _⟩

theorem advances_create {kind : ResourceKind} (device : Device) (event : Handle kind → GpuEvent) :
    device.Advances (create event device).2 [event ⟨device.counts kind⟩] := by
  refine ⟨?_, ?_⟩
  · show (device.events.push (event ⟨device.counts kind⟩)).toList = _
    simp [log]
  · intro other
    show device.counts other ≤ if other = kind then device.counts kind + 1 else device.counts other
    split
    · next same => exact same ▸ Nat.le_succ _
    · exact Nat.le_refl _

theorem mem_log_create {kind : ResourceKind} (device : Device) (event : Handle kind → GpuEvent) :
    event (create event device).1 ∈ (create event device).2.log := by
  rw [(advances_create device event).log_eq]
  exact List.mem_append_right _ List.mem_cons_self

theorem gives_create {kind : ResourceKind} (device : Device) (event : Handle kind → GpuEvent) :
    device.Gives (create event device).2 (create event device).1 := by
  refine ⟨Nat.le_refl _, ?_⟩
  show device.counts kind < if kind = kind then device.counts kind + 1 else device.counts kind
  rw [if_pos rfl]
  exact Nat.lt_succ_self _

end Device

namespace DeviceM

variable {α β : Type}

theorem bind_apply (first : DeviceM α) (next : α → DeviceM β) (device : Device) :
    (first >>= next : DeviceM β) device = next (first device).1 (first device).2 := rfl

/-- A step that advances the device calmly, from wherever it starts. -/
def Calm (step : DeviceM α) : Prop :=
  ∀ device, ∃ events, Device.CalmlyAdvances device (step device).2 events

theorem calm_pure (value : α) : Calm (pure value : DeviceM α) := fun device => ⟨[], .refl device⟩

theorem Calm.bind {first : DeviceM α} {next : α → DeviceM β} (calm : Calm first)
    (calmNext : ∀ value, Calm (next value)) : Calm (first >>= next) := by
  intro device
  obtain ⟨events, here⟩ := calm device
  obtain ⟨others, there⟩ := calmNext (first device).1 (first device).2
  exact ⟨events ++ others, here.trans there⟩

theorem calm_emit {event : GpuEvent} (calm : ∀ count, event.Calm count) :
    Calm (Device.emit event) := fun device =>
  ⟨[event], Device.advances_emit device event, by simpa using calm _⟩

theorem calm_forM {items : List α} {step : α → DeviceM Unit} (calm : ∀ item, Calm (step item)) :
    Calm (items.forM step) := by
  induction items with
  | nil => exact calm_pure ()
  | cons item rest ih => exact (calm item).bind fun _ => ih

theorem calm_optionForM {item : Option α} {step : α → DeviceM Unit}
    (calm : ∀ item, Calm (step item)) : Calm (item.forM step) := by
  cases item with
  | none => exact calm_pure ()
  | some item => exact calm item

theorem calm_mapM {items : List α} {step : α → DeviceM β} (calm : ∀ item, Calm (step item)) :
    Calm (items.mapM step) := by
  induction items with
  | nil => exact calm_pure []
  | cons item rest ih =>
      rw [List.mapM_cons]
      exact (calm item).bind fun _ => ih.bind fun _ => calm_pure _

/-- A step that lists the given calls, wherever it starts. -/
def Lists (step : DeviceM α) (events : List GpuEvent) : Prop :=
  ∀ device, Device.Advances device (step device).2 events

theorem Lists.bind {first : DeviceM α} {next : α → DeviceM β} {events others : List GpuEvent}
    (lists : Lists first events) (listsNext : ∀ value, Lists (next value) others) :
    Lists (first >>= next) (events ++ others) := fun device =>
  (lists device).trans (listsNext _ _)

theorem lists_emit (event : GpuEvent) : Lists (Device.emit event) [event] := fun device =>
  Device.advances_emit device event

theorem lists_forM {items : List α} {step : α → DeviceM Unit} {event : α → GpuEvent}
    (lists : ∀ item, Lists (step item) [event item]) :
    Lists (items.forM step) (items.map event) := by
  induction items with
  | nil => exact fun device => .refl device
  | cons item rest ih => exact (lists item).bind fun _ => ih

theorem lists_optionForM {item : Option α} {step : α → DeviceM Unit} {event : α → GpuEvent}
    (lists : ∀ item, Lists (step item) [event item]) :
    Lists (item.forM step) (item.toList.map event) := by
  cases item with
  | none => exact fun device => .refl device
  | some item => exact lists item

theorem lists_forM_flatMap {items : List α} {step : α → DeviceM Unit} {events : α → List GpuEvent}
    (lists : ∀ item, Lists (step item) (events item)) :
    Lists (items.forM step) (items.flatMap events) := by
  induction items with
  | nil => exact fun device => .refl device
  | cons item rest ih => exact (lists item).bind fun _ => ih

theorem Lists.calm {step : DeviceM α} {events : List GpuEvent} (lists : Lists step events)
    (calm : ∀ event ∈ events, ∀ count, event.Calm count) : Calm step := fun device =>
  ⟨events, lists device, fun event member => calm event member _⟩

/-! ### Steps that set something up -/

/-- A step whose calls set something up, from wherever it starts. -/
def SetsUp (step : DeviceM α) : Prop :=
  ∀ device, ∃ events, Device.Advances device (step device).2 events ∧
    ∀ event ∈ events, event.SetsUp (device.counts .buffer)

theorem SetsUp.calm {step : DeviceM α} (setsUp : SetsUp step) : Calm step := by
  intro device
  obtain ⟨events, advance, each⟩ := setsUp device
  exact ⟨events, advance, fun event member => (each event member).calm⟩

/-- A step that lists nothing and gives out no number. -/
theorem setsUp_silent {step : DeviceM α}
    (silent : ∀ device, (step device).2.events = device.events ∧
      (step device).2.counts = device.counts) : SetsUp step := by
  intro device
  obtain ⟨events, counts⟩ := silent device
  have same := Device.CalmlyAdvances.of_same events counts
  exact ⟨[], same.toAdvances, by simp⟩

theorem setsUp_pure (value : α) : SetsUp (pure value : DeviceM α) :=
  setsUp_silent fun _ => ⟨rfl, rfl⟩

theorem SetsUp.bind {first : DeviceM α} {next : α → DeviceM β} (setsUp : SetsUp first)
    (setsUpNext : ∀ value, SetsUp (next value)) : SetsUp (first >>= next) := by
  intro device
  obtain ⟨events, here, each⟩ := setsUp device
  obtain ⟨others, there, eachOther⟩ := setsUpNext (first device).1 (first device).2
  refine ⟨events ++ others, here.trans there, List.forall_mem_append.mpr ⟨each, ?_⟩⟩
  exact fun event member => (eachOther event member).mono (here.counts_le .buffer)

theorem setsUp_emit {event : GpuEvent} (setsUp : ∀ count, event.SetsUp count) :
    SetsUp (Device.emit event) := fun device =>
  ⟨[event], Device.advances_emit device event, by simpa using setsUp _⟩

theorem setsUp_create {kind : ResourceKind} {event : Handle kind → GpuEvent}
    (setsUp : ∀ device : Device, (event ⟨device.counts kind⟩).SetsUp (device.counts .buffer)) :
    SetsUp (Device.create event) := fun device =>
  ⟨[event ⟨device.counts kind⟩], Device.advances_create device event, by simpa using setsUp device⟩

theorem setsUp_createView (texture : ViewedTexture) : SetsUp (Device.createView texture) :=
  setsUp_create fun _ => by trivial

theorem setsUp_createEncoder : SetsUp Device.createEncoder := setsUp_create fun _ => by trivial

theorem setsUp_createBindGroup (label : String) (layout : Handle .bindGroupLayout)
    (entries : List BindGroupEntry) : SetsUp (Device.createBindGroup label layout entries) :=
  setsUp_create fun _ => by trivial

theorem setsUp_createSampler : SetsUp Device.createSampler := setsUp_create fun _ => by trivial

theorem setsUp_depthBuffer (label : String) (size : Extent) :
    SetsUp (DepthBuffer.create label size) := by
  refine (setsUp_create fun _ => by trivial).bind fun _ => ?_
  exact (setsUp_createView _).bind fun _ => setsUp_pure _

theorem setsUp_framebuffer (descriptor : FramebufferDescriptor) :
    SetsUp (GpuFramebuffer.create descriptor) := by
  refine (setsUp_create fun _ => by trivial).bind fun _ => (setsUp_createView _).bind fun _ => ?_
  split
  · exact (setsUp_depthBuffer _ _).bind fun _ => setsUp_pure _
  · exact setsUp_pure _

theorem setsUp_quad : SetsUp FullscreenQuad.create := by
  refine (setsUp_create fun _ => Nat.le_refl _).bind fun _ => ?_
  exact (setsUp_create fun _ => Nat.le_refl _).bind fun _ => setsUp_pure _

theorem setsUp_acquire : SetsUp Device.acquire := by
  refine SetsUp.bind (setsUp_silent fun device => ?_) fun status =>
    (setsUp_emit fun _ => by trivial).bind fun _ => setsUp_pure _
  cases answers : device.surfaceAnswers <;>
    simp [modifyGet, MonadStateOf.modifyGet, StateT.modifyGet, answers, pure]

theorem setsUp_popErrorScope : SetsUp Device.popErrorScope :=
  (setsUp_emit fun _ => by trivial).bind fun _ => setsUp_silent fun _ => ⟨rfl, rfl⟩

theorem setsUp_blitter : SetsUp Blitter.create := by
  refine (setsUp_create fun _ => by trivial).bind fun _ => ?_
  refine (setsUp_create fun _ => by trivial).bind fun _ => ?_
  refine (setsUp_create fun _ => by trivial).bind fun _ => ?_
  refine (setsUp_create fun _ => by trivial).bind fun _ => ?_
  exact setsUp_createSampler.bind fun _ => setsUp_pure _

theorem setsUp_createUniformBuffers (slots : List UniformSlot) :
    SetsUp (ProgramResources.createUniformBuffers slots) := by
  induction slots with
  | nil => exact setsUp_pure []
  | cons slot rest ih =>
      refine (setsUp_create fun _ => Nat.le_refl _).bind fun _ => ?_
      exact ih.bind fun _ => setsUp_pure _

theorem setsUp_createPipelines (label : String) (descriptor : ProgramDescriptor)
    (layout : VertexLayout) (inputs : List VertexInput) :
    SetsUp (ProgramResources.createPipelines label descriptor layout inputs) := by
  unfold ProgramResources.createPipelines
  refine (setsUp_create fun _ => by trivial).bind fun _ => ?_
  refine (setsUp_create fun _ => by trivial).bind fun _ => ?_
  refine (setsUp_create fun _ => by trivial).bind fun _ => ?_
  refine (setsUp_create fun _ => by trivial).bind fun _ => ?_
  refine (setsUp_create fun _ => by trivial).bind fun _ => ?_
  refine (setsUp_create fun _ => by trivial).bind fun _ => ?_
  exact (setsUp_create fun _ => by trivial).bind fun _ => setsUp_pure _

theorem setsUp_createResources (label : String) (descriptor : ProgramDescriptor)
    (layout : VertexLayout) : SetsUp (ProgramResources.create label descriptor layout) := by
  unfold ProgramResources.create
  split
  · exact setsUp_pure _
  · refine (setsUp_emit fun _ => by trivial).bind fun _ =>
      (setsUp_createPipelines _ _ _ _).bind fun _ => setsUp_popErrorScope.bind fun failure => ?_
    cases failure with
    | some message => exact setsUp_pure _
    | none =>
        refine (setsUp_createUniformBuffers _).bind fun _ => ?_
        refine (setsUp_createBindGroup _ _ _).bind fun _ => ?_
        exact setsUp_createSampler.bind fun _ => setsUp_pure _

/-! ### Functions that are calm -/

theorem calm_blit (blitter : Blitter) (group : Handle .bindGroup) (viewport : Viewport) :
    Calm (blitter.draw group viewport) := by
  refine (calm_emit fun _ => by trivial).bind fun _ => ?_
  refine (calm_emit fun _ => by trivial).bind fun _ => ?_
  refine (calm_emit fun _ => by trivial).bind fun _ => ?_
  exact calm_emit fun _ => by trivial

theorem calm_drawBlits (blitter : Blitter) (frame : GpuFrame) (surface : Extent)
    (blits : List (GpuFramebuffer × Viewport)) :
    Calm (GpuBackend.drawBlits blitter frame surface blits) := by
  unfold GpuBackend.drawBlits
  split
  · exact calm_pure ()
  · refine Calm.bind (calm_mapM fun _ => ?_) fun groups => ?_
    · exact (setsUp_createBindGroup _ _ _).calm.bind fun _ => calm_pure _
    · refine (calm_emit fun _ => by trivial).bind fun _ => Calm.bind (calm_forM fun _ => ?_) fun _ =>
        calm_emit fun _ => by trivial
      exact calm_optionForM fun _ => calm_blit _ _ _

theorem calm_applyViewport (viewport : Viewport) (target : Extent) :
    Calm (GpuBackend.applyViewport viewport target) :=
  calm_optionForM fun _ => calm_emit fun _ => by trivial

theorem calm_applyProgram (program : GpuProgram) (hasDepth : Bool) (textures : Handle .bindGroup) :
    Calm (GpuBackend.applyProgram program hasDepth textures) := by
  refine (calm_emit fun _ => by trivial).bind fun _ => ?_
  refine (calm_emit fun _ => by trivial).bind fun _ => ?_
  exact calm_emit fun _ => by trivial

end DeviceM

end ShaderFlow

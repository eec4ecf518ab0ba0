/-
Module: ShaderFlow.Proofs.Gpu.UniformBuffers
Purpose: What buffers hold, and whose the uniform buffers are.
Main exports: bufferContents, ProgramDescriptor.WellTyped, ShaderGraph.wellTyped_of_compile,
  GpuSession.Tidy, GpuSession.Reachable.tidy
-/
import ShaderFlow.Proofs.Gpu.Session
import ShaderFlow.Proofs.Shader.Linking
import ShaderFlow.Proofs.Shader.UniformLayout

namespace ShaderFlow

/-!
A buffer holds what it was created with, under everything written over it since.  Uniform buffers
belong to the resources of one key of the cache: numbers are given out once, so two resources that
share a buffer are the same.  A write of a uniform has the length that the type of the uniform calls
for, and so has the buffer, from its creation on.
-/

/-! ### Contents of buffers -/

/-- Bytes with others written over them from an offset on. -/
def overlay (held : List UInt8) (offset : Nat) (bytes : List UInt8) : List UInt8 :=
  held.take offset ++ bytes ++ held.drop (offset + bytes.length)

/-- What a buffer holds behind a call. -/
def GpuEvent.contentsAfter (buffer : Handle .buffer) (held : List UInt8) : GpuEvent → List UInt8
  | .createBuffer created _ _ contents => if created = buffer then contents else held
  | .writeBuffer written offset bytes => if written = buffer then overlay held offset bytes else held
  | _ => held

/-- What a buffer holds behind further calls. -/
def contentsFrom (buffer : Handle .buffer) (held : List UInt8) (events : List GpuEvent) : List UInt8 :=
  events.foldl (GpuEvent.contentsAfter buffer) held

/-- What a buffer holds behind the calls of a log.  A write reaches the buffer behind all submissions
listed before it and in front of all listed after it. -/
def bufferContents (log : List GpuEvent) (buffer : Handle .buffer) : List UInt8 :=
  contentsFrom buffer [] log

variable {buffer : Handle .buffer} {held : List UInt8} {events others : List GpuEvent}

theorem contentsFrom_append : contentsFrom buffer held (events ++ others) =
    contentsFrom buffer (contentsFrom buffer held events) others := List.foldl_append

theorem bufferContents_append : bufferContents (events ++ others) buffer =
    contentsFrom buffer (bufferContents events buffer) others := contentsFrom_append

theorem GpuEvent.Calm.contentsAfter {event : GpuEvent} {count : Nat} (calm : event.Calm count)
    (old : buffer.number < count) : event.contentsAfter buffer held = held := by
  cases event with
  | createBuffer created _ _ contents =>
      refine if_neg ?_
      rintro rfl
      exact Nat.not_lt.mpr calm old
  | writeBuffer => cases calm
  | _ => rfl

/-- Calm calls leave the buffers alone that were there before. -/
theorem contentsFrom_of_calm {count : Nat} (calm : ∀ event ∈ events, event.Calm count)
    (old : buffer.number < count) : contentsFrom buffer held events = held := by
  induction events with
  | nil => rfl
  | cons event rest ih =>
      obtain ⟨here, later⟩ := List.forall_mem_cons.mp calm
      show contentsFrom buffer (event.contentsAfter buffer held) rest = held
      rw [here.contentsAfter old, ih later]

theorem Device.CalmlyAdvances.bufferContents {device later : Device}
    (advance : device.CalmlyAdvances later events) (old : buffer.number < device.counts .buffer) :
    bufferContents later.log buffer = ShaderFlow.bufferContents device.log buffer := by
  rw [advance.log_eq, bufferContents_append, contentsFrom_of_calm advance.calm old]

section Writes

variable {pairs : List (UniformSlot × Handle .buffer)} (bytes : UniformSlot → List UInt8)

theorem contentsFrom_writes_of_not_mem (other : buffer ∉ pairs.map Prod.snd) :
    contentsFrom buffer held (pairs.map fun pair => .writeBuffer pair.2 0 (bytes pair.1)) = held := by
  induction pairs generalizing held with
  | nil => rfl
  | cons pair rest ih =>
      obtain ⟨here, later⟩ := not_or.mp (List.mem_cons.not.mp other)
      show contentsFrom buffer (if pair.2 = buffer then _ else held) _ = held
      rw [if_neg (Ne.symm here), ih later]

/-- A buffer that one of the writes goes to holds what this one writes. -/
theorem contentsFrom_writes {slot : UniformSlot} (distinct : (pairs.map Prod.snd).Nodup)
    (member : (slot, buffer) ∈ pairs) :
    contentsFrom buffer held (pairs.map fun pair => .writeBuffer pair.2 0 (bytes pair.1)) =
      overlay held 0 (bytes slot) := by
  induction pairs generalizing held with
  | nil => cases member
  | cons pair rest ih =>
      obtain ⟨first, others⟩ := List.nodup_cons.mp distinct
      show contentsFrom buffer (if pair.2 = buffer then _ else held) _ = _
      rcases List.mem_cons.mp member with rfl | later
      · rw [if_pos rfl, contentsFrom_writes_of_not_mem bytes first]
      · rw [if_neg, ih others later]
        rintro rfl
        exact first (List.mem_map.mpr ⟨_, later, rfl⟩)

end Writes

/-! ### Fresh uniform buffers -/

/-- Uniform buffers that were created in between, one for each uniform and with its default. -/
structure FreshBuffers (device later : Device) (slots : List UniformSlot)
    (buffers : List (Handle .buffer)) : Prop where
  length_eq : buffers.length = slots.length
  distinct : buffers.Nodup
  gives : ∀ buffer ∈ buffers, device.Gives later buffer
  holds : ∀ pair ∈ slots.zip buffers,
    bufferContents later.log pair.2 = pair.1.default.uniformBytes

namespace FreshBuffers

variable {device middle later : Device} {slots : List UniformSlot} {buffers : List (Handle .buffer)}

theorem of_earlier (fresh : FreshBuffers middle later slots buffers)
    (advance : device.Advances middle events) : FreshBuffers device later slots buffers :=
  { fresh with gives := fun buffer member => (fresh.gives buffer member).of_earlier advance }

theorem to_later (fresh : FreshBuffers device middle slots buffers)
    (advance : middle.CalmlyAdvances later events) : FreshBuffers device later slots buffers :=
  { fresh with
    gives := fun buffer member => (fresh.gives buffer member).to_later advance.toAdvances
    holds := fun pair member => by
      have taken := (fresh.gives pair.2 (List.of_mem_zip member).2).taken
      rw [advance.bufferContents taken, fresh.holds pair member] }

theorem behind {α : Type} {step : DeviceM α} (fresh : FreshBuffers device middle slots buffers)
    (calm : DeviceM.Calm step) : FreshBuffers device (step middle).2 slots buffers := by
  obtain ⟨_, advance⟩ := calm middle
  exact fresh.to_later advance

theorem nil (device : Device) : FreshBuffers device device [] [] :=
  ⟨rfl, .nil, fun _ member => (nomatch member), fun _ member => nomatch member⟩

/-- A buffer and, behind it, further ones. -/
theorem cons {slot : UniformSlot} {created : Handle .buffer} {label : String}
    {usages : List BufferUsage} (gives : device.Gives middle created)
    (made : device.Advances middle
      [.createBuffer created label usages slot.default.uniformBytes])
    (rest : FreshBuffers middle later slots buffers) (advance : middle.CalmlyAdvances later events) :
    FreshBuffers device later (slot :: slots) (created :: buffers) where
  length_eq := congrArg (· + 1) rest.length_eq
  distinct := by
    refine List.nodup_cons.mpr ⟨fun again => ?_, rest.distinct⟩
    exact Nat.not_lt.mpr (rest.gives created again).free gives.taken
  gives := List.forall_mem_cons.mpr
    ⟨gives.to_later advance.toAdvances, fun buffer member =>
      (rest.gives buffer member).of_earlier made⟩
  holds := by
    refine List.forall_mem_cons.mpr ⟨?_, rest.holds⟩
    rw [advance.bufferContents gives.taken, made.log_eq, bufferContents_append]
    exact if_pos rfl

theorem of_createUniformBuffers (slots : List UniformSlot) (device : Device) :
    FreshBuffers device (ProgramResources.createUniformBuffers slots device).2 slots
      (ProgramResources.createUniformBuffers slots device).1 := by
  induction slots generalizing device with
  | nil => exact nil device
  | cons slot rest ih =>
      obtain ⟨_, advance⟩ := (DeviceM.setsUp_createUniformBuffers rest).calm (Device.createBuffer slot.name
        [.copyTarget, .uniform] slot.default.uniformBytes device).2
      exact cons (Device.gives_create _ _) (Device.advances_create _ _) (ih _) advance

end FreshBuffers

/-- The bind group of the uniforms was created with their buffers at their bindings. -/
def ProgramResources.BindsUniforms (resources : ProgramResources) (log : List GpuEvent) : Prop :=
  ∃ label layout, .createBindGroup resources.uniformGroup label layout
    ((resources.descriptor.uniforms.zip resources.uniformBuffers).map fun pair =>
      ⟨pair.1.binding, .buffer pair.2⟩) ∈ log

/-- Resources that were created in between. -/
structure ProgramResources.Fresh (resources : ProgramResources) (device later : Device) : Prop
    extends FreshBuffers device later resources.descriptor.uniforms resources.uniformBuffers where
  bound : resources.BindsUniforms later.log

/-- Resources are created in three stages: what comes before the uniform buffers, these, and what comes
behind them, their bind group included. -/
theorem ProgramResources.stages_of_create {label : String} {descriptor : ProgramDescriptor}
    {layout : VertexLayout} {device later : Device} {resources : ProgramResources}
    (created : ProgramResources.create label descriptor layout device = (.ok resources, later)) :
    ∃ middle filled events others, device.Advances middle events ∧
      createUniformBuffers resources.descriptor.uniforms middle =
        (resources.uniformBuffers, filled) ∧
      filled.CalmlyAdvances later others ∧ resources.BindsUniforms later.log := by
  unfold create at created
  cases accepted : layout.attributes descriptor.attributes with
  | error error =>
      rw [accepted] at created
      cases created
  | ok inputs =>
      have first := Device.advances_emit device .pushErrorScope
      obtain ⟨pipelines, middle, made⟩ : ∃ pipelines middle, createPipelines label descriptor layout
          inputs (Device.emit .pushErrorScope device).2 = (pipelines, middle) := ⟨_, _, rfl⟩
      obtain ⟨failure, closed, popped⟩ : ∃ failure closed,
          Device.popErrorScope middle = (failure, closed) := ⟨_, _, rfl⟩
      obtain ⟨buffers, filled, allocated⟩ : ∃ buffers filled,
          createUniformBuffers descriptor.uniforms closed = (buffers, filled) := ⟨_, _, rfl⟩
      obtain ⟨_, second⟩ := (DeviceM.setsUp_createPipelines label descriptor layout inputs).calm
        (Device.emit .pushErrorScope device).2
      obtain ⟨_, third⟩ := DeviceM.setsUp_popErrorScope.calm middle
      rw [made] at second
      rw [popped] at third
      simp only [accepted, DeviceM.bind_apply, made, popped] at created
      cases failure with
      | some message => cases created
      | none =>
          simp only [DeviceM.bind_apply, allocated] at created
          cases created
          obtain ⟨_, grouped⟩ := (DeviceM.setsUp_createBindGroup s!"{label} uniforms"
            pipelines.uniformLayout ((descriptor.uniforms.zip buffers).map fun pair =>
              ⟨pair.1.binding, .buffer pair.2⟩)).calm filled
          obtain ⟨_, sampled⟩ := DeviceM.setsUp_createSampler.calm
            (Device.createBindGroup s!"{label} uniforms" pipelines.uniformLayout
              ((descriptor.uniforms.zip buffers).map fun pair =>
                ⟨pair.1.binding, .buffer pair.2⟩) filled).2
          refine ⟨closed, filled, _, _, (first.trans second.toAdvances).trans third.toAdvances,
            allocated, grouped.trans sampled, s!"{label} uniforms", pipelines.uniformLayout, ?_⟩
          exact (Device.advances_create _ _).mem_log (Device.mem_log_create filled fun group =>
            .createBindGroup group s!"{label} uniforms" pipelines.uniformLayout _)

theorem ProgramResources.fresh_of_create {label : String} {descriptor : ProgramDescriptor}
    {layout : VertexLayout} {device later : Device} {resources : ProgramResources}
    (created : ProgramResources.create label descriptor layout device = (.ok resources, later)) :
    resources.Fresh device later := by
  obtain ⟨middle, filled, _, _, before, allocated, behind, bound⟩ := stages_of_create created
  have fresh := FreshBuffers.of_createUniformBuffers resources.descriptor.uniforms middle
  rw [allocated] at fresh
  exact ⟨(fresh.of_earlier before).to_later behind, bound⟩

/-! ### Types of uniforms -/

/-- The default is of the type of the uniform, and so is the quantity that fills it, if any. -/
structure UniformSlot.WellTyped (slot : UniformSlot) : Prop where
  default : slot.default.ty = slot.ty
  engine : ∀ quantity, slot.engine = some quantity → quantity.ty = slot.ty

/-- Uniforms have names of their own and fit their types. -/
structure ProgramDescriptor.WellTyped (descriptor : ProgramDescriptor) : Prop where
  distinct : (descriptor.uniforms.map UniformSlot.name).Nodup
  slots : ∀ slot ∈ descriptor.uniforms, slot.WellTyped

theorem Resources.wellTyped_addUniform {resources later : Resources} {name : String}
    {default : ShaderValue} {engine : Option EngineUniform}
    (typed : ∀ slot ∈ resources.uniforms, slot.WellTyped)
    (fits : ∀ quantity, engine = some quantity → quantity.ty = default.ty)
    (added : resources.addUniform name default engine = .ok later) :
    ∀ slot ∈ later.uniforms, slot.WellTyped := by
  obtain ⟨names, _, inner⟩ := bind_eq_ok_iff.mp added
  split at inner
  · cases inner
    exact typed
  · cases inner
    intro slot member
    rcases List.mem_append.mp member with earlier | last
    · exact typed slot earlier
    · rw [List.mem_singleton.mp last]
      exact ⟨rfl, fits⟩

theorem Resources.wellTyped_addNode {resources later : Resources} {node : ShaderNode}
    (typed : ∀ slot ∈ resources.uniforms, slot.WellTyped)
    (added : resources.addNode node = .ok later) : ∀ slot ∈ later.uniforms, slot.WellTyped := by
  cases node with
  | uniform name default =>
      unfold Resources.addNode at added
      exact wellTyped_addUniform typed (fun _ filled => by cases filled) added
  | engine quantity =>
      unfold Resources.addNode at added
      refine wellTyped_addUniform typed (fun other same => ?_) added
      cases same
      exact (ShaderValue.ty_defaultFor quantity.ty).symm
  | fetch texture =>
      obtain ⟨_, _, added⟩ := bind_eq_ok_iff.mp added
      obtain ⟨_, _, inner⟩ := bind_eq_ok_iff.mp added
      split at inner <;> cases inner <;> exact typed
  | call | vertexAttribute | vary | constant | combine | swizzle =>
      cases added
      exact typed

/-- Compiling gives well-typed uniforms. -/
theorem ShaderGraph.wellTyped_of_compile {graph : ShaderGraph} {descriptor : ProgramDescriptor}
    (compiled : graph.compile = .ok descriptor) : descriptor.WellTyped := by
  obtain ⟨program, linked, rfl⟩ := compile_eq_ok_iff.mp compiled
  obtain ⟨_, _, resources, _, link⟩ := linked_of_link linked
  have listed : program.descriptor.uniforms = resources.uniforms := link.uniforms_eq
  refine ⟨listed ▸ link.sound.uniforms_distinct, ?_⟩
  rw [listed]
  exact foldlM_keeps (fun resources : Resources => ∀ slot ∈ resources.uniforms, slot.WellTyped)
    (fun _ _ _ _ typed added => Resources.wellTyped_addNode typed added)
    (by simp [Resources.initial]) link.collected

/-! ### Values that fit -/

/-- Every value that was set is of the type of the uniform that it was set for. -/
def GpuProgram.Typed (program : GpuProgram) : Prop :=
  ∀ name value, program.values.get? name = some value →
    ∃ slot, program.descriptor.uniform? name = some slot ∧ slot.ty = value.ty

/-- The values of engine uniforms are of their types. -/
def GpuBackend.EngineTyped (backend : GpuBackend) : Prop :=
  ∀ quantity value, backend.engineValues.get? quantity = some value → value.ty = quantity.ty

theorem GpuProgram.Typed.revise {program earlier : GpuProgram} (typed : earlier.Typed)
    (revises : program.Revises earlier) : program.Typed := by
  intro name value held
  rcases revises.values name value held with before | fits
  · rw [show program.descriptor = earlier.descriptor from
      congrArg ProgramResources.descriptor revises.resources]
    exact typed name value before
  · exact fits

theorem GpuBackend.EngineTyped.ty_engineValue {backend : GpuBackend} (typed : backend.EngineTyped)
    (size : Extent) (quantity : EngineUniform) :
    (backend.engineValue size quantity).ty = quantity.ty := by
  unfold engineValue
  cases held : backend.engineValues.get? quantity with
  | some value => exact typed quantity value held
  | none => cases quantity <;> rfl

/-- Whatever a uniform gets when its program is bound is of its type. -/
theorem GpuProgram.ty_boundValue {program : GpuProgram} {engine : EngineUniform → ShaderValue}
    {slot : UniformSlot} (typed : program.Typed) (fits : ∀ quantity, (engine quantity).ty = quantity.ty)
    (wellTyped : program.descriptor.WellTyped) (member : slot ∈ program.descriptor.uniforms) :
    (program.boundValue engine slot).ty = slot.ty := by
  unfold boundValue
  cases filled : slot.engine with
  | some quantity =>
      exact (fits quantity).trans ((wellTyped.slots slot member).engine quantity filled)
  | none =>
      cases held : program.values.get? slot.name with
      | none => exact (wellTyped.slots slot member).default
      | some value =>
          obtain ⟨other, found, same⟩ := typed slot.name value held
          have named : other.name = slot.name := by simpa using List.find?_some found
          have one := List.inj_on_of_nodup_map wellTyped.distinct (List.mem_of_find?_eq_some found)
            member named
          exact one ▸ same.symm

/-! ### Whose the buffers are -/

namespace GpuBackend

variable {backend next : GpuBackend}

/-- The resources are in the cache. -/
def Cached (backend : GpuBackend) (resources : ProgramResources) : Prop :=
  ∃ key, backend.programs.get? key = some resources

/-- Cached resources have a uniform buffer of their own for each uniform, and it is as large as the
type of the uniform calls for. -/
structure BuffersTidy (backend : GpuBackend) : Prop where
  length_eq : ∀ resources, backend.Cached resources →
    resources.uniformBuffers.length = resources.descriptor.uniforms.length
  distinct : ∀ resources, backend.Cached resources → resources.uniformBuffers.Nodup
  bound : ∀ resources, backend.Cached resources → resources.BindsUniforms backend.device.log
  given : ∀ resources, backend.Cached resources → ∀ buffer ∈ resources.uniformBuffers,
    buffer.number < backend.device.counts .buffer
  owned : ∀ resources other, backend.Cached resources → backend.Cached other →
    ∀ buffer ∈ resources.uniformBuffers, buffer ∈ other.uniformBuffers → resources = other
  sized : ∀ resources, backend.Cached resources → resources.descriptor.WellTyped →
    ∀ pair ∈ resources.descriptor.uniforms.zip resources.uniformBuffers,
      (bufferContents backend.device.log pair.2).length = pair.1.ty.uniformSize

/-- The resources of the program are cached, and its values are typed. -/
structure Holds (backend : GpuBackend) (program : GpuProgram) : Prop where
  cached : backend.Cached program.resources
  typed : program.Typed

theorem Holds.length_boundValue {program : GpuProgram} {slot : UniformSlot}
    (holds : backend.Holds program) (typed : backend.EngineTyped)
    (wellTyped : program.descriptor.WellTyped) (size : Extent)
    (member : slot ∈ program.descriptor.uniforms) :
    (program.boundValue (backend.engineValue size) slot).uniformBytes.length =
      slot.ty.uniformSize := by
  rw [ShaderValue.length_uniformBytes,
    GpuProgram.ty_boundValue holds.typed (typed.ty_engineValue size) wellTyped member]

theorem Moves.counts_le (moves : backend.Moves next) (kind : ResourceKind) :
    backend.device.counts kind ≤ next.device.counts kind := by
  cases moves with
  | calm _ advance => exact advance.counts_le kind
  | submitted _ _ _ _ _ advance => exact advance.counts_le kind

theorem Moves.mem_log (moves : backend.Moves next) {event : GpuEvent}
    (member : event ∈ backend.device.log) : event ∈ next.device.log := by
  cases moves with
  | calm _ advance => exact advance.mem_log member
  | submitted _ _ _ _ _ advance => exact advance.mem_log member

/-- A buffer holds what it held, or what the installed program has written over it. -/
theorem Moves.contents (moves : backend.Moves next)
    (given : buffer.number < backend.device.counts .buffer) :
    bufferContents next.device.log buffer = bufferContents backend.device.log buffer ∨
      ∃ program size, backend.override = some program ∧
        bufferContents next.device.log buffer =
          contentsFrom buffer (bufferContents backend.device.log buffer)
            (program.uniformWrites (backend.engineValue size)) := by
  cases moves with
  | calm _ advance => exact .inl (advance.bufferContents given)
  | submitted before writes after _ _ advance calmBefore written calmAfter =>
      have contents : bufferContents next.device.log buffer =
          contentsFrom buffer (bufferContents backend.device.log buffer) writes := by
        rw [advance.log_eq, bufferContents_append, contentsFrom_append, contentsFrom_append,
          contentsFrom_of_calm calmBefore given, contentsFrom_of_calm calmAfter given]
        rfl
      rw [contents]
      refine written.imp (fun none => ?_) fun ⟨program, size, installed, eq⟩ => ?_
      · rw [none]
        rfl
      · exact ⟨program, size, installed, by rw [eq]⟩

end GpuBackend

namespace GpuBackend.BuffersTidy

variable {backend : GpuBackend} {program : GpuProgram} {engine : EngineUniform → ShaderValue}

theorem map_snd_zip (tidy : backend.BuffersTidy) (cached : backend.Cached program.resources) :
    (program.descriptor.uniforms.zip program.resources.uniformBuffers).map Prod.snd =
      program.resources.uniformBuffers :=
  List.map_snd_zip (Nat.le_of_eq (tidy.length_eq _ cached))

/-- Uploading a program puts the value of each of its uniforms into the buffer of the uniform. -/
theorem contentsFrom_uniformWrites (tidy : backend.BuffersTidy)
    (cached : backend.Cached program.resources) {slot : UniformSlot}
    (member : (slot, buffer) ∈ program.descriptor.uniforms.zip program.resources.uniformBuffers) :
    contentsFrom buffer held (program.uniformWrites engine) =
      overlay held 0 (program.boundValue engine slot).uniformBytes := by
  refine contentsFrom_writes (fun slot => (program.boundValue engine slot).uniformBytes) ?_ member
  rw [tidy.map_snd_zip cached]
  exact tidy.distinct _ cached

theorem contentsFrom_uniformWrites_of_not_mem (tidy : backend.BuffersTidy)
    (cached : backend.Cached program.resources)
    (other : buffer ∉ program.resources.uniformBuffers) :
    contentsFrom buffer held (program.uniformWrites engine) = held := by
  refine contentsFrom_writes_of_not_mem
    (fun slot => (program.boundValue engine slot).uniformBytes) ?_
  rwa [tidy.map_snd_zip cached]

/-- The value of a uniform fills the buffer of the uniform. -/
theorem contentsFrom_uniformWrites_eq (tidy : backend.BuffersTidy) (holds : backend.Holds program)
    (typed : backend.EngineTyped) (wellTyped : program.descriptor.WellTyped) (size : Extent)
    {slot : UniformSlot}
    (member : (slot, buffer) ∈ program.descriptor.uniforms.zip program.resources.uniformBuffers) :
    contentsFrom buffer (bufferContents backend.device.log buffer)
        (program.uniformWrites (backend.engineValue size)) =
      (program.boundValue (backend.engineValue size) slot).uniformBytes := by
  rw [tidy.contentsFrom_uniformWrites holds.cached member]
  have written : (program.boundValue (backend.engineValue size) slot).uniformBytes.length =
      (bufferContents backend.device.log buffer).length := by
    rw [holds.length_boundValue typed wellTyped size (List.of_mem_zip member).1,
      tidy.sized _ holds.cached wellTyped _ member]
  rw [overlay, List.take_zero, List.nil_append, Nat.zero_add, written, List.drop_length,
    List.append_nil]

end GpuBackend.BuffersTidy

namespace GpuSession

variable {session next : GpuSession}

/-- Whatever the renderer and the caller hold is as it should be. -/
structure Tidy (session : GpuSession) : Prop where
  buffers : session.backend.BuffersTidy
  engineTyped : session.backend.EngineTyped
  override : ∀ program, session.backend.override = some program → session.backend.Holds program
  programs : ∀ program ∈ session.programs, session.backend.Holds program

/-- At most one call's worth of resources is new in the cache. -/
theorem Step.cached_cases (step : session.Step next) :
    (∀ resources, next.backend.Cached resources → session.backend.Cached resources) ∨
    ∃ created : ProgramResources, created.Fresh session.backend.device next.backend.device ∧
      ∀ resources, next.backend.Cached resources →
        session.backend.Cached resources ∨ resources = created := by
  rcases step.cached with same | ⟨key, label, descriptor, layout, created, _, inserted, ran⟩
  · exact .inl fun resources ⟨key, held⟩ => ⟨key, same ▸ held⟩
  · refine .inr ⟨created, ProgramResources.fresh_of_create ran, fun resources ⟨other, held⟩ => ?_⟩
    rw [inserted, OrderedMap.get?_insert] at held
    split at held
    · exact .inr (Option.some.inj held).symm
    · exact .inl ⟨other, held⟩

theorem Step.forall_cached (step : session.Step next) {holds : ProgramResources → Prop}
    (old : ∀ resources, session.backend.Cached resources → holds resources)
    (new : ∀ created : ProgramResources,
      created.Fresh session.backend.device next.backend.device → holds created) :
    ∀ resources, next.backend.Cached resources → holds resources := by
  intro resources cached
  rcases step.cached_cases with kept | ⟨created, fresh, cases⟩
  · exact old resources (kept resources cached)
  · rcases cases resources cached with before | rfl
    · exact old resources before
    · exact new resources fresh

/-- Cached resources stay in the cache. -/
theorem Step.cached_kept (step : session.Step next) {resources : ProgramResources}
    (cached : session.backend.Cached resources) : next.backend.Cached resources := by
  obtain ⟨key, held⟩ := cached
  rcases step.cached with same | ⟨other, _, _, _, created, absent, inserted, _⟩
  · exact ⟨key, same ▸ held⟩
  · refine ⟨key, ?_⟩
    rw [inserted, OrderedMap.get?_insert, if_neg, held]
    rintro rfl
    cases absent.symm.trans held

theorem Tidy.buffers_step (tidy : session.Tidy) (step : session.Step next) :
    next.backend.BuffersTidy where
  length_eq := step.forall_cached tidy.buffers.length_eq fun _ fresh => fresh.length_eq
  distinct := step.forall_cached tidy.buffers.distinct fun _ fresh => fresh.distinct
  bound := by
    refine step.forall_cached (fun resources cached => ?_) fun _ fresh => fresh.bound
    obtain ⟨label, layout, member⟩ := tidy.buffers.bound resources cached
    exact ⟨label, layout, step.moves.mem_log member⟩
  given := by
    refine step.forall_cached (fun resources cached buffer member => ?_) fun created fresh buffer
      member => (fresh.gives buffer member).taken
    exact Nat.lt_of_lt_of_le (tidy.buffers.given resources cached buffer member)
      (step.moves.counts_le .buffer)
  owned := by
    have apart : ∀ created : ProgramResources,
        created.Fresh session.backend.device next.backend.device → ∀ resources,
        session.backend.Cached resources → ∀ buffer ∈ resources.uniformBuffers,
          buffer ∉ created.uniformBuffers := by
      intro created fresh resources cached buffer member shared
      exact Nat.not_lt.mpr (fresh.gives buffer shared).free
        (tidy.buffers.given resources cached buffer member)
    intro resources other cached otherCached buffer member shared
    rcases step.cached_cases with kept | ⟨created, fresh, cases⟩
    · exact tidy.buffers.owned _ _ (kept _ cached) (kept _ otherCached) buffer member shared
    · rcases cases resources cached with old | rfl
      · rcases cases other otherCached with otherOld | rfl
        · exact tidy.buffers.owned _ _ old otherOld buffer member shared
        · exact absurd shared (apart _ fresh _ old buffer member)
      · rcases cases other otherCached with otherOld | same
        · exact absurd member (apart _ fresh _ otherOld buffer shared)
        · exact same.symm
  sized := by
    refine step.forall_cached (fun resources cached wellTyped pair member => ?_)
      fun created fresh wellTyped pair member => ?_
    · have listed := (List.of_mem_zip member).2
      rw [← tidy.buffers.sized resources cached wellTyped pair member]
      rcases step.moves.contents (tidy.buffers.given resources cached pair.2 listed) with
        same | ⟨program, size, installed, written⟩
      · rw [same]
      · have holds := tidy.override program installed
        rw [written]
        by_cases its : pair.2 ∈ program.resources.uniformBuffers
        · -- Only programs with the same resources write to the buffer.
          have one := tidy.buffers.owned _ _ cached holds.cached pair.2 listed its
          subst one
          have listedSlot := (List.of_mem_zip member).1
          rw [tidy.buffers.contentsFrom_uniformWrites_eq holds tidy.engineTyped wellTyped size member,
            holds.length_boundValue tidy.engineTyped wellTyped size listedSlot,
            tidy.buffers.sized _ cached wellTyped pair member]
        · rw [tidy.buffers.contentsFrom_uniformWrites_of_not_mem holds.cached its]
    · rw [fresh.holds pair member, ShaderValue.length_uniformBytes,
        (wellTyped.slots pair.1 (List.of_mem_zip member).1).default]

theorem Tidy.step (tidy : session.Tidy) (step : session.Step next) : next.Tidy where
  buffers := tidy.buffers_step step
  engineTyped quantity value held :=
    (step.engineValues quantity value held).elim (tidy.engineTyped quantity value) id
  override program installed := by
    have holds : session.backend.Holds program :=
      (step.override program installed).elim (tidy.override program) (tidy.programs program)
    exact ⟨step.cached_kept holds.cached, holds.typed⟩
  programs program member := by
    rcases step.programs program member with ⟨earlier, held, revises⟩ | ⟨key, resources, held, rfl⟩
    · have holds := tidy.programs earlier held
      exact ⟨revises.resources ▸ step.cached_kept holds.cached, holds.typed.revise revises⟩
    · exact ⟨⟨key, held⟩, fun _ _ set => nomatch set⟩

theorem tidy_new (surfaceSize : Extent) (limit : Nat) : (new surfaceSize limit).Tidy := by
  have empty : ∀ resources, ¬ (new surfaceSize limit).backend.Cached resources :=
    fun _ ⟨_, held⟩ => nomatch held
  exact
    { buffers :=
        { length_eq := fun _ cached => absurd cached (empty _)
          distinct := fun _ cached => absurd cached (empty _)
          bound := fun _ cached => absurd cached (empty _)
          given := fun _ cached => absurd cached (empty _)
          owned := fun _ _ cached => absurd cached (empty _)
          sized := fun _ cached => absurd cached (empty _) }
      engineTyped := fun _ _ held => nomatch held
      override := fun _ installed => nomatch installed
      programs := fun _ member => nomatch member }

theorem performAll_append (session : GpuSession) (calls later : List GpuCall) :
    session.performAll (calls ++ later) = (session.performAll calls).performAll later :=
  List.foldl_append

theorem Reachable.performAll (reachable : session.Reachable) (later : List GpuCall) :
    (session.performAll later).Reachable := by
  obtain ⟨surfaceSize, limit, calls, rfl⟩ := reachable
  exact ⟨surfaceSize, limit, calls ++ later, (performAll_append _ _ _).symm⟩

/-- What every call keeps holds after all. -/
theorem performAll_invariant (holds : GpuSession → Prop)
    (kept : ∀ session next, holds session → session.Step next → holds next)
    (initially : holds session) (calls : List GpuCall) : holds (session.performAll calls) := by
  induction calls generalizing session with
  | nil => exact initially
  | cons call rest ih => exact ih (kept session _ initially (session.step_perform call))

theorem Reachable.tidy (reachable : session.Reachable) : session.Tidy := by
  obtain ⟨surfaceSize, limit, calls, rfl⟩ := reachable
  exact performAll_invariant Tidy (fun _ _ tidy step => tidy.step step)
    (tidy_new surfaceSize limit) calls

end GpuSession

end ShaderFlow

/-
Module: ShaderFlow.Proofs.Gpu.UniformWrites
Purpose: Every write into a buffer fills the buffer of a uniform.
Main exports: bufferSize?, ProgramResources.FilledBy, GpuSession.uniform_writes_fit
-/
import ShaderFlow.Proofs.Gpu.UniformValues
import ShaderFlow.Proofs.Shader.UniformTypes

namespace ShaderFlow

/-!
The value that is written comes from one of four places: a value that was set, the default of the
uniform, a value of the renderer, or a neutral one.  Each is of the type of the uniform, also when the
program came from the cache, and the buffer was created for a default of that type.  So a write starts
at the beginning of its buffer and ends at the end, whatever calls were refused on the way.
-/

/-- A member of two lists in a row belongs to the first one, or to the second one behind the first. -/
theorem cases_of_append_eq {α : Type} {front rest here behind : List α} {item : α}
    (split : front ++ rest = here ++ item :: behind) :
    (∃ between, front = here ++ item :: between) ∨
      ∃ between, here = front ++ between ∧ rest = between ++ item :: behind := by
  rcases List.append_eq_append_iff.mp split with found | ⟨between, first, same⟩
  · exact .inr found
  · rcases List.cons_eq_append_iff.mp same with ⟨rfl, second⟩ | ⟨others, rfl, _⟩
    · exact .inr ⟨[], by rw [first, List.append_nil, List.append_nil], second⟩
    · exact .inl ⟨others, first⟩

/-! ### Sizes of buffers -/

/-- The buffer that a call creates. -/
def GpuEvent.created? : GpuEvent → Option (Handle .buffer)
  | .createBuffer buffer .. => some buffer
  | _ => none

/-- Whether a call writes into a buffer. -/
def GpuEvent.writes : GpuEvent → Bool
  | .writeBuffer .. => true
  | _ => false

/-- Size of a buffer behind a call: the number of bytes that it is created with. -/
def GpuEvent.sizeAfter (buffer : Handle .buffer) (size : Option Nat) : GpuEvent → Option Nat
  | .createBuffer created _ _ contents => if created = buffer then some contents.length else size
  | _ => size

/-- Size of a buffer behind further calls. -/
def sizeFrom (buffer : Handle .buffer) (size : Option Nat) (events : List GpuEvent) : Option Nat :=
  events.foldl (GpuEvent.sizeAfter buffer) size

/-- Size of a buffer that the calls of a log create.  To write into a buffer does not resize it. -/
def bufferSize? (log : List GpuEvent) (buffer : Handle .buffer) : Option Nat :=
  sizeFrom buffer none log

variable {buffer : Handle .buffer} {size : Option Nat} {events others : List GpuEvent}

theorem bufferSize?_append :
    bufferSize? (events ++ others) buffer = sizeFrom buffer (bufferSize? events buffer) others :=
  List.foldl_append

/-- The size of a buffer is settled by its creation. -/
theorem sizeFrom_of_uncreated (uncreated : ∀ event ∈ events, event.created? ≠ some buffer) :
    sizeFrom buffer size events = size := by
  induction events with
  | nil => rfl
  | cons event rest ih =>
      obtain ⟨here, later⟩ := List.forall_mem_cons.mp uncreated
      have same : event.sizeAfter buffer size = size := by
        cases event with
        | createBuffer created => exact if_neg fun eq => here (congrArg some eq)
        | _ => rfl
      show sizeFrom buffer (event.sizeAfter buffer size) rest = size
      rw [same, ih later]

theorem GpuEvent.Calm.uncreated {event : GpuEvent} {count : Nat} (calm : event.Calm count)
    (old : buffer.number < count) : event.created? ≠ some buffer := by
  cases event with
  | createBuffer created =>
      rintro ⟨⟩
      exact Nat.not_lt.mpr calm old
  | _ => nofun

theorem Device.CalmlyAdvances.bufferSize?_eq {device later : Device}
    (advance : device.CalmlyAdvances later events) (old : buffer.number < device.counts .buffer) :
    bufferSize? later.log buffer = bufferSize? device.log buffer := by
  rw [advance.log_eq, bufferSize?_append,
    sizeFrom_of_uncreated fun event member => (advance.calm event member).uncreated old]

/-- The buffer of a uniform is created as large as its default. -/
theorem ProgramResources.bufferSize?_createUniformBuffers (slots : List UniformSlot)
    (device : Device) : ∀ pair ∈ slots.zip (createUniformBuffers slots device).1,
      bufferSize? (createUniformBuffers slots device).2.log pair.2 =
        some pair.1.default.uniformBytes.length := by
  induction slots generalizing device with
  | nil => exact fun _ member => nomatch member
  | cons slot rest ih =>
      have made := Device.advances_create device fun buffer =>
        .createBuffer buffer slot.name [.copyTarget, .uniform] slot.default.uniformBytes
      obtain ⟨_, advance⟩ := (DeviceM.setsUp_createUniformBuffers rest).calm
        (Device.createBuffer slot.name [.copyTarget, .uniform] slot.default.uniformBytes device).2
      refine List.forall_mem_cons.mpr ⟨?_, ih _⟩
      refine (advance.bufferSize?_eq (Device.gives_create device _).taken).trans ?_
      rw [Device.createBuffer, made.log_eq, bufferSize?_append]
      exact if_pos rfl

/-- The buffers of new resources are created as large as the types of their uniforms call for. -/
theorem ProgramResources.bufferSize?_create {label : String} {descriptor : ProgramDescriptor}
    {layout : VertexLayout} {device later : Device} {resources : ProgramResources}
    (created : create label descriptor layout device = (.ok resources, later))
    (wellTyped : resources.descriptor.WellTyped) :
    ∀ pair ∈ resources.descriptor.uniforms.zip resources.uniformBuffers,
      bufferSize? later.log pair.2 = some pair.1.ty.uniformSize := by
  obtain ⟨middle, filled, _, _, _, allocated, behind, _⟩ := stages_of_create created
  have sizes := bufferSize?_createUniformBuffers resources.descriptor.uniforms middle
  have fresh := FreshBuffers.of_createUniformBuffers resources.descriptor.uniforms middle
  rw [allocated] at sizes fresh
  intro pair member
  obtain ⟨listed, held⟩ := List.of_mem_zip member
  rw [behind.bufferSize?_eq (fresh.gives pair.2 held).taken, sizes pair member,
    ShaderValue.length_uniformBytes, (wellTyped.slots pair.1 listed).default]

/-! ### Writes of one call -/

namespace GpuBackend

variable {backend next : GpuBackend}

/-- A call creates no buffer anew, and writes into buffers only to upload the installed program. -/
theorem Moves.listed (moves : backend.Moves next) :
    ∃ events, next.device.log = backend.device.log ++ events ∧
      (∀ event ∈ events, ∀ buffer : Handle .buffer, buffer.number < backend.device.counts .buffer →
        event.created? ≠ some buffer) ∧
      ∀ buffer offset contents, .writeBuffer buffer offset contents ∈ events →
        ∃ program size, backend.override = some program ∧
          .writeBuffer buffer offset contents ∈ program.uniformWrites (backend.engineValue size) := by
  cases moves with
  | calm _ advance =>
      refine ⟨_, advance.log_eq, fun event member buffer old =>
        (advance.calm event member).uncreated old, fun buffer offset contents member => ?_⟩
      cases advance.calm _ member
  | submitted before writes after _ _ advance calmBefore written calmAfter =>
      refine ⟨_, advance.log_eq, fun event member buffer old => ?_,
        fun buffer offset contents member => ?_⟩
      · rw [List.append_assoc, List.cons_append] at member
        rcases List.mem_append.mp member with early | later
        · exact (calmBefore event early).uncreated old
        · rcases List.mem_cons.mp later with rfl | later
          · nofun
          · rcases List.mem_append.mp later with write | late
            · rcases written with rfl | ⟨program, size, _, rfl⟩
              · cases write
              · obtain ⟨pair, _, rfl⟩ := List.mem_map.mp write
                nofun
            · exact (calmAfter event late).uncreated old
      · rw [List.append_assoc, List.cons_append] at member
        rcases List.mem_append.mp member with early | later
        · cases calmBefore _ early
        · rcases List.mem_cons.mp later with submission | later
          · cases submission
          · rcases List.mem_append.mp later with write | late
            · rcases written with rfl | ⟨program, size, installed, rfl⟩
              · cases write
              · exact ⟨program, size, installed, write⟩
            · cases calmAfter _ late

theorem Moves.bufferSize?_eq (moves : backend.Moves next)
    (given : buffer.number < backend.device.counts .buffer) :
    bufferSize? next.device.log buffer = bufferSize? backend.device.log buffer := by
  obtain ⟨events, log_eq, uncreated, _⟩ := moves.listed
  rw [log_eq, bufferSize?_append,
    sizeFrom_of_uncreated fun event member => uncreated event member buffer given]

end GpuBackend

/-- The bytes are a whole value of a uniform of the program, and exactly as many as go into the buffer
of this uniform, as the calls so far have created and bound it. -/
structure ProgramResources.FilledBy (resources : ProgramResources) (slot : UniformSlot)
    (before : List GpuEvent) (buffer : Handle .buffer) (contents : List UInt8) : Prop where
  paired : (slot, buffer) ∈ resources.descriptor.uniforms.zip resources.uniformBuffers
  bound : resources.BindsUniforms before
  length_eq : contents.length = slot.ty.uniformSize
  size_eq : bufferSize? before buffer = some slot.ty.uniformSize

namespace GpuSession

variable {session next : GpuSession}

/-! ### What every call keeps -/

theorem programs_act {α : Type} {action : GpuAction α} {keep : α → GpuSession → GpuSession}
    (proceeds : session.backend.Proceeds (action session.backend).2)
    (keeps : ∀ value later, (keep value later).backend = later.backend) :
    (session.act action keep).2.backend.programs = session.backend.programs := by
  rw [snd_act keeps]
  exact proceeds.programs

theorem programs_onFramebuffer {index : Nat} {call : GpuFramebuffer → Except GpuError Unit × GpuSession}
    (kept : ∀ framebuffer, (call framebuffer).2.backend.programs = session.backend.programs) :
    (session.onFramebuffer index call).2.backend.programs = session.backend.programs := by
  unfold onFramebuffer
  split
  · rfl
  · exact kept _

/-- Whatever is in the cache was there before or has the descriptor that the call asks for. -/
theorem cached_of_perform {call : GpuCall} {resources : ProgramResources}
    (cached : (session.perform call).2.backend.Cached resources) :
    session.backend.Cached resources ∨
      ∃ label layout, call = .createProgram label resources.descriptor layout := by
  have unchanged : (session.perform call).2.backend.programs = session.backend.programs →
      session.backend.Cached resources := fun same => by
    obtain ⟨key, held⟩ := cached
    exact ⟨key, same ▸ held⟩
  cases call with
  | createProgram label descriptor layout =>
      have ran : (session.perform (.createProgram label descriptor layout)).2.backend =
          (GpuBackend.createProgram label descriptor layout session.backend).2 :=
        snd_act fun _ _ => rfl
      obtain ⟨key, held⟩ := cached
      rw [ran] at held
      rcases GpuBackend.createProgram_cases label descriptor layout session.backend with
        ⟨_, _, hit⟩ | ⟨_, ⟨_, _, _, refused⟩ | ⟨_, _, created, granted⟩⟩
      · rw [hit] at held
        exact .inl ⟨key, held⟩
      · rw [refused] at held
        exact .inl ⟨key, held⟩
      · rw [granted, OrderedMap.get?_insert] at held
        split at held
        · cases held
          exact .inr ⟨label, layout, by rw [ProgramResources.descriptor_of_create created]⟩
        · exact .inl ⟨key, held⟩
  | cloneProgram | wire | setOverride | bindScreen | setViewport | coverTarget | setClearColor
  | surfaceAnswers | shaderFailure => exact .inl (unchanged rfl)
  | setUniform index name value =>
      refine .inl (unchanged ?_)
      show (session.setUniform index name value).2.backend.programs = _
      unfold setUniform
      split
      · rfl
      · split <;> rfl
  | setEngineUniform quantity value =>
      refine .inl (unchanged ?_)
      have ran : (session.perform (.setEngineUniform quantity value)).2.backend =
          (GpuBackend.setEngineUniform quantity value session.backend).2 := snd_act fun _ _ => rfl
      rw [ran, GpuBackend.setEngineUniform]
      split <;> rfl
  | resize size =>
      refine .inl (unchanged ?_)
      show (session.backend.resize size).programs = _
      unfold GpuBackend.resize
      split <;> rfl
  | beginFrame =>
      exact .inl (unchanged (programs_act (GpuBackend.proceeds_beginFrame _) fun _ _ => rfl))
  | endFrame =>
      exact .inl (unchanged (programs_act (GpuBackend.proceeds_endFrame _) fun _ _ => rfl))
  | bindFramebuffer => exact .inl (unchanged (programs_onFramebuffer fun _ => rfl))
  | clearColor =>
      exact .inl (unchanged (programs_act (GpuAction.calm_clearTargetColor _).proceeds
        fun _ _ => rfl))
  | clearDepth =>
      exact .inl (unchanged (programs_act (GpuAction.calm_clearTargetDepth _).proceeds
        fun _ _ => rfl))
  | ensureFramebuffer descriptor =>
      exact .inl (unchanged (programs_act (GpuAction.calm_ensureFramebuffer descriptor _).proceeds
        fun _ _ => rfl))
  | renderFramebuffer => exact .inl (unchanged (programs_onFramebuffer fun _ => rfl))
  | renderPass =>
      exact .inl (unchanged (programs_act (GpuBackend.proceeds_renderPass _ _) fun _ _ => rfl))
  | createQuad =>
      exact .inl (unchanged (programs_act (GpuAction.calm_onDevice
        DeviceM.setsUp_quad.calm _).proceeds fun _ _ => rfl))

/-- Every program in the cache was compiled. -/
def CachesCompiled (session : GpuSession) : Prop :=
  ∀ resources, session.backend.Cached resources → resources.descriptor.Compiled

/-- The buffers of cached programs were created as large as the types of their uniforms call for. -/
def BuffersSized (session : GpuSession) : Prop :=
  ∀ resources, session.backend.Cached resources → resources.descriptor.WellTyped →
    ∀ pair ∈ resources.descriptor.uniforms.zip resources.uniformBuffers,
      bufferSize? session.log pair.2 = some pair.1.ty.uniformSize

/-- Every write that is listed starts at the beginning of the buffer of a uniform and fills it. -/
def WritesFit (session : GpuSession) : Prop :=
  ∀ before after buffer offset contents,
    session.log = before ++ .writeBuffer buffer offset contents :: after →
      offset = 0 ∧ ∃ resources slot, session.backend.Cached resources ∧
        resources.FilledBy slot before buffer contents

theorem BuffersSized.step (sized : session.BuffersSized) (tidy : session.Tidy)
    (step : session.Step next) : next.BuffersSized := by
  intro resources cached wellTyped pair member
  have kept : session.backend.Cached resources →
      bufferSize? next.log pair.2 = some pair.1.ty.uniformSize := by
    intro old
    have given := tidy.buffers.given resources old pair.2 (List.of_mem_zip member).2
    exact (step.moves.bufferSize?_eq given).trans (sized resources old wellTyped pair member)
  rcases step.cached with same | ⟨other, _, _, _, created, _, inserted, ran⟩
  · obtain ⟨key, held⟩ := cached
    exact kept ⟨key, same ▸ held⟩
  · obtain ⟨key, held⟩ := cached
    rw [inserted, OrderedMap.get?_insert] at held
    split at held
    · cases held
      exact ProgramResources.bufferSize?_create ran wellTyped pair member
    · exact kept ⟨key, held⟩

/-- What an upload writes fits, for the installed program has cached resources and typed values. -/
theorem filledBy_of_mem_uniformWrites {program : GpuProgram} {target : Extent}
    {buffer : Handle .buffer} {offset : Nat} {contents : List UInt8} {before : List GpuEvent}
    (tidy : session.Tidy) (sized : session.BuffersSized) (compiled : session.CachesCompiled)
    (installed : session.backend.override = some program)
    (write : .writeBuffer buffer offset contents ∈
      program.uniformWrites (session.backend.engineValue target))
    (later : ∀ event ∈ session.log, event ∈ before)
    (same : ∀ buffer : Handle .buffer, buffer.number < session.backend.device.counts .buffer →
      bufferSize? before buffer = bufferSize? session.log buffer) :
    offset = 0 ∧ ∃ slot, program.resources.FilledBy slot before buffer contents := by
  have holds := tidy.override program installed
  obtain ⟨graph, _, compiles⟩ := compiled _ holds.cached
  have wellTyped : program.descriptor.WellTyped := ShaderGraph.wellTyped_of_compile compiles
  obtain ⟨⟨slot, written⟩, paired, eq⟩ := List.mem_map.mp write
  simp only [GpuEvent.writeBuffer.injEq] at eq
  obtain ⟨rfl, rfl, rfl⟩ := eq
  obtain ⟨listed, held⟩ := List.of_mem_zip paired
  obtain ⟨label, layout, grouped⟩ := tidy.buffers.bound _ holds.cached
  refine ⟨rfl, slot, paired, ⟨label, layout, later _ grouped⟩,
    holds.length_boundValue tidy.engineTyped wellTyped target listed, ?_⟩
  rw [same _ (tidy.buffers.given _ holds.cached _ held),
    sized _ holds.cached wellTyped _ paired]

theorem WritesFit.step (fit : session.WritesFit) (tidy : session.Tidy)
    (sized : session.BuffersSized) (compiled : session.CachesCompiled) (step : session.Step next) :
    next.WritesFit := by
  intro before after buffer offset contents log_eq
  obtain ⟨events, listed, uncreated, writes⟩ := step.moves.listed
  rcases cases_of_append_eq (listed.symm.trans log_eq) with ⟨rest, old⟩ | ⟨front, rfl, rfl⟩
  · obtain ⟨start, resources, slot, cached, filled⟩ := fit before rest buffer offset contents old
    exact ⟨start, resources, slot, step.cached_kept cached, filled⟩
  · -- The write is one that this call lists.
    obtain ⟨program, target, installed, write⟩ := writes buffer offset contents (by simp)
    obtain ⟨start, slot, filled⟩ := filledBy_of_mem_uniformWrites tidy sized compiled installed write
      (fun event member => List.mem_append_left front member) fun buffer given => by
        rw [bufferSize?_append, sizeFrom_of_uncreated fun event member =>
          uncreated event (List.mem_append_left _ member) buffer given]
    exact ⟨start, program.resources, slot,
      step.cached_kept (tidy.override program installed).cached, filled⟩

/-- What holds behind every run whose programs were compiled. -/
structure Uploads (session : GpuSession) : Prop where
  compiled : session.CachesCompiled
  sized : session.BuffersSized
  fit : session.WritesFit

theorem uploads_new (surfaceSize : Extent) (limit : Nat) : (new surfaceSize limit).Uploads := by
  have empty : ∀ resources, ¬ (new surfaceSize limit).backend.Cached resources :=
    fun _ ⟨_, held⟩ => nomatch held
  refine ⟨fun _ cached => absurd cached (empty _), fun _ cached => absurd cached (empty _), ?_⟩
  -- A renderer sets up its depth buffer and its blitter, and writes nothing.
  obtain ⟨events, advance⟩ := ((DeviceM.calm_emit fun _ => by trivial : DeviceM.Calm
    (Device.emit (.configure surfaceSize))).bind fun _ =>
      (DeviceM.setsUp_depthBuffer "Screen Depth" surfaceSize).calm.bind fun depth =>
        DeviceM.setsUp_blitter.calm.bind fun blitter => DeviceM.calm_pure (depth, blitter)) {}
  have log_eq : (new surfaceSize limit).log = events := advance.log_eq
  intro before after buffer offset contents split
  cases advance.calm (.writeBuffer buffer offset contents) (log_eq ▸ split ▸ by simp)

theorem uploads_performAll {calls : List GpuCall} (uploads : session.Uploads) (tidy : session.Tidy)
    (compiled : ∀ label descriptor layout, .createProgram label descriptor layout ∈ calls →
      descriptor.Compiled) : (session.performAll calls).Uploads := by
  induction calls generalizing session with
  | nil => exact uploads
  | cons call rest ih =>
      have step := session.step_perform call
      refine ih ⟨fun resources cached => ?_, uploads.sized.step tidy step,
        uploads.fit.step tidy uploads.sized uploads.compiled step⟩ (tidy.step step)
        fun label descriptor layout member => compiled label descriptor layout (.tail _ member)
      rcases cached_of_perform cached with old | ⟨label, layout, rfl⟩
      · exact uploads.compiled resources old
      · exact compiled label resources.descriptor layout List.mem_cons_self

/-- Uniform writes fit their buffers.  Whatever is called in a session whose programs were compiled,
and whether it is accepted or refused, every write into a buffer starts at its beginning and is as long
as the buffer, which is bound as a uniform of a program; both sources of the program declare this
uniform at its binding with the one type whose size this is. -/
theorem uniform_writes_fit {surfaceSize : Extent} {limit : Nat} {calls : List GpuCall}
    (compiled : ∀ label descriptor layout, .createProgram label descriptor layout ∈ calls →
      descriptor.Compiled)
    {before after : List GpuEvent} {buffer : Handle .buffer} {offset : Nat} {contents : List UInt8}
    (written : ((new surfaceSize limit).performAll calls).log =
      before ++ .writeBuffer buffer offset contents :: after) :
    offset = 0 ∧ bufferSize? before buffer = some contents.length ∧
      ∃ resources slot, ((new surfaceSize limit).performAll calls).backend.Cached resources ∧
        resources.FilledBy slot before buffer contents ∧
        ∀ source ∈ [resources.descriptor.vertexSource, resources.descriptor.fragmentSource],
          ∀ binding ty, DeclaresUniform source slot.name binding ty ↔
            binding = slot.binding ∧ ty = slot.ty := by
  have uploads := uploads_performAll (uploads_new surfaceSize limit) (tidy_new surfaceSize limit)
    compiled
  obtain ⟨start, resources, slot, cached, filled⟩ :=
    uploads.fit before after buffer offset contents written
  refine ⟨start, ?_, resources, slot, cached, filled, fun source either binding ty => ?_⟩
  · rw [filled.size_eq, filled.length_eq]
  · exact (uploads.compiled resources cached).declaresUniform_iff either
      (List.of_mem_zip filled.paired).1 binding ty

/-- A program that is asked for again is a copy of the first one, whatever its uniforms should start
with. -/
theorem perform_createProgram_again {label : String} {descriptor other : ProgramDescriptor}
    {layout : VertexLayout}
    (same : ProgramKey.of label descriptor layout = ProgramKey.of label other layout)
    (granted : (session.perform (.createProgram label descriptor layout)).1 = .ok ()) :
    let made := (session.perform (.createProgram label descriptor layout)).2
    made.perform (.createProgram label other layout) =
      made.perform (.cloneProgram session.programs.length) := by
  obtain ⟨program, backend, ran, kept⟩ := act_eq_ok granted
  have held : ∃ resources, program = .ofResources resources ∧
      backend.programs.get? (.of label other layout) = some resources := by
    rcases GpuBackend.createProgram_cases label descriptor layout session.backend with
      ⟨resources, cached, hit⟩ | ⟨_, ⟨_, _, _, refused⟩ | ⟨resources, _, _, inserted⟩⟩
    · cases hit.symm.trans ran
      exact ⟨resources, rfl, same ▸ cached⟩
    · cases refused.symm.trans ran
    · cases inserted.symm.trans ran
      refine ⟨resources, rfl, ?_⟩
      dsimp only
      rw [OrderedMap.get?_insert, if_pos same]
  obtain ⟨resources, rfl, cached⟩ := held
  have hit : GpuBackend.createProgram label other layout backend =
      (.ok (.ofResources resources), backend) := by
    rcases GpuBackend.createProgram_cases label other layout backend with
      ⟨again, found, ran⟩ | ⟨absent, _⟩
    · cases found.symm.trans cached
      exact ran
    · cases absent.symm.trans cached
  intro made
  have made_eq : made =
      ⟨backend, session.programs ++ [.ofResources resources], session.framebuffers⟩ := kept
  rw [made_eq]
  simp only [perform, act, hit, List.getElem?_concat_length, Option.toList_some]

open GpuBackend (gray tintProgram key_tintRequest compiled_tintRequest)

/-- A program is made twice, the second time from the cache.  Its tint is set, then to a value of
another type, which is refused like a time that is no number and the pass outside of the frame. -/
def retintedCalls : List GpuCall :=
  [.createProgram "tint" (tintProgram .zero).descriptor {},
    .createProgram "tint" (tintProgram .one).descriptor {}, .setUniform 1 "tint" (gray .one),
    .setUniform 1 "tint" (.float .zero), .setEngineUniform .time (gray .one), .renderPass "early" [],
    .beginFrame, .setOverride (some 1), .renderPass "tinted" [], .endFrame]

theorem writes_retintedCalls : ((new ⟨4, 4⟩ 64).performAll retintedCalls).log.filter GpuEvent.writes =
    [.writeBuffer ⟨0⟩ 0 (gray .one).uniformBytes] := by
  have again : ((new ⟨4, 4⟩ 64).perform
      (.createProgram "tint" (tintProgram .zero).descriptor {})).2.perform
        (.createProgram "tint" (tintProgram .one).descriptor {}) =
      ((new ⟨4, 4⟩ 64).perform
        (.createProgram "tint" (tintProgram .zero).descriptor {})).2.perform (.cloneProgram 0) :=
    perform_createProgram_again (key_tintRequest .zero .one) (by decide +kernel)
  unfold retintedCalls performAll
  rw [List.foldl_cons, List.foldl_cons, again]
  decide +kernel

/-- The tint is written once, as the sixteen bytes that its buffer has room for. -/
theorem uniform_writes_fit_retintedCalls :
    ∃ before after, ((new ⟨4, 4⟩ 64).performAll retintedCalls).log =
        before ++ .writeBuffer ⟨0⟩ 0 (gray .one).uniformBytes :: after ∧
      bufferSize? before ⟨0⟩ = some 16 ∧
      ∃ (resources : ProgramResources) (slot : UniformSlot),
        (slot, ⟨0⟩) ∈ resources.descriptor.uniforms.zip resources.uniformBuffers ∧
        slot.ty.uniformSize = 16 ∧
        DeclaresUniform resources.descriptor.fragmentSource slot.name slot.binding slot.ty := by
  have compiled : ∀ label descriptor layout,
      .createProgram label descriptor layout ∈ retintedCalls → descriptor.Compiled := by
    intro label descriptor layout member
    simp only [retintedCalls, List.mem_cons, GpuCall.createProgram.injEq, reduceCtorEq,
      List.not_mem_nil, or_false] at member
    rcases member with ⟨_, rfl, _⟩ | ⟨_, rfl, _⟩
    · exact compiled_tintRequest (.inl rfl)
    · exact compiled_tintRequest (.inr rfl)
  have member := (List.mem_filter.mp (writes_retintedCalls ▸ List.mem_singleton_self _)).1
  obtain ⟨before, after, split⟩ := List.append_of_mem member
  obtain ⟨_, size, resources, slot, _, filled, declared⟩ := uniform_writes_fit compiled split
  have sixteen : (gray .one).uniformBytes.length = 16 := by decide +kernel
  refine ⟨before, after, split, size.trans (congrArg some sixteen), resources, slot, filled.paired,
    filled.length_eq.symm.trans sixteen, ?_⟩
  exact (declared _ (.tail _ List.mem_cons_self) slot.binding slot.ty).mpr ⟨rfl, rfl⟩

end GpuSession

end ShaderFlow

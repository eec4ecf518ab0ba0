/-
Module: ShaderFlow.Proofs.Gpu.UniformValues
Purpose: Every pass under a program is executed with the uniform values of its own call.
Main exports: executions, UniformInForce, UniformsHeld, GpuSession.uniforms_in_force
-/
import ShaderFlow.Proofs.Gpu.ProgramCache
import ShaderFlow.Proofs.Gpu.UniformBuffers

namespace ShaderFlow

/-!
What a pass draws is recorded at once and executed when its encoder is submitted; what is written into
a buffer reaches it between the submissions around the write.  So a pass sees its own uniforms iff the
buffers are not written between its recording and the submission of its encoder.  They are not: every
upload comes behind the submission of whatever was recorded before, and the encoder that the pass goes
into is submitted once.
-/

/-! ### Executions -/

/-- The encoders that a call submits. -/
def GpuEvent.submitted : GpuEvent → List (Handle .encoder)
  | .submit encoders => encoders
  | _ => []

/-- The calls in front of each submission of an encoder.  What was recorded into the encoder is
executed with the buffers as these calls leave them. -/
def executions (encoder : Handle .encoder) : List GpuEvent → List (List GpuEvent)
  | [] => []
  | event :: rest => List.replicate (event.submitted.count encoder) [] ++
      (executions encoder rest).map (event :: ·)

variable {encoder : Handle .encoder} {events others : List GpuEvent}

theorem executions_append : executions encoder (events ++ others) =
    executions encoder events ++ (executions encoder others).map (events ++ ·) := by
  induction events with
  | nil => simp [executions]
  | cons event rest ih => simp [executions, ih, Function.comp_def]

theorem executions_eq_nil (unsubmitted : ∀ event ∈ events, encoder ∉ event.submitted) :
    executions encoder events = [] := by
  induction events with
  | nil => rfl
  | cons event rest ih =>
      obtain ⟨here, later⟩ := List.forall_mem_cons.mp unsubmitted
      rw [executions, ih later, List.count_eq_zero_of_not_mem here]
      rfl

/-- An encoder that one call submits and no other one is executed behind the calls before. -/
theorem executions_once (before : ∀ event ∈ events, encoder ∉ event.submitted)
    (after : ∀ event ∈ others, encoder ∉ event.submitted) :
    executions encoder (events ++ .submit [encoder] :: others) = [events] := by
  rw [executions_append, executions_eq_nil before, executions, executions_eq_nil after]
  simp [GpuEvent.submitted]

theorem GpuEvent.Calm.not_submitted {event : GpuEvent} {count : Nat} (calm : event.Calm count)
    (encoder : Handle .encoder) : encoder ∉ event.submitted := by
  cases event with
  | submit => cases calm
  | _ => exact List.not_mem_nil

theorem not_submitted_of_mem_uniformWrites {program : GpuProgram}
    {engine : EngineUniform → ShaderValue} {event : GpuEvent}
    (member : event ∈ program.uniformWrites engine) (encoder : Handle .encoder) :
    encoder ∉ event.submitted := by
  obtain ⟨pair, _, rfl⟩ := List.mem_map.mp member
  exact List.not_mem_nil

namespace GpuBackend

variable {backend next : GpuBackend}

/-- What a call lists: no submission, or the submission of the encoder of the frame, once.  The frame
keeps its encoder only if there is no submission. -/
theorem Moves.log_cases (moves : backend.Moves next) :
    (∃ events, next.device.log = backend.device.log ++ events ∧
      (∀ event ∈ events, event.Calm (backend.device.counts .buffer)) ∧
      (next.frame = backend.frame ∨ backend.frame = none ∧
        ∀ frame, next.frame = some frame → backend.device.Gives next.device frame.encoder)) ∨
    ∃ before after frame, backend.frame = some frame ∧
      next.device.log = backend.device.log ++ (before ++ .submit [frame.encoder] :: after) ∧
      (∀ event ∈ before, event.Calm (backend.device.counts .buffer)) ∧
      (∀ event ∈ after, ∀ encoder, encoder ∉ event.submitted) ∧
      ∀ frame, next.frame = some frame → backend.device.Gives next.device frame.encoder := by
  cases moves with
  | calm frame advance => exact .inl ⟨_, advance.log_eq, advance.calm, frame⟩
  | @submitted before writes after frame recording replaced advance calmBefore written calmAfter =>
      refine .inr ⟨before, writes ++ after, frame, recording, ?_, calmBefore, ?_, replaced⟩
      · rw [advance.log_eq, List.append_assoc, List.cons_append]
      · intro event member
        rcases List.mem_append.mp member with write | later
        · rcases written with rfl | ⟨program, size, _, rfl⟩
          · cases write
          · exact not_submitted_of_mem_uniformWrites write
        · exact (calmAfter event later).not_submitted

/-- Encoders have been given out before they are submitted, and the encoder of the frame has not been
submitted. -/
structure EncodersTidy (backend : GpuBackend) : Prop where
  given : ∀ event ∈ backend.device.log, ∀ encoder ∈ event.submitted,
    encoder.number < backend.device.counts .encoder
  current : ∀ frame, backend.frame = some frame →
    frame.encoder.number < backend.device.counts .encoder
  unsubmitted : ∀ frame, backend.frame = some frame →
    ∀ event ∈ backend.device.log, frame.encoder ∉ event.submitted

/-- Whatever is submitted up to the end of a call was given out before the call. -/
theorem EncodersTidy.lt_of_submitted (tidy : backend.EncodersTidy) (moves : backend.Moves next) :
    ∀ event ∈ next.device.log, ∀ encoder ∈ event.submitted,
      encoder.number < backend.device.counts .encoder := by
  rcases moves.log_cases with ⟨events, log_eq, calm, _⟩ |
    ⟨before, after, frame, recording, log_eq, calm, silent, _⟩
  · rw [log_eq]
    refine List.forall_mem_append.mpr ⟨tidy.given, fun event member encoder listed => ?_⟩
    exact absurd listed ((calm event member).not_submitted encoder)
  · rw [log_eq]
    refine List.forall_mem_append.mpr ⟨tidy.given, List.forall_mem_append.mpr
      ⟨fun event member encoder listed => ?_, List.forall_mem_cons.mpr
        ⟨fun encoder listed => ?_, fun event member encoder listed => ?_⟩⟩⟩
    · exact absurd listed ((calm event member).not_submitted encoder)
    · rw [List.mem_singleton.mp listed]
      exact tidy.current frame recording
    · exact absurd listed (silent event member encoder)

theorem EncodersTidy.step (tidy : backend.EncodersTidy) (moves : backend.Moves next) :
    next.EncodersTidy := by
  have earlier := tidy.lt_of_submitted moves
  -- An encoder that the call creates has a number above all those that have been submitted.
  have fresh : ∀ frame : GpuFrame, backend.device.Gives next.device frame.encoder →
      ∀ event ∈ next.device.log, frame.encoder ∉ event.submitted :=
    fun frame gives event member listed =>
      Nat.not_lt.mpr gives.free (earlier event member _ listed)
  have given : ∀ event ∈ next.device.log, ∀ encoder ∈ event.submitted,
      encoder.number < next.device.counts .encoder := fun event member encoder listed =>
    Nat.lt_of_lt_of_le (earlier event member encoder listed) (moves.counts_le .encoder)
  rcases moves.log_cases with ⟨events, log_eq, calm, same | ⟨_, begins⟩⟩ |
    ⟨_, _, _, _, _, _, _, replaced⟩
  · refine ⟨given, fun frame recording => ?_, fun frame recording => ?_⟩
    · exact Nat.lt_of_lt_of_le (tidy.current frame (same ▸ recording)) (moves.counts_le .encoder)
    · rw [log_eq]
      exact List.forall_mem_append.mpr ⟨tidy.unsubmitted frame (same ▸ recording),
        fun event member => (calm event member).not_submitted _⟩
  · exact ⟨given, fun frame recording => (begins frame recording).taken,
      fun frame recording => fresh frame (begins frame recording)⟩
  · exact ⟨given, fun frame recording => (replaced frame recording).taken,
      fun frame recording => fresh frame (replaced frame recording)⟩

theorem encodersTidy_create (surfaceSize : Extent) (limit : Nat) :
    (create surfaceSize limit {}).EncodersTidy := by
  have configured : DeviceM.Calm (Device.emit (.configure surfaceSize)) :=
    DeviceM.calm_emit fun _ => by trivial
  obtain ⟨events, advance⟩ := (configured.bind fun _ =>
    (DeviceM.setsUp_depthBuffer "Screen Depth" surfaceSize).calm.bind fun depth =>
      DeviceM.setsUp_blitter.calm.bind fun blitter => DeviceM.calm_pure (depth, blitter)) {}
  have log_eq : (create surfaceSize limit {}).device.log = events := advance.log_eq
  refine ⟨fun event member encoder listed => ?_, fun _ recording => (nomatch recording),
    fun _ recording => nomatch recording⟩
  rw [log_eq] at member
  exact absurd listed ((advance.calm event member).not_submitted encoder)

/-! ### A recorded pass -/

/-- What has become of the passes in an encoder since the calls `recorded`: they wait in the frame in
progress, or they have been executed, once and behind calm calls only. -/
inductive Settles (recorded : List GpuEvent) (encoder : Handle .encoder) (count : Nat)
    (backend : GpuBackend) : Prop where
  | waiting (events : List GpuEvent) {frame : GpuFrame} (recording : backend.frame = some frame)
      (same : frame.encoder = encoder) (log_eq : backend.device.log = recorded ++ events)
      (calm : ∀ event ∈ events, event.Calm count)
  | executed (events : List GpuEvent)
      (once : executions encoder backend.device.log = [recorded ++ events])
      (calm : ∀ event ∈ events, event.Calm count)
      (given : encoder.number < backend.device.counts .encoder)
      (gone : ∀ frame, backend.frame = some frame → frame.encoder ≠ encoder)

theorem Settles.step {recorded : List GpuEvent} {count : Nat}
    (settles : Settles recorded encoder count backend) (tidy : backend.EncodersTidy)
    (counted : count ≤ backend.device.counts .buffer) (moves : backend.Moves next) :
    Settles recorded encoder count next := by
  have unlike : encoder.number < backend.device.counts .encoder → ∀ frame : GpuFrame,
      backend.device.Gives next.device frame.encoder → frame.encoder ≠ encoder := by
    rintro given frame gives rfl
    exact Nat.not_lt.mpr gives.free given
  cases settles with
  | @waiting events frame recording same log_eq calm =>
      subst same
      rcases moves.log_cases with ⟨others, listed, calmly, kept | ⟨idle, _⟩⟩ |
        ⟨before, after, other, submitting, listed, calmly, silent, replaced⟩
      · refine .waiting (events ++ others) (kept.trans recording) rfl ?_ ?_
        · rw [listed, log_eq, List.append_assoc]
        · exact List.forall_mem_append.mpr
            ⟨calm, fun event member => (calmly event member).mono counted⟩
      · cases idle.symm.trans recording
      · -- The call submits the encoder that the passes wait in, behind calm calls.
        cases recording.symm.trans submitting
        have once : executions frame.encoder next.device.log = [backend.device.log ++ before] := by
          rw [listed, ← List.append_assoc]
          exact executions_once (List.forall_mem_append.mpr ⟨tidy.unsubmitted frame recording,
            fun event member => (calmly event member).not_submitted _⟩)
              fun event member => silent event member _
        have given := tidy.current frame recording
        refine .executed (events ++ before) ?_ ?_
          (Nat.lt_of_lt_of_le given (moves.counts_le .encoder))
          fun later goesOn => unlike given later (replaced later goesOn)
        · rw [once, log_eq, List.append_assoc]
        · exact List.forall_mem_append.mpr
            ⟨calm, fun event member => (calmly event member).mono counted⟩
  | executed events once calm given gone =>
      have taken := Nat.lt_of_lt_of_le given (moves.counts_le .encoder)
      rcases moves.log_cases with ⟨others, listed, calmly, frames⟩ |
        ⟨before, after, other, submitting, listed, calmly, silent, replaced⟩
      · refine .executed events ?_ calm taken fun later goesOn => ?_
        · rw [listed, executions_append, once,
            executions_eq_nil fun event member => (calmly event member).not_submitted _]
          rfl
        · rcases frames with kept | ⟨_, begins⟩
          · exact gone later (kept ▸ goesOn)
          · exact unlike given later (begins later goesOn)
      · -- The call submits an encoder, but not this one, which is no longer that of the frame.
        refine .executed events ?_ calm taken
          fun later goesOn => unlike given later (replaced later goesOn)
        have nowhere : ∀ event ∈ before ++ .submit [other.encoder] :: after,
            encoder ∉ event.submitted := by
          refine List.forall_mem_append.mpr
            ⟨fun event member => (calmly event member).not_submitted _, List.forall_mem_cons.mpr
              ⟨fun same => ?_, fun event member => silent event member _⟩⟩
          exact gone other submitting (List.mem_singleton.mp same).symm
        rw [listed, executions_append, once, executions_eq_nil nowhere]
        rfl

end GpuBackend

/-! ### Uniforms of a call -/

/-- The value that a uniform of a program has in a call of a renderer: a user uniform has the value
that was set or its default, an engine uniform the value of the renderer or the neutral one, which for
the resolution is the size of the bound target. -/
inductive UniformInForce (backend : GpuBackend) (program : GpuProgram) (slot : UniformSlot) :
    ShaderValue → Prop where
  | set {value : ShaderValue} (user : slot.engine = none)
      (held : program.values.get? slot.name = some value) :
      UniformInForce backend program slot value
  | default (user : slot.engine = none) (unset : program.values.get? slot.name = none) :
      UniformInForce backend program slot slot.default
  | engine {quantity : EngineUniform} {value : ShaderValue} (filled : slot.engine = some quantity)
      (held : backend.engineValues.get? quantity = some value) :
      UniformInForce backend program slot value
  | resolution (filled : slot.engine = some .resolution)
      (unset : backend.engineValues.get? .resolution = none) :
      UniformInForce backend program slot (.vec2 (.ofNat backend.targetSize.width.toNat)
        (.ofNat backend.targetSize.height.toNat))
  | neutral {quantity : EngineUniform} (filled : slot.engine = some quantity)
      (other : quantity ≠ .resolution) (unset : backend.engineValues.get? quantity = none) :
      UniformInForce backend program slot (.defaultFor quantity.ty)

theorem uniformInForce_boundValue (backend : GpuBackend) (program : GpuProgram)
    (slot : UniformSlot) : UniformInForce backend program slot
      (program.boundValue (backend.engineValue backend.targetSize) slot) := by
  unfold GpuProgram.boundValue
  cases filled : slot.engine with
  | none =>
      cases held : program.values.get? slot.name with
      | none => exact .default filled held
      | some value => exact .set filled held
  | some quantity =>
      dsimp only [GpuBackend.engineValue]
      cases held : backend.engineValues.get? quantity with
      | some value => exact .engine filled held
      | none =>
          by_cases other : quantity = .resolution
          · subst other
            exact .resolution filled held
          · cases quantity with
            | resolution => exact absurd rfl other
            | _ => exact .neutral filled other held

/-- Every uniform of a program has a buffer of its own in the bind group of the program, and behind
the calls of a log the buffer holds the value that the uniform had in a call of the renderer.  Nothing
else is in the buffer if the uniforms are well typed, as compiled ones are. -/
structure UniformsHeld (backend : GpuBackend) (program : GpuProgram) (log : List GpuEvent) : Prop where
  bound : program.resources.BindsUniforms log
  length_eq : program.resources.uniformBuffers.length = program.descriptor.uniforms.length
  held : ∀ pair ∈ program.descriptor.uniforms.zip program.resources.uniformBuffers,
    ∃ value, UniformInForce backend program pair.1 value ∧
      value.uniformBytes <+: bufferContents log pair.2 ∧
      (program.descriptor.WellTyped → bufferContents log pair.2 = value.uniformBytes)

theorem UniformsHeld.append {backend : GpuBackend} {program : GpuProgram} {log : List GpuEvent}
    {count : Nat} (uniforms : UniformsHeld backend program log)
    (given : ∀ buffer ∈ program.resources.uniformBuffers, buffer.number < count)
    (calm : ∀ event ∈ events, event.Calm count) : UniformsHeld backend program (log ++ events) where
  bound := by
    obtain ⟨label, layout, member⟩ := uniforms.bound
    exact ⟨label, layout, List.mem_append_left events member⟩
  length_eq := uniforms.length_eq
  held pair member := by
    rw [bufferContents_append, contentsFrom_of_calm calm (given _ (List.of_mem_zip member).2)]
    exact uniforms.held pair member

/-- The log goes on to its end with a pass that binds the uniforms of a program and then records the
given commands. -/
def EndsWithPass (log later : List GpuEvent) (encoder : Handle .encoder) (label : String)
    (program : GpuProgram) (commands : List PassCommand) : Prop :=
  ∃ prepared color depth opening,
    later = log ++ prepared ++ (.beginPass encoder label color .keep depth ::
      (opening ++ commands.map Subtype.val ++ [.endPass])) ∧
    .setBindGroup uniformGroup program.resources.uniformGroup ∈ opening ∧
    ∀ event ∈ opening, event.inPass = true

namespace GpuBackend

variable {backend next : GpuBackend} {program : GpuProgram} {label : String}
  {commands : List PassCommand} {frame : GpuFrame} {textures : Handle .bindGroup}

theorem endsWithPass_passEvents (log prepared : List GpuEvent) :
    EndsWithPass log (log ++ (prepared ++ backend.passEvents frame label program textures commands))
      frame.encoder label program commands :=
  ⟨prepared, _, _, _, (List.append_assoc _ _ _).symm, backend.mem_passOpening frame program textures,
    fun _ => inPass_of_mem_passOpening⟩

/-- Buffers behind an upload and the calls that prepare and record a pass. -/
theorem bufferContents_recorded {device later : Device} {encoder : Handle .encoder}
    {writes : List GpuEvent} {creation : GpuEvent} {buffer : Handle .buffer}
    (advance : device.Advances later ((.createEncoder encoder :: .submit [frame.encoder] ::
      writes ++ [creation]) ++ backend.passEvents { frame with encoder } label program textures
        commands))
    (calm : ∀ count, creation.Calm count) (given : buffer.number < device.counts .buffer) :
    bufferContents later.log buffer =
      contentsFrom buffer (bufferContents device.log buffer) writes := by
  have created : ∀ event ∈ [creation], event.Calm (device.counts .buffer) :=
    List.forall_mem_singleton.mpr (calm _)
  rw [advance.log_eq, bufferContents_append, contentsFrom_append, contentsFrom_append,
    contentsFrom_of_calm (fun event member => calm_of_mem_passEvents member _) given,
    contentsFrom_of_calm created given]
  rfl

/-- A pass that opens under a program finds the values of the uniforms in their buffers. -/
theorem recorded_of_renderPass (tidy : backend.BuffersTidy) (typed : backend.EngineTyped)
    (holds : backend.Holds program) (installed : backend.override = some program)
    (ran : renderPass label (PassCommand.record commands) backend = (.ok (), next)) :
    ∃ frame, next.frame = some frame ∧
      EndsWithPass backend.device.log next.device.log frame.encoder label program commands ∧
      UniformsHeld backend program next.device.log := by
  obtain ⟨frame, encoder, creation, textures, _, goesOn, calm, passed⟩ :=
    renderPass_ok installed ran
  refine ⟨_, goesOn, ?_, ?_, tidy.length_eq _ holds.cached, fun pair member => ?_⟩
  · rcases passed with ⟨_, _, advance⟩ | ⟨_, advance⟩ <;> rw [advance.log_eq] <;>
      exact endsWithPass_passEvents _ _
  · obtain ⟨name, layout, grouped⟩ := tidy.bound _ holds.cached
    exact ⟨name, layout, passed.elim (fun unused => unused.2.2.mem_log grouped)
      fun written => written.2.mem_log grouped⟩
  · rcases passed with ⟨unused, _⟩ | ⟨_, advance⟩
    · rw [unused, List.zip_nil_left] at member
      cases member
    · have given := tidy.given _ holds.cached _ (List.of_mem_zip member).2
      rw [bufferContents_recorded advance calm given]
      refine ⟨_, uniformInForce_boundValue backend program pair.1, ?_, fun wellTyped => ?_⟩
      · rw [tidy.contentsFrom_uniformWrites holds.cached member]
        exact List.prefix_append _ _
      · exact tidy.contentsFrom_uniformWrites_eq holds typed wellTyped _ member

end GpuBackend

namespace GpuSession

variable {session : GpuSession} {program : GpuProgram} {label : String}
  {commands : List PassCommand}

/-- The calls that the device has listed. -/
def log (session : GpuSession) : List GpuEvent := session.backend.device.log

theorem act_eq_ok {α : Type} {action : GpuAction α} {keep : α → GpuSession → GpuSession}
    (succeeded : (session.act action keep).1 = .ok ()) :
    ∃ value backend, action session.backend = (.ok value, backend) ∧
      (session.act action keep).2 = keep value { session with backend } := by
  unfold act at succeeded ⊢
  cases ran : action session.backend with
  | mk outcome backend =>
      cases outcome with
      | error error =>
          rw [ran] at succeeded
          cases succeeded
      | ok value => exact ⟨value, backend, rfl, rfl⟩

theorem Reachable.encodersTidy (reachable : session.Reachable) : session.backend.EncodersTidy := by
  obtain ⟨surfaceSize, limit, calls, rfl⟩ := reachable
  exact performAll_invariant (fun session => session.backend.EncodersTidy)
    (fun _ _ tidy step => tidy.step step.moves)
    (GpuBackend.encodersTidy_create surfaceSize limit) calls

theorem settles_performAll {recorded : List GpuEvent} {encoder : Handle .encoder} {count : Nat}
    (settles : session.backend.Settles recorded encoder count)
    (tidy : session.backend.EncodersTidy) (counted : count ≤ session.backend.device.counts .buffer)
    (calls : List GpuCall) :
    (session.performAll calls).backend.Settles recorded encoder count := by
  refine (performAll_invariant (fun later => later.backend.EncodersTidy ∧
    count ≤ later.backend.device.counts .buffer ∧
      later.backend.Settles recorded encoder count) ?_ ⟨tidy, counted, settles⟩ calls).2.2
  rintro session next ⟨tidy, counted, settles⟩ step
  exact ⟨tidy.step step.moves, Nat.le_trans counted (step.moves.counts_le .buffer),
    settles.step tidy counted step.moves⟩

/-- Draws see their own uniform values.  A pass that a call opens under a program stands at the end of
the log.  Whatever calls follow, it waits in the encoder of the frame in progress, or it has been
executed, once, at a time when it was in the log.  All the while and when it is executed, every uniform
buffer of the program holds the value that the uniform had when the pass was opened. -/
theorem uniforms_in_force (reachable : session.Reachable)
    (installed : session.backend.override = some program)
    (opened : (session.perform (.renderPass label commands)).1 = .ok ()) (later : List GpuCall) :
    let passed := (session.perform (.renderPass label commands)).2
    let final := passed.performAll later
    ∃ encoder, EndsWithPass session.log passed.log encoder label program commands ∧
      (executions encoder final.log = [] ∧
          final.backend.frame.map GpuFrame.encoder = some encoder ∧
          UniformsHeld session.backend program final.log ∨
        ∃ before, executions encoder final.log = [before] ∧ passed.log <+: before ∧
          UniformsHeld session.backend program before) := by
  intro passed final
  have tidy := reachable.tidy
  have holds := tidy.override program installed
  have step : session.Step passed := session.step_perform (.renderPass label commands)
  have ran : GpuBackend.renderPass label (PassCommand.record commands) session.backend =
      (.ok (), passed.backend) := by
    obtain ⟨_, backend, ran, same⟩ := act_eq_ok opened
    exact ran.trans (by rw [show passed = _ from same])
  obtain ⟨frame, recording, recorded, uniforms⟩ :=
    GpuBackend.recorded_of_renderPass tidy.buffers tidy.engineTyped holds installed ran
  have given : ∀ buffer ∈ program.resources.uniformBuffers,
      buffer.number < passed.backend.device.counts .buffer := fun buffer member =>
    Nat.lt_of_lt_of_le (tidy.buffers.given _ holds.cached buffer member)
      (step.moves.counts_le .buffer)
  have encoders := reachable.encodersTidy.step step.moves
  have waits : passed.backend.Settles passed.log frame.encoder
      (passed.backend.device.counts .buffer) :=
    .waiting [] recording rfl (List.append_nil _).symm fun _ member => nomatch member
  have inEnd : final.backend.EncodersTidy :=
    (reachable.performAll (.renderPass label commands :: later)).encodersTidy
  refine ⟨frame.encoder, recorded, ?_⟩
  cases settles_performAll waits encoders (Nat.le_refl _) later with
  | waiting _ goesOn same log_eq calm =>
      refine .inl ⟨executions_eq_nil ?_, ?_, ?_⟩
      · exact same ▸ inEnd.unsubmitted _ goesOn
      · rw [show final.backend.frame = _ from goesOn, Option.map_some, same]
      · rw [show final.log = _ from log_eq]
        exact uniforms.append given calm
  | executed _ once calm =>
      exact .inr ⟨_, once, List.prefix_append _ _, uniforms.append given calm⟩

open GpuBackend (gray tintProgram)

/-- A frame in which the program of `tintProgram` is installed with its tint set to one. -/
def tintSession : GpuSession :=
  (new ⟨4, 4⟩ 64).performAll
    [.createProgram "tint" (tintProgram .zero).descriptor {}, .setUniform 0 "tint" (gray .one),
      .beginFrame, .setOverride (some 0)]

/-- The tint is set to zero for a second pass, and the frame ends. -/
def retint : List GpuCall :=
  [.setUniform 0 "tint" (gray .zero), .setOverride (some 0), .renderPass "second" [], .endFrame]

theorem override_tintSession : tintSession.backend.override.map (fun program =>
    (program.descriptor.uniforms, program.resources.uniformBuffers, program.values.get? "tint")) =
      some ([⟨"tint", .vec4, gray .zero, 0, none⟩], [⟨0⟩], some (gray .one)) := by
  decide +kernel

/-- The first pass is executed with a tint of one, though the buffer holds zero in the end. -/
theorem uniforms_in_force_tintSession : ∃ program,
    tintSession.Reachable ∧ tintSession.backend.override = some program ∧
    (tintSession.perform (.renderPass "first" [])).1 = .ok () ∧
    ∃ encoder before, executions encoder
        ((tintSession.perform (.renderPass "first" [])).2.performAll retint).log = [before] ∧
      bufferContents before ⟨0⟩ = (gray .one).uniformBytes ∧
      bufferContents ((tintSession.perform (.renderPass "first" [])).2.performAll retint).log ⟨0⟩ =
        (gray .zero).uniformBytes := by
  obtain ⟨program, installed, held⟩ := Option.map_eq_some_iff.mp override_tintSession
  simp only [Prod.mk.injEq] at held
  obtain ⟨uniforms, buffers, set⟩ := held
  have wellTyped : program.descriptor.WellTyped := by
    refine ⟨by simp [uniforms], ?_⟩
    rw [uniforms]
    refine List.forall_mem_singleton.mpr ⟨rfl, fun _ filled => ?_⟩
    cases filled
  have reachable : tintSession.Reachable := ⟨_, _, _, rfl⟩
  have opened : (tintSession.perform (.renderPass "first" [])).1 = .ok () := by decide +kernel
  obtain ⟨encoder, _, ⟨_, waits, _⟩ | ⟨before, once, _, values⟩⟩ :=
    uniforms_in_force reachable installed opened retint
  · have ended : ((tintSession.perform (.renderPass "first" [])).2.performAll
        retint).backend.frame.isNone := by decide +kernel
    rw [Option.isNone_iff_eq_none.mp ended] at waits
    cases waits
  · obtain ⟨value, inForce, _, exact_bytes⟩ := values.held (⟨"tint", .vec4, gray .zero, 0, none⟩, ⟨0⟩)
      (by simp [uniforms, buffers])
    have one : value = gray .one := by
      cases inForce with
      | set _ held => exact Option.some.inj (held.symm.trans set)
      | default _ unset => cases unset.symm.trans set
      | engine filled | resolution filled | neutral filled => cases filled
    subst one
    exact ⟨program, reachable, installed, opened, encoder, before, once, exact_bytes wellTyped,
      by decide +kernel⟩

end GpuSession

end ShaderFlow

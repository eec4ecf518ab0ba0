/-
Module: ShaderFlow.Proofs.Gpu.Framebuffers
Purpose: The framebuffers that the GPU renderer holds.
Main exports: GpuFramebuffer.Sound, GpuBackend.Furnished, GpuBackend.ensureFramebuffer_cases,
  GpuSession.InUse, GpuSession.InUse.furnished
-/
import ShaderFlow.Proofs.Gpu.PassRecording
import ShaderFlow.Proofs.Gpu.UniformBuffers
import ShaderFlow.Proofs.Render.Preservation

namespace ShaderFlow

/-!
A framebuffer is handed out again whenever a descriptor like its own is asked for.  What a pass relies
on is therefore true of it since it was created: it has a depth buffer iff its descriptor says so.
-/

/-- A framebuffer with a depth buffer iff its descriptor asks for one. -/
def GpuFramebuffer.Sound (framebuffer : GpuFramebuffer) : Prop :=
  framebuffer.depth.isSome = framebuffer.descriptor.depth

theorem GpuFramebuffer.sound_create (descriptor : FramebufferDescriptor) (device : Device) :
    (create descriptor device).1.descriptor = descriptor ∧ (create descriptor device).1.Sound := by
  unfold create
  cases asked : descriptor.depth with
  | true => exact ⟨rfl, asked.symm⟩
  | false => exact ⟨rfl, asked.symm⟩

namespace GpuBackend

/-- All framebuffers that the renderer holds are sound. -/
def Furnished (backend : GpuBackend) : Prop :=
  ∀ name framebuffer, backend.framebuffers.get? name = some framebuffer → framebuffer.Sound

variable {backend next : GpuBackend} {descriptor : FramebufferDescriptor}

theorem Furnished.of_same (furnished : backend.Furnished)
    (same : next.framebuffers = backend.framebuffers) : next.Furnished := fun name framebuffer held =>
  furnished name framebuffer (same ▸ held)

theorem Furnished.insert (furnished : backend.Furnished) {framebuffer : GpuFramebuffer}
    (sound : framebuffer.Sound) {name : String}
    (same : next.framebuffers = backend.framebuffers.insert name framebuffer) : next.Furnished := by
  intro other found held
  rw [same, OrderedMap.get?_insert] at held
  split at held
  · cases held
    exact sound
  · exact furnished other found held

/-- The renderer with a new framebuffer. -/
def furnish (backend : GpuBackend) (descriptor : FramebufferDescriptor) : GpuBackend :=
  { backend with
    device := (GpuFramebuffer.create descriptor backend.device).2
    framebuffers := backend.framebuffers.insert descriptor.name
      (GpuFramebuffer.create descriptor backend.device).1 }

/-- A framebuffer like the one asked for is handed out again; otherwise one is created, unless it is too
large. -/
theorem ensureFramebuffer_cases (backend : GpuBackend) (descriptor : FramebufferDescriptor) :
    (∃ framebuffer, backend.framebuffers.get? descriptor.name = some framebuffer ∧
      framebuffer.descriptor = descriptor ∧
      ensureFramebuffer descriptor backend = (.ok framebuffer, backend)) ∨
    (backend.limit < descriptor.size.width.toNat ∨ backend.limit < descriptor.size.height.toNat) ∧
      ensureFramebuffer descriptor backend =
        (.error (.framebufferTooLarge descriptor.name descriptor.size backend.limit), backend) ∨
    ensureFramebuffer descriptor backend =
      (.ok (GpuFramebuffer.create descriptor backend.device).1, backend.furnish descriptor) := by
  unfold ensureFramebuffer
  rw [get_bind_apply]
  cases found : (backend.framebuffers.get? descriptor.name).filter
      (·.descriptor = descriptor) with
  | some framebuffer =>
      obtain ⟨held, alike⟩ := Option.filter_eq_some_iff.mp found
      exact .inl ⟨framebuffer, held, of_decide_eq_true alike, rfl⟩
  | none =>
      refine .inr ?_
      dsimp only
      by_cases large : backend.limit < descriptor.size.width.toNat ∨
          backend.limit < descriptor.size.height.toNat
      · rw [if_pos large]
        exact .inl ⟨large, rfl⟩
      · rw [if_neg large]
        exact .inr rfl

theorem furnished_ensureFramebuffer (furnished : backend.Furnished)
    (descriptor : FramebufferDescriptor) :
    (ensureFramebuffer descriptor backend).2.Furnished := by
  rcases backend.ensureFramebuffer_cases descriptor with ⟨_, _, _, ran⟩ | ⟨_, ran⟩ | ran
  · exact ran ▸ furnished
  · exact ran ▸ furnished
  · rw [ran]
    exact furnished.insert (GpuFramebuffer.sound_create descriptor backend.device).2 rfl

/-! ### Steps that leave the framebuffers alone -/

theorem framebuffers_clear (label : String) (colorLoad : ColorLoad) (depthLoad : DepthLoad)
    (backend : GpuBackend) :
    (clear label colorLoad depthLoad backend).2.framebuffers = backend.framebuffers := by
  cases recording : backend.frame with
  | none => rw [clear_of_idle recording]
  | some frame =>
      obtain ⟨later, ran, _⟩ := clear_of_recording label colorLoad depthLoad recording
      rw [ran]

theorem framebuffers_clearTargetDepth (backend : GpuBackend) :
    (clearTargetDepth backend).2.framebuffers = backend.framebuffers := by
  rw [clearTargetDepth, get_bind_apply]
  split
  · exact framebuffers_clear _ _ _ _
  · rfl

theorem framebuffers_submit (submission : GpuSubmission) (backend : GpuBackend) :
    (submission.submit backend).2.framebuffers = backend.framebuffers := by
  rcases submission.submit_cases backend with ⟨_, _, ran⟩ | ⟨draws, lists, ran⟩
  · rw [ran]
  rw [ran]
  cases recording : backend.frame with
  | none => rw [renderPass_of_idle recording]
  | some frame =>
      obtain ⟨encoder, device, ⟨prepared, installed, ran, _⟩ | ⟨_, _, _, _, ran, _⟩⟩ :=
        renderPass_cases submission.label recording lists fun _ =>
          GpuSubmission.inPass_of_mem_commands
      · rw [ran]
      · rw [ran]

theorem framebuffers_take (step : GpuStep) (backend : GpuBackend) :
    (step.take backend).2.framebuffers = backend.framebuffers := by
  cases step with
  | submit submission => exact framebuffers_submit submission backend
  | fail error => rfl

theorem framebuffers_beginFrame (backend : GpuBackend) :
    (beginFrame backend).2.framebuffers = backend.framebuffers := by
  cases recording : backend.frame with
  | some frame => rw [beginFrame_of_recording recording]
  | none =>
      rcases beginFrame_of_idle recording with ⟨_, _, ran, _⟩ | ⟨_, _, _, ran, _⟩
      · rw [ran]
      · rw [ran, begun]

theorem framebuffers_endFrame (backend : GpuBackend) :
    (endFrame backend).2.framebuffers = backend.framebuffers := by
  cases recording : backend.frame with
  | none => rw [endFrame_of_idle recording]
  | some frame =>
      obtain ⟨later, ran, _⟩ := endFrame_of_recording recording
      rw [ran]

/-- No operation that a frame graph calls makes a framebuffer unsound. -/
theorem preserves_furnished : Renderer.Preserves Furnished where
  bindScreen _ furnished := furnished
  bindFramebuffer _ _ furnished := furnished
  setViewport _ _ furnished := furnished
  coverTarget _ furnished := furnished
  setClearColor _ _ furnished := furnished
  clearColor _ furnished := furnished.of_same (framebuffers_clear _ _ _ _)
  clearDepth _ furnished := furnished.of_same (framebuffers_clearTargetDepth _)
  setOverride _ _ furnished := furnished
  ensureFramebuffer descriptor _ furnished := furnished_ensureFramebuffer furnished descriptor
  renderFramebuffer _ _ _ furnished := furnished
  submit source _ furnished :=
    Renderer.Preserves.each (fun step _ kept => kept.of_same (framebuffers_take step _)) furnished
      source.steps

end GpuBackend

/-! ### Sessions -/

namespace GpuSession

variable {session : GpuSession}

theorem furnished_act {α : Type} {action : GpuAction α} {keep : α → GpuSession → GpuSession}
    (furnished : (action session.backend).2.Furnished)
    (keeps : ∀ value later, (keep value later).backend = later.backend) :
    (session.act action keep).2.backend.Furnished := by
  rw [snd_act keeps]
  exact furnished

theorem furnished_onFramebuffer {index : Nat}
    {call : GpuFramebuffer → Except GpuError Unit × GpuSession}
    (furnished : session.backend.Furnished)
    (kept : ∀ framebuffer, (call framebuffer).2.backend.Furnished) :
    (session.onFramebuffer index call).2.backend.Furnished := by
  unfold onFramebuffer
  split
  · exact furnished
  · exact kept _

/-- Whatever a call does, the framebuffers are sound afterwards. -/
theorem furnished_perform (furnished : session.backend.Furnished) (call : GpuCall) :
    (session.perform call).2.backend.Furnished := by
  cases call with
  | createProgram label descriptor layout =>
      refine furnished_act (furnished.of_same ?_) fun _ _ => rfl
      rcases GpuBackend.createProgram_cases label descriptor layout session.backend with
        ⟨_, _, ran⟩ | ⟨_, ⟨_, _, _, ran⟩ | ⟨_, _, _, ran⟩⟩
      · rw [ran]
      · rw [ran]
      · rw [ran]
  | cloneProgram | wire | setOverride | bindScreen | setViewport | coverTarget | setClearColor
  | surfaceAnswers | shaderFailure => exact furnished
  | setUniform index name value =>
      show (session.setUniform index name value).2.backend.Furnished
      unfold setUniform
      split
      · exact furnished
      · split <;> exact furnished
  | setEngineUniform quantity value =>
      refine furnished_act (furnished.of_same ?_) fun _ _ => rfl
      unfold GpuBackend.setEngineUniform
      split <;> rfl
  | resize size =>
      refine furnished.of_same ?_
      show (session.backend.resize size).framebuffers = _
      unfold GpuBackend.resize
      split <;> rfl
  | beginFrame =>
      exact furnished_act (furnished.of_same (GpuBackend.framebuffers_beginFrame _)) fun _ _ => rfl
  | endFrame =>
      exact furnished_act (furnished.of_same (GpuBackend.framebuffers_endFrame _)) fun _ _ => rfl
  | bindFramebuffer index => exact furnished_onFramebuffer furnished fun _ => furnished
  | clearColor =>
      exact furnished_act (furnished.of_same (GpuBackend.framebuffers_clear _ _ _ _)) fun _ _ => rfl
  | clearDepth =>
      refine furnished_act (furnished.of_same ?_) fun _ _ => rfl
      exact GpuBackend.framebuffers_clearTargetDepth _
  | ensureFramebuffer descriptor =>
      exact furnished_act (GpuBackend.furnished_ensureFramebuffer furnished descriptor) fun _ _ => rfl
  | renderFramebuffer index viewport =>
      exact furnished_onFramebuffer furnished fun _ => furnished_act furnished fun _ _ => rfl
  | renderPass label commands =>
      refine furnished_act (furnished.of_same ?_) fun _ _ => rfl
      exact GpuBackend.framebuffers_submit (.pass label commands) _
  | createQuad => exact furnished_act furnished fun _ _ => rfl

/-- Sessions as they come about: from a new one on, by calls and by frames of graphs. -/
inductive InUse : GpuSession → Prop where
  | new (surfaceSize : Extent) (limit : Nat) : InUse (new surfaceSize limit)
  | perform {session : GpuSession} (call : GpuCall) (inUse : InUse session) :
      InUse (session.perform call).2
  | run {session : GpuSession} (graph : CompiledGraph GpuProgram GpuSource) (options : FrameOptions)
      (inUse : InUse session) :
      InUse { session with backend := (graph.run options session.backend).state }

theorem InUse.furnished (inUse : session.InUse) : session.backend.Furnished := by
  induction inUse with
  | new surfaceSize limit => exact fun _ _ held => nomatch held
  | perform call _ ih => exact furnished_perform ih call
  | run graph options _ ih => exact graph.preserves_run GpuBackend.preserves_furnished options ih

end GpuSession

end ShaderFlow

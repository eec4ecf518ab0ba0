/-
Module: ShaderFlow.Proofs.Gpu.TextureBinding
Purpose: The bind group through which draw work samples the textures of its program.
Main exports: GpuProgram.bindings, GpuBackend.prepareProgram_of_wired, GpuSubmission.SamplesThrough,
  GpuSubmission.samplesThrough_of_wired, Pass.samplesThrough_of_wired
-/
import ShaderFlow.Proofs.Gpu.TargetPainting

namespace ShaderFlow

/-!
A submission under a program opens one pass, behind the creation of a bind group for the textures of the
program.  In a frame it fails only if a texture has no framebuffer, for a program is all the material
that it needs.  While a pass draws, neither its program nor the framebuffers change, so all of its
submissions sample the same framebuffers, through a bind group of its own each.
-/

namespace GpuProgram

variable {program : GpuProgram} {framebuffers : OrderedMap String GpuFramebuffer}
  {framebuffer : TextureSlot → GpuFramebuffer}

/-- The color of a framebuffer for each texture of a program, and the sampler to read it with. -/
def bindings (program : GpuProgram) (framebuffer : TextureSlot → GpuFramebuffer) :
    List BindGroupEntry :=
  program.descriptor.textures.flatMap fun texture =>
    [⟨texture.binding, .view (framebuffer texture).colorView⟩,
      ⟨texture.samplerBinding, .sampler program.resources.sampler⟩]

/-- The creation of a bind group for the textures of a program. -/
def bindsTextures (program : GpuProgram) (group : Handle .bindGroup)
    (framebuffer : TextureSlot → GpuFramebuffer) : GpuEvent :=
  .createBindGroup group s!"{program.label} textures" program.resources.textureLayout
    (program.bindings framebuffer)

/-- The textures of a program are bound to the framebuffers that are wired into them. -/
theorem textureBindings_of_wired (wired : ∀ texture ∈ program.descriptor.textures,
    program.wiredFramebuffer framebuffers texture = .ok (framebuffer texture)) :
    program.textureBindings framebuffers = .ok (program.bindings framebuffer) := by
  refine bind_eq_ok_iff.mpr ⟨program.descriptor.textures.map fun texture =>
    [⟨texture.binding, .view (framebuffer texture).colorView⟩,
      ⟨texture.samplerBinding, .sampler program.resources.sampler⟩], mapM_eq_ok_iff.mpr ?_, rfl⟩
  rw [List.forall₂_map_right_iff, List.forall₂_same]
  exact fun texture listed => bind_eq_ok_iff.mpr ⟨framebuffer texture, wired texture listed, rfl⟩

end GpuProgram

namespace GpuBackend

variable {backend : GpuBackend} {frame : GpuFrame} {program : GpuProgram}
  {framebuffer : TextureSlot → GpuFramebuffer}

theorem bindTextures_of_wired (wired : ∀ texture ∈ program.descriptor.textures,
    program.wiredFramebuffer backend.framebuffers texture = .ok (framebuffer texture)) :
    ∃ group later, bindTextures program backend = (.ok group, { backend with device := later }) ∧
      backend.device.Advances later [program.bindsTextures group framebuffer] := by
  have created := Device.advances_create backend.device fun group =>
    program.bindsTextures group framebuffer
  refine ⟨_, _, ?_, created⟩
  unfold bindTextures
  rw [get_bind_apply, GpuProgram.textureBindings_of_wired wired]
  rfl

/-- A program is prepared in a frame by whatever uploads its uniforms and by the creation of its bind
group. -/
theorem prepareProgram_of_wired (recording : backend.frame = some frame) (size : Extent)
    (wired : ∀ texture ∈ program.descriptor.textures,
      program.wiredFramebuffer backend.framebuffers texture = .ok (framebuffer texture)) :
    ∃ encoder group later events, prepareProgram program size backend =
        (.ok group, { backend with device := later, frame := some { frame with encoder } }) ∧
      backend.device.Advances later (events ++ [program.bindsTextures group framebuffer]) ∧
      ∀ event ∈ events, event.Between := by
  rw [prepareProgram_eq]
  split
  · obtain ⟨group, later, ran, advance⟩ := bindTextures_of_wired wired
    exact ⟨frame.encoder, group, later, [], by rw [ran, ← recording], advance, fun _ => nofun⟩
  · obtain ⟨encoder, middle, uploaded, _, written⟩ := upload_of_recording recording program size
    have wiredOn : ∀ texture ∈ program.descriptor.textures, program.wiredFramebuffer
        ({ backend with device := middle, frame := some { frame with encoder } } :
          GpuBackend).framebuffers texture = .ok (framebuffer texture) := wired
    obtain ⟨group, later, ran, advance⟩ := bindTextures_of_wired wiredOn
    refine ⟨encoder, group, later, _, ?_, written.trans advance, fun event member => ?_⟩
    · rw [Action.bind_apply, uploaded]
      exact ran
    · rcases List.mem_cons.mp member with rfl | member
      · rfl
      · rcases List.mem_cons.mp member with rfl | member
        · rfl
        · obtain ⟨pair, _, rfl⟩ := List.mem_map.mp member
          rfl

end GpuBackend

/-! ### Draw work under a program -/

/-- A submission succeeds in one pass under a program, through a bind group that is created for the pass
and holds the color of a framebuffer at the binding of each texture. -/
def GpuSubmission.SamplesThrough (submission : GpuSubmission) (backend : GpuBackend)
    (program : GpuProgram) (framebuffer : TextureSlot → GpuFramebuffer) : Prop :=
  ∃ next frame group events, submission.submit backend = (.ok (), next) ∧ next.frame = some frame ∧
    next.device.log = backend.device.log ++ events ∧
    Bracketed events
      [backend.drawnPass frame submission.label (some (program, group)) submission.commands] ∧
    program.bindsTextures group framebuffer ∈ events

variable {backend reached : GpuBackend} {frame : GpuFrame} {program : GpuProgram}
  {framebuffer : TextureSlot → GpuFramebuffer}

/-- In a frame, a submission under a program samples the framebuffers of its textures if there is one
for each of them. -/
theorem GpuSubmission.samplesThrough_of_wired (submission : GpuSubmission)
    (recording : backend.frame = some frame) (installed : backend.override = some program)
    (wired : ∀ texture ∈ program.descriptor.textures,
      program.wiredFramebuffer backend.framebuffers texture = .ok (framebuffer texture)) :
    submission.SamplesThrough backend program framebuffer := by
  rcases submission.submit_cases backend with ⟨_, none, _⟩ | ⟨draws, lists, ran⟩
  · cases none.symm.trans installed
  · obtain ⟨encoder, group, middle, events, prepared, created, between⟩ :=
      GpuBackend.prepareProgram_of_wired recording backend.targetSize wired
    have goesOn : ({ backend with device := middle, frame := some { frame with encoder } } :
        GpuBackend).frame = some { frame with encoder } := rfl
    obtain ⟨device, drawn, advance⟩ := GpuBackend.drawPass_of_prepared submission.label goesOn lists
      (some (program, group))
    have submitted : submission.submit backend =
        (.ok (), { backend with device, frame := some { frame with encoder } }) := by
      rw [ran, GpuBackend.renderPass_of_recording recording installed, Action.bind_apply, prepared]
      exact drawn
    have creation : Bracketed [program.bindsTextures group framebuffer] [] :=
      .of_between (List.forall_mem_singleton.mpr rfl)
    refine ⟨_, { frame with encoder }, group, _, submitted, rfl, (created.trans advance).log_eq,
      ((Bracketed.of_between between).append creation).append
        (.of_pass (GpuBackend.proper_drawnPass fun _ => inPass_of_mem_commands)), by simp⟩

/-- In the course of a pass, steps under a program only fail where they say so if each texture of the
program has a framebuffer, and all submissions up to there sample those framebuffers. -/
theorem GpuStep.samplesThrough_of_wired (amid : backend.Amid frame reached)
    (installed : backend.override = some program)
    (wired : ∀ texture ∈ program.descriptor.textures,
      program.wiredFramebuffer backend.framebuffers texture = .ok (framebuffer texture))
    (work : List GpuStep) :
    (Action.each GpuStep.take work reached).1 = GpuStep.outcome work ∧
      (GpuStep.begun work reached).map Prod.fst = GpuStep.reached work ∧
      ∀ submission ∈ GpuStep.begun work reached,
        submission.1.SamplesThrough submission.2 program framebuffer := by
  induction work generalizing reached with
  | nil => exact ⟨rfl, rfl, fun _ => nofun⟩
  | cons step rest ih =>
      cases step with
      | fail error => exact ⟨rfl, rfl, fun _ => nofun⟩
      | submit submission =>
          have samples : submission.SamplesThrough reached program framebuffer := by
            obtain ⟨device, encoder, color, rfl⟩ := amid
            exact submission.samplesThrough_of_wired rfl installed wired
          have ⟨later, _, _, _, submitted, _⟩ := samples
          have goesOn := (GpuBackend.Paints.submit submission reached amid).1
          rw [submitted] at goesOn
          obtain ⟨ended, all, others⟩ := ih goesOn
          have begins : GpuStep.begun (.submit submission :: rest) reached =
              (submission, reached) :: GpuStep.begun rest later := by
            rw [GpuStep.begun, submitted]
          rw [begins]
          refine ⟨?_, congrArg (submission :: ·) all, List.forall_mem_cons.mpr ⟨samples, others⟩⟩
          have taken : GpuStep.take (.submit submission) reached = (.ok (), later) := submitted
          rw [Action.each_cons, Action.bind_apply, taken]
          exact ended

/-- In a frame, a pass with a program ends as its draw work says if each texture of the program has a
framebuffer, and all submissions that no failure stands in front of sample those framebuffers. -/
theorem Pass.samplesThrough_of_wired {pass : Pass GpuProgram GpuSource}
    (recording : backend.frame = some frame) (own : pass.override = some program)
    (wired : ∀ texture ∈ program.descriptor.textures,
      program.wiredFramebuffer backend.framebuffers texture = .ok (framebuffer texture))
    (target : RenderTarget) :
    (pass.drawOverridden target backend).1 = GpuStep.outcome pass.work ∧
      (pass.begun target backend).map Prod.fst = GpuStep.reached pass.work ∧
      ∀ submission ∈ pass.begun target backend,
        submission.1.SamplesThrough submission.2 program framebuffer := by
  have installed : pass.installed backend = { backend with override := some program } := by
    rw [installed_eq, own]
    rfl
  have goesOn : (pass.installed backend).frame = some frame := by
    rw [installed]
    exact recording
  have succeeded := pass.clears_of_recording target goesOn
  have amid := (GpuBackend.Paints.clears pass target _ (GpuBackend.amid_of_recording goesOn)).1
  rw [fst_drawOverridden, clearAndDraw_eq_clears, Action.bind_apply, each_submit]
  unfold begun
  cases ran : pass.clears target (pass.installed backend) with
  | mk outcome cleared =>
      rw [ran] at succeeded amid
      cases succeeded
      have override : (pass.installed backend).override = some program := by rw [installed]
      have held : (pass.installed backend).framebuffers = backend.framebuffers := by rw [installed]
      exact GpuStep.samplesThrough_of_wired amid override (held ▸ wired) pass.work

end ShaderFlow

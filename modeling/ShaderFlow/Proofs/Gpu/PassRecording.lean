/-
Module: ShaderFlow.Proofs.Gpu.PassRecording
Purpose: How the renderer records passes into the encoder of the frame, and submits and presents it.
Main exports: GpuEvent.Quiet, GpuBackend.Records, GpuAction.Silent, GpuBackend.clearPass,
  GpuBackend.drawnPass, GpuBackend.debugPass, GpuBackend.clear_of_recording,
  GpuBackend.renderPass_cases, GpuSubmission.submit_cases, Pass.work, GpuBackend.records_endFrame,
  GpuBackend.beginFrame_of_ok
-/
import ShaderFlow.Proofs.Gpu.PassListing

namespace ShaderFlow

/-!
Whatever the renderer does is put together from five kinds of steps: it lists quiet calls, begins a
frame, records one pass into the encoder of the frame, swaps that encoder for a fresh one, or finishes
the frame.  The first encoder of a frame and those swapped in have numbers that were free.
-/

/-- A call that belongs to no pass and neither submits nor presents. -/
def GpuEvent.Quiet : GpuEvent → Prop
  | .submit _ | .present | .beginPass .. | .endPass => False
  | event => event.inPass = false

theorem GpuEvent.Quiet.between {event : GpuEvent} (quiet : event.Quiet) : event.Between := by
  cases event with
  | submit | present | beginPass | endPass => exact quiet.elim
  | _ => exact quiet

theorem GpuEvent.SetsUp.quiet {event : GpuEvent} {count : Nat} (setsUp : event.SetsUp count) :
    event.Quiet := by
  cases event <;> first | exact setsUp.elim | rfl

/-- What the renderer does between two states: the passes that it records, and how many frames it
presents. -/
inductive GpuBackend.Records : GpuBackend → GpuBackend → List ListedPass → Nat → Prop where
  | quiet {backend next : GpuBackend} {events : List GpuEvent} (frame : next.frame = backend.frame)
      (advance : backend.device.Advances next.device events) (quiet : ∀ event ∈ events, event.Quiet) :
      Records backend next [] 0
  | begins {backend next : GpuBackend} {frame : GpuFrame} {events : List GpuEvent}
      (idle : backend.frame = none) (recording : next.frame = some frame)
      (gives : backend.device.Gives next.device frame.encoder)
      (advance : backend.device.Advances next.device events) (quiet : ∀ event ∈ events, event.Quiet) :
      Records backend next [] 0
  | pass {backend next : GpuBackend} {frame : GpuFrame} {pass : ListedPass}
      (recording : backend.frame = some frame) (kept : next.frame = some frame)
      (into : pass.encoder = frame.encoder) (proper : pass.Proper)
      (advance : backend.device.Advances next.device pass.events) : Records backend next [pass] 0
  | swap {backend next : GpuBackend} {frame : GpuFrame} {encoder : Handle .encoder}
      (recording : backend.frame = some frame) (goesOn : next.frame = some { frame with encoder })
      (gives : backend.device.Gives next.device encoder)
      (advance : backend.device.Advances next.device
        [.createEncoder encoder, .submit [frame.encoder]]) : Records backend next [] 0
  | finish {backend next : GpuBackend} {frame : GpuFrame} (recording : backend.frame = some frame)
      (idle : next.frame = none)
      (advance : backend.device.Advances next.device [.submit [frame.encoder], .present]) :
      Records backend next [] 1
  | trans {backend middle next : GpuBackend} {passes more : List ListedPass} {presents later : Nat}
      (first : Records backend middle passes presents) (second : Records middle next more later) :
      Records backend next (passes ++ more) (presents + later)

namespace GpuBackend.Records

variable {backend middle next : GpuBackend} {passes : List ListedPass} {presents : Nat}

theorem refl (backend : GpuBackend) : Records backend backend [] 0 := .quiet rfl (.refl _) (by simp)

/-- Steps that record nothing may stand in front. -/
theorem after (first : Records backend middle [] 0) (second : Records middle next passes presents) :
    Records backend next passes presents := by
  simpa using first.trans second

/-- Steps that record nothing may stand behind. -/
theorem before (first : Records backend middle passes presents) (second : Records middle next [] 0) :
    Records backend next passes presents := by
  simpa using first.trans second

theorem advances (records : Records backend next passes presents) :
    ∃ events, backend.device.Advances next.device events := by
  induction records with
  | quiet _ advance | begins _ _ _ advance | pass _ _ _ _ advance | swap _ _ _ advance
  | finish _ _ advance => exact ⟨_, advance⟩
  | trans _ _ first second =>
      obtain ⟨events, here⟩ := first
      obtain ⟨others, there⟩ := second
      exact ⟨events ++ others, here.trans there⟩

/-- Whatever the renderer does, the passes that it records are those of the calls that it lists. -/
theorem bracketed (records : Records backend next passes presents) :
    ∃ events, backend.device.Advances next.device events ∧ Bracketed events passes := by
  induction records with
  | quiet _ advance quiet | begins _ _ _ advance quiet =>
      exact ⟨_, advance, .of_between fun event member => (quiet event member).between⟩
  | pass _ _ _ proper advance => exact ⟨_, advance, .of_pass proper⟩
  | swap _ _ _ advance | finish _ _ advance =>
      refine ⟨_, advance, .of_between fun event member => ?_⟩
      simp only [List.mem_cons, List.not_mem_nil, or_false] at member
      rcases member with rfl | rfl <;> rfl
  | trans _ _ first second =>
      obtain ⟨events, here, bracketed⟩ := first
      obtain ⟨others, there, more⟩ := second
      exact ⟨events ++ others, here.trans there, bracketed.append more⟩

end GpuBackend.Records

/-! ### Actions that record nothing -/

namespace GpuAction

variable {α β : Type}

/-- An action that records no pass and presents no frame, whether it fails or not. -/
def Silent (action : GpuAction α) : Prop :=
  ∀ backend, GpuBackend.Records backend (action backend).2 [] 0

theorem silent_pure (value : α) : Silent (pure value : GpuAction α) := fun backend => .refl backend

theorem silent_throw (error : GpuError) : Silent (throw error : GpuAction α) := fun backend =>
  .refl backend

theorem silent_get : Silent (get : GpuAction GpuBackend) := fun backend => .refl backend

theorem Silent.bind {first : GpuAction α} {next : α → GpuAction β} (silent : Silent first)
    (silentNext : ∀ value, Silent (next value)) : Silent (first >>= next) := by
  intro backend
  have here := silent backend
  rw [Action.bind_apply]
  cases ran : first backend with
  | mk outcome middle =>
      rw [ran] at here
      cases outcome with
      | error error => exact here
      | ok value => exact here.after (silentNext value middle)

theorem silent_onDevice {step : DeviceM α} (setsUp : DeviceM.SetsUp step) :
    Silent (GpuBackend.onDevice step) := by
  intro backend
  obtain ⟨events, advance, each⟩ := setsUp backend.device
  exact .quiet rfl advance fun event member => (each event member).quiet

theorem silent_acquireSurface : Silent GpuBackend.acquireSurface := by
  refine (silent_onDevice DeviceM.setsUp_acquire).bind fun status => ?_
  split
  · exact silent_pure _
  · split
    · refine silent_get.bind fun backend =>
        Silent.bind (silent_onDevice (DeviceM.setsUp_emit fun _ => ?_)) fun _ =>
          (silent_onDevice DeviceM.setsUp_acquire).bind fun again => ?_
      · trivial
      · split
        · exact silent_pure _
        · exact silent_throw _
    · exact silent_throw _

theorem silent_fitScreenDepth : Silent GpuBackend.fitScreenDepth := by
  refine silent_get.bind fun backend => silent_get.bind fun _ => ?_
  split
  · exact silent_pure _
  · exact (silent_onDevice (DeviceM.setsUp_depthBuffer _ _)).bind fun _ backend =>
      .quiet rfl (.refl _) (by simp)

theorem silent_ensureFramebuffer (descriptor : FramebufferDescriptor) :
    Silent (GpuBackend.ensureFramebuffer descriptor) := by
  refine silent_get.bind fun backend => ?_
  split
  · exact silent_pure _
  · have allocate : Silent (do
        let framebuffer ← GpuBackend.onDevice (GpuFramebuffer.create descriptor)
        modify fun backend =>
          { backend with framebuffers := backend.framebuffers.insert descriptor.name framebuffer }
        return framebuffer : GpuAction GpuFramebuffer) := by
      refine (silent_onDevice (DeviceM.setsUp_framebuffer descriptor)).bind fun framebuffer => ?_
      exact Silent.bind (fun backend => .quiet rfl (.refl _) (by simp)) fun _ => silent_pure _
    dsimp only
    split
    · exact (silent_throw _).bind fun _ => allocate
    · exact allocate

theorem silent_bindTextures (program : GpuProgram) : Silent (GpuBackend.bindTextures program) := by
  refine silent_get.bind fun backend => ?_
  split
  · exact silent_throw _
  · exact silent_onDevice (DeviceM.setsUp_createBindGroup _ _ _)

theorem silent_writeUniforms (program : GpuProgram) (engine : EngineUniform → ShaderValue) :
    Silent (GpuBackend.onDevice (program.writeUniforms engine)) := by
  intro backend
  refine .quiet rfl (DeviceM.lists_writeUniforms program engine backend.device) ?_
  intro event member
  obtain ⟨pair, _, rfl⟩ := List.mem_map.mp member
  rfl

/-- A flush only swaps the encoder. -/
theorem silent_flush : Silent GpuBackend.flush := by
  intro backend
  cases recording : backend.frame with
  | none =>
      unfold GpuBackend.flush
      rw [Action.bind_apply, GpuBackend.currentFrame_apply, recording]
      exact .refl backend
  | some frame =>
      rw [GpuBackend.flush_of_recording recording]
      have created := Device.advances_create backend.device .createEncoder
      have submitted := Device.advances_emit (Device.createEncoder backend.device).2
        (.submit [frame.encoder])
      exact .swap recording rfl ((Device.gives_create backend.device _).to_later submitted)
        (created.trans submitted)

theorem silent_upload (program : GpuProgram) (size : Extent) :
    Silent (GpuBackend.upload program size) :=
  silent_flush.bind fun _ => silent_get.bind fun _ => silent_writeUniforms program _

theorem silent_prepareOverride (size : Extent) : Silent (GpuBackend.prepareOverride size) := by
  refine silent_get.bind fun backend => ?_
  split
  · exact silent_pure _
  · refine Silent.bind ?_ fun textures => silent_pure _
    rw [GpuBackend.prepareProgram_eq]
    split
    · exact silent_bindTextures _
    · exact (silent_upload _ _).bind fun _ => silent_bindTextures _

end GpuAction

namespace GpuBackend

variable {backend middle next : GpuBackend} {frame : GpuFrame} {label : String}

/-! ### Clears -/

/-- A pass that only clears the bound target. -/
def clearPass (backend : GpuBackend) (frame : GpuFrame) (label : String) (colorLoad : ColorLoad)
    (depthLoad : DepthLoad) : ListedPass where
  encoder := frame.encoder
  label := label
  color := (backend.attachments frame).1
  colorLoad := colorLoad
  depth := (backend.attachments frame).2.map (·, depthLoad)
  body := []

theorem proper_clearPass {colorLoad : ColorLoad} {depthLoad : DepthLoad} :
    (backend.clearPass frame label colorLoad depthLoad).Proper := fun _ => nofun

theorem clear_of_idle {colorLoad : ColorLoad} {depthLoad : DepthLoad} (idle : backend.frame = none) :
    clear label colorLoad depthLoad backend = (.error .noFrame, backend) := by
  unfold clear
  rw [Action.bind_apply, currentFrame_apply, idle]

theorem clear_of_recording (label : String) (colorLoad : ColorLoad) (depthLoad : DepthLoad)
    (recording : backend.frame = some frame) :
    ∃ later, clear label colorLoad depthLoad backend = (.ok (), { backend with device := later }) ∧
      backend.device.Advances later (backend.clearPass frame label colorLoad depthLoad).events := by
  have lists := (DeviceM.lists_emit (.beginPass frame.encoder label (backend.attachments frame).1
    colorLoad ((backend.attachments frame).2.map (·, depthLoad)))).bind fun _ =>
      DeviceM.lists_emit .endPass
  refine ⟨_, ?_, lists backend.device⟩
  unfold clear
  rw [Action.bind_apply, currentFrame_of_recording recording]
  rfl

theorem records_clear {colorLoad : ColorLoad} {depthLoad : DepthLoad}
    (recording : backend.frame = some frame) :
    Records backend (clear label colorLoad depthLoad backend).2
      [backend.clearPass frame label colorLoad depthLoad] 0 := by
  obtain ⟨later, ran, advance⟩ := clear_of_recording label colorLoad depthLoad recording
  rw [ran]
  exact .pass recording recording rfl proper_clearPass advance

/-! ### Drawing -/

/-- A pass on the bound target that keeps its contents: the viewport as far as it lies on the target,
the prepared program with the bind group of its textures, and the commands of the caller. -/
def drawnPass (backend : GpuBackend) (frame : GpuFrame) (label : String)
    (prepared : Option (GpuProgram × Handle .bindGroup)) (commands : List GpuEvent) : ListedPass where
  encoder := frame.encoder
  label := label
  color := (backend.attachments frame).1
  colorLoad := .keep
  depth := (backend.attachments frame).2.map (·, .keep)
  body := ((backend.viewport.getD (.full backend.targetSize)).clamp? backend.targetSize).toList.map
      .setViewport ++
    prepared.toList.flatMap (fun applied =>
      [.setPipeline (if (backend.attachments frame).2.isSome
          then applied.1.resources.depthPipeline else applied.1.resources.pipeline),
        .setBindGroup uniformGroup applied.1.resources.uniformGroup,
        .setBindGroup textureGroup applied.2]) ++
    commands

theorem proper_drawnPass {prepared : Option (GpuProgram × Handle .bindGroup)}
    {commands : List GpuEvent} (proper : ∀ event ∈ commands, event.inPass = true) :
    (backend.drawnPass frame label prepared commands).Proper := by
  refine List.forall_mem_append.mpr ⟨List.forall_mem_append.mpr ⟨?_, ?_⟩, proper⟩
  · intro event member
    obtain ⟨_, _, rfl⟩ := List.mem_map.mp member
    rfl
  · intro event member
    obtain ⟨applied, _, listed⟩ := List.mem_flatMap.mp member
    simp only [List.mem_cons, List.not_mem_nil, or_false] at listed
    rcases listed with rfl | rfl | rfl <;> rfl

theorem drawPass_of_prepared (label : String) (recording : backend.frame = some frame)
    {draws : DeviceM Unit} {commands : List GpuEvent} (lists : DeviceM.Lists draws commands)
    (prepared : Option (GpuProgram × Handle .bindGroup)) :
    ∃ later, drawPass label draws backend.targetSize prepared backend =
        (.ok (), { backend with device := later }) ∧
      backend.device.Advances later (backend.drawnPass frame label prepared commands).events := by
  have opening := lists_applyViewport (backend.viewport.getD (.full backend.targetSize))
    backend.targetSize
  have applies : DeviceM.Lists
      (prepared.forM fun applied =>
        applyProgram applied.1 (backend.attachments frame).2.isSome applied.2)
      (prepared.toList.flatMap fun applied =>
        [.setPipeline (if (backend.attachments frame).2.isSome
            then applied.1.resources.depthPipeline else applied.1.resources.pipeline),
          .setBindGroup uniformGroup applied.1.resources.uniformGroup,
          .setBindGroup textureGroup applied.2]) := by
    cases prepared with
    | none => exact fun device => .refl device
    | some applied => simpa using lists_applyProgram applied.1 _ applied.2
  have whole := (DeviceM.lists_emit (.beginPass frame.encoder label (backend.attachments frame).1
    .keep ((backend.attachments frame).2.map (·, .keep)))).bind fun _ => opening.bind fun _ =>
      applies.bind fun _ => lists.bind fun _ => DeviceM.lists_emit .endPass
  have advance := whole backend.device
  rw [← List.append_assoc _ commands, ← List.append_assoc _ (_ ++ commands),
    ← List.append_assoc _ _ commands] at advance
  refine ⟨_, ?_, advance⟩
  unfold drawPass
  rw [Action.bind_apply, currentFrame_of_recording recording]
  rfl

theorem bindTextures_apply (program : GpuProgram) (backend : GpuBackend) :
    ∃ outcome device, bindTextures program backend = (outcome, { backend with device }) ∧
      ∀ error, outcome = .error error →
        program.textureBindings backend.framebuffers = .error error := by
  unfold bindTextures
  rw [get_bind_apply]
  cases program.textureBindings backend.framebuffers with
  | error error =>
      refine ⟨.error error, backend.device, rfl, ?_⟩
      rintro _ ⟨⟩
      rfl
  | ok bindings => exact ⟨_, _, rfl, nofun⟩

/-- In a frame the preparation of a program only fails if its textures cannot be bound. -/
theorem prepareProgram_apply (recording : backend.frame = some frame) (program : GpuProgram)
    (size : Extent) :
    ∃ outcome encoder device, prepareProgram program size backend =
        (outcome, { backend with device, frame := some { frame with encoder } }) ∧
      ∀ error, outcome = .error error →
        program.textureBindings backend.framebuffers = .error error := by
  rw [prepareProgram_eq]
  split
  · obtain ⟨outcome, device, ran, fails⟩ := bindTextures_apply program backend
    exact ⟨outcome, frame.encoder, device, by rw [ran, ← recording], fails⟩
  · obtain ⟨encoder, middle, uploaded, _⟩ := upload_of_recording recording program size
    obtain ⟨outcome, device, ran, fails⟩ := bindTextures_apply program
      { backend with device := middle, frame := some { frame with encoder } }
    refine ⟨outcome, encoder, device, ?_, fails⟩
    rw [Action.bind_apply, uploaded]
    exact ran

/-- What preparing the installed program leaves as it is, and why it can fail. -/
theorem prepareOverride_apply (recording : backend.frame = some frame) (size : Extent) :
    ∃ outcome encoder device, prepareOverride size backend =
        (outcome, { backend with device, frame := some { frame with encoder } }) ∧
      (∀ prepared, outcome = .ok prepared → prepared.map Prod.fst = backend.override) ∧
      ∀ error, outcome = .error error → ∃ program, backend.override = some program ∧
        program.textureBindings backend.framebuffers = .error error := by
  rcases Option.eq_none_or_eq_some backend.override with installed | ⟨program, installed⟩
  · have same : prepareOverride size backend = (.ok none, backend) := by
      unfold prepareOverride
      rw [get_bind_apply, installed]
      rfl
    refine ⟨.ok none, frame.encoder, backend.device, by rw [same, ← recording], ?_, nofun⟩
    rintro _ ⟨⟩
    exact installed.symm
  · obtain ⟨outcome, encoder, device, ran, fails⟩ := prepareProgram_apply recording program size
    rw [prepareOverride_of_installed installed, Action.bind_apply, ran, installed]
    cases outcome with
    | error error =>
        refine ⟨.error error, encoder, device, rfl, nofun, ?_⟩
        rintro _ ⟨⟩
        exact ⟨program, rfl, fails error rfl⟩
    | ok textures =>
        refine ⟨.ok (some (program, textures)), encoder, device, rfl, ?_, nofun⟩
        rintro _ ⟨⟩
        rfl

/-- A pass opens under the program that is installed, on the target that is bound, unless the textures
of that program cannot be bound. -/
theorem renderPass_cases (label : String) (recording : backend.frame = some frame)
    {draws : DeviceM Unit} {commands : List GpuEvent} (lists : DeviceM.Lists draws commands)
    (proper : ∀ event ∈ commands, event.inPass = true) :
    ∃ encoder device,
      (∃ prepared, prepared.map Prod.fst = backend.override ∧
        renderPass label draws backend =
          (.ok (), { backend with device, frame := some { frame with encoder } }) ∧
        Records backend { backend with device, frame := some { frame with encoder } }
          [backend.drawnPass { frame with encoder } label prepared commands] 0) ∨
      ∃ error program, backend.override = some program ∧
        program.textureBindings backend.framebuffers = .error error ∧
        renderPass label draws backend =
          (.error error, { backend with device, frame := some { frame with encoder } }) ∧
        Records backend { backend with device, frame := some { frame with encoder } } [] 0 := by
  have silent := GpuAction.silent_prepareOverride backend.targetSize backend
  obtain ⟨outcome, encoder, middle, prepares, installed, fails⟩ :=
    prepareOverride_apply recording backend.targetSize
  have run : renderPass label draws backend = (prepareOverride backend.targetSize >>=
      fun prepared => drawPass label draws backend.targetSize prepared) backend := by
    rw [renderPass_eq, Action.bind_apply, currentFrame_of_recording recording]
    dsimp only
    rw [get_bind_apply]
  rw [prepares] at silent
  rw [run, Action.bind_apply, prepares]
  cases outcome with
  | error error =>
      obtain ⟨program, override, refused⟩ := fails error rfl
      exact ⟨encoder, middle, .inr ⟨error, program, override, refused, rfl, silent⟩⟩
  | ok prepared =>
      have goesOn : ({ backend with device := middle, frame := some { frame with encoder } } :
          GpuBackend).frame = some { frame with encoder } := rfl
      obtain ⟨later, drawn, advance⟩ := drawPass_of_prepared label goesOn lists prepared
      exact ⟨encoder, later, .inl ⟨prepared, installed prepared rfl, drawn,
        silent.after (.pass rfl rfl rfl (proper_drawnPass proper) advance)⟩⟩

theorem renderPass_of_idle {draws : DeviceM Unit} (idle : backend.frame = none) :
    renderPass label draws backend = (.error .noFrame, backend) := by
  rw [renderPass_eq, Action.bind_apply, currentFrame_apply, idle]

theorem inPass_of_mem_commands {commands : List PassCommand} {event : GpuEvent}
    (member : event ∈ commands.map Subtype.val) : event.inPass = true := by
  obtain ⟨command, _, rfl⟩ := List.mem_map.mp member
  exact command.property

end GpuBackend

/-! ### Draw work -/

namespace GpuSubmission

/-- Label of the pass. -/
def label : GpuSubmission → String
  | quad _ => "Fullscreen Quad"
  | triangle label => label
  | pass label _ => label

/-- What is recorded in the pass. -/
def commands : GpuSubmission → List GpuEvent
  | quad buffers =>
      [.setVertexBuffer 0 buffers.vertexBuffer 0, .setIndexBuffer buffers.indexBuffer 0,
        .drawIndexed ⟨0, FullscreenQuad.indices.length⟩ 0 ⟨0, 1⟩]
  | triangle _ => [.draw ⟨0, 3⟩ ⟨0, 1⟩]
  | pass _ commands => commands.map Subtype.val

/-- Whether the pass has no material of its own. -/
def bare : GpuSubmission → Bool
  | quad _ => true
  | triangle _ | pass .. => false

theorem inPass_of_mem_commands {submission : GpuSubmission} {event : GpuEvent}
    (member : event ∈ submission.commands) : event.inPass = true := by
  cases submission with
  | quad buffers =>
      simp only [commands, List.mem_cons, List.not_mem_nil, or_false] at member
      rcases member with rfl | rfl | rfl <;> rfl
  | triangle label =>
      cases List.mem_singleton.mp member
      rfl
  | pass label commands => exact GpuBackend.inPass_of_mem_commands member

/-- A pass is opened under its label, unless it has no material and no program is installed. -/
theorem submit_cases (submission : GpuSubmission) (backend : GpuBackend) :
    (submission.bare = true ∧ backend.override = none ∧
      submission.submit backend = (.error .noProgram, backend)) ∨
    ∃ draws, DeviceM.Lists draws submission.commands ∧
      submission.submit backend = GpuBackend.renderPass submission.label draws backend := by
  cases submission with
  | quad buffers =>
      rcases Option.eq_none_or_eq_some backend.override with installed | ⟨program, installed⟩
      · refine .inl ⟨rfl, installed, ?_⟩
        show FullscreenQuad.submit buffers backend = _
        rw [FullscreenQuad.submit, GpuBackend.get_bind_apply, installed]
        rfl
      · refine .inr ⟨buffers.draw, ?_, ?_⟩
        · exact (DeviceM.lists_emit _).bind fun _ => (DeviceM.lists_emit _).bind fun _ =>
            DeviceM.lists_emit _
        · show FullscreenQuad.submit buffers backend = _
          rw [FullscreenQuad.submit, GpuBackend.get_bind_apply, installed]
          rfl
  | triangle label => exact .inr ⟨_, DeviceM.lists_emit _, rfl⟩
  | pass label commands => exact .inr ⟨_, GpuBackend.lists_record commands, rfl⟩

end GpuSubmission

/-- The submission of a step. -/
def GpuStep.submission? : GpuStep → Option GpuSubmission
  | submit submission => some submission
  | fail _ => none

namespace Pass

/-- The steps of all draw work of a pass, in order. -/
def work (pass : Pass GpuProgram GpuSource) : List GpuStep := pass.sources.flatMap GpuSource.steps

/-- The submissions among them. -/
def submissions (pass : Pass GpuProgram GpuSource) : List GpuSubmission :=
  pass.work.filterMap GpuStep.submission?

theorem each_submit (pass : Pass GpuProgram GpuSource) :
    Action.each (Renderer.submit (σ := GpuBackend)) pass.sources =
      Action.each GpuStep.take pass.work :=
  Action.each_flatMap GpuStep.take GpuSource.steps pass.sources

/-- Without failures, draw work only submits. -/
theorem work_eq_map_submissions {pass : Pass GpuProgram GpuSource}
    (unfailing : ∀ error, .fail error ∉ pass.work) : pass.work = pass.submissions.map .submit := by
  unfold submissions
  generalize pass.work = work at unfailing ⊢
  induction work with
  | nil => rfl
  | cons step rest ih =>
      have others := ih fun error listed => unfailing error (.tail _ listed)
      cases step with
      | submit submission => exact congrArg (.submit submission :: ·) others
      | fail error => exact absurd List.mem_cons_self (unfailing error)

end Pass

namespace GpuBackend

variable {backend : GpuBackend} {frame : GpuFrame}

/-! ### The debug view -/

/-- The creation of the bind group through which the color of a framebuffer is copied. -/
def blitGroup (blitter : Blitter) (group : Handle .bindGroup) (framebuffer : GpuFramebuffer) :
    GpuEvent :=
  .createBindGroup group "Blit Bind Group" blitter.layout
    [⟨0, .view framebuffer.colorView⟩, ⟨1, .sampler blitter.sampler⟩]

/-- The pass that copies framebuffers, by their bind groups, into rectangles of the surface. -/
def debugPass (blitter : Blitter) (frame : GpuFrame) (surface : Extent)
    (copies : List (Handle .bindGroup × Viewport)) : ListedPass where
  encoder := frame.encoder
  label := "Debug View"
  color := frame.view
  colorLoad := .keep
  depth := none
  body := copies.flatMap fun copy => (copy.2.clamp? surface).toList.flatMap fun visible =>
    [.setViewport visible, .setPipeline blitter.pipeline, .setBindGroup 0 copy.1,
      .draw ⟨0, 3⟩ ⟨0, 1⟩]

theorem proper_debugPass {blitter : Blitter} {surface : Extent}
    {copies : List (Handle .bindGroup × Viewport)} :
    (debugPass blitter frame surface copies).Proper := by
  intro event member
  obtain ⟨copy, _, drawn⟩ := List.mem_flatMap.mp member
  obtain ⟨visible, _, listed⟩ := List.mem_flatMap.mp drawn
  simp only [List.mem_cons, List.not_mem_nil, or_false] at listed
  rcases listed with rfl | rfl | rfl | rfl <;> rfl

theorem lists_blitter_draw (blitter : Blitter) (group : Handle .bindGroup) (viewport : Viewport) :
    DeviceM.Lists (blitter.draw group viewport)
      [.setViewport viewport, .setPipeline blitter.pipeline, .setBindGroup 0 group,
        .draw ⟨0, 3⟩ ⟨0, 1⟩] :=
  (DeviceM.lists_emit _).bind fun _ => (DeviceM.lists_emit _).bind fun _ =>
    (DeviceM.lists_emit _).bind fun _ => DeviceM.lists_emit _

/-- One bind group is created for each rectangle, in order. -/
theorem blitGroups (blitter : Blitter) (blits : List (GpuFramebuffer × Viewport)) (device : Device) :
    ∃ copies later, blits.mapM (m := DeviceM) (fun (framebuffer, viewport) => do
        let group ← blitter.bindGroup framebuffer.colorView
        return (group, viewport)) device = (copies, later) ∧
      copies.map Prod.snd = blits.map Prod.snd ∧
      device.Advances later
        (List.zipWith (fun copy blit => blitGroup blitter copy.1 blit.1) copies blits) := by
  induction blits generalizing device with
  | nil => exact ⟨[], device, rfl, rfl, .refl device⟩
  | cons blit rest ih =>
      have created := Device.advances_create device fun group =>
        blitGroup blitter group blit.1
      obtain ⟨copies, later, ran, viewports, advance⟩ :=
        ih (blitter.bindGroup blit.1.colorView device).2
      refine ⟨((blitter.bindGroup blit.1.colorView device).1, blit.2) :: copies, later, ?_, ?_,
        created.trans advance⟩
      · rw [List.mapM_cons]
        exact congrArg (fun run =>
          (((blitter.bindGroup blit.1.colorView device).1, blit.2) :: run.1, run.2)) ran
      · rw [List.map_cons, List.map_cons, viewports]

theorem drawBlits_nil (blitter : Blitter) (surface : Extent) (device : Device) :
    drawBlits blitter frame surface [] device = ((), device) := rfl

/-- Pending rectangles are drawn in one pass, behind the creation of their bind groups. -/
theorem drawBlits_of_pending (blitter : Blitter) (frame : GpuFrame) (surface : Extent)
    {blits : List (GpuFramebuffer × Viewport)} (pending : blits ≠ []) (device : Device) :
    ∃ copies middle, copies.map Prod.snd = blits.map Prod.snd ∧
      device.Advances middle
        (List.zipWith (fun copy blit => blitGroup blitter copy.1 blit.1) copies blits) ∧
      middle.Advances (drawBlits blitter frame surface blits device).2
        (debugPass blitter frame surface copies).events := by
  obtain ⟨copies, middle, ran, viewports, advance⟩ := blitGroups blitter blits device
  refine ⟨copies, middle, viewports, advance, ?_⟩
  have copied : DeviceM.Lists
      (copies.forM fun copy => (copy.2.clamp? surface).forM (blitter.draw copy.1))
      (debugPass blitter frame surface copies).body := by
    refine DeviceM.lists_forM_flatMap fun copy => ?_
    cases copy.2.clamp? surface with
    | none => exact fun device => .refl device
    | some visible => simpa using lists_blitter_draw blitter copy.1 visible
  have whole := (DeviceM.lists_emit (.beginPass frame.encoder "Debug View" frame.view .keep
    none)).bind fun _ => copied.bind fun _ => DeviceM.lists_emit .endPass
  have drawn : drawBlits blitter frame surface blits device = (do
      Device.emit (.beginPass frame.encoder "Debug View" frame.view .keep none)
      copies.forM fun copy => (copy.2.clamp? surface).forM (blitter.draw copy.1)
      Device.emit .endPass : DeviceM Unit) middle := by
    unfold drawBlits
    rw [if_neg (by simpa using pending), DeviceM.bind_apply, ran]
  rw [drawn]
  exact whole middle

/-! ### The end of a frame -/

theorem endFrame_of_idle (idle : backend.frame = none) :
    endFrame backend = (.error .noFrame, backend) := by
  unfold endFrame
  rw [Action.bind_apply, currentFrame_apply, idle]

/-- The end of a frame records the debug view, if anything waits for it, submits and presents. -/
theorem endFrame_of_recording (recording : backend.frame = some frame) :
    ∃ later, endFrame backend =
        (.ok (), { backend with device := later, frame := none, pendingBlits := [] }) ∧
      (drawBlits backend.blitter frame backend.surfaceSize backend.pendingBlits
        backend.device).2.Advances later [.submit [frame.encoder], .present] := by
  refine ⟨_, ?_, (Device.advances_emit _ (.submit [frame.encoder])).trans
    (Device.advances_emit _ .present)⟩
  unfold endFrame
  rw [Action.bind_apply, currentFrame_of_recording recording]
  rfl

theorem records_endFrame (recording : backend.frame = some frame) :
    ∃ passes, Records backend (endFrame backend).2 passes 1 ∧
      (backend.pendingBlits = [] ∧ passes = [] ∨
        backend.pendingBlits ≠ [] ∧ ∃ copies,
          copies.map Prod.snd = backend.pendingBlits.map Prod.snd ∧
          passes = [debugPass backend.blitter frame backend.surfaceSize copies]) := by
  obtain ⟨later, ran, finished⟩ := endFrame_of_recording recording
  rw [ran]
  by_cases pending : backend.pendingBlits = []
  · rw [pending, drawBlits_nil] at finished
    exact ⟨[], .finish recording rfl finished, .inl ⟨pending, rfl⟩⟩
  · obtain ⟨copies, middle, viewports, created, drawn⟩ := drawBlits_of_pending
      backend.blitter frame backend.surfaceSize pending backend.device
    have prepares : Records backend { backend with device := middle } [] 0 := by
      refine .quiet rfl created fun event member => ?_
      obtain ⟨place, _, rfl⟩ := List.mem_iff_getElem.mp member
      rw [List.getElem_zipWith]
      rfl
    have copies_drawn : Records { backend with device := middle }
        { backend with device := (drawBlits backend.blitter frame backend.surfaceSize
            backend.pendingBlits backend.device).2 }
        [debugPass backend.blitter frame backend.surfaceSize copies] 0 :=
      .pass recording recording rfl proper_debugPass drawn
    exact ⟨_, (prepares.after copies_drawn).trans (.finish recording rfl finished),
      .inr ⟨pending, copies, viewports, rfl⟩⟩

/-! ### The beginning of a frame -/

theorem onDevice_bind_apply {α β : Type} (step : DeviceM α) (action : α → GpuAction β)
    (backend : GpuBackend) : (onDevice step >>= action) backend =
      action (step backend.device).1 { backend with device := (step backend.device).2 } := rfl

/-- Acquiring from the surface only concerns the device, whether it succeeds or not. -/
theorem acquireSurface_device (backend : GpuBackend) :
    ∃ device, (acquireSurface backend).2 = { backend with device } := by
  unfold acquireSurface
  rw [onDevice_bind_apply]
  split
  · exact ⟨_, rfl⟩
  · split
    · rw [get_bind_apply, onDevice_bind_apply, onDevice_bind_apply]
      split <;> exact ⟨_, rfl⟩
    · exact ⟨_, rfl⟩

/-- The renderer with a new frame: nothing is bound, restricted, installed or pending. -/
def begun (backend : GpuBackend) (frame : GpuFrame) (screenDepth : DepthBuffer) (device : Device) :
    GpuBackend :=
  { backend with
    device, screenDepth, frame := some frame, target := .screen, viewport := none, override := none
    pendingBlits := [] }

/-- Fitting the depth buffer of the screen always succeeds. -/
theorem fitScreenDepth_ok (backend : GpuBackend) :
    ∃ screenDepth device,
      fitScreenDepth backend = (.ok (), { backend with screenDepth, device }) := by
  unfold fitScreenDepth
  rw [get_bind_apply, get_bind_apply]
  split
  · exact ⟨_, _, rfl⟩
  · exact ⟨_, _, rfl⟩

theorem beginFrame_of_recording (recording : backend.frame = some frame) :
    beginFrame backend = (.error .frameInProgress, backend) := by
  unfold beginFrame
  rw [get_bind_apply, recording]
  rfl

/-- What the beginning of a frame does if none is in progress. -/
def openFrame : GpuAction Unit := do
  acquireSurface
  let view ← onDevice (Device.createView .surface)
  fitScreenDepth
  let encoder ← onDevice Device.createEncoder
  modify fun backend =>
    { backend with
      frame := some { view, encoder }, target := .screen, viewport := none, override := none,
      pendingBlits := [] }

theorem beginFrame_eq_openFrame (idle : backend.frame = none) :
    beginFrame backend = openFrame backend := by
  unfold beginFrame
  rw [get_bind_apply, idle]
  rfl

/-- A frame begins with nothing bound, installed or pending, or the surface refuses it. -/
theorem beginFrame_of_idle (idle : backend.frame = none) :
    (∃ error device, beginFrame backend = (.error error, { backend with device }) ∧
      Records backend { backend with device } [] 0) ∨
    ∃ frame screenDepth device, beginFrame backend = (.ok (), backend.begun frame screenDepth device) ∧
      backend.device.Gives device frame.encoder ∧
      Records backend (backend.begun frame screenDepth device) [] 0 := by
  have acquires := GpuAction.silent_acquireSurface backend
  obtain ⟨device, same⟩ := acquireSurface_device backend
  rw [beginFrame_eq_openFrame idle, openFrame, Action.bind_apply]
  cases acquired : acquireSurface backend with
  | mk outcome middle =>
      rw [acquired] at acquires same
      cases same
      cases outcome with
      | error error => exact .inl ⟨error, device, rfl, acquires⟩
      | ok _ =>
          refine .inr ?_
          dsimp only
          rw [onDevice_bind_apply, Action.bind_apply]
          have viewed := GpuAction.silent_onDevice (DeviceM.setsUp_createView .surface)
            { backend with device }
          have fitted := GpuAction.silent_fitScreenDepth
            { backend with device := (Device.createView .surface device).2 }
          obtain ⟨screenDepth, later, ran⟩ := fitScreenDepth_ok
            { backend with device := (Device.createView .surface device).2 }
          rw [ran] at fitted ⊢
          have prepared := acquires.after (viewed.after fitted)
          obtain ⟨_, advance⟩ := prepared.advances
          refine ⟨_, screenDepth, _, rfl, (Device.gives_create later _).of_earlier advance,
            prepared.after ?_⟩
          exact .begins idle rfl (Device.gives_create later _) (Device.advances_create later _)
            (List.forall_mem_singleton.mpr rfl)

/-- A frame that begins was not in progress before. -/
theorem beginFrame_of_ok (begun : (beginFrame backend).1 = .ok ()) :
    ∃ frame screenDepth device, beginFrame backend = (.ok (), backend.begun frame screenDepth device) ∧
      backend.device.Gives device frame.encoder ∧
      Records backend (backend.begun frame screenDepth device) [] 0 := by
  cases recording : backend.frame with
  | some frame =>
      rw [beginFrame_of_recording recording] at begun
      cases begun
  | none =>
      rcases beginFrame_of_idle recording with ⟨error, _, failed, _⟩ | begins
      · rw [failed] at begun
        cases begun
      · exact begins

end GpuBackend

end ShaderFlow

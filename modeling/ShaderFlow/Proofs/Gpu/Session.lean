/-
Module: ShaderFlow.Proofs.Gpu.Session
Purpose: Sequences of calls of the GPU renderer, and what one call can do.
Main exports: GpuCall, GpuSession.perform, GpuSession.Reachable, GpuBackend.Moves, GpuSession.Step,
  GpuSession.step_perform
-/
import ShaderFlow.Proofs.Gpu.DeviceLog

namespace ShaderFlow

/-!
A session is a renderer together with the handles that its caller has been given so far; a call names
handles by their place among these.  Whatever a call does, the frame moves in one of four ways: it
stays as it is under calm calls, it begins, it ends with a submission, or it goes on in a fresh encoder
after a submission with the uniforms of the installed program written behind it.
-/

/-! ### Calls -/

/-- A call of the renderer or of one of its programs.  The last two are up to the world: what the
surface and the shader compiler are going to answer. -/
inductive GpuCall where
  | createProgram (label : String) (descriptor : ProgramDescriptor) (layout : VertexLayout)
  | cloneProgram (program : Nat)
  | setUniform (program : Nat) (name : String) (value : ShaderValue)
  | wire (program : Nat) (slot framebuffer : String)
  | setOverride (program : Option Nat)
  | setEngineUniform (quantity : EngineUniform) (value : ShaderValue)
  | resize (size : Extent)
  | beginFrame
  | endFrame
  | bindScreen
  | bindFramebuffer (framebuffer : Nat)
  | setViewport (viewport : Viewport)
  | coverTarget
  | setClearColor (color : Color)
  | clearColor
  | clearDepth
  | ensureFramebuffer (descriptor : FramebufferDescriptor)
  | renderFramebuffer (framebuffer : Nat) (viewport : Viewport)
  | renderPass (label : String) (commands : List PassCommand)
  | createQuad
  | surfaceAnswers (answers : List SurfaceStatus)
  | shaderFailure (message : Option String)

/-- A renderer and the handles given out by it. -/
structure GpuSession where
  backend : GpuBackend
  programs : List GpuProgram := []
  framebuffers : List GpuFramebuffer := []

namespace GpuSession

/-- A new renderer on a new device. -/
def new (surfaceSize : Extent) (limit : Nat) : GpuSession :=
  { backend := .create surfaceSize limit {} }

/-- Take a step of the renderer and keep the handle that it gives, if it succeeds. -/
def act {α : Type} (session : GpuSession) (action : GpuAction α) (keep : α → GpuSession → GpuSession) :
    Except GpuError Unit × GpuSession :=
  match action session.backend with
  | (.ok value, backend) => (.ok (), keep value { session with backend })
  | (.error error, backend) => (.error error, { session with backend })

theorem snd_act {α : Type} {session : GpuSession} {action : GpuAction α}
    {keep : α → GpuSession → GpuSession}
    (keeps : ∀ value later, (keep value later).backend = later.backend) :
    (session.act action keep).2.backend = (action session.backend).2 := by
  unfold act
  cases ran : action session.backend with
  | mk outcome backend =>
      cases outcome with
      | error error => rfl
      | ok value => exact keeps value _

theorem fst_act {session : GpuSession} {action : GpuAction Unit}
    {keep : Unit → GpuSession → GpuSession} :
    (session.act action keep).1 = (action session.backend).1 := by
  unfold act
  cases ran : action session.backend with
  | mk outcome backend => cases outcome <;> rfl

/-- Change the renderer. -/
def change (session : GpuSession) (f : GpuBackend → GpuBackend) : Except GpuError Unit × GpuSession :=
  (.ok (), { session with backend := f session.backend })

/-- Change the device. -/
def changeDevice (session : GpuSession) (f : Device → Device) : Except GpuError Unit × GpuSession :=
  session.change fun backend => { backend with device := f backend.device }

/-- Set a uniform of a program. -/
def setUniform (session : GpuSession) (index : Nat) (name : String) (value : ShaderValue) :
    Except GpuError Unit × GpuSession :=
  match session.programs[index]? with
  | none => (.ok (), session)
  | some program =>
      match program.setUniform name value with
      | .ok changed => (.ok (), { session with programs := session.programs.set index changed })
      | .error error => (.error error, session)

/-- Make use of a framebuffer. -/
def onFramebuffer (session : GpuSession) (index : Nat)
    (call : GpuFramebuffer → Except GpuError Unit × GpuSession) : Except GpuError Unit × GpuSession :=
  match session.framebuffers[index]? with
  | none => (.ok (), session)
  | some framebuffer => call framebuffer

/-- Perform a call.  One that names no handle given out does nothing. -/
def perform (session : GpuSession) : GpuCall → Except GpuError Unit × GpuSession
  | .createProgram label descriptor layout =>
      session.act (GpuBackend.createProgram label descriptor layout) fun program later =>
        { later with programs := later.programs ++ [program] }
  | .cloneProgram index =>
      (.ok (), { session with programs := session.programs ++ session.programs[index]?.toList })
  | .setUniform index name value => session.setUniform index name value
  | .wire index slot framebuffer =>
      (.ok (), { session with
        programs := session.programs.modify index (GpuProgram.wire slot framebuffer) })
  | .setOverride index =>
      session.change (Renderer.setOverride (index.bind fun index => session.programs[index]?))
  | .setEngineUniform quantity value =>
      session.act (GpuBackend.setEngineUniform quantity value) fun _ later => later
  | .resize size => session.change (·.resize size)
  | .beginFrame => session.act GpuBackend.beginFrame fun _ later => later
  | .endFrame => session.act GpuBackend.endFrame fun _ later => later
  | .bindScreen => session.change GpuBackend.bindScreen
  | .bindFramebuffer index =>
      session.onFramebuffer index fun framebuffer =>
        session.change (GpuBackend.bindFramebuffer framebuffer)
  | .setViewport viewport => session.change (Renderer.setViewport viewport)
  | .coverTarget => session.change Renderer.coverTarget
  | .setClearColor color => session.change (Renderer.setClearColor color)
  | .clearColor => session.act GpuBackend.clearTargetColor fun _ later => later
  | .clearDepth => session.act GpuBackend.clearTargetDepth fun _ later => later
  | .ensureFramebuffer descriptor =>
      session.act (GpuBackend.ensureFramebuffer descriptor) fun framebuffer later =>
        { later with framebuffers := later.framebuffers ++ [framebuffer] }
  | .renderFramebuffer index viewport =>
      session.onFramebuffer index fun framebuffer =>
        session.act (Renderer.renderFramebuffer framebuffer viewport) fun _ later => later
  | .renderPass label commands =>
      session.act (GpuBackend.renderPass label (PassCommand.record commands)) fun _ later => later
  | .createQuad => session.act (GpuBackend.onDevice FullscreenQuad.create) fun _ later => later
  | .surfaceAnswers surfaceAnswers =>
      session.changeDevice fun device => { device with surfaceAnswers }
  | .shaderFailure shaderFailure =>
      session.changeDevice fun device => { device with shaderFailure }

/-- Perform calls one after another, whether they succeed or not. -/
def performAll (session : GpuSession) (calls : List GpuCall) : GpuSession :=
  calls.foldl (fun session call => (session.perform call).2) session

/-- Some calls lead from a new session to this one. -/
def Reachable (session : GpuSession) : Prop :=
  ∃ surfaceSize limit calls, session = (new surfaceSize limit).performAll calls

end GpuSession

/-! ### Calm steps of the renderer -/

namespace GpuBackend

/-- The frame, the programs and the engine uniforms are as before, and the device has listed calm
calls. -/
structure Keeps (backend next : GpuBackend) : Prop where
  frame : next.frame = backend.frame
  programs : next.programs = backend.programs
  override : next.override = backend.override
  engineValues : next.engineValues = backend.engineValues
  device : ∃ events, Device.CalmlyAdvances backend.device next.device events

theorem Keeps.refl (backend : GpuBackend) : backend.Keeps backend :=
  ⟨rfl, rfl, rfl, rfl, [], .refl _⟩

theorem Keeps.trans {backend middle next : GpuBackend} (first : backend.Keeps middle)
    (second : middle.Keeps next) : backend.Keeps next where
  frame := second.frame.trans first.frame
  programs := second.programs.trans first.programs
  override := second.override.trans first.override
  engineValues := second.engineValues.trans first.engineValues
  device := by
    obtain ⟨events, here⟩ := first.device
    obtain ⟨others, there⟩ := second.device
    exact ⟨events ++ others, here.trans there⟩

end GpuBackend

namespace GpuAction

variable {α β : Type}

/-- An action that leaves frame, programs and engine uniforms alone, whether it fails or not. -/
def Calm (action : GpuAction α) : Prop := ∀ backend, GpuBackend.Keeps backend (action backend).2

theorem calm_pure (value : α) : Calm (pure value : GpuAction α) := fun backend => .refl backend

theorem calm_throw (error : GpuError) : Calm (throw error : GpuAction α) := fun backend =>
  .refl backend

theorem calm_get : Calm (get : GpuAction GpuBackend) := fun backend => .refl backend

theorem Calm.bind {first : GpuAction α} {next : α → GpuAction β} (calm : Calm first)
    (calmNext : ∀ value, Calm (next value)) : Calm (first >>= next) := by
  intro backend
  have here := calm backend
  rw [Action.bind_apply]
  cases ran : first backend with
  | mk outcome middle =>
      rw [ran] at here
      cases outcome with
      | error error => exact here
      | ok value => exact here.trans (calmNext value middle)

theorem calm_onDevice {step : DeviceM α} (calm : DeviceM.Calm step) :
    Calm (GpuBackend.onDevice step) := fun backend => ⟨rfl, rfl, rfl, rfl, calm backend.device⟩

theorem calm_modify {f : GpuBackend → GpuBackend}
    (keeps : ∀ backend : GpuBackend, backend.Keeps (f backend)) :
    Calm (modify f : GpuAction Unit) := keeps

theorem calm_currentFrame : Calm GpuBackend.currentFrame := by
  refine calm_get.bind fun backend => ?_
  split
  · exact calm_pure _
  · exact calm_throw _

theorem calm_acquireSurface : Calm GpuBackend.acquireSurface := by
  refine (calm_onDevice DeviceM.setsUp_acquire.calm).bind fun status => ?_
  split
  · exact calm_pure _
  · split
    · refine calm_get.bind fun backend => Calm.bind (calm_onDevice (DeviceM.calm_emit fun _ => ?_))
        fun _ => (calm_onDevice DeviceM.setsUp_acquire.calm).bind fun again => ?_
      · trivial
      · split
        · exact calm_pure _
        · exact calm_throw _
    · exact calm_throw _

theorem calm_fitScreenDepth : Calm GpuBackend.fitScreenDepth := by
  refine calm_get.bind fun backend => calm_get.bind fun _ => ?_
  split
  · exact calm_pure _
  · exact (calm_onDevice (DeviceM.setsUp_depthBuffer _ _).calm).bind fun _ =>
      calm_modify fun backend => ⟨rfl, rfl, rfl, rfl, [], .refl _⟩

theorem calm_clear (label : String) (colorLoad : ColorLoad) (depthLoad : DepthLoad) :
    Calm (GpuBackend.clear label colorLoad depthLoad) := by
  refine calm_currentFrame.bind fun frame => calm_get.bind fun backend => calm_onDevice ?_
  exact (DeviceM.calm_emit fun _ => by trivial).bind fun _ => DeviceM.calm_emit fun _ => by trivial

theorem calm_clearTargetColor : Calm GpuBackend.clearTargetColor :=
  calm_get.bind fun _ => calm_clear _ _ _

theorem calm_clearTargetDepth : Calm GpuBackend.clearTargetDepth := by
  refine calm_get.bind fun backend => ?_
  split
  · exact calm_clear _ _ _
  · exact calm_pure _

theorem calm_ensureFramebuffer (descriptor : FramebufferDescriptor) :
    Calm (GpuBackend.ensureFramebuffer descriptor) := by
  refine calm_get.bind fun backend => ?_
  split
  · exact calm_pure _
  · have allocate : Calm (do
        let framebuffer ← GpuBackend.onDevice (GpuFramebuffer.create descriptor)
        modify fun backend =>
          { backend with framebuffers := backend.framebuffers.insert descriptor.name framebuffer }
        return framebuffer : GpuAction GpuFramebuffer) := by
      refine (calm_onDevice (DeviceM.setsUp_framebuffer descriptor).calm).bind fun framebuffer => ?_
      refine Calm.bind (calm_modify fun backend => ?_) fun _ => calm_pure _
      exact ⟨rfl, rfl, rfl, rfl, [], .refl _⟩
    dsimp only
    split
    · exact (calm_throw _).bind fun _ => allocate
    · exact allocate

end GpuAction

/-! ### How a frame moves on -/

/-- Writes of the values of all uniforms of a program. -/
def GpuProgram.uniformWrites (program : GpuProgram) (engine : EngineUniform → ShaderValue) :
    List GpuEvent :=
  (program.descriptor.uniforms.zip program.resources.uniformBuffers).map fun pair =>
    .writeBuffer pair.2 0 (program.boundValue engine pair.1).uniformBytes

theorem DeviceM.lists_writeUniforms (program : GpuProgram) (engine : EngineUniform → ShaderValue) :
    Lists (program.writeUniforms engine) (program.uniformWrites engine) :=
  lists_forM fun _ => lists_emit _

namespace GpuBackend

/-- What one call does to the frame and to the log. -/
inductive Moves (backend next : GpuBackend) : Prop where
  /-- Calm calls; the frame stays, or one begins with a new encoder. -/
  | calm {events : List GpuEvent}
      (frame : next.frame = backend.frame ∨ backend.frame = none ∧
        ∀ frame, next.frame = some frame → backend.device.Gives next.device frame.encoder)
      (advance : backend.device.CalmlyAdvances next.device events)
  /-- The encoder of the frame is submitted, and uniforms of the installed program may be written behind
  it; the frame ends or goes on with a new encoder. -/
  | submitted (before writes after : List GpuEvent) {frame : GpuFrame}
      (recording : backend.frame = some frame)
      (replaced : ∀ frame, next.frame = some frame → backend.device.Gives next.device frame.encoder)
      (advance : backend.device.Advances next.device
        (before ++ .submit [frame.encoder] :: writes ++ after))
      (calmBefore : ∀ event ∈ before, event.Calm (backend.device.counts .buffer))
      (written : writes = [] ∨ ∃ program size, backend.override = some program ∧
        writes = program.uniformWrites (backend.engineValue size))
      (calmAfter : ∀ event ∈ after, event.Calm (backend.device.counts .buffer))

variable {backend middle next : GpuBackend}

theorem Keeps.moves (keeps : backend.Keeps next) : backend.Moves next := by
  obtain ⟨_, advance⟩ := keeps.device
  exact .calm (.inl keeps.frame) advance

theorem Moves.of_keeps (keeps : backend.Keeps middle) (moves : middle.Moves next) :
    backend.Moves next := by
  obtain ⟨events, advance⟩ := keeps.device
  cases moves with
  | calm frame later =>
      refine .calm ?_ (advance.trans later)
      rw [← keeps.frame]
      refine frame.imp_right fun begins => ⟨begins.1, fun frame same => ?_⟩
      exact (begins.2 frame same).of_earlier advance.toAdvances
  | submitted before writes after recording replaced later calmBefore written calmAfter =>
      have counted := advance.counts_le .buffer
      refine .submitted (events ++ before) writes after (keeps.frame ▸ recording)
        (fun frame same => ?_) ?_ ?_ ?_ ?_
      · exact (replaced frame same).of_earlier advance.toAdvances
      · simpa using advance.toAdvances.trans later
      · intro event member
        rcases List.mem_append.mp member with first | second
        · exact advance.calm event first
        · exact (calmBefore event second).mono counted
      · refine written.imp_right fun ⟨program, size, installed, eq⟩ => ⟨program, size, ?_, ?_⟩
        · rw [← keeps.override, installed]
        · rw [eq]
          unfold engineValue
          rw [keeps.engineValues]
      · exact fun event member => (calmAfter event member).mono counted

theorem Moves.trans_keeps (moves : backend.Moves middle) (keeps : middle.Keeps next) :
    backend.Moves next := by
  obtain ⟨events, advance⟩ := keeps.device
  cases moves with
  | calm frame first =>
      refine .calm ?_ (first.trans advance)
      rw [keeps.frame]
      refine frame.imp_right fun begins => ⟨begins.1, fun frame same => ?_⟩
      exact (begins.2 frame same).to_later advance.toAdvances
  | submitted before writes after recording replaced first calmBefore written calmAfter =>
      refine .submitted before writes (after ++ events) recording (fun frame same => ?_) ?_
        calmBefore written ?_
      · rw [keeps.frame] at same
        exact (replaced frame same).to_later advance.toAdvances
      · simpa using first.trans advance.toAdvances
      · intro event member
        rcases List.mem_append.mp member with earlier | later
        · exact calmAfter event earlier
        · exact (advance.calm event later).mono (first.counts_le .buffer)

/-- The frame moves and the device goes on; programs and engine uniforms stay, and nothing is
installed that was not before. -/
structure Proceeds (backend next : GpuBackend) : Prop where
  moves : backend.Moves next
  programs : next.programs = backend.programs
  engineValues : next.engineValues = backend.engineValues
  override : next.override = backend.override ∨ next.override = none

theorem Keeps.proceeds (keeps : backend.Keeps next) : backend.Proceeds next :=
  ⟨keeps.moves, keeps.programs, keeps.engineValues, .inl keeps.override⟩

/-- A calm action in front of one that moves the frame. -/
theorem proceeds_bind {α β : Type} {first : GpuAction α} {action : α → GpuAction β}
    (calm : GpuAction.Calm first)
    (proceeds : ∀ value middle, first backend = (.ok value, middle) → backend.Keeps middle →
      middle.Proceeds (action value middle).2) :
    backend.Proceeds ((first >>= action) backend).2 := by
  have keeps := calm backend
  rw [Action.bind_apply]
  cases ran : first backend with
  | mk outcome middle =>
      rw [ran] at keeps
      cases outcome with
      | error error => exact keeps.proceeds
      | ok value =>
          have later := proceeds value middle ran keeps
          exact ⟨later.moves.of_keeps keeps, later.programs.trans keeps.programs,
            later.engineValues.trans keeps.engineValues, keeps.override ▸ later.override⟩

/-- A calm action behind one that moves the frame. -/
theorem proceeds_bind_calm {α β : Type} {first : GpuAction α} {action : α → GpuAction β}
    (proceeds : backend.Proceeds (first backend).2)
    (calm : ∀ value, GpuAction.Calm (action value)) :
    backend.Proceeds ((first >>= action) backend).2 := by
  rw [Action.bind_apply]
  cases ran : first backend with
  | mk outcome middle =>
      rw [ran] at proceeds
      cases outcome with
      | error error => exact proceeds
      | ok value =>
          have keeps := calm value middle
          exact ⟨proceeds.moves.trans_keeps keeps, keeps.programs.trans proceeds.programs,
            keeps.engineValues.trans proceeds.engineValues, keeps.override ▸ proceeds.override⟩

theorem proceeds_beginFrame (backend : GpuBackend) : backend.Proceeds (beginFrame backend).2 := by
  refine proceeds_bind GpuAction.calm_get fun read middle got _ => ?_
  cases got
  split
  · exact proceeds_bind (GpuAction.calm_throw _) fun _ _ thrown => nomatch thrown
  · next idle =>
      -- The surface and the depth buffer may be renewed on the way, which leaves the frame alone.
      refine proceeds_bind GpuAction.calm_acquireSurface fun _ first _ acquired => ?_
      refine proceeds_bind (GpuAction.calm_onDevice (DeviceM.setsUp_createView _).calm)
        fun view second _ viewed => ?_
      refine proceeds_bind GpuAction.calm_fitScreenDepth fun _ third _ fitted => ?_
      have none_before : third.frame = none := by
        rw [fitted.frame, viewed.frame, acquired.frame]
        simpa using idle
      obtain ⟨events, advance⟩ := DeviceM.setsUp_createEncoder.calm third.device
      refine ⟨.calm (.inr ⟨none_before, ?_⟩) advance, rfl, rfl, .inr rfl⟩
      rintro frame ⟨⟩
      exact Device.gives_create _ _

theorem currentFrame_apply (backend : GpuBackend) :
    currentFrame backend = match backend.frame with
      | some frame => (.ok frame, backend)
      | none => (.error .noFrame, backend) := by
  show (match backend.frame with | some frame => _ | none => _ : GpuAction GpuFrame) backend = _
  cases backend.frame <;> rfl

theorem currentFrame_of_recording {frame : GpuFrame} (recording : backend.frame = some frame) :
    currentFrame backend = (.ok frame, backend) := by
  rw [currentFrame_apply, recording]

theorem frame_of_currentFrame {frame : GpuFrame} (ran : currentFrame backend = (.ok frame, middle)) :
    backend.frame = some frame ∧ middle = backend := by
  rw [currentFrame_apply] at ran
  cases current : backend.frame with
  | none =>
      rw [current] at ran
      cases ran
  | some frame =>
      rw [current] at ran
      cases ran
      exact ⟨rfl, rfl⟩

theorem proceeds_endFrame (backend : GpuBackend) : backend.Proceeds (endFrame backend).2 := by
  refine proceeds_bind GpuAction.calm_currentFrame fun frame middle current _ => ?_
  obtain ⟨recording, rfl⟩ := frame_of_currentFrame current
  obtain ⟨events, advance⟩ := DeviceM.calm_drawBlits middle.blitter frame middle.surfaceSize
    middle.pendingBlits middle.device
  refine ⟨.submitted events [] [.present] recording ?_ ?_ advance.calm (.inl rfl) ?_, rfl, rfl,
    .inl rfl⟩
  · intro later same
    cases same
  · exact (advance.toAdvances.trans (Device.advances_emit _ _)).trans (Device.advances_emit _ _)
  · intro event member
    rw [List.mem_singleton.mp member]
    trivial

/-! ### Passes -/

/-- Submit everything recorded so far and write the uniforms of a program behind it. -/
def upload (program : GpuProgram) (size : Extent) : GpuAction Unit := do
  flush
  let backend ← get
  onDevice (program.writeUniforms (backend.engineValue size))

/-- Create the bind group of the textures of a program. -/
def bindTextures (program : GpuProgram) : GpuAction (Handle .bindGroup) := do
  match program.textureBindings (← get).framebuffers with
  | .error error => throw error
  | .ok bindings =>
      onDevice (Device.createBindGroup s!"{program.label} textures"
        program.resources.textureLayout bindings)

/-- The calls of a pass with a prepared program. -/
def drawPass (label : String) (draws : DeviceM Unit) (size : Extent)
    (prepared : Option (GpuProgram × Handle .bindGroup)) : GpuAction Unit := do
  let frame ← currentFrame
  let backend ← get
  let (color, depth) := backend.attachments frame
  onDevice do
    Device.emit (.beginPass frame.encoder label color .keep (depth.map (·, .keep)))
    applyViewport (backend.viewport.getD (.full size)) size
    prepared.forM fun (program, textures) => applyProgram program depth.isSome textures
    draws
    Device.emit .endPass

theorem prepareProgram_eq (program : GpuProgram) (size : Extent) :
    prepareProgram program size =
      if program.descriptor.uniforms.isEmpty then bindTextures program
      else upload program size >>= fun _ => bindTextures program := by
  unfold prepareProgram upload
  cases program.descriptor.uniforms.isEmpty with
  | true => rfl
  | false =>
      simp only [bind_assoc]
      rfl

theorem get_bind_apply {α : Type} (next : GpuBackend → GpuAction α) (backend : GpuBackend) :
    ((get : GpuAction GpuBackend) >>= next) backend = next backend backend := rfl

theorem renderPass_eq (label : String) (draws : DeviceM Unit) :
    renderPass label draws = (do
      let _ ← currentFrame
      let backend ← get
      let prepared ← prepareOverride backend.targetSize
      drawPass label draws backend.targetSize prepared) := rfl

theorem calm_bindTextures (program : GpuProgram) : GpuAction.Calm (bindTextures program) := by
  refine GpuAction.calm_get.bind fun backend => ?_
  split
  · exact GpuAction.calm_throw _
  · exact GpuAction.calm_onDevice (DeviceM.setsUp_createBindGroup _ _ _).calm

theorem flush_of_recording {frame : GpuFrame} (recording : backend.frame = some frame) :
    flush backend = (.ok (),
      { backend with
        device := (Device.emit (.submit [frame.encoder])
          (Device.createEncoder backend.device).2).2
        frame := some { frame with encoder := (Device.createEncoder backend.device).1 } }) := by
  unfold flush
  rw [Action.bind_apply, currentFrame_apply, recording]
  rfl

theorem upload_of_recording {frame : GpuFrame} (recording : backend.frame = some frame)
    (program : GpuProgram) (size : Extent) :
    ∃ encoder later, upload program size backend =
        (.ok (), { backend with device := later, frame := some { frame with encoder } }) ∧
      backend.device.Gives later encoder ∧
      backend.device.Advances later (.createEncoder encoder :: .submit [frame.encoder] ::
        program.uniformWrites (backend.engineValue size)) := by
  -- The writes come behind the submission, though the fresh encoder is created in front of it.
  have submitted := Device.advances_emit (Device.createEncoder backend.device).2
    (.submit [frame.encoder])
  have written := DeviceM.lists_writeUniforms program (backend.engineValue size)
    (Device.emit (.submit [frame.encoder]) (Device.createEncoder backend.device).2).2
  refine ⟨(Device.createEncoder backend.device).1, _, ?_, ?_,
    (Device.advances_create _ _).trans (submitted.trans written)⟩
  · unfold upload
    rw [Action.bind_apply, flush_of_recording recording]
    rfl
  · exact (Device.gives_create backend.device _).to_later (submitted.trans written)

theorem upload_of_idle (idle : backend.frame = none) (program : GpuProgram) (size : Extent) :
    upload program size backend = (.error .noFrame, backend) := by
  unfold upload flush
  rw [Action.bind_apply, Action.bind_apply, currentFrame_apply, idle]

theorem proceeds_upload {program : GpuProgram} (installed : backend.override = some program)
    (size : Extent) : backend.Proceeds (upload program size backend).2 := by
  cases recording : backend.frame with
  | none =>
      rw [upload_of_idle recording]
      exact (Keeps.refl backend).proceeds
  | some frame =>
      obtain ⟨encoder, later, ran, gives, advance⟩ := upload_of_recording recording program size
      rw [ran]
      refine ⟨.submitted [.createEncoder encoder] _ [] recording ?_ ?_ ?_
        (.inr ⟨program, size, installed, rfl⟩) ?_, rfl, rfl, .inl rfl⟩
      · rintro frame ⟨⟩
        exact gives
      · simpa using advance
      · intro event member
        rw [List.mem_singleton.mp member]
        trivial
      · exact fun event member => nomatch member

theorem proceeds_prepareOverride (size : Extent) :
    backend.Proceeds (prepareOverride size backend).2 := by
  refine proceeds_bind GpuAction.calm_get fun read middle got _ => ?_
  cases got
  cases installed : backend.override with
  | none => exact (Keeps.refl backend).proceeds
  | some program =>
      refine proceeds_bind_calm ?_ fun textures => GpuAction.calm_pure _
      rw [prepareProgram_eq]
      split
      · exact (calm_bindTextures program backend).proceeds
      · exact proceeds_bind_calm (proceeds_upload installed size) fun _ =>
          calm_bindTextures program

theorem lists_record (commands : List PassCommand) :
    DeviceM.Lists (PassCommand.record commands) (commands.map Subtype.val) :=
  DeviceM.lists_forM fun _ => DeviceM.lists_emit _

theorem calm_of_inPass {event : GpuEvent} (inPass : event.inPass = true) (count : Nat) :
    event.Calm count := by
  cases event <;> trivial

theorem calm_drawPass (label : String) (commands : List PassCommand) (size : Extent)
    (prepared : Option (GpuProgram × Handle .bindGroup)) :
    GpuAction.Calm (drawPass label (PassCommand.record commands) size prepared) := by
  refine GpuAction.calm_currentFrame.bind fun frame => GpuAction.calm_get.bind fun backend =>
    GpuAction.calm_onDevice ?_
  refine (DeviceM.calm_emit fun _ => by trivial).bind fun _ =>
    (DeviceM.calm_applyViewport _ _).bind fun _ => DeviceM.Calm.bind
      (DeviceM.calm_optionForM fun _ => DeviceM.calm_applyProgram _ _ _) fun _ =>
        DeviceM.Calm.bind ?_ fun _ => DeviceM.calm_emit fun _ => by trivial
  refine (lists_record commands).calm fun event member => ?_
  obtain ⟨command, _, rfl⟩ := List.mem_map.mp member
  exact calm_of_inPass command.property

theorem proceeds_renderPass (label : String) (commands : List PassCommand) :
    backend.Proceeds (renderPass label (PassCommand.record commands) backend).2 := by
  rw [renderPass_eq]
  refine proceeds_bind GpuAction.calm_currentFrame fun _ middle _ _ => ?_
  rw [get_bind_apply]
  exact proceeds_bind_calm (proceeds_prepareOverride _) fun prepared => calm_drawPass _ _ _ _

/-- What a pass under a program applies before anything is drawn. -/
def passOpening (backend : GpuBackend) (frame : GpuFrame) (program : GpuProgram)
    (textures : Handle .bindGroup) : List GpuEvent :=
  ((backend.viewport.getD (.full backend.targetSize)).clamp? backend.targetSize).toList.map
      .setViewport ++
    [.setPipeline (if (backend.attachments frame).2.isSome then program.resources.depthPipeline
        else program.resources.pipeline),
      .setBindGroup uniformGroup program.resources.uniformGroup,
      .setBindGroup textureGroup textures]

/-- The calls of a pass under a program; it keeps what its target holds. -/
def passEvents (backend : GpuBackend) (frame : GpuFrame) (label : String) (program : GpuProgram)
    (textures : Handle .bindGroup) (commands : List PassCommand) : List GpuEvent :=
  .beginPass frame.encoder label (backend.attachments frame).1 .keep
      ((backend.attachments frame).2.map (·, .keep)) ::
    (backend.passOpening frame program textures ++ commands.map Subtype.val ++ [.endPass])

theorem bindTextures_ok {program : GpuProgram} {textures : Handle .bindGroup}
    (ran : bindTextures program backend = (.ok textures, next)) :
    ∃ creation later, next = { backend with device := later } ∧
      (∀ count, creation.Calm count) ∧ backend.device.Advances later [creation] := by
  have read : bindTextures program backend = match program.textureBindings backend.framebuffers with
      | .error error => (.error error, backend)
      | .ok bindings => onDevice (Device.createBindGroup s!"{program.label} textures"
          program.resources.textureLayout bindings) backend := by
    show (match program.textureBindings backend.framebuffers with | .error error => _ | .ok _ => _ :
      GpuAction (Handle .bindGroup)) backend = _
    cases program.textureBindings backend.framebuffers <;> rfl
  rw [read] at ran
  cases bound : program.textureBindings backend.framebuffers with
  | error error =>
      rw [bound] at ran
      cases ran
  | ok bindings =>
      have advance := Device.advances_create backend.device fun group =>
        .createBindGroup group s!"{program.label} textures" program.resources.textureLayout bindings
      rw [bound] at ran
      cases ran
      exact ⟨_, _, rfl, fun _ => by trivial, advance⟩

theorem prepareProgram_ok {frame : GpuFrame} {program : GpuProgram} {size : Extent}
    {textures : Handle .bindGroup} (recording : backend.frame = some frame)
    (ran : prepareProgram program size backend = (.ok textures, next)) :
    ∃ encoder creation later,
      next = { backend with device := later, frame := some { frame with encoder } } ∧
      (∀ count, creation.Calm count) ∧
      (program.descriptor.uniforms = [] ∧ encoder = frame.encoder ∧
          backend.device.Advances later [creation] ∨
        backend.device.Gives later encoder ∧
          backend.device.Advances later (.createEncoder encoder :: .submit [frame.encoder] ::
            program.uniformWrites (backend.engineValue size) ++ [creation])) := by
  rw [prepareProgram_eq] at ran
  cases none_declared : program.descriptor.uniforms.isEmpty with
  | true =>
      rw [none_declared, if_pos rfl] at ran
      obtain ⟨creation, later, rfl, calm, advance⟩ := bindTextures_ok ran
      refine ⟨frame.encoder, creation, later, ?_, calm, .inl ⟨?_, rfl, advance⟩⟩
      · rw [← recording]
      · exact List.isEmpty_iff.mp none_declared
  | false =>
      rw [none_declared, if_neg Bool.false_ne_true, Action.bind_apply] at ran
      obtain ⟨encoder, middle, uploaded, gives, written⟩ :=
        upload_of_recording recording program size
      rw [uploaded] at ran
      obtain ⟨creation, later, rfl, calm, advance⟩ := bindTextures_ok ran
      exact ⟨encoder, creation, later, rfl, calm,
        .inr ⟨gives.to_later advance, written.trans advance⟩⟩

theorem mem_passOpening (backend : GpuBackend) (frame : GpuFrame) (program : GpuProgram)
    (textures : Handle .bindGroup) : .setBindGroup uniformGroup program.resources.uniformGroup ∈
      backend.passOpening frame program textures := by
  simp [passOpening]

theorem inPass_of_mem_passOpening {frame : GpuFrame} {program : GpuProgram}
    {textures : Handle .bindGroup} {event : GpuEvent}
    (member : event ∈ backend.passOpening frame program textures) : event.inPass = true := by
  rcases List.mem_append.mp member with restricts | applies
  · obtain ⟨_, _, rfl⟩ := List.mem_map.mp restricts
    rfl
  · simp only [List.mem_cons, List.not_mem_nil, or_false] at applies
    rcases applies with rfl | rfl | rfl <;> rfl

theorem calm_of_mem_passEvents {frame : GpuFrame} {label : String} {program : GpuProgram}
    {textures : Handle .bindGroup} {commands : List PassCommand} {event : GpuEvent}
    (member : event ∈ backend.passEvents frame label program textures commands) (count : Nat) :
    event.Calm count := by
  rcases List.mem_cons.mp member with rfl | member
  · trivial
  · rcases List.mem_append.mp member with member | last
    · rcases List.mem_append.mp member with opening | drawn
      · exact calm_of_inPass (inPass_of_mem_passOpening opening) count
      · obtain ⟨command, _, rfl⟩ := List.mem_map.mp drawn
        exact calm_of_inPass command.property count
    · rw [List.mem_singleton.mp last]
      trivial

theorem lists_applyViewport (viewport : Viewport) (target : Extent) :
    DeviceM.Lists (applyViewport viewport target)
      ((viewport.clamp? target).toList.map .setViewport) :=
  DeviceM.lists_optionForM fun _ => DeviceM.lists_emit _

theorem lists_applyProgram (program : GpuProgram) (hasDepth : Bool)
    (textures : Handle .bindGroup) : DeviceM.Lists (applyProgram program hasDepth textures)
      [.setPipeline (if hasDepth then program.resources.depthPipeline else program.resources.pipeline),
        .setBindGroup uniformGroup program.resources.uniformGroup,
        .setBindGroup textureGroup textures] :=
  (DeviceM.lists_emit _).bind fun _ => (DeviceM.lists_emit _).bind fun _ => DeviceM.lists_emit _

theorem drawPass_of_recording {frame : GpuFrame} (recording : backend.frame = some frame)
    (label : String) (commands : List PassCommand) (program : GpuProgram)
    (textures : Handle .bindGroup) :
    ∃ later, drawPass label (PassCommand.record commands) backend.targetSize
          (some (program, textures)) backend = (.ok (), { backend with device := later }) ∧
      backend.device.Advances later (backend.passEvents frame label program textures commands) := by
  have opening := (lists_applyViewport (backend.viewport.getD (.full backend.targetSize))
    backend.targetSize).bind fun _ =>
      lists_applyProgram program (backend.attachments frame).2.isSome textures
  have inside := opening.bind fun _ => lists_record commands
  have lists := (DeviceM.lists_emit (.beginPass frame.encoder label (backend.attachments frame).1
    .keep ((backend.attachments frame).2.map (·, .keep)))).bind fun _ =>
      inside.bind fun _ => DeviceM.lists_emit .endPass
  refine ⟨_, ?_, lists backend.device⟩
  unfold drawPass
  rw [Action.bind_apply, currentFrame_of_recording recording]
  rfl

theorem prepareOverride_of_installed {program : GpuProgram}
    (installed : backend.override = some program) (size : Extent) :
    prepareOverride size backend =
      (prepareProgram program size >>= fun textures => pure (some (program, textures)) :
        GpuAction (Option (GpuProgram × Handle .bindGroup))) backend := by
  show (match backend.override with | none => _ | some program => _ :
    GpuAction (Option (GpuProgram × Handle .bindGroup))) backend = _
  rw [installed]

theorem renderPass_of_recording {frame : GpuFrame} {program : GpuProgram} {label : String}
    {draws : DeviceM Unit} (recording : backend.frame = some frame)
    (installed : backend.override = some program) :
    renderPass label draws backend =
      (prepareProgram program backend.targetSize >>= fun textures =>
        drawPass label draws backend.targetSize (some (program, textures))) backend := by
  rw [renderPass_eq, Action.bind_apply, currentFrame_of_recording recording]
  dsimp only
  rw [get_bind_apply, Action.bind_apply, prepareOverride_of_installed installed,
    ← Action.bind_apply, bind_assoc]
  simp only [pure_bind]

/-- A pass that opens under a program has the uniforms of the program written in front of it, behind a
submission of everything recorded before, if the program has any. -/
theorem renderPass_ok {label : String} {commands : List PassCommand} {program : GpuProgram}
    (installed : backend.override = some program)
    (ran : renderPass label (PassCommand.record commands) backend = (.ok (), next)) :
    ∃ frame encoder creation textures,
      backend.frame = some frame ∧ next.frame = some { frame with encoder } ∧
      (∀ count, creation.Calm count) ∧
      (program.descriptor.uniforms = [] ∧ encoder = frame.encoder ∧
          backend.device.Advances next.device ([creation] ++
            backend.passEvents { frame with encoder } label program textures commands) ∨
        backend.device.Gives next.device encoder ∧
          backend.device.Advances next.device ((.createEncoder encoder :: .submit [frame.encoder] ::
            program.uniformWrites (backend.engineValue backend.targetSize) ++ [creation]) ++
              backend.passEvents { frame with encoder } label program textures commands)) := by
  cases recording : backend.frame with
  | none =>
      rw [renderPass_eq, Action.bind_apply, currentFrame_apply, recording] at ran
      cases ran
  | some frame =>
      rw [renderPass_of_recording recording installed, Action.bind_apply] at ran
      cases prepared : prepareProgram program backend.targetSize backend with
      | mk outcome middle =>
          rw [prepared] at ran
          cases outcome with
          | error error => cases ran
          | ok textures =>
              obtain ⟨encoder, creation, middle, rfl, calm, written⟩ :=
                prepareProgram_ok recording prepared
              have goesOn : { backend with
                  device := middle, frame := some { frame with encoder } }.frame =
                    some { frame with encoder } := rfl
              obtain ⟨later, drawn, passed⟩ :=
                drawPass_of_recording goesOn label commands program textures
              cases drawn.symm.trans ran
              refine ⟨frame, encoder, creation, textures, rfl, rfl, calm, ?_⟩
              rcases written with ⟨unused, same, advance⟩ | ⟨gives, advance⟩
              · exact .inl ⟨unused, same, advance.trans passed⟩
              · exact .inr ⟨gives.to_later passed, advance.trans passed⟩

/-! ### Programs from the cache -/

/-- A program is taken from the cache, or refused like the creation of its resources, or given
resources that are then in the cache. -/
theorem createProgram_cases (label : String) (descriptor : ProgramDescriptor) (layout : VertexLayout)
    (backend : GpuBackend) :
    (∃ resources, backend.programs.get? (.of label descriptor layout) = some resources ∧
      createProgram label descriptor layout backend = (.ok (.ofResources resources), backend)) ∨
    backend.programs.get? (.of label descriptor layout) = none ∧
      ((∃ error device,
          ProgramResources.create label descriptor layout backend.device = (.error error, device) ∧
          createProgram label descriptor layout backend = (.error error, { backend with device })) ∨
        ∃ resources device,
          ProgramResources.create label descriptor layout backend.device = (.ok resources, device) ∧
          createProgram label descriptor layout backend = (.ok (.ofResources resources),
            { backend with
              device
              programs := backend.programs.insert (.of label descriptor layout) resources })) := by
  have read : (get : GpuAction GpuBackend) backend = (.ok backend, backend) := rfl
  unfold createProgram
  simp only [Action.bind_apply, read]
  cases held : backend.programs.get? (.of label descriptor layout) with
  | some resources => exact .inl ⟨resources, rfl, rfl⟩
  | none =>
      refine .inr ⟨rfl, ?_⟩
      simp only [Action.bind_apply, onDevice]
      cases ProgramResources.create label descriptor layout backend.device with
      | mk result device =>
          cases result with
          | error error => exact .inl ⟨error, device, rfl, rfl⟩
          | ok resources => exact .inr ⟨resources, device, rfl, rfl⟩

end GpuBackend

/-! ### What one call does -/

/-- The program is another one, at most with values set that its uniforms take, and with other
wiring. -/
structure GpuProgram.Revises (program earlier : GpuProgram) : Prop where
  resources : program.resources = earlier.resources
  values : ∀ name value, program.values.get? name = some value →
    earlier.values.get? name = some value ∨
      ∃ slot, program.descriptor.uniform? name = some slot ∧ slot.ty = value.ty

theorem GpuProgram.Revises.refl (program : GpuProgram) : program.Revises program :=
  ⟨rfl, fun _ _ => .inl⟩

theorem GpuProgram.revises_of_setUniform {program changed : GpuProgram} {name : String}
    {value : ShaderValue} (set : program.setUniform name value = .ok changed) :
    changed.Revises program := by
  unfold setUniform at set
  cases found : (program.descriptor.uniform? name).filter (·.engine.isNone) with
  | none =>
      rw [found] at set
      cases set
  | some slot =>
      rw [found] at set
      dsimp only at set
      split at set
      · next typed =>
          cases set
          refine ⟨rfl, fun other held get => ?_⟩
          rw [OrderedMap.get?_insert] at get
          split at get
          · next same =>
              cases get
              cases same
              exact .inr ⟨slot, (Option.filter_eq_some_iff.mp found).1, typed⟩
          · exact .inl get
      · cases set

namespace GpuSession

/-- What one call does to a session. -/
structure Step (session next : GpuSession) : Prop where
  moves : session.backend.Moves next.backend
  cached : next.backend.programs = session.backend.programs ∨
    ∃ key label descriptor layout resources, session.backend.programs.get? key = none ∧
      next.backend.programs = session.backend.programs.insert key resources ∧
      ProgramResources.create label descriptor layout session.backend.device =
        (.ok resources, next.backend.device)
  override : ∀ program, next.backend.override = some program →
    session.backend.override = some program ∨ program ∈ session.programs
  engineValues : ∀ quantity value, next.backend.engineValues.get? quantity = some value →
    session.backend.engineValues.get? quantity = some value ∨ value.ty = quantity.ty
  programs : ∀ program ∈ next.programs, (∃ earlier ∈ session.programs, program.Revises earlier) ∨
    ∃ key resources, next.backend.programs.get? key = some resources ∧
      program = .ofResources resources

variable {session : GpuSession}

theorem step_of_proceeds {backend : GpuBackend} {framebuffers : List GpuFramebuffer}
    (proceeds : session.backend.Proceeds backend) :
    session.Step { session with backend, framebuffers } where
  moves := proceeds.moves
  cached := .inl proceeds.programs
  override program installed := by
    rcases proceeds.override with kept | removed
    · exact .inl (kept ▸ installed)
    · cases removed.symm.trans installed
  engineValues quantity value set := .inl (proceeds.engineValues ▸ set)
  programs program member := .inl ⟨program, member, .refl program⟩

theorem step_act {α : Type} {action : GpuAction α} {keep : α → GpuSession → GpuSession}
    (proceeds : session.backend.Proceeds (action session.backend).2)
    (keeps : ∀ value later, ∃ framebuffers, keep value later = { later with framebuffers }) :
    session.Step (session.act action keep).2 := by
  unfold act
  cases ran : action session.backend with
  | mk outcome backend =>
      rw [ran] at proceeds
      cases outcome with
      | error error => exact step_of_proceeds proceeds
      | ok value =>
          obtain ⟨framebuffers, kept⟩ := keeps value { session with backend }
          show session.Step (keep value { session with backend })
          rw [kept]
          exact step_of_proceeds proceeds

theorem step_act_calm {α : Type} {action : GpuAction α} (calm : GpuAction.Calm action) :
    session.Step (session.act action fun _ later => later).2 :=
  step_act (calm session.backend).proceeds fun _ later => ⟨later.framebuffers, rfl⟩

theorem step_change {f : GpuBackend → GpuBackend} (keeps : session.backend.Keeps (f session.backend)) :
    session.Step (session.change f).2 := step_of_proceeds keeps.proceeds

theorem step_refl (session : GpuSession) : session.Step session :=
  step_of_proceeds (GpuBackend.Keeps.refl session.backend).proceeds

theorem step_programs {programs : List GpuProgram}
    (revised : ∀ program ∈ programs, ∃ earlier ∈ session.programs, program.Revises earlier) :
    session.Step { session with programs } :=
  { step_refl session with programs := fun program member => .inl (revised program member) }

theorem step_onFramebuffer {index : Nat}
    {call : GpuFramebuffer → Except GpuError Unit × GpuSession}
    (step : ∀ framebuffer, session.Step (call framebuffer).2) :
    session.Step (session.onFramebuffer index call).2 := by
  unfold onFramebuffer
  split
  · exact step_refl session
  · exact step _

theorem step_setUniform (index : Nat) (name : String) (value : ShaderValue) :
    session.Step (session.setUniform index name value).2 := by
  unfold setUniform
  cases held : session.programs[index]? with
  | none => exact step_refl session
  | some program =>
      dsimp only
      cases set : program.setUniform name value with
      | error error => exact step_refl session
      | ok changed =>
          refine step_programs fun other member => ?_
          rcases List.mem_or_eq_of_mem_set member with kept | rfl
          · exact ⟨other, kept, .refl other⟩
          · exact ⟨program, List.mem_of_getElem? held, GpuProgram.revises_of_setUniform set⟩

theorem step_wire (index : Nat) (slot framebuffer : String) :
    session.Step (session.perform (.wire index slot framebuffer)).2 := by
  refine step_programs fun program member => ?_
  obtain ⟨place, held⟩ := List.mem_iff_getElem?.mp member
  rw [List.getElem?_modify] at held
  obtain ⟨earlier, found, rfl⟩ := Option.map_eq_some_iff.mp held
  refine ⟨earlier, List.mem_of_getElem? found, ?_⟩
  split
  · exact ⟨rfl, fun _ _ => .inl⟩
  · exact .refl earlier

theorem step_setOverride (index : Option Nat) :
    session.Step (session.perform (.setOverride index)).2 :=
  { step_refl session with
    moves := .calm (.inl rfl) (.refl _)
    override := by
      intro program installed
      obtain ⟨place, _, held⟩ := Option.bind_eq_some_iff.mp installed
      exact .inr (List.mem_of_getElem? held) }

theorem step_setEngineUniform (quantity : EngineUniform) (value : ShaderValue) :
    session.Step (session.perform (.setEngineUniform quantity value)).2 := by
  show session.Step (session.act (GpuBackend.setEngineUniform quantity value) _).2
  unfold GpuBackend.setEngineUniform
  split
  · next typed =>
      refine { step_refl session with moves := .calm (.inl rfl) (.refl _), engineValues := ?_ }
      intro other held get
      change (session.backend.engineValues.insert quantity value).get? other = some held at get
      rw [OrderedMap.get?_insert] at get
      split at get
      · next same =>
          cases get
          exact .inr (same ▸ typed)
      · exact .inl get
  · exact step_act_calm (GpuAction.calm_throw _)

theorem step_createProgram (label : String) (descriptor : ProgramDescriptor) (layout : VertexLayout) :
    session.Step (session.perform (.createProgram label descriptor layout)).2 := by
  show session.Step (session.act (GpuBackend.createProgram label descriptor layout) _).2
  obtain ⟨events, advance⟩ := (DeviceM.setsUp_createResources label descriptor layout).calm
    session.backend.device
  unfold act
  rcases GpuBackend.createProgram_cases label descriptor layout session.backend with
    ⟨resources, held, ran⟩ |
    ⟨absent, ⟨error, device, failed, ran⟩ | ⟨resources, device, created, ran⟩⟩
  · rw [ran]
    refine { step_refl session with programs := fun program member => ?_ }
    rcases List.mem_append.mp member with before | given
    · exact .inl ⟨program, before, .refl program⟩
    · exact .inr ⟨_, resources, held, List.mem_singleton.mp given⟩
  · rw [ran]
    rw [failed] at advance
    exact step_of_proceeds ⟨.calm (.inl rfl) advance, rfl, rfl, .inl rfl⟩
  · rw [ran]
    rw [created] at advance
    refine { step_refl session with
      moves := .calm (.inl rfl) advance
      cached := .inr ⟨_, label, descriptor, layout, resources, absent, rfl, created⟩
      programs := fun program member => ?_ }
    rcases List.mem_append.mp member with before | given
    · exact .inl ⟨program, before, .refl program⟩
    · have inserted := OrderedMap.get?_insert session.backend.programs
        (.of label descriptor layout) (.of label descriptor layout) resources
      rw [if_pos rfl] at inserted
      exact .inr ⟨_, resources, inserted, List.mem_singleton.mp given⟩

/-- Whatever a call does is one step. -/
theorem step_perform (session : GpuSession) (call : GpuCall) :
    session.Step (session.perform call).2 := by
  cases call with
  | createProgram => exact step_createProgram _ _ _
  | cloneProgram index =>
      refine step_programs fun program member => ⟨program, ?_, .refl program⟩
      rcases List.mem_append.mp member with held | cloned
      · exact held
      · exact List.mem_of_getElem? (Option.mem_toList.mp cloned)
  | setUniform => exact step_setUniform _ _ _
  | wire => exact step_wire _ _ _
  | setOverride => exact step_setOverride _
  | setEngineUniform => exact step_setEngineUniform _ _
  | resize size =>
      refine step_change ?_
      split
      · exact ⟨rfl, rfl, rfl, rfl, DeviceM.calm_emit (fun _ => by trivial) session.backend.device⟩
      · exact .refl _
  | beginFrame =>
      exact step_act (GpuBackend.proceeds_beginFrame _) fun _ later => ⟨later.framebuffers, rfl⟩
  | endFrame =>
      exact step_act (GpuBackend.proceeds_endFrame _) fun _ later => ⟨later.framebuffers, rfl⟩
  | bindScreen | setViewport | coverTarget | setClearColor =>
      exact step_change ⟨rfl, rfl, rfl, rfl, [], .refl _⟩
  | bindFramebuffer =>
      exact step_onFramebuffer fun _ => step_change ⟨rfl, rfl, rfl, rfl, [], .refl _⟩
  | clearColor => exact step_act_calm GpuAction.calm_clearTargetColor
  | clearDepth => exact step_act_calm GpuAction.calm_clearTargetDepth
  | ensureFramebuffer descriptor =>
      exact step_act (GpuAction.calm_ensureFramebuffer descriptor session.backend).proceeds
        fun _ _ => ⟨_, rfl⟩
  | renderFramebuffer =>
      exact step_onFramebuffer fun _ => step_act_calm fun _ => ⟨rfl, rfl, rfl, rfl, [], .refl _⟩
  | renderPass =>
      exact step_act (GpuBackend.proceeds_renderPass _ _) fun _ later => ⟨later.framebuffers, rfl⟩
  | createQuad => exact step_act_calm (GpuAction.calm_onDevice DeviceM.setsUp_quad.calm)
  | surfaceAnswers | shaderFailure =>
      exact step_change ⟨rfl, rfl, rfl, rfl, [], .of_same rfl rfl⟩

end GpuSession

end ShaderFlow

/-
Module: ShaderFlow.Proofs.Gpu.Attachments
Purpose: The attachments of a pass are of one size, and viewports lie on them.
Main exports: GpuBackend.Sized, ListedPass.FitsOn, GpuSession.ResizesBetweenFrames,
  GpuSession.OpensFitting, GpuSession.sized_perform, GpuSession.attachments_fit
-/
import ShaderFlow.Proofs.Gpu.CommandOrder
import ShaderFlow.Proofs.Gpu.Framebuffers
import ShaderFlow.Proofs.Gpu.ViewSizes
import ShaderFlow.Proofs.Render.DebugCells

namespace ShaderFlow

/-!
The size of the surface is kept by its configuration, by the texture acquired last and by the depth
buffer of the screen, and they change one after the other.  Between frames the depth buffer may lag
behind; the beginning of a frame fits it, and as long as the surface is not resized during the frame,
all of them agree.  A framebuffer has views of one size from its creation on.  So the attachments of
every pass have the size of the target that it is opened on, and viewports are cut to that size.
-/

namespace GpuBackend

variable {acquired : Nat → Extent} {backend next : GpuBackend} {frame : GpuFrame}

/-! ### Everything that can be attached -/

/-- The surface is configured to the size that the renderer knows, and every view that can be attached
has the size of its target.  The depth buffer of the screen has a size of its own between frames. -/
structure Sized (acquired : Nat → Extent) (backend : GpuBackend) : Prop where
  configured : (backend.device.sizes acquired).configured = some backend.surfaceSize
  screenDepth : backend.device.ViewSized acquired backend.screenDepth.view backend.screenDepth.size
  view : ∀ frame, backend.frame = some frame →
    backend.device.ViewSized acquired frame.view backend.surfaceSize
  fitted : ∀ frame, backend.frame = some frame → backend.screenDepth.size = backend.surfaceSize
  target : ∀ framebuffer, backend.target = .framebuffer framebuffer →
    framebuffer.ViewsSized acquired backend.device
  held : ∀ name framebuffer, backend.framebuffers.get? name = some framebuffer →
    framebuffer.ViewsSized acquired backend.device

/-- Views keep their sizes, and nothing that can be attached is replaced; the frame ends or goes on,
maybe in another encoder. -/
structure KeepsAttachments (acquired : Nat → Extent) (backend next : GpuBackend) : Prop where
  sizes : backend.device.KeepsSizes acquired next.device
  surfaceSize : next.surfaceSize = backend.surfaceSize
  screenDepth : next.screenDepth = backend.screenDepth
  frame : next.frame = none ∨ next.frame.map GpuFrame.view = backend.frame.map GpuFrame.view
  target : next.target = backend.target
  framebuffers : next.framebuffers = backend.framebuffers

theorem KeepsAttachments.of_device {device : Device}
    (keeps : backend.device.KeepsSizes acquired device) :
    backend.KeepsAttachments acquired { backend with device } :=
  ⟨keeps, rfl, rfl, .inr rfl, rfl, rfl⟩

theorem KeepsAttachments.refl (backend : GpuBackend) : backend.KeepsAttachments acquired backend :=
  .of_device (.refl backend.device)

theorem KeepsAttachments.exists_frame (keeps : backend.KeepsAttachments acquired next)
    (recording : next.frame = some frame) :
    ∃ earlier, backend.frame = some earlier ∧ earlier.view = frame.view := by
  rcases keeps.frame with ended | goesOn
  · cases ended.symm.trans recording
  · rw [recording] at goesOn
    exact Option.map_eq_some_iff.mp goesOn.symm

theorem Sized.kept (sized : backend.Sized acquired)
    (keeps : backend.KeepsAttachments acquired next) : next.Sized acquired where
  configured := by rw [keeps.sizes.configured, sized.configured, keeps.surfaceSize]
  screenDepth := by
    rw [keeps.screenDepth]
    exact sized.screenDepth.to_later keeps.sizes
  view := by
    intro frame recording
    obtain ⟨earlier, before, same⟩ := keeps.exists_frame recording
    rw [← same, keeps.surfaceSize]
    exact (sized.view earlier before).to_later keeps.sizes
  fitted := by
    intro frame recording
    obtain ⟨earlier, before, _⟩ := keeps.exists_frame recording
    rw [keeps.screenDepth, keeps.surfaceSize, sized.fitted earlier before]
  target := by
    intro framebuffer bound
    exact (sized.target framebuffer (keeps.target ▸ bound)).to_later keeps.sizes
  held := by
    intro name framebuffer holds
    exact (sized.held name framebuffer (keeps.framebuffers ▸ holds)).to_later keeps.sizes

/-! ### Steps of the renderer -/

theorem sized_create (acquired : Nat → Extent) (surfaceSize : Extent) (limit : Nat) :
    (create surfaceSize limit {}).Sized acquired := by
  have configured : ((Device.emit (.configure surfaceSize) {}).2.sizes acquired).configured =
      some surfaceSize := rfl
  have fitted : Device.KeepsSizes acquired _ _ := DeviceM.keepsSizes_depthBuffer "Screen Depth"
    surfaceSize (Device.emit (.configure surfaceSize) {}).2
  have equipped : Device.KeepsSizes acquired _ _ := DeviceM.keepsSizes_blitter
    (DepthBuffer.create "Screen Depth" surfaceSize (Device.emit (.configure surfaceSize) {}).2).2
  exact
    { configured := (equipped.configured.trans fitted.configured).trans configured
      screenDepth := (viewSized_depthBuffer _ _ _).to_later equipped
      view := nofun
      fitted := nofun
      target := nofun
      held := nofun }

theorem sized_resize (sized : backend.Sized acquired) (idle : backend.frame = none)
    (size : Extent) : (backend.resize size).Sized acquired := by
  unfold resize
  split
  · -- Without a frame, no view has to be as large as the surface.
    refine
      { configured := ?_
        screenDepth := sized.screenDepth.configure size
        view := fun frame recording => nomatch idle.symm.trans recording
        fitted := fun frame recording => nomatch idle.symm.trans recording
        target := fun framebuffer bound => (sized.target framebuffer bound).configure size
        held := fun name framebuffer holds => (sized.held name framebuffer holds).configure size }
    rw [(Device.advances_emit backend.device (.configure size)).sizes_eq]
    rfl
  · exact sized

theorem keepsAttachments_clear (label : String) (colorLoad : ColorLoad) (depthLoad : DepthLoad)
    (backend : GpuBackend) :
    backend.KeepsAttachments acquired (clear label colorLoad depthLoad backend).2 := by
  cases recording : backend.frame with
  | none =>
      rw [clear_of_idle recording]
      exact .refl backend
  | some frame =>
      obtain ⟨later, ran, advance⟩ := clear_of_recording label colorLoad depthLoad recording
      rw [ran]
      exact .of_device (.of_sizeless advance proper_clearPass.sizeless)

theorem keepsAttachments_clearTargetDepth (backend : GpuBackend) :
    backend.KeepsAttachments acquired (clearTargetDepth backend).2 := by
  rw [clearTargetDepth, get_bind_apply]
  split
  · exact keepsAttachments_clear _ _ _ _
  · exact .refl backend

theorem keepsAttachments_renderPass (label : String) (commands : List PassCommand)
    (backend : GpuBackend) : backend.KeepsAttachments acquired
      (renderPass label (PassCommand.record commands) backend).2 := by
  have sizes : backend.device.KeepsSizes acquired _ :=
    GpuAction.keepsSizes_renderPass label commands backend
  cases recording : backend.frame with
  | none =>
      rw [renderPass_of_idle recording]
      exact .refl backend
  | some frame =>
      obtain ⟨encoder, device, ⟨_, _, ran, _⟩ | ⟨_, _, _, _, ran, _⟩⟩ :=
        renderPass_cases label recording (lists_record commands) fun _ => inPass_of_mem_commands
      all_goals
        rw [ran] at sizes ⊢
        exact ⟨sizes, rfl, rfl, .inr (by rw [recording]; rfl), rfl, rfl⟩

theorem keepsAttachments_endFrame (backend : GpuBackend) :
    backend.KeepsAttachments acquired (endFrame backend).2 := by
  cases recording : backend.frame with
  | none =>
      rw [endFrame_of_idle recording]
      exact .refl backend
  | some frame =>
      obtain ⟨later, ran, finished⟩ := endFrame_of_recording recording
      have drawn : Device.KeepsSizes acquired _ _ := keepsSizes_drawBlits backend.blitter frame
        backend.surfaceSize backend.pendingBlits backend.device
      rw [ran]
      refine ⟨drawn.trans (.of_sizeless finished fun event member => ?_), rfl, rfl, .inl rfl, rfl, rfl⟩
      simp only [List.mem_cons, List.not_mem_nil, or_false] at member
      rcases member with rfl | rfl <;> exact fun _ _ => rfl

theorem keepsAttachments_createProgram (label : String) (descriptor : ProgramDescriptor)
    (layout : VertexLayout) (backend : GpuBackend) :
    backend.KeepsAttachments acquired (createProgram label descriptor layout backend).2 := by
  have created : Device.KeepsSizes acquired backend.device _ :=
    DeviceM.keepsSizes_createResources label descriptor layout backend.device
  rcases createProgram_cases label descriptor layout backend with
    ⟨_, _, ran⟩ | ⟨_, ⟨_, _, failed, ran⟩ | ⟨_, _, made, ran⟩⟩
  · rw [ran]
    exact .refl backend
  · rw [failed] at created
    rw [ran]
    exact .of_device created
  · rw [made] at created
    rw [ran]
    exact ⟨created, rfl, rfl, .inr rfl, rfl, rfl⟩

theorem keepsAttachments_setEngineUniform (quantity : EngineUniform) (value : ShaderValue)
    (backend : GpuBackend) :
    backend.KeepsAttachments acquired (setEngineUniform quantity value backend).2 := by
  unfold setEngineUniform
  split
  · exact ⟨.refl _, rfl, rfl, .inr rfl, rfl, rfl⟩
  · exact .refl backend

/-- What is acquired from the surface is as large as the renderer takes the surface to be, even if it has
to be configured anew. -/
theorem acquireSurface_sized
    (configured : (backend.device.sizes acquired).configured = some backend.surfaceSize) :
    ∃ device, (acquireSurface backend).2 = { backend with device } ∧
      backend.device.KeepsSizes acquired device ∧
      ((acquireSurface backend).1 = .ok () → AcquiredAsConfigured acquired device.log →
        (device.sizes acquired).viewed acquired .surface = some backend.surfaceSize) := by
  have first : Device.KeepsSizes acquired _ _ := Device.keepsSizes_acquire backend.device
  unfold acquireSurface
  rw [onDevice_bind_apply]
  split
  · next good =>
      refine ⟨_, rfl, first, fun _ asConfigured => ?_⟩
      rw [Device.viewed_surface (Device.advances_acquire _) good asConfigured, configured]
  · split
    · rw [get_bind_apply, onDevice_bind_apply, onDevice_bind_apply]
      have renewed : Device.KeepsSizes acquired _ _ :=
        first.trans (Device.keepsSizes_configure (first.configured.trans configured))
      have again := renewed.trans (Device.keepsSizes_acquire _)
      split
      · next good =>
          refine ⟨_, rfl, again, fun _ asConfigured => ?_⟩
          rw [Device.viewed_surface (Device.advances_acquire _) good asConfigured]
          exact renewed.configured.trans configured
      · exact ⟨_, rfl, again, nofun⟩
    · exact ⟨_, rfl, first, nofun⟩

/-- The depth buffer of the screen is as large as the surface afterwards. -/
theorem fitScreenDepth_sized (backend : GpuBackend)
    (sized : backend.device.ViewSized acquired backend.screenDepth.view backend.screenDepth.size) :
    ∃ screenDepth device,
      fitScreenDepth backend = (.ok (), { backend with screenDepth, device }) ∧
      backend.device.KeepsSizes acquired device ∧
      device.ViewSized acquired screenDepth.view screenDepth.size ∧
      screenDepth.size = backend.surfaceSize := by
  unfold fitScreenDepth
  rw [get_bind_apply, get_bind_apply]
  split
  · next fits => exact ⟨_, _, rfl, .refl _, sized, fits⟩
  · exact ⟨_, _, rfl, DeviceM.keepsSizes_depthBuffer _ _ _, viewSized_depthBuffer _ _ _, rfl⟩

/-- A frame begins with views that are as large as the surface. -/
theorem sized_openFrame (sized : backend.Sized acquired)
    (asConfigured : AcquiredAsConfigured acquired (openFrame backend).2.device.log) :
    (openFrame backend).2.Sized acquired ∧
      backend.device.KeepsSizes acquired (openFrame backend).2.device := by
  obtain ⟨device, same, acquires, viewed⟩ := acquireSurface_sized sized.configured
  rw [openFrame, Action.bind_apply] at asConfigured ⊢
  cases ran : acquireSurface backend with
  | mk outcome middle =>
      rw [ran] at same viewed asConfigured
      cases same
      cases outcome with
      | error error => exact ⟨sized.kept (.of_device acquires), acquires⟩
      | ok _ =>
          dsimp only at asConfigured ⊢
          rw [onDevice_bind_apply, Action.bind_apply] at asConfigured ⊢
          have views : Device.KeepsSizes acquired device _ :=
            Device.keepsSizes_createView .surface device
          obtain ⟨screenDepth, later, fit, fits, depth, size_eq⟩ := fitScreenDepth_sized
            { backend with device := (Device.createView .surface device).2 }
            ((sized.screenDepth.to_later acquires).to_later views)
          rw [fit] at asConfigured ⊢
          have encodes : Device.KeepsSizes acquired later _ := DeviceM.keepsSizes_createEncoder later
          -- The view is made in front of the depth buffer and the encoder, which leave it alone.
          have behind := fits.trans encodes
          have whole := (acquires.trans views).trans behind
          obtain ⟨events, advance⟩ := (views.trans behind).advance
          replace asConfigured := advance.log_eq ▸ asConfigured
          have created := Device.viewSized_createView (viewed rfl asConfigured.of_append)
          refine ⟨{ configured := whole.configured.trans sized.configured
                    screenDepth := depth.to_later encodes
                    view := ?_
                    fitted := fun _ _ => size_eq
                    target := ?_
                    held := fun name framebuffer holds =>
                      (sized.held name framebuffer holds).to_later whole }, whole⟩
          · rintro _ ⟨⟩
            exact created.to_later behind
          · rintro _ ⟨⟩

theorem sized_beginFrame (sized : backend.Sized acquired)
    (asConfigured : AcquiredAsConfigured acquired (beginFrame backend).2.device.log) :
    (beginFrame backend).2.Sized acquired ∧
      backend.device.KeepsSizes acquired (beginFrame backend).2.device := by
  cases recording : backend.frame with
  | some frame =>
      rw [beginFrame_of_recording recording]
      exact ⟨sized, .refl _⟩
  | none =>
      rw [beginFrame_eq_openFrame recording] at asConfigured ⊢
      exact sized_openFrame sized asConfigured

/-- The framebuffer that is handed out has views of its size, whether it is a new one or not. -/
theorem sized_ensureFramebuffer (sized : backend.Sized acquired)
    (descriptor : FramebufferDescriptor) :
    (ensureFramebuffer descriptor backend).2.Sized acquired ∧
      backend.device.KeepsSizes acquired (ensureFramebuffer descriptor backend).2.device ∧
      ∀ framebuffer, (ensureFramebuffer descriptor backend).1 = .ok framebuffer →
        framebuffer.ViewsSized acquired (ensureFramebuffer descriptor backend).2.device := by
  rcases backend.ensureFramebuffer_cases descriptor with
    ⟨framebuffer, held, _, ran⟩ | ⟨_, ran⟩ | ran
  · rw [ran]
    refine ⟨sized, .refl _, ?_⟩
    rintro _ ⟨⟩
    exact sized.held _ _ held
  · rw [ran]
    exact ⟨sized, .refl _, nofun⟩
  · have keeps : Device.KeepsSizes acquired backend.device _ :=
      DeviceM.keepsSizes_framebuffer descriptor backend.device
    have created : GpuFramebuffer.ViewsSized acquired _ _ :=
      GpuFramebuffer.viewsSized_create descriptor backend.device
    rw [ran]
    refine ⟨{ sized.kept (.of_device keeps) with
                held := fun name framebuffer holds => ?_ }, keeps, ?_⟩
    · replace holds : (backend.framebuffers.insert descriptor.name _).get? name = _ := holds
      rw [OrderedMap.get?_insert] at holds
      split at holds
      · cases holds
        exact created
      · exact (sized.held name framebuffer holds).to_later keeps
    · rintro _ ⟨⟩
      exact created

end GpuBackend

/-! ### Passes that fit -/

/-- The attachments of a pass have the given size.  Every viewport that the renderer restricts it to has
pixels, all of them on the attachments; the commands of the caller stand behind. -/
structure ListedPass.FitsOn (pass : ListedPass) (sizes : Sizes) (size : Extent)
    (commands : List GpuEvent) : Prop where
  color : sizes.view pass.color = some size
  depth : ∀ view load, pass.depth = some (view, load) → sizes.view view = some size
  viewports : ∃ own, pass.body = own ++ commands ∧
    ∀ viewport, .setViewport viewport ∈ own → viewport.Fits size

namespace GpuBackend

variable {acquired : Nat → Extent} {backend : GpuBackend} {frame : GpuFrame} {later : Device}

/-- What a pass on the bound target is attached to has the size of the target. -/
theorem Sized.attachments (sized : backend.Sized acquired) (recording : backend.frame = some frame) :
    backend.device.ViewSized acquired (backend.attachments frame).1 backend.targetSize ∧
      ∀ depth, (backend.attachments frame).2 = some depth →
        backend.device.ViewSized acquired depth backend.targetSize := by
  unfold GpuBackend.attachments targetSize
  cases bound : backend.target with
  | screen =>
      refine ⟨sized.view frame recording, ?_⟩
      rintro _ ⟨⟩
      exact sized.fitted frame recording ▸ sized.screenDepth
  | framebuffer framebuffer =>
      have views := sized.target framebuffer bound
      refine ⟨views.color, fun view attached => ?_⟩
      obtain ⟨depth, has, rfl⟩ := Option.map_eq_some_iff.mp attached
      exact views.depth depth has

/-- A pass on what the bound target is attached to. -/
theorem Sized.fitsOn (sized : backend.Sized acquired) (recording : backend.frame = some frame)
    (keeps : backend.device.KeepsSizes acquired later) {pass : ListedPass} {depthLoad : DepthLoad}
    {commands : List GpuEvent} (color : pass.color = (backend.attachments frame).1)
    (depth : pass.depth = (backend.attachments frame).2.map (·, depthLoad))
    (viewports : ∃ own, pass.body = own ++ commands ∧
      ∀ viewport, .setViewport viewport ∈ own → viewport.Fits backend.targetSize) :
    pass.FitsOn (later.sizes acquired) backend.targetSize commands := by
  obtain ⟨colorSized, depthSized⟩ := sized.attachments recording
  refine ⟨color ▸ (colorSized.to_later keeps).size_eq, fun view load attached => ?_, viewports⟩
  obtain ⟨_, has, same⟩ := Option.map_eq_some_iff.mp (depth.symm.trans attached)
  cases same
  exact ((depthSized view has).to_later keeps).size_eq

theorem Sized.fitsOn_clearPass (sized : backend.Sized acquired)
    (recording : backend.frame = some frame) (keeps : backend.device.KeepsSizes acquired later)
    {label : String} {colorLoad : ColorLoad} {depthLoad : DepthLoad} :
    (backend.clearPass frame label colorLoad depthLoad).FitsOn (later.sizes acquired)
      backend.targetSize [] :=
  sized.fitsOn recording keeps rfl rfl ⟨[], rfl, fun _ => nofun⟩

theorem Sized.fitsOn_drawnPass (sized : backend.Sized acquired)
    (recording : backend.frame = some frame) (keeps : backend.device.KeepsSizes acquired later)
    (encoder : Handle .encoder) {label : String}
    {prepared : Option (GpuProgram × Handle .bindGroup)} {commands : List GpuEvent} :
    (backend.drawnPass { frame with encoder } label prepared commands).FitsOn (later.sizes acquired)
      backend.targetSize commands := by
  refine sized.fitsOn recording keeps rfl rfl ⟨_, rfl, fun viewport restricts => ?_⟩
  rcases List.mem_append.mp restricts with own | applied
  · obtain ⟨visible, remains, same⟩ := List.mem_map.mp own
    cases same
    exact Viewport.fits_of_clamp? (Option.mem_toList.mp remains)
  · obtain ⟨_, _, listed⟩ := List.mem_flatMap.mp applied
    simp at listed

theorem Sized.fitsOn_debugPass (sized : backend.Sized acquired)
    (recording : backend.frame = some frame) (keeps : backend.device.KeepsSizes acquired later)
    (copies : List (Handle .bindGroup × Viewport)) :
    (debugPass backend.blitter frame backend.surfaceSize copies).FitsOn (later.sizes acquired)
      backend.surfaceSize [] := by
  refine ⟨((sized.view frame recording).to_later keeps).size_eq, fun _ _ => nofun,
    ⟨_, (List.append_nil _).symm, fun viewport restricts => ?_⟩⟩
  obtain ⟨copy, _, drawn⟩ := List.mem_flatMap.mp restricts
  obtain ⟨visible, remains, listed⟩ := List.mem_flatMap.mp drawn
  simp only [List.mem_cons, GpuEvent.setViewport.injEq, reduceCtorEq, List.not_mem_nil, or_false]
    at listed
  exact listed ▸ Viewport.fits_of_clamp? (Option.mem_toList.mp remains)

end GpuBackend

/-! ### Sessions -/

/-- Whether a call resizes the surface. -/
def GpuCall.resizes : GpuCall → Bool
  | .resize _ => true
  | _ => false

/-- The commands that a caller has recorded into the pass that its call opens. -/
def GpuCall.commands : GpuCall → List GpuEvent
  | .renderPass _ commands => commands.map Subtype.val
  | _ => []

namespace GpuSession

variable {acquired : Nat → Extent} {session : GpuSession} {call : GpuCall}

/-- Calls that resize the surface only while no frame is in progress. -/
def ResizesBetweenFrames (session : GpuSession) : List GpuCall → Prop
  | [] => True
  | call :: rest => (call.resizes = true → session.backend.frame = none) ∧
      (session.perform call).2.ResizesBetweenFrames rest

instance decidableResizesBetweenFrames (session : GpuSession) :
    (calls : List GpuCall) → Decidable (session.ResizesBetweenFrames calls)
  | [] => .isTrue trivial
  | call :: rest =>
      have := decidableResizesBetweenFrames (session.perform call).2 rest
      inferInstanceAs (Decidable (_ ∧ _))

/-- Everything that can be attached has the size that it is taken to have, also the framebuffers that
the caller holds. -/
structure Sized (acquired : Nat → Extent) (session : GpuSession) : Prop where
  backend : session.backend.Sized acquired
  framebuffers : ∀ framebuffer ∈ session.framebuffers,
    framebuffer.ViewsSized acquired session.backend.device

/-- What a call lists falls apart into the passes that it opens; the attachments of each are of one
size, and its viewports lie on them. -/
def OpensFitting (acquired : Nat → Extent) (session : GpuSession) (call : GpuCall) : Prop :=
  ∃ segment passes, (session.perform call).2.log = session.log ++ segment ∧
    Bracketed segment passes ∧ session.Opens call passes ∧
    ∀ pass ∈ passes, ∃ size,
      pass.FitsOn (sizesBehind acquired (session.perform call).2.log) size call.commands

theorem resizesBetweenFrames_append {before after : List GpuCall} :
    session.ResizesBetweenFrames (before ++ after) ↔
      session.ResizesBetweenFrames before ∧
        (session.performAll before).ResizesBetweenFrames after := by
  induction before generalizing session with
  | nil => exact (and_iff_right trivial).symm
  | cons call rest ih =>
      rw [List.cons_append, ResizesBetweenFrames, ResizesBetweenFrames, ih, and_assoc]
      rfl

theorem asConfigured_of_performAll {calls : List GpuCall}
    (asConfigured : AcquiredAsConfigured acquired (session.performAll calls).log) :
    AcquiredAsConfigured acquired session.log := by
  obtain ⟨_, _, _, records, _⟩ := session.records_performAll calls
  obtain ⟨_, advance⟩ := records.advances
  rw [log, advance.log_eq] at asConfigured
  exact asConfigured.of_append

/-! ### What every call keeps -/

theorem Sized.kept {next : GpuSession} (sized : session.Sized acquired)
    (keeps : session.backend.KeepsAttachments acquired next.backend)
    (framebuffers : next.framebuffers = session.framebuffers) : next.Sized acquired where
  backend := sized.backend.kept keeps
  framebuffers := by
    intro framebuffer held
    exact (sized.framebuffers framebuffer (framebuffers ▸ held)).to_later keeps.sizes

theorem framebuffers_act {α : Type} {action : GpuAction α} {keep : α → GpuSession → GpuSession}
    (keeps : ∀ value later, (keep value later).framebuffers = later.framebuffers) :
    (session.act action keep).2.framebuffers = session.framebuffers := by
  unfold act
  cases ran : action session.backend with
  | mk outcome backend =>
      cases outcome with
      | error error => rfl
      | ok value => exact keeps value _

theorem Sized.act {α : Type} {action : GpuAction α} {keep : α → GpuSession → GpuSession}
    (sized : session.Sized acquired)
    (attachments : session.backend.KeepsAttachments acquired (action session.backend).2)
    (keeps : ∀ value later, (keep value later).backend = later.backend ∧
      (keep value later).framebuffers = later.framebuffers) :
    (session.act action keep).2.Sized acquired := by
  refine sized.kept ?_ (framebuffers_act fun value later => (keeps value later).2)
  rw [snd_act fun value later => (keeps value later).1]
  exact attachments

theorem Sized.onFramebuffer {index : Nat} {step : GpuFramebuffer → Except GpuError Unit × GpuSession}
    (sized : session.Sized acquired)
    (kept : ∀ framebuffer ∈ session.framebuffers, (step framebuffer).2.Sized acquired) :
    (session.onFramebuffer index step).2.Sized acquired := by
  unfold GpuSession.onFramebuffer
  split
  · exact sized
  · next held => exact kept _ (List.mem_of_getElem? held)

theorem sized_new (acquired : Nat → Extent) (surfaceSize : Extent) (limit : Nat) :
    (new surfaceSize limit).Sized acquired :=
  ⟨GpuBackend.sized_create acquired surfaceSize limit, fun _ => nofun⟩

theorem sized_resize (sized : session.Sized acquired) (idle : session.backend.frame = none)
    (size : Extent) : (session.perform (.resize size)).2.Sized acquired := by
  refine ⟨GpuBackend.sized_resize sized.backend idle size, fun framebuffer held => ?_⟩
  show framebuffer.ViewsSized acquired (session.backend.resize size).device
  unfold GpuBackend.resize
  split
  · exact (sized.framebuffers framebuffer held).configure size
  · exact sized.framebuffers framebuffer held

theorem sized_beginFrame (sized : session.Sized acquired)
    (asConfigured : AcquiredAsConfigured acquired (session.perform .beginFrame).2.log) :
    (session.perform .beginFrame).2.Sized acquired := by
  have reached : (session.perform .beginFrame).2.backend =
      (GpuBackend.beginFrame session.backend).2 := snd_act fun _ _ => rfl
  rw [log, reached] at asConfigured
  obtain ⟨begun, keeps⟩ := GpuBackend.sized_beginFrame sized.backend asConfigured
  refine ⟨reached ▸ begun, fun framebuffer held => ?_⟩
  rw [reached]
  exact (sized.framebuffers framebuffer (framebuffers_act (fun _ _ => rfl) ▸ held)).to_later keeps

theorem sized_ensureFramebuffer (sized : session.Sized acquired)
    (descriptor : FramebufferDescriptor) :
    (session.perform (.ensureFramebuffer descriptor)).2.Sized acquired := by
  obtain ⟨ensured, keeps, given⟩ := GpuBackend.sized_ensureFramebuffer sized.backend descriptor
  have earlier : ∀ framebuffer ∈ session.framebuffers, framebuffer.ViewsSized acquired _ :=
    fun framebuffer held => (sized.framebuffers framebuffer held).to_later keeps
  show (session.act (GpuBackend.ensureFramebuffer descriptor) _).2.Sized acquired
  unfold act
  cases ran : GpuBackend.ensureFramebuffer descriptor session.backend with
  | mk outcome backend =>
      rw [ran] at ensured given earlier
      cases outcome with
      | error error => exact ⟨ensured, earlier⟩
      | ok framebuffer =>
          refine ⟨ensured, List.forall_mem_append.mpr ⟨earlier, ?_⟩⟩
          exact List.forall_mem_singleton.mpr (given framebuffer rfl)

/-- Whatever a call does, everything that can be attached has its size afterwards, if the surface is
resized between frames only and gives out textures as large as it is configured to. -/
theorem sized_perform (sized : session.Sized acquired)
    (between : call.resizes = true → session.backend.frame = none)
    (asConfigured : AcquiredAsConfigured acquired (session.perform call).2.log) :
    (session.perform call).2.Sized acquired := by
  cases call with
  | createProgram label descriptor layout =>
      exact sized.act (GpuBackend.keepsAttachments_createProgram _ _ _ _) fun _ _ => ⟨rfl, rfl⟩
  | cloneProgram | wire => exact sized.kept (.refl _) rfl
  | setOverride | setViewport | coverTarget | setClearColor =>
      exact sized.kept ⟨.refl _, rfl, rfl, .inr rfl, rfl, rfl⟩ rfl
  | surfaceAnswers | shaderFailure => exact sized.kept (.of_device (.of_same rfl rfl)) rfl
  | setUniform index name value =>
      show (session.setUniform index name value).2.Sized acquired
      unfold setUniform
      split
      · exact sized
      · split
        · exact sized.kept (.refl _) rfl
        · exact sized
  | setEngineUniform quantity value =>
      exact sized.act (GpuBackend.keepsAttachments_setEngineUniform _ _ _) fun _ _ => ⟨rfl, rfl⟩
  | resize size => exact sized_resize sized (between rfl) size
  | beginFrame => exact sized_beginFrame sized asConfigured
  | endFrame => exact sized.act (GpuBackend.keepsAttachments_endFrame _) fun _ _ => ⟨rfl, rfl⟩
  | bindScreen => exact ⟨{ sized.backend with target := nofun }, sized.framebuffers⟩
  | bindFramebuffer index =>
      refine sized.onFramebuffer fun framebuffer held => ⟨{ sized.backend with target := ?_ },
        sized.framebuffers⟩
      rintro _ ⟨⟩
      exact sized.framebuffers framebuffer held
  | clearColor => exact sized.act (GpuBackend.keepsAttachments_clear _ _ _ _) fun _ _ => ⟨rfl, rfl⟩
  | clearDepth =>
      exact sized.act (GpuBackend.keepsAttachments_clearTargetDepth _) fun _ _ => ⟨rfl, rfl⟩
  | ensureFramebuffer descriptor => exact sized_ensureFramebuffer sized descriptor
  | renderFramebuffer index viewport =>
      refine sized.onFramebuffer fun framebuffer _ => sized.act ?_ fun _ _ => ⟨rfl, rfl⟩
      exact ⟨.refl _, rfl, rfl, .inr rfl, rfl, rfl⟩
  | renderPass label commands =>
      exact sized.act (GpuBackend.keepsAttachments_renderPass _ _ _) fun _ _ => ⟨rfl, rfl⟩
  | createQuad =>
      exact sized.act (.of_device (DeviceM.keepsSizes_quad _)) fun _ _ => ⟨rfl, rfl⟩

theorem sized_performAll {calls : List GpuCall} (sized : session.Sized acquired)
    (between : session.ResizesBetweenFrames calls)
    (asConfigured : AcquiredAsConfigured acquired (session.performAll calls).log) :
    (session.performAll calls).Sized acquired := by
  induction calls generalizing session with
  | nil => exact sized
  | cons call rest ih =>
      have here : AcquiredAsConfigured acquired (session.perform call).2.log :=
        asConfigured_of_performAll asConfigured
      exact ih (sized_perform sized between.1 here) between.2 asConfigured

/-! ### What every call opens -/

/-- The passes that a call opens fit. -/
theorem Sized.fits {passes : List ListedPass} (sized : session.Sized acquired)
    (opens : session.Opens call passes) : ∀ pass ∈ passes, ∃ size,
      pass.FitsOn (sizesBehind acquired (session.perform call).2.log) size call.commands := by
  have reached {action : GpuAction Unit}
      (keeps : session.backend.KeepsAttachments acquired (action session.backend).2) :
      session.backend.device.KeepsSizes acquired
        (session.act action fun _ later => later).2.backend.device := by
    rw [snd_act fun _ _ => rfl]
    exact keeps.sizes
  unfold Opens at opens
  cases recording : session.backend.frame with
  | none =>
      rw [recording] at opens
      obtain rfl : passes = [] := by cases call <;> exact opens
      exact fun _ => nofun
  | some frame =>
      rw [recording] at opens
      cases call with
      | clearColor =>
          obtain rfl := opens
          exact List.forall_mem_singleton.mpr ⟨_, sized.backend.fitsOn_clearPass recording
            (reached (GpuBackend.keepsAttachments_clear _ _ _ _))⟩
      | clearDepth =>
          obtain rfl := opens
          have keeps := reached (GpuBackend.keepsAttachments_clearTargetDepth session.backend)
          split
          · exact List.forall_mem_singleton.mpr ⟨_, sized.backend.fitsOn_clearPass recording keeps⟩
          · exact fun _ => nofun
      | renderPass label commands =>
          have keeps := reached
            (GpuBackend.keepsAttachments_renderPass label commands session.backend)
          dsimp only at opens
          split at opens
          · obtain rfl := opens
            exact fun _ => nofun
          · obtain ⟨encoder, prepared, _, rfl⟩ := opens
            exact List.forall_mem_singleton.mpr
              ⟨_, sized.backend.fitsOn_drawnPass recording keeps encoder⟩
      | endFrame =>
          have keeps := reached (GpuBackend.keepsAttachments_endFrame session.backend)
          rcases opens with ⟨_, rfl⟩ | ⟨_, copies, _, rfl⟩
          · exact fun _ => nofun
          · exact List.forall_mem_singleton.mpr
              ⟨_, sized.backend.fitsOn_debugPass recording keeps copies⟩
      | _ =>
          obtain rfl : passes = [] := opens
          exact fun _ => nofun

theorem Sized.opensFitting (sized : session.Sized acquired) (call : GpuCall) :
    session.OpensFitting acquired call := by
  obtain ⟨passes, opens, records⟩ := session.records_perform call
  obtain ⟨segment, advance, bracketed⟩ := records.bracketed
  exact ⟨segment, passes, advance.log_eq, bracketed, opens, sized.fits opens⟩

/-- Attachments and viewports are always valid.  If the surface is resized only between frames and gives
out textures as large as it is configured to, the attachments of every pass that a call opens are of one
size, and every viewport that the renderer restricts the pass to has pixels, all of them on the
attachments.  No difference that is taken on the way to it falls below zero, whatever viewport the
caller has set. -/
theorem attachments_fit {surfaceSize : Extent} {limit : Nat} {calls : List GpuCall}
    (between : (new surfaceSize limit).ResizesBetweenFrames calls)
    (asConfigured : AcquiredAsConfigured acquired ((new surfaceSize limit).performAll calls).log) :
    (∀ before call after, calls = before ++ call :: after →
      ((new surfaceSize limit).performAll before).OpensFitting acquired call) ∧
    ∀ (viewport : Viewport) (size : Extent),
      viewport.clampChecked? size = some (viewport.clamp? size) := by
  refine ⟨?_, Viewport.clampChecked?_eq⟩
  rintro before call after rfl
  rw [performAll_append] at asConfigured
  have sized := sized_performAll (sized_new acquired surfaceSize limit)
    (resizesBetweenFrames_append.mp between).1 (asConfigured_of_performAll asConfigured)
  exact sized.opensFitting call

/-- Two frames, the second one behind a resize and on a surface that has been lost.  Viewports lie partly
or wholly off their targets. -/
def resizedCalls : List GpuCall :=
  [.ensureFramebuffer ⟨"map", ⟨4, 2⟩, true⟩, .beginFrame, .setViewport ⟨6, 6, 9, 9⟩,
    .renderPass "scene" [], .bindFramebuffer 0, .clearDepth, .setViewport ⟨4, 0, 1, 1⟩,
    .renderPass "map" [], .renderFramebuffer 0 ⟨5, 7, 4, 4⟩, .endFrame, .resize ⟨6, 4⟩,
    .surfaceAnswers [.lost], .beginFrame, .clearColor, .setViewport ⟨5, 0, 4294967295, 9⟩,
    .renderPass "scene" [], .endFrame]

/-- Sizes of the textures that the surface gives out to these calls. -/
def resizedTextures (index : Nat) : Extent := if index = 0 then ⟨8, 8⟩ else ⟨6, 4⟩

/-- The passes of both frames are attached to views of the right sizes. -/
theorem attachments_fit_resizedCalls :
    (new ⟨8, 8⟩ 64).ResizesBetweenFrames resizedCalls ∧
    AcquiredAsConfigured resizedTextures ((new ⟨8, 8⟩ 64).performAll resizedCalls).log ∧
    (∀ before call after, resizedCalls = before ++ call :: after →
      ((new ⟨8, 8⟩ 64).performAll before).OpensFitting resizedTextures call) ∧
    (listedPasses ((new ⟨8, 8⟩ 64).performAll resizedCalls).log).map (fun pass =>
        (pass.label, (sizesBehind resizedTextures
          ((new ⟨8, 8⟩ 64).performAll resizedCalls).log).view pass.color, pass.body.head?)) =
      [("scene", some ⟨8, 8⟩, some (.setViewport ⟨6, 6, 2, 2⟩)),
        ("Clear Depth", some ⟨4, 2⟩, none),
        ("map", some ⟨4, 2⟩, none),
        ("Debug View", some ⟨8, 8⟩, some (.setViewport ⟨5, 7, 3, 1⟩)),
        ("Clear Color", some ⟨6, 4⟩, none),
        ("scene", some ⟨6, 4⟩, some (.setViewport ⟨5, 0, 1, 4⟩))] := by
  have between : (new ⟨8, 8⟩ 64).ResizesBetweenFrames resizedCalls := by decide +kernel
  have asConfigured : AcquiredAsConfigured resizedTextures
      ((new ⟨8, 8⟩ 64).performAll resizedCalls).log := by decide +kernel
  exact ⟨between, asConfigured, (attachments_fit between asConfigured).1, by decide +kernel⟩

end GpuSession

end ShaderFlow

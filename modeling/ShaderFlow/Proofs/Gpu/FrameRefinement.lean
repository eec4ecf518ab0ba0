/-
Module: ShaderFlow.Proofs.Gpu.FrameRefinement
Purpose: A frame on the GPU opens the passes that the recording renderer asks for.
Main exports: CompiledGraph.Drawable, CompiledGraph.runPasses_abreast, CarriesOutOverlay,
  CompiledGraph.refines_record
-/
import ShaderFlow.Proofs.Gpu.PassRefinement

namespace ShaderFlow

/-!
A build lets a pass read only what an earlier pass renders, and lets an offscreen target be rendered by
one pass only.  So every pass is ready when its turn comes, and by induction over the passes the two
renderers stay abreast.  At the end of the frame the rectangles that have been left are copied in one
pass.  They are cells of the surface, so no part of them is cut off.
-/

/-! ### The passes of a frame -/

/-- A graph that can be drawn on a surface of the given size: all of its passes can be drawn, and its
offscreen targets respect the limit of the device. -/
structure CompiledGraph.Drawable (graph : CompiledGraph GpuProgram GpuSource) (surface : Extent)
    (limit : Nat) : Prop where
  passes : ∀ pass ∈ graph.passes, pass.Drawable
  small : ∀ name target, graph.targets.get? name = some target → target.isScreen = false →
    (target.size.resolve surface).width.toNat ≤ limit ∧
      (target.size.resolve surface).height.toNat ≤ limit

namespace CompiledGraph

variable {graph : CompiledGraph GpuProgram GpuSource} {surface : Extent} {options : FrameOptions}
  {pass : Pass GpuProgram GpuSource} {earlier later : List (Pass GpuProgram GpuSource)}
  {limit : Nat}

/-- The cells of a frame lie on the surface. -/
theorem WellFormed.celled (formed : graph.WellFormed) (options : FrameOptions)
    (wide : 0 < surface.width) (high : 0 < surface.height) :
    Celled (graph.frameTargets surface options) surface := by
  intro name target found cell placed
  obtain ⟨_, _, own, _, rfl⟩ := formed.exists_target found
  have listed : graph.cell? surface options name = some cell := placed
  unfold cell? at listed
  split at listed
  · exact DebugGrid.fits_of_mem_cells wide high (List.mem_of_getElem? listed)
  · cases listed

/-- What a pass reads has been rendered by the passes before it. -/
theorem WellFormed.reads (formed : graph.WellFormed) (split : graph.passes = earlier ++ pass :: later)
    {name : String} (read : name ∈ pass.dependencies.values) :
    name ∈ earlier.map Pass.output ∧ name ≠ screenName := by
  have number : graph.passes[earlier.length]? = some pass := by
    rw [split, List.getElem?_append_right (Nat.le_refl _), Nat.sub_self]
    rfl
  obtain ⟨offscreen, producer, before, output⟩ := formed.inputs _ pass number name read
  rw [split, List.map_append, List.getElem?_append_left (by simpa using before)] at output
  exact ⟨List.mem_of_getElem? output, offscreen⟩

/-- No pass before it renders into the offscreen target of a pass. -/
theorem WellFormed.output_notMem (formed : graph.WellFormed)
    (split : graph.passes = earlier ++ pass :: later) (offscreen : pass.output ≠ screenName) :
    pass.output ∉ earlier.map Pass.output := by
  intro before
  have once := formed.produced_once pass.output offscreen
  rw [split, List.map_append, List.map_cons, List.count_append, List.count_cons_self] at once
  have counted := List.count_pos_iff.mpr before
  omega

/-- Every pass is ready when its turn comes. -/
theorem WellFormed.ready (formed : graph.WellFormed) (drawable : graph.Drawable surface limit)
    (options : FrameOptions) (split : graph.passes = earlier ++ pass :: later) :
    ∃ target, pass.Ready (graph.frameTargets surface options) surface limit
      (earlier.map Pass.output) target := by
  have listed : pass ∈ graph.passes := split ▸ List.mem_append_right _ List.mem_cons_self
  obtain ⟨own, held⟩ := formed.outputs pass listed
  have found : (graph.frameTargets surface options).get? pass.output =
      some { own with debugViewport := graph.cell? surface options pass.output } := by
    rw [frameTargets_eq, OrderedMap.get?_mapValues, held]
    rfl
  obtain ⟨named, screen, _⟩ := formed.exists_target found
  exact ⟨_, found, named, screen, formed.valid pass listed, drawable.passes pass listed,
    fun name => formed.reads split, formed.output_notMem split, drawable.small _ own held⟩

theorem runPasses_cons_of_ok {σ φ π ς ε : Type} [Renderer σ φ π ς ε]
    {targets : OrderedMap String RenderTarget} {debugView : Bool} {pass : Pass π ς}
    {state : σ} (rest : List (Pass π ς)) (done : (pass.run targets debugView state).result = .ok ()) :
    (runPasses targets debugView (pass :: rest) state).1 =
        (runPasses targets debugView rest (pass.run targets debugView state).state).1 ∧
      (runPasses targets debugView (pass :: rest) state).2.2.2 =
        (runPasses targets debugView rest (pass.run targets debugView state).state).2.2.2 := by
  rw [runPasses]
  dsimp only
  rw [done]
  exact ⟨rfl, rfl⟩

/-- The remaining passes of a frame run on both renderers without failure, and what the one on the GPU
has done follows the record of the other one. -/
theorem runPasses_abreast (formed : graph.WellFormed) (drawable : graph.Drawable surface limit)
    (options : FrameOptions) (naming : ProgramNaming) (wide : 0 < surface.width)
    (high : 0 < surface.height) {backend : GpuBackend} {recorder : HeadlessBackend}
    {view : Handle .view} (split : graph.passes = earlier ++ later)
    (abreast : Abreast view (earlier.map Pass.output) backend recorder)
    (sized : backend.surfaceSize = surface) (limited : backend.limit = limit)
    (allowed : ∀ pass ∈ later, pass.output ∉ recorder.failing) :
    let targets := graph.frameTargets surface options
    let recorded := later.map (Pass.recorded naming)
    (runPasses targets options.debugView later backend).1 = .ok () ∧
      (runPasses targets options.debugView recorded recorder).1 = .ok () ∧
      ∃ record encoder,
        (runPasses targets options.debugView recorded recorder).2.2.2 = recorder.play record ∧
        (runPasses targets options.debugView later backend).2.2.2.frame = some ⟨view, encoder⟩ ∧
        backend.Retains (earlier.map Pass.output)
          (runPasses targets options.debugView later backend).2.2.2 ∧
        backend.Follows view naming (graph.passes.map Pass.output)
          (runPasses targets options.debugView later backend).2.2.2 record := by
  induction later generalizing earlier backend recorder with
  | nil =>
      obtain ⟨encoder, recording⟩ := abreast.recording
      exact ⟨rfl, rfl, [], encoder, rfl, recording, ⟨rfl, rfl, rfl, rfl, fun _ _ _ => rfl⟩,
        ⟨[], .refl backend, fun _ _ => .nil⟩, ⟨[], (List.append_nil _).symm, .nil⟩,
        fun _ clear => clear⟩
  | cons pass rest ih =>
      obtain ⟨here, others⟩ := List.forall_mem_cons.mp allowed
      obtain ⟨target, ready⟩ := formed.ready drawable options split
      have celled := formed.celled options wide high
      subst sized limited
      obtain ⟨done, recorded, next, retains, follows⟩ :=
        ready.run_abreast naming options.debugView wide high celled abreast here
      have rendered : (earlier ++ [pass]).map Pass.output =
          earlier.map Pass.output ++ [pass.output] := List.map_append
      rw [← rendered] at next follows
      have played := (pass.recorded naming).state_run
        (graph.frameTargets backend.surfaceSize options) options.debugView recorder
      obtain ⟨doneRest, recordedRest, record, encoder, state, recording, retainsRest, followsRest⟩ :=
        ih (by rw [split, List.append_assoc]; rfl) next retains.surfaceSize retains.limit
          fun other listed => by
            rw [played, HeadlessBackend.failing_play]
            exact others other listed
      have onGpu := runPasses_cons_of_ok rest done
      have onRecord := runPasses_cons_of_ok (rest.map (Pass.recorded naming)) recorded
      have first : earlier.map Pass.output ⊆ (earlier ++ [pass]).map Pass.output :=
        List.map_subset _ (List.subset_append_left _ _)
      have all : (earlier ++ [pass]).map Pass.output ⊆ graph.passes.map Pass.output := by
        rw [split]
        exact List.map_subset _ (by simp)
      have kept := retains.trans retainsRest first
      have followed := follows.trans followsRest retainsRest all
      rw [← onGpu.2] at recording kept followed
      refine ⟨onGpu.1.trans doneRest, onRecord.1.trans recordedRest, _, encoder, ?_, recording, kept,
        followed⟩
      rw [List.map_cons, onRecord.2, state, played, ← HeadlessBackend.play_append]

end CompiledGraph

/-! ### The end of a frame -/

/-- The passes copy the framebuffers of the given names into their rectangles, in order: all in one pass
on the surface, through bind groups that the calls create.  There is none if there is nothing to show. -/
inductive CarriesOutOverlay (backend : GpuBackend) (view : Handle .view) (events : List GpuEvent) :
    List (String × Viewport) → List ListedPass → Prop where
  | nothing : CarriesOutOverlay backend view events [] []
  | pass {shown : List (String × Viewport)} {copies : List (Handle .bindGroup × Viewport)}
      {encoder : Handle .encoder} (waits : shown ≠ [])
      (copied : List.Forall₂ (fun entry copy => copy.2 = entry.2 ∧ ∃ framebuffer,
        backend.framebuffers.get? entry.1 = some framebuffer ∧
          GpuBackend.blitGroup backend.blitter copy.1 framebuffer ∈ events) shown copies) :
      CarriesOutOverlay backend view events shown
        [{ encoder, label := "Debug View", color := view, colorLoad := .keep, depth := none
           body := copies.flatMap fun copy =>
             [.setViewport copy.2, .setPipeline backend.blitter.pipeline, .setBindGroup 0 copy.1,
               .draw ⟨0, 3⟩ ⟨0, 1⟩] }]

theorem CarriesOutOverlay.of_subset {backend next : GpuBackend} {view : Handle .view}
    {events others : List GpuEvent} {shown : List (String × Viewport)} {passes : List ListedPass}
    (carried : CarriesOutOverlay backend view events shown passes) (subset : events ⊆ others)
    (framebuffers : next.framebuffers = backend.framebuffers)
    (blitter : next.blitter = backend.blitter) :
    CarriesOutOverlay next view others shown passes := by
  cases carried with
  | nothing => exact .nothing
  | pass waits copied =>
      rw [← blitter]
      refine .pass waits (copied.imp fun entry copy each => ⟨each.1, ?_⟩)
      obtain ⟨framebuffer, held, created⟩ := each.2
      rw [framebuffers, blitter]
      exact ⟨framebuffer, held, subset created⟩

namespace GpuBackend

variable {backend : GpuBackend} {view : Handle .view} {encoder : Handle .encoder}
  {rendered : List String} {shown : List (String × Viewport)}

/-- Rectangles that show something are copied through the bind groups created for them. -/
theorem copied_of_shows {blits : List (GpuFramebuffer × Viewport)}
    {copies : List (Handle .bindGroup × Viewport)} {events : List GpuEvent}
    (waiting : List.Forall₂ (backend.Shows rendered) shown blits)
    (viewports : copies.map Prod.snd = blits.map Prod.snd)
    (created : ∀ event ∈ List.zipWith
      (fun copy blit => blitGroup backend.blitter copy.1 blit.1) copies blits, event ∈ events) :
    List.Forall₂ (fun entry copy => copy.2 = entry.2 ∧ ∃ framebuffer,
        backend.framebuffers.get? entry.1 = some framebuffer ∧
          blitGroup backend.blitter copy.1 framebuffer ∈ events) shown copies ∧
      ∀ copy ∈ copies, copy.2.Fits backend.surfaceSize := by
  induction waiting generalizing copies with
  | nil =>
      cases List.map_eq_nil_iff.mp viewports
      exact ⟨.nil, fun _ => nofun⟩
  | cons shows _ ih =>
      obtain ⟨copy, others, rfl, same, rest⟩ := List.map_eq_cons_iff.mp viewports
      obtain ⟨here, later⟩ := List.forall_mem_cons.mp created
      obtain ⟨copied, fits⟩ := ih rest later
      refine ⟨.cons ⟨same.trans shows.cell, _, shows.held, here⟩ copied,
        List.forall_mem_cons.mpr ⟨?_, fits⟩⟩
      rw [same]
      exact shows.fits

/-- Rectangles on the surface are copied as they are. -/
theorem debugPass_of_fits {frame : GpuFrame} {blitter : Blitter} {surface : Extent}
    {copies : List (Handle .bindGroup × Viewport)} (fits : ∀ copy ∈ copies, copy.2.Fits surface) :
    debugPass blitter frame surface copies =
      { encoder := frame.encoder, label := "Debug View", color := frame.view, colorLoad := .keep
        depth := none
        body := copies.flatMap fun copy =>
          [.setViewport copy.2, .setPipeline blitter.pipeline, .setBindGroup 0 copy.1,
            .draw ⟨0, 3⟩ ⟨0, 1⟩] } := by
  rw [debugPass, ListedPass.mk.injEq]
  refine ⟨rfl, rfl, rfl, rfl, rfl, List.flatMap_congr fun copy listed => ?_⟩
  rw [Viewport.clamp?_of_fits (fits copy listed)]
  rfl

/-- The end of a frame opens one more pass for the rectangles that have been left, if there are any. -/
theorem endFrame_follows (recording : backend.frame = some ⟨view, encoder⟩)
    (waiting : List.Forall₂ (backend.Shows rendered) shown backend.pendingBlits) :
    ∃ device events overlay,
      endFrame backend = (.ok (), { backend with device, frame := none, pendingBlits := [] }) ∧
      backend.device.Advances device events ∧ Bracketed events overlay ∧
      CarriesOutOverlay backend view events shown overlay := by
  obtain ⟨device, ran, finished⟩ := endFrame_of_recording recording
  have closed : Bracketed [.submit [encoder], .present] [] := .between rfl (.between rfl .nil)
  by_cases pending : backend.pendingBlits = []
  · rw [pending] at waiting finished
    cases waiting
    exact ⟨device, _, [], ran, finished, closed, .nothing⟩
  · obtain ⟨copies, middle, viewports, created, drawn⟩ := drawBlits_of_pending backend.blitter
      ⟨view, encoder⟩ backend.surfaceSize pending backend.device
    obtain ⟨copied, fits⟩ := copied_of_shows waiting viewports fun event member =>
      List.mem_append_left ((debugPass backend.blitter ⟨view, encoder⟩ backend.surfaceSize
        copies).events ++ [.submit [encoder], .present]) member
    have nonempty : shown ≠ [] := by
      rintro rfl
      exact pending (List.forall₂_nil_left_iff.mp waiting)
    have quiet : ∀ event ∈ List.zipWith
        (fun copy blit => blitGroup backend.blitter copy.1 blit.1) copies backend.pendingBlits,
        event.Between := by
      intro event member
      obtain ⟨place, _, rfl⟩ := List.mem_iff_getElem.mp member
      rw [List.getElem_zipWith]
      rfl
    refine ⟨device, _, _, ran, created.trans (drawn.trans finished),
      (Bracketed.of_between quiet).append ((Bracketed.of_pass proper_debugPass).append closed), ?_⟩
    rw [debugPass_of_fits fits] at copied ⊢
    exact .pass nonempty copied

end GpuBackend

/-! ### Frames -/

namespace CompiledGraph

/-- What the recording renderer notes of a frame. -/
def frameRecord (graph : CompiledGraph HeadlessProgram HeadlessSource) (options : FrameOptions)
    (recorder : HeadlessBackend) : List Command :=
  recorder.recordedSince (graph.run options recorder).state

/-- Whatever the options and the labels of programs, a frame on the GPU opens the passes that the record
of the same frame asks for.  It succeeds; its passes, in order, are one for each recorded clear and each
recorded draw, on the target and in the state that replaying the record gives there; and one more pass
shows what the record shows, if it shows anything. -/
theorem refines_record {session : GpuSession} {graph : CompiledGraph GpuProgram GpuSource}
    {start : GpuBackend} {recorder : HeadlessBackend} (inUse : session.InUse)
    (built : graph.Built GpuBackend) (begun : GpuBackend.beginFrame session.backend = (.ok (), start))
    (wide : 0 < session.backend.surfaceSize.width) (high : 0 < session.backend.surfaceSize.height)
    (drawable : graph.Drawable session.backend.surfaceSize session.backend.limit)
    (sized : recorder.size = session.backend.surfaceSize)
    (allowed : ∀ pass ∈ graph.passes, pass.output ∉ recorder.failing) (options : FrameOptions)
    (naming : ProgramNaming) :
    (graph.run options start).result = .ok () ∧
      ((graph.recorded naming).run options recorder).result = .ok () ∧
      ∃ frame ended events passes overlay,
        start.frame = some frame ∧
        GpuBackend.endFrame (graph.run options start).state = (.ok (), ended) ∧
        ended.device.log = session.backend.device.log ++ events ∧
        Bracketed events (passes ++ overlay) ∧
        List.Forall₂ (Realizes (ended.attachment? frame.view) naming)
          (DrawState.openings {} ((graph.recorded naming).frameRecord options recorder)) passes ∧
        CarriesOutOverlay ended frame.view events
          (shownIn ((graph.recorded naming).frameRecord options recorder)) overlay := by
  obtain ⟨frame, screenDepth, device, ran, _, begins⟩ :=
    GpuBackend.beginFrame_of_ok (congrArg Prod.fst begun)
  cases begun.symm.trans ran
  have abreast : Abreast frame.view [] (session.backend.begun frame screenDepth device) recorder :=
    ⟨⟨frame.encoder, rfl⟩, rfl, inUse.furnished, sized, fun _ => nofun⟩
  obtain ⟨done, recorded, record, encoder, state, recording, _, follows⟩ :=
    runPasses_abreast built.wellFormed drawable options naming wide high (List.nil_append _).symm
      abreast rfl rfl allowed
  have targets : (graph.recorded naming).frameTargets recorder.size options =
      graph.frameTargets session.backend.surfaceSize options := by
    rw [sized]
    rfl
  have noted : (graph.recorded naming).frameRecord options recorder = record := by
    show recorder.recordedSince (runPasses ((graph.recorded naming).frameTargets recorder.size options)
      options.debugView (graph.recorded naming).passes recorder).2.2.2 = record
    rw [targets]
    exact (congrArg recorder.recordedSince state).trans HeadlessBackend.recordedSince_play
  obtain ⟨passes, records, carried⟩ := follows.opens
  obtain ⟨blits, pending, shown⟩ := follows.shows
  rw [← pending.trans (List.nil_append blits)] at shown
  obtain ⟨last, events, overlay, ends, finishes, closes, overlays⟩ :=
    GpuBackend.endFrame_follows recording shown
  obtain ⟨before, advances, bracketed⟩ := (begins.after records).bracketed
  refine ⟨done, ?_, frame, _, before ++ events, passes, overlay, rfl, ends,
    (advances.trans finishes).log_eq, bracketed.append closes, ?_, ?_⟩
  · show (runPasses ((graph.recorded naming).frameTargets recorder.size options) options.debugView
      (graph.recorded naming).passes recorder).1 = .ok ()
    rw [targets]
    exact recorded
  · rw [noted]
    exact (carried {} rfl).imp fun _ _ each => each.realizes
  · rw [noted]
    exact overlays.of_subset (List.subset_append_right _ _) rfl rfl

/-- A session with a program that samples one texture. -/
def litSession : GpuSession :=
  ((GpuSession.new ⟨640, 480⟩ 2048).perform (.createProgram "lit"
    { attributes := [], uniforms := [], textures := [⟨"map", 0, 1⟩], varyings := []
      vertexSource := "", fragmentSource := "", vertexEntry := "vs", fragmentEntry := "fs" } {})).2

/-- A pass that renders a shadow map. -/
def castersPass : Pass GpuProgram GpuSource where
  name := "casters"
  output := "shadow"
  sources := [.triangle "casters"]

/-- A pass that reads the shadow map with the program of the session. -/
def scenePass : Pass GpuProgram GpuSource where
  name := "lit"
  dependencies := .ofList [("map", "shadow")]
  override := litSession.programs.head?
  sources := [⟨[.submit (.pass "scene" [])]⟩, .triangle "haze"]

/-- A scene of the two passes. -/
def shadowScene : List (FrameCall GpuProgram GpuSource) :=
  [.addTarget ⟨{ name := "shadow", size := .absolute ⟨128, 128⟩ }, nofun⟩, .addPass castersPass,
    .addPass scenePass]

/-- The graph that the scene is built to. -/
def shadowGraph : CompiledGraph GpuProgram GpuSource :=
  let authored := FrameGraph.new.authorAll GpuError shadowScene
  { targets := authored.targets, passes := authored.passes }

theorem shadowGraph_built : shadowGraph.Built GpuBackend := by
  obtain ⟨formed, linked, _⟩ := FrameGraph.authorAll_sound (ε := GpuError)
    FrameGraph.WellFormed.new FrameGraph.Linked.new shadowScene
  obtain ⟨warnings, built⟩ := FrameGraph.build_eq_ok (ε := GpuError) formed linked
  exact .build built

theorem shadowGraph_drawable : shadowGraph.Drawable ⟨640, 480⟩ 2048 := by
  constructor
  · intro pass listed
    have passes : shadowGraph.passes = [castersPass, scenePass] := by rfl
    rw [passes, List.mem_cons, List.mem_singleton] at listed
    rcases listed with rfl | rfl
    · have work : castersPass.work = [.submit (.triangle "casters")] := rfl
      have submissions : castersPass.submissions = [.triangle "casters"] := rfl
      exact ⟨nofun, by simp [work], by simp [submissions, GpuSubmission.bare]⟩
    · have work : scenePass.work = [.submit (.pass "scene" []), .submit (.triangle "haze")] := rfl
      have submissions : scenePass.submissions = [.pass "scene" [], .triangle "haze"] := rfl
      refine ⟨fun program own texture sampled => ?_, by simp [work],
        by simp [submissions, GpuSubmission.bare]⟩
      have textures : scenePass.override.map (·.descriptor.textures) = some [⟨"map", 0, 1⟩] := by
        decide +kernel
      rw [own] at textures
      have same : program.descriptor.textures = [⟨"map", 0, 1⟩] := Option.some.inj textures
      rw [same] at sampled
      cases List.mem_singleton.mp sampled
      decide
  · intro name target held offscreen
    have entries : shadowGraph.targets.entries = [(screenName, .screen),
        ("shadow", { name := "shadow", size := .absolute ⟨128, 128⟩ })] := by rfl
    have member := OrderedMap.get?_eq_some_iff.mp held
    rw [entries, List.mem_cons, List.mem_singleton] at member
    rcases member with same | same
    · cases same
      cases offscreen
    · cases same
      decide

/-- In the debug view, the frame of the two passes opens seven passes and one more for the overlay. -/
theorem refines_record_shadowGraph : ∃ start frame ended events passes overlay,
    litSession.InUse ∧ shadowGraph.Built GpuBackend ∧
    GpuBackend.beginFrame litSession.backend = (.ok (), start) ∧
    shadowGraph.Drawable litSession.backend.surfaceSize litSession.backend.limit ∧
    start.frame = some frame ∧
    GpuBackend.endFrame (shadowGraph.run { debugView := true } start).state = (.ok (), ended) ∧
    Bracketed events (passes ++ overlay) ∧
    List.Forall₂ (Realizes (ended.attachment? frame.view) fun resources _ => resources.label)
      (DrawState.openings {} ((shadowGraph.recorded fun resources _ => resources.label).frameRecord
        { debugView := true } { size := ⟨640, 480⟩ })) passes ∧
    (passes ++ overlay).map ListedPass.label =
      ["Clear Color", "Clear Depth", "casters", "Clear Color", "Clear Depth", "scene", "haze",
        "Debug View"] := by
  have inUse : litSession.InUse := .perform _ (.new _ _)
  have surface : litSession.backend.surfaceSize = ⟨640, 480⟩ := by decide +kernel
  have limit : litSession.backend.limit = 2048 := by decide +kernel
  have succeeds : (GpuBackend.beginFrame litSession.backend).1 = .ok () := by decide +kernel
  have begun : GpuBackend.beginFrame litSession.backend =
      (.ok (), (GpuBackend.beginFrame litSession.backend).2) := by
    generalize GpuBackend.beginFrame litSession.backend = run at succeeds ⊢
    exact Prod.ext succeeds rfl
  have drawable : shadowGraph.Drawable litSession.backend.surfaceSize litSession.backend.limit := by
    rw [surface, limit]
    exact shadowGraph_drawable
  let recorder : HeadlessBackend := { size := ⟨640, 480⟩ }
  obtain ⟨_, _, frame, ended, events, passes, overlay, recording, ends, log_eq, bracketed, realized,
    _⟩ := refines_record inUse shadowGraph_built begun (by decide +kernel) (by decide +kernel) drawable
      (show recorder.size = _ from surface.symm) (fun _ _ => List.not_mem_nil) { debugView := true }
      fun resources _ => resources.label
  refine ⟨_, frame, ended, events, passes, overlay, inUse, shadowGraph_built, begun, drawable,
    recording, ends, bracketed, realized, ?_⟩
  have events_eq : events = ended.device.log.drop litSession.backend.device.log.length := by
    rw [log_eq, List.drop_left]
  have ended_eq : ended = (GpuBackend.endFrame (shadowGraph.run { debugView := true }
    (GpuBackend.beginFrame litSession.backend).2).state).2 := by rw [ends]
  rw [← bracketed.listedPasses_eq, events_eq, ended_eq]
  decide +kernel

end CompiledGraph

end ShaderFlow

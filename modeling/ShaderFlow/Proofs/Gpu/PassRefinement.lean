/-
Module: ShaderFlow.Proofs.Gpu.PassRefinement
Purpose: One pass on the GPU renderer and on the recording one, side by side.
Main exports: GpuBackend.Retains, GpuBackend.CarriesOut, GpuBackend.Shows, GpuBackend.Follows,
  Pass.Ready, Abreast, Pass.Ready.run_abreast
-/
import ShaderFlow.Proofs.Gpu.PassSteps
import ShaderFlow.Proofs.Render.BuiltGraph

namespace ShaderFlow

/-!
Both renderers run the same pass.  The two are abreast if they have the same framebuffers for all that
has been rendered so far in the frame.  Then the pass finds on the GPU what it reads, so nothing of it
can fail; the passes that it opens carry out its record, and the rectangles that it leaves for the end of
the frame are those that its record shows.  What passes carry out and rectangles show stays true until
the end of the frame, because no framebuffer that has been rendered is touched again.
-/

/-! ### What stays true until the end of a frame -/

/-- The screen, or an offscreen target that has been rendered. -/
def DrawTarget.Within (rendered : List String) : DrawTarget → Prop
  | .screen => True
  | .framebuffer name => name ∈ rendered ∧ name ≠ screenName

namespace GpuBackend

/-- What later passes leave as it is: the framebuffers of what has been rendered, and whatever has to do
with the surface. -/
structure Retains (backend : GpuBackend) (rendered : List String) (next : GpuBackend) : Prop where
  surfaceSize : next.surfaceSize = backend.surfaceSize
  limit : next.limit = backend.limit
  screenDepth : next.screenDepth = backend.screenDepth
  blitter : next.blitter = backend.blitter
  framebuffers : ∀ name ∈ rendered, name ≠ screenName →
    next.framebuffers.get? name = backend.framebuffers.get? name

/-- The pass carries out a command on a target that has been rendered. -/
structure CarriesOut (backend : GpuBackend) (view : Handle .view) (naming : ProgramNaming)
    (rendered : List String) (opening : Command × DrawState) (pass : ListedPass) : Prop where
  realizes : Realizes (backend.attachment? view) naming opening pass
  within : ∀ target, opening.2.target = some target → target.Within rendered

/-- The rectangle shows the framebuffer of a target that has been rendered. -/
structure Shows (backend : GpuBackend) (rendered : List String) (entry : String × Viewport)
    (blit : GpuFramebuffer × Viewport) : Prop where
  held : backend.framebuffers.get? entry.1 = some blit.1
  cell : blit.2 = entry.2
  fits : blit.2.Fits backend.surfaceSize
  within : entry.1 ∈ rendered ∧ entry.1 ≠ screenName

/-- What the renderer on the GPU has done between two states, compared with the record of the other one:
its passes carry out what the record asks for, and its rectangles show what the record shows. -/
structure Follows (backend : GpuBackend) (view : Handle .view) (naming : ProgramNaming)
    (rendered : List String) (next : GpuBackend) (record : List Command) : Prop where
  opens : ∃ passes, Records backend next passes 0 ∧
    ∀ state : DrawState, state.override = none →
      List.Forall₂ (next.CarriesOut view naming rendered) (state.openings record) passes
  shows : ∃ blits, next.pendingBlits = backend.pendingBlits ++ blits ∧
    List.Forall₂ (next.Shows rendered) (shownIn record) blits
  clear : ∀ state : DrawState, state.override = none → (state.replay record).override = none

variable {backend middle next : GpuBackend} {view : Handle .view} {naming : ProgramNaming}
  {rendered later : List String} {record more : List Command} {opening : Command × DrawState}
  {pass : ListedPass} {entry : String × Viewport} {blit : GpuFramebuffer × Viewport}

theorem Retains.trans (first : backend.Retains rendered middle) (second : middle.Retains later next)
    (subset : rendered ⊆ later) : backend.Retains rendered next where
  surfaceSize := second.surfaceSize.trans first.surfaceSize
  limit := second.limit.trans first.limit
  screenDepth := second.screenDepth.trans first.screenDepth
  blitter := second.blitter.trans first.blitter
  framebuffers name listed offscreen :=
    (second.framebuffers name (subset listed) offscreen).trans
      (first.framebuffers name listed offscreen)

theorem Retains.attachment? (retains : backend.Retains rendered next) {target : DrawTarget}
    (within : target.Within rendered) :
    next.attachment? view target = backend.attachment? view target := by
  unfold GpuBackend.attachment?
  cases target with
  | screen => rw [retains.screenDepth, retains.surfaceSize]
  | framebuffer name =>
      dsimp only
      rw [retains.framebuffers name within.1 within.2]

theorem CarriesOut.retained (carried : backend.CarriesOut view naming rendered opening pass)
    (retains : backend.Retains rendered next) (subset : rendered ⊆ later) :
    next.CarriesOut view naming later opening pass where
  realizes := carried.realizes.congr fun target bound =>
    retains.attachment? (carried.within target bound)
  within target bound := by
    have within := carried.within target bound
    cases target with
    | screen => trivial
    | framebuffer name => exact ⟨subset within.1, within.2⟩

theorem Shows.retained (shows : backend.Shows rendered entry blit)
    (retains : backend.Retains rendered next) (subset : rendered ⊆ later) :
    next.Shows later entry blit where
  held := (retains.framebuffers _ shows.within.1 shows.within.2).trans shows.held
  cell := shows.cell
  fits := retains.surfaceSize ▸ shows.fits
  within := ⟨subset shows.within.1, shows.within.2⟩

theorem Follows.trans (first : backend.Follows view naming rendered middle record)
    (second : middle.Follows view naming later next more) (retains : middle.Retains rendered next)
    (subset : rendered ⊆ later) : backend.Follows view naming later next (record ++ more) where
  opens := by
    obtain ⟨passes, records, carried⟩ := first.opens
    obtain ⟨others, recordsMore, carriedMore⟩ := second.opens
    refine ⟨passes ++ others, records.trans recordsMore, fun state clear => ?_⟩
    rw [DrawState.openings_append]
    exact List.rel_append
      ((carried state clear).imp fun _ _ each => each.retained retains subset)
      (carriedMore _ (first.clear state clear))
  shows := by
    obtain ⟨blits, pending, shown⟩ := first.shows
    obtain ⟨others, pendingMore, shownMore⟩ := second.shows
    refine ⟨blits ++ others, ?_, ?_⟩
    · rw [pendingMore, pending, List.append_assoc]
    · rw [shownIn_append]
      exact List.rel_append (shown.imp fun _ _ each => each.retained retains subset) shownMore
  clear state clear := by
    rw [DrawState.replay_append]
    exact second.clear _ (first.clear state clear)

end GpuBackend

/-! ### One pass on both renderers -/

/-- What a pass finds in a frame: its target, what it reads among the targets that passes before it have
rendered, its own target not among them, and room for it on the device. -/
structure Pass.Ready (pass : Pass GpuProgram GpuSource) (targets : OrderedMap String RenderTarget)
    (surface : Extent) (limit : Nat) (rendered : List String) (target : RenderTarget) : Prop where
  found : targets.get? pass.output = some target
  named : target.name = pass.output
  screen : target.isScreen = true ↔ pass.output = screenName
  valid : pass.Valid
  drawable : pass.Drawable
  reads : ∀ name ∈ pass.dependencies.values, name ∈ rendered ∧ name ≠ screenName
  fresh : pass.output ≠ screenName → pass.output ∉ rendered
  small : target.isScreen = false → (target.size.resolve surface).width.toNat ≤ limit ∧
    (target.size.resolve surface).height.toNat ≤ limit

/-- All cells of the debug view lie on the surface. -/
def Celled (targets : OrderedMap String RenderTarget) (surface : Extent) : Prop :=
  ∀ name target, targets.get? name = some target →
    ∀ cell, target.debugViewport = some cell → cell.Fits surface

/-- In the middle of a frame, the two renderers have the same framebuffers for what has been rendered. -/
structure Abreast (view : Handle .view) (rendered : List String) (backend : GpuBackend)
    (recorder : HeadlessBackend) : Prop where
  recording : ∃ encoder, backend.frame = some ⟨view, encoder⟩
  uninstalled : backend.override = none
  furnished : backend.Furnished
  size : recorder.size = backend.surfaceSize
  held : ∀ name ∈ rendered, name ≠ screenName → ∃ framebuffer,
    backend.framebuffers.get? name = some framebuffer ∧
      recorder.framebuffers.get? name = some framebuffer.descriptor ∧
      framebuffer.descriptor.name = name

namespace Pass

variable {pass : Pass GpuProgram GpuSource} {targets : OrderedMap String RenderTarget}
  {target : RenderTarget} {debugView : Bool} {backend : GpuBackend} {recorder : HeadlessBackend}
  {view : Handle .view} {naming : ProgramNaming} {rendered : List String} {surface : Extent}
  {limit : Nat}

/-- A pass does not render again into what has been rendered. -/
theorem Ready.name_ne (ready : pass.Ready targets surface limit rendered target) {name : String}
    (listed : name ∈ rendered) (offscreen : name ≠ screenName) : target.name ≠ name := by
  rw [ready.named]
  rintro rfl
  exact ready.fresh offscreen listed

theorem Ready.within_bound (ready : pass.Ready targets surface limit rendered target) :
    target.bound.Within (rendered ++ [pass.output]) := by
  unfold RenderTarget.bound
  split
  · trivial
  · next offscreen =>
      rw [ready.named]
      exact ⟨List.mem_append_right _ List.mem_cons_self, ready.screen.not.mp offscreen⟩

/-- The overlay shows what has been rendered. -/
theorem Ready.within_of_shown (ready : pass.Ready targets surface limit rendered target)
    (offscreen : target.isScreen = false) {name : String}
    (listed : name ∈ target.name :: pass.dependencies.values) :
    name ∈ rendered ++ [pass.output] ∧ name ≠ screenName := by
  rcases List.mem_cons.mp listed with rfl | read
  · rw [ready.named]
    refine ⟨List.mem_append_right _ List.mem_cons_self, fun is => ?_⟩
    rw [ready.screen.mpr is] at offscreen
    cases offscreen
  · obtain ⟨before, others⟩ := ready.reads name read
    exact ⟨List.mem_append_left _ before, others⟩

/-- The overlay shows the same framebuffers on both sides, in the same order. -/
theorem shows_blits {names : List String} {descriptors : OrderedMap String FramebufferDescriptor}
    (celled : Celled targets backend.surfaceSize)
    (held : ∀ name ∈ names, (name ∈ rendered ∧ name ≠ screenName) ∧ ∃ framebuffer,
      backend.framebuffers.get? name = some framebuffer ∧
        descriptors.get? name = some framebuffer.descriptor ∧ framebuffer.descriptor.name = name) :
    List.Forall₂ (backend.Shows rendered) (shownIn (names.filterMap (shown? targets descriptors)))
      (names.filterMap (blit? targets backend.framebuffers)) := by
  induction names with
  | nil => exact .nil
  | cons name rest ih =>
      obtain ⟨⟨within, framebuffer, found, recorded, named⟩, others⟩ := List.forall_mem_cons.mp held
      rw [List.filterMap_cons, List.filterMap_cons]
      unfold shown? blit?
      rw [found, recorded]
      cases cell : (targets.get? name).bind RenderTarget.debugViewport with
      | none => exact ih others
      | some cell =>
          obtain ⟨target, registered, celledAt⟩ := Option.bind_eq_some_iff.mp cell
          refine .cons ⟨?_, rfl, celled name target registered _ celledAt, ?_⟩ (ih others)
          · rw [named]
            exact found
          · rw [named]
            exact within

/-- On the recording renderer, a pass that is ready draws unless its framebuffer is refused. -/
theorem Ready.draws_recorded (ready : pass.Ready targets surface limit rendered target)
    (allowed : pass.output ∉ recorder.failing) :
    (pass.recorded naming).Draws targets debugView recorder target := by
  have valid : (pass.recorded naming).Valid := by
    refine ⟨fun offscreen none => ?_, ready.valid.reads_others⟩
    exact ready.valid.drawn offscreen (List.map_eq_nil_iff.mp none)
  have accepted : target.refused recorder = false := by
    rw [RenderTarget.refused, ready.named, Bool.and_eq_false_imp]
    intro _
    simpa using allowed
  exact .of_accepted ready.found (validate_eq_ok_iff.mpr valid) accepted

/-- On the GPU, a pass that is ready opens the passes of its commands in the state that it sets, and
touches no framebuffer but that of its target. -/
theorem Ready.run_ok (naming : ProgramNaming) (debugView : Bool)
    (ready : pass.Ready targets backend.surfaceSize backend.limit rendered target)
    (wide : 0 < backend.surfaceSize.width) (high : 0 < backend.surfaceSize.height)
    (celled : Celled targets backend.surfaceSize) {encoder : Handle .encoder}
    (recording : backend.frame = some ⟨view, encoder⟩) (uninstalled : backend.override = none)
    (furnished : backend.Furnished)
    (held : ∀ name ∈ rendered, name ≠ screenName → ∃ framebuffer,
      backend.framebuffers.get? name = some framebuffer) :
    ∃ device framebuffers bound viewport last passes,
      let next : GpuBackend := { backend with
        device, framebuffers, target := bound, viewport, frame := some ⟨view, last⟩
        pendingBlits := backend.pendingBlits ++ pass.blits target targets debugView framebuffers }
      (pass.run targets debugView backend).result = .ok () ∧
        (pass.run targets debugView backend).state = next ∧
        GpuBackend.Records backend next passes 0 ∧
        List.Forall₂ (Realizes (next.attachment? view) naming)
          (((pass.recorded naming).openers target).map
            (·, (pass.recorded naming).drawState target debugView backend.surfaceSize)) passes ∧
        next.Furnished ∧
        (target.isScreen = false → ∃ framebuffer, framebuffers.get? target.name = some framebuffer ∧
          framebuffer.descriptor = target.descriptor backend.surfaceSize) ∧
        ∀ name ∈ rendered, name ≠ screenName →
          framebuffers.get? name = backend.framebuffers.get? name := by
  obtain ⟨middle, framebuffers, bound, binds, recordsBinding, furnishedNext, aims, output, others⟩ :=
    GpuBackend.exists_bindTarget debugView furnished wide high (celled _ _ ready.found) ready.small
  have kept : ∀ name ∈ rendered, name ≠ screenName →
      framebuffers.get? name = backend.framebuffers.get? name := fun name listed offscreen =>
    others name fun _ => (ready.name_ne listed offscreen).symm
  have inState : ({ backend.aimed middle framebuffers bound
      (target.drawArea debugView backend.surfaceSize) with
        override := (pass.wired (σ := GpuBackend)).override } : GpuBackend).InState ⟨view, encoder⟩
      naming ((pass.recorded naming).drawState target debugView backend.surfaceSize) :=
    ⟨⟨_, rfl, aims.attached _⟩, ⟨_, rfl, DrawArea.getD_viewport? _ _, aims.fits⟩,
      override_wired_recorded pass⟩
  have read : ∀ name ∈ pass.dependencies.values, ∃ framebuffer,
      framebuffers.get? name = some framebuffer := by
    intro name listed
    obtain ⟨before, offscreen⟩ := ready.reads name listed
    rw [kept name before offscreen]
    exact held name before offscreen
  have covered : ∀ submission ∈ (pass.wired (σ := GpuBackend)).submissions, submission.bare = true →
      (pass.wired (σ := GpuBackend)).override ≠ none := fun submission listed bare none =>
    ready.drawable.covered submission listed bare (Option.map_eq_none_iff.mp none)
  have begun : (backend.aimed middle framebuffers bound
      (target.drawArea debugView backend.surfaceSize)).frame = some ⟨view, encoder⟩ := recording
  obtain ⟨device, last, passes, draws, recordsDraws, realized⟩ :=
    GpuBackend.drawOverridden_of_inState begun uninstalled inState
      (fun program => ready.drawable.exists_textureBindings read) ready.drawable.unfailing covered
      aims.deep
  obtain ⟨result, state⟩ := run_of_drawn ready.found ready.valid binds draws
  exact ⟨device, framebuffers, bound, _, last, passes, result, state,
    (recordsBinding.after recordsDraws).before (.quiet rfl (.refl _) (by simp)), realized,
    furnishedNext, output, kept⟩

/-- Once a pass that is ready has run, both renderers keep framebuffers of the same description for what
has been rendered until then. -/
theorem Ready.held_next {framebuffers : OrderedMap String GpuFramebuffer}
    (ready : pass.Ready targets backend.surfaceSize backend.limit rendered target)
    (abreast : Abreast view rendered backend recorder)
    (draws : (pass.recorded naming).Draws targets debugView recorder target)
    (kept : ∀ name ∈ rendered, name ≠ screenName →
      framebuffers.get? name = backend.framebuffers.get? name)
    (output : target.isScreen = false → ∃ framebuffer,
      framebuffers.get? target.name = some framebuffer ∧
        framebuffer.descriptor = target.descriptor backend.surfaceSize) :
    ∀ name ∈ rendered ++ [pass.output], name ≠ screenName → ∃ framebuffer,
      framebuffers.get? name = some framebuffer ∧
        ((pass.recorded naming).run targets debugView recorder).state.framebuffers.get? name =
          some framebuffer.descriptor ∧ framebuffer.descriptor.name = name := by
  intro name listed offscreen
  rcases List.mem_append.mp listed with before | own
  · obtain ⟨framebuffer, found, recorded, named⟩ := abreast.held name before offscreen
    refine ⟨framebuffer, (kept name before offscreen).trans found, ?_, named⟩
    rw [draws.framebuffer_other (ready.name_ne before offscreen)]
    exact recorded
  · cases List.mem_singleton.mp own
    have notScreen : target.isScreen = false :=
      Bool.eq_false_iff.mpr fun is => offscreen (ready.screen.mp is)
    obtain ⟨framebuffer, found, alike⟩ := output notScreen
    rw [← ready.named]
    refine ⟨framebuffer, found, ?_, by rw [alike]; rfl⟩
    rw [draws.framebuffer_output notScreen, abreast.size, alike]

/-- A pass that is ready runs on both renderers without failure.  They are abreast afterwards, and what
the one on the GPU has done follows the record of the other one. -/
theorem Ready.run_abreast (naming : ProgramNaming) (debugView : Bool)
    (ready : pass.Ready targets backend.surfaceSize backend.limit rendered target)
    (wide : 0 < backend.surfaceSize.width) (high : 0 < backend.surfaceSize.height)
    (celled : Celled targets backend.surfaceSize)
    (abreast : Abreast view rendered backend recorder) (allowed : pass.output ∉ recorder.failing) :
    (pass.run targets debugView backend).result = .ok () ∧
      ((pass.recorded naming).run targets debugView recorder).result = .ok () ∧
      Abreast view (rendered ++ [pass.output]) (pass.run targets debugView backend).state
        ((pass.recorded naming).run targets debugView recorder).state ∧
      backend.Retains rendered (pass.run targets debugView backend).state ∧
      backend.Follows view naming (rendered ++ [pass.output])
        (pass.run targets debugView backend).state
        ((pass.recorded naming).record targets debugView recorder) := by
  obtain ⟨encoder, recording⟩ := abreast.recording
  obtain ⟨device, framebuffers, bound, viewport, last, passes, result, state, records, realized,
    furnished, output, kept⟩ := ready.run_ok naming debugView wide high celled
      recording abreast.uninstalled abreast.furnished fun name listed offscreen =>
        (abreast.held name listed offscreen).imp fun _ found => found.1
  have draws : (pass.recorded naming).Draws targets debugView recorder target :=
    ready.draws_recorded allowed
  have held := ready.held_next abreast draws kept output
  have outcome : (pass.recorded naming).outcome = .ok () := outcome_recorded ready.drawable.unfailing
  refine ⟨result, ?_, ?_, ?_, ?_⟩
  · rw [draws.result, outcome]
    rfl
  · rw [state]
    refine ⟨⟨last, rfl⟩, abreast.uninstalled, furnished, ?_, held⟩
    rw [draws.state, HeadlessBackend.size_play]
    exact abreast.size
  · rw [state]
    exact ⟨rfl, rfl, rfl, rfl, kept⟩
  · rw [state]
    constructor
    case opens =>
      refine ⟨passes, records, fun start clear => ?_⟩
      rw [draws.openings_record clear, abreast.size, List.forall₂_map_left_iff]
      rw [List.forall₂_map_left_iff] at realized
      refine realized.imp fun command pass realizes => ⟨realizes, fun other bound => ?_⟩
      cases bound
      exact ready.within_bound
    case shows =>
      refine ⟨_, rfl, ?_⟩
      rw [draws.shownIn_record, overlay_of_ok outcome]
      unfold blits
      split
      · next debugged =>
          refine shows_blits celled fun name listed => ?_
          have within :=
            ready.within_of_shown (by simpa using (Bool.and_eq_true_iff.mp debugged).2) listed
          refine ⟨within, ?_⟩
          rw [draws.framebuffer_script]
          exact held name within.1 within.2
      · exact .nil
    case clear =>
      exact fun start clear => override_replay_record _ _ _ _ clear

end Pass

end ShaderFlow

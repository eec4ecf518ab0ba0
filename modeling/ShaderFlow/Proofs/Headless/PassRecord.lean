/-
Module: ShaderFlow.Proofs.Headless.PassRecord
Purpose: The commands that one pass records.
Main exports: RenderTarget.binding, Pass.opening, Pass.drawn, Pass.closing, Pass.record,
  Pass.Draws, Pass.run_cases, Pass.state_run
-/
import ShaderFlow.Proofs.Headless.Recording
import ShaderFlow.Render.PassRun

namespace ShaderFlow

/-!
A pass that fails before it draws, because it is faulty or its framebuffer is refused, leaves no trace.
Every other pass records the same parts in the same order, whether its draw work fails or not: the
allocation of its framebuffer, the binding of its target, what opens the pass, the draw work up to a
failure, what restores the renderer, and in the debug view the overlay.
-/

namespace RenderTarget

/-- Whether the renderer refuses to allocate the framebuffer of a target. -/
def refused (target : RenderTarget) (backend : HeadlessBackend) : Bool :=
  !target.isScreen && backend.failing.contains target.name

/-- The allocation of the framebuffer of a target, if there is none like it. -/
def allocation (target : RenderTarget) (backend : HeadlessBackend) : List Command :=
  if target.isScreen then []
  else if backend.framebuffers.get? target.name = some (target.descriptor backend.size) then []
  else [.allocate (target.descriptor backend.size)]

/-- The command that binds a target. -/
def binding (target : RenderTarget) : Command :=
  if target.isScreen then .bindScreen else .bindFramebuffer target.name

/-- Where draws go to once a target is bound. -/
def bound (target : RenderTarget) : DrawTarget :=
  if target.isScreen then .screen else .framebuffer target.name

/-- The command that says what part of a target draws may cover. -/
def area (target : RenderTarget) (debugView : Bool) (surface : Extent) : Command :=
  if target.isScreen then
    match target.debugViewport, debugView with
    | some cell, true => .setViewport cell
    | _, _ => .coverTarget
  else .setViewport (.full (target.size.resolve surface))

/-- The part of a target that draws may cover. -/
def drawArea (target : RenderTarget) (debugView : Bool) (surface : Extent) : DrawArea :=
  if target.isScreen then
    match target.debugViewport, debugView with
    | some cell, true => .rectangle cell
    | _, _ => .whole
  else .rectangle (.full (target.size.resolve surface))

end RenderTarget

namespace Pass

/-- The steps of all draw work of a pass, in order. -/
def steps (pass : Pass HeadlessProgram HeadlessSource) : List SourceStep :=
  pass.sources.flatMap HeadlessSource.steps

/-- How the draw work of a pass ends. -/
def outcome (pass : Pass HeadlessProgram HeadlessSource) : Except HeadlessError Unit :=
  SourceStep.outcome pass.steps

/-- The installation of the program of a pass. -/
def installation (pass : Pass HeadlessProgram HeadlessSource) : List Command :=
  (pass.override.map fun program => .setOverride (some program)).toList

/-- The clears of a pass. -/
def clearing (pass : Pass HeadlessProgram HeadlessSource) (target : RenderTarget) : List Command :=
  (if pass.clearsColor then [.setClearColor pass.clearColor, .clearColor pass.clearColor] else []) ++
    if pass.clearsDepth && (target.depth || target.isScreen) then [.clearDepth] else []

/-- What a pass records between the binding of its target and its draw work. -/
def opening (pass : Pass HeadlessProgram HeadlessSource) (target : RenderTarget) (debugView : Bool)
    (surface : Extent) : List Command :=
  target.area debugView surface ::
    ((pass.wired (σ := HeadlessBackend)).installation ++ pass.clearing target)

/-- What the draw work of a pass records. -/
def drawn (pass : Pass HeadlessProgram HeadlessSource) : List Command :=
  SourceStep.recorded pass.steps

/-- What restores the renderer behind the draw work of a pass. -/
def restoring (pass : Pass HeadlessProgram HeadlessSource) (color : Color) : List Command :=
  (if pass.override.isSome then [.setOverride none] else []) ++ [.setClearColor color]

/-- The command that shows a target in its cell, if it has one and a framebuffer. -/
def shown? (targets : OrderedMap String RenderTarget)
    (framebuffers : OrderedMap String FramebufferDescriptor) (name : String) : Option Command :=
  match (targets.get? name).bind RenderTarget.debugViewport, framebuffers.get? name with
  | some cell, some framebuffer => some (.renderFramebuffer framebuffer.name cell)
  | _, _ => none

/-- Everything that a pass records before the overlay. -/
def script (pass : Pass HeadlessProgram HeadlessSource) (target : RenderTarget) (debugView : Bool)
    (backend : HeadlessBackend) : List Command :=
  target.allocation backend ++ target.binding ::
    (pass.opening target debugView backend.size ++ pass.drawn ++ pass.restoring backend.clearColor)

/-- What a pass records in the debug view, after draw work that has succeeded. -/
def overlay (pass : Pass HeadlessProgram HeadlessSource) (target : RenderTarget)
    (targets : OrderedMap String RenderTarget) (debugView : Bool) (backend : HeadlessBackend) :
    List Command :=
  match pass.outcome with
  | .error _ => []
  | .ok () =>
      if debugView && !target.isScreen then
        (target.name :: pass.dependencies.values).filterMap
          (shown? targets (backend.play (pass.script target debugView backend)).framebuffers)
      else []

/-- What a pass records behind its draw work. -/
def closing (pass : Pass HeadlessProgram HeadlessSource) (target : RenderTarget)
    (targets : OrderedMap String RenderTarget) (debugView : Bool) (backend : HeadlessBackend) :
    List Command :=
  pass.restoring backend.clearColor ++ pass.overlay target targets debugView backend

variable {pass : Pass HeadlessProgram HeadlessSource} {target : RenderTarget}
  {targets : OrderedMap String RenderTarget} {debugView : Bool} {backend : HeadlessBackend}

theorem overlay_of_ok (succeeds : pass.outcome = .ok ()) :
    pass.overlay target targets debugView backend =
      if debugView && !target.isScreen then
        (target.name :: pass.dependencies.values).filterMap
          (shown? targets (backend.play (pass.script target debugView backend)).framebuffers)
      else [] := by
  rw [overlay, succeeds]

/-! ### The parts of a pass -/

theorem bindTarget_of_refused (refused : target.refused backend = true) :
    bindTarget target debugView backend = (.error (.allocation target.name), backend) := by
  obtain ⟨offscreen, failing⟩ := Bool.and_eq_true_iff.mp refused
  have allocation : Renderer.ensureFramebuffer (target.descriptor backend.size) backend =
      (.error (.allocation target.name), backend) := if_pos failing
  unfold bindTarget
  rw [if_neg (by simpa using offscreen)]
  dsimp only
  rw [show Renderer.surfaceSize backend = backend.size from rfl, allocation]

theorem ensureFramebuffer_of_accepted (offscreen : target.isScreen = false)
    (accepted : target.refused backend = false) :
    Renderer.ensureFramebuffer (target.descriptor backend.size) backend =
      (.ok (target.descriptor backend.size), backend.play (target.allocation backend)) := by
  have allowed : ¬ backend.failing.contains target.name = true := by
    simpa [RenderTarget.refused, offscreen] using accepted
  have onscreen : ¬ target.isScreen = true := by simp [offscreen]
  apply (if_neg allowed).trans
  unfold RenderTarget.allocation
  rw [if_neg onscreen]
  by_cases present : backend.framebuffers.get? target.name = some (target.descriptor backend.size)
  · exact (if_pos present).trans (by rw [if_pos present]; rfl)
  · exact (if_neg present).trans (by rw [if_neg present]; rfl)

theorem bindTarget_of_accepted (accepted : target.refused backend = false) :
    bindTarget target debugView backend =
      (.ok (), backend.play
        (target.allocation backend ++ [target.binding, target.area debugView backend.size])) := by
  cases screen : target.isScreen with
  | true =>
      unfold bindTarget RenderTarget.allocation RenderTarget.binding RenderTarget.area
      rw [if_pos screen, if_pos screen, if_pos screen, if_pos screen]
      cases target.debugViewport <;> cases debugView <;> rfl
  | false =>
      have offscreen : ¬ target.isScreen = true := by simp [screen]
      unfold bindTarget RenderTarget.binding RenderTarget.area
      rw [if_neg offscreen, if_neg offscreen, if_neg offscreen, HeadlessBackend.play_append]
      dsimp only
      rw [show Renderer.surfaceSize backend = backend.size from rfl,
        ensureFramebuffer_of_accepted screen accepted]
      rfl

theorem clearTargetColor_eq (pass : Pass HeadlessProgram HeadlessSource)
    (backend : HeadlessBackend) :
    pass.clearTargetColor backend = (.ok (), backend.play
      (if pass.clearsColor then [.setClearColor pass.clearColor, .clearColor pass.clearColor]
        else [])) := by
  unfold clearTargetColor
  split <;> rfl

theorem clearTargetDepth_eq (pass : Pass HeadlessProgram HeadlessSource) (target : RenderTarget)
    (backend : HeadlessBackend) :
    pass.clearTargetDepth target backend = (.ok (), backend.play
      (if pass.clearsDepth && (target.depth || target.isScreen) then [.clearDepth] else [])) := by
  unfold clearTargetDepth
  split <;> rfl

theorem clearAndDraw_eq (pass : Pass HeadlessProgram HeadlessSource) (target : RenderTarget)
    (backend : HeadlessBackend) :
    pass.clearAndDraw target backend =
      (pass.outcome, backend.play (pass.clearing target ++ pass.drawn)) := by
  have submitted (state : HeadlessBackend) :
      Action.each Renderer.submit pass.sources state = (pass.outcome, state.play pass.drawn) :=
    HeadlessBackend.each_submit pass.sources state
  unfold clearAndDraw clearing
  rw [Action.bind_apply, clearTargetColor_eq]
  dsimp only
  rw [Action.bind_apply, clearTargetDepth_eq]
  dsimp only
  rw [submitted, HeadlessBackend.play_append, HeadlessBackend.play_append]

/-- Draw work may change the clear color, but the one before is put back. -/
theorem drawOverridden_eq (pass : Pass HeadlessProgram HeadlessSource) (target : RenderTarget)
    (backend : HeadlessBackend) :
    pass.drawOverridden target backend =
      (pass.outcome, backend.play (pass.installation ++ (pass.clearing target ++ pass.drawn) ++
        pass.restoring backend.clearColor)) := by
  have steps : pass.drawOverridden target backend =
      let (result, drawn) := pass.clearAndDraw target (backend.play pass.installation)
      (result, Renderer.setClearColor backend.clearColor
        (if pass.override.isSome then Renderer.setOverride none drawn else drawn)) := by
    unfold drawOverridden installation
    cases pass.override <;> rfl
  rw [steps, clearAndDraw_eq, restoring]
  simp only [HeadlessBackend.play_append]
  cases pass.override.isSome <;> rfl

theorem showTarget_eq (targets : OrderedMap String RenderTarget) (name : String)
    (backend : HeadlessBackend) :
    ∃ warnings, showTarget targets name backend =
      (.ok (), warnings, backend.play (shown? targets backend.framebuffers name).toList) := by
  have held : Renderer.framebuffer? name backend = backend.framebuffers.get? name := rfl
  unfold showTarget shown?
  rw [held]
  cases (targets.get? name).bind RenderTarget.debugViewport with
  | none => exact ⟨_, rfl⟩
  | some cell => cases backend.framebuffers.get? name <;> exact ⟨_, rfl⟩

theorem framebuffers_shown (targets : OrderedMap String RenderTarget) (name : String)
    (backend : HeadlessBackend) :
    (backend.play (shown? targets backend.framebuffers name).toList).framebuffers =
      backend.framebuffers := by
  unfold shown?
  split <;> rfl

/-- The overlay shows what has a cell and a framebuffer, and cannot fail. -/
theorem showTargets_eq (targets : OrderedMap String RenderTarget) (names : List String)
    (backend : HeadlessBackend) :
    ∃ warnings, showTargets targets names backend =
      (.ok (), warnings, backend.play (names.filterMap (shown? targets backend.framebuffers))) := by
  induction names generalizing backend with
  | nil => exact ⟨[], rfl⟩
  | cons name rest ih =>
      obtain ⟨warnings, here⟩ := showTarget_eq targets name backend
      obtain ⟨others, later⟩ := ih (backend.play (shown? targets backend.framebuffers name).toList)
      rw [framebuffers_shown, ← HeadlessBackend.play_append] at later
      have whole : (name :: rest).filterMap (shown? targets backend.framebuffers) =
          (shown? targets backend.framebuffers name).toList ++
            rest.filterMap (shown? targets backend.framebuffers) := by
        rw [List.filterMap_cons]
        cases shown? targets backend.framebuffers name <;> rfl
      unfold showTargets
      rw [here, whole]
      dsimp only
      rw [later]
      exact ⟨_, rfl⟩

/-! ### The record of a pass -/

/-- The clear color that a pass puts back is the one that it was started with. -/
theorem clearColor_bound (target : RenderTarget) (debugView : Bool) (backend : HeadlessBackend) :
    (backend.play (target.allocation backend ++
      [target.binding, target.area debugView backend.size])).clearColor = backend.clearColor := by
  unfold RenderTarget.allocation RenderTarget.binding RenderTarget.area
  cases target.isScreen with
  | true => cases target.debugViewport <;> cases debugView <;> rfl
  | false =>
      rw [HeadlessBackend.play_append, if_neg Bool.false_ne_true]
      split <;> rfl

theorem wired_drawOverridden_eq (pass : Pass HeadlessProgram HeadlessSource)
    (target : RenderTarget) (debugView : Bool) (backend : HeadlessBackend) :
    (pass.wired (σ := HeadlessBackend)).drawOverridden target
        (backend.play (target.allocation backend ++
          [target.binding, target.area debugView backend.size])) =
      (pass.outcome, backend.play (pass.script target debugView backend)) := by
  have restored (color : Color) :
      (pass.wired (σ := HeadlessBackend)).restoring color = pass.restoring color := by
    unfold restoring wired
    rw [Option.isSome_map]
  rw [drawOverridden_eq, clearColor_bound, restored, ← HeadlessBackend.play_append]
  show (pass.outcome, backend.play (target.allocation backend ++
    [target.binding, target.area debugView backend.size] ++
    ((pass.wired (σ := HeadlessBackend)).installation ++ (pass.clearing target ++ pass.drawn) ++
      pass.restoring backend.clearColor))) = _
  simp only [script, opening, List.append_assoc, List.cons_append, List.nil_append]

theorem runOn_of_accepted (pass : Pass HeadlessProgram HeadlessSource)
    (targets : OrderedMap String RenderTarget) (debugView : Bool)
    (accepted : target.refused backend = false) :
    (pass.runOn target targets debugView backend).result = wrap pass.outcome ∧
      (pass.runOn target targets debugView backend).state = backend.play
        (pass.script target debugView backend ++ pass.overlay target targets debugView backend) := by
  have quiet (pass : Pass HeadlessProgram HeadlessSource) :
      (pass.wired (σ := HeadlessBackend)).dependencies = pass.dependencies := rfl
  unfold runOn overlay
  rw [bindTarget_of_accepted accepted]
  dsimp only
  rw [wired_drawOverridden_eq, HeadlessBackend.play_append]
  cases ended : pass.outcome with
  | error error => exact ⟨rfl, rfl⟩
  | ok =>
      dsimp only
      split
      · obtain ⟨warnings, shown⟩ := showTargets_eq targets
          (target.name :: pass.dependencies.values)
          (backend.play (pass.script target debugView backend))
        rw [quiet, shown]
        exact ⟨rfl, rfl⟩
      · exact ⟨rfl, rfl⟩

/-- The commands that a pass records when it is run. -/
def record (targets : OrderedMap String RenderTarget) (debugView : Bool)
    (pass : Pass HeadlessProgram HeadlessSource) (backend : HeadlessBackend) : List Command :=
  backend.recordedSince (pass.run targets debugView backend).state

/-- What a pass does that gets to its target: it ends as its draw work does. -/
structure Draws (targets : OrderedMap String RenderTarget) (debugView : Bool)
    (pass : Pass HeadlessProgram HeadlessSource) (backend : HeadlessBackend)
    (target : RenderTarget) : Prop where
  found : targets.get? pass.output = some target
  result : (pass.run targets debugView backend).result = wrap pass.outcome
  state : (pass.run targets debugView backend).state = backend.play
    (pass.script target debugView backend ++ pass.overlay target targets debugView backend)

theorem run_of_checked (found : targets.get? pass.output = some target)
    (checked : (pass.validate : Except (RenderError HeadlessError) Unit) = .ok ()) :
    pass.run targets debugView backend = pass.runOn target targets debugView backend := by
  rw [run, found]
  dsimp only
  rw [checked]

theorem Draws.of_accepted (found : targets.get? pass.output = some target)
    (checked : (pass.validate : Except (RenderError HeadlessError) Unit) = .ok ())
    (accepted : target.refused backend = false) : pass.Draws targets debugView backend target := by
  have started : pass.run targets debugView backend = pass.runOn target targets debugView backend :=
    run_of_checked found checked
  obtain ⟨result, state⟩ := pass.runOn_of_accepted targets debugView accepted
  exact ⟨found, started ▸ result, started ▸ state⟩

/-- A pass either draws or fails without a trace. -/
theorem run_cases (pass : Pass HeadlessProgram HeadlessSource)
    (targets : OrderedMap String RenderTarget) (debugView : Bool) (backend : HeadlessBackend) :
    (∃ target, pass.Draws targets debugView backend target) ∨
      (∃ error, (pass.run targets debugView backend).result = .error error) ∧
        (pass.run targets debugView backend).state = backend := by
  cases found : targets.get? pass.output with
  | none =>
      right
      rw [run, found]
      exact ⟨⟨_, rfl⟩, rfl⟩
  | some target =>
      cases checked : (pass.validate : Except (RenderError HeadlessError) Unit) with
      | error error =>
          right
          rw [run, found]
          dsimp only
          rw [checked]
          exact ⟨⟨_, rfl⟩, rfl⟩
      | ok =>
          cases accepted : target.refused backend with
          | true =>
              right
              rw [run_of_checked found checked, runOn, bindTarget_of_refused accepted]
              exact ⟨⟨_, rfl⟩, rfl⟩
          | false => exact .inl ⟨target, .of_accepted found checked accepted⟩

theorem record_of_state {commands : List Command}
    (played : (pass.run targets debugView backend).state = backend.play commands) :
    pass.record targets debugView backend = commands := by
  rw [record, played, HeadlessBackend.recordedSince_play]

theorem record_of_unchanged (same : (pass.run targets debugView backend).state = backend) :
    pass.record targets debugView backend = [] := record_of_state same

/-- The renderer after a pass is the one before, played on with the record of the pass. -/
theorem state_run (pass : Pass HeadlessProgram HeadlessSource)
    (targets : OrderedMap String RenderTarget) (debugView : Bool) (backend : HeadlessBackend) :
    (pass.run targets debugView backend).state =
      backend.play (pass.record targets debugView backend) := by
  rcases pass.run_cases targets debugView backend with ⟨target, draws⟩ | ⟨_, same⟩
  · rw [record_of_state draws.state, draws.state]
  · rw [record_of_unchanged same, same]
    rfl

/-- A pass that draws records all of its parts in order. -/
theorem Draws.record (draws : pass.Draws targets debugView backend target) :
    pass.record targets debugView backend = target.allocation backend ++ target.binding ::
      (pass.opening target debugView backend.size ++
        (pass.drawn ++ pass.closing target targets debugView backend)) := by
  rw [record_of_state draws.state, script, closing]
  simp only [List.append_assoc, List.cons_append]

/-- A pass with a record draws. -/
theorem draws_of_mem_record {command : Command}
    (member : command ∈ pass.record targets debugView backend) :
    ∃ target, pass.Draws targets debugView backend target := by
  rcases pass.run_cases targets debugView backend with draws | ⟨_, same⟩
  · exact draws
  · rw [record_of_unchanged same] at member
    cases member

/-- A pass that succeeds draws, and none of its draw work fails. -/
theorem draws_of_ok (succeeded : (pass.run targets debugView backend).result = .ok ()) :
    (∃ target, pass.Draws targets debugView backend target) ∧ pass.outcome = .ok () := by
  rcases pass.run_cases targets debugView backend with ⟨target, draws⟩ | ⟨⟨error, failed⟩, _⟩
  · rw [draws.result] at succeeded
    cases ended : pass.outcome with
    | ok => exact ⟨⟨target, draws⟩, rfl⟩
    | error error =>
        rw [ended] at succeeded
        cases succeeded
  · rw [failed] at succeeded
    cases succeeded

end Pass

end ShaderFlow

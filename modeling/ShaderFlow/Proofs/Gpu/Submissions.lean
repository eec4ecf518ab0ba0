/-
Module: ShaderFlow.Proofs.Gpu.Submissions
Purpose: The draw work that a pass submits to the GPU before something fails.
Main exports: GpuStep.outcome, GpuStep.reached, GpuStep.begun, Pass.begun, Pass.submitted,
  Pass.exists_of_run_ok, Pass.result_run_of_bound
-/
import ShaderFlow.Proofs.Gpu.PassSteps

namespace ShaderFlow

/-!
Draw work ends with the first step that fails, be it a failure of its own or a submission that the
renderer refuses.  So only a first part of its submissions is begun, each with the renderer that those
before it have left.  A pass takes its draw work in this way, once its target is bound, its program is
installed and its clears are done.
-/

namespace GpuStep

/-- How steps end if no submission fails. -/
def outcome : List GpuStep → Except GpuError Unit
  | [] => .ok ()
  | .submit _ :: rest => outcome rest
  | .fail error :: _ => .error error

/-- The submissions that no failure stands in front of. -/
def reached : List GpuStep → List GpuSubmission
  | [] => []
  | .submit submission :: rest => submission :: reached rest
  | .fail _ :: _ => []

/-- The submissions that are begun before a step fails, each with the renderer that it finds. -/
def begun : List GpuStep → GpuBackend → List (GpuSubmission × GpuBackend)
  | [], _ => []
  | .submit submission :: rest, backend => (submission, backend) ::
      match submission.submit backend with
      | (.ok (), later) => begun rest later
      | (.error _, _) => []
  | .fail _ :: _, _ => []

end GpuStep

namespace Pass

section

variable {σ φ π ς ε : Type} [Renderer σ φ π ς ε] {pass : Pass π ς} {state : σ}
  {targets : OrderedMap String RenderTarget} {debugView : Bool}

/-- The renderer with the program of a pass installed, if the pass has one. -/
def installed (pass : Pass π ς) (state : σ) : σ :=
  match pass.override with
  | some program => Renderer.setOverride (some program) state
  | none => state

/-- The clears of a pass. -/
def clears (pass : Pass π ς) (target : RenderTarget) : Action σ ε Unit := do
  pass.clearTargetColor
  pass.clearTargetDepth target

theorem clearAndDraw_eq_clears (pass : Pass π ς) (target : RenderTarget) :
    (pass.clearAndDraw target : Action σ ε Unit) =
      pass.clears target >>= fun _ => Action.each Renderer.submit pass.sources :=
  (bind_assoc _ _ _).symm

theorem fst_drawOverridden (pass : Pass π ς) (target : RenderTarget) (state : σ) :
    (pass.drawOverridden target state).1 = (pass.clearAndDraw target (pass.installed state)).1 := rfl

/-- A pass that succeeds has bound its target and has drawn. -/
theorem exists_of_run_ok (succeeded : (pass.run targets debugView state).result = .ok ()) :
    ∃ target bound, targets.get? pass.output = some target ∧
      (pass.validate : Except (RenderError ε) Unit) = .ok () ∧
      bindTarget target debugView state = (.ok (), bound) ∧
      ((pass.wired (σ := σ)).drawOverridden target bound).1 = .ok () := by
  unfold run at succeeded
  split at succeeded
  · cases succeeded
  next target found =>
  split at succeeded
  · cases succeeded
  next valid =>
  unfold runOn at succeeded
  split at succeeded
  · cases succeeded
  next bound binds =>
  dsimp only at succeeded
  split at succeeded
  · cases succeeded
  next drawn draws => exact ⟨target, bound, found, valid, binds, congrArg Prod.fst draws⟩

end

variable {pass : Pass GpuProgram GpuSource} {targets : OrderedMap String RenderTarget}
  {target : RenderTarget} {debugView : Bool} {backend bound : GpuBackend}

/-- The submissions that a pass begins on a target that is bound, each with the renderer that it
finds. -/
def begun (pass : Pass GpuProgram GpuSource) (target : RenderTarget) (backend : GpuBackend) :
    List (GpuSubmission × GpuBackend) :=
  match pass.clears target (pass.installed backend) with
  | (.ok (), cleared) => GpuStep.begun pass.work cleared
  | (.error _, _) => []

/-- The submissions that a pass begins in its run, each with the renderer that it finds. -/
def submitted (pass : Pass GpuProgram GpuSource) (targets : OrderedMap String RenderTarget)
    (debugView : Bool) (backend : GpuBackend) : List (GpuSubmission × GpuBackend) :=
  match targets.get? pass.output, (pass.validate : Except (RenderError GpuError) Unit) with
  | some target, .ok () =>
      match bindTarget target debugView backend with
      | (.ok (), bound) => (pass.wired (σ := GpuBackend)).begun target bound
      | (.error _, _) => []
  | _, _ => []

/-- Once the target of a pass is bound, it submits its draw work there. -/
theorem submitted_of_bound (found : targets.get? pass.output = some target) (valid : pass.Valid)
    (binds : bindTarget target debugView backend = (.ok (), bound)) :
    pass.submitted targets debugView backend = (pass.wired (σ := GpuBackend)).begun target bound := by
  unfold submitted
  rw [found, validate_eq_ok_iff.mpr valid]
  dsimp only
  rw [binds]

/-- Once the target of a pass is bound, its run ends as its draw work does: the debug view cannot
fail. -/
theorem result_run_of_bound (found : targets.get? pass.output = some target) (valid : pass.Valid)
    (binds : bindTarget target debugView backend = (.ok (), bound)) :
    (pass.run targets debugView backend).result =
      wrap ((pass.wired (σ := GpuBackend)).drawOverridden target bound).1 := by
  cases draws : (pass.wired (σ := GpuBackend)).drawOverridden target bound with
  | mk outcome drawn =>
      cases outcome with
      | ok => exact (run_of_drawn found valid binds draws).1
      | error error =>
          unfold run runOn
          rw [found]
          dsimp only
          rw [validate_eq_ok_iff.mpr valid, binds]
          dsimp only
          rw [draws]
          rfl

/-- A pass whose target cannot be bound fails and submits nothing. -/
theorem run_of_unbound {error : GpuError} {left : GpuBackend}
    (found : targets.get? pass.output = some target) (valid : pass.Valid)
    (unbound : bindTarget target debugView backend = (.error error, left)) :
    (pass.run targets debugView backend).result = .error (.backend error) ∧
      pass.submitted targets debugView backend = [] := by
  unfold run submitted runOn
  rw [found, validate_eq_ok_iff.mpr valid]
  dsimp only
  rw [unbound]
  exact ⟨rfl, rfl⟩

end Pass

end ShaderFlow

/-
Module: ShaderFlow.Proofs.Gpu.TargetPainting
Purpose: All passes that the clears and the draw work of a pass open are on the target it has bound.
Main exports: GpuBackend.Amid, GpuBackend.Paints, GpuBackend.Paints.clearAndDraw,
  Pass.clears_of_recording, Pass.paints_drawOverridden
-/
import ShaderFlow.Proofs.Gpu.Submissions

namespace ShaderFlow

/-!
Neither clears nor draw work bind another target.  So whatever they do, and wherever they fail, the
passes that they open are on the color of the target that is bound, and each submission that succeeds
opens one.  No assumption is made on programs and framebuffers: draw work may well fail.
-/

namespace GpuBackend

/-- The renderer somewhere in the course of a pass. -/
def Amid (backend : GpuBackend) (frame : GpuFrame) (reached : GpuBackend) : Prop :=
  ∃ device encoder color, reached = backend.during frame device encoder color

/-- A step that only opens passes on the bound target, and no fewer than the given number of them if it
succeeds. -/
def Paints (backend : GpuBackend) (frame : GpuFrame) (least : Nat) (step : GpuAction Unit) : Prop :=
  ∀ reached, backend.Amid frame reached →
    backend.Amid frame (step reached).2 ∧ ∃ passes, Records reached (step reached).2 passes 0 ∧
      (∀ opened ∈ passes, opened.color = (backend.attachments frame).1) ∧
      ((step reached).1 = .ok () → least ≤ passes.length)

variable {backend reached : GpuBackend} {frame : GpuFrame} {pass : Pass GpuProgram GpuSource}
  {target : RenderTarget}

theorem amid_of_recording (recording : backend.frame = some frame) : backend.Amid frame backend :=
  ⟨backend.device, frame.encoder, backend.clearColor, by rw [during, ← recording]⟩

/-- A step that opens one pass at most, on the bound target, whatever it is that has gone on. -/
theorem Paints.of_cases {least : Nat} {step : GpuAction Unit} (small : least ≤ 1)
    (cases : ∀ device encoder color,
      let reached := backend.during frame device encoder color
      ∃ later last changed, let next := backend.during frame later last changed
        (∃ opened, step reached = (.ok (), next) ∧ Records reached next [opened] 0 ∧
          opened.color = (backend.attachments frame).1) ∨
        ∃ outcome, step reached = (outcome, next) ∧ Records reached next [] 0 ∧
          (outcome = .ok () → least = 0)) :
    backend.Paints frame least step := by
  rintro _ ⟨device, encoder, color, rfl⟩
  obtain ⟨later, last, changed, ⟨opened, ran, records, painted⟩ | ⟨outcome, ran, records, none⟩⟩ :=
    cases device encoder color
  · rw [ran]
    exact ⟨⟨later, last, changed, rfl⟩, [opened], records, List.forall_mem_singleton.mpr painted,
      fun _ => small⟩
  · rw [ran]
    exact ⟨⟨later, last, changed, rfl⟩, [], records, fun _ => nofun, fun ok => (none ok).le⟩

namespace Paints

theorem nil : backend.Paints frame 0 (pure ()) := fun reached amid =>
  ⟨amid, [], .refl reached, fun _ => nofun, fun _ => Nat.zero_le _⟩

theorem bind {least more : Nat} {step next : GpuAction Unit} (first : backend.Paints frame least step)
    (second : backend.Paints frame more next) :
    backend.Paints frame (least + more) (step >>= fun _ => next) := by
  intro reached amid
  obtain ⟨amidNext, passes, records, painted, enough⟩ := first reached amid
  rw [Action.bind_apply]
  cases ran : step reached with
  | mk outcome middle =>
      rw [ran] at amidNext records enough
      cases outcome with
      | error error => exact ⟨amidNext, passes, records, painted, nofun⟩
      | ok =>
          obtain ⟨amidLast, others, recordsMore, paintedMore, enoughMore⟩ := second middle amidNext
          refine ⟨amidLast, passes ++ others, records.trans recordsMore,
            List.forall_mem_append.mpr ⟨painted, paintedMore⟩, fun succeeded => ?_⟩
          rw [List.length_append]
          exact Nat.add_le_add (enough rfl) (enoughMore succeeded)

theorem each {ι : Type} {items : List ι} {step : ι → GpuAction Unit}
    (paints : ∀ item ∈ items, backend.Paints frame 1 (step item)) :
    backend.Paints frame items.length (Action.each step items) := by
  induction items with
  | nil => exact nil
  | cons item rest ih =>
      obtain ⟨here, others⟩ := List.forall_mem_cons.mp paints
      rw [Action.each_cons, List.length_cons, Nat.add_comm]
      exact here.bind (ih others)

/-! ### The steps of a pass -/

theorem clearTargetColor (pass : Pass GpuProgram GpuSource) :
    backend.Paints frame (if pass.clearsColor then 1 else 0) pass.clearTargetColor := by
  cases asked : pass.clearsColor with
  | false =>
      unfold Pass.clearTargetColor
      rw [asked]
      exact nil
  | true =>
      refine of_cases le_rfl fun device encoder color => ?_
      obtain ⟨later, ran, records⟩ :=
        clearTargetColor_during backend frame device encoder color asked
      exact ⟨later, encoder, pass.clearColor, .inl ⟨_, ran, records, rfl⟩⟩

theorem clearTargetDepth (pass : Pass GpuProgram GpuSource) (target : RenderTarget) :
    backend.Paints frame 0 (pass.clearTargetDepth target) := by
  unfold Pass.clearTargetDepth
  cases pass.clearsDepth && (target.depth || target.isScreen) with
  | false => exact nil
  | true =>
      refine of_cases (Nat.zero_le 1) fun device encoder color => ?_
      cases deep : backend.targetHasDepth with
      | true =>
          obtain ⟨later, ran, records⟩ :=
            clearTargetDepth_during backend frame device encoder color deep
          exact ⟨later, encoder, color, .inl ⟨_, ran, records, rfl⟩⟩
      | false =>
          have same : GpuBackend.clearTargetDepth (backend.during frame device encoder color) = _ :=
            clearTargetDepth_of_flat deep
          exact ⟨device, encoder, color, .inr ⟨_, same, .refl _, fun _ => rfl⟩⟩

theorem submit (submission : GpuSubmission) : backend.Paints frame 1 submission.submit := by
  refine of_cases le_rfl fun device encoder color => ?_
  have recording : (backend.during frame device encoder color).frame =
      some { frame with encoder } := rfl
  rcases submission.submit_cases (backend.during frame device encoder color) with
    ⟨_, _, ran⟩ | ⟨draws, lists, ran⟩
  · exact ⟨device, encoder, color, .inr ⟨_, ran, .refl _, nofun⟩⟩
  · obtain ⟨last, later, ⟨prepared, _, opened, records⟩ | ⟨error, _, _, _, failed, records⟩⟩ :=
      renderPass_cases submission.label recording lists fun _ => GpuSubmission.inPass_of_mem_commands
    · exact ⟨later, last, color, .inl ⟨_, ran.trans opened, records, rfl⟩⟩
    · exact ⟨later, last, color, .inr ⟨_, ran.trans failed, records, nofun⟩⟩

theorem take (step : GpuStep) : backend.Paints frame 1 step.take := by
  cases step with
  | submit submission => exact submit submission
  | fail error =>
      exact of_cases le_rfl fun device encoder color =>
        ⟨device, encoder, color, .inr ⟨_, rfl, .refl _, nofun⟩⟩

theorem clears (pass : Pass GpuProgram GpuSource) (target : RenderTarget) :
    backend.Paints frame (if pass.clearsColor then 1 else 0) (pass.clears target) :=
  (clearTargetColor pass).bind (clearTargetDepth pass target)

/-- If a pass draws, it opens a pass for its color clear and one for each step of its draw work. -/
theorem clearAndDraw (pass : Pass GpuProgram GpuSource) (target : RenderTarget) :
    backend.Paints frame ((if pass.clearsColor then 1 else 0) + pass.work.length)
      (pass.clearAndDraw target) := by
  rw [Pass.clearAndDraw_eq_clears, Pass.each_submit]
  exact (clears pass target).bind (each fun step _ => take step)

end Paints

end GpuBackend

namespace Pass

variable {backend : GpuBackend} {frame : GpuFrame} {pass : Pass GpuProgram GpuSource}
  {target : RenderTarget}

/-- In a frame, no clear fails. -/
theorem clears_of_recording (pass : Pass GpuProgram GpuSource) (target : RenderTarget)
    (recording : backend.frame = some frame) : (pass.clears target backend).1 = .ok () := by
  obtain ⟨cleared, ran, goesOn⟩ : ∃ cleared, pass.clearTargetColor backend = (.ok (), cleared) ∧
      cleared.frame = some frame := by
    unfold clearTargetColor
    split
    · have colored : ({ backend with clearColor := pass.clearColor } : GpuBackend).frame =
          some frame := recording
      obtain ⟨later, ran, _⟩ :=
        GpuBackend.clear_of_recording "Clear Color" (.clear pass.clearColor) .keep colored
      exact ⟨_, ran, recording⟩
    · exact ⟨backend, rfl, recording⟩
  rw [clears, Action.bind_apply, ran]
  dsimp only
  unfold clearTargetDepth
  split
  · cases deep : cleared.targetHasDepth with
    | true =>
        obtain ⟨later, done, _⟩ :=
          GpuBackend.clear_of_recording "Clear Depth" .keep (.clear .one) goesOn
        show (GpuBackend.clearTargetDepth cleared).1 = .ok ()
        rw [GpuBackend.clearTargetDepth, GpuBackend.get_bind_apply, deep, if_pos rfl, done]
    | false => exact congrArg Prod.fst (GpuBackend.clearTargetDepth_of_flat deep)
  · rfl

theorem installed_eq (pass : Pass GpuProgram GpuSource) (backend : GpuBackend) :
    pass.installed backend = { backend with override := pass.override.or backend.override } := by
  unfold installed
  cases pass.override <;> rfl

/-- Whatever a pass draws is on the target that is bound.  What it leaves behind are the device, the
encoder and whether a program is installed. -/
theorem paints_drawOverridden (recording : backend.frame = some frame)
    (pass : Pass GpuProgram GpuSource) (target : RenderTarget) :
    ∃ passes device encoder override,
      let drawn : GpuBackend := { backend with device, override, frame := some { frame with encoder } }
      (pass.drawOverridden target backend).2 = drawn ∧
        GpuBackend.Records backend drawn passes 0 ∧
        (∀ opened ∈ passes, opened.color = (backend.attachments frame).1) ∧
        ((pass.drawOverridden target backend).1 = .ok () →
          (if pass.clearsColor then 1 else 0) + pass.work.length ≤ passes.length) := by
  have begun : (pass.installed backend).Amid frame (pass.installed backend) :=
    GpuBackend.amid_of_recording (by rw [installed_eq]; exact recording)
  obtain ⟨⟨device, encoder, color, reached⟩, passes, records, painted, enough⟩ :=
    GpuBackend.Paints.clearAndDraw pass target _ begun
  have opens : GpuBackend.Records backend (pass.installed backend) [] 0 := by
    rw [installed_eq]
    exact .quiet rfl (.refl _) (by simp)
  have drawn : (pass.drawOverridden target backend).2 = Renderer.setClearColor
      (Renderer.clearColorValue (pass.installed backend))
      (if pass.override.isSome then Renderer.setOverride none
        (pass.clearAndDraw target (pass.installed backend)).2
      else (pass.clearAndDraw target (pass.installed backend)).2) := rfl
  rw [reached] at drawn records
  rw [installed_eq] at drawn records painted opens
  refine ⟨passes, device, encoder, if pass.override.isSome then none else backend.override, ?_,
    (opens.after records).before (.quiet rfl (.refl _) (by simp)), painted, enough⟩
  rw [drawn]
  cases pass.override <;> rfl

end Pass

end ShaderFlow

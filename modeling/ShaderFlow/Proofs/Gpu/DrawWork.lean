/-
Module: ShaderFlow.Proofs.Gpu.DrawWork
Purpose: The passes that the GPU renderer opens for the clears and the draw work of a pass.
Main exports: GpuBackend.during, GpuBackend.Carries, Pass.openers_recorded,
  GpuBackend.drawOverridden_of_inState
-/
import ShaderFlow.Proofs.Gpu.Realization

namespace ShaderFlow

/-!
While a pass clears and draws, only the device, the encoder of the frame and the clear color change.
So every step of it finds the target, the area and the program that the pass has set, and opens the
passes that the record asks for in that state.  At the end the program is removed and the clear color
is put back.
-/

/-! ### The commands of a pass -/

namespace Pass

variable {naming : ProgramNaming} {pass : Pass GpuProgram GpuSource}

/-- The steps of the record, without failures among them. -/
theorem steps_recorded (unfailing : ∀ error, .fail error ∉ pass.work) :
    (pass.recorded naming).steps = pass.submissions.map fun submission => .draw submission.label := by
  have steps : (pass.recorded naming).steps = pass.work.map GpuStep.recorded := by
    show (pass.sources.map GpuSource.recorded).flatMap HeadlessSource.steps = _
    rw [List.flatMap_map, work, List.map_flatMap]
    rfl
  rw [steps, work_eq_map_submissions unfailing, List.map_map]
  rfl

theorem drawn_recorded (unfailing : ∀ error, .fail error ∉ pass.work) :
    (pass.recorded naming).drawn = pass.submissions.map fun submission => .draw submission.label := by
  rw [drawn, steps_recorded unfailing]
  induction pass.submissions with
  | nil => rfl
  | cons submission rest ih => exact congrArg (.draw submission.label :: ·) ih

/-- Draw work that does not fail by itself does not fail in the record either. -/
theorem outcome_recorded (unfailing : ∀ error, .fail error ∉ pass.work) :
    (pass.recorded naming).outcome = .ok () := by
  refine SourceStep.outcome_eq_ok_iff.mpr fun label member => ?_
  rw [steps_recorded unfailing] at member
  obtain ⟨submission, _, other⟩ := List.mem_map.mp member
  cases other

/-- The commands of a pass that open passes: at most one clear of either kind, and one draw for each
submission. -/
theorem openers_recorded (unfailing : ∀ error, .fail error ∉ pass.work) (target : RenderTarget) :
    (pass.recorded naming).openers target =
      (if pass.clearsColor then [.clearColor pass.clearColor] else []) ++
        ((if pass.clearsDepth && (target.depth || target.isScreen) then [.clearDepth] else []) ++
          pass.submissions.map fun submission => .draw submission.label) := by
  have draws : (pass.submissions.map fun submission => Command.draw submission.label).filter
      Command.opensPass = pass.submissions.map fun submission => .draw submission.label := by
    refine List.filter_eq_self.mpr fun command member => ?_
    obtain ⟨submission, _, rfl⟩ := List.mem_map.mp member
    rfl
  rw [openers, drawn_recorded unfailing, List.filter_append, draws, filter_clearing,
    List.append_assoc]
  rfl

end Pass

namespace GpuBackend

/-- The renderer in the course of a pass: device, encoder and clear color have gone on. -/
def during (backend : GpuBackend) (frame : GpuFrame) (device : Device) (encoder : Handle .encoder)
    (clearColor : Color) : GpuBackend :=
  { backend with device, clearColor, frame := some { frame with encoder } }

/-- A step that succeeds and opens passes for the given commands, however far the pass has got. -/
def Carries (backend : GpuBackend) (frame : GpuFrame) (naming : ProgramNaming) (state : DrawState)
    (commands : List Command) (step : GpuAction Unit) : Prop :=
  ∀ device encoder color, ∃ later last changed passes,
    step (backend.during frame device encoder color) =
        (.ok (), backend.during frame later last changed) ∧
      Records (backend.during frame device encoder color)
        (backend.during frame later last changed) passes 0 ∧
      List.Forall₂ (Realizes (backend.attachment? frame.view) naming) (commands.map (·, state)) passes

variable {backend : GpuBackend} {frame : GpuFrame} {naming : ProgramNaming} {state : DrawState}
  {pass : Pass GpuProgram GpuSource} {target : RenderTarget}

/-! ### Clears in the course of a pass -/

theorem clearTargetColor_during (backend : GpuBackend) (frame : GpuFrame) (device : Device)
    (encoder : Handle .encoder) (color : Color) (asked : pass.clearsColor = true) :
    ∃ later, let next := backend.during frame later encoder pass.clearColor
      pass.clearTargetColor (backend.during frame device encoder color) = (.ok (), next) ∧
        Records (backend.during frame device encoder color) next
          [(backend.during frame device encoder pass.clearColor).clearPass { frame with encoder }
            "Clear Color" (.clear pass.clearColor) .keep] 0 := by
  have recording : (backend.during frame device encoder pass.clearColor).frame =
      some { frame with encoder } := rfl
  obtain ⟨later, ran, advance⟩ := clear_of_recording "Clear Color" (.clear pass.clearColor) .keep
    recording
  unfold Pass.clearTargetColor
  rw [asked]
  exact ⟨later, ran, .pass rfl rfl rfl proper_clearPass advance⟩

theorem clearTargetDepth_during (backend : GpuBackend) (frame : GpuFrame) (device : Device)
    (encoder : Handle .encoder) (color : Color) (deep : backend.targetHasDepth = true) :
    ∃ later, let next := backend.during frame later encoder color
      GpuBackend.clearTargetDepth (backend.during frame device encoder color) = (.ok (), next) ∧
        Records (backend.during frame device encoder color) next
          [(backend.during frame device encoder color).clearPass { frame with encoder }
            "Clear Depth" .keep (.clear .one)] 0 := by
  have recording : (backend.during frame device encoder color).frame =
      some { frame with encoder } := rfl
  obtain ⟨later, ran, advance⟩ := clear_of_recording "Clear Depth" .keep (.clear .one) recording
  refine ⟨later, ?_, .pass rfl rfl rfl proper_clearPass advance⟩
  rw [GpuBackend.clearTargetDepth, get_bind_apply,
    show (backend.during frame device encoder color).targetHasDepth = true from deep, if_pos rfl, ran]
  rfl

/-- Without depth there is nothing to clear. -/
theorem clearTargetDepth_of_flat (flat : backend.targetHasDepth = false) :
    GpuBackend.clearTargetDepth backend = (.ok (), backend) := by
  rw [GpuBackend.clearTargetDepth, get_bind_apply, flat]
  rfl

/-- What has gone on does not matter to target, area and program. -/
theorem InState.during (inState : backend.InState frame naming state) (device : Device)
    (encoder : Handle .encoder) (color : Color) :
    (backend.during frame device encoder color).InState { frame with encoder } naming state :=
  ⟨inState.bound, inState.covered, inState.installed⟩

namespace Carries

theorem nil : backend.Carries frame naming state [] (pure ()) := fun device encoder color =>
  ⟨device, encoder, color, [], rfl, .refl _, .nil⟩

theorem bind {commands more : List Command} {step next : GpuAction Unit}
    (first : backend.Carries frame naming state commands step)
    (second : backend.Carries frame naming state more next) :
    backend.Carries frame naming state (commands ++ more) (step >>= fun _ => next) := by
  intro device encoder color
  obtain ⟨middle, swapped, set, passes, ran, records, realized⟩ := first device encoder color
  obtain ⟨later, last, changed, others, went, recordsOn, realizedOn⟩ := second middle swapped set
  refine ⟨later, last, changed, passes ++ others, ?_, records.trans recordsOn, ?_⟩
  · rw [Action.bind_apply, ran]
    exact went
  · rw [List.map_append]
    exact List.rel_append realized realizedOn

theorem each {ι : Type} {items : List ι} {command : ι → Command} {step : ι → GpuAction Unit}
    (carries : ∀ item ∈ items, backend.Carries frame naming state [command item] (step item)) :
    backend.Carries frame naming state (items.map command) (Action.each step items) := by
  induction items with
  | nil => exact nil
  | cons item rest ih =>
      obtain ⟨here, others⟩ := List.forall_mem_cons.mp carries
      rw [Action.each_cons]
      exact here.bind (ih others)

/-! ### The steps of a pass -/

theorem clearTargetColor (inState : backend.InState frame naming state)
    (pass : Pass GpuProgram GpuSource) :
    backend.Carries frame naming state
      (if pass.clearsColor then [.clearColor pass.clearColor] else []) pass.clearTargetColor := by
  cases asked : pass.clearsColor with
  | false =>
      unfold Pass.clearTargetColor
      rw [asked]
      exact nil
  | true =>
      intro device encoder color
      obtain ⟨later, ran, records⟩ :=
        clearTargetColor_during backend frame device encoder color asked
      refine ⟨later, encoder, pass.clearColor, _, ran, records, .cons ?_ .nil⟩
      exact (inState.during device encoder pass.clearColor).realizes_clearColor pass.clearColor

theorem clearTargetDepth (inState : backend.InState frame naming state)
    (pass : Pass GpuProgram GpuSource)
    (deep : backend.targetHasDepth = (target.depth || target.isScreen)) :
    backend.Carries frame naming state
      (if pass.clearsDepth && (target.depth || target.isScreen) then [.clearDepth] else [])
      (pass.clearTargetDepth target) := by
  unfold Pass.clearTargetDepth
  rw [← deep]
  cases asked : pass.clearsDepth && backend.targetHasDepth with
  | false => exact nil
  | true =>
      obtain ⟨_, has⟩ := Bool.and_eq_true_iff.mp asked
      intro device encoder color
      obtain ⟨later, ran, records⟩ := clearTargetDepth_during backend frame device encoder color has
      exact ⟨later, encoder, color, _, ran, records,
        .cons ((inState.during device encoder color).realizes_clearDepth has) .nil⟩

theorem submit (inState : backend.InState frame naming state)
    (bindable : ∀ program, backend.override = some program →
      ∃ bindings, program.textureBindings backend.framebuffers = .ok bindings)
    {submission : GpuSubmission} (covered : submission.bare = true → backend.override ≠ none) :
    backend.Carries frame naming state [.draw submission.label] submission.submit := by
  intro device encoder color
  have recording : (backend.during frame device encoder color).frame =
      some { frame with encoder } := rfl
  rcases submission.submit_cases (backend.during frame device encoder color) with
    ⟨bare, none, _⟩ | ⟨draws, lists, ran⟩
  · exact absurd none (covered bare)
  · obtain ⟨last, later, ⟨prepared, installed, opened, records⟩ |
        ⟨error, program, installed, refused, _⟩⟩ :=
      renderPass_cases submission.label recording lists fun _ => GpuSubmission.inPass_of_mem_commands
    · have proper : ∀ event ∈ submission.commands, event.inPass = true := fun _ =>
        GpuSubmission.inPass_of_mem_commands
      have realized :=
        (inState.during device last color).realizes_draw submission.label installed proper
      exact ⟨later, last, color, _, ran.trans opened, records, .cons realized .nil⟩
    · obtain ⟨bindings, found⟩ := bindable program installed
      cases found.symm.trans refused

theorem clearAndDraw (inState : backend.InState frame naming state)
    (bindable : ∀ program, backend.override = some program →
      ∃ bindings, program.textureBindings backend.framebuffers = .ok bindings)
    (unfailing : ∀ error, .fail error ∉ pass.work)
    (covered : ∀ submission ∈ pass.submissions, submission.bare = true → backend.override ≠ none)
    (deep : backend.targetHasDepth = (target.depth || target.isScreen)) :
    backend.Carries frame naming state ((pass.recorded naming).openers target)
      (pass.clearAndDraw target) := by
  rw [Pass.openers_recorded unfailing, Pass.clearAndDraw, Pass.each_submit,
    Pass.work_eq_map_submissions unfailing, Action.each_map]
  exact (clearTargetColor inState pass).bind <| (clearTargetDepth inState pass deep).bind <|
    each fun submission listed => submit inState bindable (covered submission listed)

end Carries

/-- With its program installed a pass opens the passes of its commands; then override and clear color
are as before. -/
theorem drawOverridden_of_inState (recording : backend.frame = some frame)
    (uninstalled : backend.override = none)
    (inState : ({ backend with override := pass.override } : GpuBackend).InState frame naming state)
    (bindable : ∀ program, pass.override = some program →
      ∃ bindings, program.textureBindings backend.framebuffers = .ok bindings)
    (unfailing : ∀ error, .fail error ∉ pass.work)
    (covered : ∀ submission ∈ pass.submissions, submission.bare = true → pass.override ≠ none)
    (deep : backend.targetHasDepth = (target.depth || target.isScreen)) :
    ∃ device encoder passes, pass.drawOverridden target backend =
        (.ok (), { backend with device, frame := some { frame with encoder } }) ∧
      Records backend { backend with device, frame := some { frame with encoder } } passes 0 ∧
      List.Forall₂ (Realizes (backend.attachment? frame.view) naming)
        (((pass.recorded naming).openers target).map (·, state)) passes := by
  have start : ({ backend with override := pass.override } : GpuBackend).during frame backend.device
      frame.encoder backend.clearColor = { backend with override := pass.override } := by
    rw [during, ← recording]
  obtain ⟨device, encoder, color, passes, ran, records, realized⟩ :=
    Carries.clearAndDraw inState bindable unfailing covered deep backend.device frame.encoder
      backend.clearColor
  rw [start] at ran records
  have opens : Records backend { backend with override := pass.override } [] 0 :=
    .quiet rfl (.refl _) (by simp)
  have restores : Records (during { backend with override := pass.override } frame device encoder
      color) { backend with device, frame := some { frame with encoder } } [] 0 :=
    .quiet rfl (.refl _) (by simp)
  refine ⟨device, encoder, passes, ?_, (opens.after records).before restores, realized⟩
  unfold Pass.drawOverridden
  cases own : pass.override with
  | none =>
      have same : { backend with override := pass.override } = backend := by rw [own, ← uninstalled]
      rw [same] at ran
      dsimp only
      rw [ran]
      show (Except.ok (), _) = (Except.ok (), _)
      congr 1
  | some program =>
      have installed : Renderer.setOverride (some program) backend =
        { backend with override := pass.override } := by rw [own]; rfl
      dsimp only
      rw [installed, ran]
      show (Except.ok (), _) = (Except.ok (), _)
      rw [← uninstalled]
      rfl

end GpuBackend

end ShaderFlow

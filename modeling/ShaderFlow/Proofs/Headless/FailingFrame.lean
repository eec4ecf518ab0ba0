/-
Module: ShaderFlow.Proofs.Headless.FailingFrame
Purpose: A frame that fails records a beginning of what it records once nothing in it fails.
Main exports: HeadlessSource.mended, Pass.mended, CompiledGraph.mended, HeadlessBackend.lenient,
  Pass.FailsAt, Pass.recordUpTo, CompiledGraph.startedPasses_mended, CompiledGraph.CutAt,
  CompiledGraph.failing_run_is_cut
-/
import ShaderFlow.Proofs.Headless.History

namespace ShaderFlow

/-!
To mend a graph is to replace all draw work that fails by none; a lenient renderer refuses no
framebuffer.  A mended graph succeeds on a lenient renderer.  The passes before the first one that fails
have nothing to mend, and what they record does not depend on refusals, so both frames agree on them.
The failing pass then agrees with the mended one as far as its draw work does.
-/

/-! ### Failing draw work -/

namespace SourceStep

variable {steps later : List SourceStep}

/-- Whether a step is a failure. -/
def isFailure : SourceStep → Bool
  | fail _ => true
  | draw _ | setClearColor _ => false

theorem any_isFailure_eq_false_iff : steps.any isFailure = false ↔ outcome steps = .ok () := by
  rw [outcome_eq_ok_iff, List.any_eq_false]
  constructor
  · intro unfailing label listed
    exact unfailing _ listed rfl
  · intro unfailing step listed
    cases step with
    | fail label => exact absurd listed (unfailing label)
    | draw | setClearColor => exact Bool.false_ne_true

/-- What does not fail is recorded in full, before what follows. -/
theorem recorded_append (unfailing : outcome steps = .ok ()) :
    recorded (steps ++ later) = recorded steps ++ recorded later := by
  induction steps with
  | nil => rfl
  | cons step rest ih =>
      cases step with
      | draw label => exact congrArg _ (ih unfailing)
      | setClearColor color => exact congrArg _ (ih unfailing)
      | fail => cases unfailing

theorem outcome_append (unfailing : outcome steps = .ok ()) :
    outcome (steps ++ later) = outcome later := by
  induction steps with
  | nil => rfl
  | cons step rest ih =>
      cases step with
      | draw | setClearColor => exact ih unfailing
      | fail => cases unfailing

/-- Steps fail with the first failure among them. -/
theorem exists_of_outcome_eq_error {error : HeadlessError} (failed : outcome steps = .error error) :
    ∃ own label behind, steps = own ++ fail label :: behind ∧ outcome own = .ok () ∧
      error = .source label := by
  induction steps with
  | nil => cases failed
  | cons step rest ih =>
      cases step with
      | fail label =>
          cases failed
          exact ⟨[], label, rest, rfl, rfl, rfl⟩
      | draw | setClearColor =>
          obtain ⟨own, label, behind, rfl, unfailing, same⟩ := ih failed
          exact ⟨_ :: own, label, behind, rfl, unfailing, same⟩

end SourceStep

/-- Draw work that cannot fail: what fails is replaced by none. -/
def HeadlessSource.mended (source : HeadlessSource) : HeadlessSource :=
  if source.steps.any SourceStep.isFailure then ⟨[]⟩ else source

theorem HeadlessSource.mended_of_ok {source : HeadlessSource}
    (unfailing : SourceStep.outcome source.steps = .ok ()) : source.mended = source := by
  rw [mended, SourceStep.any_isFailure_eq_false_iff.mpr unfailing]
  exact if_neg Bool.false_ne_true

theorem HeadlessSource.outcome_mended (source : HeadlessSource) :
    SourceStep.outcome source.mended.steps = .ok () := by
  unfold mended
  split
  · rfl
  · next unfailing => exact SourceStep.any_isFailure_eq_false_iff.mp (by simpa using unfailing)

/-- A renderer that refuses no framebuffer, and is the same otherwise. -/
def HeadlessBackend.lenient (backend : HeadlessBackend) : HeadlessBackend :=
  { backend with failing := [] }

theorem HeadlessBackend.lenient_play (backend : HeadlessBackend) (commands : List Command) :
    (backend.play commands).lenient = backend.lenient.play commands := by
  induction commands generalizing backend with
  | nil => rfl
  | cons command rest ih => exact (ih _).trans (by cases command <;> rfl)

/-! ### Failing passes -/

namespace Pass

variable {pass : Pass HeadlessProgram HeadlessSource} {target : RenderTarget}
  {targets : OrderedMap String RenderTarget} {debugView : Bool} {backend : HeadlessBackend}
  {done : List HeadlessSource} {own : List SourceStep} {label : String}

/-- The pass with all of its draw work mended. -/
def mended (pass : Pass HeadlessProgram HeadlessSource) : Pass HeadlessProgram HeadlessSource :=
  { pass with sources := pass.sources.map HeadlessSource.mended }

/-- Where the draw work of a pass fails first: behind pieces that do not fail, and behind steps of the
failing piece itself. -/
structure FailsAt (pass : Pass HeadlessProgram HeadlessSource) (done : List HeadlessSource)
    (own : List SourceStep) (label : String) : Prop where
  split : ∃ behind rest, pass.sources = done ++ ⟨own ++ .fail label :: behind⟩ :: rest
  first : ∀ other, .fail other ∉ done.flatMap HeadlessSource.steps ++ own

/-- What a pass records that has got through some pieces of its draw work. -/
def recordUpTo (pass : Pass HeadlessProgram HeadlessSource) (target : RenderTarget)
    (debugView : Bool) (found : HeadlessBackend) (done : List HeadlessSource) : List Command :=
  target.allocation found ++ target.binding :: (pass.opening target debugView found.size ++
    SourceStep.recorded (done.flatMap HeadlessSource.steps))

theorem outcome_mended (pass : Pass HeadlessProgram HeadlessSource) :
    pass.mended.outcome = .ok () := by
  refine SourceStep.outcome_eq_ok_iff.mpr fun label listed => ?_
  obtain ⟨source, member, failing⟩ := List.mem_flatMap.mp listed
  obtain ⟨original, _, rfl⟩ := List.mem_map.mp member
  exact SourceStep.outcome_eq_ok_iff.mp original.outcome_mended label failing

theorem map_mended_of_ok {sources : List HeadlessSource}
    (unfailing : SourceStep.outcome (sources.flatMap HeadlessSource.steps) = .ok ()) :
    sources.map HeadlessSource.mended = sources := by
  refine (List.map_congr_left fun source listed => ?_).trans (List.map_id sources)
  refine HeadlessSource.mended_of_ok (SourceStep.outcome_eq_ok_iff.mpr fun label failing => ?_)
  exact SourceStep.outcome_eq_ok_iff.mp unfailing label
    (List.mem_flatMap.mpr ⟨source, listed, failing⟩)

theorem mended_of_ok (unfailing : pass.outcome = .ok ()) : pass.mended = pass := by
  rw [mended, map_mended_of_ok unfailing]

/-- Draw work that fails does so in one of its pieces. -/
theorem exists_piece_of_outcome_eq_error {sources : List HeadlessSource} {error : HeadlessError}
    (failed : SourceStep.outcome (sources.flatMap HeadlessSource.steps) = .error error) :
    ∃ done own label behind rest, sources = done ++ ⟨own ++ .fail label :: behind⟩ :: rest ∧
      SourceStep.outcome (done.flatMap HeadlessSource.steps ++ own) = .ok () ∧
      error = .source label := by
  induction sources with
  | nil => cases failed
  | cons source rest ih =>
      rw [List.flatMap_cons] at failed
      cases ended : SourceStep.outcome source.steps with
      | ok =>
          rw [SourceStep.outcome_append ended] at failed
          obtain ⟨done, own, label, behind, others, rfl, unfailing, same⟩ := ih failed
          refine ⟨source :: done, own, label, behind, others, rfl, ?_, same⟩
          rw [List.flatMap_cons, List.append_assoc, SourceStep.outcome_append ended]
          exact unfailing
      | error =>
          obtain ⟨own, label, behind, split, unfailing, _⟩ :=
            SourceStep.exists_of_outcome_eq_error ended
          rw [split, List.append_assoc, SourceStep.outcome_append unfailing] at failed
          cases failed
          obtain ⟨steps⟩ := source
          cases split
          exact ⟨[], own, label, behind, rest, rfl, unfailing, rfl⟩

theorem exists_failsAt {error : HeadlessError} (failed : pass.outcome = .error error) :
    ∃ done own label, pass.FailsAt done own label ∧ error = .source label := by
  obtain ⟨done, own, label, behind, rest, split, unfailing, same⟩ :=
    exists_piece_of_outcome_eq_error failed
  exact ⟨done, own, label, ⟨⟨behind, rest, split⟩, SourceStep.outcome_eq_ok_iff.mp unfailing⟩, same⟩

namespace FailsAt

variable (failsAt : pass.FailsAt done own label)
include failsAt

theorem done_unfailing :
    SourceStep.outcome (done.flatMap HeadlessSource.steps) = .ok () :=
  SourceStep.outcome_eq_ok_iff.mpr fun other listed =>
    failsAt.first other (List.mem_append_left _ listed)

theorem own_unfailing : SourceStep.outcome own = .ok () :=
  SourceStep.outcome_eq_ok_iff.mpr fun other listed =>
    failsAt.first other (List.mem_append_right _ listed)

/-- The pass draws up to the failure. -/
theorem drawn_eq : pass.drawn =
    SourceStep.recorded (done.flatMap HeadlessSource.steps) ++ SourceStep.recorded own := by
  obtain ⟨behind, rest, split⟩ := failsAt.split
  rw [drawn, steps, split, List.flatMap_append, SourceStep.recorded_append failsAt.done_unfailing,
    List.flatMap_cons, List.append_assoc, SourceStep.recorded_append failsAt.own_unfailing]
  exact congrArg _ (List.append_nil _)

/-- The mended pass draws the same up to the failing piece. -/
theorem isPrefix_drawn_mended :
    SourceStep.recorded (done.flatMap HeadlessSource.steps) <+: pass.mended.drawn := by
  obtain ⟨behind, rest, split⟩ := failsAt.split
  rw [drawn, steps, mended, split, List.map_append, map_mended_of_ok failsAt.done_unfailing,
    List.flatMap_append, SourceStep.recorded_append failsAt.done_unfailing]
  exact List.prefix_append _ _

end FailsAt

/-! ### The pass on both renderers -/

/-- A pass whose target is there and that passes its checks. -/
structure Checked (targets : OrderedMap String RenderTarget)
    (pass : Pass HeadlessProgram HeadlessSource) (target : RenderTarget) : Prop where
  found : targets.get? pass.output = some target
  valid : pass.Valid

theorem Checked.mended (checked : pass.Checked targets target) :
    pass.mended.Checked targets target where
  found := checked.found
  valid :=
    { drawn := fun offscreen empty => checked.valid.drawn offscreen (List.map_eq_nil_iff.mp empty)
      reads_others := checked.valid.reads_others }

/-- Such a pass draws, unless its framebuffer is refused. -/
theorem Checked.run_cases (checked : pass.Checked targets target) (debugView : Bool)
    (backend : HeadlessBackend) :
    (target.refused backend = true ∧
      (pass.run targets debugView backend).result = .error (.backend (.allocation target.name)) ∧
      (pass.run targets debugView backend).state = backend) ∨
    (target.refused backend = false ∧ pass.Draws targets debugView backend target) := by
  have validated : (pass.validate : Except (RenderError HeadlessError) Unit) = .ok () :=
    validate_eq_ok_iff.mpr checked.valid
  cases accepted : target.refused backend with
  | true =>
      left
      rw [run_of_checked checked.found validated, runOn, bindTarget_of_refused accepted]
      exact ⟨rfl, rfl, rfl⟩
  | false => exact .inr ⟨rfl, .of_accepted checked.found validated accepted⟩

theorem Checked.draws_lenient (checked : pass.Checked targets target) (debugView : Bool)
    (backend : HeadlessBackend) : pass.Draws targets debugView backend.lenient target := by
  have accepted : target.refused backend.lenient = false := Bool.and_false _
  rcases checked.run_cases debugView backend.lenient with ⟨refused, _⟩ | ⟨_, draws⟩
  · rw [accepted] at refused
    cases refused
  · exact draws

/-- A pass that draws records the same on a lenient renderer. -/
theorem Draws.record_lenient (checked : pass.Checked targets target)
    (draws : pass.Draws targets debugView backend target) :
    pass.record targets debugView backend.lenient = pass.record targets debugView backend := by
  have overlay : pass.overlay target targets debugView backend.lenient =
      pass.overlay target targets debugView backend := by
    have framebuffers : (backend.lenient.play (pass.script target debugView backend)).framebuffers =
        (backend.play (pass.script target debugView backend)).framebuffers := by
      rw [← HeadlessBackend.lenient_play]
      rfl
    unfold Pass.overlay
    rw [← framebuffers]
    rfl
  rw [draws.record, (checked.draws_lenient debugView backend).record, closing, closing, overlay]
  rfl

/-- A mended pass succeeds on a lenient renderer and leaves it lenient. -/
theorem Checked.run_mended (checked : pass.Checked targets target) (debugView : Bool)
    (backend : HeadlessBackend) :
    (pass.mended.run targets debugView backend.lenient).result = .ok () ∧
      ∃ next : HeadlessBackend,
        (pass.mended.run targets debugView backend.lenient).state = next.lenient := by
  have draws := checked.mended.draws_lenient debugView backend
  refine ⟨by rw [draws.result, outcome_mended]; rfl, ?_⟩
  rw [draws.state, ← HeadlessBackend.lenient_play]
  exact ⟨_, rfl⟩

/-- A pass that succeeds has nothing to mend, and does the same on a lenient renderer. -/
theorem Checked.run_of_ok (checked : pass.Checked targets target)
    (succeeded : (pass.run targets debugView backend).result = .ok ()) :
    pass.mended = pass ∧
      pass.record targets debugView backend.lenient = pass.record targets debugView backend ∧
      (pass.run targets debugView backend.lenient).state =
        (pass.run targets debugView backend).state.lenient := by
  rcases checked.run_cases debugView backend with ⟨_, failed, _⟩ | ⟨_, draws⟩
  · cases failed.symm.trans succeeded
  · have same := draws.record_lenient checked
    refine ⟨mended_of_ok (draws_of_ok succeeded).2, same, ?_⟩
    rw [state_run, same, state_run, HeadlessBackend.lenient_play]

/-- A pass whose draw work fails records nothing behind the failure but what restores the renderer. -/
theorem FailsAt.record_eq (failsAt : pass.FailsAt done own label)
    (draws : pass.Draws targets debugView backend target) {error : HeadlessError}
    (failed : pass.outcome = .error error) :
    pass.record targets debugView backend = pass.recordUpTo target debugView backend done ++
      (SourceStep.recorded own ++ pass.restoring backend.clearColor) := by
  have overlay : pass.overlay target targets debugView backend = [] := by
    rw [Pass.overlay, failed]
  rw [draws.record, closing, overlay, List.append_nil, failsAt.drawn_eq, recordUpTo]
  simp only [List.append_assoc, List.cons_append]

/-- Up to the failing piece, the mended pass records the same. -/
theorem FailsAt.isPrefix_record_mended (failsAt : pass.FailsAt done own label)
    (draws : pass.mended.Draws targets debugView backend target) :
    pass.recordUpTo target debugView backend done <+: pass.mended.record targets debugView backend := by
  obtain ⟨remaining, drawn⟩ := failsAt.isPrefix_drawn_mended
  have opening : pass.mended.opening target debugView backend.size =
      pass.opening target debugView backend.size := rfl
  rw [draws.record, opening, ← drawn, recordUpTo]
  refine ⟨remaining ++ pass.mended.closing target targets debugView backend, ?_⟩
  simp only [List.append_assoc, List.cons_append]

end Pass

/-! ### Failing frames -/

namespace CompiledGraph

variable {targets : OrderedMap String RenderTarget} {debugView : Bool}
  {passes : List (Pass HeadlessProgram HeadlessSource)} {backend : HeadlessBackend}

/-- The graph with the draw work of all passes mended. -/
def mended (graph : CompiledGraph HeadlessProgram HeadlessSource) :
    CompiledGraph HeadlessProgram HeadlessSource :=
  { graph with passes := graph.passes.map Pass.mended }

/-- Mended passes succeed on a lenient renderer. -/
theorem runPasses_mended (checked : ∀ pass ∈ passes, ∃ target, pass.Checked targets target)
    (backend : HeadlessBackend) :
    (runPasses targets debugView (passes.map Pass.mended) backend.lenient).1 = .ok () := by
  induction passes generalizing backend with
  | nil => rfl
  | cons pass rest ih =>
      obtain ⟨⟨target, here⟩, others⟩ := List.forall_mem_cons.mp checked
      obtain ⟨succeeded, next, left⟩ := here.run_mended debugView backend
      rw [List.map_cons, runPasses]
      dsimp only
      rw [succeeded, left]
      exact ih others next

/-- A frame that fails starts the passes that a mended frame starts, up to one that fails. -/
theorem startedPasses_mended (checked : ∀ pass ∈ passes, ∃ target, pass.Checked targets target)
    {error : RenderError HeadlessError}
    (failed : (runPasses targets debugView passes backend).1 = .error error) :
    ∃ earlier pass found rest,
      startedPasses targets debugView passes backend = earlier ++ [(pass, found)] ∧
      passes = earlier.map Prod.fst ++ pass :: rest ∧
      (pass.run targets debugView found).result = .error error ∧
      startedPasses targets debugView (passes.map Pass.mended) backend.lenient =
        earlier.map (Prod.map id HeadlessBackend.lenient) ++
          startedPasses targets debugView ((pass :: rest).map Pass.mended) found.lenient := by
  induction passes generalizing backend with
  | nil => cases failed
  | cons pass rest ih =>
      obtain ⟨⟨target, here⟩, others⟩ := List.forall_mem_cons.mp checked
      rw [runPasses] at failed
      dsimp only at failed
      cases ended : (pass.run targets debugView backend).result with
      | error fault =>
          rw [ended] at failed
          cases failed
          refine ⟨[], pass, backend, rest, ?_, rfl, ended, rfl⟩
          rw [startedPasses, ended]
          rfl
      | ok =>
          rw [ended] at failed
          obtain ⟨earlier, last, found, behind, started, rfl, refused, mended⟩ := ih others failed
          obtain ⟨same, _, left⟩ := here.run_of_ok ended
          have alsoOk : (pass.run targets debugView backend.lenient).result = .ok () := by
            have succeeded := (here.run_mended debugView backend).1
            rwa [same] at succeeded
          refine ⟨(pass, backend) :: earlier, last, found, behind, ?_, rfl, refused, ?_⟩
          · rw [startedPasses, ended]
            dsimp only
            rw [started]
            rfl
          · rw [List.map_cons, startedPasses, same, alsoOk, left]
            dsimp only
            rw [mended]
            rfl

variable {graph : CompiledGraph HeadlessProgram HeadlessSource} {options : FrameOptions}

/-- The passes of a graph that was built find their targets and pass their checks. -/
theorem WellFormed.exists_checked (formed : graph.WellFormed) (surface : Extent)
    (options : FrameOptions) :
    ∀ pass ∈ graph.passes, ∃ target, pass.Checked (graph.frameTargets surface options) target := by
  intro pass listed
  obtain ⟨target, held⟩ := formed.outputs pass listed
  refine ⟨{ target with debugViewport := graph.cell? surface options pass.output },
    ⟨?_, formed.valid pass listed⟩⟩
  rw [frameTargets_eq, OrderedMap.get?_mapValues, held]
  rfl

/-- What a started pass records in a frame. -/
abbrev startRecord (graph : CompiledGraph HeadlessProgram HeadlessSource) (options : FrameOptions)
    (backend : HeadlessBackend) (start : Pass HeadlessProgram HeadlessSource × HeadlessBackend) :
    List Command :=
  recordOf (graph.frameTargets backend.size options) options.debugView start

/-- The record of a frame is made of the records of the passes that it starts. -/
theorem commands_run_eq_flatMap (graph : CompiledGraph HeadlessProgram HeadlessSource)
    (options : FrameOptions) (backend : HeadlessBackend) :
    (graph.run options backend).state.commands.toList = backend.commands.toList ++
      (graph.starts options backend).flatMap (graph.startRecord options backend) := by
  rw [commands_run, trace, map_snd_flatMap_tagged]

/-- Why a pass fails, as what error of the frame, and what it records then.  If its framebuffer is
refused, it records nothing.  If its draw work fails, it records what the mended pass records up to the
failing piece, what that piece does before it fails, and what restores the renderer. -/
inductive CutBy (graph : CompiledGraph HeadlessProgram HeadlessSource) (options : FrameOptions)
    (backend : HeadlessBackend) (pass : Pass HeadlessProgram HeadlessSource)
    (found : HeadlessBackend) (target : RenderTarget) :
    RenderError HeadlessError → List Command → Prop where
  | allocation (refused : target.refused backend = true) :
      CutBy graph options backend pass found target (.backend (.allocation target.name)) []
  | drawWork {done : List HeadlessSource} {own : List SourceStep} {label : String}
      (accepted : target.refused backend = false) (failsAt : pass.FailsAt done own label)
      (agrees : pass.recordUpTo target options.debugView found done <+:
        graph.startRecord options backend (pass.mended, found)) :
      CutBy graph options backend pass found target (.backend (.source label))
        (pass.recordUpTo target options.debugView found done ++
          (SourceStep.recorded own ++ pass.restoring backend.clearColor))

theorem cutBy_of_failure {error : RenderError HeadlessError}
    {earlier : List (Pass HeadlessProgram HeadlessSource × HeadlessBackend)}
    {pass : Pass HeadlessProgram HeadlessSource} {found : HeadlessBackend} {target : RenderTarget}
    (checked : pass.Checked (graph.frameTargets backend.size options) target)
    (starts : graph.starts options backend = earlier ++ [(pass, found)])
    (failed : (pass.run (graph.frameTargets backend.size options) options.debugView found).result =
      .error error) :
    graph.CutBy options backend pass found.lenient target error
      (graph.startRecord options backend (pass, found)) := by
  have kept := kept_of_starts starts
  have refusals : target.refused found = target.refused backend := by
    rw [RenderTarget.refused, kept.2]
    rfl
  rcases checked.run_cases options.debugView found with ⟨refused, result, state⟩ | ⟨accepted, draws⟩
  · rw [result] at failed
    cases failed
    rw [show graph.startRecord options backend (pass, found) = [] from
      Pass.record_of_unchanged state]
    exact .allocation (refusals ▸ refused)
  · rw [draws.result] at failed
    cases outcome : pass.outcome with
    | ok =>
        rw [outcome] at failed
        cases failed
    | error fault =>
        rw [outcome] at failed
        cases failed
        obtain ⟨done, own, label, failsAt, rfl⟩ := Pass.exists_failsAt outcome
        have recorded := failsAt.record_eq draws outcome
        rw [kept.1] at recorded
        rw [show graph.startRecord options backend (pass, found) = _ from recorded]
        exact .drawWork (refusals ▸ accepted) failsAt
          (failsAt.isPrefix_record_mended (checked.mended.draws_lenient options.debugView found))

/-- A failing frame beside the frame of the mended graph on a lenient renderer, where the pass that
fails is given, with the passes that the mended frame starts before and behind it, the renderer that
the mended pass finds, the target, and the commands that the failing pass records. -/
structure CutAt (graph : CompiledGraph HeadlessProgram HeadlessSource) (options : FrameOptions)
    (backend : HeadlessBackend) (error : RenderError HeadlessError)
    (earlier : List (Pass HeadlessProgram HeadlessSource × HeadlessBackend))
    (pass : Pass HeadlessProgram HeadlessSource) (found : HeadlessBackend)
    (later : List (Pass HeadlessProgram HeadlessSource × HeadlessBackend))
    (target : RenderTarget) (commands : List Command) : Prop where
  starts : graph.mended.starts options backend.lenient = earlier ++ (pass.mended, found) :: later
  placed : graph.passes[earlier.length]? = some pass
  targeted : (graph.frameTargets backend.size options).get? pass.output = some target
  /-- The mended frame records all of its passes. -/
  mended : (graph.mended.run options backend.lenient).state.commands.toList =
    backend.commands.toList ++
      (earlier.flatMap (graph.startRecord options backend) ++
        (graph.startRecord options backend (pass.mended, found) ++
          later.flatMap (graph.startRecord options backend)))
  /-- The failing frame records the earlier ones of them, and then only some commands of its own. -/
  cut : (graph.run options backend).state.commands.toList = backend.commands.toList ++
    (earlier.flatMap (graph.startRecord options backend) ++ commands)
  cause : graph.CutBy options backend pass found target error commands

/-- A failing frame is a cut of a frame that succeeds: of the frame of the mended graph on a lenient
renderer.  Some pass fails; the passes before it record what they record there.  Either its framebuffer
is refused, which is the error of the frame, and the record ends there.  Or its draw work fails, which
is the error of the frame: then the pass records what it records there up to the failing piece, then
what that piece itself does before it fails, and then it removes its override, if it has one, and puts
back the clear color that the frame found; nothing follows. -/
theorem failing_run_is_cut {error : RenderError HeadlessError} (built : graph.Built HeadlessBackend)
    (failed : (graph.run options backend).result = .error error) :
    (graph.mended.run options backend.lenient).result = .ok () ∧
      ∃ earlier pass found later target commands,
        graph.CutAt options backend error earlier pass found later target commands := by
  have checked := built.wellFormed.exists_checked backend.size options
  obtain ⟨earlier, pass, found, rest, started, passes, ended, mended⟩ :=
    startedPasses_mended checked failed
  have starts : graph.starts options backend = earlier ++ [(pass, found)] := started
  obtain ⟨later, first⟩ : ∃ later, startedPasses (graph.frameTargets backend.size options)
      options.debugView ((pass :: rest).map Pass.mended) found.lenient =
        (pass.mended, found.lenient) :: later := by
    rw [List.map_cons, startedPasses]
    exact ⟨_, rfl⟩
  have mendedStarts : graph.mended.starts options backend.lenient =
      earlier.map (Prod.map id HeadlessBackend.lenient) ++ (pass.mended, found.lenient) :: later :=
    mended.trans (by rw [first])
  -- the passes before the failing one record the same in both frames
  have before : (earlier.map (Prod.map id HeadlessBackend.lenient)).flatMap
      (graph.startRecord options backend) = earlier.flatMap (graph.startRecord options backend) := by
    rw [List.flatMap_map]
    refine List.flatMap_congr fun start listed => ?_
    have succeeded := ok_of_startedPasses started start listed
    have member : start.1 ∈ graph.passes :=
      passes ▸ List.mem_append_left _ (List.mem_map_of_mem listed)
    obtain ⟨target, here⟩ := checked start.1 member
    exact (here.run_of_ok succeeded).2.1
  have placed : graph.passes[earlier.length]? = some pass := by
    rw [passes, List.getElem?_append_right (by simp)]
    simp
  obtain ⟨target, here⟩ := checked pass (List.mem_of_getElem? placed)
  refine ⟨runPasses_mended checked backend, _, pass, found.lenient, later, target,
    graph.startRecord options backend (pass, found),
    { starts := mendedStarts
      placed := by rw [List.length_map, placed]
      targeted := here.found
      mended := ?_
      cut := ?_
      cause := cutBy_of_failure here starts ended }⟩
  · rw [commands_run_eq_flatMap, mendedStarts, List.flatMap_append, List.flatMap_cons]
    rfl
  · rw [commands_run_eq_flatMap, starts, before, List.flatMap_append, List.flatMap_singleton]

/-- The second pass of the scene fails behind its first draw, and restores what it has changed. -/
theorem litGraph_failing_run_is_cut :
    let backend : HeadlessBackend := { size := ⟨640, 480⟩, clearColor := ⟨.one, .one, .one, .one⟩ }
    litGraph.Built HeadlessBackend ∧
      (litGraph.run sideBySide backend).result = .error (.backend (.source "sky")) ∧
      (litGraph.mended.run sideBySide backend.lenient).result = .ok () ∧
      ∃ earlier pass found later target commands, litGraph.CutAt sideBySide backend
        (.backend (.source "sky")) earlier pass found later target commands := by
  intro backend
  have failed : (litGraph.run sideBySide backend).result = .error (.backend (.source "sky")) := by rfl
  exact ⟨litGraph_built, failed, failing_run_is_cut litGraph_built failed⟩

end CompiledGraph

end ShaderFlow

/-
Module: ShaderFlow.Proofs.Headless.History
Purpose: What a frame does depends on nothing that earlier frames leave behind, allocations apart.
Main exports: Pass.wired_wired, Pass.reach, Pass.verdict, CompiledGraph.transcript,
  CompiledGraph.begun, CompiledGraph.afterFrames, CompiledGraph.run_forgets_history
-/
import ShaderFlow.Proofs.Headless.Overlay

namespace ShaderFlow

/-!
Frames leave three things behind: the wiring of programs and the cells of the debug view, which are part
of the graph, and the framebuffers of the renderer.  A pass wires its program anew before it installs
it, which changes nothing if it has been wired before, and a frame gives out all cells anew.
Framebuffers decide on allocations, and otherwise only on what the overlay can show; but in a graph that
was built it can show everything.

So the result and the record of a frame, allocations apart, can be told from the passes, wired or not,
and from what the renderer keeps throughout the frame: its size, its clear color and the framebuffers
that it refuses.
-/

/-- Commands that allocate a framebuffer. -/
def Command.allocates : Command → Bool
  | .allocate _ => true
  | _ => false

/-- A record without allocations. -/
def withoutAllocations (record : List Command) : List Command :=
  record.filter fun command => !command.allocates

theorem withoutAllocations_append {record later : List Command} :
    withoutAllocations (record ++ later) =
      withoutAllocations record ++ withoutAllocations later :=
  List.filter_append ..

theorem withoutAllocations_eq_self {record : List Command}
    (none : ∀ descriptor, .allocate descriptor ∉ record) : withoutAllocations record = record := by
  apply List.filter_eq_self.mpr
  intro command member
  cases command with
  | allocate descriptor => exact absurd member (none descriptor)
  | bindScreen | bindFramebuffer | setViewport | coverTarget | setClearColor | clearColor
  | clearDepth | setOverride | draw | renderFramebuffer => rfl

/-! ### Wiring -/

namespace Pass

variable {pass : Pass HeadlessProgram HeadlessSource} {targets : OrderedMap String RenderTarget}
  {debugView : Bool} {backend : HeadlessBackend}

/-- Wiring what is wired changes nothing. -/
theorem foldl_wire_of_wired {entries : List (String × String)} {program : HeadlessProgram}
    (wired : ∀ entry ∈ entries, program.inputs.get? entry.1 = some entry.2) :
    entries.foldl (fun program entry => Renderer.wire HeadlessBackend entry.1 entry.2 program)
      program = program := by
  induction entries with
  | nil => rfl
  | cons entry rest ih =>
      obtain ⟨here, others⟩ := List.forall_mem_cons.mp wired
      have same : Renderer.wire HeadlessBackend entry.1 entry.2 program = program := by
        show { program with inputs := program.inputs.insert entry.1 entry.2 } = program
        rw [OrderedMap.insert_of_get? here]
      rw [List.foldl_cons, same, ih others]

theorem wired_wired (pass : Pass HeadlessProgram HeadlessSource) :
    (pass.wired (σ := HeadlessBackend)).wired (σ := HeadlessBackend) =
      pass.wired (σ := HeadlessBackend) := by
  have again (program : HeadlessProgram) :
      pass.dependencies.entries.foldl
          (fun program entry => Renderer.wire HeadlessBackend entry.1 entry.2 program)
          (pass.dependencies.entries.foldl
            (fun program entry => Renderer.wire HeadlessBackend entry.1 entry.2 program) program) =
        pass.dependencies.entries.foldl
          (fun program entry => Renderer.wire HeadlessBackend entry.1 entry.2 program) program := by
    apply foldl_wire_of_wired
    intro entry listed
    have declared : pass.dependencies.get? entry.1 = some entry.2 :=
      OrderedMap.get?_eq_some_iff.mpr listed
    rw [inputs_foldl_wire pass.dependencies.distinct]
    exact congrArg (Option.or · _) declared
  simp only [wired, Option.map_map, Function.comp_def, again]

/-- A pass comes out of its run as it was or wired. -/
theorem wired_run (pass : Pass HeadlessProgram HeadlessSource)
    (targets : OrderedMap String RenderTarget) (debugView : Bool) (backend : HeadlessBackend) :
    (pass.run targets debugView backend).pass.wired (σ := HeadlessBackend) =
      pass.wired (σ := HeadlessBackend) := by
  unfold run
  split
  · rfl
  · split
    · rfl
    · unfold runOn
      split
      · rfl
      · dsimp only
        split
        · exact pass.wired_wired
        · split
          · exact pass.wired_wired
          · exact pass.wired_wired

/-! ### The result of a pass -/

/-- The target that a pass gets to, unless it is faulty or its framebuffer is refused. -/
def reach (pass : Pass HeadlessProgram HeadlessSource) (targets : OrderedMap String RenderTarget)
    (refuses : String → Bool) : Except (RenderError HeadlessError) RenderTarget :=
  match targets.get? pass.output with
  | none => .error (.unknownTarget pass.name pass.output)
  | some target =>
      match pass.validate with
      | .error error => .error error
      | .ok () =>
          if !target.isScreen && refuses target.name then
            .error (.backend (.allocation target.name))
          else .ok target

/-- How a pass ends. -/
def verdict (targets : OrderedMap String RenderTarget) (refuses : String → Bool)
    (pass : Pass HeadlessProgram HeadlessSource) : Except (RenderError HeadlessError) Unit :=
  match pass.reach targets refuses with
  | .error error => .error error
  | .ok _ => wrap pass.outcome

/-- A pass draws into the target that it gets to, and otherwise it fails without a trace. -/
theorem run_of_reach (pass : Pass HeadlessProgram HeadlessSource)
    (targets : OrderedMap String RenderTarget) (debugView : Bool) (backend : HeadlessBackend) :
    match pass.reach targets backend.failing.contains with
    | .ok target => pass.Draws targets debugView backend target
    | .error error => (pass.run targets debugView backend).result = .error error ∧
        (pass.run targets debugView backend).state = backend := by
  unfold reach
  cases held : targets.get? pass.output with
  | none =>
      rw [run, held]
      exact ⟨rfl, rfl⟩
  | some target =>
      cases checked : (pass.validate : Except (RenderError HeadlessError) Unit) with
      | error error =>
          rw [run, held]
          dsimp only
          rw [checked]
          exact ⟨rfl, rfl⟩
      | ok =>
          rw [run_of_checked held checked]
          cases accepted : target.refused backend with
          | true =>
              have refused : (!target.isScreen && backend.failing.contains target.name) = true :=
                accepted
              rw [runOn, bindTarget_of_refused accepted]
              dsimp only
              rw [refused, if_pos rfl]
              exact ⟨rfl, rfl⟩
          | false =>
              have free : (!target.isScreen && backend.failing.contains target.name) = false :=
                accepted
              dsimp only
              rw [free, if_neg Bool.false_ne_true]
              exact .of_accepted held checked accepted

theorem result_run (pass : Pass HeadlessProgram HeadlessSource)
    (targets : OrderedMap String RenderTarget) (debugView : Bool) (backend : HeadlessBackend) :
    (pass.run targets debugView backend).result =
      pass.verdict targets backend.failing.contains := by
  have run := pass.run_of_reach targets debugView backend
  unfold verdict
  cases reached : pass.reach targets backend.failing.contains with
  | ok target =>
      rw [reached] at run
      exact run.result
  | error error =>
      rw [reached] at run
      exact run.1

/-! Wiring changes neither. -/

theorem reach_wired (pass : Pass HeadlessProgram HeadlessSource)
    (targets : OrderedMap String RenderTarget) (refuses : String → Bool) :
    (pass.wired (σ := HeadlessBackend)).reach targets refuses = pass.reach targets refuses :=
  rfl

theorem verdict_wired (pass : Pass HeadlessProgram HeadlessSource)
    (targets : OrderedMap String RenderTarget) (refuses : String → Bool) :
    (pass.wired (σ := HeadlessBackend)).verdict targets refuses = pass.verdict targets refuses :=
  rfl

theorem failing_run (pass : Pass HeadlessProgram HeadlessSource)
    (targets : OrderedMap String RenderTarget) (debugView : Bool) (backend : HeadlessBackend) :
    (pass.run targets debugView backend).state.failing = backend.failing := by
  rw [state_run, HeadlessBackend.failing_play]

end Pass

namespace CompiledGraph

/-! ### The passes and the result of a frame -/

section Frames

variable {targets : OrderedMap String RenderTarget} {debugView : Bool}
  {passes : List (Pass HeadlessProgram HeadlessSource)} {backend : HeadlessBackend}

/-- The passes that a frame begins, in order: all up to the first one that fails. -/
def begun (targets : OrderedMap String RenderTarget) (refuses : String → Bool) :
    List (Pass HeadlessProgram HeadlessSource) → List (Pass HeadlessProgram HeadlessSource)
  | [] => []
  | pass :: rest =>
      pass :: match pass.verdict targets refuses with
        | .ok () => begun targets refuses rest
        | .error _ => []

theorem map_fst_startedPasses :
    (startedPasses targets debugView passes backend).map Prod.fst =
      begun targets backend.failing.contains passes := by
  induction passes generalizing backend with
  | nil => rfl
  | cons pass rest ih =>
      unfold startedPasses begun
      rw [List.map_cons, ← pass.result_run targets debugView backend]
      dsimp only
      cases (pass.run targets debugView backend).result with
      | error error => rfl
      | ok =>
          dsimp only
          rw [ih, pass.failing_run]

theorem result_runPasses :
    (runPasses targets debugView passes backend).1 =
      forM passes (Pass.verdict targets backend.failing.contains) := by
  induction passes generalizing backend with
  | nil => rfl
  | cons pass rest ih =>
      unfold runPasses
      rw [List.forM_cons, ← pass.result_run targets debugView backend]
      dsimp only
      cases (pass.run targets debugView backend).result with
      | error error => rfl
      | ok =>
          dsimp only
          rw [ih, pass.failing_run]
          rfl

theorem clearColor_of_mem_startedPasses
    {start : Pass HeadlessProgram HeadlessSource × HeadlessBackend}
    (listed : start ∈ startedPasses targets debugView passes backend) :
    start.2.clearColor = backend.clearColor := by
  induction passes generalizing backend with
  | nil => cases listed
  | cons pass rest ih =>
      unfold startedPasses at listed
      rcases List.mem_cons.mp listed with rfl | later
      · rfl
      · split at later
        · exact (ih later).trans (pass.clearColor_run targets debugView backend)
        · cases later

/-! Neither of the two depends on the wiring. -/

theorem begun_map_wired (refuses : String → Bool) :
    begun targets refuses (passes.map (Pass.wired (σ := HeadlessBackend))) =
      (begun targets refuses passes).map (Pass.wired (σ := HeadlessBackend)) := by
  induction passes with
  | nil => rfl
  | cons pass rest ih =>
      unfold begun
      rw [List.map_cons, List.map_cons]
      dsimp only
      rw [pass.verdict_wired]
      cases pass.verdict targets refuses with
      | error error => rfl
      | ok => exact congrArg _ ih

theorem forM_map_wired (refuses : String → Bool) :
    forM (passes.map (Pass.wired (σ := HeadlessBackend))) (Pass.verdict targets refuses) =
      forM passes (Pass.verdict targets refuses) := by
  induction passes with
  | nil => rfl
  | cons pass rest ih =>
      rw [List.map_cons, List.forM_cons, List.forM_cons, ih, pass.verdict_wired]

end Frames

/-! ### The record of a frame -/

variable {graph next : CompiledGraph HeadlessProgram HeadlessSource} {options : FrameOptions}
  {backend found : HeadlessBackend} {pass : Pass HeadlessProgram HeadlessSource}
  {earlier later : List (Pass HeadlessProgram HeadlessSource × HeadlessBackend)}

/-- What a pass records in a frame, allocations apart, on a renderer of a given size and clear color
that refuses some framebuffers. -/
def transcript (graph : CompiledGraph HeadlessProgram HeadlessSource) (options : FrameOptions)
    (surface : Extent) (color : Color) (refuses : String → Bool)
    (pass : Pass HeadlessProgram HeadlessSource) : List Command :=
  match pass.reach (graph.frameTargets surface options) refuses with
  | .error _ => []
  | .ok target => target.binding :: (pass.opening target options.debugView surface ++
      (pass.drawn ++ (pass.restoring color ++ graph.overlayOf surface options pass)))

theorem transcript_wired (options : FrameOptions) (surface : Extent) (color : Color)
    (refuses : String → Bool) (pass : Pass HeadlessProgram HeadlessSource) :
    graph.transcript options surface color refuses (pass.wired (σ := HeadlessBackend)) =
      graph.transcript options surface color refuses pass := by
  have opening (target : RenderTarget) :
      (pass.wired (σ := HeadlessBackend)).opening target options.debugView surface =
        pass.opening target options.debugView surface := by
    rw [Pass.opening, pass.wired_wired]
    rfl
  have restoring : (pass.wired (σ := HeadlessBackend)).restoring color = pass.restoring color := by
    unfold Pass.restoring Pass.wired
    rw [Option.isSome_map]
  unfold transcript
  rw [pass.reach_wired]
  cases pass.reach (graph.frameTargets surface options) refuses with
  | error => rfl
  | ok target =>
      dsimp only
      rw [opening, restoring]
      rfl

/-- The passes of a frame find the clear color and the refusals that the frame was started with. -/
theorem kept_of_starts
    (started : graph.starts options backend = earlier ++ (pass, found) :: later) :
    found.clearColor = backend.clearColor ∧ found.failing = backend.failing := by
  constructor
  · exact clearColor_of_mem_startedPasses (started ▸ List.mem_append_right _ List.mem_cons_self)
  · rw [found_of_startedPasses started, HeadlessBackend.failing_play]

/-- A started pass records its transcript, apart from allocations. -/
theorem WellFormed.record_started (formed : graph.WellFormed)
    (started : graph.starts options backend = earlier ++ (pass, found) :: later) :
    withoutAllocations
        (pass.record (graph.frameTargets backend.size options) options.debugView found) =
      graph.transcript options backend.size backend.clearColor backend.failing.contains pass := by
  have run := pass.run_of_reach (graph.frameTargets backend.size options) options.debugView found
  unfold transcript
  rw [← (kept_of_starts started).1, ← (kept_of_starts started).2]
  cases reached : pass.reach (graph.frameTargets backend.size options) found.failing.contains with
  | error error =>
      rw [reached] at run
      rw [Pass.record_of_unchanged run.2]
      rfl
  | ok target =>
      rw [reached] at run
      have allocations : withoutAllocations (target.allocation found) = [] := by
        apply List.filter_eq_nil_iff.mpr
        intro command member
        rw [Pass.eq_of_mem_allocation member]
        exact Bool.false_ne_true
      rw [run.record, withoutAllocations_append, allocations, List.nil_append,
        withoutAllocations_eq_self fun descriptor => Pass.allocate_notMem descriptor,
        size_of_starts started, Pass.closing, formed.overlay_started started run]

theorem WellFormed.withoutAllocations_trace (formed : graph.WellFormed) (options : FrameOptions)
    (backend : HeadlessBackend) :
    withoutAllocations ((graph.trace options backend).map Prod.snd) =
      (begun (graph.frameTargets backend.size options) backend.failing.contains
        graph.passes).flatMap
          (graph.transcript options backend.size backend.clearColor backend.failing.contains) := by
  have first : (graph.starts options backend).map Prod.fst = begun
      (graph.frameTargets backend.size options) backend.failing.contains graph.passes :=
    map_fst_startedPasses
  rw [← first]
  apply seen_in_trace rfl fun _ _ => withoutAllocations_append
  intro earlier pass found later started
  exact formed.record_started started

/-! ### Earlier frames -/

/-- The graph after any number of frames, each on a renderer of its own. -/
def afterFrames (graph : CompiledGraph HeadlessProgram HeadlessSource)
    (frames : List (FrameOptions × HeadlessBackend)) :
    CompiledGraph HeadlessProgram HeadlessSource :=
  frames.foldl (fun graph frame => (graph.run frame.1 frame.2).graph) graph

/-- What frames do not change in a graph: the cells that the next frame gives out, and the passes up to
their wiring. -/
structure Renews (graph next : CompiledGraph HeadlessProgram HeadlessSource) : Prop where
  cells : ∀ surface options name,
    next.cell? surface options name = graph.cell? surface options name
  targets : ∀ surface options,
    next.frameTargets surface options = graph.frameTargets surface options
  passes : next.passes.map (Pass.wired (σ := HeadlessBackend)) =
    graph.passes.map (Pass.wired (σ := HeadlessBackend))

/-- The cells of an earlier frame are overwritten, and wiring adds nothing to wiring. -/
theorem WellFormed.renews_run (formed : graph.WellFormed) (options : FrameOptions)
    (backend : HeadlessBackend) : graph.Renews (graph.run options backend).graph := by
  have next := formed.of_alike (alike_run graph options backend)
  have held : (graph.run options backend).graph.targets = graph.targets.mapValues fun name target =>
      { target with debugViewport := graph.cell? backend.size options name } :=
    graph.frameTargets_eq backend.size options
  have keys : (graph.run options backend).graph.targets.keys = graph.targets.keys := by
    rw [held, OrderedMap.keys_mapValues]
  have size : (graph.run options backend).graph.targets.size = graph.targets.size := by
    simpa [OrderedMap.keys, OrderedMap.size] using congrArg List.length keys
  have cells : ∀ surface options' name, (graph.run options backend).graph.cell? surface options' name =
      graph.cell? surface options' name := by
    intro surface options' name
    rw [cell?, cell?, next.cellOrder_eq_keys, formed.cellOrder_eq_keys, keys, size]
  constructor
  case cells => exact cells
  case targets =>
    intro surface options'
    rw [frameTargets_eq, frameTargets_eq, held, OrderedMap.mapValues_mapValues]
    simp only [cells]
  case passes => exact map_runPasses (fun pass state => pass.wired_run _ _ state) graph.passes backend

theorem Built.renews_afterFrames (built : graph.Built HeadlessBackend)
    (frames : List (FrameOptions × HeadlessBackend)) :
    (graph.afterFrames frames).WellFormed ∧ graph.Renews (graph.afterFrames frames) := by
  induction frames generalizing graph with
  | nil => exact ⟨built.wellFormed, fun _ _ _ => rfl, fun _ _ => rfl, rfl⟩
  | cons frame rest ih =>
      have first := built.wellFormed.renews_run frame.1 frame.2
      obtain ⟨formed, others⟩ := ih (built.run frame.1 frame.2)
      refine ⟨formed, ?_⟩
      constructor
      case cells =>
        intro surface options name
        exact (others.cells surface options name).trans (first.cells surface options name)
      case targets =>
        intro surface options
        exact (others.targets surface options).trans (first.targets surface options)
      case passes => exact others.passes.trans first.passes

/-- What a frame records can be told from the wired passes. -/
theorem Renews.flatMap_transcript (renews : graph.Renews next) (options : FrameOptions)
    (surface : Extent) (color : Color) (refuses : String → Bool) :
    (begun (next.frameTargets surface options) refuses next.passes).flatMap
        (next.transcript options surface color refuses) =
      (begun (graph.frameTargets surface options) refuses graph.passes).flatMap
        (graph.transcript options surface color refuses) := by
  have wired (graph : CompiledGraph HeadlessProgram HeadlessSource)
      (passes : List (Pass HeadlessProgram HeadlessSource)) :
      passes.flatMap (graph.transcript options surface color refuses) =
        (passes.map (Pass.wired (σ := HeadlessBackend))).flatMap
          (graph.transcript options surface color refuses) := by
    rw [List.flatMap_map]
    exact List.flatMap_congr fun pass _ => (transcript_wired ..).symm
  have same : next.transcript options surface color refuses =
      graph.transcript options surface color refuses := by
    funext pass
    have overlay : next.overlayOf surface options pass = graph.overlayOf surface options pass := by
      simp only [overlayOf, renews.cells]
    simp only [transcript, renews.targets, overlay]
  rw [wired next, wired graph, ← begun_map_wired, ← begun_map_wired, renews.passes, renews.targets,
    same]

theorem Renews.forM_verdict (renews : graph.Renews next) (options : FrameOptions) (surface : Extent)
    (refuses : String → Bool) :
    forM next.passes (Pass.verdict (next.frameTargets surface options) refuses) =
      forM graph.passes (Pass.verdict (graph.frameTargets surface options) refuses) := by
  rw [← forM_map_wired, renews.passes, renews.targets, forM_map_wired]

/-- Frames do not depend on history.  Two renderers of the same size and clear color that refuse the
same framebuffers may hold different framebuffers and different records, and a graph that was built may
have run different frames before, with any options on any renderers, and some of them may have failed:
the frame has the same result, and up to allocations it records the same commands. -/
theorem run_forgets_history (built : graph.Built HeadlessBackend)
    (earlier others : List (FrameOptions × HeadlessBackend)) (options : FrameOptions)
    (backend other : HeadlessBackend) (size : other.size = backend.size)
    (clearColor : other.clearColor = backend.clearColor)
    (failing : ∀ name, name ∈ other.failing ↔ name ∈ backend.failing) :
    let run := (graph.afterFrames earlier).run options backend
    let another := (graph.afterFrames others).run options other
    another.result = run.result ∧
      ∃ commands more,
        run.state.commands.toList = backend.commands.toList ++ commands ∧
        another.state.commands.toList = other.commands.toList ++ more ∧
        withoutAllocations more = withoutAllocations commands := by
  intro run another
  have refuses : other.failing.contains = backend.failing.contains := by
    funext name
    rw [Bool.eq_iff_iff, List.contains_iff_mem, List.contains_iff_mem, failing]
  obtain ⟨formed, renews⟩ := built.renews_afterFrames earlier
  obtain ⟨formedOther, renewsOther⟩ := built.renews_afterFrames others
  constructor
  · have ends (graph : CompiledGraph HeadlessProgram HeadlessSource) (backend : HeadlessBackend) :
        (graph.run options backend).result = forM graph.passes
          (Pass.verdict (graph.frameTargets backend.size options) backend.failing.contains) :=
      result_runPasses
    rw [ends, ends, size, refuses, renews.forM_verdict, renewsOther.forM_verdict]
  · refine ⟨_, _, commands_run _ options backend, commands_run _ options other, ?_⟩
    rw [formed.withoutAllocations_trace, formedOther.withoutAllocations_trace, size, clearColor,
      refuses, renews.flatMap_transcript, renewsOther.flatMap_transcript]

/-- A frame on a new renderer is the same as one on a renderer in use, even if the graph has failed on
a smaller surface in between. -/
theorem bloomGraph_forgets_history :
    let failed : FrameOptions × HeadlessBackend :=
      ({ debugView := true }, { size := ⟨320, 240⟩, failing := ["bright"] })
    let fresh : HeadlessBackend := { size := ⟨640, 480⟩ }
    let used : HeadlessBackend :=
      { size := ⟨640, 480⟩
        framebuffers := .ofList [("picture", { name := "picture", size := ⟨640, 480⟩, depth := true })]
        commands := #[.bindScreen, .draw "splash"] }
    bloomGraph.Built HeadlessBackend ∧ used.size = fresh.size ∧ used.clearColor = fresh.clearColor ∧
      (∀ name, name ∈ used.failing ↔ name ∈ fresh.failing) ∧
      ((bloomGraph.afterFrames [failed]).run sideBySide used).result = .ok () ∧
      ∃ commands more,
        (bloomGraph.run sideBySide fresh).state.commands.toList = commands ∧
        ((bloomGraph.afterFrames [failed]).run sideBySide used).state.commands.toList =
          .bindScreen :: .draw "splash" :: more ∧
        withoutAllocations more = withoutAllocations commands := by
  intro failed fresh used
  have failing : ∀ name, name ∈ used.failing ↔ name ∈ fresh.failing := fun _ => Iff.rfl
  obtain ⟨result, commands, more, added, addedMore, same⟩ :=
    run_forgets_history bloomGraph_built [] [failed] sideBySide fresh used rfl rfl failing
  have succeeded : (bloomGraph.run sideBySide fresh).result = .ok () := by rfl
  exact ⟨bloomGraph_built, rfl, rfl, failing, result.trans succeeded, commands, more, added, addedMore,
    same⟩

end CompiledGraph

end ShaderFlow

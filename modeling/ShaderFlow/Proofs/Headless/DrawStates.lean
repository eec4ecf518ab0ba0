/-
Module: ShaderFlow.Proofs.Headless.DrawStates
Purpose: Every draw of a frame happens in the state that its pass asks for.
Main exports: CompiledGraph.DrawnIn, CompiledGraph.screenArea, CompiledGraph.draws_in_state
-/
import ShaderFlow.Proofs.Headless.FrameRecord

namespace ShaderFlow

/-!
A draw sees the target, the area and the override that commands before it have set, also those of other
passes.  Every pass sets target and area anew; an override it sets only if it has a program, so here it
matters that the passes before it have removed theirs.
-/

namespace CompiledGraph

/-- Where draws to the screen go: in the debug view to the first cell of the grid, and otherwise
everywhere. -/
def screenArea (graph : CompiledGraph HeadlessProgram HeadlessSource) (surface : Extent)
    (options : FrameOptions) : DrawArea :=
  if options.debugView then
    match (options.grid.cells (UInt32.ofNat graph.targets.size) surface).head? with
    | some cell => .rectangle cell
    | none => .whole
  else .whole

/-- The state in which a pass draws: its output is bound, the whole of it or the area of the screen is
covered, and exactly its own program is installed, wired to what the pass reads. -/
structure DrawnIn (graph : CompiledGraph HeadlessProgram HeadlessSource) (surface : Extent)
    (options : FrameOptions) (pass : Pass HeadlessProgram HeadlessSource) (target : RenderTarget)
    (state : DrawState) : Prop where
  listed : pass ∈ graph.passes
  held : graph.targets.get? pass.output = some target
  bound : state.target =
    some (if pass.output = screenName then .screen else .framebuffer pass.output)
  area : state.area = some (if pass.output = screenName then graph.screenArea surface options
    else .rectangle (.full (target.size.resolve surface)))
  noProgram : pass.override = none → state.override = none
  program : ∀ program, pass.override = some program → ∃ installed,
    state.override = some installed ∧ installed.label = program.label ∧
      ∀ slot, installed.inputs.get? slot =
        (pass.dependencies.get? slot).or (program.inputs.get? slot)

/-- What a pass does between the binding of its target and its draw work: it clears what it is to
clear, with its own color. -/
structure Opens (pass : Pass HeadlessProgram HeadlessSource) (target : RenderTarget)
    (opening : List Command) : Prop where
  kinds : ∀ command ∈ opening, command.opens = true
  color : ∀ color, .clearColor color ∈ opening ↔
    pass.clearsColor = true ∧ color = pass.clearColor
  depth : .clearDepth ∈ opening ↔
    pass.clearsDepth = true ∧ (target.depth = true ∨ target.isScreen = true)

variable {graph : CompiledGraph HeadlessProgram HeadlessSource} {options : FrameOptions}
  {backend found : HeadlessBackend} {pass : Pass HeadlessProgram HeadlessSource}
  {target : RenderTarget} {command : Command}
  {before after : List (Pass HeadlessProgram HeadlessSource × Command)}
  {earlier later : List (Pass HeadlessProgram HeadlessSource × HeadlessBackend)}

/-! ### The area of the screen -/

theorem WellFormed.drawArea_screen (formed : graph.WellFormed) (surface : Extent)
    (screen : target.isScreen = true)
    (cell : target.debugViewport = graph.cell? surface options screenName) :
    target.drawArea options.debugView surface = graph.screenArea surface options := by
  obtain ⟨offscreen, first⟩ := formed.screen_first
  unfold RenderTarget.drawArea screenArea
  rw [if_pos screen, cell, cell?, formed.cellOrder_eq_keys, first, List.idxOf_cons_self,
    List.head?_eq_getElem?]
  cases options.debugView with
  | true =>
      rw [if_pos rfl, if_pos rfl]
      cases (options.grid.cells (UInt32.ofNat graph.targets.size) surface)[0]? <;> rfl
  | false =>
      rw [if_neg Bool.false_ne_true]
      rfl

/-! ### Draws -/

/-- The beginning of a pass puts draws in the state of the pass, if no override is installed. -/
theorem WellFormed.drawnIn (formed : graph.WellFormed) (listed : pass ∈ graph.passes)
    (draws : pass.Draws (graph.frameTargets backend.size options) options.debugView found target)
    (surface : found.size = backend.size) {state : DrawState} (clear : state.override = none)
    {done : List Command} (work : ∀ command ∈ done, command ∈ pass.drawn) :
    ∃ own, graph.DrawnIn backend.size options pass own (state.replay (target.allocation found ++
      (target.binding :: pass.opening target options.debugView found.size ++ done))) := by
  obtain ⟨named, screen, own, held, same⟩ := formed.exists_target draws.found
  refine ⟨own, ?_⟩
  rw [DrawState.replay_append, Pass.replay_allocation, DrawState.replay_append,
    Pass.replay_opening, Pass.replay_drawn _ work, clear, Option.or_none, surface]
  constructor
  case listed => exact listed
  case held => exact held
  case bound =>
    unfold RenderTarget.bound
    by_cases is : pass.output = screenName
    · rw [if_pos is, if_pos (screen.mpr is)]
    · rw [if_neg is, if_neg (screen.not.mpr is), named]
  case area =>
    by_cases is : pass.output = screenName
    · have cell : target.debugViewport = graph.cell? backend.size options screenName := by
        rw [same, is]
      rw [if_pos is, formed.drawArea_screen _ (screen.mpr is) cell]
    · unfold RenderTarget.drawArea
      rw [if_neg is, if_neg (screen.not.mpr is), same]
  case noProgram =>
    intro unprogrammed
    show (pass.wired (σ := HeadlessBackend)).override = none
    rw [Pass.wired, unprogrammed]
    rfl
  case program =>
    intro program held
    exact Pass.wired_override held

theorem opens_opening (pass : Pass HeadlessProgram HeadlessSource) (target : RenderTarget)
    (debugView : Bool) (surface : Extent) :
    Opens pass target (pass.opening target debugView surface) := by
  have covers := target.covers_area debugView surface
  constructor
  case kinds => exact fun command => Pass.opens_of_mem_opening
  case color =>
    intro color
    have unlike : .clearColor color ≠ target.area debugView surface := by
      intro same
      cases same ▸ covers
    rw [Pass.mem_opening, Pass.mem_clearing]
    simp [unlike]
  case depth =>
    have unlike : .clearDepth ≠ target.area debugView surface := by
      intro same
      cases same ▸ covers
    rw [Pass.mem_opening, Pass.mem_clearing]
    simp [unlike]

/-- Draws happen in the state of their pass.  Whatever the options, the renderer and the outcome of the
frame, if no override is installed when the frame begins, then at every draw the output of its pass is
bound, the area of that output is covered, and the program of the pass is installed with its wiring, or
none if it has none.  Before that the pass has cleared exactly what it is to clear.  Unless the frame
fails, all draw work of all passes is recorded. -/
theorem draws_in_state (built : graph.Built HeadlessBackend) (options : FrameOptions)
    (backend : HeadlessBackend) (start : DrawState) (clear : start.override = none) :
    (graph.run options backend).state.commands.toList =
        backend.commands.toList ++ (graph.trace options backend).map Prod.snd ∧
      ((∃ error, (graph.run options backend).result = .error error) ∨
        ∀ pass ∈ graph.passes, ∀ command ∈ pass.drawn,
          (pass, command) ∈ graph.trace options backend) ∧
      (∀ before pass label after,
        graph.trace options backend = before ++ (pass, .draw label) :: after →
          ∃ target, graph.DrawnIn backend.size options pass target
            (start.replay (before.map Prod.snd))) ∧
      ∀ before pass command after,
        graph.trace options backend = before ++ (pass, command) :: after → command.binds = true →
          ∃ target opening closing others,
            graph.targets.get? pass.output = some target ∧ Opens pass target opening ∧
              (∀ command ∈ closing, command.closes = true) ∧
              after = (opening ++ (pass.drawn ++ closing)).map (Prod.mk pass) ++ others := by
  have formed := built.wellFormed
  refine ⟨graph.commands_run options backend, ?_, ?_, ?_⟩
  · apply (graph.run_cases options backend).imp_right
    intro draws pass listed command drawn
    obtain ⟨found, target, started, drew, _⟩ := draws pass listed
    apply mem_trace_of_starts started
    rw [drew.record]
    simp [drawn]
  · intro before pass label after split
    obtain ⟨earlier, found, later, target, here, behind, started, draws, record, rfl, _⟩ :=
      split_trace split
    obtain ⟨done, work, rfl⟩ := draws.split_draw record
    rw [List.map_append, map_snd_flatMap_tagged, map_snd_map_mk, DrawState.replay_append]
    exact formed.drawnIn (mem_passes_of_starts started) draws (size_of_starts started)
      (override_replay_flatMap clear earlier) work
  · intro before pass command after split binds
    obtain ⟨earlier, found, later, target, here, behind, started, draws, record, _, rfl⟩ :=
      split_trace split
    obtain ⟨_, _, rfl⟩ := draws.split_binding binds record
    obtain ⟨_, _, own, held, same⟩ := formed.exists_target draws.found
    refine ⟨own, _, _, _, held, ?_, fun command => Pass.closes_of_mem_closing, rfl⟩
    have opens := opens_opening pass target options.debugView found.size
    rw [same] at opens ⊢
    exact ⟨opens.kinds, opens.color, opens.depth⟩

/-- The scene is drawn with the program of its pass, before the pass fails. -/
theorem litGraph_draws_in_state :
    litGraph.Built HeadlessBackend ∧ ({} : DrawState).override = none ∧ ∃ before pass after,
      litGraph.trace sideBySide { size := ⟨640, 480⟩ } =
          before ++ (pass, .draw "scene") :: after ∧
        ∃ target, litGraph.DrawnIn ⟨640, 480⟩ sideBySide pass target
          (DrawState.replay {} (before.map Prod.snd)) := by
  obtain ⟨_, _, draws, _⟩ :=
    draws_in_state litGraph_built sideBySide { size := ⟨640, 480⟩ } {} rfl
  let trace := litGraph.trace sideBySide { size := ⟨640, 480⟩ }
  let lit := litGraph.passes[1]
  have split : trace = trace.take 16 ++ (lit, .draw "scene") :: trace.drop 17 := by rfl
  exact ⟨litGraph_built, rfl, _, _, _, split, draws _ _ _ _ split⟩

end CompiledGraph

end ShaderFlow

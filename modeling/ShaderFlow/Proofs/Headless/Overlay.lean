/-
Module: ShaderFlow.Proofs.Headless.Overlay
Purpose: The overlay of the debug view shows every target that an offscreen pass is concerned with.
Main exports: Pass.displayed, CompiledGraph.overlayOf, CompiledGraph.WellFormed.overlay_started,
  CompiledGraph.WellFormed.warnings_run, CompiledGraph.overlay_complete
-/
import ShaderFlow.Proofs.Headless.DataFlow
import ShaderFlow.Proofs.Headless.Openings

namespace ShaderFlow

/-!
A rectangle of the overlay is skipped if its target has no cell or no framebuffer.  With as many cells
as targets every target has one.  Framebuffers are less obvious: the renderer may hold none when the
frame begins.  But a pass reads only what a pass before it in the same frame has rendered, and it has
rendered its own output when it comes to the overlay, so all that it shows is there.
-/

/-- The targets that a pass shows in the debug view: its output, and then what it reads, slot by slot in
the order of declaration.  A pass to the screen shows nothing. -/
def Pass.displayed {π ς : Type} (pass : Pass π ς) : List String :=
  if pass.rendersToScreen then [] else pass.output :: pass.dependencies.values

namespace CompiledGraph

/-! ### Cells -/

section Cells

variable {π ς : Type} {graph : CompiledGraph π ς} {surface : Extent} {options : FrameOptions}
  {name : String}

/-- The cell of a target is the cell of its number. -/
theorem WellFormed.cell?_eq (formed : graph.WellFormed) (debugView : options.debugView = true)
    {number : Nat} (listed : graph.targets.keys[number]? = some name) :
    graph.cell? surface options name =
      (options.grid.cells (UInt32.ofNat graph.targets.size) surface)[number]? := by
  obtain ⟨inside, rfl⟩ := List.getElem?_eq_some_iff.mp listed
  have distinct : graph.targets.keys.Nodup := graph.targets.distinct
  rw [cell?, if_pos debugView, formed.cellOrder_eq_keys, distinct.idxOf_getElem]

/-- There are as many cells as targets. -/
theorem exists_cell (few : graph.targets.size < 2 ^ 16) {number : Nat}
    (listed : graph.targets.keys[number]? = some name) :
    ∃ cell, (options.grid.cells (UInt32.ofNat graph.targets.size) surface)[number]? = some cell := by
  obtain ⟨inside, _⟩ := List.getElem?_eq_some_iff.mp listed
  have count : (UInt32.ofNat graph.targets.size).toNat = graph.targets.keys.length := by
    rw [UInt32.toNat_ofNat_of_lt' (by simp only [UInt32.size]; omega), OrderedMap.keys,
      List.length_map, OrderedMap.size]
  have enough : number < (options.grid.cells (UInt32.ofNat graph.targets.size) surface).length := by
    rw [DebugGrid.length_cells, count]
    exact inside
  exact ⟨_, List.getElem?_eq_getElem enough⟩

/-- In the debug view every target has a cell. -/
theorem WellFormed.exists_cell? (formed : graph.WellFormed) (few : graph.targets.size < 2 ^ 16)
    (debugView : options.debugView = true) {own : RenderTarget}
    (held : graph.targets.get? name = some own) :
    ∃ cell, graph.cell? surface options name = some cell := by
  have present : name ∈ graph.targets.keys :=
    List.mem_map.mpr ⟨_, OrderedMap.get?_eq_some_iff.mp held, rfl⟩
  obtain ⟨number, numbered⟩ := List.mem_iff_getElem?.mp present
  rw [formed.cell?_eq debugView numbered]
  exact exists_cell few numbered

/-- What a pass shows is a target of the graph. -/
theorem WellFormed.exists_displayed (formed : graph.WellFormed) {pass : Pass π ς}
    (listed : pass ∈ graph.passes) (shown : name ∈ pass.displayed) :
    ∃ own, graph.targets.get? name = some own := by
  unfold Pass.displayed at shown
  split at shown
  · cases shown
  · rcases List.mem_cons.mp shown with rfl | read
    · exact formed.outputs pass listed
    · obtain ⟨number, numbered⟩ := List.mem_iff_getElem?.mp listed
      obtain ⟨_, producer, _, output⟩ := formed.inputs number pass numbered name read
      obtain ⟨source, rendered, rfl⟩ := List.mem_map.mp (List.mem_of_getElem? output)
      exact formed.outputs source rendered

/-- Without the debug view no target has a cell. -/
theorem cell?_of_plain (plain : options.debugView = false) :
    graph.cell? surface options name = none := by
  rw [cell?, plain, if_neg Bool.false_ne_true]

end Cells

/-! ### Framebuffers -/

variable {graph : CompiledGraph HeadlessProgram HeadlessSource} {options : FrameOptions}
  {backend found : HeadlessBackend} {name : String} {pass : Pass HeadlessProgram HeadlessSource}
  {target : RenderTarget}
  {earlier later : List (Pass HeadlessProgram HeadlessSource × HeadlessBackend)}

/-- When a pass comes to its overlay, there is a framebuffer for its output and for all that it
reads. -/
theorem WellFormed.framebuffer_displayed (formed : graph.WellFormed)
    (started : graph.starts options backend = earlier ++ (pass, found) :: later)
    (draws : pass.Draws (graph.frameTargets backend.size options) options.debugView found target)
    (offscreen : target.isScreen = false) (listed : name ∈ target.name :: pass.dependencies.values) :
    ∃ own, graph.targets.get? name = some own ∧
      (found.play (pass.script target options.debugView found)).framebuffers.get? name =
        some (own.descriptor backend.size) := by
  obtain ⟨named, _, own, held, same⟩ := formed.exists_target draws.found
  rw [draws.framebuffer_script]
  rcases List.mem_cons.mp listed with rfl | read
  · refine ⟨own, named ▸ held, ?_⟩
    rw [draws.framebuffer_output offscreen, size_of_starts started, same]
    rfl
  · have unlike : target.name ≠ name := by
      intro itself
      have valid := formed.valid pass (mem_passes_of_starts started)
      exact valid.reads_others (named ▸ itself ▸ read)
    obtain ⟨_, source, rendered⟩ := formed.rendered started read [] nofun
    refine ⟨source, rendered.held, ?_⟩
    have framebuffer := rendered.framebuffer
    rw [List.map_append, map_snd_flatMap_tagged, List.map_nil, List.map_nil, List.append_nil,
      ← found_of_startedPasses started] at framebuffer
    rw [draws.framebuffer_other unlike, framebuffer]

/-- So a target that a pass shows is skipped only if it has no cell. -/
theorem WellFormed.shown?_displayed (formed : graph.WellFormed)
    (started : graph.starts options backend = earlier ++ (pass, found) :: later)
    (draws : pass.Draws (graph.frameTargets backend.size options) options.debugView found target)
    (offscreen : target.isScreen = false) (listed : name ∈ target.name :: pass.dependencies.values) :
    Pass.shown? (graph.frameTargets backend.size options)
        (found.play (pass.script target options.debugView found)).framebuffers name =
      (graph.cell? backend.size options name).map (.renderFramebuffer name) := by
  obtain ⟨own, held, framebuffer⟩ := formed.framebuffer_displayed started draws offscreen listed
  have named : (own.descriptor backend.size).name = name := formed.named name own held
  rw [Pass.shown?, framebuffer, frameTargets_eq, OrderedMap.get?_mapValues, held, Option.map_some,
    Option.bind_some]
  dsimp only
  cases graph.cell? backend.size options name with
  | none => rfl
  | some cell => exact congrArg (fun shown => some (Command.renderFramebuffer shown cell)) named

/-! ### The overlay of a pass -/

/-- The overlay of a pass whose draw work is complete: one rectangle for every target that the pass
shows and that has a cell. -/
def overlayOf (graph : CompiledGraph HeadlessProgram HeadlessSource) (surface : Extent)
    (options : FrameOptions) (pass : Pass HeadlessProgram HeadlessSource) : List Command :=
  match pass.outcome with
  | .ok () => pass.displayed.filterMap fun name =>
      (graph.cell? surface options name).map (.renderFramebuffer name)
  | .error _ => []

theorem WellFormed.displayed_eq (formed : graph.WellFormed)
    (draws : pass.Draws (graph.frameTargets backend.size options) options.debugView found target) :
    pass.displayed =
      if target.isScreen then [] else target.name :: pass.dependencies.values := by
  obtain ⟨named, screen, _⟩ := formed.exists_target draws.found
  have same : pass.rendersToScreen = target.isScreen := by
    rw [Bool.eq_iff_iff, screen]
    exact beq_iff_eq
  rw [Pass.displayed, same, named]

/-- Nothing but cells decides on what a pass shows. -/
theorem WellFormed.overlay_started (formed : graph.WellFormed)
    (started : graph.starts options backend = earlier ++ (pass, found) :: later)
    (draws : pass.Draws (graph.frameTargets backend.size options) options.debugView found target) :
    pass.overlay target (graph.frameTargets backend.size options) options.debugView found =
      graph.overlayOf backend.size options pass := by
  unfold overlayOf
  cases ended : pass.outcome with
  | error error => rw [Pass.overlay, ended]
  | ok =>
      dsimp only
      rw [Pass.overlay_of_ok ended, formed.displayed_eq draws]
      cases screen : target.isScreen with
      | true => simp
      | false =>
          cases debugView : options.debugView with
          | true =>
              apply List.filterMap_congr
              intro name listed
              rw [← formed.shown?_displayed started draws screen listed, debugView]
          | false => simp [cell?_of_plain debugView]

/-- Without the debug view there is no overlay. -/
theorem overlayOf_of_plain (plain : options.debugView = false) (surface : Extent)
    (pass : Pass HeadlessProgram HeadlessSource) : graph.overlayOf surface options pass = [] := by
  unfold overlayOf
  split
  · simp [cell?_of_plain plain]
  · rfl

theorem shownIn_overlayOf (succeeds : pass.outcome = .ok ()) (surface : Extent) :
    shownIn (graph.overlayOf surface options pass) = pass.displayed.filterMap fun name =>
      (graph.cell? surface options name).map (Prod.mk name) := by
  rw [overlayOf, succeeds, shownIn, List.filterMap_filterMap]
  apply List.filterMap_congr
  intro name _
  cases graph.cell? surface options name <;> rfl

/-! ### Warnings -/

theorem warnings_showTargets {targets : OrderedMap String RenderTarget} {names : List String}
    (shown : ∀ name ∈ names, ∃ command,
      Pass.shown? targets backend.framebuffers name = some command) :
    (Pass.showTargets targets names backend).2.1 = [] := by
  induction names generalizing backend with
  | nil => rfl
  | cons name rest ih =>
      obtain ⟨⟨command, here⟩, others⟩ := List.forall_mem_cons.mp shown
      obtain ⟨warnings, step⟩ := Pass.showTarget_eq targets name backend
      have quiet : warnings = [] := by
        unfold Pass.shown? at here
        unfold Pass.showTarget at step
        split at here
        · next cell framebuffer viewport held =>
            have found : Renderer.framebuffer? name backend = some framebuffer := held
            rw [viewport, found] at step
            exact (congrArg (fun run => run.2.1) step).symm
        · cases here
      rw [← Pass.framebuffers_shown targets name backend] at others
      unfold Pass.showTargets
      rw [step, quiet]
      exact ih others

/-- A pass warns only of what it skips in its overlay. -/
theorem warnings_of_shown {targets : OrderedMap String RenderTarget} {debugView : Bool}
    (shown : ∀ target, pass.Draws targets debugView backend target → debugView = true →
      target.isScreen = false → ∀ name ∈ target.name :: pass.dependencies.values, ∃ command,
        Pass.shown? targets (backend.play (pass.script target debugView backend)).framebuffers name =
          some command) :
    (pass.run targets debugView backend).warnings = [] := by
  cases held : targets.get? pass.output with
  | none => rw [Pass.run, held]
  | some target =>
      cases checked : (pass.validate : Except (RenderError HeadlessError) Unit) with
      | error error =>
          rw [Pass.run, held]
          dsimp only
          rw [checked]
      | ok =>
          rw [Pass.run_of_checked held checked, Pass.runOn]
          cases accepted : target.refused backend with
          | true => rw [Pass.bindTarget_of_refused accepted]
          | false =>
              have draws : pass.Draws targets debugView backend target :=
                .of_accepted held checked accepted
              rw [Pass.bindTarget_of_accepted accepted]
              dsimp only
              rw [Pass.wired_drawOverridden_eq]
              cases pass.outcome with
              | error error => rfl
              | ok =>
                  dsimp only
                  split
                  · next debugged =>
                      obtain ⟨view, offscreen⟩ := Bool.and_eq_true_iff.mp debugged
                      apply warnings_showTargets
                      exact shown target draws view (by simpa using offscreen)
                  · rfl

/-- No frame of a graph that was built skips anything. -/
theorem WellFormed.warnings_run (formed : graph.WellFormed) (few : graph.targets.size < 2 ^ 16)
    (options : FrameOptions) (backend : HeadlessBackend) :
    (graph.run options backend).warnings = [] := by
  apply warnings_runPasses.trans
  apply List.flatMap_eq_nil_iff.mpr
  rintro ⟨pass, found⟩ listed
  obtain ⟨earlier, later, started⟩ := List.append_of_mem listed
  apply warnings_of_shown
  intro target draws debugView offscreen name displayed
  obtain ⟨own, held, _⟩ := formed.framebuffer_displayed started draws offscreen displayed
  obtain ⟨cell, given⟩ := formed.exists_cell? few debugView held
  have shown := formed.shown?_displayed started draws offscreen displayed
  rw [given] at shown
  exact ⟨_, shown⟩

/-! ### The overlay of a frame -/

theorem WellFormed.shownIn_record (formed : graph.WellFormed)
    (started : graph.starts options backend = earlier ++ (pass, found) :: later)
    (succeeded : (pass.run (graph.frameTargets backend.size options) options.debugView
      found).result = .ok ()) :
    shownIn (pass.record (graph.frameTargets backend.size options) options.debugView found) =
      pass.displayed.filterMap fun name =>
        (graph.cell? backend.size options name).map (Prod.mk name) := by
  obtain ⟨⟨target, draws⟩, succeeds⟩ := Pass.draws_of_ok succeeded
  rw [draws.shownIn_record, formed.overlay_started started draws, shownIn_overlayOf succeeds]

/-- A frame that succeeds shows what its passes show. -/
theorem WellFormed.shownIn_trace (formed : graph.WellFormed)
    (succeeded : (graph.run options backend).result = .ok ()) :
    shownIn ((graph.trace options backend).map Prod.snd) =
      graph.passes.flatMap fun pass => pass.displayed.filterMap fun name =>
        (graph.cell? backend.size options name).map (Prod.mk name) := by
  obtain ⟨all, done⟩ := startedPasses_of_ok succeeded
  rw [← all]
  apply seen_in_trace rfl fun _ _ => shownIn_append
  intro earlier pass found later started
  exact formed.shownIn_record started
    (done _ (started ▸ List.mem_append_right _ List.mem_cons_self))

/-- In the debug view, no target that a pass shows is left out. -/
theorem WellFormed.map_fst_shown (formed : graph.WellFormed) (few : graph.targets.size < 2 ^ 16)
    (debugView : options.debugView = true) {surface : Extent} :
    (graph.passes.flatMap fun pass => pass.displayed.filterMap fun name =>
        (graph.cell? surface options name).map (Prod.mk name)).map Prod.fst =
      graph.passes.flatMap Pass.displayed := by
  rw [List.map_flatMap]
  apply List.flatMap_congr
  intro pass listed
  rw [List.map_filterMap]
  refine (List.filterMap_congr fun name displayed => ?_).trans List.filterMap_some
  obtain ⟨own, held⟩ := formed.exists_displayed listed displayed
  obtain ⟨cell, given⟩ := formed.exists_cell? few debugView held
  rw [given]
  rfl

/-- Without the debug view no frame shows anything. -/
theorem WellFormed.shownIn_trace_of_plain (formed : graph.WellFormed)
    (plain : options.debugView = false) :
    shownIn ((graph.trace options backend).map Prod.snd) = [] := by
  suffices shown : shownIn ((graph.trace options backend).map Prod.snd) =
      ((graph.starts options backend).map Prod.fst).flatMap fun _ => [] from
    shown.trans (List.flatMap_eq_nil_iff.mpr fun _ _ => rfl)
  apply seen_in_trace rfl fun _ _ => shownIn_append
  intro earlier pass found later started
  rcases pass.run_cases (graph.frameTargets backend.size options) options.debugView found with
    ⟨target, draws⟩ | ⟨_, same⟩
  · rw [draws.shownIn_record, formed.overlay_started started draws, overlayOf_of_plain plain]
    rfl
  · rw [Pass.record_of_unchanged same]
    rfl

/-- After a frame every target has the cell of the frame. -/
theorem debugViewport_run {frameTarget : RenderTarget} :
    (graph.run options backend).graph.targets.get? name = some frameTarget ↔
      ∃ own, graph.targets.get? name = some own ∧
        frameTarget = { own with debugViewport := graph.cell? backend.size options name } := by
  show (graph.frameTargets backend.size options).get? name = some frameTarget ↔ _
  rw [frameTargets_eq, OrderedMap.get?_mapValues, Option.map_eq_some_iff]
  simp only [eq_comm]

/-- The overlay of the debug view is complete.  Whatever the surface, the options and the renderer, no
frame of a graph with few targets skips a target with a warning.  In the debug view the screen has the
first cell and the offscreen targets have the next ones, in the order of registration, and a frame that
succeeds shows, for one offscreen pass after another, first the output of the pass and then what it
reads, each in the cell of its target.  Without the debug view nothing is shown, and no target keeps a
cell of an earlier frame. -/
theorem overlay_complete (built : graph.Built HeadlessBackend) (few : graph.targets.size < 2 ^ 16)
    (options : FrameOptions) (backend : HeadlessBackend) :
    let frame := graph.run options backend
    let cells := options.grid.cells (UInt32.ofNat graph.targets.size) backend.size
    frame.warnings = [] ∧
      ∃ commands offscreen,
        frame.state.commands.toList = backend.commands.toList ++ commands ∧
        graph.targets.keys = screenName :: offscreen ∧
        frame.graph.targets.keys = screenName :: offscreen ∧
        (options.debugView = true →
          (∀ (number : Nat) (name : String), graph.targets.keys[number]? = some name →
            ∃ target cell, frame.graph.targets.get? name = some target ∧
              cells[number]? = some cell ∧ target.debugViewport = some cell) ∧
          (frame.result = .ok () →
            (shownIn commands).map Prod.fst = graph.passes.flatMap Pass.displayed ∧
              ∀ name cell, (name, cell) ∈ shownIn commands → ∃ target,
                frame.graph.targets.get? name = some target ∧
                  target.debugViewport = some cell)) ∧
        (options.debugView = false →
          shownIn commands = [] ∧ ∀ name target, frame.graph.targets.get? name = some target →
            target.debugViewport = none) := by
  intro frame cells
  have formed := built.wellFormed
  obtain ⟨offscreen, first⟩ := formed.screen_first
  have kept : frame.graph.targets.keys = graph.targets.keys := by
    show (graph.frameTargets backend.size options).keys = _
    rw [frameTargets_eq, OrderedMap.keys_mapValues]
  constructor
  case left => exact formed.warnings_run few options backend
  case right =>
    refine ⟨_, offscreen, graph.commands_run options backend, first, kept.trans first, ?_, ?_⟩
    · intro debugView
      constructor
      · intro number name listed
        obtain ⟨entry, member, rfl⟩ := List.mem_map.mp (List.mem_of_getElem? listed)
        have held := OrderedMap.get?_eq_some_iff.mpr member
        obtain ⟨cell, given⟩ := exists_cell few listed
        refine ⟨_, cell, debugViewport_run.mpr ⟨_, held, rfl⟩, given, ?_⟩
        exact (formed.cell?_eq debugView listed).trans given
      · intro succeeded
        rw [formed.shownIn_trace succeeded]
        constructor
        · exact formed.map_fst_shown few debugView
        · intro name cell member
          obtain ⟨pass, listed, shown⟩ := List.mem_flatMap.mp member
          obtain ⟨concerned, displayed, given⟩ := List.mem_filterMap.mp shown
          obtain ⟨_, cell?, same⟩ := Option.map_eq_some_iff.mp given
          cases same
          obtain ⟨own, held⟩ := formed.exists_displayed listed displayed
          exact ⟨_, debugViewport_run.mpr ⟨own, held, rfl⟩, cell?⟩
    · intro plain
      constructor
      · exact formed.shownIn_trace_of_plain plain
      · intro name target held
        obtain ⟨own, _, rfl⟩ := debugViewport_run.mp held
        exact cell?_of_plain plain

/-- A scene of three passes: the bright parts of a picture are filtered, with the picture in two slots,
and both are put together on the screen. -/
def bloomScene : List (FrameCall HeadlessProgram HeadlessSource) :=
  [.addTarget ⟨{ name := "picture" }, nofun⟩,
    .addTarget ⟨{ name := "bright", size := .absolute ⟨128, 128⟩ }, nofun⟩,
    .addPass { name := "paint", output := "picture", sources := [.draw "scene"] },
    .addPass
      { name := "filter", output := "bright", sources := [.draw "blur"]
        dependencies := .ofList [("color", "picture"), ("mask", "picture")] },
    .addPass
      { name := "compose", sources := [.draw "sum"]
        dependencies := .ofList [("base", "picture"), ("glow", "bright")] }]

/-- The graph that the scene is built to. -/
def bloomGraph : CompiledGraph HeadlessProgram HeadlessSource :=
  let authored := FrameGraph.new.authorAll HeadlessError bloomScene
  { targets := authored.targets, passes := authored.passes }

theorem bloomGraph_built : bloomGraph.Built HeadlessBackend := by
  obtain ⟨formed, linked, _⟩ := FrameGraph.authorAll_sound (ε := HeadlessError)
    FrameGraph.WellFormed.new FrameGraph.Linked.new bloomScene
  obtain ⟨warnings, built⟩ := FrameGraph.build_eq_ok (ε := HeadlessError) formed linked
  exact .build built

/-- The picture is shown as an output and in both slots of the filter. -/
theorem bloomGraph_overlay_complete :
    let backend : HeadlessBackend := { size := ⟨640, 480⟩ }
    bloomGraph.Built HeadlessBackend ∧ bloomGraph.targets.size < 2 ^ 16 ∧
      (bloomGraph.run sideBySide backend).result = .ok () ∧
      ∃ commands, (bloomGraph.run sideBySide backend).state.commands.toList = commands ∧
        (shownIn commands).map Prod.fst = ["picture", "bright", "picture", "picture"] := by
  intro backend
  have few : bloomGraph.targets.size < 2 ^ 16 := by decide
  have succeeded : (bloomGraph.run sideBySide backend).result = .ok () := by rfl
  obtain ⟨_, commands, _, added, _, _, shown, _⟩ :=
    overlay_complete bloomGraph_built few sideBySide backend
  obtain ⟨names, _⟩ := (shown rfl).2 succeeded
  exact ⟨bloomGraph_built, few, succeeded, commands, added, names.trans (by decide)⟩

end CompiledGraph

end ShaderFlow

/-
Module: ShaderFlow.Proofs.Headless.FrameRecord
Purpose: The commands that a frame records, pass by pass.
Main exports: CompiledGraph.starts, CompiledGraph.trace, CompiledGraph.state_run,
  CompiledGraph.commands_run, CompiledGraph.seen_in_trace, CompiledGraph.split_trace,
  CompiledGraph.run_cases, CompiledGraph.run_restores
-/
import ShaderFlow.Proofs.Headless.PassEffect
import ShaderFlow.Proofs.Render.BuiltGraph

namespace ShaderFlow

/-!
A frame records what its passes record, one after another, and ends with the first pass that fails.  So
every command of a frame belongs to one of the passes that were started, and the commands before it are
all that the earlier passes record and the beginning of what its own pass records.
-/

/-- A list that is put together from parts is split at a member by splitting the items and one of the
parts. -/
theorem flatMap_eq_append_cons {α β : Type} {parts : α → List β} {items : List α} {member : β}
    {before after : List β} (split : items.flatMap parts = before ++ member :: after) :
    ∃ earlier item later here behind, items = earlier ++ item :: later ∧
      parts item = here ++ member :: behind ∧ before = earlier.flatMap parts ++ here ∧
      after = behind ++ later.flatMap parts := by
  induction items generalizing before with
  | nil => simp at split
  | cons item rest ih =>
      rw [List.flatMap_cons] at split
      -- The member stands behind the part of the first item, or in it.
      rcases List.append_eq_append_iff.mp split with ⟨here, same, behind⟩ | ⟨here, whole, behind⟩
      · obtain ⟨earlier, found, later, within, others, rfl, part, first, last⟩ := ih behind
        exact ⟨item :: earlier, found, later, within, others, rfl, part, by simp [same, first], last⟩
      · rcases List.cons_eq_append_iff.mp behind with ⟨rfl, next⟩ | ⟨others, rfl, last⟩
        · have start : rest.flatMap parts = [] ++ member :: after := next
          obtain ⟨earlier, found, later, within, others, rfl, part, first, last⟩ := ih start
          exact ⟨item :: earlier, found, later, within, others, rfl, part,
            by simp [whole, ← first], last⟩
        · exact ⟨[], item, rest, before, others, rfl, whole, rfl, last⟩

namespace CompiledGraph

/-- What a pass records that was started in a given state. -/
def recordOf (targets : OrderedMap String RenderTarget) (debugView : Bool)
    (start : Pass HeadlessProgram HeadlessSource × HeadlessBackend) : List Command :=
  start.1.record targets debugView start.2

/-- The same, each command with the pass that records it. -/
def tagged (targets : OrderedMap String RenderTarget) (debugView : Bool)
    (start : Pass HeadlessProgram HeadlessSource × HeadlessBackend) :
    List (Pass HeadlessProgram HeadlessSource × Command) :=
  (recordOf targets debugView start).map (Prod.mk start.1)

/-- The passes that a frame starts, each with the renderer that it finds. -/
def starts (graph : CompiledGraph HeadlessProgram HeadlessSource) (options : FrameOptions)
    (backend : HeadlessBackend) : List (Pass HeadlessProgram HeadlessSource × HeadlessBackend) :=
  startedPasses (graph.frameTargets backend.size options) options.debugView graph.passes backend

/-- The commands of a frame, each with the pass that records it. -/
def trace (graph : CompiledGraph HeadlessProgram HeadlessSource) (options : FrameOptions)
    (backend : HeadlessBackend) : List (Pass HeadlessProgram HeadlessSource × Command) :=
  (graph.starts options backend).flatMap
    (tagged (graph.frameTargets backend.size options) options.debugView)

variable {targets : OrderedMap String RenderTarget} {debugView : Bool}
  {passes : List (Pass HeadlessProgram HeadlessSource)} {backend : HeadlessBackend}

/-! ### The renderer in the course of a frame -/

theorem state_runPasses :
    (runPasses targets debugView passes backend).2.2.2 = backend.play
      ((startedPasses targets debugView passes backend).flatMap (recordOf targets debugView)) := by
  induction passes generalizing backend with
  | nil => rfl
  | cons pass rest ih =>
      unfold runPasses startedPasses
      rw [List.flatMap_cons, HeadlessBackend.play_append, recordOf, ← pass.state_run]
      dsimp only
      cases (pass.run targets debugView backend).result with
      | ok => exact ih
      | error => rfl

/-- A pass finds the renderer as the passes before it have left it. -/
theorem found_of_startedPasses {found : HeadlessBackend}
    {pass : Pass HeadlessProgram HeadlessSource}
    {earlier later : List (Pass HeadlessProgram HeadlessSource × HeadlessBackend)}
    (started : startedPasses targets debugView passes backend = earlier ++ (pass, found) :: later) :
    found = backend.play (earlier.flatMap (recordOf targets debugView)) := by
  induction passes generalizing backend earlier with
  | nil => simp [startedPasses] at started
  | cons first rest ih =>
      unfold startedPasses at started
      cases earlier with
      | nil =>
          cases (List.cons.inj started).1
          rfl
      | cons start earlier =>
          obtain ⟨rfl, others⟩ := List.cons.inj started
          split at others
          · rw [List.flatMap_cons, HeadlessBackend.play_append, recordOf, ← first.state_run]
            exact ih others
          · simp at others

/-- Whatever happens in a frame, the clear color is the one before. -/
theorem clearColor_runPasses :
    (runPasses targets debugView passes backend).2.2.2.clearColor = backend.clearColor := by
  induction passes generalizing backend with
  | nil => rfl
  | cons pass rest ih =>
      unfold runPasses
      dsimp only
      have kept := pass.clearColor_run targets debugView backend
      cases (pass.run targets debugView backend).result with
      | ok => exact ih.trans kept
      | error => exact kept

/-- Passes that find no override installed leave none. -/
theorem override_replay_flatMap {state : DrawState} (clear : state.override = none)
    (starts : List (Pass HeadlessProgram HeadlessSource × HeadlessBackend)) :
    (state.replay (starts.flatMap (recordOf targets debugView))).override = none := by
  induction starts generalizing state with
  | nil => exact clear
  | cons start rest ih =>
      rw [List.flatMap_cons, DrawState.replay_append]
      exact ih (start.1.override_replay_record targets debugView start.2 clear)

/-! ### The trace of a frame -/

theorem map_snd_map_mk {α β : Type} (first : α) (seconds : List β) :
    (seconds.map (Prod.mk first)).map Prod.snd = seconds := by
  rw [List.map_map]
  exact List.map_id seconds

theorem map_snd_flatMap_tagged
    (starts : List (Pass HeadlessProgram HeadlessSource × HeadlessBackend)) :
    (starts.flatMap (tagged targets debugView)).map Prod.snd =
      starts.flatMap (recordOf targets debugView) := by
  rw [List.map_flatMap]
  exact List.flatMap_congr fun start _ => map_snd_map_mk start.1 _

theorem tagged_of_draws {pass : Pass HeadlessProgram HeadlessSource} {found : HeadlessBackend}
    {target : RenderTarget} (draws : pass.Draws targets debugView found target) :
    tagged targets debugView (pass, found) = (target.allocation found).map (Prod.mk pass) ++
      (pass, target.binding) :: ((pass.opening target debugView found.size).map (Prod.mk pass) ++
        (pass.drawn.map (Prod.mk pass) ++
          (pass.closing target targets debugView found).map (Prod.mk pass))) := by
  rw [tagged, recordOf, draws.record, List.map_append, List.map_cons, List.map_append,
    List.map_append]

/-- The renderer after a frame is the one before, played on with the commands of the trace. -/
theorem state_run (graph : CompiledGraph HeadlessProgram HeadlessSource) (options : FrameOptions)
    (backend : HeadlessBackend) :
    (graph.run options backend).state =
      backend.play ((graph.trace options backend).map Prod.snd) := by
  rw [trace, map_snd_flatMap_tagged]
  exact state_runPasses

/-- The commands of the trace are those that the frame adds to the record. -/
theorem commands_run (graph : CompiledGraph HeadlessProgram HeadlessSource)
    (options : FrameOptions) (backend : HeadlessBackend) :
    (graph.run options backend).state.commands.toList =
      backend.commands.toList ++ (graph.trace options backend).map Prod.snd := by
  rw [state_run, HeadlessBackend.commands_play]

variable {graph : CompiledGraph HeadlessProgram HeadlessSource} {options : FrameOptions}
  {before after : List (Pass HeadlessProgram HeadlessSource × Command)}
  {pass : Pass HeadlessProgram HeadlessSource} {command : Command} {found : HeadlessBackend}
  {earlier later : List (Pass HeadlessProgram HeadlessSource × HeadlessBackend)}

/-- What is seen in a trace, command by command, is what is seen in the records of its passes. -/
theorem seen_in_trace {β : Type} {seen : List Command → List β}
    {each : Pass HeadlessProgram HeadlessSource → List β} (empty : seen [] = [])
    (append : ∀ record more, seen (record ++ more) = seen record ++ seen more)
    (told : ∀ earlier pass found later,
      graph.starts options backend = earlier ++ (pass, found) :: later →
        seen (pass.record (graph.frameTargets backend.size options) options.debugView found) =
          each pass) :
    seen ((graph.trace options backend).map Prod.snd) =
      ((graph.starts options backend).map Prod.fst).flatMap each := by
  have parts (starts : List (Pass HeadlessProgram HeadlessSource × HeadlessBackend)) :
      seen (starts.flatMap (recordOf (graph.frameTargets backend.size options) options.debugView)) =
        starts.flatMap fun start =>
          seen (recordOf (graph.frameTargets backend.size options) options.debugView start) := by
    induction starts with
    | nil => exact empty
    | cons start rest ih => rw [List.flatMap_cons, List.flatMap_cons, append, ih]
  rw [trace, map_snd_flatMap_tagged, parts, List.flatMap_map]
  apply List.flatMap_congr
  rintro ⟨pass, found⟩ listed
  obtain ⟨earlier, later, started⟩ := List.append_of_mem listed
  exact told earlier pass found later started

theorem mem_passes_of_starts
    (started : graph.starts options backend = earlier ++ (pass, found) :: later) :
    pass ∈ graph.passes := mem_of_startedPasses started

theorem size_of_starts
    (started : graph.starts options backend = earlier ++ (pass, found) :: later) :
    found.size = backend.size := by
  rw [found_of_startedPasses started, HeadlessBackend.size_play]

/-- A command of a frame is recorded by a pass that draws, behind everything that the passes before it
record. -/
theorem split_trace
    (split : graph.trace options backend = before ++ (pass, command) :: after) :
    ∃ earlier found later target here behind,
      graph.starts options backend = earlier ++ (pass, found) :: later ∧
      pass.Draws (graph.frameTargets backend.size options) options.debugView found target ∧
      pass.record (graph.frameTargets backend.size options) options.debugView found =
        here ++ command :: behind ∧
      before = earlier.flatMap
          (tagged (graph.frameTargets backend.size options) options.debugView) ++
        here.map (Prod.mk pass) ∧
      after = behind.map (Prod.mk pass) ++ later.flatMap
        (tagged (graph.frameTargets backend.size options) options.debugView) := by
  obtain ⟨earlier, ⟨owner, found⟩, later, here, behind, starts, part, first, last⟩ :=
    flatMap_eq_append_cons split
  obtain ⟨commands, others, whole, rfl, same⟩ := List.map_eq_append_iff.mp part
  obtain ⟨recorded, rest, rfl, equal, rfl⟩ := List.map_eq_cons_iff.mp same
  cases equal
  have inRecord : command ∈ commands ++ command :: rest :=
    List.mem_append_right _ List.mem_cons_self
  rw [← whole] at inRecord
  obtain ⟨target, draws⟩ := Pass.draws_of_mem_record inRecord
  exact ⟨earlier, found, later, target, commands, rest, starts, draws, whole, first, last⟩

/-- A frame fails, or all passes draw and none of their draw work fails. -/
theorem run_cases (graph : CompiledGraph HeadlessProgram HeadlessSource) (options : FrameOptions)
    (backend : HeadlessBackend) :
    (∃ error, (graph.run options backend).result = .error error) ∨
      ∀ pass ∈ graph.passes, ∃ found target, (pass, found) ∈ graph.starts options backend ∧
        pass.Draws (graph.frameTargets backend.size options) options.debugView found target ∧
        pass.outcome = .ok () := by
  cases ended : (graph.run options backend).result with
  | error error => exact .inl ⟨error, rfl⟩
  | ok =>
      right
      intro pass listed
      obtain ⟨found, started, done⟩ := started_of_ok ended pass listed
      obtain ⟨⟨target, draws⟩, completed⟩ := Pass.draws_of_ok done
      exact ⟨found, target, started, draws, completed⟩

theorem mem_trace_of_starts (started : (pass, found) ∈ graph.starts options backend)
    (recorded : command ∈ pass.record (graph.frameTargets backend.size options)
      options.debugView found) : (pass, command) ∈ graph.trace options backend :=
  List.mem_flatMap.mpr ⟨_, started, List.mem_map_of_mem recorded⟩

/-! ### Frames restore the renderer -/

/-- After a frame, completed or not, the clear color is the one before, and no override is installed
if none was. -/
theorem run_restores (graph : CompiledGraph HeadlessProgram HeadlessSource) (options : FrameOptions)
    (backend : HeadlessBackend) :
    (graph.run options backend).state.clearColor = backend.clearColor ∧
      ∃ commands, (graph.run options backend).state.commands.toList =
          backend.commands.toList ++ commands ∧
        ∀ start : DrawState, start.override = none → (start.replay commands).override = none := by
  constructor
  · exact clearColor_runPasses
  · refine ⟨_, graph.commands_run options backend, ?_⟩
    intro start clear
    rw [trace, map_snd_flatMap_tagged]
    exact override_replay_flatMap clear _

/-- A scene of two passes: one renders a shadow map and changes the clear color, and one reads the map
with a program of its own and fails after its first draw. -/
def litScene : List (FrameCall HeadlessProgram HeadlessSource) :=
  [.addTarget ⟨{ name := "shadow", size := .absolute ⟨64, 64⟩ }, nofun⟩,
    .addPass
      { name := "casters", output := "shadow"
        sources := [.draw "casters", .setClearColor ⟨.one, .zero, .zero, .one⟩] },
    .addPass
      { name := "lit", dependencies := .ofList [("map", "shadow")]
        override := some { label := "lit" }
        sources := [.draw "scene", .fail "sky", .draw "haze"] }]

/-- The graph that the scene is built to. -/
def litGraph : CompiledGraph HeadlessProgram HeadlessSource :=
  let authored := FrameGraph.new.authorAll HeadlessError litScene
  { targets := authored.targets, passes := authored.passes }

/-- The debug view, in two columns. -/
def sideBySide : FrameOptions := { debugView := true, grid := { columns := some 2 } }

theorem litGraph_built : litGraph.Built HeadlessBackend := by
  obtain ⟨formed, linked, _⟩ := FrameGraph.authorAll_sound (ε := HeadlessError)
    FrameGraph.WellFormed.new FrameGraph.Linked.new litScene
  obtain ⟨warnings, built⟩ := FrameGraph.build_eq_ok (ε := HeadlessError) formed linked
  exact .build built

/-- The second pass of the scene fails with its program installed. -/
theorem litGraph_restores :
    let backend : HeadlessBackend := { size := ⟨640, 480⟩, clearColor := ⟨.one, .one, .one, .one⟩ }
    (litGraph.run sideBySide backend).result = .error (.backend (.source "sky")) ∧
      (litGraph.run sideBySide backend).state.clearColor = ⟨.one, .one, .one, .one⟩ ∧
      ∃ commands, (litGraph.run sideBySide backend).state.commands.toList = commands ∧
        (DrawState.replay {} commands).override = none := by
  intro backend
  obtain ⟨color, commands, added, removed⟩ := litGraph.run_restores sideBySide backend
  exact ⟨by rfl, color, commands, added, removed {} rfl⟩

end CompiledGraph

end ShaderFlow

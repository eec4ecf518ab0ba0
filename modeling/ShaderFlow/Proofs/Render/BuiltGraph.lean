/-
Module: ShaderFlow.Proofs.Render.BuiltGraph
Purpose: Graphs that were built, however many frames they have run, and the passes that a frame starts.
Main exports: CompiledGraph.WellFormed, CompiledGraph.Built, CompiledGraph.Built.wellFormed,
  CompiledGraph.cell?, CompiledGraph.startedPasses, CompiledGraph.started_of_ok,
  CompiledGraph.startedPasses_of_ok, CompiledGraph.WellFormed.cellOrder_eq_keys,
  CompiledGraph.WellFormed.output_ne, CompiledGraph.WellFormed.exists_producer
-/
import ShaderFlow.Proofs.Render.FrameAuthoring
import ShaderFlow.Render.FrameRun

namespace ShaderFlow

/-!
A frame changes a graph in two ways only: it moves the cells of the debug view, and it wires programs.
Neither matters to names, outputs and dependencies, so a graph stays as the build left it.
-/

variable {σ φ π ς ε : Type}

/-- What holds of the targets and the passes of a graph that was built. -/
structure CompiledGraph.WellFormed (graph : CompiledGraph π ς) : Prop where
  screen_first : ∃ offscreen, graph.targets.keys = screenName :: offscreen
  named : ∀ name target, graph.targets.get? name = some target → target.name = name
  isScreen_iff : ∀ name target, graph.targets.get? name = some target →
    (target.isScreen = true ↔ name = screenName)
  distinct_passes : (graph.passes.map Pass.name).Nodup
  valid : ∀ pass ∈ graph.passes, pass.Valid
  outputs : ∀ pass ∈ graph.passes, ∃ target, graph.targets.get? pass.output = some target
  /-- An offscreen target is the output of at most one pass. -/
  produced_once : ∀ name ≠ screenName, (graph.passes.map Pass.output).count name ≤ 1
  /-- A pass reads only what an earlier pass renders. -/
  inputs : ∀ (number : Nat) pass, graph.passes[number]? = some pass →
    ∀ name ∈ pass.dependencies.values, name ≠ screenName ∧
      ∃ producer < number, (graph.passes.map Pass.output)[producer]? = some name

namespace FrameGraph

variable {graph : FrameGraph π ς}

theorem WellFormed.isScreen_iff (formed : graph.WellFormed) {name : String} {target : RenderTarget}
    (held : graph.targets.get? name = some target) :
    target.isScreen = true ↔ name = screenName := by
  obtain ⟨offscreen, first, others⟩ := formed.screen_first
  have distinct := graph.targets.distinct
  rw [first, List.map_cons, List.nodup_cons] at distinct
  have member := OrderedMap.get?_eq_some_iff.mp held
  rw [first, List.mem_cons, Prod.mk.injEq] at member
  rcases member with ⟨rfl, rfl⟩ | member
  · simp [RenderTarget.screen]
  · have unlike : name ≠ screenName := fun same =>
      distinct.1 (List.mem_map.mpr ⟨_, member, same⟩)
    simpa [unlike] using others _ member

/-- What a build hands on is in order. -/
theorem WellFormed.compiled (formed : graph.WellFormed) :
    ({ targets := graph.targets, passes := graph.passes } : CompiledGraph π ς).WellFormed where
  screen_first := by
    obtain ⟨offscreen, first, _⟩ := formed.screen_first
    exact ⟨offscreen.map Prod.fst, by rw [OrderedMap.keys, first, List.map_cons]⟩
  named name target held := formed.named _ (OrderedMap.get?_eq_some_iff.mp held)
  isScreen_iff _ _ held := formed.isScreen_iff held
  distinct_passes := formed.distinct_passes
  valid := formed.valid
  outputs pass member := Option.isSome_iff_exists.mp (formed.outputs pass member)
  produced_once := formed.produced_once
  inputs number pass held name member := by
    obtain ⟨producer, earlier, produced⟩ := formed.inputs number pass held name member
    obtain ⟨offscreen, output⟩ := (formed.producer_iff name producer).mp produced
    exact ⟨offscreen, producer, earlier, output⟩

end FrameGraph

/-! ### Frames keep the order -/

/-- A pass without its program. -/
def Pass.withoutProgram (pass : Pass π ς) : Pass π ς := { pass with override := none }

theorem Pass.Valid.of_alike {pass other : Pass π ς}
    (alike : pass.withoutProgram = other.withoutProgram) (valid : pass.Valid) : other.Valid := by
  obtain ⟨drawn, others⟩ : pass.withoutProgram.Valid := ⟨valid.drawn, valid.reads_others⟩
  rw [alike] at drawn others
  exact ⟨drawn, others⟩

namespace CompiledGraph

/-- Two graphs that differ at most in programs and in the cells of the debug view. -/
structure Alike (graph next : CompiledGraph π ς) : Prop where
  passes : next.passes.map Pass.withoutProgram = graph.passes.map Pass.withoutProgram
  targets : ∃ cell : String → Option Viewport, next.targets =
    graph.targets.mapValues fun name target => { target with debugViewport := cell name }

variable {graph next : CompiledGraph π ς}

theorem Alike.map_passes {β : Type} (alike : graph.Alike next) (field : Pass π ς → β)
    (unprogrammed : ∀ pass, field pass.withoutProgram = field pass) :
    next.passes.map field = graph.passes.map field := by
  have same := congrArg (List.map field) alike.passes
  simpa only [List.map_map, Function.comp_def, unprogrammed] using same

/-- A pass of the one graph stands in the same place of the other. -/
theorem Alike.pass {number : Nat} {pass : Pass π ς} (alike : graph.Alike next)
    (held : next.passes[number]? = some pass) :
    ∃ before, graph.passes[number]? = some before ∧ before.withoutProgram = pass.withoutProgram := by
  have same := congrArg (·[number]?) alike.passes
  simp only [List.getElem?_map, held, Option.map_some] at same
  exact Option.map_eq_some_iff.mp same.symm

theorem Alike.target {name : String} {target : RenderTarget} (alike : graph.Alike next)
    (held : next.targets.get? name = some target) :
    ∃ before, graph.targets.get? name = some before ∧ before.name = target.name ∧
      before.isScreen = target.isScreen := by
  obtain ⟨cell, same⟩ := alike.targets
  rw [same, OrderedMap.get?_mapValues] at held
  obtain ⟨before, found, rfl⟩ := Option.map_eq_some_iff.mp held
  exact ⟨before, found, rfl, rfl⟩

theorem WellFormed.of_alike (formed : graph.WellFormed) (alike : graph.Alike next) :
    next.WellFormed := by
  have outputs : next.passes.map Pass.output = graph.passes.map Pass.output :=
    alike.map_passes Pass.output fun _ => rfl
  obtain ⟨cell, targets⟩ := alike.targets
  constructor
  case screen_first =>
    rw [targets, OrderedMap.keys_mapValues]
    exact formed.screen_first
  case named =>
    intro name target held
    obtain ⟨before, found, sameName, _⟩ := alike.target held
    exact sameName ▸ formed.named name before found
  case isScreen_iff =>
    intro name target held
    obtain ⟨before, found, _, sameScreen⟩ := alike.target held
    exact sameScreen ▸ formed.isScreen_iff name before found
  case distinct_passes =>
    rw [alike.map_passes Pass.name fun _ => rfl]
    exact formed.distinct_passes
  case valid =>
    intro pass member
    obtain ⟨number, held⟩ := List.mem_iff_getElem?.mp member
    obtain ⟨before, found, same⟩ := alike.pass held
    have valid := formed.valid before (List.mem_of_getElem? found)
    exact Pass.Valid.of_alike same valid
  case outputs =>
    intro pass member
    have listed : pass.output ∈ graph.passes.map Pass.output :=
      outputs ▸ List.mem_map_of_mem member
    obtain ⟨before, present, same⟩ := List.mem_map.mp listed
    obtain ⟨target, found⟩ := formed.outputs before present
    rw [targets, OrderedMap.get?_mapValues, ← same, found]
    exact ⟨_, rfl⟩
  case produced_once =>
    rw [outputs]
    exact formed.produced_once
  case inputs =>
    intro number pass held name member
    obtain ⟨before, found, same⟩ := alike.pass held
    have dependencies : pass.dependencies = before.dependencies := by
      show pass.withoutProgram.dependencies = before.withoutProgram.dependencies
      rw [same]
    rw [outputs]
    exact formed.inputs number before found name (dependencies ▸ member)

/-- The cell of a target in a frame, if the debug view shows it. -/
def cell? (graph : CompiledGraph π ς) (surface : Extent) (options : FrameOptions) (name : String) :
    Option Viewport :=
  if options.debugView then
    (options.grid.cells (UInt32.ofNat graph.targets.size) surface)[
      (DebugGrid.cellOrder graph.targets).idxOf name]?
  else none

theorem frameTargets_eq (graph : CompiledGraph π ς) (surface : Extent) (options : FrameOptions) :
    graph.frameTargets surface options = graph.targets.mapValues fun name target =>
      { target with debugViewport := graph.cell? surface options name } := by
  unfold frameTargets cell?
  split <;> rfl

/-- A target of a frame is a target of the graph, put in its cell. -/
theorem WellFormed.exists_target (formed : graph.WellFormed) {surface : Extent}
    {options : FrameOptions} {name : String} {target : RenderTarget}
    (found : (graph.frameTargets surface options).get? name = some target) :
    target.name = name ∧ (target.isScreen = true ↔ name = screenName) ∧
      ∃ own, graph.targets.get? name = some own ∧
        target = { own with debugViewport := graph.cell? surface options name } := by
  rw [frameTargets_eq, OrderedMap.get?_mapValues] at found
  obtain ⟨own, held, rfl⟩ := Option.map_eq_some_iff.mp found
  exact ⟨formed.named name own held, formed.isScreen_iff name own held, own, held, rfl⟩

/-- Cells are given out in the order of registration: the screen is the first target, and the only one
of its kind. -/
theorem WellFormed.cellOrder_eq_keys (formed : graph.WellFormed) :
    DebugGrid.cellOrder graph.targets = graph.targets.keys := by
  obtain ⟨names, first⟩ := formed.screen_first
  obtain ⟨⟨name, screen⟩, rest, entries, rfl, others⟩ := List.map_eq_cons_iff.mp first
  have onlyScreen : ∀ entry ∈ graph.targets.entries,
      (entry.2.isScreen = true ↔ entry.1 = screenName) := fun entry listed =>
    formed.isScreen_iff _ _ (OrderedMap.get?_eq_some_iff.mpr listed)
  have distinct := graph.targets.distinct
  rw [entries] at onlyScreen distinct
  obtain ⟨absent, _⟩ := List.nodup_cons.mp distinct
  have isScreen : screen.isScreen = true := (onlyScreen _ List.mem_cons_self).mpr rfl
  have offscreen : ∀ entry ∈ rest, entry.2.isScreen = false := by
    intro entry listed
    rw [Bool.eq_false_iff, Ne, onlyScreen entry (.tail _ listed)]
    intro same
    apply absent
    exact List.mem_map.mpr ⟨entry, listed, same⟩
  have front : rest.filter (fun entry => entry.2.isScreen) = [] := by
    simpa [List.filter_eq_nil_iff] using offscreen
  have back : rest.filter (fun entry => !entry.2.isScreen) = rest := by
    simpa [List.filter_eq_self] using offscreen
  unfold DebugGrid.cellOrder OrderedMap.keys
  rw [entries]
  simp [isScreen, front, back]

variable [Renderer σ φ π ς ε]

/-- A run hands the pass back as it was, or with its program wired. -/
theorem pass_run_cases (pass : Pass π ς) (targets : OrderedMap String RenderTarget)
    (debugView : Bool) (state : σ) :
    (pass.run targets debugView state).pass = pass ∨
      (pass.run targets debugView state).pass = pass.wired (σ := σ) := by
  unfold Pass.run
  split
  · exact .inl rfl
  · split
    · exact .inl rfl
    · unfold Pass.runOn
      split
      · exact .inl rfl
      · refine .inr ?_
        dsimp only
        split
        · rfl
        · split <;> rfl

theorem withoutProgram_run (pass : Pass π ς) (targets : OrderedMap String RenderTarget)
    (debugView : Bool) (state : σ) :
    (pass.run targets debugView state).pass.withoutProgram = pass.withoutProgram := by
  rcases pass_run_cases pass targets debugView state with same | wired
  · rw [same]
  · rw [wired]
    rfl

/-- What every pass keeps in its run, all passes keep in a frame. -/
theorem map_runPasses {β : Type} {view : Pass π ς → β} {targets : OrderedMap String RenderTarget}
    {debugView : Bool} (kept : ∀ (pass : Pass π ς) (state : σ),
      view (pass.run targets debugView state).pass = view pass)
    (passes : List (Pass π ς)) (state : σ) :
    (runPasses targets debugView passes state).2.1.map view = passes.map view := by
  induction passes generalizing state with
  | nil => rfl
  | cons pass rest ih =>
      unfold runPasses
      dsimp only
      split
      · rw [List.map_cons, List.map_cons, kept]
      · rw [List.map_cons, List.map_cons, kept, ih]

theorem alike_run (graph : CompiledGraph π ς) (options : FrameOptions) (state : σ) :
    graph.Alike (graph.run options state).graph where
  passes := map_runPasses (fun pass state => withoutProgram_run pass _ _ state) graph.passes state
  targets := ⟨_, graph.frameTargets_eq (Renderer.surfaceSize state) options⟩

variable (σ)

/-- Graphs that come from a build, and then from any number of frames. -/
inductive Built : CompiledGraph π ς → Prop where
  | build {calls : List (FrameCall π ς)} {graph : CompiledGraph π ς} {warnings : List RenderWarning}
      (built : ((FrameGraph.new.authorAll ε calls).build : Except (RenderError ε) _) =
        .ok (graph, warnings)) : Built graph
  | run {graph : CompiledGraph π ς} (options : FrameOptions) (state : σ) (built : Built graph) :
      Built (graph.run options state).graph

variable {σ}

theorem Built.wellFormed (built : graph.Built σ) : graph.WellFormed := by
  induction built with
  | @build calls _ _ built =>
      obtain ⟨formed, linked, _⟩ :=
        FrameGraph.authorAll_sound (ε := ε) FrameGraph.WellFormed.new FrameGraph.Linked.new calls
      obtain ⟨warnings, found⟩ := FrameGraph.build_eq_ok (ε := ε) formed linked
      cases found.symm.trans built
      exact formed.compiled
  | run options state _ ih => exact ih.of_alike (alike_run _ options state)

/-! ### The passes that a frame starts -/

/-- The passes that are started before one fails, each with the renderer that it finds. -/
def startedPasses (targets : OrderedMap String RenderTarget) (debugView : Bool) :
    List (Pass π ς) → σ → List (Pass π ς × σ)
  | [], _ => []
  | pass :: rest, state =>
      let run := pass.run targets debugView state
      (pass, state) :: match run.result with
        | .ok () => startedPasses targets debugView rest run.state
        | .error _ => []

/-- Passes are started in order, from the first one on. -/
theorem startedPasses_isPrefix (targets : OrderedMap String RenderTarget) (debugView : Bool)
    (passes : List (Pass π ς)) (state : σ) :
    (startedPasses targets debugView passes state).map Prod.fst <+: passes := by
  induction passes generalizing state with
  | nil => exact List.prefix_rfl
  | cons pass rest ih =>
      unfold startedPasses
      rw [List.map_cons, List.cons_prefix_cons]
      refine ⟨rfl, ?_⟩
      split
      · exact ih _
      · exact List.nil_prefix

theorem mem_of_startedPasses {targets : OrderedMap String RenderTarget} {debugView : Bool}
    {passes : List (Pass π ς)} {state : σ} {earlier later : List (Pass π ς × σ)}
    {pass : Pass π ς × σ}
    (started : startedPasses targets debugView passes state = earlier ++ pass :: later) :
    pass.1 ∈ passes := by
  apply (startedPasses_isPrefix targets debugView passes state).subset
  rw [started]
  exact List.mem_map_of_mem (List.mem_append_right _ List.mem_cons_self)

/-- A pass is started only if all passes before it have succeeded. -/
theorem ok_of_startedPasses {targets : OrderedMap String RenderTarget} {debugView : Bool}
    {passes : List (Pass π ς)} {state : σ} {earlier later : List (Pass π ς × σ)}
    {pass : Pass π ς × σ}
    (started : startedPasses targets debugView passes state = earlier ++ pass :: later) :
    ∀ start ∈ earlier, (start.1.run targets debugView start.2).result = .ok () := by
  induction passes generalizing state earlier with
  | nil => simp [startedPasses] at started
  | cons first rest ih =>
      unfold startedPasses at started
      cases earlier with
      | nil => simp
      | cons start earlier =>
          obtain ⟨rfl, others⟩ := List.cons.inj started
          split at others
          · next succeeded => exact List.forall_mem_cons.mpr ⟨succeeded, ih others⟩
          · simp at others

/-- Behind a pass that succeeds, the frame goes on from the renderer that the pass leaves. -/
theorem startedPasses_behind {targets : OrderedMap String RenderTarget} {debugView : Bool}
    {passes : List (Pass π ς)} {state : σ} {earlier later : List (Pass π ς × σ)}
    {pass : Pass π ς × σ}
    (started : startedPasses targets debugView passes state = earlier ++ pass :: later)
    (succeeded : (pass.1.run targets debugView pass.2).result = .ok ()) :
    ∃ rest, startedPasses targets debugView rest (pass.1.run targets debugView pass.2).state =
      later := by
  induction passes generalizing state earlier with
  | nil => simp [startedPasses] at started
  | cons first rest ih =>
      unfold startedPasses at started
      cases earlier with
      | nil =>
          obtain ⟨rfl, others⟩ := List.cons.inj started
          dsimp only at succeeded others
          rw [succeeded] at others
          exact ⟨rest, others⟩
      | cons start earlier =>
          obtain ⟨rfl, others⟩ := List.cons.inj started
          split at others
          · exact ih others
          · simp at others

/-- If all passes succeed, all of them have been started. -/
theorem started_of_ok {targets : OrderedMap String RenderTarget} {debugView : Bool}
    {passes : List (Pass π ς)} {state : σ}
    (succeeded : (runPasses targets debugView passes state).1 = .ok ()) :
    ∀ pass ∈ passes, ∃ found, (pass, found) ∈ startedPasses targets debugView passes state ∧
      (pass.run targets debugView found).result = .ok () := by
  induction passes generalizing state with
  | nil => simp
  | cons first rest ih =>
      unfold runPasses at succeeded
      unfold startedPasses
      cases ended : (first.run targets debugView state).result with
      | error error =>
          simp only [ended] at succeeded
          cases succeeded
      | ok =>
          simp only [ended] at succeeded
          intro pass listed
          rcases List.mem_cons.mp listed with rfl | later
          · exact ⟨state, List.mem_cons_self, ended⟩
          · obtain ⟨found, started, done⟩ := ih succeeded pass later
            refine ⟨found, ?_, done⟩
            dsimp only
            rw [ended]
            exact List.mem_cons_of_mem _ started

/-- If a frame succeeds, it starts all passes, and each of them succeeds. -/
theorem startedPasses_of_ok {targets : OrderedMap String RenderTarget} {debugView : Bool}
    {passes : List (Pass π ς)} {state : σ}
    (succeeded : (runPasses targets debugView passes state).1 = .ok ()) :
    (startedPasses targets debugView passes state).map Prod.fst = passes ∧
      ∀ start ∈ startedPasses targets debugView passes state,
        (start.1.run targets debugView start.2).result = .ok () := by
  induction passes generalizing state with
  | nil => simp [startedPasses]
  | cons first rest ih =>
      unfold runPasses at succeeded
      unfold startedPasses
      cases ended : (first.run targets debugView state).result with
      | error error =>
          simp only [ended] at succeeded
          cases succeeded
      | ok =>
          simp only [ended] at succeeded
          obtain ⟨all, done⟩ := ih succeeded
          simp only [ended, List.map_cons, all, List.forall_mem_cons]
          exact ⟨trivial, trivial, done⟩

/-- A frame warns of what the passes warn of that it starts. -/
theorem warnings_runPasses {targets : OrderedMap String RenderTarget} {debugView : Bool}
    {passes : List (Pass π ς)} {state : σ} :
    (runPasses targets debugView passes state).2.2.1 =
      (startedPasses targets debugView passes state).flatMap fun start =>
        (start.1.run targets debugView start.2).warnings := by
  induction passes generalizing state with
  | nil => rfl
  | cons first rest ih =>
      unfold runPasses startedPasses
      cases ended : (first.run targets debugView state).result with
      | error error => simp [ended]
      | ok => simp [ended, ih]

/-! ### Outputs and inputs of the passes of a frame -/

namespace WellFormed

variable {graph : CompiledGraph π ς} {targets : OrderedMap String RenderTarget} {debugView : Bool}
  {state : σ} {earlier later : List (Pass π ς × σ)} {pass : Pass π ς × σ}

/-- No two passes of a frame render into the same offscreen target. -/
theorem output_ne (formed : graph.WellFormed)
    (started : startedPasses targets debugView graph.passes state = earlier ++ pass :: later)
    (offscreen : pass.1.output ≠ screenName) :
    ∀ start ∈ earlier ++ later, start.1.output ≠ pass.1.output := by
  have atMost := ((startedPasses_isPrefix targets debugView graph.passes state).sublist.map
    Pass.output).count_le pass.1.output
  have once := formed.produced_once pass.1.output offscreen
  rw [started, List.map_append, List.map_append, List.count_append, List.map_cons, List.map_cons,
    List.count_cons_self] at atMost
  intro start member same
  have counted : 0 < ((((earlier ++ later).map Prod.fst).map Pass.output)).count pass.1.output := by
    rw [List.count_pos_iff, ← same]
    exact List.mem_map_of_mem (List.mem_map_of_mem member)
  rw [List.map_append, List.map_append, List.count_append] at counted
  omega

/-- What a pass reads has been rendered by an earlier pass of the frame. -/
theorem exists_producer (formed : graph.WellFormed)
    (started : startedPasses targets debugView graph.passes state = earlier ++ pass :: later)
    {name : String} (read : name ∈ pass.1.dependencies.values) :
    name ≠ screenName ∧ ∃ start ∈ earlier, start.1.output = name := by
  obtain ⟨rest, passes⟩ := startedPasses_isPrefix targets debugView graph.passes state
  rw [started, List.map_append, List.map_cons, List.append_assoc] at passes
  have number : graph.passes[earlier.length]? = some pass.1 := by
    rw [← passes, List.getElem?_append_right (by simp)]
    simp
  obtain ⟨offscreen, producer, before, output⟩ := formed.inputs _ _ number name read
  refine ⟨offscreen, ?_⟩
  rw [← passes, List.map_append, List.getElem?_append_left (by simpa using before),
    List.map_map, List.getElem?_map] at output
  obtain ⟨start, found, same⟩ := Option.map_eq_some_iff.mp output
  exact ⟨start, List.mem_of_getElem? found, same⟩

end WellFormed

end CompiledGraph

end ShaderFlow

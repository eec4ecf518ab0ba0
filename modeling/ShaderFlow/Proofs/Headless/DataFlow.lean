/-
Module: ShaderFlow.Proofs.Headless.DataFlow
Purpose: Targets are rendered before they are read, and not again in the same frame.
Main exports: CompiledGraph.Rendered, CompiledGraph.Unread, CompiledGraph.rendered_before_read
-/
import ShaderFlow.Proofs.Headless.FrameRecord

namespace ShaderFlow

/-!
Authoring lets a pass read only what an earlier pass renders, and lets an offscreen target be rendered
by one pass only.  The passes that a frame starts are the first passes of the graph, and all but the
last one of them have succeeded.  So what a pass reads is there, and as the pass that renders it has
its turn once in a frame, it stays as it is to the end of the frame.
-/

namespace CompiledGraph

/-- What a pass relies on in a target that it reads: a pass before it has bound the target and
completed its draw work, and the framebuffer suits the surface. -/
structure Rendered (graph : CompiledGraph HeadlessProgram HeadlessSource)
    (backend : HeadlessBackend) (before : List (Pass HeadlessProgram HeadlessSource × Command))
    (name : String) (producer : Pass HeadlessProgram HeadlessSource) (target : RenderTarget) :
    Prop where
  listed : producer ∈ graph.passes
  output : producer.output = name
  unfailing : ∀ source ∈ producer.sources, ∀ label, .fail label ∉ source.steps
  /-- All draw work follows the binding. -/
  drawn : ∃ earlier later, before = earlier ++ (producer, .bindFramebuffer name) :: later ∧
    producer.drawn.map (Prod.mk producer) <:+: later
  held : graph.targets.get? name = some target
  framebuffer : (backend.play (before.map Prod.snd)).framebuffers.get? name =
    some (target.descriptor backend.size)

/-- What holds of a target that is about to be bound: it has not been bound before in the frame, and
nothing has read it. -/
structure Unread (before : List (Pass HeadlessProgram HeadlessSource × Command)) (name : String) :
    Prop where
  unbound : ∀ pass, (pass, .bindFramebuffer name) ∉ before
  unread : ∀ entry ∈ before, name ∉ entry.1.dependencies.values
  /-- No program has been installed with the target in one of the slots that its pass wires. -/
  unwired : ∀ reader program, (reader, .setOverride (some program)) ∈ before →
    ∀ slot ∈ reader.dependencies.keys, program.inputs.get? slot ≠ some name
  unshown : ∀ pass cell, (pass, .renderFramebuffer name cell) ∉ before

variable {graph : CompiledGraph HeadlessProgram HeadlessSource} {options : FrameOptions}
  {backend found : HeadlessBackend} {name : String} {pass : Pass HeadlessProgram HeadlessSource}
  {target : RenderTarget} {command : Command}
  {before after : List (Pass HeadlessProgram HeadlessSource × Command)}
  {earlier later : List (Pass HeadlessProgram HeadlessSource × HeadlessBackend)}

/-! ### The passes before a pass -/

theorem split_earlier
    (started : graph.starts options backend = earlier ++ (pass, found) :: later)
    {start : Pass HeadlessProgram HeadlessSource × HeadlessBackend} (listed : start ∈ earlier) :
    ∃ first second, earlier = first ++ start :: second ∧
      graph.starts options backend = first ++ start :: (second ++ (pass, found) :: later) := by
  obtain ⟨first, second, rfl⟩ := List.append_of_mem listed
  exact ⟨first, second, rfl, by rw [started, List.append_assoc, List.cons_append]⟩

/-- Every pass before another one of the frame has drawn, and none of its draw work has failed. -/
theorem drawn_of_starts
    (started : graph.starts options backend = earlier ++ (pass, found) :: later) :
    ∀ start ∈ earlier, (∃ target, start.1.Draws (graph.frameTargets backend.size options)
        options.debugView start.2 target) ∧ start.1.outcome = .ok () :=
  fun start member => Pass.draws_of_ok (ok_of_startedPasses started start member)

/-- What is recorded before a pass binds its target: the records of the passes before it, and the
allocation of the target. -/
theorem entry_cases {targets : OrderedMap String RenderTarget} {debugView : Bool}
    {here : List Command} {entry : Pass HeadlessProgram HeadlessSource × Command}
    (allocations : ∀ command ∈ here, ∃ descriptor, command = .allocate descriptor)
    (member : entry ∈ earlier.flatMap (tagged targets debugView) ++ here.map (Prod.mk pass)) :
    (∃ start ∈ earlier, start.1 = entry.1 ∧
        entry.2 ∈ start.1.record targets debugView start.2) ∨
      entry.1 = pass ∧ ∃ descriptor, entry.2 = .allocate descriptor := by
  rcases List.mem_append.mp member with before | own
  · obtain ⟨start, listed, recorded⟩ := List.mem_flatMap.mp before
    obtain ⟨command, inside, rfl⟩ := List.mem_map.mp recorded
    exact .inl ⟨start, listed, rfl, inside⟩
  · obtain ⟨command, inside, rfl⟩ := List.mem_map.mp own
    exact .inr ⟨rfl, allocations command inside⟩

namespace WellFormed

/-- No pass but the one that renders into a target allocates it. -/
theorem allocate_ne (formed : graph.WellFormed)
    (started : graph.starts options backend = earlier ++ (pass, found) :: later)
    (offscreen : pass.output ≠ screenName)
    {starts : List (Pass HeadlessProgram HeadlessSource × HeadlessBackend)}
    (others : ∀ start ∈ starts, start ∈ earlier ++ later) {descriptor : FramebufferDescriptor}
    (member : .allocate descriptor ∈ starts.flatMap
      (recordOf (graph.frameTargets backend.size options) options.debugView)) :
    descriptor.name ≠ pass.output := by
  obtain ⟨start, listed, recorded⟩ := List.mem_flatMap.mp member
  obtain ⟨target, draws⟩ := Pass.draws_of_mem_record recorded
  obtain ⟨named, _⟩ := formed.exists_target draws.found
  rw [draws.eq_of_allocate recorded]
  show target.name ≠ pass.output
  rw [named]
  exact formed.output_ne started offscreen start (others start listed)

/-- The framebuffer of a target suits the surface from the pass that renders into it on. -/
theorem framebuffer_kept (formed : graph.WellFormed)
    (started : graph.starts options backend = earlier ++ (pass, found) :: later)
    (draws : pass.Draws (graph.frameTargets backend.size options) options.debugView found target)
    (offscreen : pass.output ≠ screenName)
    {starts : List (Pass HeadlessProgram HeadlessSource × HeadlessBackend)}
    (others : ∀ start ∈ starts, start ∈ later) {here : List Command}
    (kept : ∀ descriptor, .allocate descriptor ∈ here → descriptor.name ≠ pass.output) :
    (backend.play ((earlier ++ (pass, found) :: starts).flatMap
        (recordOf (graph.frameTargets backend.size options) options.debugView) ++
          here)).framebuffers.get? pass.output =
      some (target.descriptor backend.size) := by
  obtain ⟨named, screen, _⟩ := formed.exists_target draws.found
  have notScreen : target.isScreen = false := Bool.eq_false_iff.mpr fun is => offscreen (screen.mp is)
  have begins : found = backend.play (earlier.flatMap (recordOf _ _)) :=
    found_of_startedPasses started
  have output := draws.framebuffer_output notScreen
  rw [pass.state_run, named, size_of_starts started] at output
  rw [List.flatMap_append, List.flatMap_cons, List.append_assoc, List.append_assoc,
    HeadlessBackend.play_append, HeadlessBackend.play_append, HeadlessBackend.framebuffer_play,
    ← begins]
  · exact output
  -- Behind the pass, only other targets are allocated.
  · intro descriptor member
    rcases List.mem_append.mp member with second | last
    · exact formed.allocate_ne started offscreen
        (fun start listed => List.mem_append_right _ (others start listed)) second
    · exact kept descriptor last

/-- What a pass reads has been rendered when the pass is started, and remains so while only other
framebuffers are allocated. -/
theorem rendered (formed : graph.WellFormed)
    (started : graph.starts options backend = earlier ++ (pass, found) :: later)
    (read : name ∈ pass.dependencies.values) (here : List Command)
    (kept : ∀ descriptor, .allocate descriptor ∈ here → descriptor.name ≠ name) :
    ∃ producer target, graph.Rendered backend
      (earlier.flatMap (tagged (graph.frameTargets backend.size options) options.debugView) ++
        here.map (Prod.mk pass)) name producer target := by
  obtain ⟨offscreen, ⟨producer, begun⟩, member, output⟩ := formed.exists_producer started read
  obtain rfl : producer.output = name := output
  -- The frame has gone on after the producer, so nothing of the producer has failed.
  obtain ⟨⟨target, draws⟩, completed⟩ := drawn_of_starts started _ member
  obtain ⟨named, screen, own, held, same⟩ := formed.exists_target draws.found
  have notScreen : target.isScreen = false := Bool.eq_false_iff.mpr fun is => offscreen (screen.mp is)
  have binding : target.binding = .bindFramebuffer producer.output := by
    rw [RenderTarget.binding, notScreen, named]
    rfl
  obtain ⟨first, second, rfl, startedProducer⟩ := split_earlier started member
  refine ⟨producer, own, ?_⟩
  constructor
  case listed => exact mem_passes_of_starts startedProducer
  case output => rfl
  case unfailing =>
    intro source listed label fails
    apply SourceStep.outcome_eq_ok_iff.mp completed label
    exact List.mem_flatMap.mpr ⟨source, listed, fails⟩
  case drawn =>
    have record := tagged_of_draws draws
    rw [binding] at record
    rw [List.flatMap_append, List.flatMap_cons, record]
    simp only [List.append_assoc, List.cons_append]
    exact ⟨_, _, (List.append_assoc _ _ _).symm, _, _, List.append_assoc _ _ _⟩
  case held => exact held
  case framebuffer =>
    rw [List.map_append, map_snd_flatMap_tagged, map_snd_map_mk,
      formed.framebuffer_kept startedProducer draws offscreen
        (fun start listed => List.mem_append_left _ listed) kept, same]
    rfl

/-- No pass that is started before the producer of a target reads the target. -/
theorem not_read (formed : graph.WellFormed)
    (started : graph.starts options backend = earlier ++ (pass, found) :: later)
    (offscreen : pass.output ≠ screenName)
    {start : Pass HeadlessProgram HeadlessSource × HeadlessBackend}
    (listed : start ∈ earlier) : pass.output ∉ start.1.dependencies.values := by
  intro read
  obtain ⟨first, second, rfl, startedReader⟩ := split_earlier started listed
  obtain ⟨_, producer, before, output⟩ := formed.exists_producer startedReader read
  exact formed.output_ne started offscreen producer
    (List.mem_append_left _ (List.mem_append_left _ before)) output

/-- What a pass shows of a target that is not its own is a target that it reads. -/
theorem shown (formed : graph.WellFormed)
    (started : graph.starts options backend = earlier ++ (pass, found) :: later) {cell : Viewport}
    (member : .renderFramebuffer name cell ∈ pass.record
      (graph.frameTargets backend.size options) options.debugView found) :
    name = pass.output ∨ name ∈ pass.dependencies.values := by
  obtain ⟨target, draws⟩ := Pass.draws_of_mem_record member
  obtain ⟨named, _⟩ := formed.exists_target draws.found
  obtain ⟨notScreen, listed, concerned, framebuffer, held, rfl⟩ := draws.shown_of_mem member
  rcases List.mem_cons.mp concerned with rfl | read
  · rw [draws.framebuffer_output notScreen] at held
    cases held
    exact .inl named
  · right
    have unlike : target.name ≠ listed := by
      intro same
      have valid := formed.valid pass (mem_passes_of_starts started)
      exact valid.reads_others (named ▸ same ▸ read)
    obtain ⟨producer, own, rendered⟩ := formed.rendered started read [] nofun
    have framebuffer := rendered.framebuffer
    rw [List.map_append, map_snd_flatMap_tagged, List.map_nil, List.map_nil, List.append_nil,
      ← found_of_startedPasses started, ← draws.framebuffer_other unlike, held] at framebuffer
    cases framebuffer
    show own.name ∈ pass.dependencies.values
    rw [formed.named listed own rendered.held]
    exact read

/-- What a pass binds is its output. -/
theorem eq_output (formed : graph.WellFormed)
    (member : .bindFramebuffer name ∈ pass.record (graph.frameTargets backend.size options)
      options.debugView found) : name = pass.output ∧ pass.output ≠ screenName := by
  obtain ⟨target, draws⟩ := Pass.draws_of_mem_record member
  obtain ⟨named, screen, _⟩ := formed.exists_target draws.found
  have binding := draws.eq_binding rfl member
  unfold RenderTarget.binding at binding
  split at binding
  · cases binding
  · next notScreen =>
      exact ⟨(Command.bindFramebuffer.inj binding).trans named, screen.not.mp notScreen⟩

/-- When a pass binds its target, the target is still untouched in the frame. -/
theorem unread (formed : graph.WellFormed)
    (started : graph.starts options backend = earlier ++ (pass, found) :: later)
    (offscreen : pass.output ≠ screenName) {here : List Command}
    (allocations : ∀ command ∈ here, ∃ descriptor, command = .allocate descriptor) :
    Unread (earlier.flatMap (tagged (graph.frameTargets backend.size options) options.debugView) ++
      here.map (Prod.mk pass)) pass.output := by
  have unread : ∀ entry ∈ earlier.flatMap
      (tagged (graph.frameTargets backend.size options) options.debugView) ++
        here.map (Prod.mk pass), pass.output ∉ entry.1.dependencies.values := by
    intro entry member
    rcases entry_cases allocations member with ⟨start, listed, same, _⟩ | ⟨same, _⟩
    · exact same ▸ formed.not_read started offscreen listed
    · exact same ▸ (formed.valid pass (mem_passes_of_starts started)).reads_others
  constructor
  case unread => exact unread
  case unbound =>
    intro binder member
    rcases entry_cases allocations member with ⟨start, listed, rfl, recorded⟩ | ⟨_, _, allocated⟩
    · have other := formed.output_ne started offscreen start (List.mem_append_left _ listed)
      exact other (formed.eq_output recorded).1.symm
    · cases allocated
  case unwired =>
    intro reader program member slot declared read
    rcases entry_cases allocations member with ⟨start, listed, rfl, recorded⟩ | ⟨_, _, allocated⟩
    · exact unread _ member (Pass.mem_dependencies_of_wired recorded declared read)
    · cases allocated
  case unshown =>
    intro shower cell member
    rcases entry_cases allocations member with ⟨start, listed, rfl, recorded⟩ | ⟨_, _, allocated⟩
    · obtain ⟨first, second, rfl, startedShower⟩ := split_earlier started listed
      rcases formed.shown startedShower recorded with own | read
      · exact formed.output_ne started offscreen start (List.mem_append_left _ listed) own.symm
      · exact unread _ member read
    · cases allocated

end WellFormed

/-! ### Data flow -/

/-- What never stands behind itself occurs at most once. -/
theorem count_le_one {α : Type} [DecidableEq α] {items : List α} {item : α}
    (first : ∀ before after, items = before ++ item :: after → item ∉ before) :
    items.count item ≤ 1 := by
  by_cases member : item ∈ items
  · obtain ⟨before, after, rfl, absent⟩ := List.eq_append_cons_of_mem member
    have last : item ∉ after := by
      intro again
      obtain ⟨between, rest, rfl⟩ := List.append_of_mem again
      have split : before ++ item :: (between ++ item :: rest) =
          (before ++ item :: between) ++ item :: rest := by simp
      exact first _ _ split (by simp)
    rw [List.count_append, List.count_cons_self, List.count_eq_zero.mpr absent,
      List.count_eq_zero.mpr last]
  · rw [List.count_eq_zero.mpr member]
    exact Nat.zero_le 1

theorem flow_of_split (formed : graph.WellFormed)
    (split : graph.trace options backend = before ++ (pass, command) :: after)
    (binds : command.binds = true) :
    (∀ name ∈ pass.dependencies.values, ∃ producer target,
        graph.Rendered backend before name producer target) ∧
      ∀ name, command = .bindFramebuffer name → name = pass.output ∧ Unread before name := by
  obtain ⟨earlier, found, later, target, here, behind, started, draws, record, rfl, _⟩ :=
    split_trace split
  obtain ⟨rfl, _, _⟩ := draws.split_binding binds record
  obtain ⟨named, _⟩ := formed.exists_target draws.found
  have allocations : ∀ command ∈ target.allocation found, ∃ descriptor,
      command = .allocate descriptor := fun command member => ⟨_, Pass.eq_of_mem_allocation member⟩
  constructor
  · intro name read
    apply formed.rendered started read
    intro descriptor member
    have valid := formed.valid pass (mem_passes_of_starts started)
    cases Pass.eq_of_mem_allocation member
    show target.name ≠ name
    intro same
    exact valid.reads_others (named ▸ same ▸ read)
  · rintro name rfl
    have recorded : .bindFramebuffer name ∈ pass.record _ options.debugView found :=
      record ▸ List.mem_append_right _ List.mem_cons_self
    obtain ⟨rfl, offscreen⟩ := formed.eq_output recorded
    exact ⟨rfl, formed.unread started offscreen allocations⟩

/-- Targets are rendered once in a frame, and before they are read.  Whatever the options, the renderer
and the outcome of the frame, no framebuffer is bound twice, and every pass binds its target unless the
frame fails.  When a pass binds its target, all targets that it reads have been bound by passes before
it whose draw work is complete, and their framebuffers suit the surface; its own target has not been
read yet in the frame, as texture or in the overlay.  The commands of the trace lead from the renderer
before the frame to the one after it. -/
theorem rendered_before_read (built : graph.Built HeadlessBackend) (options : FrameOptions)
    (backend : HeadlessBackend) :
    (graph.run options backend).state.commands.toList =
        backend.commands.toList ++ (graph.trace options backend).map Prod.snd ∧
      (graph.run options backend).state =
        backend.play ((graph.trace options backend).map Prod.snd) ∧
      ((∃ error, (graph.run options backend).result = .error error) ∨
        ∀ pass ∈ graph.passes, ∃ command, command.binds = true ∧
          (pass, command) ∈ graph.trace options backend) ∧
      (∀ name, ((graph.trace options backend).map Prod.snd).count (.bindFramebuffer name) ≤ 1) ∧
      ∀ before pass command after,
        graph.trace options backend = before ++ (pass, command) :: after → command.binds = true →
          (∀ name ∈ pass.dependencies.values, ∃ producer target,
            graph.Rendered backend before name producer target) ∧
          ∀ name, command = .bindFramebuffer name → name = pass.output ∧ Unread before name := by
  refine ⟨graph.commands_run options backend, graph.state_run options backend, ?_, ?_, ?_⟩
  · apply (graph.run_cases options backend).imp_right
    intro draws pass listed
    obtain ⟨found, target, started, drew, _⟩ := draws pass listed
    refine ⟨target.binding, target.binds_binding, mem_trace_of_starts started ?_⟩
    rw [drew.record]
    exact List.mem_append_right _ List.mem_cons_self
  · intro name
    apply count_le_one
    intro commands rest split
    obtain ⟨before, others, whole, rfl, same⟩ := List.map_eq_append_iff.mp split
    obtain ⟨⟨pass, command⟩, after, rfl, rfl, _⟩ := List.map_eq_cons_iff.mp same
    intro member
    obtain ⟨⟨binder, _⟩, earlier, rfl⟩ := List.mem_map.mp member
    exact ((flow_of_split built.wellFormed whole rfl).2 name rfl).2.unbound binder earlier
  · intro before pass command after split binds
    exact flow_of_split built.wellFormed split binds

/-- The shadow map is rendered when the lit pass binds the screen. -/
theorem litGraph_rendered_before_read :
    litGraph.Built HeadlessBackend ∧ ∃ before pass command after,
      litGraph.trace sideBySide { size := ⟨640, 480⟩ } = before ++ (pass, command) :: after ∧
        command.binds = true ∧ "shadow" ∈ pass.dependencies.values ∧
        ∃ producer target,
          litGraph.Rendered { size := ⟨640, 480⟩ } before "shadow" producer target := by
  obtain ⟨_, _, _, _, flow⟩ := rendered_before_read litGraph_built sideBySide { size := ⟨640, 480⟩ }
  let trace := litGraph.trace sideBySide { size := ⟨640, 480⟩ }
  let lit := litGraph.passes[1]
  have split : trace = trace.take 10 ++ (lit, .bindScreen) :: trace.drop 11 := by rfl
  have reads : "shadow" ∈ lit.dependencies.values := by decide
  obtain ⟨rendered, _⟩ := flow _ _ _ _ split rfl
  exact ⟨litGraph_built, _, _, _, _, split, rfl, reads, rendered "shadow" reads⟩

end CompiledGraph

end ShaderFlow

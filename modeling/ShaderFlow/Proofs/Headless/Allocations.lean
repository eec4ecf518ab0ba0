/-
Module: ShaderFlow.Proofs.Headless.Allocations
Purpose: A graph that has a renderer to itself allocates framebuffers exactly when they are needed.
Main exports: CompiledGraph.framebuffer?, CompiledGraph.WellFormed.allocate_mem_trace_iff,
  CompiledGraph.WellFormed.binding_of_allocate, CompiledGraph.WellFormed.framebuffer_run, SoloStep,
  SoloSession, SoloSession.Follows, CompiledGraph.allocates_when_needed
-/
import ShaderFlow.Proofs.Headless.DataFlow
import ShaderFlow.Proofs.Headless.Overlay
import ShaderFlow.Proofs.Headless.Replay

namespace ShaderFlow

/-!
A pass asks for the framebuffer of its output at the size that the output has on the surface, and the
renderer allocates it unless it holds one like it.  Every offscreen target is the output of one pass, so
what a pass finds under the name of its output is what the frame has found there, and what the pass
leaves is there when the frame ends.

The renderer holds under each name what the record allocates last.  Frames change neither the outputs
of a graph nor the names, the sizes and the depth buffers of its targets, so this carries over from one
frame to the next, whatever sizes the surface takes in between.
-/

/-! ### What a pass allocates -/

/-- A target has at most one allocation, and none if it is the screen. -/
theorem RenderTarget.allocation_cases (target : RenderTarget) (backend : HeadlessBackend) :
    target.allocation backend = [] ∨ target.isScreen = false ∧
      target.allocation backend = [.allocate (target.descriptor backend.size)] := by
  unfold allocation
  cases target.isScreen with
  | true => exact .inl rfl
  | false =>
      rw [if_neg Bool.false_ne_true]
      split
      · exact .inl rfl
      · exact .inr ⟨rfl, rfl⟩

/-- A pass allocates nothing but its target, before anything else, and then binds it. -/
theorem Pass.Draws.split_allocate {pass : Pass HeadlessProgram HeadlessSource}
    {targets : OrderedMap String RenderTarget} {debugView : Bool} {backend : HeadlessBackend}
    {target : RenderTarget} (draws : pass.Draws targets debugView backend target)
    {here behind : List Command} {descriptor : FramebufferDescriptor}
    (record : pass.record targets debugView backend = here ++ .allocate descriptor :: behind) :
    target.isScreen = false ∧ descriptor = target.descriptor backend.size ∧ here = [] ∧
      ∃ rest, behind = target.binding :: rest := by
  have recorded : .allocate descriptor ∈ pass.record targets debugView backend := by simp [record]
  cases draws.eq_of_allocate recorded
  rw [draws.record] at record
  have notBehind : .allocate (target.descriptor backend.size) ∉
      target.binding :: (pass.opening target debugView backend.size ++
        (pass.drawn ++ pass.closing target targets debugView backend)) := allocate_notMem _
  rcases target.allocation_cases backend with none | ⟨offscreen, one⟩
  · rw [none, List.nil_append] at record
    exact absurd (record ▸ List.mem_append_right _ List.mem_cons_self) notBehind
  · rw [one, List.singleton_append, ← List.nil_append (_ :: _),
      List.append_cons_inj_of_notMem List.not_mem_nil notBehind] at record
    obtain ⟨first, _, last⟩ := record
    exact ⟨offscreen, rfl, first.symm, _, last.symm⟩

namespace CompiledGraph

/-! ### The framebuffers of a graph -/

/-- The framebuffer that a target is to have on a surface.  The screen has none. -/
def framebuffer? {π ς : Type} (graph : CompiledGraph π ς) (surface : Extent) (name : String) :
    Option FramebufferDescriptor :=
  (graph.targets.get? name).bind fun target =>
    if target.isScreen then none else some (target.descriptor surface)

section

variable {π ς : Type} {graph next : CompiledGraph π ς} {surface : Extent} {name : String}
  {descriptor : FramebufferDescriptor}

theorem framebuffer?_eq_some_iff :
    graph.framebuffer? surface name = some descriptor ↔ ∃ target,
      graph.targets.get? name = some target ∧ target.isScreen = false ∧
        target.descriptor surface = descriptor := by
  simp [framebuffer?, Option.bind_eq_some_iff]

theorem WellFormed.name_of_framebuffer? (formed : graph.WellFormed)
    (own : graph.framebuffer? surface name = some descriptor) :
    descriptor.name = name ∧ name ≠ screenName := by
  obtain ⟨target, held, offscreen, rfl⟩ := framebuffer?_eq_some_iff.mp own
  have screen := formed.isScreen_iff name target held
  exact ⟨formed.named name target held, screen.not.mp (by simp [offscreen])⟩

/-- The cells of the debug view do not matter to framebuffers. -/
theorem Alike.framebuffer?_eq (alike : graph.Alike next) (surface : Extent) (name : String) :
    next.framebuffer? surface name = graph.framebuffer? surface name := by
  obtain ⟨cell, targets⟩ := alike.targets
  rw [framebuffer?, framebuffer?, targets, OrderedMap.get?_mapValues, Option.bind_map]
  rfl

end

/-! ### What a frame allocates -/

variable {graph : CompiledGraph HeadlessProgram HeadlessSource} {options : FrameOptions}
  {backend found : HeadlessBackend} {pass : Pass HeadlessProgram HeadlessSource}
  {earlier later : List (Pass HeadlessProgram HeadlessSource × HeadlessBackend)}
  {target : RenderTarget} {descriptor : FramebufferDescriptor}

namespace WellFormed

/-- The framebuffer that a pass renders into is the one that its output is to have. -/
theorem framebuffer?_of_draws (formed : graph.WellFormed)
    (draws : pass.Draws (graph.frameTargets backend.size options) options.debugView found target) :
    graph.framebuffer? backend.size pass.output =
      if target.isScreen then none else some (target.descriptor backend.size) := by
  obtain ⟨_, _, own, held, same⟩ := formed.exists_target draws.found
  rw [framebuffer?, held, same]
  rfl

/-- A pass finds its output as the frame has found it. -/
theorem framebuffer_found (formed : graph.WellFormed)
    (started : graph.starts options backend = earlier ++ (pass, found) :: later)
    (offscreen : pass.output ≠ screenName) :
    found.framebuffers.get? pass.output = backend.framebuffers.get? pass.output := by
  rw [found_of_startedPasses started]
  apply HeadlessBackend.framebuffer_play
  intro descriptor allocated
  have others : ∀ start ∈ earlier, start ∈ earlier ++ later := by simp +contextual
  exact formed.allocate_ne started offscreen others allocated

/-- A pass allocates the framebuffer that its output is to have, unless the frame has found it. -/
theorem allocate_mem_record_iff (formed : graph.WellFormed)
    (started : graph.starts options backend = earlier ++ (pass, found) :: later)
    (draws : pass.Draws (graph.frameTargets backend.size options) options.debugView found target) :
    .allocate descriptor ∈
        pass.record (graph.frameTargets backend.size options) options.debugView found ↔
      graph.framebuffer? backend.size pass.output = some descriptor ∧
        backend.framebuffers.get? pass.output ≠ some descriptor := by
  obtain ⟨named, screen, _⟩ := formed.exists_target draws.found
  have own := formed.framebuffer?_of_draws draws
  have allocates : .allocate descriptor ∈
      pass.record (graph.frameTargets backend.size options) options.debugView found ↔
        .allocate descriptor ∈ target.allocation found := by
    rw [draws.record, List.mem_append]
    exact or_iff_left (Pass.allocate_notMem descriptor)
  rw [allocates, own, RenderTarget.allocation, size_of_starts started, named]
  by_cases onscreen : target.isScreen = true
  · simp [onscreen]
  · have kept := formed.framebuffer_found started (screen.not.mp onscreen)
    rw [if_neg onscreen, if_neg onscreen, kept]
    by_cases present : backend.framebuffers.get? pass.output = some (target.descriptor backend.size)
    · simp +contextual [present]
    · simp only [present, if_false, List.mem_singleton, Command.allocate.injEq, Option.some.injEq]
      constructor
      · rintro rfl
        exact ⟨rfl, present⟩
      · exact fun due => due.1.symm

/-- What a frame allocates if it succeeds: of the framebuffers that the outputs of its passes are to have
on the surface, those that it has not found. -/
theorem allocate_mem_trace_iff (formed : graph.WellFormed)
    (succeeded : (graph.run options backend).result = .ok ()) :
    .allocate descriptor ∈ (graph.trace options backend).map Prod.snd ↔
      (∃ pass ∈ graph.passes, pass.output = descriptor.name) ∧
        graph.framebuffer? backend.size descriptor.name = some descriptor ∧
        backend.framebuffers.get? descriptor.name ≠ some descriptor := by
  constructor
  · intro member
    obtain ⟨⟨pass, _⟩, listed, rfl⟩ := List.mem_map.mp member
    obtain ⟨before, after, split⟩ := List.append_of_mem listed
    obtain ⟨earlier, found, later, target, here, behind, started, draws, record, _⟩ :=
      split_trace split
    have allocated : .allocate descriptor ∈
        pass.record (graph.frameTargets backend.size options) options.debugView found := by
      simp [record]
    obtain ⟨own, missing⟩ := (formed.allocate_mem_record_iff started draws).mp allocated
    obtain ⟨named, _⟩ := formed.name_of_framebuffer? own
    rw [named]
    exact ⟨⟨pass, mem_passes_of_starts started, rfl⟩, own, missing⟩
  · rintro ⟨⟨pass, listed, output⟩, own, missing⟩
    rw [← output] at own missing
    have succeeds := (graph.run_cases options backend).resolve_left (by simp [succeeded])
    obtain ⟨found, target, start, draws, _⟩ := succeeds pass listed
    obtain ⟨earlier, later, started⟩ := List.append_of_mem start
    have allocated := (formed.allocate_mem_record_iff started draws).mpr ⟨own, missing⟩
    exact List.mem_map.mpr ⟨_, mem_trace_of_starts start allocated, rfl⟩

/-- An allocation is directly followed by the binding of its framebuffer, which the frame has not bound
before. -/
theorem binding_of_allocate (formed : graph.WellFormed) {before after : List Command}
    (split : (graph.trace options backend).map Prod.snd = before ++ .allocate descriptor :: after) :
    .bindFramebuffer descriptor.name ∉ before ∧
      ∃ rest, after = .bindFramebuffer descriptor.name :: rest := by
  obtain ⟨commands, others, whole, rfl, same⟩ := List.map_eq_append_iff.mp split
  obtain ⟨⟨pass, command⟩, rest, rfl, rfl, rfl⟩ := List.map_eq_cons_iff.mp same
  obtain ⟨earlier, found, later, target, here, behind, started, draws, record, rfl, rfl⟩ :=
    split_trace whole
  obtain ⟨offscreen, rfl, rfl, rest, rfl⟩ := draws.split_allocate record
  obtain ⟨named, screen, _⟩ := formed.exists_target draws.found
  have untouched : Unread (earlier.flatMap
      (tagged (graph.frameTargets backend.size options) options.debugView) ++
        ([] : List Command).map (Prod.mk pass)) pass.output :=
    formed.unread started (screen.not.mp (by simp [offscreen])) nofun
  have binding : target.binding = .bindFramebuffer target.name := by
    simp [RenderTarget.binding, offscreen]
  constructor
  · intro member
    obtain ⟨⟨binder, _⟩, listed, rfl⟩ := List.mem_map.mp member
    apply untouched.unbound binder
    rw [← named]
    exact listed
  · rw [binding]
    exact ⟨_, rfl⟩

/-- After a frame that succeeds, the outputs of its passes have the framebuffers that they are to have. -/
theorem framebuffer_run (formed : graph.WellFormed)
    (succeeded : (graph.run options backend).result = .ok ()) (listed : pass ∈ graph.passes)
    (own : graph.framebuffer? backend.size pass.output = some descriptor) :
    (graph.run options backend).state.framebuffers.get? pass.output = some descriptor := by
  have succeeds := (graph.run_cases options backend).resolve_left (by simp [succeeded])
  obtain ⟨found, target, start, draws, _⟩ := succeeds pass listed
  obtain ⟨earlier, later, started⟩ := List.append_of_mem start
  obtain ⟨_, offscreen⟩ := formed.name_of_framebuffer? own
  have nothing : ∀ descriptor, .allocate descriptor ∈ ([] : List Command) →
      descriptor.name ≠ pass.output := nofun
  have kept := formed.framebuffer_kept started draws offscreen (fun _ listed => listed) nothing
  rw [formed.framebuffer?_of_draws draws] at own
  rw [state_run, trace, map_snd_flatMap_tagged, started, ← List.append_nil (List.flatMap ..), kept]
  split at own
  · cases own
  · exact own

end WellFormed

end CompiledGraph

/-! ### A graph alone on a renderer -/

/-- What happens while a graph has a renderer to itself. -/
inductive SoloStep where
  /-- The surface changes its size. -/
  | resize (size : Extent)
  | frame (options : FrameOptions)

/-- A graph, as its frames have left it, and the recording renderer that it has to itself. -/
structure SoloSession where
  graph : CompiledGraph HeadlessProgram HeadlessSource
  backend : HeadlessBackend

namespace SoloSession

/-- The session after a step. -/
def perform (session : SoloSession) : SoloStep → SoloSession
  | .resize size => { session with backend := session.backend.resize size }
  | .frame options =>
      let frame := session.graph.run options session.backend
      { graph := frame.graph, backend := frame.state }

/-- The sessions that any number of steps leads to. -/
inductive Reaches (start : SoloSession) : SoloSession → Prop where
  | start : Reaches start start
  | perform {session : SoloSession} (reached : Reaches start session) (step : SoloStep) :
      Reaches start (session.perform step)

/-- What a session keeps of its beginning: the outputs and the framebuffers of its graph, and a record
that tells the state of the renderer. -/
structure Follows (start session : SoloSession) : Prop where
  built : session.graph.Built HeadlessBackend
  outputs : session.graph.passes.map Pass.output = start.graph.passes.map Pass.output
  framebuffer? : ∀ surface name,
    session.graph.framebuffer? surface name = start.graph.framebuffer? surface name
  tells : start.backend.TellsAfter [] session.backend

variable {start session : SoloSession}

theorem Follows.perform (follows : start.Follows session) (step : SoloStep) :
    start.Follows (session.perform step) := by
  cases step with
  | resize size =>
      have tells := follows.tells
      exact { follows with
        tells := ⟨tells.clearColor, tells.framebuffers, tells.clears, tells.allocations⟩ }
  | frame options =>
      have alike := CompiledGraph.alike_run session.graph options session.backend
      constructor
      case built => exact follows.built.run options session.backend
      case outputs => exact (alike.map_passes Pass.output fun _ => rfl).trans follows.outputs
      case framebuffer? =>
        intro surface name
        exact (alike.framebuffer?_eq surface name).trans (follows.framebuffer? surface name)
      case tells =>
        have preserves := HeadlessBackend.preserves_tells start.backend []
        exact CompiledGraph.preserves_run preserves session.graph options follows.tells

theorem Reaches.follows (reached : start.Reaches session)
    (built : start.graph.Built HeadlessBackend) (fresh : start.backend.commands = #[]) :
    start.Follows session := by
  induction reached with
  | start =>
      have tells : start.backend.TellsAfter [] start.backend := by
        simpa [HeadlessBackend.TellsAfter, fresh] using HeadlessBackend.Tells.nil start.backend
      exact ⟨built, rfl, fun _ _ => rfl, tells⟩
  | perform _ step ih => exact ih.perform step

/-- The renderer of a session holds what was allocated last. -/
theorem Follows.framebuffers (follows : start.Follows session)
    (fresh : start.backend.framebuffers = .empty) (name : String) :
    session.backend.framebuffers.get? name =
      lastAllocated? session.backend.commands.toList name := by
  have told : (start.backend.play session.backend.commands.toList).framebuffers =
    session.backend.framebuffers := follows.tells.framebuffers
  rw [← told, HeadlessBackend.framebuffer_play_eq, fresh]
  exact Option.or_none

end SoloSession

namespace CompiledGraph

/-- Framebuffers are allocated exactly when they are needed.  Take a graph that was built, alone on a new
renderer that may refuse some framebuffers, after any sequence of frames and changes of size.  A frame
that succeeds allocates a framebuffer iff it is the one that the output of some pass is to have at the
present size of the surface, and another one, or none, was last allocated under its name.  It is bound
right after that and not before, and when the frame ends every output has the framebuffer that it is to
have. -/
theorem allocates_when_needed {graph : CompiledGraph HeadlessProgram HeadlessSource}
    (built : graph.Built HeadlessBackend) {size : Extent} {failing : List String}
    {session : SoloSession} (reached : SoloSession.Reaches ⟨graph, { size, failing }⟩ session)
    {options : FrameOptions}
    (succeeded : (session.graph.run options session.backend).result = .ok ()) :
    ∃ commands, (session.perform (.frame options)).backend.commands.toList =
        session.backend.commands.toList ++ commands ∧
      (∀ descriptor, .allocate descriptor ∈ commands ↔
        (∃ pass ∈ graph.passes, pass.output = descriptor.name) ∧
          graph.framebuffer? session.backend.size descriptor.name = some descriptor ∧
          lastAllocated? session.backend.commands.toList descriptor.name ≠ some descriptor) ∧
      (∀ before descriptor after, commands = before ++ .allocate descriptor :: after →
        .bindFramebuffer descriptor.name ∉ before ∧
          ∃ rest, after = .bindFramebuffer descriptor.name :: rest) ∧
      ∀ pass ∈ graph.passes, ∀ descriptor,
        graph.framebuffer? session.backend.size pass.output = some descriptor →
          (session.perform (.frame options)).backend.framebuffers.get? pass.output =
            some descriptor := by
  have follows := reached.follows built rfl
  have formed := follows.built.wellFormed
  have rendered (name : String) : (∃ pass ∈ session.graph.passes, pass.output = name) ↔
      ∃ pass ∈ graph.passes, pass.output = name := by
    rw [← List.mem_map, follows.outputs, List.mem_map]
  refine ⟨_, session.graph.commands_run options session.backend, ?_, ?_, ?_⟩
  · intro descriptor
    rw [formed.allocate_mem_trace_iff succeeded, rendered, follows.framebuffer?,
      follows.framebuffers rfl]
  · intro before descriptor after split
    exact formed.binding_of_allocate split
  · intro pass listed descriptor own
    obtain ⟨other, present, same⟩ := (rendered pass.output).mpr ⟨pass, listed, rfl⟩
    rw [← follows.framebuffer?, ← same] at own
    rw [← same]
    exact formed.framebuffer_run succeeded present own

/-- A session in which the surface becomes smaller after the first frame. -/
def shrunkSession : SoloSession :=
  let start : SoloSession := ⟨bloomGraph, { size := ⟨640, 480⟩, failing := [] }⟩
  (start.perform (.frame {})).perform (.resize ⟨320, 240⟩)

/-- The picture has the size of the surface and is allocated anew, what has a size of its own is not. -/
theorem shrunkSession_allocates_when_needed :
    bloomGraph.Built HeadlessBackend ∧
      SoloSession.Reaches ⟨bloomGraph, { size := ⟨640, 480⟩, failing := [] }⟩ shrunkSession ∧
      (shrunkSession.graph.run {} shrunkSession.backend).result = .ok () ∧
      ∃ commands, (shrunkSession.perform (.frame {})).backend.commands.toList =
          shrunkSession.backend.commands.toList ++ commands ∧
        .allocate ⟨"picture", ⟨320, 240⟩, true⟩ ∈ commands ∧
        ∀ descriptor, .allocate descriptor ∈ commands → descriptor.name ≠ "bright" := by
  have reached : SoloSession.Reaches ⟨bloomGraph, { size := ⟨640, 480⟩, failing := [] }⟩
    shrunkSession := .perform (.perform .start (.frame {})) (.resize ⟨320, 240⟩)
  have succeeded : (shrunkSession.graph.run {} shrunkSession.backend).result = .ok () := by
    decide +kernel
  have kept : lastAllocated? shrunkSession.backend.commands.toList "bright" =
    bloomGraph.framebuffer? shrunkSession.backend.size "bright" := by decide +kernel
  obtain ⟨commands, added, needed, _⟩ := allocates_when_needed bloomGraph_built reached succeeded
  refine ⟨bloomGraph_built, reached, succeeded, commands, added, ?_, ?_⟩
  · apply (needed _).mpr
    decide +kernel
  · intro descriptor allocated named
    obtain ⟨_, own, missing⟩ := (needed descriptor).mp allocated
    rw [named] at own missing
    exact missing (kept.trans own)

end CompiledGraph

end ShaderFlow

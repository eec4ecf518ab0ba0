/-
Module: ShaderFlow.Proofs.Gpu.TextureWiring
Purpose: Draw work under a program samples what earlier passes of the frame have rendered.
Main exports: Pass.RendersInto, Pass.rendersInto_of_ok, CompiledGraph.rendered_when_started,
  CompiledGraph.DeclaresTextures, CompiledGraph.Plays, CompiledGraph.wired_textures_found
-/
import ShaderFlow.Proofs.Gpu.FrameRefinement
import ShaderFlow.Proofs.Gpu.TextureBinding

namespace ShaderFlow

/-!
A pass wires the targets that it reads over whatever its program had in those slots, so a texture that
the pass declares is looked up under the name of a target.  An earlier pass of the frame has rendered
that target, into a framebuffer for the surface as it is now: a framebuffer for a surface of another size
is replaced when its pass binds the target.  No pass in between touches the framebuffer, because an
offscreen target is rendered by one pass only.
-/

/-! ### What a pass renders into -/

/-- The renderer in a frame that shows a view of a surface of the given size. -/
structure GpuBackend.InFrame (backend : GpuBackend) (view : Handle .view) (surface : Extent) :
    Prop where
  recording : ∃ encoder, backend.frame = some ⟨view, encoder⟩
  size : backend.surfaceSize = surface

/-- Targets go by the names under which they are listed, and the screen by its own. -/
def NamedTargets (targets : OrderedMap String RenderTarget) : Prop :=
  ∀ name target, targets.get? name = some target →
    target.name = name ∧ (target.isScreen = true ↔ name = screenName)

/-- The run of a pass renders into a framebuffer: one as its target demands on the given surface.  All
passes that are opened are on it, at least one for the color clear, if the pass clears, and one for
each step of its draw work. -/
structure Pass.RendersInto (pass : Pass GpuProgram GpuSource)
    (targets : OrderedMap String RenderTarget) (debugView : Bool) (backend : GpuBackend)
    (surface : Extent) (framebuffer : GpuFramebuffer) : Prop where
  sized : ∃ target, targets.get? pass.output = some target ∧
    framebuffer.descriptor = target.descriptor surface
  opened : ∃ events passes,
    (pass.run targets debugView backend).state.device.log = backend.device.log ++ events ∧
    Bracketed events passes ∧ (∀ opened ∈ passes, opened.color = framebuffer.colorView) ∧
      (if pass.clearsColor then 1 else 0) + pass.work.length ≤ passes.length

namespace Pass

variable {pass : Pass GpuProgram GpuSource} {targets : OrderedMap String RenderTarget}
  {debugView : Bool} {backend : GpuBackend} {view : Handle .view} {surface : Extent}

/-- A pass that succeeds leaves the framebuffer that it has rendered into under the name of its target.
All other framebuffers are kept. -/
theorem rendersInto_of_ok (named : NamedTargets targets) (inFrame : backend.InFrame view surface)
    (succeeded : (pass.run targets debugView backend).result = .ok ()) :
    let next := (pass.run targets debugView backend).state
    next.InFrame view surface ∧
      (pass.output ≠ screenName → ∃ framebuffer,
        next.framebuffers.get? pass.output = some framebuffer ∧
          pass.RendersInto targets debugView backend surface framebuffer) ∧
      ∀ name ≠ pass.output, next.framebuffers.get? name = backend.framebuffers.get? name := by
  obtain ⟨target, bound, found, checked, binds, draws⟩ := exists_of_run_ok succeeded
  obtain ⟨own, screen⟩ := named _ target found
  obtain ⟨encoder, recording⟩ := inFrame.recording
  have valid : pass.Valid := validate_eq_ok_iff.mp checked
  rcases GpuBackend.bindTarget_cases target debugView backend with
    ⟨_, _, failed⟩ | ⟨device, framebuffers, held, ran, silent, _, output, others⟩
  · cases failed.symm.trans binds
  cases ran.symm.trans binds
  have goesOn : (backend.aimed device framebuffers held
      (target.drawArea debugView backend.surfaceSize)).frame = some ⟨view, encoder⟩ := recording
  obtain ⟨passes, later, last, override, left, records, painted, enough⟩ :=
    paints_drawOverridden goesOn (pass.wired (σ := GpuBackend)) target
  obtain ⟨_, state⟩ := run_of_drawn found valid ran (Prod.ext draws left)
  dsimp only
  rw [state]
  refine ⟨⟨⟨last, rfl⟩, inFrame.size⟩, fun offscreen => ?_, fun name other => others name fun _ =>
    own ▸ other⟩
  have notScreen : target.isScreen = false :=
    Bool.eq_false_iff.mpr fun is => offscreen (screen.mp is)
  obtain ⟨framebuffer, rfl, there, alike⟩ := output notScreen
  rw [own] at there
  refine ⟨framebuffer, there, ⟨target, found, by rw [alike, inFrame.size]⟩, ?_⟩
  obtain ⟨events, advance, bracketed⟩ := (silent.after records).bracketed
  rw [state]
  exact ⟨events, passes, advance.log_eq, bracketed, painted, enough draws⟩

end Pass

namespace CompiledGraph

variable {graph : CompiledGraph GpuProgram GpuSource} {targets : OrderedMap String RenderTarget}
  {debugView : Bool} {passes : List (Pass GpuProgram GpuSource)} {backend : GpuBackend}
  {view : Handle .view} {surface : Extent} {options : FrameOptions}
  {earlier later : List (Pass GpuProgram GpuSource × GpuBackend)}
  {start : Pass GpuProgram GpuSource × GpuBackend}

theorem WellFormed.named_frameTargets (formed : graph.WellFormed) (surface : Extent)
    (options : FrameOptions) : NamedTargets (graph.frameTargets surface options) := by
  intro name target found
  obtain ⟨own, screen, _⟩ := formed.exists_target found
  exact ⟨own, screen⟩

/-- When a pass is started, only the framebuffers that the passes before it output to have changed. -/
theorem inFrame_of_started (named : NamedTargets targets) (inFrame : backend.InFrame view surface)
    (started : startedPasses targets debugView passes backend = earlier ++ start :: later) :
    start.2.InFrame view surface ∧ ∀ name, (∀ producer ∈ earlier, producer.1.output ≠ name) →
      start.2.framebuffers.get? name = backend.framebuffers.get? name := by
  induction passes generalizing backend earlier with
  | nil => simp [startedPasses] at started
  | cons first rest ih =>
      unfold startedPasses at started
      cases earlier with
      | nil =>
          obtain ⟨rfl, _⟩ := List.cons.inj started
          exact ⟨inFrame, fun _ _ => rfl⟩
      | cons producer earlier =>
          obtain ⟨rfl, others⟩ := List.cons.inj started
          split at others
          · next succeeded =>
              obtain ⟨inFrameNext, _, kept⟩ := first.rendersInto_of_ok named inFrame succeeded
              obtain ⟨there, keeps⟩ := ih inFrameNext others
              refine ⟨there, fun name unlike => ?_⟩
              obtain ⟨here, between⟩ := List.forall_mem_cons.mp unlike
              exact (keeps name between).trans (kept name here.symm)
          · simp at others

/-- When a pass is started, the framebuffers that the passes before it have rendered into are still held
under the names of their targets. -/
theorem rendered_when_started (formed : graph.WellFormed) (named : NamedTargets targets)
    (inFrame : backend.InFrame view surface)
    (started : startedPasses targets debugView graph.passes backend = earlier ++ start :: later)
    {producer : Pass GpuProgram GpuSource × GpuBackend} (listed : producer ∈ earlier)
    (offscreen : producer.1.output ≠ screenName) :
    ∃ framebuffer, start.2.framebuffers.get? producer.1.output = some framebuffer ∧
      producer.1.RendersInto targets debugView producer.2 surface framebuffer := by
  have succeeded := ok_of_startedPasses started producer listed
  obtain ⟨before, between, rfl⟩ := List.append_of_mem listed
  rw [List.append_assoc, List.cons_append] at started
  obtain ⟨inFrameHere, _⟩ := inFrame_of_started named inFrame started
  obtain ⟨inFrameNext, rendered, _⟩ := producer.1.rendersInto_of_ok named inFrameHere succeeded
  obtain ⟨framebuffer, held, into⟩ := rendered offscreen
  obtain ⟨rest, goesOn⟩ := startedPasses_behind started succeeded
  obtain ⟨_, kept⟩ := inFrame_of_started named inFrameNext goesOn
  refine ⟨framebuffer, (kept _ fun other place => ?_).trans held, into⟩
  exact formed.output_ne started offscreen other
    (List.mem_append_right _ (List.mem_append_left _ place))

end CompiledGraph

/-! ### Graphs in use -/

/-- What a pass reads, and the resources of the program that it is to draw with. -/
def Pass.demands (pass : Pass GpuProgram GpuSource) :
    Option ProgramResources × OrderedMap String String :=
  (pass.override.map GpuProgram.resources, pass.dependencies)

theorem Pass.demands_run (pass : Pass GpuProgram GpuSource)
    (targets : OrderedMap String RenderTarget) (debugView : Bool) (backend : GpuBackend) :
    (pass.run targets debugView backend).pass.demands = pass.demands := by
  rcases CompiledGraph.pass_run_cases pass targets debugView backend with same | wired
  · rw [same]
  · rw [wired]
    unfold demands Pass.wired
    cases pass.override with
    | none => rfl
    | some program =>
        exact congrArg (fun resources => (some resources, pass.dependencies))
          (resources_foldl_wire pass.dependencies.entries program)

namespace CompiledGraph

variable {graph later : CompiledGraph GpuProgram GpuSource} {session reached : GpuSession}

/-- Every pass of the graph declares what its program samples. -/
def DeclaresTextures (graph : CompiledGraph GpuProgram GpuSource) : Prop :=
  ∀ pass ∈ graph.passes, pass.DeclaresTextures

/-- A frame wires programs, but does not change what they sample. -/
theorem DeclaresTextures.run (declares : graph.DeclaresTextures) (options : FrameOptions)
    (backend : GpuBackend) : (graph.run options backend).graph.DeclaresTextures := by
  intro pass listed program override texture sampled
  have kept : (graph.run options backend).graph.passes.map Pass.demands =
      graph.passes.map Pass.demands :=
    map_runPasses (fun pass => pass.demands_run _ options.debugView) graph.passes backend
  have member : pass.demands ∈ graph.passes.map Pass.demands := kept ▸ List.mem_map_of_mem listed
  obtain ⟨before, original, same⟩ := List.mem_map.mp member
  obtain ⟨resources, dependencies⟩ := Prod.mk.inj same
  rw [override] at resources
  obtain ⟨own, had, alike⟩ := Option.map_eq_some_iff.mp resources
  rw [GpuProgram.descriptor, ← alike] at sampled
  rw [← dependencies]
  exact declares before original own had texture sampled

/-- A graph is run in frames of a session, between which anything may be called: sizes change, frames
begin and end, programs are made and wired. -/
inductive Plays (graph : CompiledGraph GpuProgram GpuSource) (session : GpuSession) :
    CompiledGraph GpuProgram GpuSource → GpuSession → Prop where
  | start : Plays graph session graph session
  | call {later : CompiledGraph GpuProgram GpuSource} {reached : GpuSession} (call : GpuCall)
      (plays : Plays graph session later reached) :
      Plays graph session later (reached.perform call).2
  | run {later : CompiledGraph GpuProgram GpuSource} {reached : GpuSession} (options : FrameOptions)
      (plays : Plays graph session later reached) :
      Plays graph session (later.run options reached.backend).graph
        { reached with backend := (later.run options reached.backend).state }

theorem Plays.performAll (plays : graph.Plays session later reached) (calls : List GpuCall) :
    graph.Plays session later (reached.performAll calls) := by
  induction calls generalizing reached with
  | nil => exact plays
  | cons call rest ih => exact ih (.call call plays)

theorem Plays.built (plays : graph.Plays session later reached) (built : graph.Built GpuBackend) :
    later.Built GpuBackend := by
  induction plays with
  | start => exact built
  | call _ _ ih => exact ih
  | run options _ ih => exact .run options _ ih

theorem Plays.declaresTextures (plays : graph.Plays session later reached)
    (declares : graph.DeclaresTextures) : later.DeclaresTextures := by
  induction plays with
  | start => exact declares
  | call _ _ ih => exact ih
  | run options _ ih => exact ih.run options _

/-! ### What draw work samples -/

variable {earlier rest : List (Pass GpuProgram GpuSource × GpuBackend)}
  {start : Pass GpuProgram GpuSource × GpuBackend} {targets : OrderedMap String RenderTarget}
  {debugView : Bool} {backend : GpuBackend} {view : Handle .view} {surface : Extent}

/-- The framebuffer that a pass finds under the name that it reads through a texture slot. -/
def foundFramebuffer (start : Pass GpuProgram GpuSource × GpuBackend) (texture : TextureSlot) :
    GpuFramebuffer :=
  ((start.1.dependencies.get? texture.name).bind start.2.framebuffers.get?).getD default

/-- For each texture of its program, a pass finds the framebuffer that an earlier pass of the frame has
rendered. -/
theorem WellFormed.rendersInto_found (formed : graph.WellFormed) (named : NamedTargets targets)
    (inFrame : backend.InFrame view surface)
    (started : startedPasses targets debugView graph.passes backend = earlier ++ start :: rest)
    {texture : TextureSlot} {name : String}
    (read : start.1.dependencies.get? texture.name = some name) :
    start.2.framebuffers.get? name = some (foundFramebuffer start texture) ∧
      ∃ producer ∈ earlier, producer.1.output = name ∧
        producer.1.RendersInto targets debugView producer.2 surface
          (foundFramebuffer start texture) := by
  have listed : name ∈ start.1.dependencies.values :=
    List.mem_map.mpr ⟨_, OrderedMap.get?_eq_some_iff.mp read, rfl⟩
  obtain ⟨offscreen, producer, before, rfl⟩ := formed.exists_producer started listed
  obtain ⟨framebuffer, held, into⟩ :=
    rendered_when_started formed named inFrame started before offscreen
  have found : foundFramebuffer start texture = framebuffer := by
    rw [foundFramebuffer, read, Option.bind_some, held]
    rfl
  rw [found]
  exact ⟨held, producer, before, rfl, into⟩

/-- Binding the target of a pass does not touch what the pass reads, so its program finds the framebuffers
that have been rendered. -/
theorem WellFormed.wiredFramebuffer_found (formed : graph.WellFormed) (named : NamedTargets targets)
    (inFrame : backend.InFrame view surface)
    (started : startedPasses targets debugView graph.passes backend = earlier ++ start :: rest)
    (declares : start.1.DeclaresTextures) (valid : start.1.Valid) {program : GpuProgram}
    (installed : (start.1.wired (σ := GpuBackend)).override = some program)
    {framebuffers : OrderedMap String GpuFramebuffer}
    (kept : ∀ name ≠ start.1.output, framebuffers.get? name = start.2.framebuffers.get? name) :
    ∀ texture ∈ program.descriptor.textures,
      program.wiredFramebuffer framebuffers texture = .ok (foundFramebuffer start texture) := by
  intro texture sampled
  obtain ⟨name, listed, read, wired⟩ := declares.exists_input installed sampled
  obtain ⟨held, _⟩ := formed.rendersInto_found named inFrame started read
  have other : name ≠ start.1.output := fun same => valid.reads_others (same ▸ listed)
  exact GpuProgram.wiredFramebuffer_of_held wired ((kept name other).trans held)

/-- A pass that declares what its program samples ends as its draw work says, after all submissions that
no failure stands in front of, unless its framebuffer would be too large; then it submits nothing.  Each
submission samples what the pass finds. -/
theorem WellFormed.samplesThrough_found (formed : graph.WellFormed)
    (declares : graph.DeclaresTextures) (inFrame : backend.InFrame view surface)
    {options : FrameOptions}
    (started : startedPasses (graph.frameTargets surface options) options.debugView graph.passes
      backend = earlier ++ start :: rest) {program : GpuProgram}
    (installed : (start.1.wired (σ := GpuBackend)).override = some program) :
    let targets := graph.frameTargets surface options
    let run := start.1.run targets options.debugView start.2
    let submitted := start.1.submitted targets options.debugView start.2
    (run.result = Pass.wrap (GpuStep.outcome start.1.work) ∧
          submitted.map Prod.fst = GpuStep.reached start.1.work ∨
        (∃ name size limit, run.result = .error (.backend (.framebufferTooLarge name size limit))) ∧
          submitted = []) ∧
      ∀ submission ∈ submitted,
        submission.1.SamplesThrough submission.2 program (foundFramebuffer start) := by
  have listed : start.1 ∈ graph.passes := mem_of_startedPasses started
  have named := formed.named_frameTargets surface options
  obtain ⟨own, held⟩ := formed.outputs _ listed
  obtain ⟨target, found⟩ : ∃ target,
      (graph.frameTargets surface options).get? start.1.output = some target := by
    rw [frameTargets_eq, OrderedMap.get?_mapValues, held]
    exact ⟨_, rfl⟩
  have valid : start.1.Valid := formed.valid _ listed
  obtain ⟨there, _⟩ := inFrame_of_started named inFrame started
  obtain ⟨encoder, recording⟩ := there.recording
  rcases GpuBackend.bindTarget_cases target options.debugView start.2 with
    ⟨_, _, unbound⟩ | ⟨device, framebuffers, bound, binds, _, _, _, others⟩
  · obtain ⟨failed, none⟩ := Pass.run_of_unbound found valid unbound
    refine ⟨.inr ⟨⟨_, _, _, failed⟩, none⟩, ?_⟩
    rw [none]
    exact fun _ => nofun
  · have wired := formed.wiredFramebuffer_found named inFrame started (declares _ listed) valid
      installed fun name other => others name fun _ => (named _ _ found).1 ▸ other
    have goesOn : (start.2.aimed device framebuffers bound
        (target.drawArea options.debugView start.2.surfaceSize)).frame = some ⟨view, encoder⟩ :=
      recording
    obtain ⟨ended, all, samples⟩ := Pass.samplesThrough_of_wired goesOn installed wired target
    dsimp only
    rw [Pass.submitted_of_bound found valid binds, Pass.result_run_of_bound found valid binds]
    exact ⟨.inl ⟨congrArg Pass.wrap ended, all⟩, samples⟩

/-- A graph is built whose passes declare a slot for each texture that their programs sample, whatever
those programs have wired; then frames are run, and anything is called in between.  If a pass with a
program is started in a frame, its run ends as its draw work says or its framebuffer would be too large.
Every submission that it makes opens its pass, through a bind group that holds at the binding of each
texture the color of a framebuffer, and an earlier pass of the same frame has rendered its output into
that framebuffer, which is as the target demands on the surface as it is now. -/
theorem wired_textures_found (built : graph.Built GpuBackend) (declares : graph.DeclaresTextures)
    (plays : graph.Plays session later reached) {frame : GpuFrame}
    (recording : reached.backend.frame = some frame) (options : FrameOptions)
    (started : startedPasses (later.frameTargets reached.backend.surfaceSize options)
      options.debugView later.passes reached.backend = earlier ++ start :: rest)
    {own : GpuProgram} (override : start.1.override = some own) :
    let targets := later.frameTargets reached.backend.surfaceSize options
    let run := start.1.run targets options.debugView start.2
    let submitted := start.1.submitted targets options.debugView start.2
    ∃ program framebuffer,
      (start.1.wired (σ := GpuBackend)).override = some program ∧
      program.resources = own.resources ∧
      (run.result = Pass.wrap (GpuStep.outcome start.1.work) ∧
          submitted.map Prod.fst = GpuStep.reached start.1.work ∨
        (∃ name size limit, run.result = .error (.backend (.framebufferTooLarge name size limit))) ∧
          submitted = []) ∧
      (∀ submission ∈ submitted, submission.1.SamplesThrough submission.2 program framebuffer) ∧
      ∀ texture ∈ program.descriptor.textures, ∃ name,
        start.1.dependencies.get? texture.name = some name ∧
          ∃ producer ∈ earlier, producer.1.output = name ∧
            producer.1.RendersInto targets options.debugView producer.2
              reached.backend.surfaceSize (framebuffer texture) := by
  have formed : later.WellFormed := (plays.built built).wellFormed
  have declaresLater := plays.declaresTextures declares
  have inFrame : reached.backend.InFrame frame.view reached.backend.surfaceSize :=
    ⟨⟨frame.encoder, recording⟩, rfl⟩
  obtain ⟨program, installed⟩ : ∃ program,
      (start.1.wired (σ := GpuBackend)).override = some program := by
    unfold Pass.wired
    rw [override]
    exact ⟨_, rfl⟩
  obtain ⟨same, had, resources, _⟩ := Pass.wired_program installed
  cases override.symm.trans had
  obtain ⟨ended, samples⟩ := formed.samplesThrough_found declaresLater inFrame started installed
  refine ⟨program, foundFramebuffer start, installed, resources, ended, samples, ?_⟩
  intro texture sampled
  obtain ⟨name, _, read, _⟩ :=
    (declaresLater _ (mem_of_startedPasses started)).exists_input installed sampled
  have named := formed.named_frameTargets reached.backend.surfaceSize options
  exact ⟨name, read, (formed.rendersInto_found named inFrame started read).2⟩

/-- The pass that reads the shadow map, with a program that has something else wired and a source of two
submissions. -/
def misledPass : Pass GpuProgram GpuSource :=
  { scenePass with
    override := scenePass.override.map (GpuProgram.wire "map" "casters")
    sources := [⟨[.submit (.pass "scene" []), .submit (.triangle "haze")]⟩] }

/-- A scene in which the shadow map is as large as the surface. -/
def misledScene : List (FrameCall GpuProgram GpuSource) :=
  [.addTarget ⟨{ name := "shadow" }, nofun⟩, .addPass castersPass, .addPass misledPass]

/-- The graph that the scene is built to. -/
def misledGraph : CompiledGraph GpuProgram GpuSource :=
  let authored := FrameGraph.new.authorAll GpuError misledScene
  { targets := authored.targets, passes := authored.passes }

theorem misledGraph_built : misledGraph.Built GpuBackend := by
  obtain ⟨formed, linked, _⟩ := FrameGraph.authorAll_sound (ε := GpuError)
    FrameGraph.WellFormed.new FrameGraph.Linked.new misledScene
  obtain ⟨warnings, built⟩ := FrameGraph.build_eq_ok (ε := GpuError) formed linked
  exact .build built

theorem misledGraph_declaresTextures : misledGraph.DeclaresTextures := by
  intro pass listed program own texture sampled
  have passes : misledGraph.passes = [castersPass, misledPass] := by rfl
  rw [passes, List.mem_cons, List.mem_singleton] at listed
  rcases listed with rfl | rfl
  · cases own
  · have textures : misledPass.override.map (·.descriptor.textures) = some [⟨"map", 0, 1⟩] := by
      decide +kernel
    rw [own] at textures
    have same : program.descriptor.textures = [⟨"map", 0, 1⟩] := Option.some.inj textures
    rw [same] at sampled
    cases List.mem_singleton.mp sampled
    decide

/-- The session in its first frame. -/
def firstFrame : GpuSession := (litSession.perform .beginFrame).2

/-- The graph as its first frame leaves it. -/
def replayedGraph : CompiledGraph GpuProgram GpuSource :=
  (misledGraph.run {} firstFrame.backend).graph

/-- The session in its second frame, on a smaller surface. -/
def secondFrame : GpuSession :=
  { firstFrame with backend := (misledGraph.run {} firstFrame.backend).state }.performAll
    [.endFrame, .resize ⟨320, 240⟩, .beginFrame]

/-- In the second frame, both submissions of the source sample the shadow map of that frame, which is as
large as the surface is then. -/
theorem wired_textures_found_misledGraph : ∃ frame earlier start own program framebuffer,
    misledGraph.Built GpuBackend ∧ misledGraph.DeclaresTextures ∧
    misledGraph.Plays litSession replayedGraph secondFrame ∧
    secondFrame.backend.frame = some frame ∧
    let targets := replayedGraph.frameTargets secondFrame.backend.surfaceSize {}
    let submitted := start.1.submitted targets false start.2
    startedPasses targets false replayedGraph.passes secondFrame.backend = earlier ++ [start] ∧
    start.1.override = some own ∧ program.descriptor.textures = [⟨"map", 0, 1⟩] ∧
    submitted.map Prod.fst = [.pass "scene" [], .triangle "haze"] ∧
    (∀ submission ∈ submitted, submission.1.SamplesThrough submission.2 program framebuffer) ∧
    (framebuffer ⟨"map", 0, 1⟩).descriptor.size = ⟨320, 240⟩ ∧
    ∃ producer ∈ earlier, producer.1.output = "shadow" ∧
      producer.1.RendersInto targets false producer.2 secondFrame.backend.surfaceSize
        (framebuffer ⟨"map", 0, 1⟩) := by
  have first : misledGraph.Plays litSession misledGraph firstFrame := .call .beginFrame .start
  have played : misledGraph.Plays litSession replayedGraph
      { firstFrame with backend := (misledGraph.run {} firstFrame.backend).state } := .run {} first
  have plays : misledGraph.Plays litSession replayedGraph secondFrame :=
    played.performAll [.endFrame, .resize ⟨320, 240⟩, .beginFrame]
  have begun : secondFrame.backend.frame.isSome = true := by decide +kernel
  have surface : secondFrame.backend.surfaceSize = ⟨320, 240⟩ := by decide +kernel
  have succeeded : (runPasses (replayedGraph.frameTargets secondFrame.backend.surfaceSize {}) false
      replayedGraph.passes secondFrame.backend).1 = .ok () := by decide +kernel
  have work : replayedGraph.passes.map Pass.work = [[.submit (.triangle "casters")],
      [.submit (.pass "scene" []), .submit (.triangle "haze")]] := by decide +kernel
  have textures : replayedGraph.passes.map (·.override.map (·.descriptor.textures)) =
      [none, some [⟨"map", 0, 1⟩]] := by decide +kernel
  have reads : replayedGraph.passes.map (·.dependencies.get? "map") = [none, some "shadow"] := by
    decide +kernel
  have shadow : ((replayedGraph.frameTargets ⟨320, 240⟩ {}).get? "shadow").map
      (·.size.resolve ⟨320, 240⟩) = some ⟨320, 240⟩ := by decide +kernel
  obtain ⟨frame, recording⟩ := Option.isSome_iff_exists.mp begun
  obtain ⟨all, done⟩ := startedPasses_of_ok succeeded
  obtain ⟨casters, scene, passes⟩ : ∃ casters scene, replayedGraph.passes = [casters, scene] := by
    refine List.length_eq_two.mp ?_
    rw [← List.length_map Pass.work, work]
    rfl
  rw [passes, List.map_cons, List.map_cons] at work textures reads
  obtain ⟨before, behind, split, rfl, others⟩ := List.map_eq_cons_iff.mp (all.trans passes)
  obtain ⟨start, last, rfl, rfl, none⟩ := List.map_eq_cons_iff.mp others
  cases List.map_eq_nil_iff.mp none
  have started : startedPasses (replayedGraph.frameTargets secondFrame.backend.surfaceSize {}) false
      replayedGraph.passes secondFrame.backend = [before] ++ [start] := split
  have succeeds := done start (started ▸ List.mem_append_right _ List.mem_cons_self)
  obtain ⟨_, own, override, sampled⟩ : before.1.override = .none ∧ ∃ own,
      start.1.override = some own ∧ own.descriptor.textures = [⟨"map", 0, 1⟩] := by
    simpa using textures
  obtain ⟨program, framebuffer, _, resources, ended, samples, rendered⟩ := wired_textures_found
    misledGraph_built misledGraph_declaresTextures plays recording {} started override
  have program_textures : program.descriptor.textures = [⟨"map", 0, 1⟩] := by
    rw [GpuProgram.descriptor, resources]
    exact sampled
  obtain ⟨name, read, producer, listed, rfl, into⟩ :=
    rendered ⟨"map", 0, 1⟩ (program_textures ▸ List.mem_singleton_self _)
  have shadowed : producer.1.output = "shadow" := by
    obtain ⟨_, other⟩ : before.1.dependencies.get? "map" = .none ∧
        start.1.dependencies.get? "map" = some "shadow" := by simpa using reads
    exact Option.some.inj (read.symm.trans other)
  obtain ⟨target, found, alike⟩ := into.sized
  rw [shadowed, surface] at found
  rw [found] at shadow
  refine ⟨frame, [before], start, own, program, framebuffer, misledGraph_built,
    misledGraph_declaresTextures, plays, recording, started, override, program_textures, ?_, samples,
    ?_, producer, listed, shadowed, into⟩
  · rcases ended with ⟨_, all⟩ | ⟨⟨_, _, _, failed⟩, _⟩
    · obtain ⟨_, own⟩ : before.1.work = [.submit (.triangle "casters")] ∧
          start.1.work = [.submit (.pass "scene" []), .submit (.triangle "haze")] := by
        simpa using work
      rw [all, own]
      rfl
    · cases succeeds.symm.trans failed
  · rw [alike, surface]
    exact Option.some.inj shadow

end CompiledGraph

end ShaderFlow

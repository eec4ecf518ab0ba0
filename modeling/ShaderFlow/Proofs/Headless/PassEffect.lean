/-
Module: ShaderFlow.Proofs.Headless.PassEffect
Purpose: What the record of a pass says about framebuffers, clear color and draws.
Main exports: Pass.kind_of_mem_rest, Pass.clearColor_run, Pass.Draws.framebuffer_output,
  Pass.Draws.split_binding, Pass.replay_opening, Pass.override_replay_record, Pass.wired_override
-/
import Mathlib.Data.List.Basic
import ShaderFlow.Proofs.Headless.PassRecord

namespace ShaderFlow

/-!
Each part of a pass records commands of its own kinds, so a command tells the part that it belongs to.
Framebuffers change only in front of the binding, the clear color is put back at the end, and between
the two the override is installed and removed.
-/

/-! ### What the parts of a pass can record -/

namespace Command

/-- Commands that bind a target. -/
def binds : Command → Bool
  | .bindScreen | .bindFramebuffer _ => true
  | _ => false

/-- Commands that say what part of a target draws may cover. -/
def covers : Command → Bool
  | .setViewport _ | .coverTarget => true
  | _ => false

/-- Commands between the binding of a target and draw work. -/
def opens : Command → Bool
  | .setViewport _ | .coverTarget | .setOverride (some _) | .setClearColor _ | .clearColor _
  | .clearDepth => true
  | _ => false

/-- Commands of draw work. -/
def works : Command → Bool
  | .draw _ | .setClearColor _ => true
  | _ => false

/-- Commands behind draw work. -/
def closes : Command → Bool
  | .setOverride none | .setClearColor _ | .renderFramebuffer .. => true
  | _ => false

end Command

/-- A member that is not in the first part of a list is in the second. -/
theorem exists_between_of_notMem {α : Type} {front rest here behind : List α} {item : α}
    (split : front ++ rest = here ++ item :: behind) (absent : item ∉ front) :
    ∃ between, here = front ++ between ∧ rest = between ++ item :: behind := by
  rcases List.append_eq_append_iff.mp split with found | ⟨between, first, same⟩
  · exact found
  · rcases List.cons_eq_append_iff.mp same with ⟨rfl, second⟩ | ⟨others, rfl, _⟩
    · exact ⟨[], by rw [first, List.append_nil, List.append_nil], second⟩
    · exact absurd (first ▸ List.mem_append_right _ List.mem_cons_self) absent

namespace RenderTarget

theorem binds_binding (target : RenderTarget) : target.binding.binds = true := by
  unfold binding
  split <;> rfl

theorem covers_area (target : RenderTarget) (debugView : Bool) (surface : Extent) :
    (target.area debugView surface).covers = true := by
  unfold area
  split
  · split <;> rfl
  · rfl

end RenderTarget

namespace Pass

variable {pass : Pass HeadlessProgram HeadlessSource} {target : RenderTarget}
  {targets : OrderedMap String RenderTarget} {debugView : Bool} {backend : HeadlessBackend}
  {command : Command}

theorem eq_of_mem_allocation (member : command ∈ target.allocation backend) :
    command = .allocate (target.descriptor backend.size) := by
  unfold RenderTarget.allocation at member
  split at member
  · cases member
  · split at member
    · cases member
    · exact List.mem_singleton.mp member

theorem mem_installation : command ∈ pass.installation ↔
    ∃ program, pass.override = some program ∧ command = .setOverride (some program) := by
  unfold installation
  rw [Option.mem_toList, Option.map_eq_some_iff]
  simp only [eq_comm]

theorem mem_clearing : command ∈ pass.clearing target ↔
    pass.clearsColor = true ∧
        (command = .setClearColor pass.clearColor ∨ command = .clearColor pass.clearColor) ∨
      (pass.clearsDepth = true ∧ (target.depth = true ∨ target.isScreen = true)) ∧
        command = .clearDepth := by
  unfold clearing
  rw [List.mem_append, ← Bool.or_eq_true, ← Bool.and_eq_true]
  cases pass.clearsColor <;> cases pass.clearsDepth && (target.depth || target.isScreen) <;> simp

theorem mem_opening {surface : Extent} :
    command ∈ pass.opening target debugView surface ↔
      command = target.area debugView surface ∨
      (∃ program, (pass.wired (σ := HeadlessBackend)).override = some program ∧
        command = .setOverride (some program)) ∨
      command ∈ pass.clearing target := by
  rw [opening, List.mem_cons, List.mem_append, mem_installation]

theorem opens_of_mem_opening {surface : Extent}
    (member : command ∈ pass.opening target debugView surface) : command.opens = true := by
  rw [mem_opening, mem_clearing] at member
  rcases member with rfl | ⟨program, _, rfl⟩ | ⟨_, rfl | rfl⟩ | ⟨_, rfl⟩
  · unfold RenderTarget.area
    split
    · split <;> rfl
    · rfl
  all_goals rfl

theorem works_of_mem_drawn (member : command ∈ pass.drawn) : command.works = true := by
  rcases SourceStep.recorded_cases member with ⟨label, rfl⟩ | ⟨color, rfl⟩ <;> rfl

/-- The overlay shows the output of the pass and what the pass reads, and nothing else. -/
theorem mem_overlay (member : command ∈ pass.overlay target targets debugView backend) :
    target.isScreen = false ∧ ∃ name ∈ target.name :: pass.dependencies.values,
      ∃ cell framebuffer,
        (backend.play (pass.script target debugView backend)).framebuffers.get? name =
          some framebuffer ∧ command = .renderFramebuffer framebuffer.name cell := by
  unfold overlay at member
  split at member
  · cases member
  · split at member
    · next debugged =>
        obtain ⟨name, listed, shown⟩ := List.mem_filterMap.mp member
        unfold shown? at shown
        split at shown
        · next cell framebuffer _ held =>
            have offscreen : target.isScreen = false := by
              simpa using (Bool.and_eq_true_iff.mp debugged).2
            exact ⟨offscreen, name, listed, cell, framebuffer, held, (Option.some.inj shown).symm⟩
        · cases shown
    · cases member

theorem exists_of_mem_overlay (member : command ∈ pass.overlay target targets debugView backend) :
    ∃ name cell, command = .renderFramebuffer name cell := by
  obtain ⟨_, _, _, cell, framebuffer, _, shown⟩ := mem_overlay member
  exact ⟨_, _, shown⟩

theorem closes_of_mem_closing (member : command ∈ pass.closing target targets debugView backend) :
    command.closes = true := by
  unfold closing restoring at member
  rw [List.mem_append, List.mem_append, List.mem_singleton] at member
  rcases member with (removed | rfl) | shown
  · split at removed
    · cases List.mem_singleton.mp removed
      rfl
    · cases removed
  · rfl
  · obtain ⟨_, _, rfl⟩ := exists_of_mem_overlay shown
    rfl

/-- Behind the binding of its target a pass neither allocates nor binds. -/
theorem kind_of_mem_rest {surface : Extent}
    (member : command ∈ pass.opening target debugView surface ++
      (pass.drawn ++ pass.closing target targets debugView backend)) :
    (command.opens || command.works || command.closes) = true := by
  rcases List.mem_append.mp member with opening | rest
  · rw [opens_of_mem_opening opening]
    rfl
  · rcases List.mem_append.mp rest with drawn | closing
    · rw [works_of_mem_drawn drawn, Bool.or_true]
      rfl
    · rw [closes_of_mem_closing closing, Bool.or_true]

/-! ### What a pass leaves behind -/

/-- A pass puts the clear color back, whatever its draw work has done to it. -/
theorem clearColor_run (pass : Pass HeadlessProgram HeadlessSource)
    (targets : OrderedMap String RenderTarget) (debugView : Bool) (backend : HeadlessBackend) :
    (pass.run targets debugView backend).state.clearColor = backend.clearColor := by
  rcases pass.run_cases targets debugView backend with ⟨target, draws⟩ | ⟨_, same⟩
  · have shown : ∀ color, .setClearColor color ∉ pass.overlay target targets debugView backend := by
      intro color member
      obtain ⟨_, _, shown⟩ := exists_of_mem_overlay member
      cases shown
    have last : pass.script target debugView backend =
        (target.allocation backend ++ target.binding ::
          (pass.opening target debugView backend.size ++ pass.drawn ++
            if pass.override.isSome then [.setOverride none] else [])) ++
          [.setClearColor backend.clearColor] := by
      simp only [script, restoring, List.append_assoc, List.cons_append]
    rw [draws.state, HeadlessBackend.play_append, HeadlessBackend.clearColor_play shown, last,
      HeadlessBackend.play_append]
    rfl
  · rw [same]

theorem framebuffer_allocation (offscreen : target.isScreen = false) :
    (backend.play (target.allocation backend)).framebuffers.get? target.name =
      some (target.descriptor backend.size) := by
  unfold RenderTarget.allocation
  rw [offscreen, if_neg Bool.false_ne_true]
  split
  · next held => exact held
  · exact (OrderedMap.get?_insert ..).trans (if_pos rfl)

/-- Nothing is allocated once the target is bound. -/
theorem allocate_notMem (descriptor : FramebufferDescriptor) :
    .allocate descriptor ∉ target.binding :: (pass.opening target debugView backend.size ++
      (pass.drawn ++ pass.closing target targets debugView backend)) := by
  intro member
  rcases List.mem_cons.mp member with binding | rest
  · cases binding ▸ target.binds_binding
  · cases kind_of_mem_rest rest

namespace Draws

/-- Only the target that a pass renders into can be allocated by the pass. -/
theorem eq_of_allocate {descriptor : FramebufferDescriptor}
    (draws : pass.Draws targets debugView backend target)
    (member : .allocate descriptor ∈ pass.record targets debugView backend) :
    descriptor = target.descriptor backend.size := by
  rw [draws.record] at member
  rcases List.mem_append.mp member with here | behind
  · cases eq_of_mem_allocation here
    rfl
  · exact absurd behind (allocate_notMem descriptor)

/-- The framebuffer that a pass renders into suits the surface. -/
theorem framebuffer_output (draws : pass.Draws targets debugView backend target)
    (offscreen : target.isScreen = false) :
    (pass.run targets debugView backend).state.framebuffers.get? target.name =
      some (target.descriptor backend.size) := by
  rw [pass.state_run, draws.record, HeadlessBackend.play_append, HeadlessBackend.framebuffer_play]
  · exact framebuffer_allocation offscreen
  · intro descriptor member
    exact absurd member (allocate_notMem descriptor)

/-- A pass keeps all other framebuffers. -/
theorem framebuffer_other {name : String} (draws : pass.Draws targets debugView backend target)
    (unlike : target.name ≠ name) :
    (pass.run targets debugView backend).state.framebuffers.get? name =
      backend.framebuffers.get? name := by
  rw [pass.state_run, HeadlessBackend.framebuffer_play]
  intro descriptor member
  rw [draws.eq_of_allocate member]
  exact unlike

/-- The overlay finds the framebuffers that the pass leaves. -/
theorem framebuffer_script (draws : pass.Draws targets debugView backend target) (name : String) :
    (backend.play (pass.script target debugView backend)).framebuffers.get? name =
      (pass.run targets debugView backend).state.framebuffers.get? name := by
  rw [draws.state, HeadlessBackend.play_append]
  symm
  apply HeadlessBackend.framebuffer_play
  intro descriptor member
  obtain ⟨_, _, shown⟩ := exists_of_mem_overlay member
  cases shown

/-- The record of a pass around the binding of its target. -/
theorem split_binding {here behind : List Command}
    (draws : pass.Draws targets debugView backend target) (binds : command.binds = true)
    (split : pass.record targets debugView backend = here ++ command :: behind) :
    here = target.allocation backend ∧ command = target.binding ∧
      behind = pass.opening target debugView backend.size ++
        (pass.drawn ++ pass.closing target targets debugView backend) := by
  have unallocated : command ∉ target.allocation backend := by
    intro member
    rw [eq_of_mem_allocation member] at binds
    cases binds
  have notBehind : command ∉ pass.opening target debugView backend.size ++
      (pass.drawn ++ pass.closing target targets debugView backend) := by
    intro member
    unfold Command.binds at binds
    split at binds
    · cases kind_of_mem_rest member
    · cases kind_of_mem_rest member
    · cases binds
  rw [draws.record, List.append_cons_inj_of_notMem unallocated notBehind] at split
  obtain ⟨same, binding, rest⟩ := split
  exact ⟨same.symm, binding.symm, rest.symm⟩

/-- A pass binds its own target only. -/
theorem eq_binding (draws : pass.Draws targets debugView backend target)
    (binds : command.binds = true) (member : command ∈ pass.record targets debugView backend) :
    command = target.binding := by
  obtain ⟨here, behind, split⟩ := List.append_of_mem member
  exact (draws.split_binding binds split).2.1

/-- What neither allocates nor binds stands behind the binding. -/
theorem mem_parts (draws : pass.Draws targets debugView backend target)
    (member : command ∈ pass.record targets debugView backend)
    (unallocated : ∀ descriptor, command ≠ .allocate descriptor) (unbound : command.binds = false) :
    command ∈ pass.opening target debugView backend.size ∨ command ∈ pass.drawn ∨
      command ∈ pass.closing target targets debugView backend := by
  rw [draws.record, List.mem_append, List.mem_cons, List.mem_append, List.mem_append] at member
  rcases member with here | rfl | rest
  · exact absurd (eq_of_mem_allocation here) (unallocated _)
  · exact absurd target.binds_binding (by rw [unbound]; exact Bool.false_ne_true)
  · exact rest

/-- A pass installs its own program only. -/
theorem override_of_mem {program : HeadlessProgram}
    (draws : pass.Draws targets debugView backend target)
    (member : .setOverride (some program) ∈ pass.record targets debugView backend) :
    (pass.wired (σ := HeadlessBackend)).override = some program := by
  rcases draws.mem_parts member nofun rfl with opened | drawn | closed
  · rw [mem_opening, mem_clearing] at opened
    rcases opened with area | ⟨own, held, same⟩ | ⟨_, cleared | cleared⟩ | ⟨_, cleared⟩
    · cases area ▸ target.covers_area debugView backend.size
    · cases same
      exact held
    all_goals cases cleared
  · cases works_of_mem_drawn drawn
  · cases closes_of_mem_closing closed

/-- What a pass shows is the framebuffer, as the pass leaves it, of its own target or of a target that
it reads. -/
theorem shown_of_mem {name : String} {cell : Viewport}
    (draws : pass.Draws targets debugView backend target)
    (member : .renderFramebuffer name cell ∈ pass.record targets debugView backend) :
    target.isScreen = false ∧ ∃ listed ∈ target.name :: pass.dependencies.values, ∃ framebuffer,
      (pass.run targets debugView backend).state.framebuffers.get? listed = some framebuffer ∧
        framebuffer.name = name := by
  rcases draws.mem_parts member nofun rfl with opened | drawn | closed
  · cases opens_of_mem_opening opened
  · cases works_of_mem_drawn drawn
  · have shown : .renderFramebuffer name cell ∈ pass.overlay target targets debugView backend := by
      rcases List.mem_append.mp closed with restored | shown
      · unfold restoring at restored
        split at restored <;> simp at restored
      · exact shown
    obtain ⟨offscreen, listed, concerned, _, framebuffer, held, same⟩ := mem_overlay shown
    cases same
    rw [draws.framebuffer_script] at held
    exact ⟨offscreen, listed, concerned, framebuffer, held, rfl⟩

end Draws

/-! ### Replaying a pass -/

theorem replay_allocation (state : DrawState) : state.replay (target.allocation backend) = state := by
  apply DrawState.replay_eq_self
  intro command member other
  rw [eq_of_mem_allocation member]
  rfl

/-- With its target bound and its program installed, a pass is ready to draw. -/
theorem replay_opening (state : DrawState) (surface : Extent) :
    state.replay (target.binding :: pass.opening target debugView surface) =
      { target := some target.bound, area := some (target.drawArea debugView surface),
        override := (pass.wired (σ := HeadlessBackend)).override.or state.override } := by
  have cleared : ∀ other : DrawState, other.replay (pass.clearing target) = other := by
    intro other
    apply DrawState.replay_eq_self
    intro command member another
    rcases mem_clearing.mp member with ⟨_, rfl | rfl⟩ | ⟨_, rfl⟩ <;> rfl
  have bound : (state.follow target.binding).follow (target.area debugView surface) =
      { state with
        target := some target.bound, area := some (target.drawArea debugView surface) } := by
    unfold RenderTarget.binding RenderTarget.area RenderTarget.bound RenderTarget.drawArea
    cases target.isScreen with
    | true => cases target.debugViewport <;> cases debugView <;> rfl
    | false => rfl
  show ((state.follow target.binding).follow (target.area debugView surface)).replay
    ((pass.wired (σ := HeadlessBackend)).installation ++ pass.clearing target) = _
  rw [DrawState.replay_append, cleared, bound, installation]
  cases (pass.wired (σ := HeadlessBackend)).override <;> rfl

/-- Draws do not depend on the draws and the clear colors before them. -/
theorem replay_drawn (state : DrawState) {commands : List Command}
    (work : ∀ command ∈ commands, command ∈ pass.drawn) : state.replay commands = state := by
  apply DrawState.replay_eq_self
  intro command member other
  rcases SourceStep.recorded_cases (work command member) with ⟨_, rfl⟩ | ⟨_, rfl⟩ <;> rfl

theorem replay_closing (state : DrawState)
    (uninstalled : pass.override = none → state.override = none) :
    (state.replay (pass.closing target targets debugView backend)).override = none := by
  have shown : ∀ other : DrawState,
      other.replay (pass.overlay target targets debugView backend) = other := by
    intro other
    apply DrawState.replay_eq_self
    intro command member another
    obtain ⟨_, _, rfl⟩ := exists_of_mem_overlay member
    rfl
  unfold closing restoring
  rw [DrawState.replay_append, shown, DrawState.replay_append]
  cases program : pass.override with
  | none => exact uninstalled program
  | some => rfl

/-- A pass that finds no override installed leaves none. -/
theorem override_replay_record (pass : Pass HeadlessProgram HeadlessSource)
    (targets : OrderedMap String RenderTarget) (debugView : Bool) (backend : HeadlessBackend)
    {state : DrawState} (clear : state.override = none) :
    (state.replay (pass.record targets debugView backend)).override = none := by
  rcases pass.run_cases targets debugView backend with ⟨target, draws⟩ | ⟨_, same⟩
  · rw [draws.record, ← List.cons_append, DrawState.replay_append, replay_allocation,
      DrawState.replay_append, replay_opening, DrawState.replay_append,
      replay_drawn _ fun _ member => member]
    apply replay_closing
    intro program
    show (pass.wired (σ := HeadlessBackend)).override.or state.override = none
    rw [wired, program, clear]
    rfl
  · rw [record_of_unchanged same]
    exact clear

/-- In front of a draw a pass has bound its target, opened, and done the work before the draw. -/
theorem Draws.split_draw {label : String} {here behind : List Command}
    (draws : pass.Draws targets debugView backend target)
    (split : pass.record targets debugView backend = here ++ .draw label :: behind) :
    ∃ done, (∀ command ∈ done, command ∈ pass.drawn) ∧
      here = target.allocation backend ++
        (target.binding :: pass.opening target debugView backend.size ++ done) := by
  have notInFront : .draw label ∉ target.allocation backend ++
      target.binding :: pass.opening target debugView backend.size := by
    intro member
    rcases List.mem_append.mp member with allocated | front
    · cases eq_of_mem_allocation allocated
    · rcases List.mem_cons.mp front with binding | opened
      · cases binding ▸ target.binds_binding
      · cases opens_of_mem_opening opened
  rw [draws.record, ← List.cons_append, ← List.append_assoc] at split
  obtain ⟨done, rfl, work⟩ := exists_between_of_notMem split notInFront
  refine ⟨done, ?_, List.append_assoc _ _ _⟩
  -- The draw does not belong to what closes the pass, so the work before it is draw work.
  rcases List.append_eq_append_iff.mp work with ⟨rest, _, closed⟩ | ⟨rest, whole, _⟩
  · have closing : .draw label ∈ pass.closing target targets debugView backend :=
      closed ▸ List.mem_append_right _ List.mem_cons_self
    cases closes_of_mem_closing closing
  · intro command member
    rw [whole]
    exact List.mem_append_left _ member

/-! ### Wiring -/

theorem inputs_foldl_wire {entries : List (String × String)}
    (distinct : (entries.map Prod.fst).Nodup) (program : HeadlessProgram) (slot : String) :
    (entries.foldl (fun program entry => Renderer.wire HeadlessBackend entry.1 entry.2 program)
        program).inputs.get? slot =
      ((entries.find? (·.1 = slot)).map Prod.snd).or (program.inputs.get? slot) := by
  induction entries generalizing program with
  | nil => rfl
  | cons entry rest ih =>
      obtain ⟨fresh, others⟩ := List.nodup_cons.mp distinct
      have wired : (Renderer.wire HeadlessBackend entry.1 entry.2 program).inputs.get? slot =
          if entry.1 = slot then some entry.2 else program.inputs.get? slot :=
        OrderedMap.get?_insert ..
      rw [List.foldl_cons, ih others, wired]
      by_cases same : entry.1 = slot
      · have absent : rest.find? (·.1 = slot) = none := by
          apply List.find?_eq_none.mpr
          intro other member equal
          have key : other.1 = entry.1 := (of_decide_eq_true equal).trans same.symm
          exact fresh (List.mem_map.mpr ⟨other, member, key⟩)
        simp [same, absent]
      · simp [same]

theorem label_foldl_wire (entries : List (String × String)) (program : HeadlessProgram) :
    (entries.foldl (fun program entry => Renderer.wire HeadlessBackend entry.1 entry.2 program)
      program).label = program.label := by
  induction entries generalizing program with
  | nil => rfl
  | cons entry rest ih => exact ih _

/-- The program that a pass installs is its own, with every dependency in its slot. -/
theorem wired_override {program : HeadlessProgram} (own : pass.override = some program) :
    ∃ installed, (pass.wired (σ := HeadlessBackend)).override = some installed ∧
      installed.label = program.label ∧
      ∀ slot, installed.inputs.get? slot =
        (pass.dependencies.get? slot).or (program.inputs.get? slot) := by
  unfold wired
  rw [own]
  exact ⟨_, rfl, label_foldl_wire _ program, inputs_foldl_wire pass.dependencies.distinct program⟩

/-- Through a slot of its own a pass reads only what it declares to read. -/
theorem mem_dependencies_of_wired {program : HeadlessProgram} {slot name : String}
    (member : .setOverride (some program) ∈ pass.record targets debugView backend)
    (declared : slot ∈ pass.dependencies.keys) (read : program.inputs.get? slot = some name) :
    name ∈ pass.dependencies.values := by
  obtain ⟨target, draws⟩ := draws_of_mem_record member
  have installed := draws.override_of_mem member
  obtain ⟨own, held, _⟩ := Option.map_eq_some_iff.mp installed
  obtain ⟨other, installs, _, inputs⟩ := wired_override held
  cases installed.symm.trans installs
  obtain ⟨value, found⟩ := Option.isSome_iff_exists.mp (OrderedMap.contains_iff.mpr declared)
  rw [inputs, found] at read
  cases read
  exact List.mem_map.mpr ⟨_, OrderedMap.get?_eq_some_iff.mp found, rfl⟩

end Pass

end ShaderFlow

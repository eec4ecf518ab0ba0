/-
Module: ShaderFlow.Proofs.Headless.Openings
Purpose: The passes and the rectangles of the debug view that a record asks for.
Main exports: Command.opensPass, DrawState.openings, shownIn, Pass.openers, Pass.Draws.openings_record,
  Pass.Draws.shownIn_record
-/
import ShaderFlow.Proofs.Headless.PassEffect

namespace ShaderFlow

/-!
A record asks for one pass per clear and per draw, each in the state that the commands before it have
set.  Between the opening of a pass and what restores the renderer nothing sets that state, so all that
one pass asks for is asked for in one state.
-/

/-- Whether a command is carried out by a pass of its own. -/
def Command.opensPass : Command → Bool
  | .clearColor _ | .clearDepth | .draw _ => true
  | .allocate _ | .bindScreen | .bindFramebuffer _ | .setViewport _ | .coverTarget
  | .setClearColor _ | .setOverride _ | .renderFramebuffer .. => false

/-- The framebuffers that a record shows, with their rectangles. -/
def shownIn (record : List Command) : List (String × Viewport) :=
  record.filterMap fun
    | .renderFramebuffer name viewport => some (name, viewport)
    | _ => none

namespace DrawState

/-- The commands of a record that are carried out by passes, each with what draws depend on there. -/
def openings (state : DrawState) : List Command → List (Command × DrawState)
  | [] => []
  | command :: rest =>
      (if command.opensPass then [(command, state)] else []) ++ (state.follow command).openings rest

variable {state : DrawState} {commands later : List Command}

theorem openings_append :
    state.openings (commands ++ later) =
      state.openings commands ++ (state.replay commands).openings later := by
  induction commands generalizing state with
  | nil => rfl
  | cons command rest ih =>
      show _ ++ (state.follow command).openings (rest ++ later) = _
      rw [ih, ← List.append_assoc]
      rfl

theorem openings_eq_nil (none : ∀ command ∈ commands, command.opensPass = false) :
    state.openings commands = [] := by
  induction commands generalizing state with
  | nil => rfl
  | cons command rest ih =>
      obtain ⟨here, others⟩ := List.forall_mem_cons.mp none
      show (if command.opensPass then _ else _) ++ (state.follow command).openings rest = []
      rw [here, ih others]
      rfl

/-- Commands that set no state are all carried out in the state that they find. -/
theorem openings_of_steady
    (steady : ∀ command ∈ commands, ∀ state : DrawState, state.follow command = state) :
    state.openings commands = (commands.filter Command.opensPass).map (·, state) := by
  induction commands with
  | nil => rfl
  | cons command rest ih =>
      obtain ⟨here, others⟩ := List.forall_mem_cons.mp steady
      show (if command.opensPass then _ else _) ++ (state.follow command).openings rest = _
      rw [here, ih others, List.filter_cons]
      cases command.opensPass <;> rfl

end DrawState

theorem shownIn_append {record later : List Command} :
    shownIn (record ++ later) = shownIn record ++ shownIn later := List.filterMap_append

namespace Pass

variable {pass : Pass HeadlessProgram HeadlessSource} {target : RenderTarget}
  {targets : OrderedMap String RenderTarget} {debugView : Bool} {backend : HeadlessBackend}

/-- The commands of a pass that are carried out by passes of their own. -/
def openers (pass : Pass HeadlessProgram HeadlessSource) (target : RenderTarget) : List Command :=
  (pass.clearing target ++ pass.drawn).filter Command.opensPass

theorem filter_clearing (pass : Pass HeadlessProgram HeadlessSource) (target : RenderTarget) :
    (pass.clearing target).filter Command.opensPass =
      (if pass.clearsColor then [.clearColor pass.clearColor] else []) ++
        if pass.clearsDepth && (target.depth || target.isScreen) then [.clearDepth] else [] := by
  unfold clearing
  cases pass.clearsColor <;> cases pass.clearsDepth && (target.depth || target.isScreen) <;> rfl

/-- What the draws of a pass depend on. -/
def drawState (pass : Pass HeadlessProgram HeadlessSource) (target : RenderTarget) (debugView : Bool)
    (surface : Extent) : DrawState where
  target := some target.bound
  area := some (target.drawArea debugView surface)
  override := (pass.wired (σ := HeadlessBackend)).override

theorem steady_of_mem_work {command : Command}
    (member : command ∈ pass.clearing target ++ pass.drawn) (state : DrawState) :
    state.follow command = state := by
  rcases List.mem_append.mp member with clears | draws
  · rcases mem_clearing.mp clears with ⟨_, rfl | rfl⟩ | ⟨_, rfl⟩ <;> rfl
  · rcases SourceStep.recorded_cases draws with ⟨_, rfl⟩ | ⟨_, rfl⟩ <;> rfl

/-- Neither the binding of a target nor the installation of a program is carried out by a pass. -/
theorem opensPass_of_mem_binding {command : Command} {surface : Extent}
    (member : command ∈ target.binding :: target.area debugView surface ::
      (pass.wired (σ := HeadlessBackend)).installation) : command.opensPass = false := by
  rcases List.mem_cons.mp member with rfl | member
  · unfold RenderTarget.binding
    split <;> rfl
  rcases List.mem_cons.mp member with rfl | installs
  · have covers := target.covers_area debugView surface
    cases area : target.area debugView surface with
    | setViewport | coverTarget => rfl
    | allocate | bindScreen | bindFramebuffer | setClearColor | clearColor | clearDepth | setOverride
    | draw | renderFramebuffer =>
        rw [area] at covers
        cases covers
  · obtain ⟨program, _, rfl⟩ := mem_installation.mp installs
    rfl

theorem opensPass_of_mem_closing {command : Command}
    (member : command ∈ pass.closing target targets debugView backend) :
    command.opensPass = false := by
  have closes := closes_of_mem_closing member
  cases command with
  | clearColor | clearDepth | draw => cases closes
  | allocate | bindScreen | bindFramebuffer | setViewport | coverTarget | setClearColor | setOverride
  | renderFramebuffer => rfl

namespace Draws

/-- A pass asks for its clears and its draws, all in the state that it opens. -/
theorem openings_record (draws : pass.Draws targets debugView backend target) {state : DrawState}
    (clear : state.override = none) :
    state.openings (pass.record targets debugView backend) =
      (pass.openers target).map (·, pass.drawState target debugView backend.size) := by
  have bound : state.replay (target.binding :: target.area debugView backend.size ::
      (pass.wired (σ := HeadlessBackend)).installation) =
        pass.drawState target debugView backend.size := by
    have whole : state.replay (target.binding :: pass.opening target debugView backend.size) = _ :=
      replay_opening state backend.size
    rw [show target.binding :: pass.opening target debugView backend.size =
        (target.binding :: target.area debugView backend.size ::
          (pass.wired (σ := HeadlessBackend)).installation) ++ pass.clearing target from rfl,
      DrawState.replay_append, DrawState.replay_eq_self fun command clears =>
        steady_of_mem_work (List.mem_append_left pass.drawn clears), clear, Option.or_none] at whole
    exact whole
  have parts : pass.record targets debugView backend = target.allocation backend ++
      ((target.binding :: target.area debugView backend.size ::
        (pass.wired (σ := HeadlessBackend)).installation) ++
          ((pass.clearing target ++ pass.drawn) ++
            pass.closing target targets debugView backend)) := by
    rw [draws.record, opening]
    simp only [List.cons_append, List.append_assoc]
  rw [parts, DrawState.openings_append, replay_allocation, DrawState.openings_append, bound,
    DrawState.openings_append, DrawState.openings_of_steady fun _ => steady_of_mem_work,
    DrawState.openings_eq_nil fun _ => opensPass_of_mem_closing,
    DrawState.openings_eq_nil fun _ => opensPass_of_mem_binding,
    DrawState.openings_eq_nil fun command member => by rw [eq_of_mem_allocation member]; rfl,
    List.nil_append, List.nil_append, List.append_nil, openers]

/-- A pass asks for the rectangles of its overlay. -/
theorem shownIn_record (draws : pass.Draws targets debugView backend target) :
    shownIn (pass.record targets debugView backend) =
      shownIn (pass.overlay target targets debugView backend) := by
  have none : ∀ {commands : List Command},
      (∀ command ∈ commands, ∀ name viewport, command ≠ .renderFramebuffer name viewport) →
        shownIn commands = [] := by
    intro commands others
    refine List.filterMap_eq_nil_iff.mpr fun command member => ?_
    cases command with
    | renderFramebuffer name viewport => exact absurd rfl (others _ member name viewport)
    | allocate | bindScreen | bindFramebuffer | setViewport | coverTarget | setClearColor | clearColor
    | clearDepth | setOverride | draw => rfl
  have whole : pass.record targets debugView backend =
      pass.script target debugView backend ++ pass.overlay target targets debugView backend :=
    record_of_state draws.state
  rw [whole, shownIn_append, none, List.nil_append]
  rintro command member name viewport rfl
  unfold script at member
  rcases List.mem_append.mp member with allocates | member
  · cases eq_of_mem_allocation allocates
  rcases List.mem_cons.mp member with binds | member
  · cases binds ▸ target.binds_binding
  rcases List.mem_append.mp member with member | restores
  · rcases List.mem_append.mp member with opens | draws
    · cases opens_of_mem_opening opens
    · cases works_of_mem_drawn draws
  · unfold restoring at restores
    split at restores <;> simp at restores

end Draws

end Pass

end ShaderFlow

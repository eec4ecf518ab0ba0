/-
Module: ShaderFlow.Proofs.Headless.Recording
Purpose: Recorded commands as a program: what they tell about the renderer and about the draws.
Main exports: HeadlessBackend.play, HeadlessBackend.recordedSince, DrawState, DrawState.replay,
  SourceStep.recorded, SourceStep.outcome, HeadlessBackend.each_submit
-/
import ShaderFlow.Headless.Backend

namespace ShaderFlow

/-!
Whatever the recording renderer does, its state changes as the commands tell that it records.  So each
step of a pass is described by a list of commands, and the renderer after the step is the one before,
played on with that list.

What a draw depends on is not part of the renderer: it is found by replaying the record.
-/

namespace HeadlessBackend

/-- The renderer after one more command, with what the command tells about its state. -/
def follow (backend : HeadlessBackend) (command : Command) : HeadlessBackend :=
  match command with
  | .allocate descriptor =>
      { backend with
        framebuffers := backend.framebuffers.insert descriptor.name descriptor }.record command
  | .setClearColor color => { backend with clearColor := color }.record command
  | .bindScreen | .bindFramebuffer _ | .setViewport _ | .coverTarget | .clearColor _ | .clearDepth
  | .setOverride _ | .draw _ | .renderFramebuffer .. => backend.record command

/-- The renderer after more commands. -/
def play (backend : HeadlessBackend) (commands : List Command) : HeadlessBackend :=
  commands.foldl follow backend

/-- The commands that a renderer has recorded since an earlier moment. -/
def recordedSince (before after : HeadlessBackend) : List Command :=
  after.commands.toList.drop before.commands.size

variable {backend : HeadlessBackend} {commands later : List Command}

theorem play_append : backend.play (commands ++ later) = (backend.play commands).play later :=
  List.foldl_append

theorem size_play : (backend.play commands).size = backend.size := by
  induction commands generalizing backend with
  | nil => rfl
  | cons command rest ih => exact ih.trans (by cases command <;> rfl)

theorem failing_play : (backend.play commands).failing = backend.failing := by
  induction commands generalizing backend with
  | nil => rfl
  | cons command rest ih => exact ih.trans (by cases command <;> rfl)

theorem commands_play :
    (backend.play commands).commands.toList = backend.commands.toList ++ commands := by
  induction commands generalizing backend with
  | nil => exact (List.append_nil _).symm
  | cons command rest ih =>
      have recorded : (backend.follow command).commands = backend.commands.push command := by
        cases command <;> rfl
      exact ih.trans (by rw [recorded, Array.toList_push, List.append_assoc, List.singleton_append])

theorem recordedSince_play : backend.recordedSince (backend.play commands) = commands := by
  rw [recordedSince, commands_play]
  exact List.drop_left

/-- Only a change of the clear color changes it. -/
theorem clearColor_play (unchanged : ∀ color, .setClearColor color ∉ commands) :
    (backend.play commands).clearColor = backend.clearColor := by
  induction commands generalizing backend with
  | nil => rfl
  | cons command rest ih =>
      have others : ∀ color, .setClearColor color ∉ rest := fun color member =>
        unchanged color (.tail _ member)
      refine (ih others).trans ?_
      cases command with
      | setClearColor color => exact absurd List.mem_cons_self (unchanged color)
      | allocate | bindScreen | bindFramebuffer | setViewport | coverTarget | clearColor | clearDepth
      | setOverride | draw | renderFramebuffer => rfl

/-- Only the allocation of a framebuffer changes it. -/
theorem framebuffer_play {name : String}
    (unchanged : ∀ descriptor, .allocate descriptor ∈ commands → descriptor.name ≠ name) :
    (backend.play commands).framebuffers.get? name = backend.framebuffers.get? name := by
  induction commands generalizing backend with
  | nil => rfl
  | cons command rest ih =>
      have others : ∀ descriptor, .allocate descriptor ∈ rest → descriptor.name ≠ name :=
        fun descriptor member => unchanged descriptor (.tail _ member)
      refine (ih others).trans ?_
      cases command with
      | allocate descriptor =>
          have unlike := unchanged descriptor List.mem_cons_self
          exact (OrderedMap.get?_insert ..).trans (if_neg unlike)
      | setClearColor | bindScreen | bindFramebuffer | setViewport | coverTarget | clearColor
      | clearDepth | setOverride | draw | renderFramebuffer => rfl

end HeadlessBackend

/-! ### What a draw depends on -/

/-- Where draws go to. -/
inductive DrawTarget where
  | screen
  | framebuffer (name : String)
deriving DecidableEq, Repr, Inhabited

/-- The part of the bound target that draws may cover. -/
inductive DrawArea where
  | whole
  | rectangle (viewport : Viewport)
deriving DecidableEq, Repr, Inhabited

/-- What a draw depends on; nothing is known of a target or an area before one is set. -/
structure DrawState where
  target : Option DrawTarget := none
  area : Option DrawArea := none
  override : Option HeadlessProgram := none
deriving DecidableEq, Repr, Inhabited

namespace DrawState

/-- What draws depend on after a command. -/
def follow (state : DrawState) : Command → DrawState
  | .bindScreen => { state with target := some .screen }
  | .bindFramebuffer name => { state with target := some (.framebuffer name) }
  | .setViewport viewport => { state with area := some (.rectangle viewport) }
  | .coverTarget => { state with area := some .whole }
  | .setOverride override => { state with override }
  | .allocate _ | .setClearColor _ | .clearColor _ | .clearDepth | .draw _
  | .renderFramebuffer .. => state

/-- What draws depend on after the commands of a record. -/
def replay (state : DrawState) (commands : List Command) : DrawState := commands.foldl follow state

theorem replay_append {state : DrawState} {commands later : List Command} :
    state.replay (commands ++ later) = (state.replay commands).replay later :=
  List.foldl_append

/-- Commands that draws do not depend on can be left out. -/
theorem replay_eq_self {state : DrawState} {commands : List Command}
    (quiet : ∀ command ∈ commands, ∀ state : DrawState, state.follow command = state) :
    state.replay commands = state := by
  induction commands with
  | nil => rfl
  | cons command rest ih =>
      obtain ⟨here, others⟩ := List.forall_mem_cons.mp quiet
      show (state.follow command).replay rest = state
      rw [here, ih others]

end DrawState

/-! ### Draw work -/

namespace SourceStep

/-- What steps of draw work record until one fails. -/
def recorded : List SourceStep → List Command
  | [] => []
  | .draw label :: rest => .draw label :: recorded rest
  | .setClearColor color :: rest => .setClearColor color :: recorded rest
  | .fail _ :: _ => []

/-- How steps of draw work end. -/
def outcome : List SourceStep → Except HeadlessError Unit
  | [] => .ok ()
  | .draw _ :: rest | .setClearColor _ :: rest => outcome rest
  | .fail label :: _ => .error (.source label)

variable {steps : List SourceStep} {command : Command}

/-- Draw work draws and changes the clear color. -/
theorem recorded_cases (member : command ∈ recorded steps) :
    (∃ label, command = .draw label) ∨ ∃ color, command = .setClearColor color := by
  induction steps with
  | nil => cases member
  | cons step rest ih =>
      cases step with
      | draw label =>
          rcases List.mem_cons.mp member with rfl | later
          · exact .inl ⟨label, rfl⟩
          · exact ih later
      | setClearColor color =>
          rcases List.mem_cons.mp member with rfl | later
          · exact .inr ⟨color, rfl⟩
          · exact ih later
      | fail => cases member

/-- Draw work succeeds iff none of its steps is a failure. -/
theorem outcome_eq_ok_iff : outcome steps = .ok () ↔ ∀ label, .fail label ∉ steps := by
  induction steps with
  | nil => simp [outcome]
  | cons step rest ih =>
      cases step with
      | draw | setClearColor => simpa [outcome] using ih
      | fail label =>
          exact ⟨fun ended => (nomatch ended), fun none => absurd List.mem_cons_self (none label)⟩

end SourceStep

namespace HeadlessBackend

theorem each_takeStep (steps : List SourceStep) (backend : HeadlessBackend) :
    Action.each takeStep steps backend =
      (SourceStep.outcome steps, backend.play (SourceStep.recorded steps)) := by
  induction steps generalizing backend with
  | nil => rfl
  | cons step rest ih =>
      cases step with
      | draw label => exact ih _
      | setClearColor color => exact ih _
      | fail => rfl

/-- Draw work is recorded up to its first failure. -/
theorem each_submit (sources : List HeadlessSource) (backend : HeadlessBackend) :
    Action.each submit sources backend =
      (SourceStep.outcome (sources.flatMap HeadlessSource.steps),
        backend.play (SourceStep.recorded (sources.flatMap HeadlessSource.steps))) := by
  rw [← each_takeStep, ← Action.each_flatMap]
  rfl

end HeadlessBackend

end ShaderFlow

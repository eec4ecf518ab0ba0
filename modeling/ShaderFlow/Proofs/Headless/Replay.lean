/-
Module: ShaderFlow.Proofs.Headless.Replay
Purpose: The record of the recording renderer determines its state, however often it is taken.
Main exports: Command.setColor?, Command.allocated?, lastColor?, lastAllocated?,
  HeadlessBackend.Tells, HeadlessBackend.preserves_tells, HeadlessCall, HeadlessSession,
  HeadlessSession.log_determines_state
-/
import ShaderFlow.Proofs.Headless.FrameRecord
import ShaderFlow.Proofs.Render.Preservation

namespace ShaderFlow

/-!
The recording renderer keeps its state and its record apart: tests look at the record, frames look at
the state.  Every operation that changes the one tells so in the other, so the state can be found again
by playing the record from the start.  Whoever takes the record takes a beginning of it away; what has
been taken and what is left still are the whole.

A frame touches the renderer through its operations only.  What each of them keeps, a frame keeps.
-/

/-! ### What a record tells -/

namespace Command

/-- The color that a command sets for color clears. -/
def setColor? : Command → Option Color
  | .setClearColor color => some color
  | _ => none

/-- The framebuffer that a command allocates. -/
def allocated? : Command → Option FramebufferDescriptor
  | .allocate descriptor => some descriptor
  | _ => none

end Command

/-- The color that a record sets last. -/
def lastColor? (record : List Command) : Option Color := record.reverse.findSome? Command.setColor?

/-- What a record allocates last under a name. -/
def lastAllocated? (record : List Command) (name : String) : Option FramebufferDescriptor :=
  (record.filterMap Command.allocated?).reverse.find? (·.name = name)

namespace HeadlessBackend

variable {start backend : HeadlessBackend} {record earlier : List Command} {command : Command}

theorem play_concat : start.play (record ++ [command]) = (start.play record).follow command :=
  play_append

/-- Playing a record sets the color that the record sets last. -/
theorem clearColor_play_eq (record : List Command) :
    (start.play record).clearColor = (lastColor? record).getD start.clearColor := by
  induction record using List.reverseRecOn with
  | nil => rfl
  | append_singleton record command ih =>
      rw [play_concat, lastColor?, List.reverse_concat, List.findSome?_cons, ← lastColor?]
      cases command with
      | setClearColor => rfl
      | allocate | bindScreen | bindFramebuffer | setViewport | coverTarget | clearColor | clearDepth
      | setOverride | draw | renderFramebuffer => exact ih

/-- Playing a record leaves, under each name, what the record allocates last. -/
theorem framebuffer_play_eq (record : List Command) (name : String) :
    (start.play record).framebuffers.get? name =
      (lastAllocated? record name).or (start.framebuffers.get? name) := by
  induction record using List.reverseRecOn with
  | nil => rfl
  | append_singleton record command ih =>
      rw [play_concat, lastAllocated?, List.filterMap_append, List.reverse_append]
      cases command with
      | allocate descriptor =>
          show ((start.play record).framebuffers.insert _ _).get? name = _
          rw [OrderedMap.get?_insert, ih]
          by_cases named : descriptor.name = name
          · simp [Command.allocated?, named]
          · simp [Command.allocated?, named, lastAllocated?]
      | setClearColor | bindScreen | bindFramebuffer | setViewport | coverTarget | clearColor
      | clearDepth | setOverride | draw | renderFramebuffer => exact ih

/-- Framebuffers come in the order in which their names are first allocated. -/
theorem keys_play (fresh : start.framebuffers = .empty) (record : List Command) :
    (start.play record).framebuffers.keys =
      ((record.filterMap Command.allocated?).map FramebufferDescriptor.name).eraseDups := by
  induction record using List.reverseRecOn with
  | nil => exact congrArg OrderedMap.keys fresh
  | append_singleton record command ih =>
      rw [play_concat, List.filterMap_append, List.map_append, List.eraseDups_append]
      cases command with
      | allocate descriptor =>
          show ((start.play record).framebuffers.insert _ _).keys = _
          rw [OrderedMap.keys_insert, ih]
          simp only [List.mem_eraseDups, Command.allocated?, List.filterMap_cons, List.filterMap_nil,
            List.map_cons, List.map_nil]
          by_cases again : descriptor.name ∈
              (record.filterMap Command.allocated?).map FramebufferDescriptor.name
          · simp [again, List.removeAll]
          · simp [again, List.removeAll, List.eraseDups_cons]
      | setClearColor | bindScreen | bindFramebuffer | setViewport | coverTarget | clearColor
      | clearDepth | setOverride | draw | renderFramebuffer =>
          exact ih.trans (List.append_nil _).symm

/-! ### What every operation keeps -/

/-- A record tells the state of a renderer: playing it leads to the clear color and the framebuffers
that the renderer has.  Every color clear in it shows the color in force, and no allocation in it is
for a framebuffer that was there already. -/
structure Tells (start : HeadlessBackend) (record : List Command) (backend : HeadlessBackend) :
    Prop where
  clearColor : (start.play record).clearColor = backend.clearColor
  framebuffers : (start.play record).framebuffers = backend.framebuffers
  clears : ∀ before color, before ++ [.clearColor color] <+: record →
    color = (start.play before).clearColor
  allocations : ∀ before descriptor, before ++ [.allocate descriptor] <+: record →
    (start.play before).framebuffers.get? descriptor.name ≠ some descriptor

/-- What a renderer may record in a state: a clear shows the color in force, and an allocation is for
what is not there. -/
def Honest (backend : HeadlessBackend) : Command → Prop
  | .clearColor color => color = backend.clearColor
  | .allocate descriptor => backend.framebuffers.get? descriptor.name ≠ some descriptor
  | .bindScreen | .bindFramebuffer _ | .setViewport _ | .coverTarget | .setClearColor _ | .clearDepth
  | .setOverride _ | .draw _ | .renderFramebuffer .. => True

theorem Tells.nil (start : HeadlessBackend) : Tells start [] start where
  clearColor := rfl
  framebuffers := rfl
  clears before color begins := by simp at begins
  allocations before descriptor begins := by simp at begins

/-- One more command of a renderer tells what it does to the state. -/
theorem Tells.concat (tells : Tells start record backend) (honest : backend.Honest command) :
    Tells start (record ++ [command]) (backend.follow command) := by
  have last : ∀ before other, before ++ [other] <+: record ++ [command] →
      before = record ∧ other = command ∨ before ++ [other] <+: record := by
    intro before other begins
    rcases List.prefix_concat_iff.mp begins with whole | earlier
    · exact .inl (by simpa using whole)
    · exact .inr earlier
  constructor
  case clearColor =>
    rw [play_concat]
    cases command with
    | setClearColor => rfl
    | allocate | bindScreen | bindFramebuffer | setViewport | coverTarget | clearColor | clearDepth
    | setOverride | draw | renderFramebuffer => exact tells.clearColor
  case framebuffers =>
    rw [play_concat]
    cases command with
    | allocate descriptor =>
        show (start.play record).framebuffers.insert _ _ = backend.framebuffers.insert _ _
        rw [tells.framebuffers]
    | setClearColor | bindScreen | bindFramebuffer | setViewport | coverTarget | clearColor | clearDepth
    | setOverride | draw | renderFramebuffer => exact tells.framebuffers
  case clears =>
    intro before color begins
    rcases last before _ begins with ⟨rfl, rfl⟩ | earlier
    · exact honest.trans tells.clearColor.symm
    · exact tells.clears before color earlier
  case allocations =>
    intro before descriptor begins
    rcases last before _ begins with ⟨rfl, rfl⟩ | earlier
    · rw [tells.framebuffers]
      exact honest
    · exact tells.allocations before descriptor earlier

/-- What has been taken earlier and what is left tell the state together. -/
def TellsAfter (start : HeadlessBackend) (earlier : List Command) (backend : HeadlessBackend) : Prop :=
  Tells start (earlier ++ backend.commands.toList) backend

theorem TellsAfter.follow (tells : TellsAfter start earlier backend) (command : Command)
    (honest : backend.Honest command) : TellsAfter start earlier (backend.follow command) := by
  have recorded : (backend.play [command]).commands.toList = backend.commands.toList ++ [command] :=
    commands_play
  show Tells start (earlier ++ (backend.play [command]).commands.toList) _
  rw [recorded, ← List.append_assoc]
  exact tells.concat honest

theorem TellsAfter.ensureFramebuffer (tells : TellsAfter start earlier backend)
    (descriptor : FramebufferDescriptor) :
    TellsAfter start earlier (ensureFramebuffer descriptor backend).2 := by
  unfold HeadlessBackend.ensureFramebuffer
  split
  · exact tells
  · split
    · exact tells
    · next missing => exact tells.follow (.allocate descriptor) missing

theorem TellsAfter.submit (tells : TellsAfter start earlier backend) (source : HeadlessSource) :
    TellsAfter start earlier (submit source backend).2 := by
  refine Renderer.Preserves.each ?_ tells source.steps
  intro step backend tells
  cases step with
  | draw label => exact tells.follow (.draw label) trivial
  | fail => exact tells
  | setClearColor color => exact tells.follow (.setClearColor color) trivial

/-- No operation of a frame breaks what the record tells. -/
theorem preserves_tells (start : HeadlessBackend) (earlier : List Command) :
    Renderer.Preserves (TellsAfter start earlier) where
  bindScreen _ tells := tells.follow (.bindScreen) trivial
  bindFramebuffer framebuffer _ tells :=
    tells.follow (.bindFramebuffer framebuffer.name) trivial
  setViewport viewport _ tells := tells.follow (.setViewport viewport) trivial
  coverTarget _ tells := tells.follow (.coverTarget) trivial
  setClearColor color _ tells := tells.follow (.setClearColor color) trivial
  clearColor backend tells := tells.follow (.clearColor backend.clearColor) rfl
  clearDepth _ tells := tells.follow (.clearDepth) trivial
  setOverride program _ tells := tells.follow (.setOverride program) trivial
  ensureFramebuffer descriptor _ tells := tells.ensureFramebuffer descriptor
  renderFramebuffer framebuffer viewport _ tells :=
    tells.follow (.renderFramebuffer framebuffer.name viewport) trivial
  submit source _ tells := tells.submit source

/-- The allocation that a descriptor asks for, unless it is refused or there is no need. -/
def allocationFor (backend : HeadlessBackend) (descriptor : FramebufferDescriptor) : List Command :=
  if backend.failing.contains descriptor.name then []
  else if backend.framebuffers.get? descriptor.name = some descriptor then []
  else [.allocate descriptor]

theorem state_ensureFramebuffer (descriptor : FramebufferDescriptor) (backend : HeadlessBackend) :
    (ensureFramebuffer descriptor backend).2 = backend.play (backend.allocationFor descriptor) := by
  unfold ensureFramebuffer allocationFor
  split
  · rfl
  · split <;> rfl

end HeadlessBackend

/-! ### Sessions -/

/-- What can be done with the recording renderer: calls of its own, calls through the interface of
renderers, and whole frames. -/
inductive HeadlessCall where
  | resize (size : Extent)
  | failAllocationOf (name : String)
  | takeCommands
  | draw (label : String)
  | bindScreen
  | bindFramebuffer (framebuffer : FramebufferDescriptor)
  | setViewport (viewport : Viewport)
  | coverTarget
  | setClearColor (color : Color)
  | clearColor
  | clearDepth
  | setOverride (program : Option HeadlessProgram)
  | ensureFramebuffer (descriptor : FramebufferDescriptor)
  | renderFramebuffer (framebuffer : FramebufferDescriptor) (viewport : Viewport)
  | submit (source : HeadlessSource)
  | frame (graph : CompiledGraph HeadlessProgram HeadlessSource) (options : FrameOptions)

namespace HeadlessCall

/-- The renderer after a call, whether it succeeds or not. -/
def perform (backend : HeadlessBackend) : HeadlessCall → HeadlessBackend
  | .resize size => backend.resize size
  | .failAllocationOf name => backend.failAllocationOf name
  | .takeCommands => backend.takeCommands.2
  | .draw label => backend.draw label
  | .bindScreen => Renderer.bindScreen backend
  | .bindFramebuffer framebuffer => Renderer.bindFramebuffer framebuffer backend
  | .setViewport viewport => Renderer.setViewport viewport backend
  | .coverTarget => Renderer.coverTarget backend
  | .setClearColor color => Renderer.setClearColor color backend
  | .clearColor => (Renderer.clearColor backend).2
  | .clearDepth => (Renderer.clearDepth backend).2
  | .setOverride program => Renderer.setOverride program backend
  | .ensureFramebuffer descriptor => (Renderer.ensureFramebuffer descriptor backend).2
  | .renderFramebuffer framebuffer viewport =>
      (Renderer.renderFramebuffer framebuffer viewport backend).2
  | .submit source => (Renderer.submit source backend).2
  | .frame graph options => (graph.run options backend).state

/-- The commands that a call is to record in a state. -/
def issued (backend : HeadlessBackend) : HeadlessCall → List Command
  | .resize _ | .failAllocationOf _ | .takeCommands => []
  | .draw label => [.draw label]
  | .bindScreen => [.bindScreen]
  | .bindFramebuffer framebuffer => [.bindFramebuffer framebuffer.name]
  | .setViewport viewport => [.setViewport viewport]
  | .coverTarget => [.coverTarget]
  | .setClearColor color => [.setClearColor color]
  | .clearColor => [.clearColor backend.clearColor]
  | .clearDepth => [.clearDepth]
  | .setOverride program => [.setOverride program]
  | .ensureFramebuffer descriptor => backend.allocationFor descriptor
  | .renderFramebuffer framebuffer viewport => [.renderFramebuffer framebuffer.name viewport]
  | .submit source => SourceStep.recorded source.steps
  | .frame graph options => (graph.trace options backend).map Prod.snd

end HeadlessCall

/-- A renderer in use, with the records that were taken from it, the earliest first. -/
structure HeadlessSession where
  backend : HeadlessBackend
  taken : List (List Command) := []

namespace HeadlessSession

/-- A new renderer of a given size. -/
def new (size : Extent) : HeadlessSession := { backend := { size } }

/-- The session after a call. -/
def perform (session : HeadlessSession) (call : HeadlessCall) : HeadlessSession where
  backend := call.perform session.backend
  taken :=
    match call with
    | .takeCommands => session.taken ++ [session.backend.takeCommands.1]
    | _ => session.taken

/-- The session after a sequence of calls. -/
def performAll (session : HeadlessSession) (calls : List HeadlessCall) : HeadlessSession :=
  calls.foldl perform session

/-- All records taken, and the one that is left. -/
def history (session : HeadlessSession) : List Command :=
  session.taken.flatten ++ session.backend.commands.toList

/-- The commands that the calls of a sequence are to record, each in the state that it finds. -/
def issuedAlong (session : HeadlessSession) : List HeadlessCall → List Command
  | [] => []
  | call :: rest => call.issued session.backend ++ (session.perform call).issuedAlong rest

variable {session : HeadlessSession} {start : HeadlessBackend} {call : HeadlessCall}

/-- A call other than one that takes the record adds to it what it is to record. -/
theorem commands_perform (backend : HeadlessBackend) (kept : call ≠ .takeCommands) :
    (call.perform backend).commands.toList = backend.commands.toList ++ call.issued backend := by
  cases call with
  | takeCommands => exact absurd rfl kept
  | resize | failAllocationOf => exact (List.append_nil _).symm
  | ensureFramebuffer descriptor =>
      show (HeadlessBackend.ensureFramebuffer descriptor backend).2.commands.toList = _
      rw [HeadlessBackend.state_ensureFramebuffer]
      exact HeadlessBackend.commands_play
  | submit source =>
      show (Action.each HeadlessBackend.takeStep source.steps backend).2.commands.toList = _
      rw [HeadlessBackend.each_takeStep]
      exact HeadlessBackend.commands_play
  | frame graph options => exact graph.commands_run options backend
  | draw | bindScreen | bindFramebuffer | setViewport | coverTarget | setClearColor | clearColor
  | clearDepth | setOverride | renderFramebuffer => exact Array.toList_push ..

/-- Every call goes on with the history, also the one that takes the record. -/
theorem history_perform (session : HeadlessSession) (call : HeadlessCall) :
    (session.perform call).history = session.history ++ call.issued session.backend := by
  by_cases takes : call = .takeCommands
  · subst takes
    simp [history, perform, HeadlessCall.perform, HeadlessCall.issued, HeadlessBackend.takeCommands]
  · have same : (session.perform call).taken = session.taken := by
      cases call <;> first | rfl | exact absurd rfl takes
    rw [history, history, same, List.append_assoc, ← commands_perform session.backend takes]
    rfl

theorem history_performAll (session : HeadlessSession) (calls : List HeadlessCall) :
    (session.performAll calls).history = session.history ++ session.issuedAlong calls := by
  induction calls generalizing session with
  | nil => exact (List.append_nil _).symm
  | cons call rest ih =>
      rw [issuedAlong, ← List.append_assoc, ← history_perform]
      exact ih (session.perform call)

/-- The history of a session tells the state of its renderer. -/
def Told (start : HeadlessBackend) (session : HeadlessSession) : Prop :=
  start.TellsAfter session.taken.flatten session.backend

theorem Told.perform (told : session.Told start) (call : HeadlessCall) :
    (session.perform call).Told start := by
  have preserves := HeadlessBackend.preserves_tells start session.taken.flatten
  cases call with
  | takeCommands =>
      have whole : (session.perform .takeCommands).taken.flatten =
          session.taken.flatten ++ session.backend.commands.toList := by
        simp [HeadlessSession.perform, HeadlessBackend.takeCommands]
      rw [Told, whole, HeadlessBackend.TellsAfter]
      show start.Tells (_ ++ []) _
      rw [List.append_nil]
      exact ⟨told.clearColor, told.framebuffers, told.clears, told.allocations⟩
  | resize | failAllocationOf =>
      exact ⟨told.clearColor, told.framebuffers, told.clears, told.allocations⟩
  | draw label => exact told.follow (.draw label) trivial
  | bindScreen => exact preserves.bindScreen _ told
  | bindFramebuffer framebuffer => exact preserves.bindFramebuffer framebuffer _ told
  | setViewport viewport => exact preserves.setViewport viewport _ told
  | coverTarget => exact preserves.coverTarget _ told
  | setClearColor color => exact preserves.setClearColor color _ told
  | clearColor => exact preserves.clearColor _ told
  | clearDepth => exact preserves.clearDepth _ told
  | setOverride program => exact preserves.setOverride program _ told
  | ensureFramebuffer descriptor => exact preserves.ensureFramebuffer descriptor _ told
  | renderFramebuffer framebuffer viewport =>
      exact preserves.renderFramebuffer framebuffer viewport _ told
  | submit source => exact preserves.submit source _ told
  | frame graph options => exact CompiledGraph.preserves_run preserves graph options told

theorem Told.performAll (told : session.Told start) (calls : List HeadlessCall) :
    (session.performAll calls).Told start := by
  induction calls generalizing session with
  | nil => exact told
  | cons call rest ih => exact ih (told.perform call)

/-- The record determines the state.  Take any sequence of calls on a new renderer, with failing
allocations, changes of size, whole frames, and the record taken at any points.  The records taken and
the one that is left are together, in order, what the calls are to record.  Played from the start they
lead to the clear color and the framebuffers that the renderer has, which stand in the order of their
first allocation.  Every color clear in them shows the color set last before it, or black, and no
allocation repeats what was last allocated under its name. -/
theorem log_determines_state (size : Extent) (calls : List HeadlessCall) :
    ((new size).performAll calls).history = (new size).issuedAlong calls ∧
      (({ size } : HeadlessBackend).play ((new size).performAll calls).history).clearColor =
        ((new size).performAll calls).backend.clearColor ∧
      (({ size } : HeadlessBackend).play ((new size).performAll calls).history).framebuffers =
        ((new size).performAll calls).backend.framebuffers ∧
      ((new size).performAll calls).backend.framebuffers.keys =
        ((((new size).performAll calls).history.filterMap Command.allocated?).map
          FramebufferDescriptor.name).eraseDups ∧
      (∀ before color, before ++ [.clearColor color] <+: ((new size).performAll calls).history →
        color = (lastColor? before).getD .black) ∧
      ∀ before descriptor,
        before ++ [.allocate descriptor] <+: ((new size).performAll calls).history →
        lastAllocated? before descriptor.name ≠ some descriptor := by
  have began : (new size).Told { size } := HeadlessBackend.Tells.nil _
  have told := began.performAll calls
  refine ⟨history_performAll (new size) calls, told.clearColor, told.framebuffers, ?_, ?_, ?_⟩
  · rw [← told.framebuffers]
    exact HeadlessBackend.keys_play rfl _
  · intro before color begins
    rw [told.clears before color begins, HeadlessBackend.clearColor_play_eq]
  · intro before descriptor begins
    have fresh := told.allocations before descriptor begins
    rw [HeadlessBackend.framebuffer_play_eq] at fresh
    exact fun last => fresh (by rw [last]; rfl)

/-- A color clear shows the color in force also when the record was taken after the color was set. -/
example :
    ((new ⟨640, 480⟩).performAll
      [.setClearColor ⟨.one, .zero, .zero, .one⟩, .takeCommands, .clearColor]).history =
        [.setClearColor ⟨.one, .zero, .zero, .one⟩, .clearColor ⟨.one, .zero, .zero, .one⟩] := by
  decide

end HeadlessSession

end ShaderFlow

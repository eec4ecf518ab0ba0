/-
Module: ShaderFlow.Headless.Backend
Purpose: A renderer that records what it is told instead of drawing.
Main exports: HeadlessProgram, SourceStep, HeadlessSource, HeadlessError, Command, HeadlessBackend
-/
import ShaderFlow.Data.OrderedMap
import ShaderFlow.Render.Renderer

namespace ShaderFlow

/-- A program that only remembers its label and its texture wiring. -/
structure HeadlessProgram where
  label : String
  /-- Texture slots and the framebuffers wired into them. -/
  inputs : OrderedMap String String := .empty
deriving DecidableEq, Repr, Inhabited

/-- A step of draw work. -/
inductive SourceStep where
  /-- One draw under a label. -/
  | draw (label : String)
  /-- A failure, which ends the work. -/
  | fail (label : String)
  /-- A change of the clear color. -/
  | setClearColor (color : Color)
deriving DecidableEq, Repr, Inhabited

/-- Draw work that can be recorded: any number of steps, taken in order until one fails. -/
structure HeadlessSource where
  steps : List SourceStep
deriving DecidableEq, Repr, Inhabited

namespace HeadlessSource

/-- Work of one draw. -/
def draw (label : String) : HeadlessSource := ⟨[.draw label]⟩

/-- Work that fails without drawing. -/
def fail (label : String) : HeadlessSource := ⟨[.fail label]⟩

/-- Work that only changes the clear color. -/
def setClearColor (color : Color) : HeadlessSource := ⟨[.setClearColor color]⟩

end HeadlessSource

/-- What can go wrong in the recording renderer. -/
inductive HeadlessError where
  | allocation (framebuffer : String)
  | source (label : String)
deriving DecidableEq, Repr, Inhabited

namespace HeadlessError

/-- Title of the kind of error. -/
def kind : HeadlessError → String
  | allocation _ => "Allocation"
  | source _ => "Source"

/-- Message of an error. -/
def message : HeadlessError → String
  | allocation framebuffer => s!"framebuffer '{framebuffer}' could not be allocated"
  | source label => s!"render source '{label}' failed"

end HeadlessError

/-- A recorded call. -/
inductive Command where
  /-- A framebuffer was created or changed. -/
  | allocate (descriptor : FramebufferDescriptor)
  | bindScreen
  | bindFramebuffer (name : String)
  | setViewport (viewport : Viewport)
  | coverTarget
  | setClearColor (color : Color)
  /-- A color clear, with the color in force. -/
  | clearColor (color : Color)
  | clearDepth
  /-- A program, with its wiring at that moment, was installed, or the override was removed. -/
  | setOverride (program : Option HeadlessProgram)
  | draw (label : String)
  | renderFramebuffer (name : String) (viewport : Viewport)
deriving DecidableEq, Repr, Inhabited

/-- The recording renderer. -/
structure HeadlessBackend where
  size : Extent
  clearColor : Color := .black
  framebuffers : OrderedMap String FramebufferDescriptor := .empty
  /-- Names whose allocation fails. -/
  failing : List String := []
  commands : Array Command := #[]
deriving DecidableEq, Repr, Inhabited

namespace HeadlessBackend

/-- Append a command to the record. -/
def record (backend : HeadlessBackend) (command : Command) : HeadlessBackend :=
  { backend with commands := backend.commands.push command }

/-- Change the size of the surface; framebuffers follow on their next use. -/
def resize (backend : HeadlessBackend) (size : Extent) : HeadlessBackend := { backend with size }

/-- Let every allocation of a framebuffer fail from now on. -/
def failAllocationOf (backend : HeadlessBackend) (name : String) : HeadlessBackend :=
  { backend with failing := name :: backend.failing }

/-- The record so far, and the renderer without it. -/
def takeCommands (backend : HeadlessBackend) : List Command × HeadlessBackend :=
  (backend.commands.toList, { backend with commands := #[] })

/-- Record a draw. -/
def draw (backend : HeadlessBackend) (label : String) : HeadlessBackend :=
  backend.record (.draw label)

/-- Set the color of color clears. -/
def setClearColor (backend : HeadlessBackend) (color : Color) : HeadlessBackend :=
  { backend with clearColor := color }.record (.setClearColor color)

/-- The framebuffer of a descriptor.  Only a descriptor that differs from the last one of its name
is recorded as an allocation. -/
def ensureFramebuffer (descriptor : FramebufferDescriptor) :
    Action HeadlessBackend HeadlessError FramebufferDescriptor := fun backend =>
  if backend.failing.contains descriptor.name then
    (.error (.allocation descriptor.name), backend)
  else if backend.framebuffers.get? descriptor.name = some descriptor then
    (.ok descriptor, backend)
  else
    let allocated :=
      { backend with framebuffers := backend.framebuffers.insert descriptor.name descriptor }
    (.ok descriptor, allocated.record (.allocate descriptor))

/-- Take a step of draw work. -/
def takeStep (step : SourceStep) : Action HeadlessBackend HeadlessError Unit := fun backend =>
  match step with
  | .draw label => (.ok (), backend.draw label)
  | .fail label => (.error (.source label), backend)
  | .setClearColor color => (.ok (), backend.setClearColor color)

/-- Submit draw work. -/
def submit (source : HeadlessSource) : Action HeadlessBackend HeadlessError Unit :=
  Action.each takeStep source.steps

instance : Renderer HeadlessBackend FramebufferDescriptor HeadlessProgram HeadlessSource
    HeadlessError where
  surfaceSize := HeadlessBackend.size
  bindScreen := fun backend => backend.record .bindScreen
  bindFramebuffer := fun framebuffer backend => backend.record (.bindFramebuffer framebuffer.name)
  setViewport := fun viewport backend => backend.record (.setViewport viewport)
  coverTarget := fun backend => backend.record .coverTarget
  clearColorValue := HeadlessBackend.clearColor
  setClearColor := fun color backend => backend.setClearColor color
  clearColor := fun backend => (.ok (), backend.record (.clearColor backend.clearColor))
  clearDepth := fun backend => (.ok (), backend.record .clearDepth)
  setOverride := fun program backend => backend.record (.setOverride program)
  ensureFramebuffer := ensureFramebuffer
  framebuffer? := fun name backend => backend.framebuffers.get? name
  renderFramebuffer := fun framebuffer viewport backend =>
    (.ok (), backend.record (.renderFramebuffer framebuffer.name viewport))
  wire := fun slot framebuffer program =>
    { program with inputs := program.inputs.insert slot framebuffer }
  submit := submit

end HeadlessBackend

end ShaderFlow

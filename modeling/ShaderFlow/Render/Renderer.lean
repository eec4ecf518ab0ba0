/-
Module: ShaderFlow.Render.Renderer
Purpose: What the frame graph needs from whatever issues the rendering work.
Main exports: Action, Renderer
-/
import ShaderFlow.Render.Target

namespace ShaderFlow

/-- A step that may fail.  What it did to the state before failing stays done. -/
abbrev Action (σ ε α : Type) := ExceptT ε (StateM σ) α

namespace Action

variable {σ ε α β : Type}

/-- A sequence goes on with the value and the state of its first step, and ends with it if that
fails. -/
theorem bind_apply (first : Action σ ε α) (next : α → Action σ ε β) (state : σ) :
    (first >>= next : Action σ ε β) state =
      match first state with
      | (.ok value, state) => next value state
      | (.error error, state) => (.error error, state) := by
  show ((first >>= next : Action σ ε β) state : Id (Except ε β × σ)) = _
  simp only [bind, ExceptT.bind, ExceptT.mk, StateT.bind]
  cases h : first state with
  | mk result state' => cases result <;> rfl

/-- Run a list of steps until one fails. -/
def each {ι : Type} (step : ι → Action σ ε Unit) : List ι → Action σ ε Unit
  | [] => fun state => (.ok (), state)
  | item :: rest => fun state =>
      match step item state with
      | (.ok (), state) => each step rest state
      | (.error error, state) => (.error error, state)

variable {ι κ : Type}

theorem each_cons (step : ι → Action σ ε Unit) (item : ι) (rest : List ι) :
    each step (item :: rest) = step item >>= fun _ => each step rest := by
  funext state
  rw [bind_apply, each]
  dsimp only
  cases step item state with
  | mk outcome later => cases outcome <;> rfl

theorem each_append (step : ι → Action σ ε Unit) (items later : List ι) (state : σ) :
    each step (items ++ later) state =
      match each step items state with
      | (.ok (), state) => each step later state
      | (.error error, state) => (.error error, state) := by
  induction items generalizing state with
  | nil => rfl
  | cons item rest ih =>
      simp only [List.cons_append, each]
      split
      · exact ih _
      · rfl

theorem each_map (step : ι → Action σ ε Unit) (form : κ → ι) (items : List κ) :
    each step (items.map form) = each (fun item => step (form item)) items := by
  induction items with
  | nil => rfl
  | cons item rest ih => rw [List.map_cons, each_cons, each_cons, ih]

/-- Steps that are lists of steps can be taken as one list. -/
theorem each_flatMap (step : ι → Action σ ε Unit) (parts : κ → List ι) (items : List κ) :
    each (fun item => each step (parts item)) items = each step (items.flatMap parts) := by
  induction items with
  | nil => rfl
  | cons item rest ih =>
      funext state
      rw [List.flatMap_cons, each_append, ← ih]
      rfl

end Action

/-- A renderer with states `σ`, framebuffer handles `φ`, shading programs `π`, draw work `ς` and
errors `ε`.  Framebuffers and programs are opaque to the frame graph: it only hands them back. -/
class Renderer (σ : Type) (φ π ς ε : outParam Type) where
  /-- Size of the display surface. -/
  surfaceSize : σ → Extent
  /-- Bind the display surface. -/
  bindScreen : σ → σ
  /-- Bind a framebuffer. -/
  bindFramebuffer : φ → σ → σ
  /-- Restrict drawing to a rectangle. -/
  setViewport : Viewport → σ → σ
  /-- Let drawing cover the whole target. -/
  coverTarget : σ → σ
  /-- The color of the next color clear. -/
  clearColorValue : σ → Color
  /-- Set the color of color clears. -/
  setClearColor : Color → σ → σ
  /-- Clear the color of the bound target. -/
  clearColor : Action σ ε Unit
  /-- Clear the depth of the bound target. -/
  clearDepth : Action σ ε Unit
  /-- Install a program for the draws that follow, or restore the normal materials. -/
  setOverride : Option π → σ → σ
  /-- The framebuffer of a descriptor, allocated or resized if need be. -/
  ensureFramebuffer : FramebufferDescriptor → Action σ ε φ
  /-- The framebuffer of a given name. -/
  framebuffer? : String → σ → Option φ
  /-- Show the color of a framebuffer in a rectangle of the display surface. -/
  renderFramebuffer : φ → Viewport → Action σ ε Unit
  /-- Wire a framebuffer, by name, into a texture slot of a program. -/
  wire : (slot framebuffer : String) → π → π
  /-- Submit one piece of draw work. -/
  submit : ς → Action σ ε Unit

end ShaderFlow

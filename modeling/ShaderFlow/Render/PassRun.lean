/-
Module: ShaderFlow.Render.PassRun
Purpose: Execution of one pass on a renderer.
Main exports: PassRun, Pass.run, Pass.clearAndDraw, Pass.drawOverridden
-/
import ShaderFlow.Render.Pass
import ShaderFlow.Render.Renderer

namespace ShaderFlow

/-!
A pass binds its target, installs its program, clears, draws, and then restores what it changed: the
override is removed and the clear color is as before, also if drawing failed.  In the debug view an
offscreen pass ends by showing its output and everything it read.
-/

/-- What remains of the execution of a pass. -/
structure PassRun (σ π ς ε : Type) where
  result : Except (RenderError ε) Unit
  state : σ
  /-- The pass with the wiring that its program now has. -/
  pass : Pass π ς
  warnings : List RenderWarning := []

namespace Pass

variable {σ φ π ς ε : Type} [Renderer σ φ π ς ε]

/-- Bind the target of a pass.  The screen takes its debug cell in the debug view and is covered
otherwise; a framebuffer is allocated first, if need be, and covered. -/
def bindTarget (target : RenderTarget) (debugView : Bool) : Action σ ε Unit := fun state =>
  if target.isScreen then
    let bound := Renderer.bindScreen state
    match target.debugViewport, debugView with
    | some cell, true => (.ok (), Renderer.setViewport cell bound)
    | _, _ => (.ok (), Renderer.coverTarget bound)
  else
    let descriptor := target.descriptor (Renderer.surfaceSize state)
    match Renderer.ensureFramebuffer descriptor state with
    | (.error error, state) => (.error error, state)
    | (.ok framebuffer, state) =>
        (.ok (), Renderer.setViewport (.full descriptor.size)
          (Renderer.bindFramebuffer framebuffer state))

/-- The pass with every dependency wired into its program. -/
def wired (pass : Pass π ς) : Pass π ς :=
  let wireAll := fun program =>
    pass.dependencies.entries.foldl
      (fun program entry => Renderer.wire σ entry.1 entry.2 program) program
  { pass with override := pass.override.map wireAll }

/-- Clear the color, if the pass does. -/
def clearTargetColor (pass : Pass π ς) : Action σ ε Unit := fun state =>
  if pass.clearsColor then Renderer.clearColor (Renderer.setClearColor pass.clearColor state)
  else (.ok (), state)

/-- Clear the depth, if the pass does and its target has any. -/
def clearTargetDepth (pass : Pass π ς) (target : RenderTarget) : Action σ ε Unit := fun state =>
  if pass.clearsDepth && (target.depth || target.isScreen) then Renderer.clearDepth state
  else (.ok (), state)

/-- Clear as the pass asks for and submit its draw work until something fails. -/
def clearAndDraw (pass : Pass π ς) (target : RenderTarget) : Action σ ε Unit := do
  pass.clearTargetColor
  pass.clearTargetDepth target
  Action.each Renderer.submit pass.sources

/-- Draw with the program of the pass installed, then restore override and clear color. -/
def drawOverridden (pass : Pass π ς) (target : RenderTarget) : Action σ ε Unit := fun state =>
  let installed :=
    match pass.override with
    | some program => Renderer.setOverride (some program) state
    | none => state
  let saved := Renderer.clearColorValue installed
  let (result, drawn) := pass.clearAndDraw target installed
  let removed := if pass.override.isSome then Renderer.setOverride none drawn else drawn
  (result, Renderer.setClearColor saved removed)

/-- Show a target in its cell; without cell or framebuffer there is only a warning. -/
def showTarget (targets : OrderedMap String RenderTarget) (name : String) (state : σ) :
    Except ε Unit × List RenderWarning × σ :=
  match (targets.get? name).bind RenderTarget.debugViewport,
      (Renderer.framebuffer? name state : Option φ) with
  | some cell, some framebuffer =>
      let (result, state) := Renderer.renderFramebuffer framebuffer cell state
      (result, [], state)
  | _, _ => (.ok (), [.skippedCell name], state)

/-- Show targets in turn until one fails. -/
def showTargets (targets : OrderedMap String RenderTarget) :
    List String → σ → Except ε Unit × List RenderWarning × σ
  | [], state => (.ok (), [], state)
  | name :: rest, state =>
      match showTarget targets name state with
      | (.error error, warnings, state) => (.error error, warnings, state)
      | (.ok (), warnings, state) =>
          let (result, later, state) := showTargets targets rest state
          (result, warnings ++ later, state)

/-- An error of the renderer as an error of the frame. -/
def wrap (result : Except ε Unit) : Except (RenderError ε) Unit :=
  match result with
  | .ok () => .ok ()
  | .error error => .error (.backend error)

/-- Run a pass that passed its checks on the target it outputs to. -/
def runOn (pass : Pass π ς) (target : RenderTarget) (targets : OrderedMap String RenderTarget)
    (debugView : Bool) (state : σ) : PassRun σ π ς ε :=
  match bindTarget target debugView state with
  | (.error error, state) => { result := .error (.backend error), state, pass }
  | (.ok (), state) =>
      let pass := pass.wired (σ := σ)
      match pass.drawOverridden target state with
      | (.error error, state) => { result := .error (.backend error), state, pass }
      | (.ok (), state) =>
          if debugView && !target.isScreen then
            let (result, warnings, state) :=
              showTargets targets (target.name :: pass.dependencies.values) state
            { result := wrap result, state, pass, warnings }
          else { result := .ok (), state, pass }

/-- Run a pass.  A missing target and a fault of the pass are reported before the renderer is
touched. -/
def run (pass : Pass π ς) (targets : OrderedMap String RenderTarget) (debugView : Bool)
    (state : σ) : PassRun σ π ς ε :=
  match targets.get? pass.output with
  | none => { result := .error (.unknownTarget pass.name pass.output), state, pass }
  | some target =>
      match pass.validate with
      | .error error => { result := .error error, state, pass }
      | .ok () => pass.runOn target targets debugView state

end Pass

end ShaderFlow

/-
Module: ShaderFlow.Proofs.Render.Preservation
Purpose: Properties of a renderer that hold through every frame, whether it succeeds or not.
Main exports: Renderer.Preserves, CompiledGraph.preserves_run
-/
import ShaderFlow.Render.FrameRun

namespace ShaderFlow

/-!
A frame graph touches a renderer through the operations of its interface only.  So a property that none
of them breaks is there after a frame if it was there before, wherever the frame fails.
-/

variable {σ φ π ς ε : Type} [Renderer σ φ π ς ε]

/-- No operation of the renderer breaks the property. -/
structure Renderer.Preserves (holds : σ → Prop) : Prop where
  bindScreen : ∀ state, holds state → holds (Renderer.bindScreen state)
  bindFramebuffer : ∀ framebuffer state, holds state →
    holds (Renderer.bindFramebuffer framebuffer state)
  setViewport : ∀ viewport state, holds state → holds (Renderer.setViewport viewport state)
  coverTarget : ∀ state, holds state → holds (Renderer.coverTarget state)
  setClearColor : ∀ color state, holds state → holds (Renderer.setClearColor color state)
  clearColor : ∀ state, holds state → holds (Renderer.clearColor (σ := σ) state).2
  clearDepth : ∀ state, holds state → holds (Renderer.clearDepth (σ := σ) state).2
  setOverride : ∀ program state, holds state → holds (Renderer.setOverride program state)
  ensureFramebuffer : ∀ descriptor state, holds state →
    holds (Renderer.ensureFramebuffer (σ := σ) descriptor state).2
  renderFramebuffer : ∀ framebuffer viewport state, holds state →
    holds (Renderer.renderFramebuffer (σ := σ) framebuffer viewport state).2
  submit : ∀ source state, holds state → holds (Renderer.submit (σ := σ) source state).2

namespace Renderer.Preserves

variable {holds : σ → Prop} {state : σ}

theorem bindTarget (preserves : Preserves holds) (before : holds state) (target : RenderTarget)
    (debugView : Bool) : holds (Pass.bindTarget target debugView state).2 := by
  unfold Pass.bindTarget
  split
  · have bound := preserves.bindScreen state before
    dsimp only
    split
    · exact preserves.setViewport _ _ bound
    · exact preserves.coverTarget _ bound
  · have ensured := preserves.ensureFramebuffer (target.descriptor (Renderer.surfaceSize state)) _ before
    dsimp only
    split
    · next failed =>
        rw [failed] at ensured
        exact ensured
    · next found =>
        rw [found] at ensured
        exact preserves.setViewport _ _ (preserves.bindFramebuffer _ _ ensured)

theorem each {ι : Type} {step : ι → Action σ ε Unit}
    (kept : ∀ item state, holds state → holds (step item state).2) (before : holds state)
    (items : List ι) : holds (Action.each step items state).2 := by
  induction items generalizing state with
  | nil => exact before
  | cons item rest ih =>
      have here := kept item state before
      unfold Action.each
      split
      · next ran =>
          rw [ran] at here
          exact ih here
      · next failed =>
          rw [failed] at here
          exact here

theorem bind {α : Type} {first : Action σ ε Unit} {next : Unit → Action σ ε α}
    (here : holds (first state).2) (kept : ∀ state, holds state → holds (next () state).2) :
    holds ((first >>= next) state).2 := by
  rw [Action.bind_apply]
  split
  · next ran =>
      rw [ran] at here
      exact kept _ here
  · next failed =>
      rw [failed] at here
      exact here

theorem clearAndDraw (preserves : Preserves holds) (before : holds state) (pass : Pass π ς)
    (target : RenderTarget) : holds (pass.clearAndDraw target state).2 := by
  refine bind ?_ fun cleared clearedHolds => bind ?_ fun state after =>
    each preserves.submit after pass.sources
  · unfold Pass.clearTargetColor
    split
    · exact preserves.clearColor _ (preserves.setClearColor _ _ before)
    · exact before
  · unfold Pass.clearTargetDepth
    split
    · exact preserves.clearDepth _ clearedHolds
    · exact clearedHolds

theorem drawOverridden (preserves : Preserves holds) (before : holds state) (pass : Pass π ς)
    (target : RenderTarget) : holds (pass.drawOverridden target state).2 := by
  unfold Pass.drawOverridden
  cases pass.override with
  | none => exact preserves.setClearColor _ _ (preserves.clearAndDraw before pass target)
  | some program =>
      have drawn := preserves.clearAndDraw (preserves.setOverride (some program) _ before) pass target
      exact preserves.setClearColor _ _ (preserves.setOverride none _ drawn)

theorem showTargets (preserves : Preserves holds) (before : holds state)
    (targets : OrderedMap String RenderTarget) (names : List String) :
    holds (Pass.showTargets (σ := σ) targets names state).2.2 := by
  induction names generalizing state with
  | nil => exact before
  | cons name rest ih =>
      have here : holds (Pass.showTarget (σ := σ) targets name state).2.2 := by
        unfold Pass.showTarget
        split
        · exact preserves.renderFramebuffer _ _ _ before
        · exact before
      unfold Pass.showTargets
      split
      · next failed =>
          rw [failed] at here
          exact here
      · next ran =>
          rw [ran] at here
          exact ih here

theorem run (preserves : Preserves holds) (before : holds state) (pass : Pass π ς)
    (targets : OrderedMap String RenderTarget) (debugView : Bool) :
    holds (pass.run targets debugView state).state := by
  unfold Pass.run
  split
  · exact before
  split
  · exact before
  next target _ _ _ =>
  have bound := preserves.bindTarget before target debugView
  unfold Pass.runOn
  split
  · next failed =>
      rw [failed] at bound
      exact bound
  next ran =>
  rw [ran] at bound
  have drawn := preserves.drawOverridden bound (pass.wired (σ := σ)) target
  dsimp only
  split
  · next failed =>
      rw [failed] at drawn
      exact drawn
  next work =>
  rw [work] at drawn
  split
  · exact preserves.showTargets drawn targets _
  · exact drawn

end Renderer.Preserves

/-- A property that no operation breaks is there after a frame. -/
theorem CompiledGraph.preserves_run {holds : σ → Prop} (preserves : Renderer.Preserves holds)
    (graph : CompiledGraph π ς) (options : FrameOptions) {state : σ} (before : holds state) :
    holds (graph.run options state).state := by
  have passes : ∀ (targets : OrderedMap String RenderTarget) (passes : List (Pass π ς)) (state : σ),
      holds state → holds (runPasses targets options.debugView passes state).2.2.2 := by
    intro targets passes
    induction passes with
    | nil => exact fun _ before => before
    | cons pass rest ih =>
        intro state before
        have here := preserves.run before pass targets options.debugView
        unfold runPasses
        dsimp only
        split
        · exact here
        · exact ih _ here
  exact passes _ graph.passes state before

end ShaderFlow

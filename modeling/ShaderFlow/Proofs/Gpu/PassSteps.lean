/-
Module: ShaderFlow.Proofs.Gpu.PassSteps
Purpose: The steps of one pass on the GPU renderer: wiring, binding of the target, overlay.
Main exports: Pass.Drawable, Pass.DeclaresTextures, Pass.Drawable.exists_textureBindings,
  GpuBackend.Aims, GpuBackend.bindTarget_cases, GpuBackend.exists_bindTarget, Pass.blits,
  Pass.run_of_drawn
-/
import ShaderFlow.Proofs.Gpu.DrawWork
import ShaderFlow.Proofs.Outcome
import ShaderFlow.Proofs.Render.FrameAuthoring

namespace ShaderFlow

/-!
A pass succeeds on the GPU if its target fits the device and its program finds what it samples.  Binding
the target may create its framebuffer and touches no other one; the overlay only leaves rectangles for
the end of the frame.
-/

/-! ### Programs and their wiring -/

/-- A pass that can be drawn: its program samples only textures that it declares to read, its draw work
does not fail of its own accord, and there is a program if something without material is submitted. -/
structure Pass.Drawable (pass : Pass GpuProgram GpuSource) : Prop where
  declared : ∀ program, pass.override = some program →
    ∀ texture ∈ program.descriptor.textures, texture.name ∈ pass.dependencies.keys
  unfailing : ∀ error, .fail error ∉ pass.work
  covered : ∀ submission ∈ pass.submissions, submission.bare = true → pass.override ≠ none

namespace Pass

variable {naming : ProgramNaming} {pass : Pass GpuProgram GpuSource}

theorem recorded_foldl_wire (entries : List (String × String)) (program : GpuProgram) :
    (entries.foldl (fun program entry => Renderer.wire GpuBackend entry.1 entry.2 program)
        program).recorded naming =
      entries.foldl (fun program entry => Renderer.wire HeadlessBackend entry.1 entry.2 program)
        (program.recorded naming) := by
  induction entries generalizing program with
  | nil => rfl
  | cons entry rest ih => exact ih _

theorem resources_foldl_wire (entries : List (String × String)) (program : GpuProgram) :
    (entries.foldl (fun program entry => Renderer.wire GpuBackend entry.1 entry.2 program)
      program).resources = program.resources := by
  induction entries generalizing program with
  | nil => rfl
  | cons entry rest ih => exact ih _

/-- Both renderers wire the same inputs into the same program. -/
theorem override_wired_recorded (pass : Pass GpuProgram GpuSource) :
    (pass.wired (σ := GpuBackend)).override.map (GpuProgram.recorded naming) =
      ((pass.recorded naming).wired (σ := HeadlessBackend)).override := by
  unfold wired recorded
  cases pass.override with
  | none => rfl
  | some program => exact congrArg some (recorded_foldl_wire _ program)

/-- The program that a pass installs is its own, with the inputs that the pass declares and otherwise
those that it had. -/
theorem wired_program {program : GpuProgram}
    (installed : (pass.wired (σ := GpuBackend)).override = some program) :
    ∃ own, pass.override = some own ∧ program.resources = own.resources ∧
      ∀ slot, program.textureInputs.get? slot =
        (pass.dependencies.get? slot).or (own.textureInputs.get? slot) := by
  obtain ⟨own, override, rfl⟩ := Option.map_eq_some_iff.mp installed
  -- What is wired does not depend on the labels of programs, so any labels will do here.
  let naming : ProgramNaming := fun _ _ => ""
  have remembered : (pass.recorded naming).override = some (own.recorded naming) :=
    congrArg (Option.map (GpuProgram.recorded naming)) override
  obtain ⟨slotted, wired, _, inputs⟩ := Pass.wired_override remembered
  rw [← override_wired_recorded, installed] at wired
  refine ⟨own, override, resources_foldl_wire pass.dependencies.entries own, fun slot => ?_⟩
  have read := inputs slot
  rw [← Option.some.inj wired] at read
  exact read

end Pass

/-- The pass reads a target through each texture slot of its program, if it has one. -/
def Pass.DeclaresTextures (pass : Pass GpuProgram GpuSource) : Prop :=
  ∀ program, pass.override = some program →
    ∀ texture ∈ program.descriptor.textures, texture.name ∈ pass.dependencies.keys

/-- Whatever the program of a pass had wired, it is given the targets that the pass reads. -/
theorem Pass.DeclaresTextures.exists_input {pass : Pass GpuProgram GpuSource}
    (declares : pass.DeclaresTextures) {program : GpuProgram}
    (installed : (pass.wired (σ := GpuBackend)).override = some program) {texture : TextureSlot}
    (sampled : texture ∈ program.descriptor.textures) :
    ∃ name ∈ pass.dependencies.values, pass.dependencies.get? texture.name = some name ∧
      program.textureInputs.get? texture.name = some name := by
  obtain ⟨own, override, resources, inputs⟩ := wired_program installed
  rw [GpuProgram.descriptor, resources] at sampled
  obtain ⟨name, found⟩ := Option.isSome_iff_exists.mp
    (OrderedMap.contains_iff.mpr (declares own override texture sampled))
  refine ⟨name, List.mem_map.mpr ⟨_, OrderedMap.get?_eq_some_iff.mp found, rfl⟩, found, ?_⟩
  rw [inputs, found]
  rfl

theorem GpuProgram.wiredFramebuffer_of_held {program : GpuProgram}
    {framebuffers : OrderedMap String GpuFramebuffer} {texture : TextureSlot} {name : String}
    {held : GpuFramebuffer} (wired : program.textureInputs.get? texture.name = some name)
    (found : framebuffers.get? name = some held) :
    program.wiredFramebuffer framebuffers texture = .ok held := by
  unfold wiredFramebuffer
  rw [wired]
  dsimp only
  rw [found]

/-- The textures of a program can be bound if a framebuffer is wired into each of them. -/
theorem GpuProgram.exists_textureBindings {program : GpuProgram}
    {framebuffers : OrderedMap String GpuFramebuffer}
    (held : ∀ texture ∈ program.descriptor.textures, ∃ name framebuffer,
      program.textureInputs.get? texture.name = some name ∧
        framebuffers.get? name = some framebuffer) :
    ∃ bindings, program.textureBindings framebuffers = .ok bindings := by
  unfold textureBindings
  have each : ∀ texture ∈ program.descriptor.textures, ∃ entries, (do
      let framebuffer ← program.wiredFramebuffer framebuffers texture
      return [BindGroupEntry.mk texture.binding (.view framebuffer.colorView),
        BindGroupEntry.mk texture.samplerBinding (.sampler program.resources.sampler)] :
      Except GpuError (List BindGroupEntry)) = .ok entries := by
    intro texture listed
    obtain ⟨name, framebuffer, read, found⟩ := held texture listed
    exact ⟨_, bind_eq_ok_iff.mpr ⟨framebuffer, wiredFramebuffer_of_held read found, rfl⟩⟩
  obtain ⟨bindings, ran⟩ := exists_mapM each
  exact ⟨_, bind_eq_ok_iff.mpr ⟨bindings, ran, rfl⟩⟩

/-- The program that a drawable pass installs can be bound once all that the pass reads is held. -/
theorem Pass.Drawable.exists_textureBindings {pass : Pass GpuProgram GpuSource}
    (drawable : pass.Drawable) {framebuffers : OrderedMap String GpuFramebuffer}
    (held : ∀ name ∈ pass.dependencies.values, ∃ framebuffer,
      framebuffers.get? name = some framebuffer)
    {program : GpuProgram} (installed : (pass.wired (σ := GpuBackend)).override = some program) :
    ∃ bindings, program.textureBindings framebuffers = .ok bindings := by
  have declares : pass.DeclaresTextures := drawable.declared
  refine GpuProgram.exists_textureBindings fun texture sampled => ?_
  obtain ⟨name, listed, _, wired⟩ := declares.exists_input installed sampled
  obtain ⟨framebuffer, there⟩ := held name listed
  exact ⟨name, framebuffer, wired, there⟩

/-! ### The target of a pass -/

/-- The rectangle that draws are restricted to, unless the area is the whole target. -/
def DrawArea.viewport? : DrawArea → Option Viewport
  | .whole => none
  | .rectangle viewport => some viewport

theorem DrawArea.getD_viewport? (area : DrawArea) (size : Extent) :
    area.viewport?.getD (.full size) = area.on size := by
  cases area <;> rfl

namespace GpuBackend

/-- The renderer with a target and an area bound. -/
def aimed (backend : GpuBackend) (device : Device)
    (framebuffers : OrderedMap String GpuFramebuffer) (bound : BoundTarget) (area : DrawArea) :
    GpuBackend :=
  { backend with device, framebuffers, target := bound, viewport := area.viewport? }

/-- The renderer is ready to draw to a target: what is bound stands for the target, the area lies on it,
and it has a depth buffer if it should. -/
structure Aims (next : GpuBackend) (target : RenderTarget) (area : DrawArea) : Prop where
  attached : ∀ frame : GpuFrame,
    next.attachment? frame.view target.bound = some (next.attachment frame)
  fits : (area.on next.targetSize).Fits next.targetSize
  deep : next.targetHasDepth = (target.depth || target.isScreen)

variable {backend : GpuBackend} {target : RenderTarget} {debugView : Bool}

theorem bindTarget_screen (backend : GpuBackend) (screen : target.isScreen = true) :
    Pass.bindTarget target debugView backend = (.ok (), backend.aimed backend.device
      backend.framebuffers .screen (target.drawArea debugView backend.surfaceSize)) := by
  unfold Pass.bindTarget RenderTarget.drawArea
  rw [if_pos screen, if_pos screen]
  cases target.debugViewport <;> cases debugView <;> rfl

theorem aims_screen (screen : target.isScreen = true) (wide : 0 < backend.surfaceSize.width)
    (high : 0 < backend.surfaceSize.height)
    (celled : ∀ cell, target.debugViewport = some cell → cell.Fits backend.surfaceSize)
    {device : Device} {framebuffers : OrderedMap String GpuFramebuffer} :
    Aims (backend.aimed device framebuffers .screen
      (target.drawArea debugView backend.surfaceSize)) target
      (target.drawArea debugView backend.surfaceSize) where
  attached frame := by
    rw [RenderTarget.bound, if_pos screen]
    rfl
  fits := by
    show ((target.drawArea debugView backend.surfaceSize).on backend.surfaceSize).Fits _
    unfold RenderTarget.drawArea
    rw [if_pos screen]
    split
    · exact celled _ ‹_›
    · exact Viewport.fits_full wide high
  deep := by
    rw [screen, Bool.or_true]
    rfl

/-- Both sides of an offscreen target have pixels. -/
theorem fits_resolve (size : TargetSize) (surface : Extent) :
    (Viewport.full (size.resolve surface)).Fits (size.resolve surface) := by
  obtain ⟨wide, high⟩ := size.one_le_resolve surface
  exact Viewport.fits_full (UInt32.lt_of_lt_of_le (by decide) wide)
    (UInt32.lt_of_lt_of_le (by decide) high)

theorem drawArea_offscreen (offscreen : target.isScreen = false) (surface : Extent) :
    target.drawArea debugView surface = .rectangle (.full (target.size.resolve surface)) :=
  if_neg (by simp [offscreen])

theorem aims_framebuffer (offscreen : target.isScreen = false) {framebuffer : GpuFramebuffer}
    (alike : framebuffer.descriptor = target.descriptor backend.surfaceSize)
    (sound : framebuffer.Sound) {device : Device} {framebuffers : OrderedMap String GpuFramebuffer}
    (held : framebuffers.get? target.name = some framebuffer) :
    Aims (backend.aimed device framebuffers (.framebuffer framebuffer)
      (target.drawArea debugView backend.surfaceSize)) target
      (target.drawArea debugView backend.surfaceSize) where
  attached frame := by
    rw [RenderTarget.bound, if_neg (by simp [offscreen])]
    exact congrArg (Option.map _) held
  fits := by
    rw [drawArea_offscreen offscreen]
    show (Viewport.full (target.size.resolve backend.surfaceSize)).Fits framebuffer.descriptor.size
    rw [alike]
    exact fits_resolve target.size backend.surfaceSize
  deep := by
    show framebuffer.depth.isSome = _
    rw [sound, alike, offscreen, Bool.or_false]
    rfl

theorem bindTarget_offscreen (offscreen : target.isScreen = false) {framebuffer : GpuFramebuffer}
    {framebuffers : OrderedMap String GpuFramebuffer} {device : Device}
    (ran : ensureFramebuffer (target.descriptor backend.surfaceSize) backend =
      (.ok framebuffer, { backend with device, framebuffers })) :
    Pass.bindTarget target debugView backend = (.ok (), backend.aimed device framebuffers
      (.framebuffer framebuffer) (target.drawArea debugView backend.surfaceSize)) := by
  have allocation : Renderer.ensureFramebuffer
      (target.descriptor (Renderer.surfaceSize backend)) backend = _ := ran
  unfold Pass.bindTarget
  rw [if_neg (by simp [offscreen])]
  dsimp only
  rw [allocation, drawArea_offscreen offscreen]
  rfl

/-- The binding of a target fails if its framebuffer would be too large, and leaves no trace then.
Otherwise the target is bound.  The framebuffer of an offscreen target suits the surface, and all others
are kept. -/
theorem bindTarget_cases (target : RenderTarget) (debugView : Bool) (backend : GpuBackend) :
    (target.isScreen = false ∧
      (backend.limit < (target.size.resolve backend.surfaceSize).width.toNat ∨
        backend.limit < (target.size.resolve backend.surfaceSize).height.toNat) ∧
      Pass.bindTarget target debugView backend =
        (.error (.framebufferTooLarge target.name (target.size.resolve backend.surfaceSize)
          backend.limit), backend)) ∨
    ∃ device framebuffers bound,
      let next := backend.aimed device framebuffers bound
        (target.drawArea debugView backend.surfaceSize)
      Pass.bindTarget target debugView backend = (.ok (), next) ∧ Records backend next [] 0 ∧
        (target.isScreen = true → bound = .screen) ∧
        (target.isScreen = false → ∃ framebuffer, bound = .framebuffer framebuffer ∧
          framebuffers.get? target.name = some framebuffer ∧
          framebuffer.descriptor = target.descriptor backend.surfaceSize) ∧
        ∀ name, (target.isScreen = false → name ≠ target.name) →
          framebuffers.get? name = backend.framebuffers.get? name := by
  cases screen : target.isScreen with
  | true =>
      exact .inr ⟨_, _, _, bindTarget_screen backend screen, .quiet rfl (.refl _) (by simp),
        fun _ => rfl, nofun, fun _ _ => rfl⟩
  | false =>
      have silent := GpuAction.silent_ensureFramebuffer (target.descriptor backend.surfaceSize) backend
      rcases backend.ensureFramebuffer_cases (target.descriptor backend.surfaceSize) with
        ⟨framebuffer, held, alike, ran⟩ | ⟨large, ran⟩ | ran
      · exact .inr ⟨_, _, _, bindTarget_offscreen screen ran, .quiet rfl (.refl _) (by simp), nofun,
          fun _ => ⟨framebuffer, rfl, held, alike⟩, fun _ _ => rfl⟩
      · have refused : Renderer.ensureFramebuffer
            (target.descriptor (Renderer.surfaceSize backend)) backend = _ := ran
        refine .inl ⟨rfl, large, ?_⟩
        unfold Pass.bindTarget
        rw [if_neg (by simp [screen])]
        dsimp only
        rw [refused]
        rfl
      · rw [ran] at silent
        refine .inr ⟨_, _, _, bindTarget_offscreen screen ran,
          silent.before (.quiet rfl (.refl _) (by simp)), nofun, fun _ => ⟨_, rfl, ?_,
            (GpuFramebuffer.sound_create _ _).1⟩, fun name other => ?_⟩
        · exact (OrderedMap.get?_insert ..).trans (if_pos rfl)
        · exact (OrderedMap.get?_insert ..).trans (if_neg (other rfl).symm)

/-- Binding a target within the limit of the device succeeds.  It creates the framebuffer of the target,
if need be, and keeps all others. -/
theorem exists_bindTarget (debugView : Bool) (furnished : backend.Furnished)
    (wide : 0 < backend.surfaceSize.width) (high : 0 < backend.surfaceSize.height)
    (celled : ∀ cell, target.debugViewport = some cell → cell.Fits backend.surfaceSize)
    (small : target.isScreen = false →
      (target.size.resolve backend.surfaceSize).width.toNat ≤ backend.limit ∧
        (target.size.resolve backend.surfaceSize).height.toNat ≤ backend.limit) :
    ∃ device framebuffers bound,
      let next := backend.aimed device framebuffers bound
        (target.drawArea debugView backend.surfaceSize)
      Pass.bindTarget target debugView backend = (.ok (), next) ∧
        Records backend next [] 0 ∧ next.Furnished ∧
        next.Aims target (target.drawArea debugView backend.surfaceSize) ∧
        (target.isScreen = false → ∃ framebuffer, framebuffers.get? target.name = some framebuffer ∧
          framebuffer.descriptor = target.descriptor backend.surfaceSize) ∧
        ∀ name, (target.isScreen = false → name ≠ target.name) →
          framebuffers.get? name = backend.framebuffers.get? name := by
  have kept := preserves_furnished.bindTarget furnished target debugView
  rcases bindTarget_cases target debugView backend with
    ⟨offscreen, large, _⟩ | ⟨device, framebuffers, bound, ran, silent, onScreen, output, others⟩
  · have fits := small offscreen
    omega
  rw [ran] at kept
  refine ⟨device, framebuffers, bound, ran, silent, kept, ?_, fun offscreen => ?_, others⟩
  · cases screen : target.isScreen with
    | true =>
        rw [onScreen screen]
        exact aims_screen screen wide high celled
    | false =>
        obtain ⟨framebuffer, rfl, held, alike⟩ := output screen
        exact aims_framebuffer screen alike (kept _ _ held) held
  · obtain ⟨framebuffer, _, held, alike⟩ := output offscreen
    exact ⟨framebuffer, held, alike⟩

end GpuBackend

/-! ### The overlay of a pass -/

namespace Pass

/-- The framebuffer of a target and its rectangle, if it has both. -/
def blit? (targets : OrderedMap String RenderTarget)
    (framebuffers : OrderedMap String GpuFramebuffer) (name : String) :
    Option (GpuFramebuffer × Viewport) :=
  match (targets.get? name).bind RenderTarget.debugViewport, framebuffers.get? name with
  | some cell, some framebuffer => some (framebuffer, cell)
  | _, _ => none

/-- What a pass leaves for the debug view. -/
def blits (pass : Pass GpuProgram GpuSource) (target : RenderTarget)
    (targets : OrderedMap String RenderTarget) (debugView : Bool)
    (framebuffers : OrderedMap String GpuFramebuffer) : List (GpuFramebuffer × Viewport) :=
  if debugView && !target.isScreen then
    (target.name :: pass.dependencies.values).filterMap (blit? targets framebuffers)
  else []

variable {targets : OrderedMap String RenderTarget} {pass : Pass GpuProgram GpuSource}
  {target : RenderTarget} {debugView : Bool} {backend bound drawn : GpuBackend}

theorem showTarget_pends (targets : OrderedMap String RenderTarget) (name : String)
    (backend : GpuBackend) :
    ∃ warnings, showTarget targets name backend = (.ok (), warnings,
      { backend with
        pendingBlits := backend.pendingBlits ++ (blit? targets backend.framebuffers name).toList }) := by
  have held : Renderer.framebuffer? name backend = backend.framebuffers.get? name := rfl
  have none : backend.pendingBlits ++ [] = backend.pendingBlits := List.append_nil _
  unfold showTarget blit?
  rw [held]
  cases (targets.get? name).bind RenderTarget.debugViewport with
  | none => exact ⟨_, by rw [Option.toList_none, none]⟩
  | some cell =>
      cases backend.framebuffers.get? name with
      | none => exact ⟨_, by rw [Option.toList_none, none]⟩
      | some framebuffer => exact ⟨_, rfl⟩

/-- The overlay only adds rectangles to those that wait for the end of the frame. -/
theorem showTargets_pends (targets : OrderedMap String RenderTarget) (names : List String)
    (backend : GpuBackend) :
    ∃ warnings, showTargets targets names backend = (.ok (), warnings,
      { backend with
        pendingBlits := backend.pendingBlits ++
          names.filterMap (blit? targets backend.framebuffers) }) := by
  induction names generalizing backend with
  | nil => exact ⟨[], by rw [List.filterMap_nil, List.append_nil]; rfl⟩
  | cons name rest ih =>
      obtain ⟨warnings, here⟩ := showTarget_pends targets name backend
      obtain ⟨others, later⟩ := ih { backend with
        pendingBlits := backend.pendingBlits ++ (blit? targets backend.framebuffers name).toList }
      have whole : (name :: rest).filterMap (blit? targets backend.framebuffers) =
          (blit? targets backend.framebuffers name).toList ++
            rest.filterMap (blit? targets backend.framebuffers) := by
        rw [List.filterMap_cons]
        cases blit? targets backend.framebuffers name <;> rfl
      unfold showTargets
      rw [here, whole, ← List.append_assoc]
      dsimp only
      rw [later]
      exact ⟨_, rfl⟩

/-- A pass whose target is bound and whose draw work is done only adds its overlay. -/
theorem run_of_drawn (found : targets.get? pass.output = some target) (valid : pass.Valid)
    (binds : bindTarget target debugView backend = (.ok (), bound))
    (draws : (pass.wired (σ := GpuBackend)).drawOverridden target bound = (.ok (), drawn)) :
    (pass.run targets debugView backend).result = .ok () ∧
      (pass.run targets debugView backend).state = { drawn with
        pendingBlits := drawn.pendingBlits ++
          pass.blits target targets debugView drawn.framebuffers } := by
  unfold run runOn blits
  rw [found]
  dsimp only
  rw [validate_eq_ok_iff.mpr valid, binds]
  dsimp only
  rw [draws]
  dsimp only
  cases debugView && !target.isScreen with
  | true =>
      obtain ⟨warnings, shown⟩ := showTargets_pends targets
        (target.name :: (pass.wired (σ := GpuBackend)).dependencies.values) drawn
      rw [if_pos rfl, if_pos rfl, shown]
      exact ⟨rfl, rfl⟩
  | false =>
      rw [if_neg Bool.false_ne_true, if_neg Bool.false_ne_true, List.append_nil]
      exact ⟨rfl, rfl⟩

end Pass

end ShaderFlow

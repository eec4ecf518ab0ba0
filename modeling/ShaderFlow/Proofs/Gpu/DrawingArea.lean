/-
Module: ShaderFlow.Proofs.Gpu.DrawingArea
Purpose: What a pass can draw to, and when it keeps to the viewport that its caller has set.
Main exports: Viewport.Meets, Viewport.Within, DrawRequests, GpuSession.requestsAfter, drawingArea,
  GpuSession.DrawsTo, GpuSession.ShowsAll, GpuSession.draws_within_iff
-/
import ShaderFlow.Proofs.Gpu.CommandOrder
import ShaderFlow.Proofs.Gpu.Framebuffers
import ShaderFlow.Proofs.Render.DebugCells

namespace ShaderFlow

/-!
A viewport is cut to its target where it is applied.  If nothing of it remains, a rectangle of the
debug view is left out, but a pass that draws is opened without any viewport, and so it covers the
whole target.  That is the only case in which a pass leaves the viewport of its caller.
-/

/-! ### Rectangles -/

namespace Viewport

/-- Every pixel of a rectangle is one of another rectangle. -/
def Within (inner outer : Viewport) : Prop := ∀ x y, inner.Holds x y → outer.Holds x y

/-- A rectangle has a pixel in common with a target. -/
def Meets (viewport : Viewport) (size : Extent) : Prop :=
  ∃ x y, viewport.Holds x y ∧ (full size).Holds x y

variable {viewport visible : Viewport} {size : Extent} {x y : Nat}

theorem holds_full : (full size).Holds x y ↔ x < size.width.toNat ∧ y < size.height.toNat := by
  have origin : (0 : UInt32).toNat = 0 := rfl
  constructor
  · rintro ⟨_, right, _, bottom⟩
    simp only [full, origin, Nat.zero_add] at right bottom
    exact ⟨right, bottom⟩
  · rintro ⟨right, bottom⟩
    constructor <;> simp only [full, origin] <;> omega

/-- What remains of a side behind the start of a rectangle. -/
theorem toNat_min_sub (length : UInt32) {start side : UInt32} (inside : start < side) :
    (min length (side - start)).toNat = min length.toNat (side.toNat - start.toNat) := by
  rw [toNat_min, UInt32.toNat_sub_of_le _ _ (UInt32.le_of_lt inside)]

/-- What remains of a rectangle are the pixels that it has in common with the target. -/
theorem holds_of_clamp? (clamped : viewport.clamp? size = some visible) :
    visible.Holds x y ↔ viewport.Holds x y ∧ (full size).Holds x y := by
  unfold clamp? at clamped
  split at clamped
  case isFalse => cases clamped
  case isTrue inside =>
    obtain ⟨left, top⟩ := inside
    dsimp only at clamped
    split at clamped
    case isFalse => cases clamped
    case isTrue =>
      cases clamped
      rw [holds_full]
      have width := toNat_min_sub viewport.width left
      have height := toNat_min_sub viewport.height top
      rw [UInt32.lt_iff_toNat_lt] at left top
      constructor
      · rintro ⟨_, right, _, bottom⟩
        dsimp only at *
        exact ⟨⟨by omega, by omega, by omega, by omega⟩, by omega, by omega⟩
      · rintro ⟨⟨_, right, _, bottom⟩, _, _⟩
        constructor <;> dsimp only <;> omega

/-- Something remains of a rectangle iff it has a pixel in common with the target. -/
theorem isSome_clamp?_iff : (viewport.clamp? size).isSome ↔ viewport.Meets size := by
  constructor
  · intro remains
    obtain ⟨visible, clamped⟩ := Option.isSome_iff_exists.mp remains
    obtain ⟨wide, high, _, _⟩ := fits_of_clamp? clamped
    refine ⟨visible.x.toNat, visible.y.toNat, (holds_of_clamp? clamped).mp ?_⟩
    constructor <;> omega
  · rintro ⟨x, y, ⟨left, right, top, bottom⟩, inside⟩
    rw [holds_full] at inside
    have column : viewport.x < size.width := UInt32.lt_iff_toNat_lt.mpr (by omega)
    have row : viewport.y < size.height := UInt32.lt_iff_toNat_lt.mpr (by omega)
    have wide : 0 < min viewport.width (size.width - viewport.x) := by
      rw [UInt32.lt_iff_toNat_lt, toNat_min_sub _ column, UInt32.toNat_zero]
      omega
    have high : 0 < min viewport.height (size.height - viewport.y) := by
      rw [UInt32.lt_iff_toNat_lt, toNat_min_sub _ row, UInt32.toNat_zero]
      omega
    simp [clamp?, column, row, wide, high]

end Viewport

/-! ### What passes can draw to -/

/-- The viewport that a command sets. -/
def GpuEvent.viewport? : GpuEvent → Option Viewport
  | .setViewport viewport => some viewport
  | _ => none

/-- What can be drawn to behind some commands of a pass: the viewport set last, or else the whole
target. -/
def drawingArea (size : Extent) (commands : List GpuEvent) : Viewport :=
  ((commands.filterMap GpuEvent.viewport?).getLast?).getD (.full size)

namespace GpuSession

variable {session : GpuSession} {call : GpuCall} {label : String} {commands : List PassCommand}

/-- A call lists one pass for the commands of its caller, which can draw to the given area of the
bound target. -/
def DrawsTo (session : GpuSession) (label : String) (commands : List PassCommand)
    (area : Viewport) : Prop :=
  ∃ segment pass own,
    (session.perform (.renderPass label commands)).2.log = session.log ++ segment ∧
    Bracketed segment [pass] ∧ pass.body = own ++ commands.map Subtype.val ∧
    drawingArea session.backend.targetSize own = area

/-- What is drawn for one rectangle of the debug view: nothing, or what stands behind a viewport of
its own, whose pixels are those of the rectangle that lie on the surface. -/
def CopiesWithin (surface : Extent) (asked : Viewport) (drawn : List GpuEvent) : Prop :=
  (¬ asked.Meets surface → drawn = []) ∧
  (asked.Meets surface → ∃ visible rest, drawn = .setViewport visible :: rest ∧
    (∀ event ∈ rest, event.viewport? = none) ∧
    ∀ x y, visible.Holds x y ↔ asked.Holds x y ∧ (Viewport.full surface).Holds x y)

/-- The end of a frame lists one pass if any rectangles wait for it, and draws them in it one after
another. -/
def ShowsAll (session : GpuSession) (asked : List Viewport) : Prop :=
  ∃ segment passes, (session.perform .endFrame).2.log = session.log ++ segment ∧
    Bracketed segment passes ∧
    (asked = [] ∧ passes = [] ∨ ∃ pass parts, passes = [pass] ∧ pass.body = parts.flatten ∧
      List.Forall₂ (CopiesWithin session.backend.surfaceSize) asked parts)

/-- A pass that draws is cut to the viewport of the renderer, as long as something remains of it. -/
theorem drawsTo_of_ok (succeeds : (session.perform (.renderPass label commands)).1 = .ok ()) :
    session.DrawsTo label commands
      (((session.backend.viewport.getD (.full session.backend.targetSize)).clamp?
        session.backend.targetSize).getD (.full session.backend.targetSize)) := by
  obtain ⟨passes, opens, records⟩ := session.records_perform (.renderPass label commands)
  obtain ⟨segment, advance, bracketed⟩ := records.bracketed
  unfold Opens at opens
  cases recording : session.backend.frame with
  | none =>
      have failed : (session.perform (.renderPass label commands)).1 = .error .noFrame :=
        fst_act.trans (by rw [GpuBackend.renderPass_of_idle recording])
      cases succeeds.symm.trans failed
  | some frame =>
      simp only [recording, succeeds] at opens
      obtain ⟨encoder, prepared, _, rfl⟩ := opens
      refine ⟨segment, _, _, advance.log_eq, bracketed, rfl, ?_⟩
      -- Behind the viewport stand the pipeline and the bind groups of the prepared program only.
      have applied : (prepared.toList.flatMap (fun applied =>
          [.setPipeline (if (session.backend.attachments { frame with encoder }).2.isSome
              then applied.1.resources.depthPipeline else applied.1.resources.pipeline),
            .setBindGroup uniformGroup applied.1.resources.uniformGroup,
            .setBindGroup textureGroup applied.2])).filterMap GpuEvent.viewport? = [] := by
        cases prepared <;> simp [GpuEvent.viewport?]
      rw [drawingArea, List.filterMap_append, applied, List.append_nil]
      cases (session.backend.viewport.getD (.full session.backend.targetSize)).clamp?
        session.backend.targetSize <;> simp [GpuEvent.viewport?]

/-- The commands that copy a framebuffer, by its bind group, into a rectangle of the surface. -/
def copyCommands (blitter : Blitter) (surface : Extent) (copy : Handle .bindGroup × Viewport) :
    List GpuEvent :=
  (copy.2.clamp? surface).toList.flatMap fun visible =>
    [.setViewport visible, .setPipeline blitter.pipeline, .setBindGroup 0 copy.1,
      .draw ⟨0, 3⟩ ⟨0, 1⟩]

theorem copiesWithin_copyCommands (blitter : Blitter) (surface : Extent)
    (copy : Handle .bindGroup × Viewport) :
    CopiesWithin surface copy.2 (copyCommands blitter surface copy) := by
  unfold copyCommands
  cases clamped : copy.2.clamp? surface with
  | none =>
      have apart : ¬ copy.2.Meets surface := by
        rw [← Viewport.isSome_clamp?_iff, clamped]
        simp
      exact ⟨fun _ => rfl, fun meets => absurd meets apart⟩
  | some visible =>
      have meets : copy.2.Meets surface := by
        rw [← Viewport.isSome_clamp?_iff, clamped]
        rfl
      refine ⟨fun apart => absurd meets apart, fun _ => ⟨visible, _, rfl, ?_, fun _ _ =>
        Viewport.holds_of_clamp? clamped⟩⟩
      simp [GpuEvent.viewport?]

theorem showsAll_of_ok (succeeds : (session.perform .endFrame).1 = .ok ()) :
    session.ShowsAll (session.backend.pendingBlits.map Prod.snd) := by
  obtain ⟨passes, opens, records⟩ := session.records_perform .endFrame
  obtain ⟨segment, advance, bracketed⟩ := records.bracketed
  refine ⟨segment, passes, advance.log_eq, bracketed, ?_⟩
  unfold Opens at opens
  cases recording : session.backend.frame with
  | none =>
      have failed : (session.perform .endFrame).1 = .error .noFrame :=
        fst_act.trans (by rw [GpuBackend.endFrame_of_idle recording])
      cases succeeds.symm.trans failed
  | some frame =>
      simp only [recording] at opens
      rcases opens with ⟨none_wait, rfl⟩ | ⟨_, copies, viewports, rfl⟩
      · exact .inl ⟨by rw [none_wait, List.map_nil], rfl⟩
      · refine .inr ⟨_, copies.map
          (copyCommands session.backend.blitter session.backend.surfaceSize), rfl,
          List.flatMap_def, ?_⟩
        rw [← viewports, List.forall₂_map_left_iff, List.forall₂_map_right_iff, List.forall₂_same]
        exact fun copy _ => copiesWithin_copyCommands _ _ copy

end GpuSession

/-! ### What callers ask for -/

/-- What a caller has asked for in a frame: the viewport that draws are to keep to, unless it is the
whole target, and the rectangles that framebuffers are to be shown in. -/
structure DrawRequests where
  viewport : Option Viewport := none
  blits : List Viewport := []
deriving DecidableEq, Repr, Inhabited

/-- What is asked for behind a call that has succeeded, if the caller holds so many framebuffers.
Another target is drawn to as a whole. -/
def GpuCall.asks (call : GpuCall) (held : Nat) (requests : DrawRequests) : DrawRequests :=
  match call with
  | .beginFrame => {}
  | .endFrame => { requests with blits := [] }
  | .setViewport viewport => { requests with viewport := some viewport }
  | .coverTarget | .bindScreen => { requests with viewport := none }
  | .bindFramebuffer index => if index < held then { requests with viewport := none } else requests
  | .renderFramebuffer index viewport =>
      if index < held then { requests with blits := requests.blits ++ [viewport] } else requests
  | _ => requests

namespace GpuBackend

/-- The viewport and the waiting rectangles are as before. -/
structure KeepsRequests (backend next : GpuBackend) : Prop where
  viewport : next.viewport = backend.viewport
  pendingBlits : next.pendingBlits = backend.pendingBlits

variable {backend : GpuBackend}

theorem KeepsRequests.refl (backend : GpuBackend) : backend.KeepsRequests backend := ⟨rfl, rfl⟩

theorem keepsRequests_createProgram (label : String) (descriptor : ProgramDescriptor)
    (layout : VertexLayout) (backend : GpuBackend) :
    backend.KeepsRequests (createProgram label descriptor layout backend).2 := by
  rcases createProgram_cases label descriptor layout backend with
    ⟨_, _, ran⟩ | ⟨_, ⟨_, _, _, ran⟩ | ⟨_, _, _, ran⟩⟩
  all_goals
    rw [ran]
    exact ⟨rfl, rfl⟩

theorem keepsRequests_setEngineUniform (quantity : EngineUniform) (value : ShaderValue)
    (backend : GpuBackend) : backend.KeepsRequests (setEngineUniform quantity value backend).2 := by
  unfold setEngineUniform
  split
  all_goals exact ⟨rfl, rfl⟩

theorem keepsRequests_clear (label : String) (colorLoad : ColorLoad) (depthLoad : DepthLoad)
    (backend : GpuBackend) :
    backend.KeepsRequests (clear label colorLoad depthLoad backend).2 := by
  cases recording : backend.frame with
  | none =>
      rw [clear_of_idle recording]
      exact .refl backend
  | some frame =>
      obtain ⟨_, ran, _⟩ := clear_of_recording label colorLoad depthLoad recording
      rw [ran]
      exact ⟨rfl, rfl⟩

theorem keepsRequests_clearTargetDepth (backend : GpuBackend) :
    backend.KeepsRequests (clearTargetDepth backend).2 := by
  rw [clearTargetDepth, get_bind_apply]
  split
  · exact keepsRequests_clear _ _ _ _
  · exact .refl backend

theorem keepsRequests_ensureFramebuffer (descriptor : FramebufferDescriptor)
    (backend : GpuBackend) :
    backend.KeepsRequests (ensureFramebuffer descriptor backend).2 := by
  rcases backend.ensureFramebuffer_cases descriptor with ⟨_, _, _, ran⟩ | ⟨_, ran⟩ | ran
  all_goals
    rw [ran]
    exact ⟨rfl, rfl⟩

theorem keepsRequests_renderPass (label : String) (commands : List PassCommand)
    (backend : GpuBackend) :
    backend.KeepsRequests (renderPass label (PassCommand.record commands) backend).2 := by
  cases recording : backend.frame with
  | none =>
      rw [renderPass_of_idle recording]
      exact .refl backend
  | some frame =>
      obtain ⟨_, _, ⟨_, _, ran, _⟩ | ⟨_, _, _, _, ran, _⟩⟩ :=
        renderPass_cases label recording (lists_record commands) fun _ => inPass_of_mem_commands
      all_goals
        rw [ran]
        exact ⟨rfl, rfl⟩

theorem keepsRequests_resize (size : Extent) (backend : GpuBackend) :
    backend.KeepsRequests (backend.resize size) := by
  unfold resize
  split
  all_goals exact ⟨rfl, rfl⟩

end GpuBackend

namespace GpuSession

variable {session : GpuSession} {call : GpuCall} {requests : DrawRequests}

/-- What is asked for behind some calls, of which only those count that succeed. -/
def requestsAfter (session : GpuSession) (requests : DrawRequests) : List GpuCall → DrawRequests
  | [] => requests
  | call :: rest =>
      (session.perform call).2.requestsAfter
        (match (session.perform call).1 with
          | .ok _ => call.asks session.framebuffers.length requests
          | .error _ => requests) rest

/-- The renderer remembers what is asked for. -/
structure Remembers (session : GpuSession) (requests : DrawRequests) : Prop where
  viewport : session.backend.viewport = requests.viewport
  blits : session.backend.pendingBlits.map Prod.snd = requests.blits

theorem Remembers.kept {next : GpuSession} (remembers : session.Remembers requests)
    (keeps : session.backend.KeepsRequests next.backend) : next.Remembers requests :=
  ⟨keeps.viewport.trans remembers.viewport, by rw [keeps.pendingBlits, remembers.blits]⟩

/-- A call that asks for nothing changes no requests, whether it succeeds or not. -/
theorem Remembers.unasked (remembers : session.Remembers requests)
    (nothing : call.asks session.framebuffers.length requests = requests)
    (keeps : session.backend.KeepsRequests (session.perform call).2.backend) :
    (session.perform call).2.Remembers
      (match (session.perform call).1 with
        | .ok _ => call.asks session.framebuffers.length requests
        | .error _ => requests) := by
  rw [nothing]
  split
  all_goals exact remembers.kept keeps

theorem keepsRequests_act {α : Type} {action : GpuAction α} {keep : α → GpuSession → GpuSession}
    (keeps : session.backend.KeepsRequests (action session.backend).2)
    (backends : ∀ value later, (keep value later).backend = later.backend) :
    session.backend.KeepsRequests (session.act action keep).2.backend := by
  rw [snd_act backends]
  exact keeps

theorem Remembers.beginFrame (remembers : session.Remembers requests) :
    (session.perform .beginFrame).2.Remembers
      (match (session.perform .beginFrame).1 with
        | .ok _ => {}
        | .error _ => requests) := by
  cases outcome : (session.perform .beginFrame).1 with
  | error error =>
      have spares := session.spares_of_failing (.inl rfl) outcome
      exact remembers.kept ⟨spares.viewport, spares.pendingBlits⟩
  | ok _ =>
      have begun : (GpuBackend.beginFrame session.backend).1 = .ok () := fst_act.symm.trans outcome
      have reached : (session.perform .beginFrame).2.backend =
          (GpuBackend.beginFrame session.backend).2 := snd_act fun _ _ => rfl
      obtain ⟨_, _, _, ran, _⟩ := GpuBackend.beginFrame_of_ok begun
      constructor <;> rw [reached, ran] <;> rfl

theorem Remembers.endFrame (remembers : session.Remembers requests) :
    (session.perform .endFrame).2.Remembers
      (match (session.perform .endFrame).1 with
        | .ok _ => { requests with blits := [] }
        | .error _ => requests) := by
  have reached : (session.perform .endFrame).2.backend =
      (GpuBackend.endFrame session.backend).2 := snd_act fun _ _ => rfl
  cases outcome : (session.perform .endFrame).1 with
  | error error =>
      have spares := session.spares_of_failing (.inr rfl) outcome
      exact remembers.kept ⟨spares.viewport, spares.pendingBlits⟩
  | ok _ =>
      cases recording : session.backend.frame with
      | none =>
          have failed : (session.perform .endFrame).1 = .error .noFrame :=
            fst_act.trans (by rw [GpuBackend.endFrame_of_idle recording])
          cases outcome.symm.trans failed
      | some frame =>
          obtain ⟨_, ran, _⟩ := GpuBackend.endFrame_of_recording recording
          constructor <;> rw [reached, ran]
          · exact remembers.viewport
          · rfl

/-- A framebuffer that the caller does not hold is not made use of. -/
theorem onFramebuffer_of_le {index : Nat} (unheld : session.framebuffers.length ≤ index)
    (step : GpuFramebuffer → Except GpuError Unit × GpuSession) :
    session.onFramebuffer index step = (.ok (), session) := by
  rw [onFramebuffer, List.getElem?_eq_none unheld]

theorem onFramebuffer_of_lt {index : Nat} (held : index < session.framebuffers.length)
    (step : GpuFramebuffer → Except GpuError Unit × GpuSession) :
    session.onFramebuffer index step = step session.framebuffers[index] := by
  rw [onFramebuffer, List.getElem?_eq_getElem held]

theorem Remembers.bindFramebuffer (remembers : session.Remembers requests) (index : Nat) :
    (session.perform (.bindFramebuffer index)).2.Remembers
      (match (session.perform (.bindFramebuffer index)).1 with
        | .ok _ => GpuCall.asks (.bindFramebuffer index) session.framebuffers.length requests
        | .error _ => requests) := by
  rw [GpuCall.asks, GpuSession.perform]
  rcases Nat.lt_or_ge index session.framebuffers.length with held | unheld
  · rw [onFramebuffer_of_lt held, if_pos held]
    exact ⟨rfl, remembers.blits⟩
  · rw [onFramebuffer_of_le unheld, if_neg (Nat.not_lt_of_le unheld)]
    exact remembers

theorem Remembers.renderFramebuffer (remembers : session.Remembers requests) (index : Nat)
    (viewport : Viewport) :
    (session.perform (.renderFramebuffer index viewport)).2.Remembers
      (match (session.perform (.renderFramebuffer index viewport)).1 with
        | .ok _ =>
            GpuCall.asks (.renderFramebuffer index viewport) session.framebuffers.length requests
        | .error _ => requests) := by
  rw [GpuCall.asks, GpuSession.perform]
  rcases Nat.lt_or_ge index session.framebuffers.length with held | unheld
  · rw [onFramebuffer_of_lt held, if_pos held]
    refine ⟨remembers.viewport, ?_⟩
    show (session.backend.pendingBlits ++ [(_, viewport)]).map Prod.snd = _
    rw [List.map_append, remembers.blits]
    rfl
  · rw [onFramebuffer_of_le unheld, if_neg (Nat.not_lt_of_le unheld)]
    exact remembers

/-- Whatever a call asks for, the renderer remembers it if the call succeeds. -/
theorem Remembers.perform (remembers : session.Remembers requests) (call : GpuCall) :
    (session.perform call).2.Remembers
      (match (session.perform call).1 with
        | .ok _ => call.asks session.framebuffers.length requests
        | .error _ => requests) := by
  cases call with
  | createProgram label descriptor layout =>
      exact remembers.unasked rfl
        (keepsRequests_act (GpuBackend.keepsRequests_createProgram _ _ _ _) fun _ _ => rfl)
  | cloneProgram | wire | setOverride | setClearColor | surfaceAnswers | shaderFailure =>
      exact remembers.unasked rfl ⟨rfl, rfl⟩
  | setUniform index name value =>
      refine remembers.unasked rfl ?_
      show session.backend.KeepsRequests (session.setUniform index name value).2.backend
      unfold setUniform
      split
      · exact .refl _
      · split <;> exact .refl _
  | setEngineUniform quantity value =>
      exact remembers.unasked rfl
        (keepsRequests_act (GpuBackend.keepsRequests_setEngineUniform _ _ _) fun _ _ => rfl)
  | resize size => exact remembers.unasked rfl (GpuBackend.keepsRequests_resize size _)
  | beginFrame => exact remembers.beginFrame
  | endFrame => exact remembers.endFrame
  | bindScreen | coverTarget | setViewport => exact ⟨rfl, remembers.blits⟩
  | bindFramebuffer index => exact remembers.bindFramebuffer index
  | clearColor =>
      exact remembers.unasked rfl
        (keepsRequests_act (GpuBackend.keepsRequests_clear _ _ _ _) fun _ _ => rfl)
  | clearDepth =>
      exact remembers.unasked rfl
        (keepsRequests_act (GpuBackend.keepsRequests_clearTargetDepth _) fun _ _ => rfl)
  | ensureFramebuffer descriptor =>
      exact remembers.unasked rfl
        (keepsRequests_act (GpuBackend.keepsRequests_ensureFramebuffer _ _) fun _ _ => rfl)
  | renderFramebuffer index viewport => exact remembers.renderFramebuffer index viewport
  | renderPass label commands =>
      exact remembers.unasked rfl
        (keepsRequests_act (GpuBackend.keepsRequests_renderPass _ _ _) fun _ _ => rfl)
  | createQuad => exact remembers.unasked rfl (keepsRequests_act ⟨rfl, rfl⟩ fun _ _ => rfl)

theorem Remembers.performAll (remembers : session.Remembers requests) (calls : List GpuCall) :
    (session.performAll calls).Remembers (session.requestsAfter requests calls) := by
  induction calls generalizing session requests with
  | nil => exact remembers
  | cons call rest ih => exact ih (remembers.perform call)

theorem remembers_new (surfaceSize : Extent) (limit : Nat) :
    (new surfaceSize limit).Remembers {} := ⟨rfl, rfl⟩

/-- A pass keeps to the viewport of its caller iff the viewport has a pixel on the target that is
bound when the pass is opened, or there are no pixels at all; otherwise it covers the whole target.
The rectangles of the debug view are always kept to: one without a pixel on the surface is left
out. -/
theorem draws_within_iff (surfaceSize : Extent) (limit : Nat) (calls : List GpuCall) :
    (∀ label commands viewport,
      ((new surfaceSize limit).requestsAfter {} calls).viewport = some viewport →
      (((new surfaceSize limit).performAll calls).perform (.renderPass label commands)).1 = .ok () →
      ∃ size area, ((new surfaceSize limit).performAll calls).backend.targetSize = size ∧
        ((new surfaceSize limit).performAll calls).DrawsTo label commands area ∧
        (viewport.Meets size →
          ∀ x y, area.Holds x y ↔ viewport.Holds x y ∧ (Viewport.full size).Holds x y) ∧
        (¬ viewport.Meets size → area = .full size) ∧
        (area.Within viewport ↔ viewport.Meets size ∨ ∀ x y, ¬ (Viewport.full size).Holds x y)) ∧
    ((((new surfaceSize limit).performAll calls).perform .endFrame).1 = .ok () →
      ((new surfaceSize limit).performAll calls).ShowsAll
        ((new surfaceSize limit).requestsAfter {} calls).blits) := by
  have remembers := (remembers_new surfaceSize limit).performAll calls
  generalize (new surfaceSize limit).performAll calls = session at remembers ⊢
  generalize (new surfaceSize limit).requestsAfter {} calls = requests at remembers ⊢
  constructor
  · intro label commands viewport asked succeeds
    have draws := drawsTo_of_ok succeeds
    rw [remembers.viewport, asked, Option.getD_some] at draws
    refine ⟨_, _, rfl, draws, ?_⟩
    generalize session.backend.targetSize = size
    cases clamped : viewport.clamp? size with
    | some visible =>
        have meets : viewport.Meets size := Viewport.isSome_clamp?_iff.mp (by rw [clamped]; rfl)
        have pixels (x y : Nat) := Viewport.holds_of_clamp? clamped (x := x) (y := y)
        exact ⟨fun _ => pixels, fun apart => absurd meets apart,
          fun _ => .inl meets, fun _ x y held => ((pixels x y).mp held).1⟩
    | none =>
        have apart : ¬ viewport.Meets size := by
          rw [← Viewport.isSome_clamp?_iff, clamped]
          exact Bool.false_ne_true
        refine ⟨fun meets => absurd meets apart, fun _ => rfl, fun within => .inr ?_, ?_⟩
        · exact fun x y held => apart ⟨x, y, within x y held, held⟩
        · rintro (meets | empty) x y held
          · exact absurd meets apart
          · exact absurd held (empty x y)
  · intro succeeds
    rw [← remembers.blits]
    exact showsAll_of_ok succeeds

/-- A viewport beside its target: the pass that is opened under it covers the target. -/
theorem draws_beyond_viewport :
    ((new ⟨4, 4⟩ 64).requestsAfter {} [.beginFrame, .setViewport ⟨4, 0, 1, 1⟩]).viewport =
      some ⟨4, 0, 1, 1⟩ ∧
    (((new ⟨4, 4⟩ 64).performAll [.beginFrame, .setViewport ⟨4, 0, 1, 1⟩]).perform
      (.renderPass "scene" [])).1 = .ok () ∧
    ∃ area, ((new ⟨4, 4⟩ 64).performAll [.beginFrame, .setViewport ⟨4, 0, 1, 1⟩]).DrawsTo
      "scene" [] area ∧ ¬ area.Within ⟨4, 0, 1, 1⟩ := by
  have succeeds : (((new ⟨4, 4⟩ 64).performAll [.beginFrame, .setViewport ⟨4, 0, 1, 1⟩]).perform
      (.renderPass "scene" [])).1 = .ok () := by decide +kernel
  refine ⟨by decide +kernel, succeeds, .full ⟨4, 4⟩, drawsTo_of_ok succeeds, fun within => ?_⟩
  have corner := within 0 0 (Viewport.holds_full.mpr ⟨by decide, by decide⟩)
  exact absurd corner.left (by decide)

end GpuSession

end ShaderFlow

/-
Module: ShaderFlow.Proofs.Gpu.CommandOrder
Purpose: No pass is lost, repeated or moved between its recording and its submission.
Main exports: submissions, GpuEvent.ClosesBefore, GpuBackend.Orderly, GpuSession.Opens,
  GpuSession.OpensAll, GpuSession.Spares, GpuSession.FrameComplete, GpuSession.commands_in_order
-/
import ShaderFlow.Proofs.Gpu.PassRecording
import ShaderFlow.Proofs.Gpu.UniformValues

namespace ShaderFlow

/-!
At every moment the passes recorded so far are those in the command buffers submitted so far, one
buffer after the other, and behind them those that wait in the encoder of the frame.  A swap moves what
waits to the end of what is submitted, so the order never changes.  At both ends of a frame nothing
waits; what the frame submits is therefore what its calls have opened.
-/

/-! ### Submissions -/

/-- The encoders that are submitted, in order. -/
def submissions (events : List GpuEvent) : List (Handle .encoder) :=
  events.flatMap GpuEvent.submitted

/-- What one call submits, a later one neither submits again nor opens a pass in. -/
def GpuEvent.ClosesBefore (earlier later : GpuEvent) : Prop :=
  ∀ encoder ∈ earlier.submitted, encoder ∉ later.submitted ∧ later.opensIn? ≠ some encoder

variable {events others : List GpuEvent} {event : GpuEvent} {encoder : Handle .encoder}
  {passes : List ListedPass} {pass : ListedPass}

theorem submissions_append :
    submissions (events ++ others) = submissions events ++ submissions others :=
  List.flatMap_append

theorem submissions_eq_nil (silent : ∀ event ∈ events, event.submitted = []) :
    submissions events = [] :=
  List.flatMap_eq_nil_iff.mpr silent

theorem GpuEvent.Quiet.submitted (quiet : event.Quiet) : event.submitted = [] := by
  cases event with
  | submit => exact quiet.elim
  | _ => rfl

theorem GpuEvent.Quiet.opensIn? (quiet : event.Quiet) : event.opensIn? = none := by
  cases event with
  | beginPass => exact quiet.elim
  | _ => rfl

/-- The calls of a pass submit nothing and open nothing but the pass. -/
theorem ListedPass.Proper.of_mem_events (proper : pass.Proper) (member : event ∈ pass.events) :
    event.submitted = [] ∧ event ≠ .present ∧
      ∀ encoder, event.opensIn? = some encoder → encoder = pass.encoder := by
  rcases List.mem_cons.mp member with rfl | member
  · exact ⟨rfl, by simp, fun encoder opens => (Option.some.inj opens).symm⟩
  · rcases List.mem_append.mp member with inside | last
    · have recorded := proper event inside
      cases event <;> first
        | exact absurd recorded Bool.false_ne_true
        | exact ⟨rfl, by simp, nofun⟩
    · rw [List.mem_singleton.mp last]
      exact ⟨rfl, by simp, nofun⟩

theorem encodedIn_append (bracketed : Bracketed events passes) :
    encodedIn (events ++ others) encoder = encodedIn events encoder ++ encodedIn others encoder := by
  unfold encodedIn
  rw [bracketed.listedPasses_append, bracketed.listedPasses_eq, List.filter_append]

/-- Calls that open no pass record nothing into any encoder. -/
theorem encodedIn_unopened (bracketed : Bracketed events passes) (later : Bracketed others []) :
    encodedIn (events ++ others) = encodedIn events := by
  funext encoder
  rw [encodedIn, bracketed.listedPasses_append, later.listedPasses_eq, List.append_nil, encodedIn,
    bracketed.listedPasses_eq]

theorem encodedIn_eq_nil (unused : ∀ pass ∈ listedPasses events, pass.encoder ≠ encoder) :
    encodedIn events encoder = [] :=
  List.filter_eq_nil_iff.mpr fun pass listed => by simpa using unused pass listed

/-- A listed pass is opened by a call. -/
theorem opensIn_of_mem_listedPasses (listed : pass ∈ listedPasses events) :
    ∃ event ∈ events, event.opensIn? = some pass.encoder := by
  induction events with
  | nil => cases listed
  | cons event rest ih =>
      have later : pass ∈ listedPasses rest →
          ∃ event' ∈ event :: rest, event'.opensIn? = some pass.encoder := by
        intro member
        obtain ⟨other, inside, opens⟩ := ih member
        exact ⟨other, .tail _ inside, opens⟩
      cases event with
      | beginPass =>
          rcases List.mem_cons.mp listed with rfl | member
          · exact ⟨_, List.mem_cons_self, rfl⟩
          · exact later member
      | _ => exact later listed

namespace GpuBackend

variable {backend next : GpuBackend} {frame : GpuFrame} {presents : Nat}

/-! ### Order -/

/-- The passes that wait in the encoder of the frame. -/
def waiting (backend : GpuBackend) : List ListedPass :=
  match backend.frame with
  | some frame => encodedIn backend.device.log frame.encoder
  | none => []

/-- Every encoder is submitted once at most and closed by that; the passes so far are those that are
submitted and then those that wait. -/
structure Orderly (backend : GpuBackend) : Prop where
  bracketed : ∃ passes, Bracketed backend.device.log passes
  given : ∀ encoder ∈ submissions backend.device.log,
    encoder.number < backend.device.counts .encoder
  opened : ∀ pass ∈ listedPasses backend.device.log,
    pass.encoder.number < backend.device.counts .encoder
  once : (submissions backend.device.log).Nodup
  closed : backend.device.log.Pairwise GpuEvent.ClosesBefore
  current : ∀ frame, backend.frame = some frame →
    frame.encoder.number < backend.device.counts .encoder ∧
      frame.encoder ∉ submissions backend.device.log
  in_order : listedPasses backend.device.log =
    (submissions backend.device.log).flatMap (encodedIn backend.device.log) ++ backend.waiting

/-- Nothing has been recorded into an encoder that is free. -/
theorem Orderly.encodedIn_of_free (orderly : backend.Orderly)
    (free : backend.device.counts .encoder ≤ encoder.number) :
    encodedIn backend.device.log encoder = [] := by
  refine encodedIn_eq_nil fun pass listed same => ?_
  have taken := orderly.opened pass listed
  rw [same] at taken
  omega

theorem Orderly.not_submitted_of_free (orderly : backend.Orderly)
    (free : backend.device.counts .encoder ≤ encoder.number) :
    encoder ∉ submissions backend.device.log := fun member =>
  Nat.not_lt.mpr free (orderly.given encoder member)

/-- Calls that open no pass, and submit the encoder of the frame if they submit anything, keep the
order as long as what waits is submitted by them or goes on waiting. -/
theorem Orderly.unopened (orderly : backend.Orderly)
    (advance : backend.device.Advances next.device events) (bracketed : Bracketed events [])
    (closed : events.Pairwise GpuEvent.ClosesBefore)
    (opens : ∀ event ∈ events, event.opensIn? = none)
    (fresh : ∀ encoder ∈ submissions events, encoder.number < backend.device.counts .encoder ∧
      encoder ∉ submissions backend.device.log)
    (once : (submissions events).Nodup)
    (current : ∀ frame, next.frame = some frame →
      frame.encoder.number < next.device.counts .encoder ∧
        frame.encoder ∉ submissions next.device.log)
    (moved : backend.waiting = (submissions events).flatMap (encodedIn backend.device.log) ++
      next.waiting) : next.Orderly := by
  obtain ⟨passes, whole⟩ := orderly.bracketed
  have listed : listedPasses next.device.log = listedPasses backend.device.log := by
    rw [advance.log_eq, whole.listedPasses_append, bracketed.listedPasses_eq, whole.listedPasses_eq,
      List.append_nil]
  have encoded : encodedIn next.device.log = encodedIn backend.device.log :=
    advance.log_eq ▸ encodedIn_unopened whole bracketed
  have submitted : submissions next.device.log =
      submissions backend.device.log ++ submissions events := by
    rw [advance.log_eq, submissions_append]
  have grown := advance.counts_le .encoder
  constructor
  case bracketed => exact ⟨_, advance.log_eq ▸ whole.append bracketed⟩
  case given =>
    rw [submitted]
    refine List.forall_mem_append.mpr ⟨fun encoder member => ?_, fun encoder member => ?_⟩
    · exact Nat.lt_of_lt_of_le (orderly.given encoder member) grown
    · exact Nat.lt_of_lt_of_le (fresh encoder member).1 grown
  case opened =>
    rw [listed]
    exact fun pass member => Nat.lt_of_lt_of_le (orderly.opened pass member) grown
  case once =>
    rw [submitted]
    refine List.nodup_append.mpr ⟨orderly.once, once, ?_⟩
    rintro earlier before later member rfl
    exact (fresh earlier member).2 before
  case closed =>
    rw [advance.log_eq]
    refine List.pairwise_append.mpr ⟨orderly.closed, closed, ?_⟩
    intro earlier before later member encoder held
    have among : encoder ∈ submissions backend.device.log :=
      List.mem_flatMap.mpr ⟨earlier, before, held⟩
    refine ⟨fun again => (fresh encoder ?_).2 among, by rw [opens later member]; simp⟩
    exact List.mem_flatMap.mpr ⟨later, member, again⟩
  case current => exact current
  case in_order =>
    rw [listed, submitted, encoded, List.flatMap_append, List.append_assoc, ← moved,
      orderly.in_order]

theorem submissions_of_quiet (quiet : ∀ event ∈ events, event.Quiet) : submissions events = [] :=
  submissions_eq_nil fun event member => (quiet event member).submitted

/-- Quiet calls keep the order, if the frame stays or begins with a free encoder. -/
theorem Orderly.quiet (orderly : backend.Orderly)
    (advance : backend.device.Advances next.device events)
    (quiet : ∀ event ∈ events, event.Quiet)
    (frames : next.frame = backend.frame ∨ backend.frame = none ∧
      ∃ frame, next.frame = some frame ∧ backend.device.Gives next.device frame.encoder) :
    next.Orderly := by
  have unsubmitted := submissions_of_quiet quiet
  have bracketed : Bracketed events [] := .of_between fun event member => (quiet event member).between
  obtain ⟨_, whole⟩ := orderly.bracketed
  have encoded : encodedIn next.device.log = encodedIn backend.device.log :=
    advance.log_eq ▸ encodedIn_unopened whole bracketed
  refine orderly.unopened advance bracketed ?_ (fun event member => (quiet event member).opensIn?)
    (by simp [unsubmitted]) (by simp [unsubmitted]) ?_ ?_
  · refine List.pairwise_of_forall_mem_list fun earlier member later _ encoder held => ?_
    rw [(quiet earlier member).submitted] at held
    cases held
  · intro frame recording
    rw [advance.log_eq, submissions_append, unsubmitted, List.append_nil]
    rcases frames with same | ⟨_, begun, begins, gives⟩
    · obtain ⟨taken, free⟩ := orderly.current frame (same ▸ recording)
      exact ⟨Nat.lt_of_lt_of_le taken (advance.counts_le .encoder), free⟩
    · cases begins.symm.trans recording
      exact ⟨gives.taken, orderly.not_submitted_of_free gives.free⟩
  · rw [unsubmitted, List.flatMap_nil, List.nil_append, waiting, waiting, encoded]
    rcases frames with same | ⟨idle, begun, begins, gives⟩
    · rw [same]
    · rw [idle, begins]
      exact (orderly.encodedIn_of_free gives.free).symm

/-- The submission of the encoder of the frame keeps the order, if the frame ends with it or goes on in
a free encoder. -/
theorem Orderly.submit (orderly : backend.Orderly) (before after : List GpuEvent)
    (recording : backend.frame = some frame)
    (advance : backend.device.Advances next.device (before ++ .submit [frame.encoder] :: after))
    (quiet : ∀ event ∈ before, event.Quiet)
    (silent : ∀ event ∈ after, event.Between ∧ event.submitted = [] ∧ event.opensIn? = none)
    (goesOn : ∀ frame, next.frame = some frame → backend.device.Gives next.device frame.encoder) :
    next.Orderly := by
  have submitted : submissions (before ++ .submit [frame.encoder] :: after) = [frame.encoder] := by
    rw [submissions_append, submissions_of_quiet quiet, submissions, List.flatMap_cons,
      List.flatMap_eq_nil_iff.mpr fun event member => (silent event member).2.1]
    rfl
  have each : ∀ event ∈ before ++ .submit [frame.encoder] :: after,
      event.Between ∧ event.opensIn? = none := by
    refine List.forall_mem_append.mpr ⟨fun event member => ?_, List.forall_mem_cons.mpr
      ⟨⟨rfl, rfl⟩, fun event member => ?_⟩⟩
    · exact ⟨(quiet event member).between, (quiet event member).opensIn?⟩
    · exact ⟨(silent event member).1, (silent event member).2.2⟩
  have bracketed := Bracketed.of_between fun event member => (each event member).1
  obtain ⟨_, whole⟩ := orderly.bracketed
  have free : ∀ frame, next.frame = some frame → frame.encoder ∉ submissions next.device.log := by
    intro later same member
    rw [advance.log_eq, submissions_append, submitted] at member
    have unused := (goesOn later same).free
    rcases List.mem_append.mp member with earlier | last
    · exact orderly.not_submitted_of_free unused earlier
    · rw [List.mem_singleton.mp last] at unused
      exact Nat.not_lt.mpr unused (orderly.current frame recording).1
  refine orderly.unopened advance bracketed ?_ (fun event member => (each event member).2) ?_ ?_
    (fun later same => ⟨(goesOn later same).taken, free later same⟩) ?_
  · -- only the submission closes anything, and behind it nothing is opened or submitted
    refine List.pairwise_append.mpr ⟨?_, List.pairwise_cons.mpr ⟨?_, ?_⟩, ?_⟩
    · refine List.pairwise_of_forall_mem_list fun earlier member later _ encoder held => ?_
      rw [(quiet earlier member).submitted] at held
      cases held
    · intro later member encoder _
      obtain ⟨_, unsubmitted, unopened⟩ := silent later member
      exact ⟨by simp [unsubmitted], by simp [unopened]⟩
    · refine List.pairwise_of_forall_mem_list fun earlier member later _ encoder held => ?_
      rw [(silent earlier member).2.1] at held
      cases held
    · intro earlier member later _ encoder held
      rw [(quiet earlier member).submitted] at held
      cases held
  · rw [submitted]
    exact List.forall_mem_singleton.mpr (orderly.current frame recording)
  · rw [submitted]
    exact List.nodup_singleton _
  · have rest : next.waiting = [] := by
      unfold waiting
      cases same : next.frame with
      | none => rfl
      | some later =>
          rw [advance.log_eq, encodedIn_unopened whole bracketed]
          exact orderly.encodedIn_of_free (goesOn later same).free
    rw [rest, submitted, waiting, recording]
    simp

/-- A pass in the encoder of the frame keeps the order. -/
theorem Orderly.opens (orderly : backend.Orderly) (recording : backend.frame = some frame)
    (kept : next.frame = some frame) (into : pass.encoder = frame.encoder) (proper : pass.Proper)
    (advance : backend.device.Advances next.device pass.events) : next.Orderly := by
  obtain ⟨_, whole⟩ := orderly.bracketed
  obtain ⟨taken, free⟩ := orderly.current frame recording
  have grown := advance.counts_le .encoder
  have unsubmitted : submissions pass.events = [] :=
    submissions_eq_nil fun event member => (proper.of_mem_events member).1
  have submitted : submissions next.device.log = submissions backend.device.log := by
    rw [advance.log_eq, submissions_append, unsubmitted, List.append_nil]
  have listed : listedPasses next.device.log = listedPasses backend.device.log ++ [pass] := by
    rw [advance.log_eq, whole.listedPasses_append, whole.listedPasses_eq,
      (Bracketed.of_pass proper).listedPasses_eq]
  have encoded : ∀ encoder, encodedIn next.device.log encoder =
      encodedIn backend.device.log encoder ++ if frame.encoder = encoder then [pass] else [] := by
    intro encoder
    rw [encodedIn, listed, List.filter_append, encodedIn, List.filter_singleton, into]
    simp
  constructor
  case bracketed => exact ⟨_, advance.log_eq ▸ whole.append (.of_pass proper)⟩
  case given =>
    rw [submitted]
    exact fun encoder member => Nat.lt_of_lt_of_le (orderly.given encoder member) grown
  case opened =>
    rw [listed]
    refine List.forall_mem_append.mpr ⟨fun other member => ?_, List.forall_mem_singleton.mpr ?_⟩
    · exact Nat.lt_of_lt_of_le (orderly.opened other member) grown
    · exact into ▸ Nat.lt_of_lt_of_le taken grown
  case once =>
    rw [submitted]
    exact orderly.once
  case closed =>
    rw [advance.log_eq]
    refine List.pairwise_append.mpr ⟨orderly.closed, ?_, ?_⟩
    · refine List.pairwise_of_forall_mem_list fun earlier member later _ encoder held => ?_
      rw [(proper.of_mem_events member).1] at held
      cases held
    · intro earlier member later opening encoder held
      refine ⟨by simp [(proper.of_mem_events opening).1], fun opens => free ?_⟩
      rw [← into, ← (proper.of_mem_events opening).2.2 encoder opens]
      exact List.mem_flatMap.mpr ⟨earlier, member, held⟩
  case current =>
    intro later same
    cases kept.symm.trans same
    rw [submitted]
    exact ⟨Nat.lt_of_lt_of_le taken grown, free⟩
  case in_order =>
    have before : (submissions backend.device.log).flatMap (encodedIn next.device.log) =
        (submissions backend.device.log).flatMap (encodedIn backend.device.log) := by
      refine List.flatMap_congr fun encoder member => ?_
      have other : frame.encoder ≠ encoder := by
        rintro rfl
        exact free member
      rw [encoded, if_neg other, List.append_nil]
    rw [listed, submitted, before, orderly.in_order, waiting, waiting, recording, kept,
      List.append_assoc]
    simp [encoded]

theorem Orderly.step (orderly : backend.Orderly) (records : Records backend next passes presents) :
    next.Orderly := by
  induction records with
  | quiet frame advance quiet => exact orderly.quiet advance quiet (.inl frame)
  | begins idle recording gives advance quiet =>
      exact orderly.quiet advance quiet (.inr ⟨idle, _, recording, gives⟩)
  | pass recording kept into proper advance => exact orderly.opens recording kept into proper advance
  | @swap backend next frame encoder recording goesOn gives advance =>
      refine orderly.submit [.createEncoder encoder] [] recording advance ?_ ?_ ?_
      · exact List.forall_mem_singleton.mpr rfl
      · exact fun event member => nomatch member
      · intro later same
        cases goesOn.symm.trans same
        exact gives
  | finish recording idle advance =>
      refine orderly.submit [] [.present] recording advance ?_ ?_ ?_
      · exact fun event member => nomatch member
      · exact List.forall_mem_singleton.mpr ⟨rfl, rfl, rfl⟩
      · intro later same
        cases idle.symm.trans same
  | trans _ _ first second => exact second (first orderly)

/-- The passes of a log grow by those that are recorded. -/
theorem Orderly.listed (orderly : backend.Orderly) (records : Records backend next passes presents) :
    listedPasses next.device.log = listedPasses backend.device.log ++ passes := by
  have between : ∀ {backend next : GpuBackend} {events : List GpuEvent}, backend.Orderly →
      backend.device.Advances next.device events → (∀ event ∈ events, event.Between) →
        listedPasses next.device.log = listedPasses backend.device.log ++ [] := by
    intro backend next events orderly advance between
    obtain ⟨_, whole⟩ := orderly.bracketed
    rw [advance.log_eq, whole.listedPasses_append, (Bracketed.of_between between).listedPasses_eq,
      whole.listedPasses_eq]
  induction records with
  | quiet _ advance quiet | begins _ _ _ advance quiet =>
      exact between orderly advance fun event member => (quiet event member).between
  | @pass _ _ _ pass _ _ _ proper advance =>
      obtain ⟨_, whole⟩ := orderly.bracketed
      rw [advance.log_eq, whole.listedPasses_append, whole.listedPasses_eq,
        (Bracketed.of_pass proper).listedPasses_eq]
  | swap _ _ _ advance | finish _ _ advance =>
      exact between orderly advance (by simp [GpuEvent.Between, GpuEvent.inPass])
  | trans here _ first second =>
      rw [second (orderly.step here), first orderly, List.append_assoc]

/-- A log grows by the frames that are presented. -/
theorem Records.count_present (records : Records backend next passes presents) :
    next.device.log.count .present = backend.device.log.count .present + presents := by
  have absent : ∀ {backend next : GpuBackend} {events : List GpuEvent},
      backend.device.Advances next.device events → (∀ event ∈ events, event ≠ .present) →
        next.device.log.count .present = backend.device.log.count .present + 0 := by
    intro backend next events advance absent
    rw [advance.log_eq, List.count_append,
      List.count_eq_zero_of_not_mem fun member => absent _ member rfl]
  induction records with
  | quiet _ advance quiet | begins _ _ _ advance quiet =>
      refine absent advance fun event member => ?_
      rintro rfl
      exact quiet _ member
  | pass _ _ _ proper advance =>
      exact absent advance fun event member => (proper.of_mem_events member).2.1
  | swap _ _ _ advance => exact absent advance (by simp)
  | finish _ _ advance =>
      rw [advance.log_eq, List.count_append]
      simp
  | trans _ _ first second => rw [second, first, Nat.add_assoc]

/-- Only the end of a frame presents, and it alone leaves none in progress. -/
theorem Records.stays (records : Records backend next passes presents) (unpresented : presents = 0)
    (recording : backend.frame.isSome) : next.frame.isSome := by
  induction records with
  | quiet same => rwa [same]
  | begins _ begun => rw [begun, Option.isSome_some]
  | pass _ kept => rw [kept, Option.isSome_some]
  | swap _ goesOn => rw [goesOn, Option.isSome_some]
  | finish => cases unpresented
  | trans _ _ first second =>
      obtain ⟨here, there⟩ := Nat.add_eq_zero_iff.mp unpresented
      exact second there (first here recording)

theorem orderly_create (surfaceSize : Extent) (limit : Nat) :
    (create surfaceSize limit {}).Orderly := by
  have configured : DeviceM.SetsUp (Device.emit (.configure surfaceSize)) :=
    DeviceM.setsUp_emit fun _ => by trivial
  obtain ⟨events, advance, each⟩ := configured.bind (fun _ =>
      (DeviceM.setsUp_depthBuffer "Screen Depth" surfaceSize).bind fun depth =>
        DeviceM.setsUp_blitter.bind fun blitter => DeviceM.setsUp_pure (depth, blitter)) {}
  have empty : ({ create surfaceSize limit {} with device := {} } : GpuBackend).Orderly :=
    ⟨⟨[], .nil⟩, nofun, nofun, .nil, .nil, nofun, rfl⟩
  exact empty.quiet advance (fun event member => (each event member).quiet) (.inl rfl)

/-- Nothing is recorded any more into an encoder that has been submitted. -/
theorem Orderly.encodedIn_submitted (orderly : backend.Orderly)
    (records : Records backend next passes presents)
    (submitted : encoder ∈ submissions backend.device.log) :
    encodedIn next.device.log encoder = encodedIn backend.device.log encoder := by
  obtain ⟨segment, advance⟩ := records.advances
  have closed := (orderly.step records).closed
  rw [advance.log_eq] at closed
  obtain ⟨earlier, before, closes⟩ := List.mem_flatMap.mp submitted
  obtain ⟨_, whole⟩ := orderly.bracketed
  have unused : encodedIn segment encoder = [] := by
    refine encodedIn_eq_nil fun pass listed same => ?_
    obtain ⟨later, after, opens⟩ := opensIn_of_mem_listedPasses listed
    rw [same] at opens
    exact ((List.pairwise_append.mp closed).2.2 earlier before later after encoder closes).2 opens
  rw [advance.log_eq, encodedIn_append whole, unused, List.append_nil]

/-- What is submitted between two states that hold nothing back is what has been recorded between
them. -/
theorem Orderly.submitted_between (orderly : backend.Orderly)
    (records : Records backend next passes presents) (settled : backend.waiting = [])
    (idle : next.waiting = []) :
    ∃ segment, next.device.log = backend.device.log ++ segment ∧
      (submissions segment).flatMap (encodedIn next.device.log) = passes := by
  obtain ⟨segment, advance⟩ := records.advances
  refine ⟨segment, advance.log_eq, ?_⟩
  have ordered := (orderly.step records).in_order
  have kept : (submissions backend.device.log).flatMap (encodedIn next.device.log) =
      (submissions backend.device.log).flatMap (encodedIn backend.device.log) :=
    List.flatMap_congr fun encoder member => orderly.encodedIn_submitted records member
  rw [orderly.listed records, orderly.in_order, settled, idle, List.append_nil, List.append_nil,
    advance.log_eq, submissions_append, List.flatMap_append, ← advance.log_eq, kept] at ordered
  exact (List.append_cancel_left ordered).symm

end GpuBackend

namespace GpuSession

variable {session : GpuSession} {call : GpuCall} {passes : List ListedPass}

/-! ### What a call opens -/

/-- The passes that a call opens, told from the state in which it is made.  Without a frame there are
none; a pass that draws is opened iff its call succeeds; the debug view is opened by the end of the
frame, if any rectangle waits for it. -/
def Opens (session : GpuSession) (call : GpuCall) (passes : List ListedPass) : Prop :=
  match call, session.backend.frame with
  | .clearColor, some frame => passes = [session.backend.clearPass frame "Clear Color"
      (.clear session.backend.clearColor) .keep]
  | .clearDepth, some frame => passes =
      if session.backend.targetHasDepth then
        [session.backend.clearPass frame "Clear Depth" .keep (.clear .one)]
      else []
  | .renderPass label commands, some frame =>
      match (session.perform (.renderPass label commands)).1 with
      | .error _ => passes = []
      | .ok _ => ∃ encoder prepared, prepared.map Prod.fst = session.backend.override ∧
          passes = [session.backend.drawnPass { frame with encoder } label prepared
            (commands.map Subtype.val)]
  | .endFrame, some frame =>
      session.backend.pendingBlits = [] ∧ passes = [] ∨
        session.backend.pendingBlits ≠ [] ∧ ∃ copies,
          copies.map Prod.snd = session.backend.pendingBlits.map Prod.snd ∧
          passes = [GpuBackend.debugPass session.backend.blitter frame
            session.backend.surfaceSize copies]
  | _, _ => passes = []

/-- The frames that a call presents. -/
def presents (session : GpuSession) : GpuCall → Nat
  | .endFrame => if session.backend.frame.isSome then 1 else 0
  | _ => 0

/-- The passes that calls open one after another. -/
def OpensAll (session : GpuSession) : List GpuCall → List ListedPass → Prop
  | [], passes => passes = []
  | call :: rest, passes => ∃ here later, session.Opens call here ∧
      (session.perform call).2.OpensAll rest later ∧ passes = here ++ later

/-- An action that records nothing opens nothing. -/
theorem records_act {α : Type} {action : GpuAction α} {keep : α → GpuSession → GpuSession}
    (silent : GpuAction.Silent action)
    (keeps : ∀ value later, (keep value later).backend = later.backend) :
    GpuBackend.Records session.backend (session.act action keep).2.backend [] 0 := by
  rw [snd_act keeps]
  exact silent session.backend

theorem records_onFramebuffer {index : Nat}
    {call : GpuFramebuffer → Except GpuError Unit × GpuSession}
    (records : ∀ framebuffer, GpuBackend.Records session.backend (call framebuffer).2.backend [] 0) :
    GpuBackend.Records session.backend (session.onFramebuffer index call).2.backend [] 0 := by
  unfold onFramebuffer
  split
  · exact .refl _
  · exact records _

/-- The creation of a program records nothing. -/
theorem silent_createProgram (label : String) (descriptor : ProgramDescriptor)
    (layout : VertexLayout) : GpuAction.Silent (GpuBackend.createProgram label descriptor layout) := by
  intro backend
  obtain ⟨events, advance, each⟩ := DeviceM.setsUp_createResources label descriptor layout
    backend.device
  rcases GpuBackend.createProgram_cases label descriptor layout backend with
    ⟨resources, held, ran⟩ |
    ⟨absent, ⟨error, device, failed, ran⟩ | ⟨resources, device, created, ran⟩⟩
  · rw [ran]
    exact .refl backend
  · rw [ran]
    rw [failed] at advance
    exact .quiet rfl advance fun event member => (each event member).quiet
  · rw [ran]
    rw [created] at advance
    exact .quiet rfl advance fun event member => (each event member).quiet

theorem silent_beginFrame : GpuAction.Silent GpuBackend.beginFrame := by
  intro backend
  cases recording : backend.frame with
  | some frame =>
      rw [GpuBackend.beginFrame_of_recording recording]
      exact .refl _
  | none =>
      rcases GpuBackend.beginFrame_of_idle recording with
        ⟨_, _, ran, records⟩ | ⟨_, _, _, ran, _, records⟩
      · exact ran ▸ records
      · exact ran ▸ records

theorem silent_setEngineUniform (quantity : EngineUniform) (value : ShaderValue) :
    GpuAction.Silent (GpuBackend.setEngineUniform quantity value) := by
  intro backend
  unfold GpuBackend.setEngineUniform
  split
  · exact .quiet rfl (.refl _) (by simp)
  · exact .refl _

theorem records_setUniform (session : GpuSession) (index : Nat) (name : String)
    (value : ShaderValue) :
    GpuBackend.Records session.backend (session.setUniform index name value).2.backend [] 0 := by
  unfold setUniform
  split
  · exact .refl _
  · split <;> exact .refl _

theorem records_resize (backend : GpuBackend) (size : Extent) :
    GpuBackend.Records backend (backend.resize size) [] 0 := by
  unfold GpuBackend.resize
  split
  · exact .quiet rfl (Device.advances_emit _ _) (List.forall_mem_singleton.mpr rfl)
  · exact .refl _

/-- The end of a frame opens the pass of the debug view, and presents. -/
theorem opens_endFrame (session : GpuSession) : ∃ passes, session.Opens .endFrame passes ∧
    GpuBackend.Records session.backend (session.perform .endFrame).2.backend passes
      (session.presents .endFrame) := by
  show ∃ passes, _ ∧ GpuBackend.Records _ (session.act GpuBackend.endFrame _).2.backend _ _
  rw [snd_act fun _ _ => rfl]
  unfold Opens presents
  cases recording : session.backend.frame with
  | none =>
      rw [GpuBackend.endFrame_of_idle recording]
      exact ⟨[], rfl, .refl _⟩
  | some frame =>
      obtain ⟨passes, records, opens⟩ := GpuBackend.records_endFrame recording
      exact ⟨passes, opens, records⟩

theorem opens_clearColor (session : GpuSession) : ∃ passes, session.Opens .clearColor passes ∧
    GpuBackend.Records session.backend (session.perform .clearColor).2.backend passes 0 := by
  show ∃ passes, _ ∧ GpuBackend.Records _ (session.act GpuBackend.clearTargetColor _).2.backend _ _
  rw [snd_act fun _ _ => rfl, GpuBackend.clearTargetColor, GpuBackend.get_bind_apply]
  unfold Opens
  cases recording : session.backend.frame with
  | none =>
      rw [GpuBackend.clear_of_idle recording]
      exact ⟨[], rfl, .refl _⟩
  | some frame => exact ⟨_, rfl, GpuBackend.records_clear recording⟩

theorem opens_clearDepth (session : GpuSession) : ∃ passes, session.Opens .clearDepth passes ∧
    GpuBackend.Records session.backend (session.perform .clearDepth).2.backend passes 0 := by
  show ∃ passes, _ ∧ GpuBackend.Records _ (session.act GpuBackend.clearTargetDepth _).2.backend _ _
  rw [snd_act fun _ _ => rfl, GpuBackend.clearTargetDepth, GpuBackend.get_bind_apply]
  unfold Opens
  cases recording : session.backend.frame with
  | none =>
      refine ⟨[], rfl, ?_⟩
      split
      · rw [GpuBackend.clear_of_idle recording]
        exact .refl _
      · exact .refl _
  | some frame =>
      refine ⟨_, rfl, ?_⟩
      split
      · exact GpuBackend.records_clear recording
      · exact .refl _

/-- A pass that draws is opened iff its call succeeds; a call that fails may still have swapped the
encoder. -/
theorem opens_renderPass (session : GpuSession) (label : String) (commands : List PassCommand) :
    ∃ passes, session.Opens (.renderPass label commands) passes ∧
      GpuBackend.Records session.backend
        (session.perform (.renderPass label commands)).2.backend passes 0 := by
  have outcome : (session.perform (.renderPass label commands)).1 =
      (GpuBackend.renderPass label (PassCommand.record commands) session.backend).1 := fst_act
  have reached : (session.perform (.renderPass label commands)).2.backend =
      (GpuBackend.renderPass label (PassCommand.record commands) session.backend).2 :=
    snd_act fun _ _ => rfl
  rw [reached]
  unfold Opens
  cases recording : session.backend.frame with
  | none =>
      rw [GpuBackend.renderPass_of_idle recording]
      exact ⟨[], rfl, .refl _⟩
  | some frame =>
      dsimp only
      rw [outcome]
      obtain ⟨encoder, device, ⟨prepared, installed, ran, records⟩ | ⟨_, _, _, _, ran, records⟩⟩ :=
        GpuBackend.renderPass_cases label recording (GpuBackend.lists_record commands)
          fun _ => GpuBackend.inPass_of_mem_commands
      · rw [ran]
        exact ⟨_, ⟨encoder, prepared, installed, rfl⟩, records⟩
      · rw [ran]
        exact ⟨[], rfl, records⟩

/-- Whatever a call does, it records what it opens. -/
theorem records_perform (session : GpuSession) (call : GpuCall) :
    ∃ passes, session.Opens call passes ∧
      GpuBackend.Records session.backend (session.perform call).2.backend passes
        (session.presents call) := by
  have unchanged {next : GpuBackend} (events : next.device.events = session.backend.device.events)
      (counts : next.device.counts = session.backend.device.counts)
      (frame : next.frame = session.backend.frame) :
      GpuBackend.Records session.backend next [] 0 :=
    .quiet frame (Device.CalmlyAdvances.of_same events counts).toAdvances fun _ => nofun
  cases call with
  | createProgram label descriptor layout =>
      exact ⟨[], rfl, records_act (silent_createProgram label descriptor layout) fun _ _ => rfl⟩
  | cloneProgram | wire | setOverride | bindScreen | setViewport | coverTarget | setClearColor |
      surfaceAnswers | shaderFailure =>
      exact ⟨[], rfl, unchanged rfl rfl rfl⟩
  | setUniform index name value => exact ⟨[], rfl, session.records_setUniform index name value⟩
  | setEngineUniform quantity value =>
      exact ⟨[], rfl, records_act (silent_setEngineUniform quantity value) fun _ _ => rfl⟩
  | resize size => exact ⟨[], rfl, records_resize session.backend size⟩
  | beginFrame => exact ⟨[], rfl, records_act silent_beginFrame fun _ _ => rfl⟩
  | endFrame => exact session.opens_endFrame
  | bindFramebuffer index =>
      exact ⟨[], rfl, records_onFramebuffer fun _ => unchanged rfl rfl rfl⟩
  | clearColor => exact session.opens_clearColor
  | clearDepth => exact session.opens_clearDepth
  | ensureFramebuffer descriptor =>
      exact ⟨[], rfl, records_act (GpuAction.silent_ensureFramebuffer descriptor) fun _ _ => rfl⟩
  | renderFramebuffer index viewport =>
      refine ⟨[], rfl, records_onFramebuffer fun framebuffer => ?_⟩
      exact records_act (fun backend => .quiet rfl (.refl _) fun _ => nofun) fun _ _ => rfl
  | renderPass label commands => exact session.opens_renderPass label commands
  | createQuad =>
      exact ⟨[], rfl, records_act (GpuAction.silent_onDevice DeviceM.setsUp_quad) fun _ _ => rfl⟩

/-- Whatever calls do, they record what they open, and only the end of a frame presents. -/
theorem records_performAll (session : GpuSession) (calls : List GpuCall) :
    ∃ passes presents, session.OpensAll calls passes ∧
      GpuBackend.Records session.backend (session.performAll calls).backend passes presents ∧
      (.endFrame ∉ calls → presents = 0) := by
  induction calls generalizing session with
  | nil => exact ⟨[], 0, rfl, .refl _, fun _ => rfl⟩
  | cons call rest ih =>
      obtain ⟨here, opens, first⟩ := session.records_perform call
      obtain ⟨later, presented, opensAll, second, none⟩ := ih (session.perform call).2
      refine ⟨here ++ later, session.presents call + presented, ⟨here, later, opens, opensAll, rfl⟩,
        first.trans second, fun absent => ?_⟩
      rw [none fun member => absent (.tail _ member)]
      cases call <;> first | rfl | exact absurd List.mem_cons_self absent

theorem Reachable.orderly (reachable : session.Reachable) : session.backend.Orderly := by
  obtain ⟨surfaceSize, limit, calls, rfl⟩ := reachable
  obtain ⟨_, _, _, records, _⟩ := (new surfaceSize limit).records_performAll calls
  exact (GpuBackend.orderly_create surfaceSize limit).step records

/-! ### Frames -/

/-- A call that fails and leaves what is in progress as it was. -/
structure Spares (session next : GpuSession) : Prop where
  frame : next.backend.frame = session.backend.frame
  target : next.backend.target = session.backend.target
  viewport : next.backend.viewport = session.backend.viewport
  override : next.backend.override = session.backend.override
  pendingBlits : next.backend.pendingBlits = session.backend.pendingBlits

/-- The frame that `first` has begun, up to its end behind the given calls.  It can be ended; whatever
happens later, what it has submitted, one command buffer after the other, holds the passes that its
calls have opened, each once and in order; its surface is presented once, by its end. -/
structure FrameComplete (first : GpuSession) (during : List GpuCall) : Prop where
  ends : ((first.performAll during).perform .endFrame).1 = .ok ()
  idle : ((first.performAll during).perform .endFrame).2.backend.frame = none
  submitted : ∃ segment opened,
    ((first.performAll during).perform .endFrame).2.log = first.log ++ segment ∧
    first.OpensAll (during ++ [.endFrame]) opened ∧
    ∀ later, (submissions segment).flatMap
      (encodedIn (((first.performAll during).perform .endFrame).2.performAll later).log) = opened
  unpresented : (first.performAll during).log.count .present = first.log.count .present
  presented : ((first.performAll during).perform .endFrame).2.log.count .present =
    first.log.count .present + 1

theorem spares_of_failing (session : GpuSession) {call : GpuCall}
    (atBorder : call = .beginFrame ∨ call = .endFrame) {error : GpuError}
    (failed : (session.perform call).1 = .error error) :
    session.Spares (session.perform call).2 := by
  rcases atBorder with rfl | rfl
  · have outcome : (GpuBackend.beginFrame session.backend).1 = .error error := fst_act.symm.trans failed
    have reached : (session.perform .beginFrame).2.backend =
        (GpuBackend.beginFrame session.backend).2 := snd_act fun _ _ => rfl
    have same : ∃ device, (session.perform .beginFrame).2.backend =
        { session.backend with device } := by
      rw [reached]
      cases recording : session.backend.frame with
      | some frame =>
          rw [GpuBackend.beginFrame_of_recording recording]
          exact ⟨_, rfl⟩
      | none =>
          rcases GpuBackend.beginFrame_of_idle recording with ⟨_, _, ran, _⟩ | ⟨_, _, _, ran, _⟩
          · rw [ran]
            exact ⟨_, rfl⟩
          · rw [ran] at outcome
            cases outcome
    obtain ⟨device, same⟩ := same
    constructor <;> rw [same]
  · have outcome : (GpuBackend.endFrame session.backend).1 = .error error := fst_act.symm.trans failed
    have reached : (session.perform .endFrame).2.backend =
        (GpuBackend.endFrame session.backend).2 := snd_act fun _ _ => rfl
    have same : (session.perform .endFrame).2.backend = session.backend := by
      rw [reached]
      cases recording : session.backend.frame with
      | none => rw [GpuBackend.endFrame_of_idle recording]
      | some frame =>
          obtain ⟨later, ran, _⟩ := GpuBackend.endFrame_of_recording recording
          rw [ran] at outcome
          cases outcome
    constructor <;> rw [same]

/-- A frame that has begun holds nothing back from before. -/
theorem Reachable.begins (reachable : session.Reachable)
    (begun : (session.perform .beginFrame).1 = .ok ()) :
    (session.perform .beginFrame).2.backend.frame.isSome ∧
      (session.perform .beginFrame).2.backend.waiting = [] := by
  have outcome : (GpuBackend.beginFrame session.backend).1 = .ok () := fst_act.symm.trans begun
  have reached : (session.perform .beginFrame).2.backend =
      (GpuBackend.beginFrame session.backend).2 := snd_act fun _ _ => rfl
  obtain ⟨frame, _, _, ran, gives, records⟩ := GpuBackend.beginFrame_of_ok outcome
  have same := reachable.orderly.listed records
  rw [reached, ran]
  refine ⟨rfl, ?_⟩
  show encodedIn _ frame.encoder = []
  rw [encodedIn, same, List.append_nil]
  exact reachable.orderly.encodedIn_of_free gives.free

theorem Reachable.frameComplete (reachable : session.Reachable) {during : List GpuCall}
    (begun : (session.perform .beginFrame).1 = .ok ()) (unended : .endFrame ∉ during) :
    FrameComplete (session.perform .beginFrame).2 during := by
  obtain ⟨recording, settled⟩ := reachable.begins begun
  have reaches := reachable.performAll [.beginFrame]
  generalize firstly : (session.perform .beginFrame).2 = first at recording settled
  replace reaches : first.Reachable := firstly ▸ reaches
  obtain ⟨passes, presents, _, records, silent⟩ := first.records_performAll during
  obtain rfl := silent unended
  obtain ⟨frame, goesOn⟩ := Option.isSome_iff_exists.mp (records.stays rfl recording)
  obtain ⟨later, ran, _⟩ := GpuBackend.endFrame_of_recording goesOn
  generalize closing : ((first.performAll during).perform .endFrame).2 = ended
  have reached : ended.backend = (GpuBackend.endFrame (first.performAll during).backend).2 :=
    closing ▸ snd_act fun _ _ => rfl
  have idle : ended.backend.frame = none := by rw [reached, ran]
  obtain ⟨opened, _, opens, whole, _⟩ := first.records_performAll (during ++ [.endFrame])
  have all : first.performAll (during ++ [.endFrame]) = ended :=
    (performAll_append _ _ _).trans closing
  rw [all] at whole
  obtain ⟨segment, log_eq, submitted⟩ := reaches.orderly.submitted_between whole settled
    (by rw [GpuBackend.waiting, idle])
  obtain ⟨_, _, last⟩ := (first.performAll during).records_perform .endFrame
  have counted := last.count_present
  rw [closing, GpuSession.presents, goesOn, records.count_present] at counted
  refine
    { ends := fst_act.trans (by rw [ran])
      idle := closing ▸ idle
      submitted := ⟨segment, opened, closing ▸ log_eq, opens, fun later => ?_⟩
      unpresented := records.count_present
      presented := closing ▸ counted }
  -- what follows leaves the submitted encoders as they are
  obtain ⟨_, _, _, follows, _⟩ := ended.records_performAll later
  have orderly := reaches.orderly.step whole
  rw [closing, ← submitted]
  refine List.flatMap_congr fun encoder member => orderly.encodedIn_submitted follows ?_
  rw [log_eq, submissions_append]
  exact List.mem_append_right _ member

/-- No command is lost, repeated or reordered, whatever calls have led to the session.  Every encoder is
submitted once at most and nothing is opened in it afterwards; every frame is complete; and a frame that
cannot begin or end changes nothing of what is in progress. -/
theorem commands_in_order (reachable : session.Reachable) :
    (∃ passes, Bracketed session.log passes) ∧
    (submissions session.log).Nodup ∧
    session.log.Pairwise GpuEvent.ClosesBefore ∧
    (∀ during, (session.perform .beginFrame).1 = .ok () → .endFrame ∉ during →
      FrameComplete (session.perform .beginFrame).2 during) ∧
    ∀ call error, call = .beginFrame ∨ call = .endFrame →
      (session.perform call).1 = .error error → session.Spares (session.perform call).2 :=
  ⟨reachable.orderly.bracketed, reachable.orderly.once, reachable.orderly.closed,
    fun _ begun unended => reachable.frameComplete begun unended,
    fun _ _ atBorder failed => session.spares_of_failing atBorder failed⟩

open GpuBackend (gray tintProgram)

/-- A session in which the surface has timed out once and is going to be lost. -/
def timedOutSession : GpuSession :=
  (new ⟨4, 4⟩ 64).performAll
    [.createProgram "tint" (tintProgram .zero).descriptor {},
      .ensureFramebuffer ⟨"map", ⟨2, 2⟩, false⟩, .surfaceAnswers [.timeout, .lost, .good],
      .beginFrame]

/-- A clear, a rectangle of the debug view and two passes whose program makes each of them flush. -/
def tintedFrame : List GpuCall :=
  [.clearColor, .renderFramebuffer 0 ⟨0, 0, 2, 2⟩, .setOverride (some 0),
    .renderPass "first" [], .beginFrame, .renderPass "second" []]

/-- A frame on a surface that is retried submits three command buffers with its four passes. -/
theorem commands_in_order_timedOutSession :
    timedOutSession.Reachable ∧
    (timedOutSession.perform .beginFrame).1 = .ok () ∧ .endFrame ∉ tintedFrame ∧
    ∃ segment opened,
      (timedOutSession.perform .beginFrame).2.OpensAll (tintedFrame ++ [.endFrame]) opened ∧
      submissions segment = [⟨0⟩, ⟨1⟩, ⟨2⟩] ∧
      opened.map (fun pass => (pass.encoder, pass.label)) =
        [(⟨0⟩, "Clear Color"), (⟨1⟩, "first"), (⟨2⟩, "second"), (⟨2⟩, "Debug View")] := by
  have reachable : timedOutSession.Reachable := ⟨_, _, _, rfl⟩
  have begun : (timedOutSession.perform .beginFrame).1 = .ok () := by decide +kernel
  have unended : .endFrame ∉ tintedFrame := by simp [tintedFrame]
  obtain ⟨_, _, _, frames, _⟩ := commands_in_order reachable
  obtain ⟨segment, opened, log_eq, opens, submitted⟩ := (frames tintedFrame begun unended).submitted
  have segment_eq : segment = (((timedOutSession.perform .beginFrame).2.performAll
      tintedFrame).perform .endFrame).2.log.drop (timedOutSession.perform .beginFrame).2.log.length := by
    rw [log_eq, List.drop_left]
  refine ⟨reachable, begun, unended, segment, opened, opens, ?_, ?_⟩
  · rw [segment_eq]
    decide +kernel
  · rw [← submitted [], segment_eq]
    decide +kernel

end GpuSession

end ShaderFlow

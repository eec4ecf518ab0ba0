/-
Module: ShaderFlow.Proofs.Gpu.PassListing
Purpose: The passes in a log of calls and the encoders they are recorded into.
Main exports: ListedPass, listedPasses, GpuEvent.Between, Bracketed,
  Bracketed.listedPasses_append, encodedIn
-/
import ShaderFlow.Proofs.Gpu.Session

namespace ShaderFlow

/-!
A pass is recorded as one block: its beginning, its commands, its end.  Between the blocks stand calls
that no pass can hold.  A log of that shape falls apart into its passes in one way only, and so does
whatever is listed after it.
-/

/-- A pass of a log: where it begins and what is recorded in it. -/
structure ListedPass where
  encoder : Handle .encoder
  label : String
  color : Handle .view
  colorLoad : ColorLoad
  depth : Option (Handle .view × DepthLoad)
  body : List GpuEvent
deriving DecidableEq, Repr, Inhabited

namespace ListedPass

/-- The calls of a pass. -/
def events (pass : ListedPass) : List GpuEvent :=
  .beginPass pass.encoder pass.label pass.color pass.colorLoad pass.depth ::
    (pass.body ++ [.endPass])

/-- Only commands are recorded between the beginning and the end. -/
def Proper (pass : ListedPass) : Prop := ∀ event ∈ pass.body, event.inPass = true

end ListedPass

/-- The passes of a log, in order. -/
def listedPasses : List GpuEvent → List ListedPass
  | [] => []
  | .beginPass encoder label color colorLoad depth :: rest =>
      ⟨encoder, label, color, colorLoad, depth, rest.takeWhile GpuEvent.inPass⟩ :: listedPasses rest
  | _ :: rest => listedPasses rest

/-- A call that neither begins nor ends a pass and is not recorded in one. -/
def GpuEvent.Between : GpuEvent → Prop
  | .beginPass .. | .endPass => False
  | event => event.inPass = false

/-- A log that consists of proper passes and of calls between them. -/
inductive Bracketed : List GpuEvent → List ListedPass → Prop where
  | nil : Bracketed [] []
  | between {event : GpuEvent} {events : List GpuEvent} {passes : List ListedPass}
      (between : event.Between) (rest : Bracketed events passes) : Bracketed (event :: events) passes
  | pass {pass : ListedPass} {events : List GpuEvent} {passes : List ListedPass}
      (proper : pass.Proper) (rest : Bracketed events passes) :
      Bracketed (pass.events ++ events) (pass :: passes)

variable {events others : List GpuEvent} {passes more : List ListedPass} {pass : ListedPass}
  {event : GpuEvent} {encoder : Handle .encoder}

theorem listedPasses_of_between (between : event.Between) :
    listedPasses (event :: events) = listedPasses events := by
  cases event with
  | beginPass => exact between.elim
  | _ => rfl

theorem listedPasses_body (proper : ∀ event ∈ events, event.inPass = true) :
    listedPasses (events ++ .endPass :: others) = listedPasses others := by
  induction events with
  | nil => rfl
  | cons event rest ih =>
      obtain ⟨inside, later⟩ := List.forall_mem_cons.mp proper
      rw [List.cons_append, ← ih later]
      cases event with
      | beginPass => cases inside
      | _ => rfl

theorem takeWhile_body (proper : ∀ event ∈ events, event.inPass = true) :
    (events ++ .endPass :: others).takeWhile GpuEvent.inPass = events := by
  rw [List.takeWhile_append_of_pos proper]
  simp [GpuEvent.inPass]

/-- A pass in front of a log is its first pass. -/
theorem listedPasses_pass (proper : pass.Proper) :
    listedPasses (pass.events ++ others) = pass :: listedPasses others := by
  rw [ListedPass.events, List.cons_append, List.append_assoc, List.singleton_append, listedPasses,
    takeWhile_body proper, listedPasses_body proper]

namespace Bracketed

/-- The passes of a bracketed log stand before those of whatever follows it. -/
theorem listedPasses_append (bracketed : Bracketed events passes) :
    listedPasses (events ++ others) = passes ++ listedPasses others := by
  induction bracketed with
  | nil => rfl
  | between between _ ih => rw [List.cons_append, listedPasses_of_between between, ih]
  | pass proper _ ih => rw [List.append_assoc, listedPasses_pass proper, ih, List.cons_append]

theorem listedPasses_eq (bracketed : Bracketed events passes) : listedPasses events = passes := by
  have whole : listedPasses (events ++ []) = passes ++ listedPasses [] :=
    bracketed.listedPasses_append
  rwa [List.append_nil, listedPasses, List.append_nil] at whole

theorem append (bracketed : Bracketed events passes) (later : Bracketed others more) :
    Bracketed (events ++ others) (passes ++ more) := by
  induction bracketed with
  | nil => exact later
  | between between _ ih => exact .between between ih
  | pass proper _ ih =>
      rw [List.append_assoc]
      exact .pass proper ih

theorem of_between (between : ∀ event ∈ events, event.Between) : Bracketed events [] := by
  induction events with
  | nil => exact .nil
  | cons event rest ih =>
      obtain ⟨here, later⟩ := List.forall_mem_cons.mp between
      exact .between here (ih later)

theorem of_pass (proper : pass.Proper) : Bracketed pass.events [pass] := by
  have single : Bracketed (pass.events ++ []) [pass] := .pass proper .nil
  rwa [List.append_nil] at single

end Bracketed

/-! ### Encoders -/

/-- The encoder that a call opens a pass in. -/
def GpuEvent.opensIn? : GpuEvent → Option (Handle .encoder)
  | .beginPass encoder .. => some encoder
  | _ => none

/-- What a log records into an encoder. -/
def encodedIn (events : List GpuEvent) (encoder : Handle .encoder) : List ListedPass :=
  (listedPasses events).filter (·.encoder = encoder)

end ShaderFlow

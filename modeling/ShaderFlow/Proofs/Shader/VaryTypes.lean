/-
Module: ShaderFlow.Proofs.Shader.VaryTypes
Purpose: The type of a vary read and the type of the varying that it reads.
Main exports: ShaderGraph.exists_vary_call, ShaderGraph.varyType?_kept,
  ShaderGraph.vary_read_agrees_iff
-/
import ShaderFlow.Proofs.Shader.BoundedLink
import ShaderFlow.Proofs.Shader.Linking
import Mathlib.Data.List.Induction

namespace ShaderFlow

/-!
A vary read takes the type that its slot has when the read is created.  The varying of a compiled
program takes the type that the slot has at the end.  Nothing compares the two, so they agree exactly
if the slot ends with the type that it had when the read was created; this holds in particular if
the slot is not declared again after the read.
-/

/-- Varyings bear the names of their slots, in order. -/
theorem names_of_varyings {nodes : ShaderNodes} {entries : List (String × NodeIndex)}
    {varyings : List VaryingSlot} (related : List.Forall₂ (VaryingFor nodes) entries varyings) :
    varyings.map VaryingSlot.name = entries.map Prod.fst := by
  induction related with
  | nil => rfl
  | cons here _ ih => rw [List.map_cons, List.map_cons, here.1, ih]

namespace ShaderGraph

variable {graph next : ShaderGraph} {call : AuthoringCall} {name : String} {ty : ShaderType}
  {generation : Nat} {registry : FunctionRegistry} {calls : List AuthoringCall}

/-! ### The type of a slot -/

theorem varyType?_eq_some_iff : graph.varyType? name = some ty ↔
    ∃ index node, graph.varys.get? name = some index ∧ graph.nodes.get? index = some node ∧
      node.ty = ty := by
  simp [varyType?, Option.bind_eq_some_iff]

/-- A call other than a reset, or a declaration of the slot, keeps the type of a slot. -/
theorem Authors.varyType?_kept (authors : graph.Authors call next)
    (keeps : ∀ generation, call ≠ .reset generation) (elsewhere : ∀ node, call ≠ .setVary name node)
    (typed : graph.varyType? name = some ty) : next.varyType? name = some ty := by
  obtain ⟨index, node, slot, held, rfl⟩ := varyType?_eq_some_iff.mp typed
  obtain ⟨later, heldLater, sameType⟩ := authors.node_kept keeps held
  refine varyType?_eq_some_iff.mpr ⟨index, later, ?_, heldLater, sameType⟩
  cases authors with
  | @varySlot other target _ _ _ _ =>
      have unlike : other ≠ name := fun same => elsewhere target (same ▸ rfl)
      rw [OrderedMap.get?_insert, if_neg unlike]
      exact slot
  | reset => exact absurd rfl (keeps _)
  | create | bind | label | unlabelled | vertexRoot | fragmentRoot | options => exact slot

/-- A slot that has a type has one, maybe another, after every call other than a reset. -/
theorem Authors.varyType?_isSome (authors : graph.Authors call next)
    (keeps : ∀ generation, call ≠ .reset generation) (typed : (graph.varyType? name).isSome) :
    (next.varyType? name).isSome := by
  obtain ⟨ty, found⟩ := Option.isSome_iff_exists.mp typed
  by_cases declares : ∃ node, call = .setVary name node
  · obtain ⟨node, rfl⟩ := declares
    cases authors with
    | create creates => cases creates
    | varySlot named held typed =>
        apply Option.isSome_iff_exists.mpr
        refine ⟨_, varyType?_eq_some_iff.mpr ⟨_, _, ?_, get?_of_node? held, rfl⟩⟩
        rw [OrderedMap.get?_insert, if_pos rfl]
  · have elsewhere : ∀ node, call ≠ .setVary name node := fun node same => declares ⟨node, same⟩
    rw [authors.varyType?_kept keeps elsewhere found]
    rfl

/-! ### Where a vary read comes from -/

/-- A vary read was created by a call of its own, which no reset follows; its type is the type that
its slot had before that call. -/
theorem exists_vary_call {index : NodeIndex}
    (held : ((new generation registry).authorAll calls).nodes.get? index =
      some (.vary name ty)) :
    ∃ before after, calls = before ++ .vary name :: after ∧
      (∀ other, AuthoringCall.reset other ∉ after) ∧
      ((new generation registry).authorAll before).nodes.size = index ∧
      ((new generation registry).authorAll before).varyType? name = some ty := by
  induction calls using List.reverseRecOn with
  | nil => cases held
  | append_singleton calls call ih =>
      rw [authorAll_append] at held
      have keeps : ∀ other, call ≠ .reset other := by
        rintro other rfl
        cases held
      -- the read was there before the last call, or the last call creates it
      have origin : ((new generation registry).authorAll calls).nodes.get? index =
            some (.vary name ty) ∨
          index = ((new generation registry).authorAll calls).nodes.size ∧
            ((new generation registry).authorAll calls).Creates call (.vary name ty) := by
        rcases author_cases ((new generation registry).authorAll calls) call with same | authors
        · exact .inl (same ▸ held)
        · rcases authors.node_cases held with before | created | ⟨_, _, _, isCall, _⟩
          · exact .inl before
          · exact .inr created
          · cases isCall
      rcases origin with earlier | ⟨size, creates⟩
      · obtain ⟨before, after, rfl, noReset, size, typed⟩ := ih earlier
        refine ⟨before, after ++ [call], by simp, ?_, size, typed⟩
        intro other member
        rcases List.mem_append.mp member with inside | last
        · exact noReset other inside
        · exact keeps other (List.mem_singleton.mp last).symm
      · cases creates with
        | vary typed => exact ⟨calls, [], rfl, by simp, size.symm, typed⟩

/-! ### Reads and varyings -/

/-- A slot with a type has exactly one varying in a compiled program, which has that type. -/
theorem exists_varying_of_varyType? {descriptor : ProgramDescriptor}
    (compiled : graph.compile = .ok descriptor) (typed : graph.varyType? name = some ty) :
    ∃ varying ∈ descriptor.varyings, varying.name = name ∧ varying.ty = ty ∧
      ∀ other ∈ descriptor.varyings, other.name = name → other = varying := by
  obtain ⟨program, linked, rfl⟩ := compile_eq_ok_iff.mp compiled
  obtain ⟨_, _, _, _, link⟩ := linked_of_link linked
  have related := varyings_for link.varyingsAdded
  obtain ⟨producer, node, slot, held, rfl⟩ := varyType?_eq_some_iff.mp typed
  obtain ⟨entry, found, rfl⟩ := Option.map_eq_some_iff.mp slot
  have entryName : entry.1 = name := by simpa using List.find?_some found
  obtain ⟨varying, listed, named, typedVarying⟩ :=
    exists_of_mem_items related (List.mem_of_find?_eq_some found)
  rw [held, Option.map_some] at typedVarying
  refine ⟨varying, listed, named.trans entryName, (Option.some.inj typedVarying).symm, ?_⟩
  intro other member sameName
  have distinct : (program.varyings.map VaryingSlot.name).Nodup := by
    rw [names_of_varyings related]
    exact OrderedMap.distinct _
  exact List.inj_on_of_nodup_map distinct member listed
    (sameName.trans (named.trans entryName).symm)

/-- Inter-stage types.  After every run of calls that compiles, a vary read names exactly one varying,
which has the type of the node that produces the slot at the end.  The read stems from a call after
which the graph is not reset.  Its type agrees with the type of the varying iff the slot had the same
type before this call as at the end, and does so if the slot is not declared again after the call. -/
theorem vary_read_agrees_iff {descriptor : ProgramDescriptor} {index : NodeIndex}
    (compiled : ((new generation registry).authorAll calls).compile = .ok descriptor)
    (held : ((new generation registry).authorAll calls).nodes.get? index =
      some (.vary name ty)) :
    ∃ varying ∈ descriptor.varyings, varying.name = name ∧
      (∀ other ∈ descriptor.varyings, other.name = name → other = varying) ∧
      ((new generation registry).authorAll calls).varyType? name = some varying.ty ∧
      ∃ before after, calls = before ++ .vary name :: after ∧
        (∀ other, .reset other ∉ after) ∧
        ((new generation registry).authorAll before).nodes.size = index ∧
        ((new generation registry).authorAll before).varyType? name = some ty ∧
        (varying.ty = ty ↔ ((new generation registry).authorAll before).varyType? name =
          ((new generation registry).authorAll calls).varyType? name) ∧
        ((∀ node, .setVary name node ∉ after) → varying.ty = ty) := by
  obtain ⟨before, after, split, noReset, size, typed⟩ := exists_vary_call held
  have later : (new generation registry).authorAll calls =
      ((new generation registry).authorAll before).authorAll (.vary name :: after) := by
    rw [split, authorAll_append]
  have keeps : ∀ call ∈ AuthoringCall.vary name :: after, ∀ other, call ≠ .reset other := by
    rintro call member other rfl
    rcases List.mem_cons.mp member with same | inside
    · cases same
    · exact noReset other inside
  -- the slot still has a type at the end
  have present : (((new generation registry).authorAll calls).varyType? name).isSome := by
    rw [later]
    apply authorAll_invariant fun graph => (graph.varyType? name).isSome
    · intro graph call member next typed authors
      exact authors.varyType?_isSome (keeps call member) typed
    · rw [typed]
      rfl
  obtain ⟨final, atEnd⟩ := Option.isSome_iff_exists.mp present
  obtain ⟨varying, listed, named, rfl, only⟩ := exists_varying_of_varyType? compiled atEnd
  refine ⟨varying, listed, named, only, atEnd, before, after, split, noReset, size, typed,
    ?_, ?_⟩
  · rw [typed, atEnd, Option.some.injEq]
    exact eq_comm
  · intro undeclared
    have kept : ((new generation registry).authorAll calls).varyType? name = some ty := by
      rw [later]
      refine authorAll_invariant (fun graph => graph.varyType? name = some ty) ?_ typed
      intro graph call member next typed authors
      refine authors.varyType?_kept (keeps call member) ?_ typed
      rintro node rfl
      rcases List.mem_cons.mp member with same | inside
      · cases same
      · exact undeclared node inside
    exact Option.some.inj (atEnd.symm.trans kept)

/-! ### A slot that is declared again -/

/-- A read of a pair, with which a texture is sampled.  The slot is then moved to a color. -/
def redeclaredPair : List AuthoringCall :=
  [.constant (.vec4 .zero .zero .zero .one), .vertexAttribute "uv" .vec2,
    .setVary "v_uv" ⟨1, 1⟩, .vary "v_uv", .textureFetch "scene" ⟨1, 2⟩, .setVary "v_uv" ⟨1, 0⟩,
    .setVertexRoot ⟨1, 0⟩, .setFragmentRoot ⟨1, 3⟩]

/-- The graph that `redeclaredPair` leads to. -/
def redeclaredPairGraph : ShaderGraph := (new 1 .empty).authorAll redeclaredPair

theorem link_redeclaredPair :
    redeclaredPairGraph.link.map Program.varyings = .ok [⟨"v_uv", .vec4, 0⟩] :=
  map_link_eq_of_linkWithin 9 (by decide +kernel)

theorem read_redeclaredPair : redeclaredPairGraph.nodes.get? 2 = some (.vary "v_uv" .vec2) := by
  decide +kernel

/-- The fragment root samples a texture at a read that holds a pair, and the only varying is a
color. -/
theorem redeclaredPair_disagrees :
    ∃ descriptor, redeclaredPairGraph.compile = .ok descriptor ∧
      redeclaredPairGraph.fragmentRoot = some 3 ∧
      redeclaredPairGraph.nodes.orderFrom [3] = .ok [2, 3] ∧
      redeclaredPairGraph.nodes.get? 2 = some (.vary "v_uv" .vec2) ∧
      ∀ varying ∈ descriptor.varyings, varying.name = "v_uv" → varying.ty ≠ .vec2 := by
  obtain ⟨program, linked, varyings⟩ := map_eq_ok_iff.mp link_redeclaredPair
  refine ⟨program.descriptor, compile_eq_ok_iff.mpr ⟨program, linked, rfl⟩, by decide +kernel,
    DependencyGraph.orderFrom_eq_of_orderWithin 9 (by decide +kernel), read_redeclaredPair, ?_⟩
  change ∀ varying ∈ program.varyings, _
  rw [varyings]
  decide

theorem vary_read_agrees_iff_redeclaredPair :
    ∃ descriptor, redeclaredPairGraph.compile = .ok descriptor ∧
      redeclaredPairGraph.nodes.get? 2 = some (.vary "v_uv" .vec2) ∧
      ∃ varying ∈ descriptor.varyings, varying.name = "v_uv" ∧
        redeclaredPairGraph.varyType? "v_uv" = some varying.ty ∧
        ∃ before after, redeclaredPair = before ++ .vary "v_uv" :: after ∧
          ((new 1 .empty).authorAll before).varyType? "v_uv" = some .vec2 ∧
          (varying.ty = .vec2 ↔ ((new 1 .empty).authorAll before).varyType? "v_uv" =
            redeclaredPairGraph.varyType? "v_uv") := by
  obtain ⟨program, linked, _⟩ := map_eq_ok_iff.mp link_redeclaredPair
  have compiled : redeclaredPairGraph.compile = .ok program.descriptor :=
    compile_eq_ok_iff.mpr ⟨program, linked, rfl⟩
  obtain ⟨varying, listed, named, _, typed, before, after, split, _, _, typedThen, agrees, _⟩ :=
    vary_read_agrees_iff compiled read_redeclaredPair
  exact ⟨program.descriptor, compiled, read_redeclaredPair, varying, listed, named, typed, before, after, split,
    typedThen, agrees⟩

end ShaderGraph

end ShaderFlow

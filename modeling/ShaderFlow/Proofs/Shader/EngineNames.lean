/-
Module: ShaderFlow.Proofs.Shader.EngineNames
Purpose: Which uniforms of a compiled program bear the name of an engine uniform, and when the
  renderer fills them.
Main exports: ShaderGraph.ManifestsOf.exists_user, ShaderGraph.ManifestsOf.exists_slot,
  ShaderGraph.engineNames_filled_iff
-/
import ShaderFlow.Proofs.Shader.Manifests

namespace ShaderFlow

/-!
The table of names refuses a user uniform under the name of an engine uniform only if a node for the
engine uniform is reached as well: it compares declarations with each other, and the engine names are
in it once they are declared.  So a name is left to the renderer exactly if no user uniform of that
name is reached, and this is what the table guarantees wherever the engine uniform itself is used.
-/

variable {nodes : List ShaderNode} {node : ShaderNode} {slot own : UniformSlot}

/-- Every slot is declared by one of the nodes. -/
theorem exists_node_of_mem_uniformManifest (listed : slot ∈ uniformManifest nodes) :
    ∃ node ∈ nodes, ∃ own, node.uniform? = some own ∧ slot.name = own.name ∧
      slot.engine = own.engine := by
  obtain ⟨position, inside, rfl⟩ := List.mem_mapIdx.mp listed
  have member := mem_of_mem_firstOfEach (List.getElem_mem inside)
  obtain ⟨node, used, declared⟩ := List.mem_filterMap.mp member
  exact ⟨node, used, _, declared, rfl, rfl⟩

/-- Every declaration has a slot of its name. -/
theorem exists_slot_of_declared (used : node ∈ nodes) (declared : node.uniform? = some own) :
    ∃ slot ∈ uniformManifest nodes, slot.name = own.name := by
  have named : own.name ∈ (firstOfEach UniformSlot.name (nodes.filterMap ShaderNode.uniform?)).map
      UniformSlot.name :=
    mem_keys_firstOfEach.mpr (List.mem_map_of_mem (List.mem_filterMap.mpr ⟨node, used, declared⟩))
  obtain ⟨first, listed, same⟩ := List.mem_map.mp named
  obtain ⟨position, inside, rfl⟩ := List.mem_iff_getElem.mp listed
  exact ⟨_, List.mem_mapIdx.mpr ⟨position, inside, rfl⟩, same⟩

namespace ShaderGraph

variable {graph : ShaderGraph} {descriptor : ProgramDescriptor} {vertexRoot fragmentRoot : NodeIndex}
  {vertexOrder fragmentOrder : List NodeIndex}

/-- The orders of the stages list the nodes that the roots lead to. -/
theorem ManifestsOf.mem_iff_uses
    (manifests : graph.ManifestsOf descriptor vertexRoot fragmentRoot vertexOrder fragmentOrder) :
    node ∈ (vertexOrder ++ fragmentOrder).filterMap graph.nodes.get? ↔
      graph.Uses vertexRoot fragmentRoot node := by
  have vertex := DependencyGraph.isOrder_of_orderFrom manifests.vertexOrdered
  have fragment := DependencyGraph.isOrder_of_orderFrom manifests.fragmentOrdered
  simp only [List.mem_filterMap, List.mem_append, vertex.mem_iff, fragment.mem_iff, Uses, and_comm]

/-- A slot comes from a used node, and has its name and its tag. -/
theorem ManifestsOf.exists_user
    (manifests : graph.ManifestsOf descriptor vertexRoot fragmentRoot vertexOrder fragmentOrder)
    (listed : slot ∈ descriptor.uniforms) :
    ∃ node own, graph.Uses vertexRoot fragmentRoot node ∧ node.uniform? = some own ∧
      slot.name = own.name ∧ slot.engine = own.engine := by
  rw [manifests.uniforms] at listed
  obtain ⟨node, used, own, declared, same⟩ := exists_node_of_mem_uniformManifest listed
  exact ⟨node, own, manifests.mem_iff_uses.mp used, declared, same⟩

/-- A used node has a slot, which agrees with it in name and tag. -/
theorem ManifestsOf.exists_slot
    (manifests : graph.ManifestsOf descriptor vertexRoot fragmentRoot vertexOrder fragmentOrder)
    (used : graph.Uses vertexRoot fragmentRoot node) (declared : node.uniform? = some own) :
    ∃ slot ∈ descriptor.uniforms, slot.name = own.name ∧ slot.engine = own.engine := by
  obtain ⟨slot, listed, named⟩ :=
    exists_slot_of_declared (manifests.mem_iff_uses.mpr used) declared
  rw [← manifests.uniforms] at listed
  obtain ⟨user, other, usedToo, declaredToo, name, engine⟩ := manifests.exists_user listed
  have agree := manifests.uniforms_agree user node other own usedToo used declaredToo declared
    (name.symm.trans named)
  exact ⟨slot, listed, named, engine.trans agree.2⟩

/-- Engine names are reserved where they are in use.  In every program that compiles, the uniforms
under the name of an engine uniform are those that the renderer fills iff no user uniform of that name
is reached from a root or a slot.  A tag always stands with the name it belongs to, for an engine
uniform that is reached; and no user uniform is reached under the name of such an engine uniform. -/
theorem engineNames_filled_iff (compiled : graph.compile = .ok descriptor) :
    ∃ vertexRoot fragmentRoot, graph.vertexRoot = some vertexRoot ∧
      graph.fragmentRoot = some fragmentRoot ∧
      ∀ quantity : EngineUniform,
        ((∀ slot ∈ descriptor.uniforms, slot.name = quantity.name → slot.engine = some quantity) ↔
          ∀ default, ¬ graph.Uses vertexRoot fragmentRoot (.uniform quantity.name default)) ∧
        (∀ slot ∈ descriptor.uniforms, slot.engine = some quantity →
          slot.name = quantity.name ∧ graph.Uses vertexRoot fragmentRoot (.engine quantity)) ∧
        (graph.Uses vertexRoot fragmentRoot (.engine quantity) →
          (∃ slot ∈ descriptor.uniforms, slot.engine = some quantity) ∧
            ∀ default, ¬ graph.Uses vertexRoot fragmentRoot (.uniform quantity.name default)) := by
  obtain ⟨vertexRoot, fragmentRoot, _, _, manifests⟩ := manifestsOf_of_compile compiled
  refine ⟨vertexRoot, fragmentRoot, manifests.vertexPlaced, manifests.fragmentPlaced, ?_⟩
  intro quantity
  refine ⟨⟨?_, ?_⟩, ?_, ?_⟩
  · intro filled default used
    obtain ⟨slot, listed, name, engine⟩ := manifests.exists_slot used rfl
    cases engine.symm.trans (filled slot listed name)
  · intro unused slot listed named
    obtain ⟨node, own, used, declared, name, engine⟩ := manifests.exists_user listed
    cases node with
    | uniform userName default =>
        cases declared
        cases named.symm.trans name
        exact absurd used (unused default)
    | engine other =>
        cases declared
        cases EngineUniform.name_injective (named.symm.trans name)
        exact engine
    | call | vertexAttribute | vary | fetch | constant | combine | swizzle => cases declared
  · intro slot listed tagged
    obtain ⟨node, own, used, declared, name, engine⟩ := manifests.exists_user listed
    cases node with
    | engine other =>
        cases declared
        cases engine.symm.trans tagged
        exact ⟨name, used⟩
    | uniform =>
        cases declared
        cases engine.symm.trans tagged
    | call | vertexAttribute | vary | fetch | constant | combine | swizzle => cases declared
  · intro used
    obtain ⟨slot, listed, _, engine⟩ := manifests.exists_slot used rfl
    refine ⟨⟨slot, listed, engine⟩, fun default usedToo => ?_⟩
    have agree := manifests.uniforms_agree _ _ _ _ used usedToo rfl rfl rfl
    cases agree.2

/-! ### The time, from the engine and from a user -/

/-- The fragment stage shows the time that the engine provides. -/
def engineTime : List AuthoringCall :=
  [.vertexAttribute "position" .vec4, .setVertexRoot ⟨1, 0⟩, .engineUniform .time,
    .combine .vec4 [⟨1, 1⟩, ⟨1, 1⟩, ⟨1, 1⟩, ⟨1, 1⟩], .setFragmentRoot ⟨1, 2⟩]

/-- The graph that `engineTime` leads to. -/
def engineTimeGraph : ShaderGraph := (new 1 .empty).authorAll engineTime

theorem link_engineTimeGraph :
    engineTimeGraph.link.map (fun program => program.uniforms) =
      .ok [⟨"inner_time", .float, .float .zero, 0, some .time⟩] :=
  map_link_eq_of_linkWithin 9 (by decide +kernel)

/-- The renderer fills the one uniform, and so no user uniform of its name is reached. -/
theorem engineNames_filled_iff_engineTimeGraph :
    ∃ descriptor, engineTimeGraph.compile = .ok descriptor ∧
      (∀ slot ∈ descriptor.uniforms, slot.name = EngineUniform.time.name →
        slot.engine = some .time) ∧
      ∀ default, ¬ engineTimeGraph.Uses 0 2 (.uniform "inner_time" default) := by
  obtain ⟨program, linked, uniforms⟩ := map_eq_ok_iff.mp link_engineTimeGraph
  have compiled : engineTimeGraph.compile = .ok program.descriptor :=
    compile_eq_ok_iff.mpr ⟨program, linked, rfl⟩
  have filled : ∀ slot ∈ program.descriptor.uniforms, slot.name = EngineUniform.time.name →
      slot.engine = some .time := by
    intro slot listed _
    rw [Program.descriptor, uniforms, List.mem_singleton] at listed
    rw [listed]
  obtain ⟨vertexRoot, fragmentRoot, vertexPlaced, fragmentPlaced, exact⟩ :=
    engineNames_filled_iff compiled
  have vertexRootIs : engineTimeGraph.vertexRoot = some 0 := by decide +kernel
  have fragmentRootIs : engineTimeGraph.fragmentRoot = some 2 := by decide +kernel
  cases vertexRootIs.symm.trans vertexPlaced
  cases fragmentRootIs.symm.trans fragmentPlaced
  exact ⟨program.descriptor, compiled, filled, (exact .time).1.mp filled⟩

/-- The same with a uniform of the user under that name. -/
def spoofedTime : List AuthoringCall :=
  [.vertexAttribute "position" .vec4, .setVertexRoot ⟨1, 0⟩, .uniform "inner_time" (.float .one),
    .combine .vec4 [⟨1, 1⟩, ⟨1, 1⟩, ⟨1, 1⟩, ⟨1, 1⟩], .setFragmentRoot ⟨1, 2⟩]

/-- The graph that `spoofedTime` leads to. -/
def spoofedTimeGraph : ShaderGraph := (new 1 .empty).authorAll spoofedTime

theorem link_spoofedTimeGraph :
    spoofedTimeGraph.link.map (fun program => program.uniforms) =
      .ok [⟨"inner_time", .float, .float .one, 0, none⟩] :=
  map_link_eq_of_linkWithin 9 (by decide +kernel)

/-- The program compiles with a uniform under the name of the time that the renderer leaves alone. -/
theorem spoofedTimeGraph_unfilled :
    spoofedTimeGraph.Reachable ∧ ∃ descriptor, spoofedTimeGraph.compile = .ok descriptor ∧
      ∃ slot ∈ descriptor.uniforms, slot.engine = none ∧ slot.name = EngineUniform.time.name := by
  obtain ⟨program, linked, uniforms⟩ := map_eq_ok_iff.mp link_spoofedTimeGraph
  refine ⟨⟨_, _, _, rfl⟩, program.descriptor, compile_eq_ok_iff.mpr ⟨program, linked, rfl⟩, ?_⟩
  rw [Program.descriptor, uniforms]
  exact ⟨_, List.mem_singleton_self _, rfl, rfl⟩

end ShaderGraph

end ShaderFlow

/-
Module: ShaderFlow.Proofs.Shader.Unreached
Purpose: Compiling looks at nothing but what the roots and the vary slots of a graph reach.
Main exports: ShaderNodes.Agrees, ShaderGraph.Agrees, ShaderGraph.compile_congr, ShaderGraph.Spares,
  ShaderGraph.compile_authorAll_of_spares
-/
import ShaderFlow.Proofs.Shader.Alike
import ShaderFlow.Proofs.Shader.NodeIds

namespace ShaderFlow

/-!
Two graphs that agree on what is reached from the roots and slots of one of them compile to the same,
messages of errors included.  A call that creates a node appends it to the arena, and a call that binds
or labels a node changes that node only.  So a run of such calls keeps all that is reached as it was,
unless it binds or labels a node of it.
-/

/-! ### Agreement where compiling looks -/

/-- Another arena holds the same nodes with the same edges wherever the roots lead. -/
structure ShaderNodes.Agrees (nodes : ShaderNodes) (roots : List NodeIndex) (later : ShaderNodes) :
    Prop where
  node : ∀ index, nodes.Reached roots index → later.get? index = nodes.get? index
  edges : ∀ index, nodes.Reached roots index → later.dependencies index = nodes.dependencies index

namespace ShaderGraph

variable {graph next after : ShaderGraph} {call : AuthoringCall} {calls : List AuthoringCall}
  {index : NodeIndex}

/-- Everything that the roots and the slots reach is in the arena. -/
theorem Reachable.exists_of_reached (reachable : graph.Reachable)
    (reached : graph.nodes.Reached graph.roots index) :
    ∃ node, graph.nodes.get? index = some node := by
  have placed : ∀ root ∈ graph.roots, graph.nodes.contains root := by
    intro root listed
    simp only [roots, List.mem_append, Option.mem_toList] at listed
    rcases listed with (vertex | fragment) | slot
    · exact (reachable.wellFormed.vertexRoot root vertex).1
    · exact (reachable.wellFormed.fragmentRoot root fragment).1
    · obtain ⟨entry, member, rfl⟩ := List.mem_map.mp slot
      exact reachable.slot_placed member
  have authored := reachable.authored placed
  exact ShaderNodes.exists_of_reached authored.closed authored.placed reached

/-- Another graph has the same roots, slots and names, and the same nodes where compiling looks. -/
structure Agrees (graph next : ShaderGraph) : Prop where
  registry : next.registry = graph.registry
  options : next.options = graph.options
  vertexRoot : next.vertexRoot = graph.vertexRoot
  fragmentRoot : next.fragmentRoot = graph.fragmentRoot
  varys : next.varys = graph.varys
  nodes : ShaderNodes.Agrees graph.nodes graph.roots next.nodes

theorem Agrees.refl (graph : ShaderGraph) : graph.Agrees graph :=
  ⟨rfl, rfl, rfl, rfl, rfl, fun _ _ => rfl, fun _ _ => rfl⟩

/-- What compiling gives rests on the roots and slots and on what they reach. -/
theorem compile_congr (agrees : graph.Agrees next)
    (edges : ∀ index node, graph.nodes.get? index = some node →
      graph.nodes.dependencies index = node.arguments) :
    next.compile = graph.compile := by
  refine compile_alike { agrees with nodes := ⟨fun index reached => ?_, agrees.nodes.edges⟩ } edges
  exact ShaderNodes.alikeAt_of_eq (agrees.nodes.node index reached)

/-! ### Runs that spare what is reached -/

/-- An id denotes a node that the roots or the slots reach. -/
def Reaches (graph : ShaderGraph) (id : NodeId) : Prop :=
  id.generation = graph.generation ∧ graph.nodes.Reached graph.roots id.index

/-- A call is to create a node of any kind, or to bind or label one that is not reached.  It may
fail. -/
def Spares (graph : ShaderGraph) : AuthoringCall → Prop
  | .vertexAttribute .. | .uniform .. | .engineUniform _ | .constant _ | .textureFetch ..
  | .combine .. | .swizzle .. | .call _ | .vary _ => True
  | .bind node .. | .setLabel node _ => ¬ graph.Reaches node
  | .setVertexRoot _ | .setFragmentRoot _ | .setVary .. | .setOptions _ | .reset _ => False

/-- A change of one slot that is not reached goes unnoticed. -/
theorem Agrees.change (agrees : graph.Agrees next) {changed : ShaderNodes} {target : NodeIndex}
    (unreached : ¬ graph.nodes.Reached graph.roots target)
    (node : ∀ index, index ≠ target → changed.get? index = next.nodes.get? index)
    (edges : ∀ index, index ≠ target → changed.dependencies index = next.nodes.dependencies index) :
    graph.Agrees { next with nodes := changed } := by
  have apart : ∀ index, graph.nodes.Reached graph.roots index → index ≠ target := by
    rintro index reached rfl
    exact unreached reached
  refine { agrees with nodes := ⟨?_, ?_⟩ }
  · exact fun index reached => (node index (apart index reached)).trans (agrees.nodes.node index reached)
  · exact fun index reached =>
      (edges index (apart index reached)).trans (agrees.nodes.edges index reached)

/-- A successful call that spares what a graph reaches keeps every agreement with it. -/
theorem Agrees.author (reachable : graph.Reachable) (agrees : graph.Agrees next)
    (generation : next.generation = graph.generation) (spares : graph.Spares call)
    (authors : next.Authors call after) : graph.Agrees after := by
  have unreached {target : NodeId} {held : ShaderNode} (spared : ¬ graph.Reaches target)
      (found : next.node? target = some held) : ¬ graph.nodes.Reached graph.roots target.index :=
    fun reached => spared ⟨(node?_eq_some_iff.mp found).1.trans generation, reached⟩
  cases authors with
  | @create _ node creates =>
      have beyond : ¬ graph.nodes.Reached graph.roots next.nodes.size := by
        intro reached
        obtain ⟨held, found⟩ := reachable.exists_of_reached reached
        rw [← agrees.nodes.node _ reached] at found
        exact Nat.lt_irrefl _ (DependencyGraph.lt_size_of_get? found)
      refine agrees.change beyond (fun index other => ?_) fun index other => ?_
      · exact get?_insert.trans (if_neg other)
      · exact dependencies_insert.trans (if_neg other)
  | bind found _ _ =>
      have inside := DependencyGraph.lt_size_of_get? (get?_of_node? found)
      refine agrees.change (unreached spares found) (fun index other => ?_) fun index other => ?_
      · exact (get?_replace inside).trans (if_neg other)
      · exact (dependencies_replace inside).trans (if_neg other)
  | label found =>
      have inside := DependencyGraph.lt_size_of_get? (get?_of_node? found)
      refine agrees.change (unreached spares found) (fun index other => ?_) fun index other => ?_
      · exact (DependencyGraph.get?_set inside).trans (if_neg other)
      · exact DependencyGraph.dependencies_set
  | unlabelled => exact agrees
  | vertexRoot | fragmentRoot | varySlot | options | reset => exact spares.elim

theorem Spares.keeps (spares : graph.Spares call) : ∀ generation, call ≠ .reset generation := by
  rintro generation rfl
  exact spares

/-- A run of calls that spare what a graph reaches ends with a graph that agrees with it. -/
theorem agrees_authorAll (reachable : graph.Reachable) (spares : ∀ call ∈ calls, graph.Spares call) :
    graph.Agrees (graph.authorAll calls) := by
  have kept : graph.Agrees (graph.authorAll calls) ∧
      (graph.authorAll calls).generation = graph.generation := by
    refine authorAll_invariant
      (fun next => graph.Agrees next ∧ next.generation = graph.generation) ?_ ⟨.refl graph, rfl⟩
    rintro next call listed after ⟨agrees, generation⟩ authors
    have here := spares call listed
    exact ⟨agrees.author reachable generation here authors,
      (authors.generation_eq here.keeps).trans generation⟩
  exact kept.1

/-- Compiling does not notice nodes that are not reached.  However a graph came about, and whatever
run of calls follows that create nodes of any kind, successfully or not, or that bind or label only
nodes that neither the roots nor the slots reach: compiling then gives the same descriptor as before,
or the same error. -/
theorem compile_authorAll_of_spares (reachable : graph.Reachable)
    (spares : ∀ call ∈ calls, graph.Spares call) :
    (graph.authorAll calls).compile = graph.compile :=
  compile_congr (agrees_authorAll reachable spares) reachable.wellFormed.edges

/-! ### A cycle that is not reached -/

/-- Both stages have one color; an invocation stands by. -/
def idleTint : List AuthoringCall :=
  [.constant (.vec4 .zero .zero .zero .one), .call "tint", .setVertexRoot ⟨1, 0⟩,
    .setFragmentRoot ⟨1, 0⟩]

theorem distinct_tint : ([tint].map ShaderFunction.name).Nodup := List.nodup_singleton _

theorem sound_tint : ∀ function ∈ [tint], function.fault? = none := by decide +kernel

/-- The registry of one function on colors. -/
def tintRegistry : FunctionRegistry := ⟨[tint], distinct_tint, sound_tint⟩

/-- The graph that `idleTint` leads to. -/
def idleTintGraph : ShaderGraph := (new 1 tintRegistry).authorAll idleTint

/-- The invocation gets a label and its own result as input, a function is called that nobody has
registered, and a node is created on top of the cycle. -/
def idleCycle : List AuthoringCall :=
  [.setLabel ⟨1, 1⟩ "idle", .bind ⟨1, 1⟩ "base" ⟨1, 1⟩, .call "shade", .swizzle ⟨1, 1⟩ "wzyx"]

theorem link_idleTint : idleTintGraph.link.map (fun program => program.vertex.order) = .ok [0] :=
  map_link_eq_of_linkWithin 3 (by decide +kernel)

/-- The graph compiles before, and to the same after a cycle has come into it. -/
theorem compile_authorAll_of_spares_idleCycle :
    idleTintGraph.Reachable ∧ (∀ call ∈ idleCycle, idleTintGraph.Spares call) ∧
      1 ∈ (idleTintGraph.authorAll idleCycle).nodes.dependencies 1 ∧
      ∃ descriptor, idleTintGraph.compile = .ok descriptor ∧
        (idleTintGraph.authorAll idleCycle).compile = .ok descriptor := by
  have reachable : idleTintGraph.Reachable := ⟨_, _, _, rfl⟩
  have unreached : ∀ generation, ¬ idleTintGraph.Reaches ⟨generation, 1⟩ := by
    rintro generation ⟨_, reached⟩
    have member : 1 ∈ [0] := reached.mem_of_closed (by decide +kernel) (by decide +kernel)
    simp at member
  have spares : ∀ call ∈ idleCycle, idleTintGraph.Spares call := by
    intro call listed
    simp only [idleCycle, List.mem_cons, List.not_mem_nil, or_false] at listed
    rcases listed with rfl | rfl | rfl | rfl
    · exact unreached 1
    · exact unreached 1
    · trivial
    · trivial
  obtain ⟨program, linked, _⟩ := map_eq_ok_iff.mp link_idleTint
  have compiled : idleTintGraph.compile = .ok program.descriptor :=
    compile_eq_ok_iff.mpr ⟨program, linked, rfl⟩
  exact ⟨reachable, spares, by decide +kernel, program.descriptor, compiled,
    (compile_authorAll_of_spares reachable spares).trans compiled⟩

end ShaderGraph

end ShaderFlow

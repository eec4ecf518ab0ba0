/-
Module: ShaderFlow.Proofs.Graph.Arena
Purpose: What changes of an arena do to the values in its slots and to their edges.
Main exports: DependencyGraph.get?_add, DependencyGraph.get?_set, DependencyGraph.get?_connect,
  DependencyGraph.lt_size_of_get?, DependencyGraph.contains_iff,
  DependencyGraph.dependencies_setDependencies, DependencyGraph.mem_dependencies_connect,
  DependencyGraph.mem_dependencies_connect_of_mem, DependencyGraph.mem_dependencies_connect_self
-/
import ShaderFlow.Graph.Basic

namespace ShaderFlow.DependencyGraph

universe u

variable {α : Type u} {graph : DependencyGraph α} {node other child : NodeIndex} {value : α}

theorem lt_size_of_get? (held : graph.get? node = some value) : node < graph.size := by
  obtain ⟨entry, found, _⟩ := Option.map_eq_some_iff.mp held
  exact (Array.getElem?_eq_some_iff.mp found).1

theorem contains_iff : graph.contains node ↔ (graph.get? node).isSome := by
  rw [contains, decide_eq_true_iff]
  simp [size, get?]

theorem get?_add :
    (graph.add value).get? other = if other = graph.size then some value else graph.get? other := by
  simp only [get?, add, size, Array.getElem?_push]
  split <;> simp_all

theorem get?_set (held : node < graph.size) :
    (graph.set node value).get? other = if other = node then some value else graph.get? other := by
  simp only [get?, set, Array.getElem?_modify]
  have inside : node < graph.nodes.size := held
  by_cases same : node = other
  · subst same
    simp [inside]
  · simp [same, Ne.symm same]

/-! ### Edges -/

variable {edges : List NodeIndex}

/-- A new node has no edges, and neither has a foreign slot. -/
theorem dependencies_add : (graph.add value).dependencies other = graph.dependencies other := by
  simp only [dependencies, add, Array.getElem?_push]
  split
  · next last => simp [last]
  · rfl

theorem dependencies_set : (graph.set node value).dependencies other = graph.dependencies other := by
  simp only [dependencies, set, Array.getElem?_modify]
  split <;> simp [Option.map_map, Function.comp_def]

theorem dependencies_setDependencies (inside : node < graph.size) :
    (graph.setDependencies node edges).dependencies other =
      if other = node then edges else graph.dependencies other := by
  by_cases same : other = node
  · subst same
    rw [dependencies_setDependencies_self graph edges inside, if_pos rfl]
  · simp only [dependencies, setDependencies, Array.getElem?_modify, Ne.symm same, same, if_false]

theorem get?_connect : (graph.connect node child).get? other = graph.get? other := by
  simp only [get?, connect, Array.getElem?_modify]
  split
  · cases graph.nodes[other]? with
    | none => rfl
    | some entry =>
        simp only [Option.map_some, Option.some.injEq]
        split <;> rfl
  · rfl

/-- An edge after a connection was there before or is the new one. -/
theorem mem_dependencies_connect {dependency : NodeIndex}
    (edge : dependency ∈ (graph.connect node child).dependencies other) :
    dependency ∈ graph.dependencies other ∨ other = node ∧ dependency = child := by
  simp only [dependencies, connect, Array.getElem?_modify] at edge ⊢
  by_cases same : node = other
  · subst same
    cases held : graph.nodes[node]? with
    | none => simp [held] at edge
    | some entry =>
        simp only [held, if_true, Option.map_some, Option.getD_some] at edge ⊢
        split at edge
        · exact .inl edge
        · rcases List.mem_append.mp edge with before | last
          · exact .inl before
          · exact .inr ⟨trivial, List.mem_singleton.mp last⟩
  · rw [if_neg same] at edge
    exact .inl edge

/-- A connection takes no edge away. -/
theorem mem_dependencies_connect_of_mem {dependency : NodeIndex}
    (edge : dependency ∈ graph.dependencies other) :
    dependency ∈ (graph.connect node child).dependencies other := by
  simp only [dependencies, connect, Array.getElem?_modify] at edge ⊢
  by_cases same : node = other
  · subst same
    cases held : graph.nodes[node]? with
    | none => simp [held] at edge
    | some entry =>
        simp only [held, if_true, Option.map_some, Option.getD_some] at edge ⊢
        split
        · exact edge
        · exact List.mem_append_left _ edge
  · rw [if_neg same]
    exact edge

/-- A node of the arena has the edge that it is connected by. -/
theorem mem_dependencies_connect_self (inside : node < graph.size) :
    child ∈ (graph.connect node child).dependencies node := by
  simp only [dependencies, connect, Array.getElem?_modify, if_true,
    Array.getElem?_eq_getElem (show node < graph.nodes.size from inside), Option.map_some,
    Option.getD_some]
  split
  · next present => exact List.contains_iff_mem.mp present
  · exact List.mem_append_right _ List.mem_cons_self

end ShaderFlow.DependencyGraph

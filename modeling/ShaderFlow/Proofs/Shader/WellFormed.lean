/-
Module: ShaderFlow.Proofs.Shader.WellFormed
Purpose: What holds of every graph that authoring calls lead to.
Main exports: Swizzle.Selects, ShaderNode.WellTyped, ShaderNode.Mentions, ShaderGraph.WellFormed,
  ShaderGraph.WellFormed.author, ShaderGraph.wellFormed_authorAll
-/
import ShaderFlow.Proofs.Shader.Spelling
import Mathlib.Algebra.BigOperators.Group.List.Basic
import Mathlib.Algebra.GroupWithZero.Nat

namespace ShaderFlow

/-!
Whether a node is well typed depends on the types of the slots that it mentions only, and no call but
a reset takes the type of a slot away.  So one step of an invariant has to look at the node that a
call creates or binds, and the other nodes stay well typed with it.
-/

/-! ### Masks -/

namespace Swizzle

/-- A mask names components of a vector, all by letters of one alphabet; the selection has as many
components as the mask has letters. -/
def Selects (source : ShaderType) (mask : List Char) (ty : ShaderType) : Prop :=
  ∃ size, source.vectorSize? = some size ∧ ty.componentCount? = some mask.length ∧
    ∃ set ∈ componentSets, ∀ c ∈ mask, c ∈ set.take size

theorem selects_of_resultType {source ty : ShaderType} {mask : List Char}
    (typed : resultType source mask = .ok ty) : Selects source mask ty := by
  obtain ⟨⟨size, sized, _, _, letters, listed, named⟩, counted⟩ := resultType_eq_ok_iff.mp typed
  exact ⟨size, vectorSize?_eq_some_iff.mpr sized, counted, letters.toList,
    mem_componentSets_iff.mpr ⟨letters, listed, rfl⟩, fun c member => names_iff.mp (named c member)⟩

end Swizzle

/-! ### Nodes -/

namespace ShaderNode

/-- The slots that a node holds: what is bound to a function node, or the arguments. -/
def Mentions (index : NodeIndex) : ShaderNode → Prop
  | .call invocation => ∃ slot, invocation.bound.get? slot = some index
  | node => index ∈ node.arguments

/-- What a node requires of the slots that it mentions, given the types of all slots. -/
def WellTyped (typeOf : NodeIndex → Option ShaderType) : ShaderNode → Prop
  | .call invocation => ∀ slot input, invocation.bound.get? slot = some input →
      ∃ ty, invocation.function.inputType? slot = some ty ∧ typeOf input = some ty
  | .fetch _ coordinate => typeOf coordinate = some .vec2
  | .combine ty parts => ∃ counts, ty.vectorSize? = some counts.sum ∧
      List.Forall₂ (fun part count => (typeOf part).bind ShaderType.componentCount? = some count)
        parts counts
  | .swizzle source mask ty =>
      ∃ sourceType, typeOf source = some sourceType ∧ Swizzle.Selects sourceType mask.toList ty
  | .constant value | .uniform _ value => value.isFinite
  | .vertexAttribute .. | .engine _ | .vary .. => True

variable {typeOf later : NodeIndex → Option ShaderType} {node : ShaderNode} {index : NodeIndex}

/-- Types of further slots do no harm. -/
theorem WellTyped.extend (typed : node.WellTyped typeOf)
    (kept : ∀ index ty, typeOf index = some ty → later index = some ty) : node.WellTyped later := by
  cases node with
  | call invocation =>
      intro slot input bound
      obtain ⟨ty, declared, held⟩ := typed slot input bound
      exact ⟨ty, declared, kept input ty held⟩
  | fetch _ coordinate => exact kept coordinate _ typed
  | combine ty parts =>
      obtain ⟨counts, size, each⟩ := typed
      refine ⟨counts, size, each.imp ?_⟩
      intro part count counted
      obtain ⟨partType, held, components⟩ := Option.bind_eq_some_iff.mp counted
      rw [kept part partType held, Option.bind_some, components]
  | swizzle source mask ty =>
      obtain ⟨sourceType, held, selects⟩ := typed
      exact ⟨sourceType, kept source _ held, selects⟩
  | constant | uniform => exact typed
  | vertexAttribute | engine | vary => trivial

/-- Every slot that a well-typed node mentions has a type. -/
theorem WellTyped.typed_of_mentions (typed : node.WellTyped typeOf) (mentions : node.Mentions index) :
    ∃ ty, typeOf index = some ty := by
  cases node with
  | call invocation =>
      obtain ⟨slot, bound⟩ := mentions
      obtain ⟨ty, _, held⟩ := typed slot index bound
      exact ⟨ty, held⟩
  | fetch _ coordinate =>
      rw [List.mem_singleton.mp mentions]
      exact ⟨_, typed⟩
  | combine ty parts =>
      obtain ⟨counts, _, each⟩ := typed
      obtain ⟨count, _, counted⟩ := exists_of_mem_items each mentions
      obtain ⟨partType, held, _⟩ := Option.bind_eq_some_iff.mp counted
      exact ⟨partType, held⟩
  | swizzle source mask ty =>
      rw [List.mem_singleton.mp mentions]
      obtain ⟨sourceType, held, _⟩ := typed
      exact ⟨sourceType, held⟩
  | constant | uniform | vertexAttribute | engine | vary => cases mentions

/-- The edges of a node lead to slots that it mentions. -/
theorem mentions_of_mem_arguments (member : index ∈ node.arguments) : node.Mentions index := by
  cases node with
  | call invocation =>
      obtain ⟨input, _, bound⟩ := List.mem_filterMap.mp member
      exact ⟨input.name, bound⟩
  | fetch | combine | swizzle | constant | uniform | vertexAttribute | engine | vary =>
      exact member

end ShaderNode

namespace ShaderGraph

variable {graph next : ShaderGraph} {call : AuthoringCall} {node : ShaderNode} {index : NodeIndex}
  {ty : ShaderType}

/-- The type of the node in a slot. -/
def typeAt? (graph : ShaderGraph) (index : NodeIndex) : Option ShaderType :=
  (graph.nodes.get? index).map ShaderNode.ty

/-- The invariant of authoring. -/
structure WellFormed (graph : ShaderGraph) : Prop where
  /-- The recorded edges are the arguments that the node itself names, in order. -/
  edges : ∀ index node, graph.nodes.get? index = some node →
    graph.nodes.dependencies index = node.arguments
  typed : ∀ index node, graph.nodes.get? index = some node → node.WellTyped graph.typeAt?
  /-- Whatever a node mentions is in the arena. -/
  inside : ∀ index node, graph.nodes.get? index = some node →
    ∀ mentioned, node.Mentions mentioned → graph.nodes.contains mentioned
  /-- Only function nodes can have edges to younger nodes. -/
  backward : ∀ index node, graph.nodes.get? index = some node →
    (∀ invocation, node ≠ .call invocation) →
      ∀ dependency ∈ graph.nodes.dependencies index, dependency < index
  vertexRoot : ∀ root, graph.vertexRoot = some root →
    graph.nodes.contains root ∧ graph.typeAt? root = some .vec4
  fragmentRoot : ∀ root, graph.fragmentRoot = some root →
    graph.nodes.contains root ∧ graph.typeAt? root = some .vec4
  slots : ∀ name producer, graph.varys.get? name = some producer →
    graph.nodes.contains producer ∧
      ∃ ty, graph.typeAt? producer = some ty ∧ ty.componentCount?.isSome
  /-- Declared names are identifiers. -/
  named : graph.WellNamed

theorem contains_of_typeAt? (held : graph.typeAt? index = some ty) : graph.nodes.contains index := by
  obtain ⟨node, found, _⟩ := Option.map_eq_some_iff.mp held
  exact decide_eq_true (DependencyGraph.lt_size_of_get? found)

theorem typeAt?_of_node? {id : NodeId} (held : graph.node? id = some node) :
    graph.typeAt? id.index = some node.ty := by
  rw [typeAt?, get?_of_node? held, Option.map_some]

/-! ### Edges -/

theorem dependencies_insert : (graph.insert node).2.nodes.dependencies index =
    if index = graph.nodes.size then node.arguments else graph.nodes.dependencies index := by
  unfold insert
  rw [DependencyGraph.dependencies_setDependencies (by simp), DependencyGraph.dependencies_add]

theorem dependencies_replace {other : NodeIndex} (inside : index < graph.nodes.size) :
    (graph.replace index node).nodes.dependencies other =
      if other = index then node.arguments else graph.nodes.dependencies other := by
  unfold replace
  rw [DependencyGraph.dependencies_setDependencies (by simpa using inside),
    DependencyGraph.dependencies_set]

/-- The edges of a node after a call are those that it had before, or the arguments of a node that the
call creates or changes. -/
theorem Authors.edges_cases (authors : graph.Authors call next)
    (held : next.nodes.get? index = some node) :
    next.nodes.dependencies index = node.arguments ∨
      graph.nodes.get? index = some node ∧
        next.nodes.dependencies index = graph.nodes.dependencies index ∨
      ∃ invocation label, graph.nodes.get? index = some (.call invocation) ∧
        node = .call { invocation with label } ∧
        next.nodes.dependencies index = graph.nodes.dependencies index := by
  cases authors with
  | create creates =>
      rw [get?_insert] at held
      rw [dependencies_insert]
      split at held
      · next last =>
          cases held
          exact .inl (if_pos last)
      · next earlier => exact .inr (.inl ⟨held, if_neg earlier⟩)
  | bind found _ _ =>
      have inside := DependencyGraph.lt_size_of_get? (get?_of_node? found)
      rw [get?_replace inside] at held
      rw [dependencies_replace inside]
      split at held
      · next same =>
          cases held
          exact .inl (if_pos same)
      · next other => exact .inr (.inl ⟨held, if_neg other⟩)
  | label found =>
      have inside := DependencyGraph.lt_size_of_get? (get?_of_node? found)
      rw [DependencyGraph.get?_set inside] at held
      split at held
      · next same =>
          cases held
          exact .inr (.inr ⟨_, _, same ▸ get?_of_node? found, rfl, DependencyGraph.dependencies_set⟩)
      · exact .inr (.inl ⟨held, DependencyGraph.dependencies_set⟩)
  | reset => cases held
  | unlabelled | vertexRoot | fragmentRoot | varySlot | options => exact .inr (.inl ⟨held, rfl⟩)

/-! ### Types -/

/-- A call other than a reset keeps the types of all slots. -/
theorem Authors.typeAt?_kept (authors : graph.Authors call next)
    (keeps : ∀ generation, call ≠ .reset generation) (held : graph.typeAt? index = some ty) :
    next.typeAt? index = some ty := by
  obtain ⟨node, found, rfl⟩ := Option.map_eq_some_iff.mp held
  obtain ⟨later, foundLater, same⟩ := authors.node_kept keeps found
  rw [typeAt?, foundLater, Option.map_some, same]

/-- Combining parts counts the components of each. -/
theorem counts_of_combineParts {parts : List NodeId} {indices : List NodeIndex} {total : Nat}
    (filled : graph.combineParts ty parts = .ok (indices, total)) :
    ∃ counts, counts.sum = total ∧
      List.Forall₂ (fun part count =>
        (graph.typeAt? part).bind ShaderType.componentCount? = some count) indices counts := by
  induction parts generalizing indices total with
  | nil =>
      cases filled
      exact ⟨[], rfl, .nil⟩
  | cons part rest ih =>
      obtain ⟨⟨index, node⟩, looked, inner⟩ := bind_eq_ok_iff.mp filled
      obtain ⟨rfl, held⟩ := lookup_eq_ok_iff.mp looked
      dsimp only at inner
      split at inner
      · cases inner
      · next count counted =>
          obtain ⟨⟨others, sum⟩, filledRest, done⟩ := bind_eq_ok_iff.mp inner
          cases done
          obtain ⟨counts, rfl, each⟩ := ih filledRest
          refine ⟨count :: counts, List.sum_cons, .cons ?_ each⟩
          rw [typeAt?_of_node? held, Option.bind_some, counted]

/-- A node is created well typed. -/
theorem Creates.wellTyped (creates : graph.Creates call node) : node.WellTyped graph.typeAt? := by
  cases creates with
  | vertexAttribute | engineUniform | vary => trivial
  | uniform _ finite | constant finite => exact finite
  | textureFetch _ held typed =>
      rw [ShaderNode.WellTyped, typeAt?_of_node? held, typed]
  | combine vector filled =>
      obtain ⟨counts, rfl, each⟩ := counts_of_combineParts filled
      exact ⟨counts, vector, each⟩
  | swizzle held typed =>
      refine ⟨_, typeAt?_of_node? held, ?_⟩
      rw [String.toList_ofList]
      exact Swizzle.selects_of_resultType typed
  | call registered =>
      intro slot input bound
      cases bound

/-- A node after a call is well typed, if all nodes were so before. -/
theorem WellFormed.wellTyped (formed : graph.WellFormed) (authors : graph.Authors call next)
    (held : next.nodes.get? index = some node) : node.WellTyped graph.typeAt? := by
  cases authors with
  | create creates =>
      rw [get?_insert] at held
      split at held
      · cases held
        exact creates.wellTyped
      · exact formed.typed index node held
  | bind found given typed =>
      have target := get?_of_node? found
      rw [get?_replace (DependencyGraph.lt_size_of_get? target)] at held
      split at held
      · cases held
        intro slot input bound
        rw [FunctionCall.bind, OrderedMap.get?_insert] at bound
        split at bound
        · next same =>
            cases bound
            exact ⟨_, same ▸ typed, typeAt?_of_node? given⟩
        · exact formed.typed _ _ target slot input bound
      · exact formed.typed index node held
  | @label _ _ invocation found =>
      have target := get?_of_node? found
      rw [DependencyGraph.get?_set (DependencyGraph.lt_size_of_get? target)] at held
      split at held
      · cases held
        have before : (ShaderNode.call invocation).WellTyped graph.typeAt? :=
          formed.typed _ _ target
        exact before
      · exact formed.typed index node held
  | reset => cases held
  | unlabelled | vertexRoot | fragmentRoot | varySlot | options => exact formed.typed index node held

/-! ### The invariant -/

theorem WellFormed.new (generation : Nat) (registry : FunctionRegistry) :
    (new generation registry).WellFormed where
  edges _ _ held := by cases held
  typed _ _ held := by cases held
  inside _ _ held := by cases held
  backward _ _ held := by cases held
  vertexRoot _ placed := by cases placed
  fragmentRoot _ placed := by cases placed
  slots _ _ slot := by cases slot
  named := Reachable.wellNamed ⟨generation, registry, [], rfl⟩

/-- The vertex root after a call is the one before, or a node that the call has found to be a
`vec4`. -/
theorem Authors.vertexRoot_cases (authors : graph.Authors call next)
    (placed : next.vertexRoot = some index) :
    graph.vertexRoot = some index ∨ graph.typeAt? index = some .vec4 := by
  cases authors with
  | vertexRoot found typed =>
      cases placed
      exact .inr (typed ▸ typeAt?_of_node? found)
  | reset => cases placed
  | create | bind | label | unlabelled | fragmentRoot | varySlot | options => exact .inl placed

/-- The fragment root after a call is the one before, or a node that the call has found to be a
`vec4`. -/
theorem Authors.fragmentRoot_cases (authors : graph.Authors call next)
    (placed : next.fragmentRoot = some index) :
    graph.fragmentRoot = some index ∨ graph.typeAt? index = some .vec4 := by
  cases authors with
  | fragmentRoot found typed =>
      cases placed
      exact .inr (typed ▸ typeAt?_of_node? found)
  | reset => cases placed
  | create | bind | label | unlabelled | vertexRoot | varySlot | options => exact .inl placed

/-- The node of a slot after a call is the one before, or one that the call has found to be a scalar
or a vector. -/
theorem Authors.slot_cases {name : String} (authors : graph.Authors call next)
    (slot : next.varys.get? name = some index) :
    graph.varys.get? name = some index ∨
      ∃ ty, graph.typeAt? index = some ty ∧ ty.componentCount?.isSome := by
  cases authors with
  | varySlot _ found typed =>
      rw [OrderedMap.get?_insert] at slot
      split at slot
      · cases slot
        exact .inr ⟨_, typeAt?_of_node? found, typed⟩
      · exact .inl slot
  | reset => cases slot
  | create | bind | label | unlabelled | vertexRoot | fragmentRoot | options => exact .inl slot

/-- Every call keeps the invariant. -/
theorem WellFormed.author (formed : graph.WellFormed) (authors : graph.Authors call next) :
    next.WellFormed := by
  by_cases resets : ∃ generation, call = .reset generation
  · obtain ⟨generation, rfl⟩ := resets
    cases authors with
    | create creates => cases creates
    | reset =>
        have named : (graph.reset generation).WellNamed := formed.named.author .reset
        exact { WellFormed.new generation graph.registry with named }
  have keeps : ∀ generation, call ≠ .reset generation := fun generation same =>
    resets ⟨generation, same⟩
  have kept : ∀ index ty, graph.typeAt? index = some ty → next.typeAt? index = some ty :=
    fun _ _ held => authors.typeAt?_kept keeps held
  have edges : ∀ index node, next.nodes.get? index = some node →
      next.nodes.dependencies index = node.arguments := by
    intro index node held
    rcases authors.edges_cases held with own | ⟨before, same⟩ | ⟨invocation, label, before, rfl, same⟩
    · exact own
    · rw [same, formed.edges index node before]
    · rw [same, formed.edges index _ before]
      rfl
  constructor
  case edges => exact edges
  case typed =>
    intro index node held
    exact (formed.wellTyped authors held).extend kept
  case inside =>
    intro index node held mentioned mentions
    obtain ⟨ty, typed⟩ := (formed.wellTyped authors held).typed_of_mentions mentions
    exact contains_of_typeAt? (kept mentioned ty typed)
  case backward =>
    intro index node held operation dependency member
    rw [edges index node held] at member
    rcases authors.node_cases held with before | ⟨rfl, creates⟩ | ⟨_, changed, _, rfl, _⟩
    · rw [← formed.edges index node before] at member
      exact formed.backward index node before operation dependency member
    · obtain ⟨ty, typed⟩ := creates.wellTyped.typed_of_mentions
        (ShaderNode.mentions_of_mem_arguments member)
      exact of_decide_eq_true (contains_of_typeAt? typed)
    · exact absurd rfl (operation changed)
  case vertexRoot =>
    intro root placed
    have held : graph.typeAt? root = some .vec4 := by
      rcases authors.vertexRoot_cases placed with before | checked
      · exact (formed.vertexRoot root before).2
      · exact checked
    exact ⟨contains_of_typeAt? (kept root _ held), kept root _ held⟩
  case fragmentRoot =>
    intro root placed
    have held : graph.typeAt? root = some .vec4 := by
      rcases authors.fragmentRoot_cases placed with before | checked
      · exact (formed.fragmentRoot root before).2
      · exact checked
    exact ⟨contains_of_typeAt? (kept root _ held), kept root _ held⟩
  case slots =>
    intro name producer slot
    have held : ∃ ty, graph.typeAt? producer = some ty ∧ ty.componentCount?.isSome := by
      rcases authors.slot_cases slot with before | checked
      · exact (formed.slots name producer before).2
      · exact checked
    obtain ⟨ty, typed, counted⟩ := held
    exact ⟨contains_of_typeAt? (kept producer ty typed), ty, kept producer ty typed, counted⟩
  case named => exact formed.named.author authors

/-- The invariant holds after every run of authoring calls on a new graph, whichever of them fail. -/
theorem wellFormed_authorAll (generation : Nat) (registry : FunctionRegistry)
    (calls : List AuthoringCall) :
    ((ShaderGraph.new generation registry).authorAll calls).WellFormed :=
  authorAll_invariant WellFormed (fun _ _ _ _ formed authors => formed.author authors)
    (WellFormed.new generation registry)

end ShaderGraph

end ShaderFlow

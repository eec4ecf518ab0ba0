/-
Module: ShaderFlow.Proofs.Shader.BindOrder
Purpose: Of a sequence of bind calls only the last input of each slot counts.
Main exports: Binding, ShaderGraph.bindAll, ShaderGraph.lastInput?, ShaderGraph.lastBound?,
  ShaderGraph.Rebound, ShaderGraph.rebound_bindAll, ShaderGraph.bind_order_irrelevant
-/
import ShaderFlow.Proofs.Shader.Alike
import ShaderFlow.Proofs.Shader.NodeIds
import ShaderFlow.Proofs.Shader.StageMeaning

namespace ShaderFlow

/-!
A bind call changes one slot of one function node, and with it the edges of that node.  A sequence of
them leaves each slot with the input that the sequence has bound to it last, or with the input from
before.  The order of the entries of an invocation does tell in which order its slots were first
bound, but nobody asks for it: the edges follow the parameters, and so does the compiler.
-/

/-- A bind call: a slot of a node, and the node that is to be its input. -/
structure Binding where
  node : NodeId
  slot : String
  input : NodeId
deriving DecidableEq, Repr

namespace ShaderGraph

/-- The graph after a sequence of bind calls, all of which have to succeed. -/
def bindAll (graph : ShaderGraph) (bindings : List Binding) : Except ShaderError ShaderGraph :=
  bindings.foldlM (fun graph binding => graph.bind binding.node binding.slot binding.input) graph

/-- The input that a sequence of bind calls binds last to a slot of a node. -/
def lastInput? (bindings : List Binding) (node : NodeId) (slot : String) : Option NodeId :=
  (bindings.reverse.find? fun binding => binding.node = node ∧ binding.slot = slot).map Binding.input

/-- The input that a graph holds in a slot of a function node. -/
def input? (graph : ShaderGraph) (node : NodeId) (slot : String) : Option NodeIndex :=
  match graph.node? node with
  | some (.call invocation) => invocation.bound.get? slot
  | _ => none

/-- The input last bound to a slot of a node: by a sequence of bind calls on a graph, or else before
them. -/
def lastBound? (graph : ShaderGraph) (bindings : List Binding) (node : NodeId) (slot : String) :
    Option NodeIndex :=
  ((lastInput? bindings node slot).map NodeId.index).or (graph.input? node slot)

variable {graph after next : ShaderGraph} {bindings : List Binding} {binding : Binding}
  {node : NodeId} {slot : String}

theorem lastInput?_concat :
    lastInput? (bindings ++ [binding]) node slot =
      if binding.node = node ∧ binding.slot = slot then some binding.input
      else lastInput? bindings node slot := by
  simp only [lastInput?, List.reverse_append, List.reverse_singleton, List.singleton_append,
    List.find?_cons]
  split
  · next given => simp_all
  · next other => simp_all

theorem lastBound?_nil : graph.lastBound? [] node slot = graph.input? node slot := rfl

theorem lastBound?_concat :
    graph.lastBound? (bindings ++ [binding]) node slot =
      if binding.node = node ∧ binding.slot = slot then some binding.input.index
      else graph.lastBound? bindings node slot := by
  rw [lastBound?, lastInput?_concat]
  split
  · rfl
  · rfl

/-! ### What a sequence of bind calls leaves -/

/-- A graph differs from an earlier one in the inputs of function nodes only, and these are the inputs
last bound. -/
structure Rebound (graph : ShaderGraph) (bindings : List Binding) (after : ShaderGraph) : Prop where
  generation : after.generation = graph.generation
  registry : after.registry = graph.registry
  options : after.options = graph.options
  vertexRoot : after.vertexRoot = graph.vertexRoot
  fragmentRoot : after.fragmentRoot = graph.fragmentRoot
  varys : after.varys = graph.varys
  call : ∀ index invocation, graph.nodes.get? index = some (.call invocation) →
    ∃ bound, after.nodes.get? index = some (.call { invocation with bound }) ∧
      ∀ slot, bound.get? slot = graph.lastBound? bindings (graph.idOf index) slot
  other : ∀ index, (∀ invocation, graph.nodes.get? index ≠ some (.call invocation)) →
    after.nodes.get? index = graph.nodes.get? index ∧
      after.nodes.dependencies index = graph.nodes.dependencies index

theorem Rebound.refl (graph : ShaderGraph) : graph.Rebound [] graph where
  generation := rfl
  registry := rfl
  options := rfl
  vertexRoot := rfl
  fragmentRoot := rfl
  varys := rfl
  call index invocation held := by
    refine ⟨invocation.bound, held, fun slot => ?_⟩
    rw [lastBound?_nil, input?, node?_idOf, held]
  other _ _ := ⟨rfl, rfl⟩

/-- One more bind call changes the slot that it names. -/
theorem Rebound.bind (rebound : graph.Rebound bindings after)
    (bound : after.bind binding.node binding.slot binding.input = .ok next) :
    graph.Rebound (bindings ++ [binding]) next := by
  have authors : after.Authors (.bind binding.node binding.slot binding.input) next :=
    authors_of_perform bound
  cases authors with
  | create creates => cases creates
  | @bind _ _ _ target _ found _ _ =>
      obtain ⟨generation, held⟩ := node?_eq_some_iff.mp found
      have inside := DependencyGraph.lt_size_of_get? held
      refine { rebound with call := ?_, other := ?_ }
      · intro index invocation before
        obtain ⟨inputs, changed, answers⟩ := rebound.call index invocation before
        by_cases same : index = binding.node.index
        · subst same
          have itself : graph.idOf binding.node.index = binding.node := by
            rw [idOf, ← rebound.generation, ← generation]
          cases held.symm.trans changed
          refine ⟨inputs.insert binding.slot binding.input.index, ?_, fun slot => ?_⟩
          · exact (get?_replace inside).trans (if_pos rfl)
          · rw [OrderedMap.get?_insert, lastBound?_concat, itself, answers slot, itself]
            simp only [true_and]
        · refine ⟨inputs, ?_, fun slot => ?_⟩
          · exact ((get?_replace inside).trans (if_neg same)).trans changed
          · rw [answers slot, lastBound?_concat, if_neg]
            rintro ⟨named, _⟩
            exact same (by rw [named, idOf])
      · intro index noCall
        obtain ⟨kept, edges⟩ := rebound.other index noCall
        have apart : index ≠ binding.node.index := by
          rintro rfl
          exact noCall target (kept.symm.trans held)
        exact ⟨((get?_replace inside).trans (if_neg apart)).trans kept,
          ((dependencies_replace inside).trans (if_neg apart)).trans edges⟩

/-- A sequence of bind calls leaves every slot with its last input. -/
theorem rebound_bindAll (ran : graph.bindAll bindings = .ok after) :
    graph.Rebound bindings after :=
  foldlM_invariant (fun done after => graph.Rebound done after)
    (fun _ _ _ _ _ _ rebound bound => rebound.bind bound) (.refl graph) ran

theorem Reachable.bindAll (reachable : graph.Reachable)
    (ran : graph.bindAll bindings = .ok after) : after.Reachable := by
  refine foldlM_keeps Reachable ?_ reachable ran
  intro before binding _ next reachable bound
  have performed : before.perform (.bind binding.node binding.slot binding.input) = .ok next := bound
  have authored := reachable.author (.bind binding.node binding.slot binding.input)
  rwa [ShaderGraph.author, performed] at authored

/-! ### Two sequences -/

section

variable {first second : List Binding} {afterFirst afterSecond : ShaderGraph}

/-- Sequences that agree on the inputs last bound leave alike nodes. -/
theorem Rebound.alikeAt (firstLeaves : graph.Rebound first afterFirst)
    (secondLeaves : graph.Rebound second afterSecond)
    (agree : ∀ node invocation, graph.node? node = some (.call invocation) →
      ∀ slot, graph.lastBound? first node slot = graph.lastBound? second node slot)
    (index : NodeIndex) : ShaderNodes.AlikeAt afterFirst.nodes afterSecond.nodes index := by
  by_cases isCall : ∃ invocation, graph.nodes.get? index = some (.call invocation)
  · obtain ⟨invocation, held⟩ := isCall
    obtain ⟨firstInputs, firstHeld, firstAnswers⟩ := firstLeaves.call index invocation held
    obtain ⟨secondInputs, secondHeld, secondAnswers⟩ := secondLeaves.call index invocation held
    have same := agree (graph.idOf index) invocation (node?_idOf.trans held)
    rw [ShaderNodes.AlikeAt, firstHeld, secondHeld]
    refine .some (.call ⟨rfl, rfl, fun slot => ?_⟩)
    rw [secondAnswers, firstAnswers, same]
  · have noCall : ∀ invocation, graph.nodes.get? index ≠ some (.call invocation) :=
      fun invocation held => isCall ⟨invocation, held⟩
    apply ShaderNodes.alikeAt_of_eq
    rw [(secondLeaves.other index noCall).1, (firstLeaves.other index noCall).1]

/-- Alike nodes have the same edges, since the edges are the arguments in the order of the
parameters. -/
theorem Rebound.dependencies_eq (firstLeaves : graph.Rebound first afterFirst)
    (secondLeaves : graph.Rebound second afterSecond) (firstFormed : afterFirst.WellFormed)
    (secondFormed : afterSecond.WellFormed) {index : NodeIndex}
    (alike : ShaderNodes.AlikeAt afterFirst.nodes afterSecond.nodes index) :
    afterSecond.nodes.dependencies index = afterFirst.nodes.dependencies index := by
  rcases alike.cases with ⟨node, other, held, found, same⟩ | ⟨held, found⟩
  · rw [secondFormed.edges index other found, firstFormed.edges index node held, same.arguments]
  · have noCall : ∀ invocation, graph.nodes.get? index ≠ some (.call invocation) := by
      intro invocation before
      obtain ⟨_, changed, _⟩ := firstLeaves.call index invocation before
      cases held.symm.trans changed
    rw [(secondLeaves.other index noCall).2, (firstLeaves.other index noCall).2]

/-- The order of bind calls does not matter.  Take two sequences of bind calls that succeed on a graph,
however it came about.  If for every function node and slot they agree on the input last bound, the
graphs that they lead to have the same edges and the same types everywhere, and compile to the same
descriptor or fail with the same error. -/
theorem bind_order_irrelevant (reachable : graph.Reachable)
    (ranFirst : graph.bindAll first = .ok afterFirst)
    (ranSecond : graph.bindAll second = .ok afterSecond)
    (agree : ∀ node invocation, graph.node? node = some (.call invocation) →
      ∀ slot, graph.lastBound? first node slot = graph.lastBound? second node slot) :
    (∀ index, afterFirst.nodes.dependencies index = afterSecond.nodes.dependencies index) ∧
      (∀ index, afterFirst.typeAt? index = afterSecond.typeAt? index) ∧
      afterFirst.compile = afterSecond.compile := by
  have firstLeaves := rebound_bindAll ranFirst
  have secondLeaves := rebound_bindAll ranSecond
  have firstFormed := (reachable.bindAll ranFirst).wellFormed
  have secondFormed := (reachable.bindAll ranSecond).wellFormed
  have alike := firstLeaves.alikeAt secondLeaves agree
  have edges : ∀ index, afterSecond.nodes.dependencies index = afterFirst.nodes.dependencies index :=
    fun index => firstLeaves.dependencies_eq secondLeaves firstFormed secondFormed (alike index)
  have graphsAlike : afterFirst.Alike afterSecond :=
    { registry := secondLeaves.registry.trans firstLeaves.registry.symm
      options := secondLeaves.options.trans firstLeaves.options.symm
      vertexRoot := secondLeaves.vertexRoot.trans firstLeaves.vertexRoot.symm
      fragmentRoot := secondLeaves.fragmentRoot.trans firstLeaves.fragmentRoot.symm
      varys := secondLeaves.varys.trans firstLeaves.varys.symm
      nodes := ⟨fun index _ => alike index, fun index _ => edges index⟩ }
  refine ⟨fun index => (edges index).symm, fun index => ?_, ?_⟩
  · rcases (alike index).cases with ⟨node, other, held, found, same⟩ | ⟨held, found⟩
    · simp only [typeAt?, held, found, Option.map_some, same.ty]
    · simp only [typeAt?, held, found]
  · exact (compile_alike graphsAlike firstFormed.edges).symm

end

/-! ### Two slots bound in either order -/

/-- A color, and another one tinted by it as soon as the slots of the invocation are bound. -/
def openTinting : ShaderGraph :=
  (new 1 tintedPosition.registry).authorAll
    [.uniform "color" (.defaultFor .vec4), .constant (.vec4 .zero .zero .zero .one), .call "tinted",
      .setVertexRoot ⟨1, 2⟩, .setFragmentRoot ⟨1, 2⟩]

/-- The slots in the order of the parameters. -/
def bindsInOrder : List Binding := [⟨⟨1, 2⟩, "base", ⟨1, 0⟩⟩, ⟨⟨1, 2⟩, "tint", ⟨1, 1⟩⟩]

/-- The slots the other way round, one of them at first to the invocation itself. -/
def bindsOutOfOrder : List Binding :=
  [⟨⟨1, 2⟩, "tint", ⟨1, 2⟩⟩, ⟨⟨1, 2⟩, "base", ⟨1, 0⟩⟩, ⟨⟨1, 2⟩, "tint", ⟨1, 1⟩⟩]

/-- The invocation with its slots in the order given. -/
def boundTinting (entries : List (String × NodeIndex)) : ShaderGraph :=
  openTinting.replace 2 (.call { function := tinting, bound := .ofList entries })

theorem link_boundTinting :
    (boundTinting [("base", 0), ("tint", 1)]).link.map (fun program => program.vertex.order) =
      .ok [0, 1, 2] :=
  map_link_eq_of_linkWithin 6 (by decide +kernel)

/-- The graphs differ, and compile to one descriptor. -/
theorem bind_order_irrelevant_openTinting :
    openTinting.Reachable ∧
      openTinting.bindAll bindsInOrder = .ok (boundTinting [("base", 0), ("tint", 1)]) ∧
      openTinting.bindAll bindsOutOfOrder = .ok (boundTinting [("tint", 1), ("base", 0)]) ∧
      boundTinting [("base", 0), ("tint", 1)] ≠ boundTinting [("tint", 1), ("base", 0)] ∧
      (∀ node slot, openTinting.lastBound? bindsInOrder node slot =
        openTinting.lastBound? bindsOutOfOrder node slot) ∧
      ∃ descriptor, (boundTinting [("base", 0), ("tint", 1)]).compile = .ok descriptor ∧
        (boundTinting [("tint", 1), ("base", 0)]).compile = .ok descriptor := by
  have reachable : openTinting.Reachable := ⟨_, _, _, rfl⟩
  have inOrder : openTinting.bindAll bindsInOrder =
      .ok (boundTinting [("base", 0), ("tint", 1)]) := by decide +kernel
  have outOfOrder : openTinting.bindAll bindsOutOfOrder =
      .ok (boundTinting [("tint", 1), ("base", 0)]) := by decide +kernel
  have agree : ∀ node slot, openTinting.lastBound? bindsInOrder node slot =
      openTinting.lastBound? bindsOutOfOrder node slot := by
    intro node slot
    have sameLast : lastInput? bindsInOrder node slot = lastInput? bindsOutOfOrder node slot := by
      by_cases here : (⟨1, 2⟩ : NodeId) = node
      · by_cases tint : "tint" = slot
        · simp [lastInput?, bindsInOrder, bindsOutOfOrder, here, tint]
        · by_cases base : "base" = slot <;>
            simp [lastInput?, bindsInOrder, bindsOutOfOrder, here, tint, base]
      · simp [lastInput?, bindsInOrder, bindsOutOfOrder, here]
    rw [lastBound?, sameLast, lastBound?]
  obtain ⟨program, linked, _⟩ := map_eq_ok_iff.mp link_boundTinting
  have compiled : (boundTinting [("base", 0), ("tint", 1)]).compile = .ok program.descriptor :=
    compile_eq_ok_iff.mpr ⟨program, linked, rfl⟩
  obtain ⟨_, _, same⟩ := bind_order_irrelevant reachable inOrder outOfOrder
    fun node _ _ slot => agree node slot
  exact ⟨reachable, inOrder, outOfOrder, by decide +kernel, agree, program.descriptor, compiled,
    same.symm.trans compiled⟩

end ShaderGraph

end ShaderFlow

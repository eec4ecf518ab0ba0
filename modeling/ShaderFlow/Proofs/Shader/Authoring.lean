/-
Module: ShaderFlow.Proofs.Shader.Authoring
Purpose: Runs of authoring calls on a shader graph, and what one call can do.
Main exports: AuthoringCall, ShaderGraph.perform, ShaderGraph.authorAll, Creates, Authors,
  authors_of_perform, Reachable, Reachable.invariant
-/
import ShaderFlow.Proofs.Graph.Arena
import ShaderFlow.Proofs.Outcome
import ShaderFlow.Shader.Graph

namespace ShaderFlow

/-!
A graph is only ever changed by authoring calls.  `Authors` lists what a successful call does, with
everything that the call has checked, so that an invariant of the graphs needs no look at the calls
themselves.  A call that fails leaves the graph as it was.
-/

/-- A call that may change a graph. -/
inductive AuthoringCall where
  | vertexAttribute (name : String) (ty : ShaderType)
  | uniform (name : String) (default : ShaderValue)
  | engineUniform (quantity : EngineUniform)
  | constant (value : ShaderValue)
  | textureFetch (texture : String) (coordinate : NodeId)
  | combine (ty : ShaderType) (parts : List NodeId)
  | swizzle (source : NodeId) (mask : String)
  | call (function : String)
  | vary (name : String)
  | bind (node : NodeId) (slot : String) (input : NodeId)
  | setLabel (node : NodeId) (label : String)
  | setVertexRoot (node : NodeId)
  | setFragmentRoot (node : NodeId)
  | setVary (name : String) (node : NodeId)
  | setOptions (options : EntryNames)
  | reset (generation : Nat)

namespace ShaderGraph

/-- The graph without nodes, roots and slots. -/
def new (generation : Nat) (registry : FunctionRegistry) : ShaderGraph := { generation, registry }

/-- The graph after a call, or the reason why the call fails. -/
def perform (graph : ShaderGraph) : AuthoringCall → Except ShaderError ShaderGraph
  | .vertexAttribute name ty => (graph.vertexAttribute name ty).map Prod.snd
  | .uniform name default => (graph.uniform name default).map Prod.snd
  | .engineUniform quantity => .ok (graph.engineUniform quantity).2
  | .constant value => (graph.constant value).map Prod.snd
  | .textureFetch texture coordinate => (graph.textureFetch texture coordinate).map Prod.snd
  | .combine ty parts => (graph.combine ty parts).map Prod.snd
  | .swizzle source mask => (graph.swizzle source mask).map Prod.snd
  | .call function => (graph.call function).map Prod.snd
  | .vary name => (graph.vary name).map Prod.snd
  | .bind node slot input => graph.bind node slot input
  | .setLabel node label => graph.setLabel node label
  | .setVertexRoot node => graph.setVertexRoot node
  | .setFragmentRoot node => graph.setFragmentRoot node
  | .setVary name node => graph.setVary name node
  | .setOptions options => .ok { graph with options }
  | .reset generation => .ok (graph.reset generation)

/-- The graph after a call that may fail. -/
def author (graph : ShaderGraph) (call : AuthoringCall) : ShaderGraph :=
  match graph.perform call with
  | .ok next => next
  | .error _ => graph

/-- The graph after a list of calls, any of which may fail. -/
def authorAll (graph : ShaderGraph) (calls : List AuthoringCall) : ShaderGraph :=
  calls.foldl author graph

/-- The type of a vary slot: the type of the node that produces it at present. -/
def varyType? (graph : ShaderGraph) (name : String) : Option ShaderType :=
  ((graph.varys.get? name).bind graph.nodes.get?).map ShaderNode.ty

/-! ### What one call does -/

/-- The nodes that a call may create in a graph. -/
inductive Creates (graph : ShaderGraph) : AuthoringCall → ShaderNode → Prop where
  | vertexAttribute {name : String} {ty : ShaderType} (named : isIdentifier name) :
      Creates graph (.vertexAttribute name ty) (.vertexAttribute name ty)
  | uniform {name : String} {default : ShaderValue} (named : isIdentifier name)
      (finite : default.isFinite) :
      Creates graph (.uniform name default) (.uniform name default)
  | engineUniform {quantity : EngineUniform} :
      Creates graph (.engineUniform quantity) (.engine quantity)
  | constant {value : ShaderValue} (finite : value.isFinite) :
      Creates graph (.constant value) (.constant value)
  | textureFetch {texture : String} {coordinate : NodeId} {node : ShaderNode}
      (named : isIdentifier texture) (held : graph.node? coordinate = some node)
      (typed : node.ty = .vec2) :
      Creates graph (.textureFetch texture coordinate) (.fetch texture coordinate.index)
  | combine {ty : ShaderType} {parts : List NodeId} {indices : List NodeIndex} {size : Nat}
      (vector : ty.vectorSize? = some size)
      (filled : graph.combineParts ty parts = .ok (indices, size)) :
      Creates graph (.combine ty parts) (.combine ty indices)
  | swizzle {source : NodeId} {mask : String} {node : ShaderNode} {ty : ShaderType}
      (held : graph.node? source = some node)
      (typed : Swizzle.resultType node.ty (Text.trimBlank mask.toList) = .ok ty) :
      Creates graph (.swizzle source mask)
        (.swizzle source.index (String.ofList (Text.trimBlank mask.toList)) ty)
  | call {name : String} {function : ShaderFunction}
      (registered : graph.registry.get? name = some function) :
      Creates graph (.call name) (.call { function })
  | vary {name : String} {ty : ShaderType} (typed : graph.varyType? name = some ty) :
      Creates graph (.vary name) (.vary name ty)

/-- What a successful call does to a graph. -/
inductive Authors (graph : ShaderGraph) : AuthoringCall → ShaderGraph → Prop where
  | create {call : AuthoringCall} {node : ShaderNode} (creates : graph.Creates call node) :
      Authors graph call (graph.insert node).2
  | bind {node input : NodeId} {slot : String} {invocation : FunctionCall} {inputNode : ShaderNode}
      (held : graph.node? node = some (.call invocation))
      (given : graph.node? input = some inputNode)
      (typed : invocation.function.inputType? slot = some inputNode.ty) :
      Authors graph (.bind node slot input)
        (graph.replace node.index (.call (invocation.bind slot input.index)))
  | label {node : NodeId} {label : String} {invocation : FunctionCall}
      (held : graph.node? node = some (.call invocation)) :
      Authors graph (.setLabel node label)
        { graph with
          nodes := graph.nodes.set node.index (.call { invocation with label := some label }) }
  | unlabelled {node : NodeId} {label : String} {target : ShaderNode}
      (held : graph.node? node = some target) (other : ∀ invocation, target ≠ .call invocation) :
      Authors graph (.setLabel node label) graph
  | vertexRoot {node : NodeId} {root : ShaderNode} (held : graph.node? node = some root)
      (typed : root.ty = .vec4) :
      Authors graph (.setVertexRoot node) { graph with vertexRoot := some node.index }
  | fragmentRoot {node : NodeId} {root : ShaderNode} (held : graph.node? node = some root)
      (typed : root.ty = .vec4) :
      Authors graph (.setFragmentRoot node) { graph with fragmentRoot := some node.index }
  | varySlot {name : String} {node : NodeId} {producer : ShaderNode} (named : isIdentifier name)
      (held : graph.node? node = some producer) (typed : producer.ty.componentCount?.isSome) :
      Authors graph (.setVary name node)
        { graph with varys := graph.varys.insert name node.index }
  | options {options : EntryNames} : Authors graph (.setOptions options) { graph with options }
  | reset {generation : Nat} : Authors graph (.reset generation) (graph.reset generation)

variable {graph next : ShaderGraph} {call : AuthoringCall}

theorem lookup_eq_ok_iff {id : NodeId} {found : NodeIndex × ShaderNode} :
    graph.lookup id = .ok found ↔ id.index = found.1 ∧ graph.node? id = some found.2 := by
  obtain ⟨index, node⟩ := found
  unfold lookup
  cases graph.node? id <;> simp

theorem checkIdentifier_eq_ok_iff {name : String} {done : Unit} :
    checkIdentifier name = .ok done ↔ isIdentifier name := by
  unfold checkIdentifier
  split <;> simp_all

theorem get?_of_node? {id : NodeId} {node : ShaderNode} (held : graph.node? id = some node) :
    graph.nodes.get? id.index = some node := by
  unfold node? at held
  split at held
  · exact held
  · cases held

theorem checkRoot_eq_ok {id : NodeId} {place : TypedPlace} {index : NodeIndex}
    (checked : graph.checkRoot id place = .ok index) :
    ∃ root, index = id.index ∧ graph.node? id = some root ∧ root.ty = .vec4 := by
  obtain ⟨⟨found, root⟩, looked, inner⟩ := bind_eq_ok_iff.mp checked
  obtain ⟨rfl, held⟩ := lookup_eq_ok_iff.mp looked
  dsimp only at inner
  split at inner
  · next typed =>
      cases inner
      exact ⟨root, rfl, held, typed⟩
  · cases inner

/-- A call that succeeds does what `Authors` says. -/
theorem authors_of_perform (performed : graph.perform call = .ok next) :
    graph.Authors call next := by
  cases call with
  | vertexAttribute name ty =>
      obtain ⟨made, created, rfl⟩ := map_eq_ok_iff.mp performed
      obtain ⟨_, named, done⟩ := bind_eq_ok_iff.mp created
      cases done
      exact .create (.vertexAttribute (checkIdentifier_eq_ok_iff.mp named))
  | uniform name default =>
      obtain ⟨made, created, rfl⟩ := map_eq_ok_iff.mp performed
      obtain ⟨_, named, inner⟩ := bind_eq_ok_iff.mp created
      split at inner
      · next finite =>
          cases inner
          exact .create (.uniform (checkIdentifier_eq_ok_iff.mp named) finite)
      · cases inner
  | engineUniform quantity =>
      cases performed
      exact .create .engineUniform
  | constant value =>
      obtain ⟨made, created, rfl⟩ := map_eq_ok_iff.mp performed
      unfold constant at created
      split at created
      · next finite =>
          cases created
          exact .create (.constant finite)
      · cases created
  | textureFetch texture coordinate =>
      obtain ⟨made, created, rfl⟩ := map_eq_ok_iff.mp performed
      obtain ⟨_, named, later⟩ := bind_eq_ok_iff.mp created
      obtain ⟨⟨index, node⟩, looked, inner⟩ := bind_eq_ok_iff.mp later
      obtain ⟨rfl, held⟩ := lookup_eq_ok_iff.mp looked
      dsimp only at inner
      split at inner
      · next typed =>
          cases inner
          exact .create (.textureFetch (checkIdentifier_eq_ok_iff.mp named) held typed)
      · cases inner
  | combine ty parts =>
      obtain ⟨made, created, rfl⟩ := map_eq_ok_iff.mp performed
      unfold combine at created
      split at created
      · cases created
      · next size vector =>
          obtain ⟨⟨indices, total⟩, filled, inner⟩ := bind_eq_ok_iff.mp created
          dsimp only at inner
          split at inner
          · next sized =>
              cases inner
              exact .create (.combine vector (sized ▸ filled))
          · cases inner
  | swizzle source mask =>
      obtain ⟨made, created, rfl⟩ := map_eq_ok_iff.mp performed
      obtain ⟨⟨index, node⟩, looked, inner⟩ := bind_eq_ok_iff.mp created
      obtain ⟨rfl, held⟩ := lookup_eq_ok_iff.mp looked
      dsimp only at inner
      split at inner
      · next typed =>
          cases inner
          exact .create (.swizzle held typed)
      · cases inner
  | call function =>
      obtain ⟨made, created, rfl⟩ := map_eq_ok_iff.mp performed
      unfold ShaderGraph.call at created
      split at created
      · next registered =>
          cases created
          exact .create (.call registered)
      · cases created
  | vary name =>
      obtain ⟨made, created, rfl⟩ := map_eq_ok_iff.mp performed
      unfold ShaderGraph.vary at created
      split at created
      · cases created
      · next index slot =>
          split at created
          · next producer held =>
              cases created
              exact .create (.vary (by simp [varyType?, slot, held]))
          · cases created
  | bind node slot input =>
      obtain ⟨⟨index, target⟩, looked, later⟩ := bind_eq_ok_iff.mp performed
      obtain ⟨⟨inputIndex, inputNode⟩, lookedInput, inner⟩ := bind_eq_ok_iff.mp later
      obtain ⟨rfl, held⟩ := lookup_eq_ok_iff.mp looked
      obtain ⟨rfl, given⟩ := lookup_eq_ok_iff.mp lookedInput
      dsimp only at inner
      split at inner
      · split at inner
        · cases inner
        · next declared =>
            split at inner
            · next typed =>
                cases inner
                exact .bind held given (typed ▸ declared)
            · cases inner
      · cases inner
  | setLabel node label =>
      obtain ⟨⟨index, target⟩, looked, inner⟩ := bind_eq_ok_iff.mp performed
      obtain ⟨rfl, held⟩ := lookup_eq_ok_iff.mp looked
      dsimp only at inner
      split at inner
      · cases inner
        exact .label held
      · next other =>
          cases inner
          exact .unlabelled held other
  | setVertexRoot node =>
      obtain ⟨index, checked, done⟩ := bind_eq_ok_iff.mp performed
      cases done
      obtain ⟨root, rfl, held, typed⟩ := checkRoot_eq_ok checked
      exact .vertexRoot held typed
  | setFragmentRoot node =>
      obtain ⟨index, checked, done⟩ := bind_eq_ok_iff.mp performed
      cases done
      obtain ⟨root, rfl, held, typed⟩ := checkRoot_eq_ok checked
      exact .fragmentRoot held typed
  | setVary name node =>
      obtain ⟨_, named, later⟩ := bind_eq_ok_iff.mp performed
      obtain ⟨⟨index, producer⟩, looked, inner⟩ := bind_eq_ok_iff.mp later
      obtain ⟨rfl, held⟩ := lookup_eq_ok_iff.mp looked
      dsimp only at inner
      split at inner
      · next typed =>
          cases inner
          exact .varySlot (checkIdentifier_eq_ok_iff.mp named) held typed
      · cases inner
  | setOptions options =>
      cases performed
      exact .options
  | reset generation =>
      cases performed
      exact .reset

/-! ### Slots of the arena -/

theorem get?_insert {node : ShaderNode} {index : NodeIndex} :
    (graph.insert node).2.nodes.get? index =
      if index = graph.nodes.size then some node else graph.nodes.get? index := by
  unfold insert
  rw [DependencyGraph.get?_setDependencies, DependencyGraph.get?_add]

theorem node?_idOf {index : NodeIndex} : graph.node? (graph.idOf index) = graph.nodes.get? index :=
  if_pos rfl

/-- A node that is inserted is under an id that denoted nothing before. -/
theorem node?_of_insert {id : NodeId} {node : ShaderNode}
    (inserted : graph.insert node = (id, next)) :
    graph.node? id = none ∧ next.node? id = some node := by
  cases inserted
  refine ⟨node?_idOf.trans ?_, node?_idOf.trans (get?_insert.trans (if_pos rfl))⟩
  cases found : graph.nodes.get? graph.nodes.size with
  | none => rfl
  | some _ => exact absurd (DependencyGraph.lt_size_of_get? found) (Nat.lt_irrefl _)

theorem get?_replace {node : ShaderNode} {index other : NodeIndex}
    (inside : index < graph.nodes.size) :
    (graph.replace index node).nodes.get? other =
      if other = index then some node else graph.nodes.get? other := by
  unfold replace
  rw [DependencyGraph.get?_setDependencies, DependencyGraph.get?_set inside]

/-- A node after a call was there before, or is created by the call, or is a function node of which
the call has changed a binding or the label. -/
theorem Authors.node_cases {index : NodeIndex} {node : ShaderNode}
    (authors : graph.Authors call next) (held : next.nodes.get? index = some node) :
    graph.nodes.get? index = some node ∨
      (index = graph.nodes.size ∧ graph.Creates call node) ∨
      ∃ invocation changed, graph.nodes.get? index = some (.call invocation) ∧
        node = .call changed ∧ changed.function = invocation.function := by
  cases authors with
  | @create _ created creates =>
      rw [get?_insert] at held
      split at held
      · next last =>
          cases held
          exact .inr (.inl ⟨last, creates⟩)
      · exact .inl held
  | @bind target input slot invocation _ found _ _ =>
      have inside := DependencyGraph.lt_size_of_get? (get?_of_node? found)
      rw [get?_replace inside] at held
      split at held
      · next same =>
          cases held
          exact .inr (.inr ⟨invocation, _, same ▸ get?_of_node? found, rfl, rfl⟩)
      · exact .inl held
  | @label target _ invocation found =>
      have inside := DependencyGraph.lt_size_of_get? (get?_of_node? found)
      rw [DependencyGraph.get?_set inside] at held
      split at held
      · next same =>
          cases held
          exact .inr (.inr ⟨invocation, _, same ▸ get?_of_node? found, rfl, rfl⟩)
      · exact .inl held
  | reset => cases held
  | unlabelled | vertexRoot | fragmentRoot | varySlot | options => exact .inl held

/-- A call other than a reset keeps every slot filled, by a node of the same type. -/
theorem Authors.node_kept {index : NodeIndex} {node : ShaderNode}
    (authors : graph.Authors call next) (keeps : ∀ generation, call ≠ .reset generation)
    (held : graph.nodes.get? index = some node) :
    ∃ later, next.nodes.get? index = some later ∧ later.ty = node.ty := by
  cases authors with
  | create creates =>
      refine ⟨node, ?_, rfl⟩
      rw [get?_insert, if_neg (Nat.ne_of_lt (DependencyGraph.lt_size_of_get? held)), held]
  | @bind target input slot invocation _ found _ _ =>
      have there := get?_of_node? found
      rw [get?_replace (DependencyGraph.lt_size_of_get? there)]
      split
      · next same =>
          subst same
          rw [there] at held
          cases held
          exact ⟨_, rfl, rfl⟩
      · exact ⟨node, held, rfl⟩
  | @label target _ invocation found =>
      have there := get?_of_node? found
      rw [DependencyGraph.get?_set (DependencyGraph.lt_size_of_get? there)]
      split
      · next same =>
          subst same
          rw [there] at held
          cases held
          exact ⟨_, rfl, rfl⟩
      · exact ⟨node, held, rfl⟩
  | reset => exact absurd rfl (keeps _)
  | unlabelled | vertexRoot | fragmentRoot | varySlot | options => exact ⟨node, held, rfl⟩

theorem Authors.registry_eq (authors : graph.Authors call next) :
    next.registry = graph.registry := by
  cases authors <;> rfl

/-! ### Runs of calls -/

theorem authorAll_append (calls later : List AuthoringCall) :
    graph.authorAll (calls ++ later) = (graph.authorAll calls).authorAll later :=
  List.foldl_append

/-- A call fails and changes nothing, or does what `Authors` says. -/
theorem author_cases (graph : ShaderGraph) (call : AuthoringCall) :
    graph.author call = graph ∨ graph.Authors call (graph.author call) := by
  unfold author
  split
  · next performed => exact .inr (authors_of_perform performed)
  · exact .inl rfl

/-- What the successful calls of a run keep holds after the run. -/
theorem authorAll_invariant (holds : ShaderGraph → Prop) {calls : List AuthoringCall}
    (kept : ∀ graph, ∀ call ∈ calls, ∀ next, holds graph → graph.Authors call next → holds next)
    (initially : holds graph) : holds (graph.authorAll calls) := by
  induction calls generalizing graph with
  | nil => exact initially
  | cons call rest ih =>
      apply ih
      · intro graph other member
        exact kept graph other (.tail _ member)
      · rcases author_cases graph call with unchanged | authors
        · rw [unchanged]
          exact initially
        · exact kept graph call List.mem_cons_self _ initially authors

/-- Some run of calls on a new graph leads to this graph. -/
def Reachable (graph : ShaderGraph) : Prop :=
  ∃ generation registry calls, graph = (new generation registry).authorAll calls

/-- An invariant holds of new graphs and is kept by successful calls. -/
theorem Reachable.invariant (holds : ShaderGraph → Prop) (reachable : graph.Reachable)
    (initially : ∀ generation registry, holds (new generation registry))
    (kept : ∀ graph call next, holds graph → graph.Authors call next → holds next) :
    holds graph := by
  obtain ⟨generation, registry, calls, rfl⟩ := reachable
  exact authorAll_invariant holds (fun graph call _ => kept graph call)
    (initially generation registry)

end ShaderGraph

end ShaderFlow

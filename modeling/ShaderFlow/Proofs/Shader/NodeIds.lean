/-
Module: ShaderFlow.Proofs.Shader.NodeIds
Purpose: Which ids a graph accepts, what becomes of them in a call, and which ids a graph hands out.
Main exports: ShaderNode.Continues, ShaderGraph.Accepts, ShaderGraph.Issues,
  ShaderGraph.faultBefore?, ShaderGraph.perform_of_foreign, ShaderGraph.perform_ne_foreign,
  ShaderGraph.Issues.accepts, ShaderGraph.node?_author
-/
import ShaderFlow.Proofs.Shader.Declarations

namespace ShaderFlow

/-! ### Calls -/

namespace AuthoringCall

/-- The ids that a call takes, in the order in which it looks them up. -/
def nodeIds : AuthoringCall → List NodeId
  | textureFetch _ coordinate => [coordinate]
  | combine _ parts => parts
  | swizzle source _ => [source]
  | bind node _ input => [node, input]
  | setLabel node _ | setVertexRoot node | setFragmentRoot node | setVary _ node => [node]
  | vertexAttribute .. | uniform .. | engineUniform _ | constant _ | call _ | vary _ | setOptions _
  | reset _ => []

/-- The node that a call may change. -/
def changed? : AuthoringCall → Option NodeId
  | bind node .. | setLabel node _ => some node
  | vertexAttribute .. | uniform .. | engineUniform _ | constant _ | textureFetch .. | combine ..
  | swizzle .. | call _ | vary _ | setVertexRoot _ | setFragmentRoot _ | setVary .. | setOptions _
  | reset _ => none

end AuthoringCall

/-- What a node can become: its bindings and its label may change if it invokes a function, and nothing
else. -/
inductive ShaderNode.Continues : ShaderNode → ShaderNode → Prop where
  | same (node : ShaderNode) : Continues node node
  | call {invocation changed : FunctionCall} (function : changed.function = invocation.function) :
      Continues (.call invocation) (.call changed)

namespace ShaderNode

variable {node later last : ShaderNode}

theorem Continues.ty_eq (continues : node.Continues later) : later.ty = node.ty := by
  cases continues with
  | same => rfl
  | call function => exact congrArg ShaderFunction.returnType function

theorem Continues.trans (first : node.Continues later) (second : later.Continues last) :
    node.Continues last := by
  cases first with
  | same => exact second
  | call function =>
      cases second with
      | same => exact .call function
      | call again => exact .call (again.trans function)

end ShaderNode

namespace ShaderGraph

variable {graph next after : ShaderGraph} {call : AuthoringCall} {id : NodeId} {node : ShaderNode}

/-- The graph has a node under an id. -/
def Accepts (graph : ShaderGraph) (id : NodeId) : Prop := ∃ node, graph.node? id = some node

/-- The id that a call returns if it creates a node, and the graph with the node. -/
def created? (graph : ShaderGraph) : AuthoringCall → Option (NodeId × ShaderGraph)
  | .vertexAttribute name ty => (graph.vertexAttribute name ty).toOption
  | .uniform name default => (graph.uniform name default).toOption
  | .engineUniform quantity => some (graph.engineUniform quantity)
  | .constant value => (graph.constant value).toOption
  | .textureFetch texture coordinate => (graph.textureFetch texture coordinate).toOption
  | .combine ty parts => (graph.combine ty parts).toOption
  | .swizzle source mask => (graph.swizzle source mask).toOption
  | .call function => (graph.call function).toOption
  | .vary name => (graph.vary name).toOption
  | .bind .. | .setLabel .. | .setVertexRoot _ | .setFragmentRoot _ | .setVary .. | .setOptions _
  | .reset _ => none

/-- A graph hands out an id, and is then as given: it creates a node, or tells a root or a slot. -/
inductive Issues (graph : ShaderGraph) : NodeId → ShaderGraph → Prop where
  | created {call : AuthoringCall} {id : NodeId} {after : ShaderGraph}
      (created : graph.created? call = some (id, after)) : Issues graph id after
  | vertexRoot {index : NodeIndex} (held : graph.vertexRoot = some index) :
      Issues graph (graph.idOf index) graph
  | fragmentRoot {index : NodeIndex} (held : graph.fragmentRoot = some index) :
      Issues graph (graph.idOf index) graph
  | varySlot {name : String} {index : NodeIndex} (held : graph.varys.get? name = some index) :
      Issues graph (graph.idOf index) graph

/-- The fault of the first part of a combination that has no components, if it comes before all ids that
the graph does not accept. -/
def partFault? (graph : ShaderGraph) (ty : ShaderType) : List NodeId → Option ShaderError
  | [] => none
  | part :: rest =>
      match graph.node? part with
      | none => none
      | some node =>
          match node.ty.componentCount? with
          | none => some (.typeMismatch (.combinePart ty) .float node.ty)
          | some _ => graph.partFault? ty rest

/-- The fault that a call finds before it looks up an id that the graph does not accept. -/
def faultBefore? (graph : ShaderGraph) : AuthoringCall → Option ShaderError
  | .textureFetch name _ | .setVary name _ =>
      if isIdentifier name then none else some (.invalidIdentifier name)
  | .combine ty parts =>
      match ty.vectorSize? with
      | none => some (.combineArity ty 0)
      | some _ => graph.partFault? ty parts
  | .swizzle .. | .bind .. | .setLabel .. | .setVertexRoot _ | .setFragmentRoot _
  | .vertexAttribute .. | .uniform .. | .engineUniform _ | .constant _ | .call _ | .vary _
  | .setOptions _ | .reset _ => none

/-! ### Looking up ids -/

theorem node?_of_foreign (foreign : ¬ graph.Accepts id) : graph.node? id = none := by
  cases found : graph.node? id with
  | none => rfl
  | some node => exact absurd ⟨node, found⟩ foreign

theorem lookup_of_foreign (foreign : ¬ graph.Accepts id) :
    graph.lookup id = .error .foreignNode := by
  rw [lookup, node?_of_foreign foreign]

theorem Accepts.exists_lookup (accepts : graph.Accepts id) :
    ∃ node, graph.lookup id = .ok (id.index, node) := by
  obtain ⟨node, found⟩ := accepts
  exact ⟨node, by rw [lookup, found]⟩

theorem node?_eq_some_iff :
    graph.node? id = some node ↔
      id.generation = graph.generation ∧ graph.nodes.get? id.index = some node := by
  unfold node?
  split
  · next same => simp [same]
  · next other => simp [other]

theorem combineParts_of_foreign {ty : ShaderType} {parts : List NodeId}
    (foreign : ¬ graph.Accepts id) (taken : id ∈ parts) :
    graph.combineParts ty parts = .error ((graph.partFault? ty parts).getD .foreignNode) := by
  induction parts with
  | nil => cases taken
  | cons part rest ih =>
      unfold combineParts partFault?
      by_cases accepted : graph.Accepts part
      · have later : id ∈ rest := by
          rcases List.mem_cons.mp taken with rfl | later
          · exact absurd accepted foreign
          · exact later
        obtain ⟨node, found⟩ := accepted
        rw [lookup, found]
        dsimp only [Bind.bind, Except.bind]
        cases node.ty.componentCount? with
        | none => rfl
        | some count =>
            dsimp only
            rw [ih later]
      · rw [lookup_of_foreign accepted, node?_of_foreign accepted]
        rfl

/-- A call that takes an id that the graph does not accept fails: what it finds before is reported, and
otherwise the id. -/
theorem perform_of_foreign (foreign : ¬ graph.Accepts id) (taken : id ∈ call.nodeIds) :
    graph.perform call = .error ((graph.faultBefore? call).getD .foreignNode) := by
  have refused := lookup_of_foreign foreign
  cases call with
  | textureFetch texture coordinate =>
      cases List.mem_singleton.mp taken
      dsimp only [perform, textureFetch, checkIdentifier, faultBefore?]
      rw [refused]
      split <;> rfl
  | combine ty parts =>
      dsimp only [perform, combine, faultBefore?]
      cases ty.vectorSize? with
      | none => rfl
      | some size =>
          dsimp only
          have part : id ∈ parts := taken
          rw [combineParts_of_foreign foreign part]
          rfl
  | setVary name target =>
      cases List.mem_singleton.mp taken
      dsimp only [perform, setVary, checkIdentifier, faultBefore?]
      rw [refused]
      split <;> rfl
  | bind target slot input =>
      dsimp only [perform, ShaderGraph.bind]
      by_cases accepted : graph.Accepts target
      · have isInput : id = input := by
          rcases List.mem_cons.mp taken with rfl | last
          · exact absurd accepted foreign
          · exact List.mem_singleton.mp last
        obtain ⟨node, found⟩ := accepted.exists_lookup
        rw [found, ← isInput, refused]
        rfl
      · rw [lookup_of_foreign accepted]
        rfl
  | swizzle source mask =>
      cases List.mem_singleton.mp taken
      dsimp only [perform, swizzle]
      rw [refused]
      rfl
  | setLabel target label =>
      cases List.mem_singleton.mp taken
      dsimp only [perform, setLabel]
      rw [refused]
      rfl
  | setVertexRoot target =>
      cases List.mem_singleton.mp taken
      dsimp only [perform, setVertexRoot, checkRoot]
      rw [refused]
      rfl
  | setFragmentRoot target =>
      cases List.mem_singleton.mp taken
      dsimp only [perform, setFragmentRoot, checkRoot]
      rw [refused]
      rfl
  | vertexAttribute | uniform | engineUniform | constant | call | vary | setOptions | reset =>
      cases taken

section

variable {β γ : Type}

theorem lookup_bind_ne_foreign {next : NodeIndex × ShaderNode → Except ShaderError β}
    (accepts : graph.Accepts id) (others : ∀ node, next (id.index, node) ≠ .error .foreignNode) :
    graph.lookup id >>= next ≠ .error .foreignNode := by
  obtain ⟨node, found⟩ := accepts.exists_lookup
  rw [found]
  exact others node

theorem checkIdentifier_bind_ne_foreign {name : String} {next : Unit → Except ShaderError β}
    (others : next () ≠ .error .foreignNode) :
    checkIdentifier name >>= next ≠ .error .foreignNode := by
  unfold checkIdentifier
  split
  · exact others
  · exact nofun

theorem map_ne_foreign {result : Except ShaderError β} (f : β → γ)
    (others : result ≠ .error .foreignNode) : result.map f ≠ .error .foreignNode := by
  cases result with
  | ok => exact nofun
  | error error => simpa [Except.map] using others

end

theorem combineParts_ne_foreign {ty : ShaderType} {parts : List NodeId}
    (accepted : ∀ part ∈ parts, graph.Accepts part) :
    graph.combineParts ty parts ≠ .error .foreignNode := by
  induction parts with
  | nil => exact nofun
  | cons part rest ih =>
      obtain ⟨here, others⟩ := List.forall_mem_cons.mp accepted
      apply lookup_bind_ne_foreign here
      intro node failed
      dsimp only at failed
      split at failed
      · cases failed
      · rcases bind_eq_error_iff.mp failed with earlier | ⟨_, _, done⟩
        · exact ih others earlier
        · cases done

theorem checkRoot_ne_foreign {place : TypedPlace} (accepts : graph.Accepts id) :
    graph.checkRoot id place ≠ .error .foreignNode := by
  apply lookup_bind_ne_foreign accepts
  intro node
  dsimp only
  split <;> exact nofun

/-- A call that takes ids never calls one of them foreign if the graph accepts all of them. -/
theorem perform_ne_foreign (taken : id ∈ call.nodeIds)
    (accepted : ∀ id ∈ call.nodeIds, graph.Accepts id) :
    graph.perform call ≠ .error .foreignNode := by
  cases call with
  | textureFetch texture coordinate =>
      apply map_ne_foreign
      apply checkIdentifier_bind_ne_foreign
      apply lookup_bind_ne_foreign (accepted coordinate List.mem_cons_self)
      intro node
      dsimp only
      split <;> exact nofun
  | combine ty parts =>
      apply map_ne_foreign
      unfold combine
      split
      · exact nofun
      · intro failed
        rcases bind_eq_error_iff.mp failed with earlier | ⟨_, _, later⟩
        · exact combineParts_ne_foreign accepted earlier
        · dsimp only at later
          split at later <;> cases later
  | swizzle source mask =>
      apply map_ne_foreign
      apply lookup_bind_ne_foreign (accepted source List.mem_cons_self)
      intro node
      dsimp only
      split <;> exact nofun
  | bind target slot input =>
      apply lookup_bind_ne_foreign (accepted target List.mem_cons_self)
      intro node
      apply lookup_bind_ne_foreign (accepted input (.tail _ List.mem_cons_self))
      intro inputNode
      dsimp only
      split
      · split
        · exact nofun
        · split <;> exact nofun
      · exact nofun
  | setLabel target label =>
      apply lookup_bind_ne_foreign (accepted target List.mem_cons_self)
      intro node
      dsimp only
      split <;> exact nofun
  | setVertexRoot target | setFragmentRoot target =>
      intro failed
      rcases bind_eq_error_iff.mp failed with earlier | ⟨_, _, done⟩
      · exact checkRoot_ne_foreign (accepted target List.mem_cons_self) earlier
      · cases done
  | setVary name target =>
      apply checkIdentifier_bind_ne_foreign
      apply lookup_bind_ne_foreign (accepted target List.mem_cons_self)
      intro node
      dsimp only
      split <;> exact nofun
  | vertexAttribute | uniform | engineUniform | constant | call | vary | setOptions | reset =>
      cases taken

theorem author_of_foreign (foreign : ¬ graph.Accepts id) (taken : id ∈ call.nodeIds) :
    graph.author call = graph := by
  rw [author, perform_of_foreign foreign taken]

/-! ### Handing out ids -/

/-- A node that a call creates stands at the end of the arena, under the id that the call returns. -/
theorem insert_of_created (created : graph.created? call = some (id, after)) :
    graph.author call = after ∧ ∃ node, graph.insert node = (id, after) := by
  have authored {made : Except ShaderError (NodeId × ShaderGraph)}
      (performed : graph.perform call = made.map Prod.snd) (done : made.toOption = some (id, after)) :
      made = .ok (id, after) ∧ graph.author call = after := by
    cases made with
    | error => cases done
    | ok pair =>
        cases done
        exact ⟨rfl, by rw [author, performed]; rfl⟩
  cases call with
  | vertexAttribute name ty =>
      obtain ⟨made, authored⟩ := authored rfl created
      obtain ⟨_, _, done⟩ := bind_eq_ok_iff.mp made
      exact ⟨authored, _, Except.ok.inj done⟩
  | uniform name default =>
      obtain ⟨made, authored⟩ := authored rfl created
      obtain ⟨_, _, done⟩ := bind_eq_ok_iff.mp made
      split at done
      · exact ⟨authored, _, Except.ok.inj done⟩
      · cases done
  | engineUniform quantity =>
      cases created
      exact ⟨rfl, _, rfl⟩
  | constant value =>
      obtain ⟨made, authored⟩ := authored rfl created
      unfold constant at made
      split at made
      · exact ⟨authored, _, Except.ok.inj made⟩
      · cases made
  | textureFetch texture coordinate =>
      obtain ⟨made, authored⟩ := authored rfl created
      obtain ⟨_, _, later⟩ := bind_eq_ok_iff.mp made
      obtain ⟨_, _, done⟩ := bind_eq_ok_iff.mp later
      dsimp only at done
      split at done
      · exact ⟨authored, _, Except.ok.inj done⟩
      · cases done
  | combine ty parts =>
      obtain ⟨made, authored⟩ := authored rfl created
      unfold combine at made
      split at made
      · cases made
      · obtain ⟨_, _, done⟩ := bind_eq_ok_iff.mp made
        dsimp only at done
        split at done
        · exact ⟨authored, _, Except.ok.inj done⟩
        · cases done
  | swizzle source mask =>
      obtain ⟨made, authored⟩ := authored rfl created
      obtain ⟨_, _, done⟩ := bind_eq_ok_iff.mp made
      dsimp only at done
      split at done
      · exact ⟨authored, _, Except.ok.inj done⟩
      · cases done
  | call function =>
      obtain ⟨made, authored⟩ := authored rfl created
      unfold ShaderGraph.call at made
      split at made
      · exact ⟨authored, _, Except.ok.inj made⟩
      · cases made
  | vary name =>
      obtain ⟨made, authored⟩ := authored rfl created
      unfold ShaderGraph.vary at made
      split at made
      · cases made
      · split at made
        · exact ⟨authored, _, Except.ok.inj made⟩
        · cases made
  | bind | setLabel | setVertexRoot | setFragmentRoot | setVary | setOptions | reset => cases created

/-- The type of a slot is that of a node in it. -/
theorem exists_node_of_typeAt? {index : NodeIndex} {ty : ShaderType}
    (typed : graph.typeAt? index = some ty) : ∃ node, graph.node? (graph.idOf index) = some node := by
  obtain ⟨node, held, _⟩ := Option.map_eq_some_iff.mp typed
  exact ⟨node, node?_idOf.trans held⟩

/-- An id that a graph hands out denotes a node. -/
theorem Issues.accepts (issues : graph.Issues id after) (reachable : graph.Reachable) :
    after.Accepts id := by
  have formed := reachable.wellFormed
  cases issues with
  | created created =>
      obtain ⟨_, node, same⟩ := insert_of_created created
      exact ⟨node, (node?_of_insert same).2⟩
  | vertexRoot held => exact exists_node_of_typeAt? (formed.vertexRoot _ held).2
  | fragmentRoot held => exact exists_node_of_typeAt? (formed.fragmentRoot _ held).2
  | varySlot held =>
      obtain ⟨_, ty, typed, _⟩ := formed.slots _ _ held
      exact exists_node_of_typeAt? typed

/-- Handing out an id is a call that is no reset, or changes nothing. -/
theorem Issues.after_eq (issues : graph.Issues id after) :
    after = graph ∨ ∃ call, (∀ generation, call ≠ .reset generation) ∧ after = graph.author call := by
  cases issues with
  | @created call _ _ created =>
      refine .inr ⟨call, ?_, (insert_of_created created).1.symm⟩
      rintro generation rfl
      cases created
  | vertexRoot | fragmentRoot | varySlot => exact .inl rfl

/-! ### Calls other than resets -/

theorem Authors.generation_eq (authors : graph.Authors call next)
    (keeps : ∀ generation, call ≠ .reset generation) : next.generation = graph.generation := by
  cases authors with
  | reset => exact absurd rfl (keeps _)
  | create | bind | label | unlabelled | vertexRoot | fragmentRoot | varySlot | options => rfl

/-- A node goes on under its id, and is the same unless the call is to change it. -/
theorem Authors.continues (authors : graph.Authors call next)
    (keeps : ∀ generation, call ≠ .reset generation) {index : NodeIndex}
    (held : graph.nodes.get? index = some node) :
    ∃ later, next.nodes.get? index = some later ∧ node.Continues later ∧
      (call.changed? ≠ some (graph.idOf index) → later = node) := by
  -- a call changes at most the node that its id denotes
  have changes {target : NodeId} {invocation changed : FunctionCall}
      (found : graph.node? target = some (.call invocation))
      (slots : ∀ other, next.nodes.get? other =
        if other = target.index then some (.call changed) else graph.nodes.get? other)
      (function : changed.function = invocation.function)
      (named : call.changed? = some target) :
      ∃ later, next.nodes.get? index = some later ∧ node.Continues later ∧
        (call.changed? ≠ some (graph.idOf index) → later = node) := by
    obtain ⟨generation, there⟩ := node?_eq_some_iff.mp found
    rw [slots index]
    by_cases same : index = target.index
    · subst same
      cases there.symm.trans held
      refine ⟨_, if_pos rfl, .call function, fun other => absurd ?_ other⟩
      rw [named, idOf, ← generation]
    · exact ⟨node, (if_neg same).trans held, .same node, fun _ => rfl⟩
  cases authors with
  | create creates =>
      refine ⟨node, ?_, .same node, fun _ => rfl⟩
      rw [get?_insert, if_neg (Nat.ne_of_lt (DependencyGraph.lt_size_of_get? held)), held]
  | bind found _ _ =>
      exact changes found (fun other => get?_replace
        (DependencyGraph.lt_size_of_get? (get?_of_node? found))) rfl rfl
  | label found =>
      exact changes found (fun other => DependencyGraph.get?_set
        (DependencyGraph.lt_size_of_get? (get?_of_node? found))) rfl rfl
  | reset => exact absurd rfl (keeps _)
  | unlabelled | vertexRoot | fragmentRoot | varySlot | options =>
      exact ⟨node, held, .same node, fun _ => rfl⟩

theorem generation_author (keeps : ∀ generation, call ≠ .reset generation) :
    (graph.author call).generation = graph.generation := by
  rcases author_cases graph call with unchanged | authors
  · rw [unchanged]
  · exact authors.generation_eq keeps

theorem node?_author (keeps : ∀ generation, call ≠ .reset generation)
    (held : graph.node? id = some node) :
    ∃ later, (graph.author call).node? id = some later ∧ node.Continues later ∧
      (call.changed? ≠ some id → later = node) := by
  obtain ⟨generation, there⟩ := node?_eq_some_iff.mp held
  rcases author_cases graph call with unchanged | authors
  · rw [unchanged]
    exact ⟨node, held, .same node, fun _ => rfl⟩
  · obtain ⟨later, found, continues, same⟩ := authors.continues keeps there
    have itself : graph.idOf id.index = id := by rw [idOf, ← generation]
    refine ⟨later, ?_, continues, itself ▸ same⟩
    exact node?_eq_some_iff.mpr ⟨generation.trans (generation_author keeps).symm, found⟩

/-- A call leads from a reachable graph to a reachable graph. -/
theorem Reachable.author (reachable : graph.Reachable) (call : AuthoringCall) :
    (graph.author call).Reachable := by
  obtain ⟨generation, registry, calls, rfl⟩ := reachable
  exact ⟨generation, registry, calls ++ [call], (authorAll_append calls [call]).symm⟩

end ShaderGraph

end ShaderFlow

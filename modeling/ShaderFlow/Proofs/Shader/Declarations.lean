/-
Module: ShaderFlow.Proofs.Shader.Declarations
Purpose: Whatever the nodes of a linked program need is declared in it.
Main exports: ShaderGraph.Sourced, Resources.Declares, AttributesFor, ShaderNodes.LetFor,
  ShaderNodes.lets_for, Generated.isOrder
-/
import ShaderFlow.Proofs.Graph.Traversal
import ShaderFlow.Proofs.Shader.Linking
import ShaderFlow.Proofs.Shader.TemporaryNames
import ShaderFlow.Proofs.Shader.WellFormed

namespace ShaderFlow

/-!
Linking walks over the nodes of both stages and never takes a declaration back.  So the node that adds
a declaration has it at once, by a step lemma, and every other node keeps its own.
-/

/-! ### Functions and slots -/

namespace ShaderGraph

variable {graph next : ShaderGraph} {call : AuthoringCall}

/-- Function nodes invoke functions of the registry, and vary nodes read slots of the graph. -/
structure Sourced (graph : ShaderGraph) : Prop where
  function : ∀ index invocation, graph.nodes.get? index = some (.call invocation) →
    invocation.function ∈ graph.registry.functions
  slot : ∀ index name ty, graph.nodes.get? index = some (.vary name ty) → name ∈ graph.varys.keys

/-- A call other than a reset keeps every slot. -/
theorem Authors.slot_kept {name : String} (authors : graph.Authors call next)
    (keeps : ∀ generation, call ≠ .reset generation) (present : name ∈ graph.varys.keys) :
    name ∈ next.varys.keys := by
  cases authors with
  | varySlot =>
      rw [OrderedMap.keys_insert]
      split
      · exact present
      · exact List.mem_append_left _ present
  | reset => exact absurd rfl (keeps _)
  | create | bind | label | unlabelled | vertexRoot | fragmentRoot | options => exact present

theorem Sourced.author (sourced : graph.Sourced) (authors : graph.Authors call next) :
    next.Sourced where
  function := by
    intro index invocation held
    rw [authors.registry_eq]
    rcases authors.node_cases held with before | ⟨_, creates⟩ |
      ⟨earlier, changed, before, same, unchanged⟩
    · exact sourced.function index invocation before
    · cases creates with
      | call registered => exact FunctionRegistry.mem_of_get? registered
    · cases same
      exact unchanged ▸ sourced.function index earlier before
  slot := by
    intro index name ty held
    have keeps : ∀ generation, call ≠ .reset generation := by
      rintro generation rfl
      cases authors with
      | create creates => cases creates
      | reset => cases held
    apply authors.slot_kept keeps
    rcases authors.node_cases held with before | ⟨_, creates⟩ | ⟨_, _, _, isCall, _⟩
    · exact sourced.slot index name ty before
    · cases creates with
      | vary typed => exact mem_keys_of_varyType? typed
    · cases isCall

theorem Reachable.sourced (reachable : graph.Reachable) : graph.Sourced :=
  reachable.invariant Sourced
    (fun _ _ => ⟨fun _ _ held => (by cases held), fun _ _ _ held => (by cases held)⟩)
    fun _ _ _ sourced authors => sourced.author authors

theorem Reachable.wellFormed (reachable : graph.Reachable) : graph.WellFormed :=
  reachable.invariant WellFormed WellFormed.new fun _ _ _ formed authors => formed.author authors

end ShaderGraph

/-! ### Uniforms and textures -/

namespace Resources

variable {resources later : Resources}

/-- A node has what it needs at module scope. -/
def Declares (resources : Resources) : ShaderNode → Prop
  | .uniform name default => ∃ slot ∈ resources.uniforms,
      slot.name = name ∧ slot.ty = default.ty ∧ slot.engine = none
  | .engine quantity => ∃ slot ∈ resources.uniforms,
      slot.name = quantity.name ∧ slot.ty = quantity.ty ∧ slot.engine = some quantity
  | .fetch texture _ => ∃ slot ∈ resources.textures, slot.name = texture
  | .call _ | .vertexAttribute .. | .vary .. | .constant _ | .combine .. | .swizzle .. => True

/-- Engine uniforms bear their own names. -/
def EngineNamed (resources : Resources) : Prop :=
  ∀ slot ∈ resources.uniforms, ∀ quantity, slot.engine = some quantity → slot.name = quantity.name

/-- Nothing that is declared is taken back. -/
def Grows (resources later : Resources) : Prop :=
  resources.uniforms ⊆ later.uniforms ∧ resources.textures ⊆ later.textures

theorem Declares.grow {node : ShaderNode} (declares : resources.Declares node)
    (grows : resources.Grows later) : later.Declares node := by
  cases node with
  | uniform | engine =>
      obtain ⟨slot, listed, this⟩ := declares
      exact ⟨slot, grows.1 listed, this⟩
  | fetch =>
      obtain ⟨slot, listed, this⟩ := declares
      exact ⟨slot, grows.2 listed, this⟩
  | call | vertexAttribute | vary | constant | combine | swizzle => trivial

/-- A uniform that is added is there, whether or not it was there before. -/
theorem addUniform_declares {name : String} {default : ShaderValue} {engine : Option EngineUniform}
    (sound : resources.Sound) (engines : resources.EngineNamed)
    (named : ∀ quantity, engine = some quantity → name = quantity.name)
    (added : resources.addUniform name default engine = .ok later) :
    resources.Grows later ∧ later.EngineNamed ∧
      ∃ slot ∈ later.uniforms, slot.name = name ∧ slot.ty = default.ty ∧ slot.engine = engine := by
  obtain ⟨names, declared, inner⟩ := bind_eq_ok_iff.mp added
  split at inner
  · next present =>
      cases inner
      obtain ⟨slot, listed, same⟩ := List.any_eq_true.mp present
      have same : slot.name = name := of_decide_eq_true same
      refine ⟨⟨List.Subset.refl _, List.Subset.refl _⟩, engines, slot, listed, same, ?_⟩
      -- the table holds one kind under the name, which is that of the slot
      have kind := (sound.extend (ModuleNames.extends_of_declare declared)).uniform slot listed
      rw [same, ModuleNames.get?_of_declare declared] at kind
      unfold UniformSlot.kind at kind
      cases engine with
      | none =>
          cases tagged : slot.engine with
          | none =>
              rw [tagged] at kind
              have sameType := DeclarationKind.uniform.inj (Option.some.inj kind)
              exact ⟨sameType.symm, rfl⟩
          | some other =>
              rw [tagged] at kind
              cases kind
      | some quantity =>
          cases tagged : slot.engine with
          | none =>
              rw [tagged] at kind
              cases kind
          | some other =>
              have sameName := (engines slot listed other tagged).symm.trans
                (same.trans (named quantity rfl))
              rw [tagged] at kind
              have sameType := DeclarationKind.engineUniform.inj (Option.some.inj kind)
              exact ⟨sameType.symm, congrArg some (EngineUniform.name_injective sameName)⟩
  · cases inner
    refine ⟨⟨List.subset_append_left _ _, List.Subset.refl _⟩, ?_, _,
      List.mem_append_right _ List.mem_cons_self, rfl, rfl, rfl⟩
    intro slot member quantity tagged
    rcases List.mem_append.mp member with earlier | last
    · exact engines slot earlier quantity tagged
    · rw [List.mem_singleton.mp last] at tagged ⊢
      exact named quantity tagged

theorem addTexture_declares {name : String} (added : resources.addTexture name = .ok later) :
    resources.Grows later ∧ later.uniforms = resources.uniforms ∧
      ∃ slot ∈ later.textures, slot.name = name := by
  obtain ⟨_, _, added⟩ := bind_eq_ok_iff.mp added
  obtain ⟨_, _, inner⟩ := bind_eq_ok_iff.mp added
  split at inner
  · next present =>
      cases inner
      obtain ⟨slot, listed, same⟩ := List.any_eq_true.mp present
      exact ⟨⟨List.Subset.refl _, List.Subset.refl _⟩, rfl, slot, listed, of_decide_eq_true same⟩
  · cases inner
    exact ⟨⟨List.Subset.refl _, List.subset_append_left _ _⟩, rfl, _,
      List.mem_append_right _ List.mem_cons_self, rfl⟩

/-- A node that is added has what it needs. -/
theorem addNode_declares {node : ShaderNode} (sound : resources.Sound)
    (engines : resources.EngineNamed) (added : resources.addNode node = .ok later) :
    resources.Grows later ∧ later.EngineNamed ∧ later.Declares node := by
  cases node with
  | uniform =>
      unfold addNode at added
      exact addUniform_declares sound engines (fun _ tagged => by cases tagged) added
  | engine quantity =>
      unfold addNode at added
      have declared := addUniform_declares sound engines (fun _ tagged => by cases tagged; rfl) added
      rw [ShaderValue.ty_defaultFor] at declared
      exact declared
  | fetch =>
      obtain ⟨grows, same, declares⟩ := addTexture_declares added
      exact ⟨grows, fun slot member => engines slot (same ▸ member), declares⟩
  | call | vertexAttribute | vary | constant | combine | swizzle =>
      cases added
      exact ⟨⟨List.Subset.refl _, List.Subset.refl _⟩, engines, trivial⟩

/-- All nodes that are walked over have what they need. -/
theorem declares_of_mem {nodes : List ShaderNode}
    (collected : nodes.foldlM addNode initial = .ok resources) :
    ∀ node ∈ nodes, resources.Declares node := by
  refine (foldlM_invariant (fun before found => found.Sound ∧ found.EngineNamed ∧
    ∀ node ∈ before, found.Declares node) ?_
    ⟨sound_initial, by simp [EngineNamed, initial], by simp⟩ collected).2.2
  rintro before found node _ later _ ⟨sound, engines, declares⟩ added
  obtain ⟨grows, enginesLater, here⟩ := addNode_declares sound engines added
  refine ⟨sound.addNode added, enginesLater, ?_⟩
  intro other member
  rcases List.mem_append.mp member with earlier | last
  · exact (declares other earlier).grow grows
  · rw [List.mem_singleton.mp last]
    exact here

end Resources

/-! ### Attributes and varyings -/

/-- The attributes of a list of nodes: one for each name, local to the entry point. -/
structure AttributesFor (names : ModuleNames) (nodes : List ShaderNode)
    (attributes : List AttributeSlot) : Prop where
  distinct : (attributes.map AttributeSlot.name).Nodup
  unshadowing : ∀ slot ∈ attributes, names.get? slot.name = none ∧ slot.name ≠ vertexOutputVariable
  declared : ∀ name ty, .vertexAttribute name ty ∈ nodes →
    ∃ slot ∈ attributes, slot.name = name ∧ slot.ty = ty

theorem AttributesFor.add {names : ModuleNames} {nodes : List ShaderNode} {node : ShaderNode}
    {attributes later : List AttributeSlot} (before : AttributesFor names nodes attributes)
    (added : addAttribute names attributes node = .ok later) :
    AttributesFor names (nodes ++ [node]) later := by
  have others : ∀ name ty, .vertexAttribute name ty ∈ nodes ++ [node] →
      .vertexAttribute name ty ∈ nodes ∨ node = .vertexAttribute name ty := by
    intro name ty member
    simpa [eq_comm] using member
  unfold addAttribute at added
  split at added
  · next name ty =>
      split at added
      · next existing found =>
          split at added
          · next sameType =>
              cases added
              refine ⟨before.distinct, before.unshadowing, ?_⟩
              intro other otherType member
              rcases others other otherType member with earlier | same
              · exact before.declared other otherType earlier
              · cases same
                exact ⟨existing, List.mem_of_find?_eq_some found,
                  by simpa using List.find?_some found, sameType⟩
          · cases added
      · next absent =>
          obtain ⟨_, checked, inner⟩ := bind_eq_ok_iff.mp added
          split at inner
          · cases inner
          · next unreserved =>
              cases inner
              refine ⟨nodup_map_append_singleton.mpr ⟨?_, before.distinct⟩, ?_, ?_⟩
              · simpa using absent
              · intro slot member
                rcases List.mem_append.mp member with earlier | last
                · exact before.unshadowing slot earlier
                · rw [List.mem_singleton.mp last]
                  exact ⟨ModuleNames.checkLocal_eq_ok checked, unreserved⟩
              · intro other otherType member
                rcases others other otherType member with earlier | same
                · obtain ⟨slot, listed, this⟩ := before.declared other otherType earlier
                  exact ⟨slot, List.mem_append_left _ listed, this⟩
                · cases same
                  exact ⟨_, List.mem_append_right _ List.mem_cons_self, rfl, rfl⟩
  · next other =>
      cases added
      refine ⟨before.distinct, before.unshadowing, ?_⟩
      intro name ty member
      rcases others name ty member with earlier | same
      · exact before.declared name ty earlier
      · exact absurd same (other name ty)

theorem attributesFor_of_addAll {names : ModuleNames} {nodes : List ShaderNode}
    {attributes : List AttributeSlot}
    (added : nodes.foldlM (addAttribute names) [] = .ok attributes) :
    AttributesFor names nodes attributes :=
  foldlM_invariant (AttributesFor names) (fun _ _ _ _ _ _ before added => before.add added)
    ⟨by simp, by simp, by simp⟩ added

/-- No varying bears a name of module scope. -/
theorem unshadowing_of_varyings {nodes : ShaderNodes} {names : ModuleNames}
    {fragmentOutput : String} {entries : List (String × NodeIndex)} {varyings : List VaryingSlot}
    (added : entries.foldlM (addVarying nodes names fragmentOutput) [] = .ok varyings) :
    ∀ entry ∈ entries, names.get? entry.1 = none := by
  refine foldlM_invariant (fun before _ => ∀ entry ∈ before, names.get? entry.1 = none) ?_ (by simp)
    added
  intro before _ entry _ _ _ unshadowing addedHere
  obtain ⟨_, checked, _⟩ := bind_eq_ok_iff.mp addedHere
  exact List.forall_mem_append.mpr
    ⟨unshadowing, List.forall_mem_singleton.mpr (ModuleNames.checkLocal_eq_ok checked)⟩

/-! ### Stages -/

namespace ShaderNodes

variable {nodes : ShaderNodes} {registry : FunctionRegistry} {direct bound scope : List NodeIndex}
  {order : List NodeIndex}

/-- Attributes are only reached in the vertex stage, and vary reads only in the fragment stage. -/
theorem stage_of_checkNode {stage : Stage} {index : NodeIndex} {node : ShaderNode}
    (held : nodes.get? index = some node) (checked : nodes.checkNode stage index = .ok ()) :
    (∀ name ty, node = .vertexAttribute name ty → stage = .vertex) ∧
      ∀ name ty, node = .vary name ty → stage = .fragment := by
  obtain ⟨found, looked, inner⟩ := bind_eq_ok_iff.mp checked
  cases held.symm.trans (nodeAt_eq_ok_iff.mp looked)
  constructor
  · rintro name ty rfl
    cases stage with
    | vertex => rfl
    | fragment => cases inner
  · rintro name ty rfl
    cases stage with
    | vertex => cases inner
    | fragment => rfl

/-- The binding is the declaration of the temporary of the node, and refers only to nodes in scope. -/
def LetFor (nodes : ShaderNodes) (scope : List NodeIndex) (index : NodeIndex)
    (binding : LetBinding) : Prop :=
  ∃ node bound, nodes.get? index = some node ∧ node.isLeaf = false ∧
    binding.name = node.variableName index ∧ binding.ty = node.ty ∧
    nodes.expressionFor bound index node = .ok binding.value ∧ ∀ other ∈ bound, other ∈ scope

/-- There is one binding for each node with a temporary, in order. -/
theorem lets_for {lets : List LetBinding} (generated : nodes.letBindings direct bound order = .ok lets)
    (before : ∀ index ∈ bound, index ∈ scope)
    (after : ∀ index ∈ nodes.boundNodes direct order, index ∈ scope) :
    List.Forall₂ (nodes.LetFor scope) (nodes.boundNodes direct order) lets := by
  induction order generalizing bound lets with
  | nil =>
      cases generated
      exact .nil
  | cons index rest ih =>
      obtain ⟨node, found, inner⟩ := bind_eq_ok_iff.mp generated
      have held := nodeAt_eq_ok_iff.mp found
      rw [boundNodes_cons held] at after ⊢
      split at inner
      · next skipped =>
          rw [if_pos skipped] at after ⊢
          exact ih inner before after
      · next declared =>
          rw [if_neg declared] at after ⊢
          obtain ⟨expression, expressed, later⟩ := bind_eq_ok_iff.mp inner
          obtain ⟨others, following, done⟩ := bind_eq_ok_iff.mp later
          cases done
          have operation : node.isLeaf = false := by
            simp only [Bool.or_eq_true, not_or, Bool.not_eq_true] at declared
            exact declared.1
          refine .cons ⟨node, bound, held, operation, rfl, rfl, expressed, before⟩ ?_
          apply ih following
          · exact List.forall_mem_cons.mpr ⟨after index List.mem_cons_self, before⟩
          · exact fun other member => after other (.tail _ member)

/-- Temporaries bear different names. -/
theorem nodup_letNames {indices : List NodeIndex} {lets : List LetBinding}
    (each : List.Forall₂ (nodes.LetFor scope) indices lets) (distinct : indices.Nodup) :
    (lets.map LetBinding.name).Nodup := by
  induction each with
  | nil => exact .nil
  | @cons index binding indices lets here others ih =>
      obtain ⟨fresh, distinct⟩ := List.nodup_cons.mp distinct
      refine List.nodup_cons.mpr ⟨?_, ih distinct⟩
      intro member
      obtain ⟨other, listed, sameName⟩ := List.mem_map.mp member
      obtain ⟨otherIndex, indexed, otherNode, _, _, _, named, _⟩ := exists_of_mem_results others listed
      obtain ⟨node, _, _, _, namedHere, _⟩ := here
      have same := ShaderNode.index_eq_of_variableName_eq
        (namedHere.symm.trans (sameName.symm.trans named))
      exact fresh (same ▸ indexed)

end ShaderNodes

namespace Generated

variable {nodes : ShaderNodes} {registry : FunctionRegistry} {stage : Stage}
  {outputs : List StageOutput} {code : StageCode} {direct : List NodeIndex}

theorem isOrder (generated : Generated nodes registry stage outputs direct code) :
    nodes.IsOrder (outputs.map StageOutput.node) code.order := by
  have ordered := generated.ordered
  unfold ShaderNodes.stageOrder at ordered
  split at ordered
  · next found =>
      cases ordered
      exact DependencyGraph.isOrder_of_orderFrom found
  · cases ordered

theorem checkNode_of_mem (generated : Generated nodes registry stage outputs direct code)
    {index : NodeIndex} (member : index ∈ code.order) : nodes.checkNode stage index = .ok () :=
  forM_eq_ok_iff.mp generated.checked index member

/-- Every call of a stage finds its function among those of the stage. -/
theorem function_of_call (generated : Generated nodes registry stage outputs direct code)
    {index : NodeIndex} {invocation : FunctionCall} (member : index ∈ code.order)
    (held : nodes.get? index = some (.call invocation))
    (registered : invocation.function ∈ registry.functions) :
    invocation.function ∈ code.functions := by
  have present : ∀ index ∈ code.order, ∀ invocation, nodes.get? index = some (.call invocation) →
      invocation.function.name ∈ code.functions.map ShaderFunction.name := by
    refine foldlM_invariant (fun before (found : List ShaderFunction) => ∀ index ∈ before,
      ∀ invocation, nodes.get? index = some (.call invocation) →
        invocation.function.name ∈ found.map ShaderFunction.name) ?_ (by simp) generated.collected
    intro before found here _ later _ present added other member invocation held
    rcases List.mem_append.mp member with earlier | last
    · have known := present other earlier invocation held
      rcases ShaderNodes.collectFunctions_cases added with rfl | ⟨_, _, _, rfl⟩
      · exact known
      · rw [List.map_append]
        exact List.mem_append_left _ known
    · rw [List.mem_singleton.mp last] at held
      exact ShaderNodes.collectFunctions_call held added
  obtain ⟨function, listed, sameName⟩ := List.mem_map.mp (present index member invocation held)
  have same := List.inj_on_of_nodup_map registry.distinct
    (generated.functions_sound.2 function listed) registered sameName
  exact same ▸ listed

end Generated

end ShaderFlow

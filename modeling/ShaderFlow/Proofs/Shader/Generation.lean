/-
Module: ShaderFlow.Proofs.Shader.Generation
Purpose: What the generation of a stage has found and checked when it succeeds.
Main exports: Generated, generated_of_generateStage, FunctionRegistry.get?_of_mem,
  ShaderNodes.boundNodes_cons, Generated.functions_sound
-/
import ShaderFlow.Proofs.Outcome
import ShaderFlow.Shader.StageCode
import Mathlib.Data.List.Nodup

namespace ShaderFlow

variable {nodes : ShaderNodes} {registry : FunctionRegistry} {stage : Stage}
  {outputs : List StageOutput} {code : StageCode} {direct : List NodeIndex}

/-- The pieces of a generated stage; `direct` holds the nodes without temporary. -/
structure Generated (nodes : ShaderNodes) (registry : FunctionRegistry) (stage : Stage)
    (outputs : List StageOutput) (direct : List NodeIndex) (code : StageCode) : Prop where
  stage_eq : code.stage = stage
  ordered : nodes.stageOrder outputs = .ok code.order
  checked : code.order.forM (nodes.checkNode stage) = .ok ()
  collected : code.order.foldlM (nodes.collectFunctions registry) [] = .ok code.functions
  picked : (outputs.map StageOutput.node).filterM (nodes.isDirect code.order outputs) = .ok direct
  declared : nodes.letBindings direct [] code.order = .ok code.body.lets
  assigned : outputs.mapM (nodes.assignmentFor direct (nodes.boundNodes direct code.order)) =
    .ok code.body.assignments

theorem generated_of_generateStage (done : generateStage nodes registry stage outputs = .ok code) :
    ∃ direct, Generated nodes registry stage outputs direct code := by
  obtain ⟨order, ordered, done⟩ := bind_eq_ok_iff.mp done
  obtain ⟨_, checked, done⟩ := bind_eq_ok_iff.mp done
  obtain ⟨functions, collected, done⟩ := bind_eq_ok_iff.mp done
  obtain ⟨direct, picked, done⟩ := bind_eq_ok_iff.mp done
  obtain ⟨lets, declared, done⟩ := bind_eq_ok_iff.mp done
  obtain ⟨assignments, assigned, done⟩ := bind_eq_ok_iff.mp done
  cases done
  exact ⟨direct, rfl, ordered, checked, collected, picked, declared, assigned⟩

theorem nodup_map_append_singleton {α β : Type} {f : α → β} {items : List α} {item : α} :
    ((items ++ [item]).map f).Nodup ↔ f item ∉ items.map f ∧ (items.map f).Nodup := by
  rw [List.map_append, List.map_singleton, ← List.concat_eq_append, List.nodup_concat]

/-- A member of a list is found by its key, if no two members share one. -/
theorem find?_eq_some_of_mem {α κ : Type} [DecidableEq κ] {key : α → κ} {items : List α} {item : α}
    (distinct : (items.map key).Nodup) (member : item ∈ items) :
    items.find? (fun other => key other = key item) = some item := by
  have present : (items.find? fun other => key other = key item).isSome :=
    List.find?_isSome.mpr ⟨item, member, by simp⟩
  obtain ⟨found, search⟩ := Option.isSome_iff_exists.mp present
  have sameKey : key found = key item := by simpa using List.find?_some search
  rw [search, List.inj_on_of_nodup_map distinct (List.mem_of_find?_eq_some search) member sameKey]

/-- A registered definition is the one of its name. -/
theorem FunctionRegistry.get?_of_mem {function : ShaderFunction}
    (registered : function ∈ registry.functions) :
    registry.get? function.name = some function :=
  find?_eq_some_of_mem registry.distinct registered

namespace ShaderNodes

variable {index : NodeIndex} {node : ShaderNode}

theorem nodeAt_eq_ok_iff : nodes.nodeAt index = .ok node ↔ nodes.get? index = some node := by
  unfold nodeAt
  cases nodes.get? index <;> simp

/-- One more node has a temporary unless it is a leaf or assigned directly. -/
theorem boundNodes_cons {rest : List NodeIndex} (held : nodes.get? index = some node) :
    nodes.boundNodes direct (index :: rest) =
      if node.isLeaf || direct.contains index then nodes.boundNodes direct rest
      else index :: nodes.boundNodes direct rest := by
  unfold boundNodes
  rw [List.filter_cons, held, Option.any_some]
  cases node.isLeaf <;> cases direct.contains index <;> rfl

/-- One more node adds the function that it invokes, as the registry defines it, unless a function
of that name is there. -/
theorem collectFunctions_cases {functions later : List ShaderFunction}
    (collected : nodes.collectFunctions registry functions index = .ok later) :
    later = functions ∨ ∃ function ∈ registry.functions,
      function.name ∉ functions.map ShaderFunction.name ∧ later = functions ++ [function] := by
  obtain ⟨node, _, inner⟩ := bind_eq_ok_iff.mp collected
  split at inner
  · next invocation =>
      dsimp only at inner
      split at inner
      · cases inner
        exact .inl rfl
      · next absent =>
          split at inner
          · next definition found =>
              cases inner
              refine .inr ⟨definition, FunctionRegistry.mem_of_get? found, ?_, rfl⟩
              rw [FunctionRegistry.name_of_get? found]
              simpa using absent
          · cases inner
  · cases inner
    exact .inl rfl

/-- The function of a call is there by name afterwards. -/
theorem collectFunctions_call {functions later : List ShaderFunction} {invocation : FunctionCall}
    (held : nodes.get? index = some (.call invocation))
    (collected : nodes.collectFunctions registry functions index = .ok later) :
    invocation.function.name ∈ later.map ShaderFunction.name := by
  obtain ⟨node, found, inner⟩ := bind_eq_ok_iff.mp collected
  cases (nodeAt_eq_ok_iff.mp found).symm.trans held
  dsimp only at inner
  split at inner
  · next present =>
      cases inner
      simpa using present
  · split at inner
    · next definition registered =>
        cases inner
        rw [List.map_append, List.map_singleton, FunctionRegistry.name_of_get? registered]
        exact List.mem_append_right _ List.mem_cons_self
    · cases inner

end ShaderNodes

/-- The functions of a stage come from the registry and bear different names. -/
theorem Generated.functions_sound (generated : Generated nodes registry stage outputs direct code) :
    (code.functions.map ShaderFunction.name).Nodup ∧
      ∀ function ∈ code.functions, function ∈ registry.functions := by
  refine foldlM_invariant (fun _ functions => (functions.map ShaderFunction.name).Nodup ∧
    ∀ function ∈ functions, function ∈ registry.functions) ?_ ⟨.nil, by simp⟩ generated.collected
  rintro _ functions index _ later _ ⟨distinct, listed⟩ collected
  rcases ShaderNodes.collectFunctions_cases collected with rfl | ⟨function, member, fresh, rfl⟩
  · exact ⟨distinct, listed⟩
  · constructor
    · exact nodup_map_append_singleton.mpr ⟨fresh, distinct⟩
    · intro other held
      rcases List.mem_append.mp held with earlier | last
      · exact listed other earlier
      · exact List.mem_singleton.mp last ▸ member

end ShaderFlow

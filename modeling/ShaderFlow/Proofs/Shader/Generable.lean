/-
Module: ShaderFlow.Proofs.Shader.Generable
Purpose: The exact condition for the generation of a stage, and a true reason for every refusal.
Main exports: ShaderNode.ForeignTo, ShaderNodes.Generable, ShaderNodes.Refutes,
  ShaderNodes.Evaluable, generateStage_exact
-/
import ShaderFlow.Proofs.Shader.Declarations

namespace ShaderFlow

/-!
Generation looks at every reached node for its own sake first, and then puts the code together.  What
the second part could still refuse cannot occur.  A node that is assigned to an output directly has
that output as its only use, so no argument of a reached node is one; and in dependency order the
temporaries of the arguments come first.
-/

/-! ### The condition -/

/-- Nodes without meaning in a stage: reads of a vary in the vertex stage, attributes in the fragment
stage. -/
def ShaderNode.ForeignTo : Stage → ShaderNode → Prop
  | .vertex, .vary .. => True
  | .fragment, .vertexAttribute .. => True
  | _, _ => False

namespace ShaderNodes

/-- What the roots of a stage may reach. -/
structure Generable (nodes : ShaderNodes) (stage : Stage) (roots : List NodeIndex) : Prop where
  acyclic : ∀ index, nodes.Reached roots index → ¬ nodes.OnCycle index
  bound : ∀ index invocation, nodes.Reached roots index →
    nodes.get? index = some (.call invocation) →
      ∀ input ∈ invocation.function.inputs, input.name ∈ invocation.bound.keys
  native : ∀ index node, nodes.Reached roots index → nodes.get? index = some node →
    ¬ node.ForeignTo stage

/-- What an error of generation says about the nodes that the roots reach is the case. -/
def Refutes (nodes : ShaderNodes) (stage : Stage) (roots : List NodeIndex) : ShaderError → Prop
  | .graphCycle _ => ∃ index, nodes.Reached roots index ∧ nodes.OnCycle index
  | .missingBinding _ function slot => ∃ index invocation, nodes.Reached roots index ∧
      nodes.get? index = some (.call invocation) ∧ invocation.function.name = function ∧
      (∃ input ∈ invocation.function.inputs, input.name = slot) ∧ slot ∉ invocation.bound.keys
  | .stageMismatch description refused => refused = stage ∧ ∃ index node,
      nodes.Reached roots index ∧ nodes.get? index = some node ∧ node.describe = description ∧
        node.ForeignTo stage
  | _ => False

variable {nodes : ShaderNodes} {registry : FunctionRegistry} {stage : Stage}
  {roots direct order bound : List NodeIndex} {outputs : List StageOutput} {index : NodeIndex}
  {node : ShaderNode} {error : ShaderError}

theorem not_generable_of_refutes (refutes : nodes.Refutes stage roots error) :
    ¬ nodes.Generable stage roots := by
  intro generable
  cases error with
  | graphCycle =>
      obtain ⟨index, reached, cycle⟩ := refutes
      exact generable.acyclic index reached cycle
  | missingBinding =>
      obtain ⟨index, invocation, reached, held, _, ⟨input, listed, rfl⟩, unbound⟩ := refutes
      exact unbound (generable.bound index invocation reached held input listed)
  | stageMismatch =>
      obtain ⟨_, index, node, reached, held, _, foreign⟩ := refutes
      exact generable.native index node reached held foreign
  | _ => exact refutes

/-! ### Traversal -/

/-- Everything that is reached from slots of the arena is in the arena, if all arguments are. -/
theorem exists_of_reached (closed : ∀ index node, nodes.get? index = some node →
      ∀ dependency ∈ nodes.dependencies index, ∃ argument, nodes.get? dependency = some argument)
    (placed : ∀ root ∈ roots, ∃ node, nodes.get? root = some node)
    (reached : nodes.Reached roots index) : ∃ node, nodes.get? index = some node := by
  obtain ⟨root, listed, path⟩ := reached
  induction path with
  | refl => exact placed root listed
  | tail _ edge ih =>
      obtain ⟨node, held⟩ := ih
      exact closed _ node held _ edge

theorem contains_of_get? (held : nodes.get? index = some node) : nodes.contains index :=
  decide_eq_true (DependencyGraph.lt_size_of_get? held)

/-- A traversal within the arena finds an order without cycles, or a cycle. -/
theorem stageOrder_sound (stage : Stage)
    (present : ∀ index, nodes.Reached (outputs.map StageOutput.node) index →
      ∃ node, nodes.get? index = some node) :
    match nodes.stageOrder outputs with
    | .ok order => nodes.IsOrder (outputs.map StageOutput.node) order ∧
        ∀ index ∈ order, ¬ nodes.OnCycle index
    | .error error => nodes.Refutes stage (outputs.map StageOutput.node) error := by
  have sound := nodes.orderFrom_sound (outputs.map StageOutput.node)
  have inside : ∀ index, nodes.Reached (outputs.map StageOutput.node) index →
      nodes.contains index := by
    intro index reached
    obtain ⟨_, held⟩ := present index reached
    exact contains_of_get? held
  unfold stageOrder
  cases found : nodes.orderFrom (outputs.map StageOutput.node) with
  | ok order =>
      rw [found] at sound
      refine ⟨sound.1, fun index member => ?_⟩
      exact (sound.2.2 index ((sound.1.mem_iff index).mp member)).2
  | error reason =>
      rw [found] at sound
      cases reason with
      | cycle node => exact ⟨node, sound⟩
      | missingRoot root => exact absurd (inside root (.root sound.1)) sound.2
      | missingNode node referencedBy =>
          obtain ⟨reached, edge, outside⟩ := sound
          exact absurd (inside node (reached.dependency edge)) outside

/-! ### One node -/

theorem unbound?_eq_none_iff {invocation : FunctionCall} :
    invocation.unbound? = none ↔
      ∀ input ∈ invocation.function.inputs, input.name ∈ invocation.bound.keys := by
  unfold FunctionCall.unbound?
  simp [OrderedMap.contains_iff]

/-- The check of a reached node finds that it is native to the stage and has all its inputs, or says
truly what is wrong. -/
theorem checkNode_sound (stage : Stage) (reached : nodes.Reached roots index)
    (held : nodes.get? index = some node) :
    match nodes.checkNode stage index with
    | .ok _ => ¬ node.ForeignTo stage ∧ ∀ invocation, node = .call invocation →
        invocation.unbound? = none
    | .error error => nodes.Refutes stage roots error := by
  unfold checkNode
  rw [nodeAt_eq_ok_iff.mpr held]
  cases node with
  | call invocation =>
      have native : ¬ (ShaderNode.call invocation).ForeignTo stage := by
        cases stage <;> exact id
      dsimp only [bind, Except.bind]
      cases found : invocation.unbound? with
      | none =>
          cases stage <;> exact ⟨native, fun _ same => ShaderNode.call.inj same ▸ found⟩
      | some input =>
          have listed := List.mem_of_find?_eq_some found
          have unbound : input.name ∉ invocation.bound.keys := by
            rw [← OrderedMap.contains_iff]
            simpa using List.find?_some found
          cases stage <;>
            exact ⟨index, invocation, reached, held, rfl, ⟨input, listed, rfl⟩, unbound⟩
  | vertexAttribute name ty =>
      cases stage with
      | vertex => exact ⟨id, by simp⟩
      | fragment => exact ⟨rfl, index, _, reached, held, rfl, trivial⟩
  | vary name ty =>
      cases stage with
      | vertex => exact ⟨rfl, index, _, reached, held, rfl, trivial⟩
      | fragment => exact ⟨id, by simp⟩
  | uniform | engine | fetch | constant | combine | swizzle =>
      cases stage <;> exact ⟨id, by simp⟩

/-! ### Putting the code together -/

/-- What the generated code rests on: the order is one of slots of the arena, every call in it has
its inputs, and every argument comes earlier and has, unless it is a leaf, a temporary. -/
structure Evaluable (nodes : ShaderNodes) (direct order : List NodeIndex) : Prop where
  held : ∀ index ∈ order, ∃ node, nodes.get? index = some node
  complete : ∀ index ∈ order, ∀ invocation, nodes.get? index = some (.call invocation) →
    invocation.unbound? = none
  earlier : ∀ before index after node, order = before ++ index :: after →
    nodes.get? index = some node → ∀ argument ∈ node.arguments,
      argument ∈ before ∧ argument ∉ direct

/-- A statement can refer to a node: the node is a leaf, or among those with a temporary. -/
def Known (nodes : ShaderNodes) (bound : List NodeIndex) (index : NodeIndex) : Prop :=
  ∃ node, nodes.get? index = some node ∧ (node.isLeaf ∨ index ∈ bound)

theorem exists_operandFor (known : nodes.Known bound index) (referencedBy : String) :
    ∃ operand, nodes.operandFor bound referencedBy index = .ok operand := by
  obtain ⟨node, held, here⟩ := known
  unfold operandFor
  rw [held]
  cases node with
  | vertexAttribute | uniform | engine | vary | constant => exact ⟨_, rfl⟩
  | call | fetch | combine | swizzle =>
      have listed : bound.contains index := by simpa [ShaderNode.isLeaf] using here
      exact ⟨_, if_pos listed⟩

/-- An operation has an expression once all its arguments are known and, if it is a call, bound. -/
theorem exists_expressionFor (held : nodes.get? index = some node) (operation : node.isLeaf = false)
    (complete : ∀ invocation, node = .call invocation → invocation.unbound? = none)
    (known : ∀ argument ∈ node.arguments, nodes.Known bound argument) :
    ∃ expression, nodes.expressionFor bound index node = .ok expression := by
  have operands : ∀ (owner : String) (arguments : List NodeIndex),
      (∀ argument ∈ arguments, argument ∈ node.arguments) →
        ∃ results, arguments.mapM (nodes.operandFor bound owner) = .ok results :=
    fun owner arguments listed => exists_mapM fun argument member =>
      exists_operandFor (known argument (listed argument member)) owner
  cases node with
  | call invocation =>
      obtain ⟨results, found⟩ :=
        operands ((ShaderNode.call invocation).variableName index) invocation.arguments fun _ => id
      simp only [expressionFor, complete invocation rfl, found]
      exact ⟨_, rfl⟩
  | fetch texture coordinate =>
      obtain ⟨operand, found⟩ := exists_operandFor (known coordinate List.mem_cons_self)
        ((ShaderNode.fetch texture coordinate).variableName index)
      simp only [expressionFor, found]
      exact ⟨_, rfl⟩
  | combine ty parts =>
      obtain ⟨results, found⟩ :=
        operands ((ShaderNode.combine ty parts).variableName index) parts fun _ => id
      simp only [expressionFor, found]
      exact ⟨_, rfl⟩
  | swizzle source mask ty =>
      obtain ⟨operand, found⟩ := exists_operandFor (known source List.mem_cons_self)
        ((ShaderNode.swizzle source mask ty).variableName index)
      simp only [expressionFor, found]
      exact ⟨_, rfl⟩
  | vertexAttribute | uniform | engine | vary | constant => cases operation

/-- Along a dependency order every temporary can be declared: those before it are in scope. -/
theorem Evaluable.exists_letBindings (evaluable : nodes.Evaluable direct order) :
    ∃ lets, nodes.letBindings direct [] order = .ok lets := by
  suffices general : ∀ rest before bound, order = before ++ rest →
      (∀ earlier ∈ before, earlier ∉ direct → nodes.Known bound earlier) →
        ∃ lets, nodes.letBindings direct bound rest = .ok lets from
    general order [] [] rfl (by simp)
  intro rest
  induction rest with
  | nil => exact fun _ _ _ _ => ⟨[], rfl⟩
  | cons index rest ih =>
      intro before bound split known
      have listed : index ∈ order := split ▸ List.mem_append_right _ List.mem_cons_self
      obtain ⟨node, held⟩ := evaluable.held index listed
      have splitNext : order = (before ++ [index]) ++ rest := by simp [split]
      have extended : ∀ later, (∀ other ∈ bound, other ∈ later) →
          (index ∉ direct → nodes.Known later index) →
            ∀ earlier ∈ before ++ [index], earlier ∉ direct → nodes.Known later earlier := by
        intro later grown here earlier member indirect
        rcases List.mem_append.mp member with old | last
        · obtain ⟨other, there, leafOrBound⟩ := known earlier old indirect
          exact ⟨other, there, leafOrBound.imp_right (grown earlier)⟩
        · rw [List.mem_singleton.mp last] at indirect ⊢
          exact here indirect
      have found := nodeAt_eq_ok_iff.mpr held
      cases skipped : node.isLeaf || direct.contains index with
      | true =>
          obtain ⟨lets, declared⟩ := ih (before ++ [index]) bound splitNext
            (extended bound (fun _ => id) fun indirect =>
              ⟨node, held, .inl (by simpa [indirect] using skipped)⟩)
          exact ⟨lets, bind_eq_ok_iff.mpr ⟨node, found, (if_pos skipped).trans declared⟩⟩
      | false =>
          have operation : node.isLeaf = false := (Bool.or_eq_false_iff.mp skipped).1
          have complete : ∀ invocation, node = .call invocation → invocation.unbound? = none :=
            fun invocation same => evaluable.complete index listed invocation (same ▸ held)
          obtain ⟨expression, expressed⟩ := exists_expressionFor held operation complete
            fun argument member =>
              have argued := evaluable.earlier before index rest node split held argument member
              known argument argued.1 argued.2
          obtain ⟨lets, declared⟩ := ih (before ++ [index]) (index :: bound) splitNext
            (extended _ (fun _ => .tail _) fun _ => ⟨node, held, .inr List.mem_cons_self⟩)
          refine ⟨⟨node.variableName index, node.ty, expression⟩ :: lets,
            bind_eq_ok_iff.mpr ⟨node, found, ?_⟩⟩
          rw [if_neg (Bool.eq_false_iff.mp skipped)]
          exact bind_eq_ok_iff.mpr ⟨expression, expressed,
            bind_eq_ok_iff.mpr ⟨lets, declared, rfl⟩⟩

/-- After the temporaries every node of the order that is not assigned directly is known. -/
theorem Evaluable.known (evaluable : nodes.Evaluable direct order) (listed : index ∈ order)
    (indirect : index ∉ direct) : nodes.Known (nodes.boundNodes direct order) index := by
  obtain ⟨node, held⟩ := evaluable.held index listed
  refine ⟨node, held, ?_⟩
  cases leaf : node.isLeaf with
  | true => exact .inl rfl
  | false =>
      refine .inr (List.mem_filter.mpr ⟨listed, ?_⟩)
      simp [indirect, held, leaf]

theorem Evaluable.exists_assignmentFor (evaluable : nodes.Evaluable direct order)
    (operations : ∀ index ∈ direct, ∀ node, nodes.get? index = some node → node.isLeaf = false)
    (output : StageOutput) (listed : output.node ∈ order) :
    ∃ assignment, nodes.assignmentFor direct (nodes.boundNodes direct order) output =
      .ok assignment := by
  obtain ⟨node, held⟩ := evaluable.held output.node listed
  have found := nodeAt_eq_ok_iff.mpr held
  by_cases picked : output.node ∈ direct
  · obtain ⟨before, after, split⟩ := List.append_of_mem listed
    have known : ∀ argument ∈ node.arguments,
        nodes.Known (nodes.boundNodes direct order) argument := by
      intro argument member
      have argued := evaluable.earlier before _ after node split held argument member
      exact evaluable.known (split ▸ List.mem_append_left _ argued.1) argued.2
    obtain ⟨expression, expressed⟩ := exists_expressionFor held (operations _ picked node held)
      (fun invocation same => evaluable.complete _ listed invocation (same ▸ held)) known
    refine ⟨⟨output.target, expression⟩, bind_eq_ok_iff.mpr ⟨node, found, ?_⟩⟩
    rw [if_pos (List.contains_iff_mem.mpr picked)]
    exact bind_eq_ok_iff.mpr ⟨expression, expressed, rfl⟩
  · obtain ⟨operand, referred⟩ :=
      exists_operandFor (evaluable.known listed picked) output.target.text
    refine ⟨⟨output.target, .operand operand⟩, bind_eq_ok_iff.mpr ⟨node, found, ?_⟩⟩
    rw [if_neg (by simpa using picked)]
    exact bind_eq_ok_iff.mpr ⟨operand, referred, rfl⟩

/-- A function that the registry defines can be collected. -/
theorem exists_collectFunctions (held : nodes.get? index = some node)
    (registered : ∀ invocation, node = .call invocation →
      invocation.function ∈ registry.functions) (functions : List ShaderFunction) :
    ∃ later, nodes.collectFunctions registry functions index = .ok later := by
  simp only [collectFunctions, nodeAt_eq_ok_iff.mpr held]
  cases node with
  | call invocation =>
      have found := FunctionRegistry.get?_of_mem (registered invocation rfl)
      by_cases present : functions.any (·.name = invocation.function.name)
      · exact ⟨functions, by simp [bind, Except.bind, present, pure, Except.pure]⟩
      · exact ⟨functions ++ [invocation.function], by
          simp [bind, Except.bind, present, found, pure, Except.pure]⟩
  | vertexAttribute | uniform | engine | vary | fetch | constant | combine | swizzle =>
      exact ⟨functions, rfl⟩

theorem isDirect_eq_ok (held : nodes.get? index = some node) :
    nodes.isDirect order outputs index =
      .ok (!node.isLeaf && nodes.useCount order outputs index == 1) := by
  unfold isDirect
  rw [nodeAt_eq_ok_iff.mpr held]
  rfl

/-- The node of an output that has no other use is no argument. -/
theorem not_direct_of_argument {consumer : NodeIndex} (listed : consumer ∈ order)
    (argument : index ∈ nodes.dependencies consumer)
    (output : index ∈ outputs.map StageOutput.node) :
    nodes.isDirect order outputs index ≠ .ok true := by
  intro direct
  obtain ⟨node, found, same⟩ := bind_eq_ok_iff.mp direct
  rw [isDirect_eq_ok (nodeAt_eq_ok_iff.mp found)] at direct
  have asArgument : 0 < (order.flatMap nodes.dependencies).count index :=
    List.count_pos_iff.mpr (List.mem_flatMap.mpr ⟨consumer, listed, argument⟩)
  have asOutput : 0 < (outputs.map StageOutput.node).count index := List.count_pos_iff.mpr output
  simp only [Except.ok.injEq, Bool.and_eq_true, beq_iff_eq, useCount] at direct
  omega

end ShaderNodes

/-! ### Stages -/

/-- What authoring guarantees about the nodes of a stage: the recorded edges are the arguments,
arguments and outputs are in the arena, and functions are registered. -/
structure Authored (nodes : ShaderNodes) (registry : FunctionRegistry) (roots : List NodeIndex) :
    Prop where
  edges : ∀ index node, nodes.get? index = some node → nodes.dependencies index = node.arguments
  closed : ∀ index node, nodes.get? index = some node →
    ∀ dependency ∈ nodes.dependencies index, ∃ argument, nodes.get? dependency = some argument
  placed : ∀ root ∈ roots, ∃ node, nodes.get? root = some node
  registered : ∀ index invocation, nodes.get? index = some (.call invocation) →
    invocation.function ∈ registry.functions

open ShaderNodes

variable {nodes : ShaderNodes} {registry : FunctionRegistry} {stage : Stage}
  {outputs : List StageOutput}

/-- Along an order of complete calls the code can be put together. -/
theorem Authored.assembles (authored : Authored nodes registry (outputs.map StageOutput.node))
    {order : List NodeIndex} (isOrder : nodes.IsOrder (outputs.map StageOutput.node) order)
    (complete : ∀ index ∈ order, ∀ invocation, nodes.get? index = some (.call invocation) →
      invocation.unbound? = none) :
    ∃ functions direct lets assignments,
      order.foldlM (nodes.collectFunctions registry) [] = .ok functions ∧
      (outputs.map StageOutput.node).filterM (nodes.isDirect order outputs) = .ok direct ∧
      nodes.letBindings direct [] order = .ok lets ∧
      outputs.mapM (nodes.assignmentFor direct (nodes.boundNodes direct order)) =
        .ok assignments := by
  have present : ∀ index ∈ order, ∃ node, nodes.get? index = some node := fun index listed =>
    exists_of_reached authored.closed authored.placed ((isOrder.mem_iff index).mp listed)
  obtain ⟨functions, collected⟩ := exists_foldlM (nodes.collectFunctions registry)
    order (fun functions index listed => by
      obtain ⟨node, held⟩ := present index listed
      exact exists_collectFunctions held
        (fun invocation same => authored.registered index invocation (same ▸ held)) functions) []
  obtain ⟨direct, picked, sound⟩ := exists_filterM (nodes.isDirect order outputs)
    (outputs.map StageOutput.node) fun root listed => by
      obtain ⟨node, held⟩ := authored.placed root listed
      exact ⟨_, isDirect_eq_ok held⟩
  have evaluable : nodes.Evaluable direct order := by
    refine ⟨present, complete, ?_⟩
    intro before index after node split held argument member
    have edge : argument ∈ nodes.dependencies index := authored.edges index node held ▸ member
    have listed : index ∈ order := split ▸ List.mem_append_right _ List.mem_cons_self
    refine ⟨isOrder.follows before index after split argument edge, fun direct => ?_⟩
    obtain ⟨output, only⟩ := sound argument direct
    exact not_direct_of_argument listed edge output only
  have operations : ∀ index ∈ direct, ∀ node, nodes.get? index = some node →
      node.isLeaf = false := by
    intro index listed node held
    have only := (sound index listed).2
    rw [isDirect_eq_ok held] at only
    simp only [Except.ok.injEq, Bool.and_eq_true, Bool.not_eq_true'] at only
    exact only.1
  obtain ⟨lets, declared⟩ := evaluable.exists_letBindings
  obtain ⟨assignments, assigned⟩ := exists_mapM fun output listed =>
    evaluable.exists_assignmentFor operations output
      ((isOrder.mem_iff _).mpr (.root (List.mem_map_of_mem listed)))
  exact ⟨functions, direct, lets, assignments, collected, picked, declared, assigned⟩

/-- A stage is only generated if what its outputs reach allows it, and is only refused for a reason
that is the case. -/
theorem generateStage_sound (stage : Stage) (outputs : List StageOutput)
    (authored : Authored nodes registry (outputs.map StageOutput.node)) :
    match generateStage nodes registry stage outputs with
    | .ok _ => nodes.Generable stage (outputs.map StageOutput.node)
    | .error error => nodes.Refutes stage (outputs.map StageOutput.node) error := by
  have present : ∀ index, nodes.Reached (outputs.map StageOutput.node) index →
      ∃ node, nodes.get? index = some node := fun index reached =>
    exists_of_reached authored.closed authored.placed reached
  have traversed := stageOrder_sound stage present
  unfold generateStage
  cases ordered : nodes.stageOrder outputs with
  | error error =>
      rw [ordered] at traversed
      exact traversed
  | ok order =>
      rw [ordered] at traversed
      obtain ⟨isOrder, acyclic⟩ := traversed
      dsimp only [bind, Except.bind]
      cases checked : order.forM (nodes.checkNode stage) with
      | error error =>
          obtain ⟨index, listed, refused⟩ := forM_eq_error checked
          have reached := (isOrder.mem_iff index).mp listed
          obtain ⟨node, held⟩ := present index reached
          have sound := checkNode_sound stage reached held
          rw [refused] at sound
          exact sound
      | ok _ =>
          have sound : ∀ index, nodes.Reached (outputs.map StageOutput.node) index → ∀ node,
              nodes.get? index = some node → ¬ node.ForeignTo stage ∧
                ∀ invocation, node = .call invocation → invocation.unbound? = none := by
            intro index reached node held
            have sound := checkNode_sound stage reached held
            rw [forM_eq_ok_iff.mp checked index ((isOrder.mem_iff index).mpr reached)] at sound
            exact sound
          obtain ⟨functions, direct, lets, assignments, collected, picked, declared, assigned⟩ :=
            authored.assembles isOrder fun index listed invocation held =>
              (sound index ((isOrder.mem_iff index).mp listed) _ held).2 invocation rfl
          simp only [collected, picked, declared, assigned]
          refine ⟨?_, ?_, ?_⟩
          · exact fun index reached => acyclic index ((isOrder.mem_iff index).mpr reached)
          · exact fun index invocation reached held =>
              unbound?_eq_none_iff.mp ((sound index reached _ held).2 invocation rfl)
          · exact fun index node reached held => (sound index reached node held).1

/-- A stage is generated iff what its outputs reach allows it. -/
theorem generateStage_exact
    (authored : Authored nodes registry (outputs.map StageOutput.node)) :
    (∃ code, generateStage nodes registry stage outputs = .ok code) ↔
      nodes.Generable stage (outputs.map StageOutput.node) := by
  have sound := generateStage_sound stage outputs authored
  cases generated : generateStage nodes registry stage outputs with
  | ok code =>
      rw [generated] at sound
      exact ⟨fun _ => sound, fun _ => ⟨code, rfl⟩⟩
  | error error =>
      rw [generated] at sound
      exact ⟨by simp, fun generable => absurd generable (not_generable_of_refutes sound)⟩

end ShaderFlow

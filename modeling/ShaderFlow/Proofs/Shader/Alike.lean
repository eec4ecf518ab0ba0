/-
Module: ShaderFlow.Proofs.Shader.Alike
Purpose: Compiling looks at nothing but what the roots and the vary slots of a graph reach, and not at
  the order in which inputs were bound.
Main exports: FunctionCall.Alike, ShaderNode.Alike, ShaderNodes.Alike, generateStage_alike,
  ShaderGraph.roots, ShaderGraph.Alike, ShaderGraph.compile_alike
-/
import ShaderFlow.Proofs.Graph.Renumbering
import ShaderFlow.Proofs.Shader.Manifests

namespace ShaderFlow

/-!
An invocation is asked for its inputs by slot, so two invocations that answer alike are one to the
compiler, whatever the order of their entries.  Every function of the compiler looks up the nodes of
an order and their arguments, and these are reached.  Two graphs with alike nodes where the roots and
slots of one of them lead therefore compile to the same, messages of errors included.
-/

/-! ### Alike nodes -/

/-- The invocations of one function under one label with the same inputs.  Their slots may have been
bound in another order. -/
structure FunctionCall.Alike (invocation other : FunctionCall) : Prop where
  function : other.function = invocation.function
  label : other.label = invocation.label
  bound : ∀ slot, other.bound.get? slot = invocation.bound.get? slot

namespace FunctionCall.Alike

variable {invocation other : FunctionCall}

theorem arguments (alike : invocation.Alike other) : other.arguments = invocation.arguments := by
  simp only [FunctionCall.arguments, alike.function, alike.bound]

theorem unbound? (alike : invocation.Alike other) : other.unbound? = invocation.unbound? := by
  simp only [FunctionCall.unbound?, OrderedMap.contains, alike.function, alike.bound]

end FunctionCall.Alike

/-- Alike invocations, or one and the same node. -/
inductive ShaderNode.Alike : ShaderNode → ShaderNode → Prop where
  | call {invocation other : FunctionCall} (alike : invocation.Alike other) :
      Alike (.call invocation) (.call other)
  | refl (node : ShaderNode) : Alike node node

namespace ShaderNode.Alike

variable {node other : ShaderNode}

theorem ty (alike : node.Alike other) : other.ty = node.ty := by
  cases alike with
  | call alike => simp only [ShaderNode.ty, alike.function]
  | refl => rfl

theorem isLeaf (alike : node.Alike other) : other.isLeaf = node.isLeaf := by
  cases alike <;> rfl

theorem arguments (alike : node.Alike other) : other.arguments = node.arguments := by
  cases alike with
  | call alike => exact alike.arguments
  | refl => rfl

theorem describe (alike : node.Alike other) : other.describe = node.describe := by
  cases alike with
  | call alike =>
      unfold ShaderNode.describe
      dsimp only
      rw [alike.function, alike.label]
  | refl => rfl

theorem variableName (alike : node.Alike other) (index : NodeIndex) :
    other.variableName index = node.variableName index := by
  cases alike with
  | @call invocation changed alike =>
      have labels := alike.label
      obtain ⟨_, _, label⟩ := invocation
      obtain ⟨_, _, _⟩ := changed
      dsimp only at labels
      rw [labels]
      cases label <;> rfl
  | refl => rfl

theorem addNode (alike : node.Alike other) (resources : Resources) :
    resources.addNode other = resources.addNode node := by
  cases alike <;> rfl

theorem addAttribute (alike : node.Alike other) (names : ModuleNames)
    (attributes : List AttributeSlot) :
    ShaderFlow.addAttribute names attributes other = ShaderFlow.addAttribute names attributes node := by
  cases alike <;> rfl

end ShaderNode.Alike

section

variable {nodes later : ShaderNodes} {registry : FunctionRegistry} {stage : Stage}
  {roots starts direct bound order : List NodeIndex} {outputs : List StageOutput}
  {index : NodeIndex} {node other : ShaderNode}

namespace ShaderNodes

/-- Two arenas hold alike nodes in a slot, or none. -/
def AlikeAt (nodes later : ShaderNodes) (index : NodeIndex) : Prop :=
  Option.Rel ShaderNode.Alike (nodes.get? index) (later.get? index)

theorem alikeAt_of_eq (same : later.get? index = nodes.get? index) : nodes.AlikeAt later index := by
  unfold AlikeAt
  rw [same]
  cases nodes.get? index with
  | none => exact .none
  | some node => exact .some (.refl node)

theorem AlikeAt.cases (alike : nodes.AlikeAt later index) :
    (∃ node other, nodes.get? index = some node ∧ later.get? index = some other ∧
      node.Alike other) ∨
    nodes.get? index = none ∧ later.get? index = none := by
  unfold AlikeAt at alike
  generalize nodes.get? index = held at alike ⊢
  generalize later.get? index = found at alike ⊢
  cases alike with
  | some same => exact .inl ⟨_, _, rfl, rfl, same⟩
  | none => exact .inr ⟨rfl, rfl⟩

/-- Another arena holds alike nodes with the same edges wherever the roots lead. -/
structure Alike (nodes : ShaderNodes) (roots : List NodeIndex) (later : ShaderNodes) : Prop where
  node : ∀ index, nodes.Reached roots index → nodes.AlikeAt later index
  edges : ∀ index, nodes.Reached roots index → later.dependencies index = nodes.dependencies index

theorem Alike.mono (alike : nodes.Alike roots later)
    (within : ∀ start ∈ starts, nodes.Reached roots start) : nodes.Alike starts later where
  node index reached := alike.node index (reached.trans within)
  edges index reached := alike.edges index (reached.trans within)

/-! ### One slot -/

/-- Looking up a slot gives alike nodes, or one error. -/
theorem AlikeAt.nodeAt_cases (alike : nodes.AlikeAt later index) :
    (∃ node other, nodes.nodeAt index = .ok node ∧ later.nodeAt index = .ok other ∧
      node.Alike other) ∨
    ∃ error, nodes.nodeAt index = .error error ∧ later.nodeAt index = .error error := by
  rcases alike.cases with ⟨node, other, held, found, same⟩ | ⟨held, found⟩
  · exact .inl ⟨node, other, nodeAt_eq_ok_iff.mpr held, nodeAt_eq_ok_iff.mpr found, same⟩
  · simp only [nodeAt, held, found]
    exact .inr ⟨_, rfl, rfl⟩

section

variable (alike : nodes.AlikeAt later index)

include alike

theorem AlikeAt.describeSlot : later.describeSlot index = nodes.describeSlot index := by
  unfold ShaderNodes.describeSlot
  rcases alike.cases with ⟨node, other, held, found, same⟩ | ⟨held, found⟩
  · rw [held, found]
    dsimp only
    rw [same.describe, same.variableName]
  · rw [held, found]

theorem AlikeAt.contains : later.contains index ↔ nodes.contains index := by
  rw [DependencyGraph.contains_iff, DependencyGraph.contains_iff]
  rcases alike.cases with ⟨node, other, held, found, same⟩ | ⟨held, found⟩
  · simp [held, found]
  · simp [held, found]

theorem AlikeAt.checkNode : later.checkNode stage index = nodes.checkNode stage index := by
  unfold ShaderNodes.checkNode
  rcases alike.nodeAt_cases with ⟨_, _, held, found, same⟩ | ⟨error, held, found⟩
  · rw [held, found]
    cases same with
    | @call invocation other same =>
        have named := (ShaderNode.Alike.call same).variableName index
        cases stage <;> simp only [bind, Except.bind, same.unbound?, same.function, named]
    | refl => rfl
  · rw [held, found]

theorem AlikeAt.collectFunctions (functions : List ShaderFunction) :
    later.collectFunctions registry functions index =
      nodes.collectFunctions registry functions index := by
  unfold ShaderNodes.collectFunctions
  rcases alike.nodeAt_cases with ⟨_, _, held, found, same⟩ | ⟨error, held, found⟩
  · rw [held, found]
    cases same with
    | call same => simp only [bind, Except.bind, same.function]
    | refl => rfl
  · rw [held, found]

theorem AlikeAt.operandFor (referencedBy : String) :
    later.operandFor bound referencedBy index = nodes.operandFor bound referencedBy index := by
  unfold ShaderNodes.operandFor
  rcases alike.cases with ⟨_, _, held, found, same⟩ | ⟨held, found⟩
  · rw [held, found]
    cases same with
    | call same => simp only [(ShaderNode.Alike.call same).variableName]
    | refl => rfl
  · rw [held, found]

/-- The expression of a node rests on the node and its arguments. -/
theorem AlikeAt.expressionFor (same : node.Alike other)
    (arguments : ∀ argument ∈ node.arguments, nodes.AlikeAt later argument) :
    later.expressionFor bound index other = nodes.expressionFor bound index node := by
  have operands : ∀ owner, node.arguments.mapM (later.operandFor bound owner) =
      node.arguments.mapM (nodes.operandFor bound owner) := fun owner =>
    mapM_congr fun argument listed => (arguments argument listed).operandFor owner
  cases same with
  | @call invocation other same =>
      have renamed := (ShaderNode.Alike.call same).variableName index
      have inputs := operands ((ShaderNode.call invocation).variableName index)
      rw [ShaderNode.arguments] at inputs
      simp only [ShaderNodes.expressionFor, renamed, same.unbound?, same.function, same.arguments,
        inputs]
  | refl =>
      cases node with
      | call invocation =>
          have inputs := operands ((ShaderNode.call invocation).variableName index)
          rw [ShaderNode.arguments] at inputs
          simp only [ShaderNodes.expressionFor, inputs]
      | combine ty parts =>
          have inputs := operands ((ShaderNode.combine ty parts).variableName index)
          rw [ShaderNode.arguments] at inputs
          simp only [ShaderNodes.expressionFor, inputs]
      | fetch texture coordinate =>
          simp only [ShaderNodes.expressionFor,
            (arguments coordinate List.mem_cons_self).operandFor]
      | swizzle source mask ty =>
          simp only [ShaderNodes.expressionFor, (arguments source List.mem_cons_self).operandFor]
      | vertexAttribute | uniform | engine | vary | constant =>
          simp only [ShaderNodes.expressionFor, alike.operandFor]

end

/-- A fold over nodes that sees no difference between alike nodes. -/
theorem foldlM_alike {γ : Type} {step : γ → ShaderNode → Except ShaderError γ}
    (blind : ∀ value node other, node.Alike other → step value other = step value node)
    (alike : ∀ index ∈ order, nodes.AlikeAt later index) (start : γ) :
    (order.filterMap later.get?).foldlM step start =
      (order.filterMap nodes.get?).foldlM step start := by
  induction order generalizing start with
  | nil => rfl
  | cons index rest ih =>
      obtain ⟨here, others⟩ := List.forall_mem_cons.mp alike
      rcases here.cases with ⟨node, other, held, found, same⟩ | ⟨held, found⟩
      · rw [List.filterMap_cons_some held, List.filterMap_cons_some found, List.foldlM_cons,
          List.foldlM_cons, blind start node other same]
        exact congrArg _ (funext (ih others))
      · rw [List.filterMap_cons_none held, List.filterMap_cons_none found]
        exact ih others start

/-! ### Whole stages -/

namespace Alike

theorem stageOrder (alike : nodes.Alike (outputs.map StageOutput.node) later) :
    later.stageOrder outputs = nodes.stageOrder outputs := by
  have ordered : later.orderFrom (outputs.map StageOutput.node) =
      nodes.orderFrom (outputs.map StageOutput.node) :=
    DependencyGraph.orderFrom_congr
      (fun index reached => (alike.node index reached).contains) alike.edges
  have sound := nodes.orderFrom_sound (outputs.map StageOutput.node)
  have described : ∀ index, nodes.Reached (outputs.map StageOutput.node) index →
      later.describeSlot index = nodes.describeSlot index :=
    fun index reached => (alike.node index reached).describeSlot
  unfold ShaderNodes.stageOrder
  rw [ordered]
  cases found : nodes.orderFrom (outputs.map StageOutput.node) with
  | ok order => rfl
  | error reason =>
      rw [found] at sound
      -- the slots that an error names are reached, also those outside the arena
      cases reason with
      | cycle index => simp only [traversalError, described index sound.1]
      | missingNode index referencedBy =>
          simp only [traversalError, described referencedBy sound.1,
            described index (sound.1.dependency sound.2.1)]
      | missingRoot root => simp only [traversalError, described root (.root sound.1)]

/-- The arguments of a reached node are reached. -/
theorem expressionFor (alike : nodes.Alike roots later)
    (edges : ∀ index node, nodes.get? index = some node → nodes.dependencies index = node.arguments)
    (reached : nodes.Reached roots index) (found : nodes.nodeAt index = .ok node)
    (same : node.Alike other) :
    later.expressionFor bound index other = nodes.expressionFor bound index node := by
  apply (alike.node index reached).expressionFor same
  intro argument listed
  rw [← edges index node (nodeAt_eq_ok_iff.mp found)] at listed
  exact alike.node argument (reached.dependency listed)

/-- Along an order of reached nodes the same temporaries are declared. -/
theorem letBindings (alike : nodes.Alike roots later)
    (edges : ∀ index node, nodes.get? index = some node → nodes.dependencies index = node.arguments)
    (reached : ∀ index ∈ order, nodes.Reached roots index) :
    later.letBindings direct bound order = nodes.letBindings direct bound order := by
  induction order generalizing bound with
  | nil => rfl
  | cons index rest ih =>
      obtain ⟨here, others⟩ := List.forall_mem_cons.mp reached
      have following : ∀ bound, later.letBindings direct bound rest =
          nodes.letBindings direct bound rest := fun bound => ih others
      unfold ShaderNodes.letBindings
      rcases (alike.node index here).nodeAt_cases with ⟨node, other, held, found, same⟩ |
          ⟨error, held, found⟩
      · rw [held, found]
        simp only [bind, Except.bind, same.isLeaf, same.ty, same.variableName,
          alike.expressionFor edges here held same, following]
      · rw [held, found]
        rfl

theorem assignmentFor (alike : nodes.Alike roots later)
    (edges : ∀ index node, nodes.get? index = some node → nodes.dependencies index = node.arguments)
    {output : StageOutput} (reached : nodes.Reached roots output.node) :
    later.assignmentFor direct bound output = nodes.assignmentFor direct bound output := by
  have here := alike.node output.node reached
  unfold ShaderNodes.assignmentFor
  rcases here.nodeAt_cases with ⟨node, other, held, found, same⟩ | ⟨error, held, found⟩
  · rw [held, found]
    simp only [bind, Except.bind, here.operandFor, alike.expressionFor edges reached held same]
  · rw [held, found]
    rfl

theorem isDirect (alike : nodes.Alike roots later)
    (listed : ∀ index ∈ order, nodes.Reached roots index) (reached : nodes.Reached roots index) :
    later.isDirect order outputs index = nodes.isDirect order outputs index := by
  have uses : later.useCount order outputs index = nodes.useCount order outputs index := by
    unfold useCount
    rw [List.flatMap_congr fun other member => alike.edges other (listed other member)]
  unfold ShaderNodes.isDirect
  rw [uses]
  rcases (alike.node index reached).nodeAt_cases with ⟨node, other, held, found, same⟩ |
      ⟨error, held, found⟩
  · rw [held, found]
    simp only [bind, Except.bind, same.isLeaf]
  · rw [held, found]

theorem boundNodes (alike : nodes.Alike roots later)
    (listed : ∀ index ∈ order, nodes.Reached roots index) :
    later.boundNodes direct order = nodes.boundNodes direct order := by
  apply List.filter_congr
  intro index member
  rcases (alike.node index (listed index member)).cases with ⟨node, other, held, found, same⟩ |
      ⟨held, found⟩
  · simp only [held, found, Option.any_some, same.isLeaf]
  · simp only [held, found]

end Alike

end ShaderNodes

open ShaderNodes

/-- A stage is generated alike from arenas with alike nodes where its outputs lead. -/
theorem generateStage_alike (alike : nodes.Alike (outputs.map StageOutput.node) later)
    (edges : ∀ index node, nodes.get? index = some node →
      nodes.dependencies index = node.arguments) :
    generateStage later registry stage outputs = generateStage nodes registry stage outputs := by
  unfold generateStage
  rw [alike.stageOrder]
  cases ordered : nodes.stageOrder outputs with
  | error => rfl
  | ok order =>
      have isOrder := DependencyGraph.isOrder_of_orderFrom
        (ShaderGraph.orderFrom_of_stageOrder ordered)
      have reached : ∀ index ∈ order, nodes.Reached (outputs.map StageOutput.node) index :=
        fun index listed => (isOrder.mem_iff index).mp listed
      have outputReached : ∀ output ∈ outputs,
          nodes.Reached (outputs.map StageOutput.node) output.node :=
        fun output listed => .root (List.mem_map_of_mem listed)
      have checked : order.forM (later.checkNode stage) = order.forM (nodes.checkNode stage) :=
        forM_congr fun index listed => (alike.node index (reached index listed)).checkNode
      have collected : order.foldlM (later.collectFunctions registry) [] =
          order.foldlM (nodes.collectFunctions registry) [] :=
        foldlM_congr (fun functions index listed =>
          (alike.node index (reached index listed)).collectFunctions functions) []
      have picked : (outputs.map StageOutput.node).filterM (later.isDirect order outputs) =
          (outputs.map StageOutput.node).filterM (nodes.isDirect order outputs) :=
        filterM_congr fun root listed => alike.isDirect reached (.root listed)
      have assigned : ∀ direct bound, outputs.mapM (later.assignmentFor direct bound) =
          outputs.mapM (nodes.assignmentFor direct bound) := fun direct bound =>
        mapM_congr fun output listed => alike.assignmentFor edges (outputReached output listed)
      dsimp only [bind, Except.bind]
      simp only [checked, collected, picked, assigned, alike.letBindings edges reached,
        alike.boundNodes reached]

/-- Linking looks up the nodes of both orders and of the slots. -/
theorem linkProgram_alike {options : EntryNames} {varys : OrderedMap String NodeIndex}
    {vertex fragment : StageCode}
    (vertexAlike : ∀ index ∈ vertex.order, nodes.AlikeAt later index)
    (fragmentAlike : ∀ index ∈ fragment.order, nodes.AlikeAt later index)
    (slotsAlike : ∀ slot ∈ varys.entries, nodes.AlikeAt later slot.2) :
    linkProgram later options varys vertex fragment =
      linkProgram nodes options varys vertex fragment := by
  have bothAlike : ∀ index ∈ vertex.order ++ fragment.order, nodes.AlikeAt later index :=
    fun index listed => (List.mem_append.mp listed).elim (vertexAlike index) (fragmentAlike index)
  have resources := foldlM_alike (fun value _ _ same => same.addNode value) bothAlike
    Resources.initial
  have attributes := fun names : ModuleNames =>
    foldlM_alike (fun value _ _ same => same.addAttribute names value) vertexAlike []
  have varyings : ∀ names : ModuleNames,
      varys.entries.foldlM (addVarying later names options.fragmentOutput) [] =
        varys.entries.foldlM (addVarying nodes names options.fragmentOutput) [] := fun names =>
    foldlM_congr (fun varyings slot listed => by
      rcases (slotsAlike slot listed).cases with ⟨node, other, held, found, same⟩ | ⟨held, found⟩
      · simp only [addVarying, held, found, same.ty]
      · simp only [addVarying, held, found]) []
  unfold linkProgram
  simp only [resources, attributes, varyings]

end

/-! ### Whole graphs -/

namespace ShaderGraph

variable {graph next : ShaderGraph} {index : NodeIndex}

/-- Where compiling starts: the roots of both stages, and the nodes of the slots. -/
def roots (graph : ShaderGraph) : List NodeIndex :=
  graph.vertexRoot.toList ++ graph.fragmentRoot.toList ++ graph.varys.values

theorem mem_roots_of_vertexRoots {root : NodeIndex} (placed : graph.vertexRoot = some root) :
    ∀ start ∈ graph.vertexRoots root, start ∈ graph.roots := by
  intro start listed
  rw [roots, placed]
  rcases List.mem_cons.mp listed with rfl | slot
  · simp
  · exact List.mem_append_right _ slot

theorem mem_roots_of_fragmentRoot {root : NodeIndex} (placed : graph.fragmentRoot = some root) :
    root ∈ graph.roots := by
  simp [roots, placed]

/-- Another graph has the same roots, slots and names, and alike nodes where compiling looks. -/
structure Alike (graph next : ShaderGraph) : Prop where
  registry : next.registry = graph.registry
  options : next.options = graph.options
  vertexRoot : next.vertexRoot = graph.vertexRoot
  fragmentRoot : next.fragmentRoot = graph.fragmentRoot
  varys : next.varys = graph.varys
  nodes : ShaderNodes.Alike graph.nodes graph.roots next.nodes

/-- What compiling gives rests on the roots and slots, on what they reach, and there on the inputs of
each slot. -/
theorem compile_alike (alike : graph.Alike next)
    (edges : ∀ index node, graph.nodes.get? index = some node →
      graph.nodes.dependencies index = node.arguments) :
    next.compile = graph.compile := by
  have vertexOutputs : ∀ root, next.vertexOutputs root = graph.vertexOutputs root := fun root => by
    rw [ShaderGraph.vertexOutputs, ShaderGraph.vertexOutputs, alike.varys]
  have fragmentOutputs : ∀ root, next.fragmentOutputs root = graph.fragmentOutputs root :=
    fun root => by rw [ShaderGraph.fragmentOutputs, ShaderGraph.fragmentOutputs, alike.options]
  suffices linked : next.link = graph.link by rw [compile, linked, compile]
  unfold link
  simp only [alike.vertexRoot, alike.fragmentRoot, alike.registry, alike.options, alike.varys,
    vertexOutputs, fragmentOutputs]
  cases vertexPlaced : graph.vertexRoot with
  | none => rfl
  | some vertexRoot =>
      cases fragmentPlaced : graph.fragmentRoot with
      | none => rfl
      | some fragmentRoot =>
          have vertexAlike : ShaderNodes.Alike graph.nodes
              ((graph.vertexOutputs vertexRoot).map StageOutput.node) next.nodes := by
            apply alike.nodes.mono
            intro start listed
            rw [nodes_vertexOutputs] at listed
            exact .root (mem_roots_of_vertexRoots vertexPlaced start listed)
          have fragmentAlike : ShaderNodes.Alike graph.nodes
              ((graph.fragmentOutputs fragmentRoot).map StageOutput.node) next.nodes := by
            apply alike.nodes.mono
            intro start listed
            rw [List.mem_singleton.mp listed]
            exact .root (mem_roots_of_fragmentRoot fragmentPlaced)
          dsimp only
          rw [generateStage_alike vertexAlike edges, generateStage_alike fragmentAlike edges]
          cases vertexDone : generateStage graph.nodes graph.registry .vertex
              (graph.vertexOutputs vertexRoot) with
          | error => rfl
          | ok vertex =>
              cases fragmentDone : generateStage graph.nodes graph.registry .fragment
                  (graph.fragmentOutputs fragmentRoot) with
              | error => rfl
              | ok fragment =>
                  obtain ⟨_, vertexGenerated⟩ := generated_of_generateStage vertexDone
                  obtain ⟨_, fragmentGenerated⟩ := generated_of_generateStage fragmentDone
                  apply linkProgram_alike
                  · exact fun index listed =>
                      vertexAlike.node index ((vertexGenerated.isOrder.mem_iff index).mp listed)
                  · exact fun index listed =>
                      fragmentAlike.node index ((fragmentGenerated.isOrder.mem_iff index).mp listed)
                  · intro slot listed
                    apply alike.nodes.node
                    exact .root (List.mem_append_right _ (List.mem_map_of_mem listed))

end ShaderGraph

end ShaderFlow

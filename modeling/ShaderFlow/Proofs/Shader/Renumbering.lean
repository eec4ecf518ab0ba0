/-
Module: ShaderFlow.Proofs.Shader.Renumbering
Purpose: Neither the numbers of nodes nor the labels of calls show in the interface of a program.
Main exports: ShaderNode.payload, SameOutcome, ShaderGraph.Renumbers, generateStage_renumbers,
  linkProgram_renumbers, ShaderGraph.compile_renumbers
-/
import ShaderFlow.Proofs.Shader.Unreached

namespace ShaderFlow

/-!
The two compilations go through the same steps.  The traversals visit corresponding nodes, so the
orders correspond; every check then finds the same fault at the same place, though it may call the
node by another name.  Once the checks are passed, putting the code of a stage together cannot fail,
so the text of the statements, in which numbers and labels do show, never has to be compared.
Everything that linking collects depends on the payloads of the nodes in their order.
-/

/-! ### Payloads -/

/-- A node without its arguments and its label. -/
def ShaderNode.payload : ShaderNode → ShaderNode
  | .call invocation => .call { function := invocation.function }
  | .fetch texture _ => .fetch texture 0
  | .combine ty _ => .combine ty []
  | .swizzle _ mask ty => .swizzle 0 mask ty
  | .vertexAttribute name ty => .vertexAttribute name ty
  | .uniform name default => .uniform name default
  | .engine quantity => .engine quantity
  | .vary name ty => .vary name ty
  | .constant value => .constant value

@[simp] theorem ShaderNode.ty_payload (node : ShaderNode) : node.payload.ty = node.ty := by
  cases node <;> rfl

@[simp] theorem Resources.addNode_payload (resources : Resources) (node : ShaderNode) :
    resources.addNode node.payload = resources.addNode node := by
  cases node <;> rfl

@[simp] theorem addAttribute_payload (names : ModuleNames) (attributes : List AttributeSlot)
    (node : ShaderNode) :
    addAttribute names attributes node.payload = addAttribute names attributes node := by
  cases node <;> rfl

/-- A node under other numbers: its payload is the same and its arguments correspond in order, while
its label may differ. -/
structure ShaderNode.Renumbers (number : NodeIndex → NodeIndex) (node image : ShaderNode) : Prop where
  payload : image.payload = node.payload
  arguments : image.arguments = node.arguments.map number

theorem ShaderNode.Renumbers.ty_eq {number : NodeIndex → NodeIndex} {node image : ShaderNode}
    (renumbers : node.Renumbers number image) : image.ty = node.ty := by
  rw [← image.ty_payload, renumbers.payload, node.ty_payload]

/-- A call has all its inputs iff it has as many arguments as its function has inputs. -/
theorem FunctionCall.unbound?_eq_none_iff_length {call : FunctionCall} :
    call.unbound? = none ↔ call.arguments.length = call.function.inputs.length := by
  rw [FunctionCall.arguments, List.filterMap_length_eq_length, FunctionCall.unbound?,
    List.find?_eq_none]
  simp [OrderedMap.contains, Option.isSome_iff_ne_none]

/-! ### Outcomes of two runs -/

/-- Two runs both succeed, with related results, or both fail, with errors of one kind. -/
inductive SameOutcome {α β : Type} (related : α → β → Prop) :
    Except ShaderError α → Except ShaderError β → Prop where
  | ok {first : α} {second : β} (results : related first second) :
      SameOutcome related (.ok first) (.ok second)
  | error {first second : ShaderError} (kind : second.kind = first.kind) :
      SameOutcome related (.error first) (.error second)

namespace SameOutcome

variable {α β γ δ : Type} {related : α → β → Prop} {later : γ → δ → Prop}
  {first : Except ShaderError α} {second : Except ShaderError β}

/-- What comes after two runs need only be compared for the results that they really have. -/
theorem bind {next : α → Except ShaderError γ} {secondNext : β → Except ShaderError δ}
    (same : SameOutcome related first second)
    (goesOn : ∀ result other, first = .ok result → second = .ok other → related result other →
      SameOutcome later (next result) (secondNext other)) :
    SameOutcome later (first >>= next) (second >>= secondNext) := by
  cases same with
  | ok results => exact goesOn _ _ rfl rfl results
  | error kind => exact .error kind

theorem bind_self {next : α → Except ShaderError γ} {secondNext : α → Except ShaderError δ}
    (goesOn : ∀ result, SameOutcome later (next result) (secondNext result)) :
    SameOutcome later (first >>= next) (first >>= secondNext) := by
  cases first with
  | ok result => exact goesOn result
  | error => exact .error rfl

theorem forM {step : α → Except ShaderError Unit} {secondStep : β → Except ShaderError Unit}
    {number : α → β} {items : List α}
    (steps : ∀ item ∈ items,
      SameOutcome (fun _ _ => True) (step item) (secondStep (number item))) :
    SameOutcome (fun _ _ => True) (items.forM step) ((items.map number).forM secondStep) := by
  induction items with
  | nil => exact .ok trivial
  | cons item rest ih =>
      obtain ⟨here, others⟩ := List.forall_mem_cons.mp steps
      exact here.bind fun _ _ _ _ _ => ih others

end SameOutcome

/-! ### Stages -/

namespace ShaderNodes

/-- A slot and the slot under its number hold a node and its image. -/
def ImageAt (number : NodeIndex → NodeIndex) (nodes other : ShaderNodes) (index : NodeIndex) : Prop :=
  ∃ node image, nodes.get? index = some node ∧ other.get? (number index) = some image ∧
    node.Renumbers number image

/-- What the roots reach in an arena is found in another one, each node under a number of its own. -/
structure Renumbers (number : NodeIndex → NodeIndex) (nodes : ShaderNodes) (roots : List NodeIndex)
    (other : ShaderNodes) : Prop where
  injective : Set.InjOn number {index | nodes.Reached roots index}
  image : ∀ index, nodes.Reached roots index → nodes.ImageAt number other index

variable {number : NodeIndex → NodeIndex} {nodes other : ShaderNodes} {registry : FunctionRegistry}
  {stage : Stage} {roots starts order : List NodeIndex} {outputs others : List StageOutput}
  {index : NodeIndex} {node image : ShaderNode}

theorem Renumbers.mono (renumbers : nodes.Renumbers number roots other)
    (within : ∀ start ∈ starts, nodes.Reached roots start) :
    nodes.Renumbers number starts other where
  injective _ reached _ reachedToo :=
    renumbers.injective (reached.trans within) (reachedToo.trans within)
  image index reached := renumbers.image index (reached.trans within)

/-- The edges of authored nodes are their arguments, so the arenas correspond as graphs. -/
theorem Renumbers.graph (renumbers : nodes.Renumbers number roots other)
    (edges : ∀ index node, nodes.get? index = some node → nodes.dependencies index = node.arguments)
    (otherEdges : ∀ index node, other.get? index = some node →
      other.dependencies index = node.arguments) :
    DependencyGraph.Renumbers number nodes roots other where
  injective := renumbers.injective
  contains_iff index reached := by
    obtain ⟨node, image, held, found, _⟩ := renumbers.image index reached
    simp only [contains_of_get? held, contains_of_get? found]
  dependencies index reached := by
    obtain ⟨node, image, held, found, same⟩ := renumbers.image index reached
    rw [otherEdges _ image found, same.arguments, edges index node held]

theorem exists_call_of_payload {invocation : FunctionCall}
    (same : image.payload = (ShaderNode.call invocation).payload) :
    ∃ imageCall, image = .call imageCall ∧ imageCall.function = invocation.function := by
  cases image with
  | call imageCall => exact ⟨imageCall, rfl, by simpa [ShaderNode.payload] using same⟩
  | _ => cases same

/-- The check of a node finds a fault of the same kind in its image, or none in either. -/
theorem ImageAt.checkNode (imageAt : nodes.ImageAt number other index) (stage : Stage) :
    SameOutcome (fun _ _ => True) (nodes.checkNode stage index)
      (other.checkNode stage (number index)) := by
  obtain ⟨node, image, held, found, payload, arguments⟩ := imageAt
  unfold ShaderNodes.checkNode
  rw [nodeAt_eq_ok_iff.mpr held, nodeAt_eq_ok_iff.mpr found]
  cases node with
  | call invocation =>
      obtain ⟨imageCall, rfl, function⟩ := exists_call_of_payload payload
      have bound : imageCall.unbound? = none ↔ invocation.unbound? = none := by
        rw [FunctionCall.unbound?_eq_none_iff_length, FunctionCall.unbound?_eq_none_iff_length,
          function]
        exact Eq.congr_left (by simpa [ShaderNode.arguments] using congrArg List.length arguments)
      dsimp only [Bind.bind, Except.bind]
      cases unbound : invocation.unbound? with
      | none =>
          rw [bound.mpr unbound]
          cases stage <;> exact .ok trivial
      | some input =>
          have open_ : imageCall.unbound? ≠ none := fun complete => by
            cases unbound.symm.trans (bound.mp complete)
          obtain ⟨imageInput, missing⟩ := Option.ne_none_iff_exists'.mp open_
          rw [missing]
          cases stage <;> exact .error rfl
  | vertexAttribute name ty =>
      cases image with
      | vertexAttribute =>
          cases stage with
          | vertex => exact .ok trivial
          | fragment => exact .error rfl
      | _ => cases payload
  | vary name ty =>
      cases image with
      | vary =>
          cases stage with
          | vertex => exact .error rfl
          | fragment => exact .ok trivial
      | _ => cases payload
  | uniform | engine | fetch | constant | combine | swizzle =>
      cases image with
      | call | vertexAttribute | vary => cases payload
      | _ => cases stage <;> exact .ok trivial

/-- A node adds the same function as its image, or none like it. -/
theorem ImageAt.collectFunctions (imageAt : nodes.ImageAt number other index)
    (functions : List ShaderFunction) :
    other.collectFunctions registry functions (number index) =
      nodes.collectFunctions registry functions index := by
  obtain ⟨node, image, held, found, payload, _⟩ := imageAt
  unfold ShaderNodes.collectFunctions
  rw [nodeAt_eq_ok_iff.mpr held, nodeAt_eq_ok_iff.mpr found]
  cases node with
  | call invocation =>
      obtain ⟨imageCall, rfl, function⟩ := exists_call_of_payload payload
      simp only [bind, Except.bind, function]
  | _ =>
      cases image with
      | call => cases payload
      | _ => rfl

/-- The orders of two stages correspond, or there is none for the same reason. -/
theorem Renumbers.stageOrder
    (renumbers : nodes.Renumbers number (outputs.map StageOutput.node) other)
    (edges : ∀ index node, nodes.get? index = some node → nodes.dependencies index = node.arguments)
    (otherEdges : ∀ index node, other.get? index = some node →
      other.dependencies index = node.arguments)
    (placed : others.map StageOutput.node = (outputs.map StageOutput.node).map number) :
    SameOutcome (fun order image => image = order.map number)
      (nodes.stageOrder outputs) (other.stageOrder others) := by
  have ordered := (renumbers.graph edges otherEdges).orderFrom fun start listed => .root listed
  unfold ShaderNodes.stageOrder
  rw [placed, ordered]
  cases nodes.orderFrom (outputs.map StageOutput.node) with
  | ok order => exact .ok rfl
  | error reason => cases reason <;> exact .error rfl

end ShaderNodes

section

open ShaderNodes

variable {number : NodeIndex → NodeIndex} {nodes other : ShaderNodes} {registry : FunctionRegistry}
  {stage : Stage} {outputs others : List StageOutput}

/-- What two stages have in common: corresponding orders and the same functions. -/
structure StageCode.Renumbers (number : NodeIndex → NodeIndex) (code image : StageCode) : Prop where
  order : image.order = code.order.map number
  functions : image.functions = code.functions

/-- Nodes that pass the checks of their stage have all their inputs. -/
theorem complete_of_checked {roots order : List NodeIndex} (isOrder : nodes.IsOrder roots order)
    (checked : order.forM (nodes.checkNode stage) = .ok ()) :
    ∀ index ∈ order, ∀ invocation, nodes.get? index = some (.call invocation) →
      invocation.unbound? = none := by
  intro index listed invocation held
  have sound := checkNode_sound stage ((isOrder.mem_iff index).mp listed) held
  rw [forM_eq_ok_iff.mp checked index listed] at sound
  exact sound.2 invocation rfl

/-- Stages are generated alike from corresponding outputs, or refused alike. -/
theorem generateStage_renumbers
    (renumbers : nodes.Renumbers number (outputs.map StageOutput.node) other)
    (authored : Authored nodes registry (outputs.map StageOutput.node))
    (otherAuthored : Authored other registry (others.map StageOutput.node))
    (placed : others.map StageOutput.node = (outputs.map StageOutput.node).map number) :
    SameOutcome (StageCode.Renumbers number) (generateStage nodes registry stage outputs)
      (generateStage other registry stage others) := by
  apply (renumbers.stageOrder authored.edges otherAuthored.edges placed).bind
  rintro order image ordered imageOrdered rfl
  have isOrder := DependencyGraph.isOrder_of_orderFrom
    (ShaderGraph.orderFrom_of_stageOrder ordered)
  have imageIsOrder := DependencyGraph.isOrder_of_orderFrom
    (ShaderGraph.orderFrom_of_stageOrder imageOrdered)
  have images : ∀ index ∈ order, nodes.ImageAt number other index := fun index listed =>
    renumbers.image index ((isOrder.mem_iff index).mp listed)
  have collects : (order.map number).foldlM (other.collectFunctions registry) [] =
      order.foldlM (nodes.collectFunctions registry) [] := by
    rw [List.foldlM_map]
    exact foldlM_congr (fun functions index listed =>
      (images index listed).collectFunctions functions) []
  apply (SameOutcome.forM fun index listed => (images index listed).checkNode stage).bind
  intro _ _ checked imageChecked _
  -- after the checks neither stage can fail
  obtain ⟨functions, direct, lets, assignments, collected, picked, declared, assigned⟩ :=
    authored.assembles isOrder (complete_of_checked isOrder checked)
  obtain ⟨imageFunctions, imageDirect, imageLets, imageAssignments, imageCollected, imagePicked,
      imageDeclared, imageAssigned⟩ :=
    otherAuthored.assembles imageIsOrder (complete_of_checked imageIsOrder imageChecked)
  have sameFunctions : imageFunctions = functions := by
    rw [collects, collected] at imageCollected
    exact (Except.ok.inj imageCollected).symm
  simp only [bind, Except.bind, collected, picked, declared, assigned, imageCollected, imagePicked,
    imageDeclared, imageAssigned]
  exact .ok ⟨rfl, sameFunctions⟩

/-! ### Linking -/

/-- A fold that is blind to arguments and labels depends on the payloads only. -/
theorem foldlM_of_payloads {γ : Type} {step : γ → ShaderNode → Except ShaderError γ}
    (blind : ∀ value node, step value node.payload = step value node)
    {first second : List ShaderNode}
    (same : second.map ShaderNode.payload = first.map ShaderNode.payload) (start : γ) :
    second.foldlM step start = first.foldlM step start := by
  have erased : ∀ items : List ShaderNode,
      items.foldlM step start = (items.map ShaderNode.payload).foldlM step start := fun items => by
    rw [List.foldlM_map]
    exact foldlM_congr (fun value node _ => (blind value node).symm) start
  rw [erased second, same, ← erased first]

theorem payloads_of_images {order : List NodeIndex}
    (images : ∀ index ∈ order, nodes.ImageAt number other index) :
    ((order.map number).filterMap other.get?).map ShaderNode.payload =
      (order.filterMap nodes.get?).map ShaderNode.payload := by
  rw [List.filterMap_map, List.map_filterMap, List.map_filterMap]
  apply List.filterMap_congr
  intro index listed
  obtain ⟨node, image, held, found, same⟩ := images index listed
  rw [Function.comp_apply, held, found, Option.map_some, Option.map_some, same.payload]

/-- Two programs agree in all that they declare: in their manifests and in the functions of each
stage. -/
structure Program.SameInterface (program image : Program) : Prop where
  attributes : image.attributes = program.attributes
  uniforms : image.uniforms = program.uniforms
  textures : image.textures = program.textures
  varyings : image.varyings = program.varyings
  vertexFunctions : image.vertex.functions = program.vertex.functions
  fragmentFunctions : image.fragment.functions = program.fragment.functions

/-- Linking gives the same interface, or fails alike. -/
theorem linkProgram_renumbers {options : EntryNames} {varys : OrderedMap String NodeIndex}
    {vertex fragment vertexImage fragmentImage : StageCode}
    (vertexSame : vertex.Renumbers number vertexImage)
    (fragmentSame : fragment.Renumbers number fragmentImage)
    (vertexImages : ∀ index ∈ vertex.order, nodes.ImageAt number other index)
    (fragmentImages : ∀ index ∈ fragment.order, nodes.ImageAt number other index)
    (slotImages : ∀ slot ∈ varys.entries, nodes.ImageAt number other slot.2) :
    SameOutcome Program.SameInterface (linkProgram nodes options varys vertex fragment)
      (linkProgram other options (varys.mapValues fun _ => number) vertexImage fragmentImage) := by
  have vertexPayloads := payloads_of_images vertexImages
  have reached : (((vertex.order.map number ++ fragment.order.map number).filterMap
        other.get?).map ShaderNode.payload) =
      ((vertex.order ++ fragment.order).filterMap nodes.get?).map ShaderNode.payload := by
    rw [← List.map_append]
    apply payloads_of_images
    intro index listed
    exact (List.mem_append.mp listed).elim (vertexImages index) (fragmentImages index)
  have resources := foldlM_of_payloads Resources.addNode_payload reached Resources.initial
  have attributes := fun names : ModuleNames =>
    foldlM_of_payloads (addAttribute_payload names) vertexPayloads []
  have varyings : ∀ names : ModuleNames,
      (varys.mapValues fun _ => number).entries.foldlM
          (addVarying other names options.fragmentOutput) [] =
        varys.entries.foldlM (addVarying nodes names options.fragmentOutput) [] := by
    intro names
    rw [OrderedMap.mapValues, List.foldlM_map]
    refine foldlM_congr (fun varyings slot listed => ?_) []
    obtain ⟨node, image, held, found, same⟩ := slotImages slot listed
    simp only [addVarying, held, found, same.ty_eq]
  unfold linkProgram
  simp only [vertexSame.order, vertexSame.functions, fragmentSame.order, fragmentSame.functions,
    resources, attributes, varyings]
  -- three names are checked; then resources, names, attributes and varyings are collected
  exact .bind_self fun _ => .bind_self fun _ => .bind_self fun _ => .bind_self fun resources =>
    .bind_self fun names => .bind_self fun attributes => .bind_self fun varyings =>
    .bind_self fun _ => .ok ⟨rfl, rfl, rfl, rfl, vertexSame.functions, fragmentSame.functions⟩

end

/-! ### Whole graphs -/

namespace ShaderGraph

variable {graph other : ShaderGraph} {number : NodeIndex → NodeIndex}

/-- What the roots and slots of two graphs reach is the same up to numbers and labels: a bijection of
slots keeps the payloads of nodes, their arguments in order, both roots, and the slots in order. -/
structure Renumbers (number : NodeIndex → NodeIndex) (graph other : ShaderGraph) : Prop where
  registry : other.registry = graph.registry
  options : other.options = graph.options
  bijective : Set.BijOn number {index | graph.nodes.Reached graph.roots index}
    {index | other.nodes.Reached other.roots index}
  node : ∀ index node, graph.nodes.Reached graph.roots index → graph.nodes.get? index = some node →
    ∃ image, other.nodes.get? (number index) = some image ∧ node.Renumbers number image
  vertexRoot : other.vertexRoot = graph.vertexRoot.map number
  fragmentRoot : other.fragmentRoot = graph.fragmentRoot.map number
  varys : other.varys = graph.varys.mapValues fun _ => number

theorem Renumbers.nodes (renumbers : graph.Renumbers number other) (reachable : graph.Reachable) :
    ShaderNodes.Renumbers number graph.nodes graph.roots other.nodes where
  injective := renumbers.bijective.injOn
  image index reached := by
    obtain ⟨node, held⟩ := reachable.exists_of_reached reached
    obtain ⟨image, found, same⟩ := renumbers.node index node reached held
    exact ⟨node, image, held, found, same⟩

theorem link_renumbers (reachable : graph.Reachable) (otherReachable : other.Reachable)
    (renumbers : graph.Renumbers number other) :
    SameOutcome Program.SameInterface graph.link other.link := by
  have correspond := renumbers.nodes reachable
  unfold link
  rw [renumbers.vertexRoot, renumbers.fragmentRoot, renumbers.registry, renumbers.options]
  cases vertexPlaced : graph.vertexRoot with
  | none => exact .error rfl
  | some vertexRoot =>
      cases fragmentPlaced : graph.fragmentRoot with
      | none => exact .error rfl
      | some fragmentRoot =>
          have vertexAuthored := reachable.vertexAuthored vertexPlaced
          have vertexImage := otherReachable.vertexAuthored
            (renumbers.vertexRoot.trans (congrArg (Option.map number) vertexPlaced))
          have fragmentAuthored : Authored graph.nodes graph.registry
              ((graph.fragmentOutputs fragmentRoot).map StageOutput.node) :=
            reachable.fragmentAuthored fragmentPlaced
          have fragmentImage : Authored other.nodes other.registry
              ((other.fragmentOutputs (number fragmentRoot)).map StageOutput.node) :=
            otherReachable.fragmentAuthored
              (renumbers.fragmentRoot.trans (congrArg (Option.map number) fragmentPlaced))
          have vertexWithin : ∀ start ∈ graph.vertexRoots vertexRoot,
              graph.nodes.Reached graph.roots start := fun start listed =>
            .root (mem_roots_of_vertexRoots vertexPlaced start listed)
          have fragmentWithin : ∀ start ∈ (graph.fragmentOutputs fragmentRoot).map StageOutput.node,
              graph.nodes.Reached graph.roots start := fun start listed =>
            .root (List.mem_singleton.mp listed ▸ mem_roots_of_fragmentRoot fragmentPlaced)
          have vertexMoved : other.vertexRoots (number vertexRoot) =
              (graph.vertexRoots vertexRoot).map number := by
            simp [vertexRoots, renumbers.varys, OrderedMap.values, OrderedMap.mapValues]
          rw [← nodes_vertexOutputs] at vertexAuthored vertexImage vertexMoved vertexWithin
          rw [← nodes_vertexOutputs] at vertexMoved
          rw [renumbers.registry] at vertexImage fragmentImage
          dsimp only [Option.map_some]
          apply (generateStage_renumbers (correspond.mono vertexWithin) vertexAuthored vertexImage
            vertexMoved).bind
          intro vertex vertexOther vertexDone _ vertexSame
          apply (generateStage_renumbers (correspond.mono fragmentWithin) fragmentAuthored
            fragmentImage rfl).bind
          intro fragment fragmentOther fragmentDone _ fragmentSame
          obtain ⟨_, vertexGenerated⟩ := generated_of_generateStage vertexDone
          obtain ⟨_, fragmentGenerated⟩ := generated_of_generateStage fragmentDone
          rw [renumbers.varys]
          apply linkProgram_renumbers vertexSame fragmentSame
          · exact fun index listed => (correspond.mono vertexWithin).image index
              ((vertexGenerated.isOrder.mem_iff index).mp listed)
          · exact fun index listed => (correspond.mono fragmentWithin).image index
              ((fragmentGenerated.isOrder.mem_iff index).mp listed)
          · exact fun slot listed => correspond.image slot.2
              (.root (List.mem_append_right _ (List.mem_map_of_mem listed)))

/-- Compiling does not depend on the numbers of nodes or on labels.  Take two graphs that authoring
leads to, over one registry and with the same names, whose nodes reached from roots and slots
correspond under a bijection of their slots.  Either both compile, with the same attributes, uniforms,
textures and varyings, and the same functions in the same order in each stage, or neither does, and the
errors are of one kind. -/
theorem compile_renumbers (reachable : graph.Reachable) (otherReachable : other.Reachable)
    (renumbers : graph.Renumbers number other) :
    (∃ program image, graph.link = .ok program ∧ other.link = .ok image ∧
      graph.compile = .ok program.descriptor ∧ other.compile = .ok image.descriptor ∧
      program.SameInterface image) ∨
    ∃ error image, graph.compile = .error error ∧ other.compile = .error image ∧
      image.kind = error.kind := by
  have outcome := link_renumbers reachable otherReachable renumbers
  cases linked : graph.link with
  | ok program =>
      rw [linked] at outcome
      cases otherLinked : other.link with
      | error => rw [otherLinked] at outcome; cases outcome
      | ok image =>
          rw [otherLinked] at outcome
          cases outcome with
          | ok results =>
              exact .inl ⟨program, image, rfl, rfl, by rw [compile, linked]; rfl,
                by rw [compile, otherLinked]; rfl, results⟩
  | error error =>
      rw [linked] at outcome
      cases otherLinked : other.link with
      | ok => rw [otherLinked] at outcome; cases outcome
      | error image =>
          rw [otherLinked] at outcome
          cases outcome with
          | error kind =>
              exact .inr ⟨error, image, by rw [compile, linked]; rfl,
                by rw [compile, otherLinked]; rfl, kind⟩

/-! ### One program authored twice -/

/-- A call on a uniform, which the fragment stage shows and the vertex stage hands over. -/
def shadedCall : List AuthoringCall :=
  [.uniform "shade" (.vec4 .one .zero .zero .one), .call "tint", .bind ⟨1, 1⟩ "base" ⟨1, 0⟩,
    .setVary "v_shade" ⟨1, 0⟩, .setVertexRoot ⟨1, 1⟩, .setFragmentRoot ⟨1, 0⟩]

/-- The same, authored in another order, with a label and with a node that nothing uses. -/
def labelledCall : List AuthoringCall :=
  [.call "tint", .constant (.float .one), .uniform "shade" (.vec4 .one .zero .zero .one),
    .setLabel ⟨2, 0⟩ "warm", .setFragmentRoot ⟨2, 2⟩, .setVertexRoot ⟨2, 0⟩,
    .setVary "v_shade" ⟨2, 2⟩, .bind ⟨2, 0⟩ "base" ⟨2, 2⟩]

/-- The graph that `shadedCall` leads to. -/
def shadedGraph : ShaderGraph := (new 1 tintRegistry).authorAll shadedCall

/-- The graph that `labelledCall` leads to. -/
def labelledGraph : ShaderGraph := (new 2 tintRegistry).authorAll labelledCall

/-- Where the nodes of the first graph stand in the second. -/
def relabelled (index : NodeIndex) : NodeIndex := if index = 0 then 2 else 0

theorem shadedGraph_renumbers : shadedGraph.Renumbers relabelled labelledGraph := by
  have within : ∀ index, shadedGraph.nodes.Reached shadedGraph.roots index → index ∈ [0, 1] :=
    fun index reached => reached.mem_of_closed (by decide +kernel) (by decide +kernel)
  have withinOther : ∀ index, labelledGraph.nodes.Reached labelledGraph.roots index →
      index ∈ [0, 2] :=
    fun index reached => reached.mem_of_closed (by decide +kernel) (by decide +kernel)
  have rooted : ∀ index ∈ [0, 1], shadedGraph.nodes.Reached shadedGraph.roots index := by
    have listed : ∀ index ∈ [0, 1], index ∈ shadedGraph.roots := by decide +kernel
    exact fun index member => .root (listed index member)
  have rootedOther : ∀ index ∈ [0, 2], labelledGraph.nodes.Reached labelledGraph.roots index := by
    have listed : ∀ index ∈ [0, 2], index ∈ labelledGraph.roots := by decide +kernel
    exact fun index member => .root (listed index member)
  constructor
  case registry => decide +kernel
  case options => decide +kernel
  case vertexRoot => decide +kernel
  case fragmentRoot => decide +kernel
  case varys => decide +kernel
  case bijective =>
    refine ⟨?_, ?_, ?_⟩
    · intro index reached
      have images : ∀ index ∈ [0, 1], relabelled index ∈ [0, 2] := by decide
      exact rootedOther _ (images index (within index reached))
    · intro index reached image imageReached same
      have apart : ∀ index ∈ [0, 1], ∀ image ∈ [0, 1],
          relabelled index = relabelled image → index = image := by decide
      exact apart index (within index reached) image (within image imageReached) same
    · intro image imageReached
      have onto : ∀ image ∈ [0, 2], ∃ index ∈ [0, 1], relabelled index = image := by decide
      obtain ⟨index, member, same⟩ := onto image (withinOther image imageReached)
      exact ⟨index, rooted index member, same⟩
  case node =>
    intro index node reached held
    have member := within index reached
    simp only [List.mem_cons, List.not_mem_nil, or_false] at member
    rcases member with rfl | rfl
    · have uniform : shadedGraph.nodes.get? 0 =
          some (.uniform "shade" (.vec4 .one .zero .zero .one)) := by decide +kernel
      cases uniform.symm.trans held
      exact ⟨.uniform "shade" (.vec4 .one .zero .zero .one), by decide +kernel, rfl, rfl⟩
    · have call : shadedGraph.nodes.get? 1 =
          some (.call { function := tint, bound := OrderedMap.empty.insert "base" 0 }) := by
        decide +kernel
      cases call.symm.trans held
      exact ⟨.call { function := tint, bound := OrderedMap.empty.insert "base" 2
                     label := some "warm" }, by decide +kernel, rfl, by decide +kernel⟩

theorem link_shadedGraph :
    shadedGraph.link.map (fun program => (program.vertex.order, program.fragment.order)) =
      .ok ([0, 1], [0]) :=
  map_link_eq_of_linkWithin 9 (by decide +kernel)

/-- Both graphs compile, and to the same interface. -/
theorem compile_renumbers_shadedGraph :
    shadedGraph.Reachable ∧ labelledGraph.Reachable ∧
      shadedGraph.Renumbers relabelled labelledGraph ∧
      ∃ program image : Program, shadedGraph.compile = .ok program.descriptor ∧
        labelledGraph.compile = .ok image.descriptor ∧ program.SameInterface image := by
  have reachable : shadedGraph.Reachable := ⟨_, _, _, rfl⟩
  have otherReachable : labelledGraph.Reachable := ⟨_, _, _, rfl⟩
  refine ⟨reachable, otherReachable, shadedGraph_renumbers, ?_⟩
  rcases compile_renumbers reachable otherReachable shadedGraph_renumbers with
    ⟨program, image, _, _, compiled, imageCompiled, same⟩ | ⟨error, _, failed, _⟩
  · exact ⟨program, image, compiled, imageCompiled, same⟩
  · obtain ⟨program, linked, _⟩ := map_eq_ok_iff.mp link_shadedGraph
    have compiled := compile_eq_ok_iff.mpr ⟨program, linked, rfl⟩
    cases failed.symm.trans compiled

end ShaderGraph

end ShaderFlow

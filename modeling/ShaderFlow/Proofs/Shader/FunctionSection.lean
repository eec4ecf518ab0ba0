/-
Module: ShaderFlow.Proofs.Shader.FunctionSection
Purpose: A stage declares the functions that its nodes call, as they were when the calls were checked.
Main exports: ShaderNode.function?, ShaderGraph.Supplies, ShaderGraph.FunctionSection,
  Program.typeOf?, Program.FunctionModule, ShaderGraph.function_section_exact
-/
import ShaderFlow.Proofs.Shader.Emission
import ShaderFlow.Proofs.Shader.FunctionText
import ShaderFlow.Proofs.Shader.Manifests

namespace ShaderFlow

/-!
A function node carries the definition that it was created with.  Its inputs are checked and ordered by
that copy, while a stage looks the name up again.  Both are one definition, because the node got its
copy from the registry, no call changes the registry, and names are unique there.
-/

/-- The function that a node calls. -/
def ShaderNode.function? : ShaderNode → Option ShaderFunction
  | call invocation => some invocation.function
  | vertexAttribute .. | uniform .. | engine _ | vary .. | fetch .. | constant _ | combine ..
  | swizzle .. => none

theorem ShaderNode.function?_eq_some_iff {node : ShaderNode} {function : ShaderFunction} :
    node.function? = some function ↔
      ∃ invocation, node = .call invocation ∧ invocation.function = function := by
  cases node <;> simp [function?]

/-- The first function of each name among those that nodes call. -/
def functionManifest : List ShaderNode → List ShaderFunction :=
  manifestOf ShaderNode.function? ShaderFunction.name fun _ function => function

namespace ShaderGraph

/-- The operands of a call supply the parameters of its function: there is one for each, in order, and
it stands for the node that the slot of the parameter is bound to, which has the type of the
parameter. -/
def Supplies (graph : ShaderGraph) (invocation : FunctionCall) (operands : List Operand) : Prop :=
  List.Forall₂
    (fun input operand => ∃ argument, invocation.bound.get? input.name = some argument ∧
      graph.typeAt? argument = some input.ty ∧ ShaderNodes.RefersTo graph.nodes argument operand)
    invocation.function.inputs operands

/-- The functions that a stage declares are those that its nodes call. -/
structure FunctionSection (graph : ShaderGraph) (outputs : List StageOutput) (code : StageCode) :
    Prop where
  /-- What the outputs reach, each node once and behind what it depends on. -/
  ordered : graph.nodes.orderFrom (outputs.map StageOutput.node) = .ok code.order
  isOrder : graph.nodes.IsOrder (outputs.map StageOutput.node) code.order
  /-- Functions stand in the order of their first calls. -/
  functions : code.functions =
    functionManifest (code.order.filterMap graph.nodes.get?)
  distinct : (code.functions.map ShaderFunction.name).Nodup
  called : ∀ function, function ∈ code.functions ↔ ∃ index invocation,
    graph.nodes.Reached (outputs.map StageOutput.node) index ∧
      graph.nodes.get? index = some (.call invocation) ∧ invocation.function = function
  registered : ∀ function ∈ code.functions, graph.registry.get? function.name = some function
  /-- Whatever is bound to a slot of a function node has the type that the declared definition
  requires there. -/
  checked : ∀ index invocation, graph.nodes.Reached (outputs.map StageOutput.node) index →
    graph.nodes.get? index = some (.call invocation) →
      ∀ slot argument, invocation.bound.get? slot = some argument →
        ∃ input ∈ invocation.function.inputs, input.name = slot ∧
          graph.typeAt? argument = some input.ty
  /-- A call in the statements is one of a declared function, for a node that calls it. -/
  calls : ∀ name operands, .call name operands ∈ code.body.operations → ∃ index invocation,
    graph.nodes.Reached (outputs.map StageOutput.node) index ∧
      graph.nodes.get? index = some (.call invocation) ∧
      invocation.function ∈ code.functions ∧ invocation.function.name = name ∧
      graph.Supplies invocation operands

end ShaderGraph

namespace Program

/-- The type that a program declares for what an operand refers to; a literal has its own. -/
def typeOf? (program : Program) (stage : Stage) : Operand → Option ShaderType
  | .vertexAttribute name => (program.attributes.find? (·.name = name)).map AttributeSlot.ty
  | .uniform name => (program.uniforms.find? (·.name = name)).map UniformSlot.ty
  | .engine quantity => (program.uniforms.find? (·.name = quantity.name)).map UniformSlot.ty
  | .vary name => (program.varyings.find? (·.name = name)).map VaryingSlot.ty
  | .constant value => some value.ty
  | .temporary name =>
      ((program.code stage).body.lets.find? (·.name = name)).map LetBinding.ty

/-- An operand has the type of a parameter, or reads a vary slot. -/
def Fits (program : Program) (stage : Stage) (input : Parameter) (operand : Operand) : Prop :=
  (∃ name, operand = .vary name) ∨ program.typeOf? stage operand = some input.ty

/-- The source of a module declares the functions of its stage, and calls them as declared. -/
structure FunctionModule (program : Program) (stage : Stage) : Prop where
  /-- The functions, each by the header of its definition, and then the entry point. -/
  declared : functionLines (program.source stage) =
    ((program.code stage).functions.map fun function => function.header.toList) ++
      [(program.entryHeader stage).toList]
  /-- A header tells the name, the parameters and the result of the definition. -/
  told : ∀ function ∈ (program.code stage).functions, ∀ other : ShaderFunction,
    other.fault? = none → other.header = function.header → other.signature = function.signature
  /-- Calls have as many arguments as the function has parameters, and of their types. -/
  calls : ∀ name operands, .call name operands ∈ (program.code stage).body.operations →
    ∃ function ∈ (program.code stage).functions, function.name = name ∧
      List.Forall₂ (program.Fits stage) function.inputs operands

end Program

/-! ### Collected functions -/

theorem functionManifest_append {before : List ShaderNode} (node : ShaderNode)
    {function : ShaderFunction} (calls : node.function? = some function) :
    functionManifest (before ++ [node]) =
      if function.name ∈ (functionManifest before).map ShaderFunction.name then
        functionManifest before
      else functionManifest before ++ [function] :=
  manifestOf_append_some (fun _ _ => rfl) calls

theorem function?_of_mem_functionManifest {nodes : List ShaderNode} {function : ShaderFunction}
    (member : function ∈ functionManifest nodes) :
    ∃ node ∈ nodes, node.function? = some function := by
  obtain ⟨position, bound, rfl⟩ := List.mem_mapIdx.mp member
  exact List.mem_filterMap.mp (mem_of_mem_firstOfEach (List.getElem_mem bound))

section Collected

variable {nodes : ShaderNodes} {registry : FunctionRegistry} {stage : Stage}
  {outputs : List StageOutput} {code : StageCode} {direct order : List NodeIndex}
  {index : NodeIndex} {node : ShaderNode} {function : ShaderFunction}

/-- One more node adds the function that it carries. -/
theorem ShaderNodes.collectFunctions_eq (held : nodes.get? index = some node)
    (registered : ∀ function, node.function? = some function → function ∈ registry.functions)
    {before : List ShaderNode} {later : List ShaderFunction}
    (collected : nodes.collectFunctions registry (functionManifest before) index = .ok later) :
    later = functionManifest (before ++ [node]) := by
  obtain ⟨found, looked, inner⟩ := bind_eq_ok_iff.mp collected
  cases held.symm.trans (nodeAt_eq_ok_iff.mp looked)
  cases node with
  | call invocation =>
      rw [functionManifest_append (.call invocation) rfl]
      have definition := FunctionRegistry.get?_of_mem (registered invocation.function rfl)
      simp only [definition] at inner
      split at inner
      · next present =>
          cases inner
          rw [if_pos (by simpa using present)]
      · next absent =>
          cases inner
          rw [if_neg (by simpa using absent)]
  | vertexAttribute | uniform | engine | vary | fetch | constant | combine | swizzle =>
      cases inner
      exact (manifestOf_append_none rfl).symm

/-- The functions of a stage are those that its nodes carry, although they are looked up by name. -/
theorem Generated.functions_eq (generated : Generated nodes registry stage outputs direct code)
    (registered : ∀ index invocation, nodes.get? index = some (.call invocation) →
      invocation.function ∈ registry.functions) :
    code.functions = functionManifest (code.order.filterMap nodes.get?) := by
  refine foldlM_invariant
    (fun before functions => functions = functionManifest (before.filterMap nodes.get?)) ?_ rfl
    generated.collected
  rintro before _ index _ later _ rfl collected
  obtain ⟨node, looked, _⟩ := bind_eq_ok_iff.mp collected
  have held := ShaderNodes.nodeAt_eq_ok_iff.mp looked
  rw [List.filterMap_append, List.filterMap_cons_some held, List.filterMap_nil]
  refine ShaderNodes.collectFunctions_eq held ?_ collected
  intro function calls
  obtain ⟨invocation, rfl, rfl⟩ := ShaderNode.function?_eq_some_iff.mp calls
  exact registered index invocation held

end Collected

/-! ### Calls -/

/-- A parameter has the type that is declared under its name, if names are not repeated. -/
theorem ShaderFunction.inputType?_of_mem {function : ShaderFunction} {input : Parameter}
    (distinct : (function.inputs.map Parameter.name).Nodup) (listed : input ∈ function.inputs) :
    function.inputType? input.name = some input.ty := by
  rw [inputType?, find?_eq_some_of_mem distinct listed, Option.map_some]

theorem ShaderFunction.exists_of_inputType? {function : ShaderFunction} {slot : String}
    {ty : ShaderType} (typed : function.inputType? slot = some ty) :
    ∃ input ∈ function.inputs, input.name = slot ∧ input.ty = ty := by
  obtain ⟨input, found, same⟩ := Option.map_eq_some_iff.mp typed
  exact ⟨input, List.mem_of_find?_eq_some found, by simpa using List.find?_some found, same⟩

/-- An invocation without unbound slot has an argument for each parameter, in order. -/
theorem FunctionCall.forall₂_arguments {invocation : FunctionCall}
    (complete : invocation.unbound? = none) :
    List.Forall₂ (fun input argument => invocation.bound.get? input.name = some argument)
      invocation.function.inputs invocation.arguments := by
  have same := map_get?_inputs complete
  rw [← List.forall₂_eq_eq_eq, List.forall₂_map_left_iff, List.forall₂_map_right_iff] at same
  exact same

/-- Lists that are related to one list member by member are related through it. -/
theorem forall₂_through {α β γ : Type} {r : α → β → Prop} {s : β → γ → Prop} {first : List α}
    {middle : List β} {last : List γ} (left : List.Forall₂ r first middle)
    (right : List.Forall₂ s middle last) :
    List.Forall₂ (fun a c => ∃ b, r a b ∧ s b c) first last := by
  induction left generalizing last with
  | nil =>
      cases right
      exact .nil
  | cons here _ ih =>
      cases right with
      | cons there later => exact .cons ⟨_, here, there⟩ (ih later)

namespace ShaderGraph

variable {graph : ShaderGraph} {stage : Stage} {outputs : List StageOutput} {code : StageCode}
  {index : NodeIndex} {invocation : FunctionCall} {name : String} {operands : List Operand}

/-- What is bound to a slot was checked against the definition that the node carries. -/
theorem WellFormed.bound_typed (formed : graph.WellFormed)
    (held : graph.nodes.get? index = some (.call invocation)) {slot : String} {argument : NodeIndex}
    (bound : invocation.bound.get? slot = some argument) :
    ∃ ty, invocation.function.inputType? slot = some ty ∧ graph.typeAt? argument = some ty :=
  formed.typed index _ held slot argument bound

/-- The operands of the expression for a function node supply the parameters of its function. -/
theorem WellFormed.supplies (formed : graph.WellFormed)
    (held : graph.nodes.get? index = some (.call invocation))
    (distinct : (invocation.function.inputs.map Parameter.name).Nodup)
    (complete : invocation.unbound? = none)
    (each : List.Forall₂ (ShaderNodes.RefersTo graph.nodes) invocation.arguments operands) :
    graph.Supplies invocation operands := by
  have related := forall₂_through (FunctionCall.forall₂_arguments complete) each
  have listed := (List.forall₂_and_left _ _).mpr ⟨fun _ member => member, related⟩
  refine listed.imp ?_
  rintro input operand ⟨member, argument, bound, refers⟩
  obtain ⟨ty, declared, typed⟩ := formed.bound_typed held bound
  cases (ShaderFunction.inputType?_of_mem distinct member).symm.trans declared
  exact ⟨argument, bound, typed, refers⟩

/-- The definitions of a stage are exact, for whatever outputs it is generated. -/
theorem Reachable.functionSection (reachable : graph.Reachable)
    (generated : generateStage graph.nodes graph.registry stage outputs = .ok code) :
    graph.FunctionSection outputs code := by
  obtain ⟨direct, pieces⟩ := generated_of_generateStage generated
  have formed := reachable.wellFormed
  have sourced := reachable.sourced
  have isOrder := pieces.isOrder
  have functions := pieces.functions_eq sourced.function
  have member : ∀ {index invocation},
      graph.nodes.Reached (outputs.map StageOutput.node) index →
        graph.nodes.get? index = some (.call invocation) → invocation.function ∈ code.functions :=
    fun {index invocation} reached held => pieces.function_of_call
      ((isOrder.mem_iff index).mpr reached) held (sourced.function index invocation held)
  have emission := pieces.emission formed.edges
  constructor
  case ordered => exact orderFrom_of_stageOrder pieces.ordered
  case isOrder => exact isOrder
  case functions => exact functions
  case distinct => exact pieces.functions_sound.1
  case called =>
    intro function
    constructor
    · intro listed
      rw [functions] at listed
      obtain ⟨node, stands, calls⟩ := function?_of_mem_functionManifest listed
      obtain ⟨index, inOrder, held⟩ := List.mem_filterMap.mp stands
      obtain ⟨invocation, rfl, same⟩ := ShaderNode.function?_eq_some_iff.mp calls
      exact ⟨index, invocation, (isOrder.mem_iff index).mp inOrder, held, same⟩
    · rintro ⟨index, invocation, reached, held, rfl⟩
      exact member reached held
  case registered =>
    exact fun function listed =>
      FunctionRegistry.get?_of_mem (pieces.functions_sound.2 function listed)
  case checked =>
    intro index invocation _ held slot argument bound
    obtain ⟨ty, declared, typed⟩ := formed.bound_typed held bound
    obtain ⟨input, listed, named, rfl⟩ := ShaderFunction.exists_of_inputType? declared
    exact ⟨input, listed, named, typed⟩
  case calls =>
    intro name operands stands
    obtain ⟨index, scheduled, node, held, computes⟩ :=
      exists_of_mem_results emission.emitted stands
    cases computes with
    | @call invocation _ complete each =>
        obtain ⟨reached, _⟩ := (emission.scheduled index).mp scheduled
        have faultless :=
          graph.registry.sound invocation.function (sourced.function index invocation held)
        obtain ⟨_, _, distinct⟩ := ShaderFunction.fault?_eq_none_iff.mp faultless
        exact ⟨index, invocation, reached, held, member reached held, rfl,
          formed.supplies held distinct complete each⟩

end ShaderGraph

/-! ### Types of arguments -/

namespace Linked

variable {graph : ShaderGraph} {vertexRoot fragmentRoot : NodeIndex} {resources : Resources}
  {names : ModuleNames} {program : Program} {stage : Stage} {outputs : List StageOutput}
  {direct : List NodeIndex} {index argument : NodeIndex} {node : ShaderNode} {operand : Operand}

theorem uniformType?_eq (linked : Linked graph vertexRoot fragmentRoot resources names program)
    {slot : UniformSlot} (listed : slot ∈ resources.uniforms) :
    (program.uniforms.find? (·.name = slot.name)).map UniformSlot.ty = some slot.ty := by
  have distinct : (resources.uniforms.map UniformSlot.name).Nodup := linked.sound.uniforms_distinct
  rw [linked.uniforms_eq, find?_eq_some_of_mem distinct listed, Option.map_some]

/-- What a program declares for an argument of a reached node has the type of the argument, unless it
is a vary slot. -/
theorem typeOf?_eq (linked : Linked graph vertexRoot fragmentRoot resources names program)
    (recorded : ShaderNodes.Recorded graph.nodes)
    (pieces : Generated graph.nodes graph.registry stage outputs direct (program.code stage))
    (reached : graph.nodes.Reached (outputs.map StageOutput.node) index)
    (held : graph.nodes.get? index = some node) (listed : argument ∈ node.arguments)
    (refers : ShaderNodes.RefersTo graph.nodes argument operand) :
    (∃ name, operand = .vary name) ∨ program.typeOf? stage operand = graph.typeAt? argument := by
  obtain ⟨source, there, rfl⟩ := refers
  have inOrder : argument ∈ (program.code stage).order :=
    (pieces.isOrder.mem_iff argument).mpr
      (reached.dependency (recorded index node held ▸ listed))
  have typed : graph.typeAt? argument = some source.ty := by
    rw [ShaderGraph.typeAt?, there, Option.map_some]
  have declares := linked.declares_node inOrder there
  rw [typed]
  cases source with
  | vary name ty => exact .inl ⟨name, rfl⟩
  | constant value => exact .inr rfl
  | vertexAttribute name ty =>
      have found := attributesFor_of_addAll linked.attributesAdded
      cases (ShaderNodes.stage_of_checkNode there (pieces.checkNode_of_mem inOrder)).1 name ty rfl
      obtain ⟨slot, present, rfl, rfl⟩ :=
        found.declared name ty (List.mem_filterMap.mpr ⟨argument, inOrder, there⟩)
      refine .inr ?_
      simp only [ShaderNode.operand, Program.typeOf?]
      rw [find?_eq_some_of_mem found.distinct present]
      rfl
  | uniform name default =>
      obtain ⟨slot, present, rfl, sameType, _⟩ := declares
      exact .inr ((linked.uniformType?_eq present).trans (congrArg some sameType))
  | engine quantity =>
      obtain ⟨slot, present, named, sameType, _⟩ := declares
      have declared := linked.uniformType?_eq present
      rw [named, sameType] at declared
      exact .inr declared
  | call | fetch | combine | swizzle =>
      have named := pieces.argument_named recorded reached held listed ⟨_, there, rfl⟩
      obtain ⟨binding, present, bears, _, _, again, _, _, sameType⟩ :=
        exists_temporary pieces named there
      cases there.symm.trans again
      have declared := find?_eq_some_of_mem pieces.declares_lets.2 present
      refine .inr ?_
      simp only [ShaderNode.operand, Program.typeOf?]
      rw [← bears, declared, Option.map_some, sameType]

/-- A program holds the code of a stage that is generated for the outputs of the stage. -/
theorem code_eq (linked : Linked graph vertexRoot fragmentRoot resources names program)
    (of : graph.StageOutputs stage outputs) {code : StageCode}
    (generated : generateStage graph.nodes graph.registry stage outputs = .ok code) :
    program.code stage = code := by
  cases of with
  | vertex placed =>
      cases placed.symm.trans linked.vertexPlaced
      exact Except.ok.inj (linked.vertexGenerated.symm.trans generated)
  | fragment placed =>
      cases placed.symm.trans linked.fragmentPlaced
      exact Except.ok.inj (linked.fragmentGenerated.symm.trans generated)

/-- The modules of a linked program declare and call their functions properly. -/
theorem functionModule (linked : Linked graph vertexRoot fragmentRoot resources names program)
    (reachable : graph.Reachable)
    (generated : generateStage graph.nodes graph.registry stage outputs =
      .ok (program.code stage)) : program.FunctionModule stage := by
  obtain ⟨direct, pieces⟩ := generated_of_generateStage generated
  have formed := reachable.wellFormed
  have faultless : ∀ function ∈ (program.code stage).functions, function.fault? = none :=
    fun function listed =>
      graph.registry.sound function (pieces.functions_sound.2 function listed)
  constructor
  case declared => exact (linked.spelled reachable.wellNamed).functionLines_source stage
  case told =>
    exact fun function listed other otherFaultless same =>
      ShaderFunction.signature_eq_of_header otherFaultless (faultless function listed) same
  case calls =>
    intro name operands stands
    obtain ⟨index, invocation, reached, held, member, named, supplies⟩ :=
      (reachable.functionSection generated).calls name operands stands
    refine ⟨invocation.function, member, named, ?_⟩
    have listed := (List.forall₂_and_left _ _).mpr ⟨fun _ isInput => isInput, supplies⟩
    refine listed.imp ?_
    rintro input operand ⟨isInput, argument, bound, typed, refers⟩
    have isArgument : argument ∈ (ShaderNode.call invocation).arguments :=
      List.mem_filterMap.mpr ⟨input, isInput, bound⟩
    have declared := linked.typeOf?_eq formed.edges pieces reached held isArgument refers
    rwa [typed] at declared

end Linked

namespace ShaderGraph

variable {graph : ShaderGraph} {stage : Stage} {outputs : List StageOutput} {code : StageCode}

/-- The function section is exact.  Whenever a stage of a graph is generated, for its own outputs or
others, the functions that it declares are those that the reached nodes call, each once and in the order
of their first calls.  What is declared is the definition that the calling nodes carry, against which
their inputs were checked, and every call in the statements has one argument for each of its parameters,
in order and of the right type.  If the graph links, the source of the module opens these functions and
its entry point and no others, and the types that the program declares for the arguments are those of
the parameters as well, reads of vary slots apart. -/
theorem function_section_exact (reachable : graph.Reachable)
    (generated : generateStage graph.nodes graph.registry stage outputs = .ok code) :
    graph.FunctionSection outputs code ∧
      ∀ program, graph.link = .ok program → graph.StageOutputs stage outputs →
        program.code stage = code ∧ program.FunctionModule stage := by
  refine ⟨reachable.functionSection generated, ?_⟩
  intro program link of
  obtain ⟨_, _, _, _, linked⟩ := linked_of_link link
  have sameCode := linked.code_eq of generated
  exact ⟨sameCode, linked.functionModule reachable (sameCode ▸ generated)⟩

/-! ### A function that is called twice -/

/-- A position tinted twice by one of two functions; the slots of its second invocation are bound in
the order of the parameters, those of the first one in the other order. -/
def tintedTwice : ShaderGraph :=
  (new 1 ⟨[tint, tinting], by decide, by decide⟩).authorAll
    [.uniform "color" (.defaultFor .vec4), .vertexAttribute "position" .vec3, .engineUniform .time,
      .combine .vec4 [⟨1, 1⟩, ⟨1, 2⟩], .call "tinted", .call "tinted", .bind ⟨1, 4⟩ "tint" ⟨1, 0⟩,
      .bind ⟨1, 4⟩ "base" ⟨1, 3⟩, .bind ⟨1, 5⟩ "base" ⟨1, 4⟩, .bind ⟨1, 5⟩ "tint" ⟨1, 0⟩,
      .setVertexRoot ⟨1, 5⟩, .setFragmentRoot ⟨1, 0⟩]

theorem link_tintedTwice :
    tintedTwice.link.map (fun program => (program.vertex.functions, program.vertex.body.operations,
      program.entryHeader .vertex)) =
      .ok ([tinting],
        [.combine .vec4 [.vertexAttribute "position", .engine .time],
          .call "tinted" [.temporary "_t3", .uniform "color"],
          .call "tinted" [.temporary "_t4", .uniform "color"]],
        "fn vs_main(@location(0) position: vec3<f32>) -> VertexOutput \x7b") :=
  map_link_eq_of_linkWithin 14 (by decide +kernel)

/-- The function is declared once, before the entry point, and both calls have the arguments of its
parameters in order. -/
theorem function_section_exact_tintedTwice :
    ∃ program, tintedTwice.Reachable ∧ tintedTwice.link = .ok program ∧
      tintedTwice.StageOutputs .vertex (tintedTwice.vertexOutputs 5) ∧
      tintedTwice.FunctionSection (tintedTwice.vertexOutputs 5) program.vertex ∧
      program.FunctionModule .vertex ∧ program.vertex.functions = [tinting] ∧
      .call "tinted" [.temporary "_t4", .uniform "color"] ∈ program.vertex.body.operations ∧
      functionLines (program.source .vertex) =
        ["fn tinted(base: vec4<f32>, tint: vec4<f32>) -> vec4<f32> \x7b".toList,
          "fn vs_main(@location(0) position: vec3<f32>) -> VertexOutput \x7b".toList] := by
  have reachable : tintedTwice.Reachable := ⟨_, _, _, rfl⟩
  have placed : tintedTwice.vertexRoot = some 5 := by decide +kernel
  have of : tintedTwice.StageOutputs .vertex (tintedTwice.vertexOutputs 5) := .vertex placed
  obtain ⟨program, link, found⟩ := map_eq_ok_iff.mp link_tintedTwice
  simp only [Prod.mk.injEq] at found
  obtain ⟨functions, operations, entry⟩ := found
  obtain ⟨root, _, _, _, linked⟩ := linked_of_link link
  have generated := linked.vertexGenerated
  cases placed.symm.trans linked.vertexPlaced
  obtain ⟨here, inProgram⟩ := function_section_exact reachable generated
  obtain ⟨_, declares⟩ := inProgram program link of
  have lines := declares.declared
  rw [Program.code, functions, entry] at lines
  refine ⟨program, reachable, link, of, here, declares, functions, ?_, lines.trans ?_⟩
  · rw [operations]
    decide
  · decide +kernel

end ShaderGraph

end ShaderFlow

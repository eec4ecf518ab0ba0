/-
Module: ShaderFlow.Proofs.Shader.Emission
Purpose: A stage computes every operation that its outputs reach exactly once, before it is used.
Main exports: ShaderNodes.RefersTo, ShaderNodes.Computes, ShaderNodes.UsedAt, ShaderNodes.OnlyUse,
  ShaderNodes.Emission, ShaderGraph.emitted_once
-/
import ShaderFlow.Proofs.Shader.Generable
import ShaderFlow.Proofs.Shader.StageMeaning

namespace ShaderFlow

/-!
Whether an operation gets a temporary depends on all its uses in the stage: every position in the
arguments of a reached node is one, and so is every output.  An operation with an output as its only
use is computed there; every other one gets a temporary, in dependency order.  So the operations of the
stage are split in two, and each half is worked through once.
-/

/-! ### Statements -/

/-- The name of the temporary that an operand reads, if it reads one. -/
def Operand.temporary? : Operand → Option String
  | temporary name => some name
  | vertexAttribute _ | uniform _ | engine _ | vary _ | constant _ => none

namespace Expression

/-- The operands of an expression, in order. -/
def operands : Expression → List Operand
  | operand source => [source]
  | call _ arguments => arguments
  | fetch _ coordinate => [coordinate]
  | combine _ parts => parts
  | swizzle source _ => [source]

/-- The temporaries that an expression reads. -/
def temporaries (expression : Expression) : List String :=
  expression.operands.filterMap Operand.temporary?

/-- Whether an expression computes something, and does not only refer to a value. -/
def isOperation : Expression → Bool
  | operand _ => false
  | call .. | fetch .. | combine .. | swizzle .. => true

end Expression

/-- What the statements of a stage compute, from top to bottom. -/
def StageBody.operations (body : StageBody) : List Expression :=
  (body.lets.map LetBinding.value ++ body.assignments.map Assignment.value).filter
    Expression.isOperation

/-- What stands for a node in a statement: its name or literal if it is a leaf, its temporary
otherwise. -/
def ShaderNode.operand (index : NodeIndex) : ShaderNode → Operand
  | vertexAttribute name _ => .vertexAttribute name
  | uniform name _ => .uniform name
  | engine quantity => .engine quantity
  | vary name _ => .vary name
  | constant value => .constant value
  | node => .temporary (node.variableName index)

/-- A use of a node. -/
inductive Use where
  /-- A position among the arguments of a node. -/
  | argument (consumer : NodeIndex) (position : Nat)
  /-- A position among the outputs. -/
  | output (position : Nat)
deriving DecidableEq, Repr

namespace ShaderNodes

/-- The edges of the arena are the arguments that the nodes name, in order. -/
def Recorded (nodes : ShaderNodes) : Prop :=
  ∀ index node, nodes.get? index = some node → nodes.dependencies index = node.arguments

/-- A slot that holds an operation. -/
def IsOperation (nodes : ShaderNodes) (index : NodeIndex) : Prop :=
  ∃ node, nodes.get? index = some node ∧ node.isLeaf = false

/-- The operand stands for the node in a slot. -/
def RefersTo (nodes : ShaderNodes) (index : NodeIndex) (operand : Operand) : Prop :=
  ∃ node, nodes.get? index = some node ∧ operand = node.operand index

/-- The expression applies the operation of a node to operands for its arguments, in order; a call has
an argument for every parameter. -/
inductive Computes (nodes : ShaderNodes) : ShaderNode → Expression → Prop where
  | call {invocation : FunctionCall} {operands : List Operand} (complete : invocation.unbound? = none)
      (each : List.Forall₂ nodes.RefersTo invocation.arguments operands) :
      Computes nodes (.call invocation) (.call invocation.function.name operands)
  | fetch {texture : String} {coordinate : NodeIndex} {operand : Operand}
      (refers : nodes.RefersTo coordinate operand) :
      Computes nodes (.fetch texture coordinate) (.fetch texture operand)
  | combine {ty : ShaderType} {parts : List NodeIndex} {operands : List Operand}
      (each : List.Forall₂ nodes.RefersTo parts operands) :
      Computes nodes (.combine ty parts) (.combine ty operands)
  | swizzle {source : NodeIndex} {mask : String} {ty : ShaderType} {operand : Operand}
      (refers : nodes.RefersTo source operand) :
      Computes nodes (.swizzle source mask ty) (.swizzle operand mask)

/-- The expression computes the node in a slot. -/
def Emits (nodes : ShaderNodes) (index : NodeIndex) (expression : Expression) : Prop :=
  ∃ node, nodes.get? index = some node ∧ nodes.Computes node expression

/-- The binding is the temporary of the node in a slot. -/
def Declares (nodes : ShaderNodes) (index : NodeIndex) (binding : LetBinding) : Prop :=
  ∃ node, nodes.get? index = some node ∧ binding.name = node.variableName index ∧
    binding.ty = node.ty ∧ nodes.Computes node binding.value

/-- A place where the code for the outputs uses a node: an argument of a node that the outputs reach, or
one of the outputs. -/
def UsedAt (nodes : ShaderNodes) (outputs : List StageOutput) (index : NodeIndex) : Use → Prop
  | .argument consumer position => nodes.Reached (outputs.map StageOutput.node) consumer ∧
      ∃ node, nodes.get? consumer = some node ∧ node.arguments[position]? = some index
  | .output position => (outputs.map StageOutput.node)[position]? = some index

/-- A node is used in one place and nowhere else. -/
def OnlyUse (nodes : ShaderNodes) (outputs : List StageOutput) (index : NodeIndex) (use : Use) :
    Prop :=
  ∀ other, nodes.UsedAt outputs index other ↔ other = use

/-- The assignment of an output computes its node, if that is among the direct ones, and refers to it
otherwise. -/
structure Assigns (nodes : ShaderNodes) (direct : List NodeIndex) (output : StageOutput)
    (assignment : Assignment) : Prop where
  target : assignment.target = output.target
  computed : output.node ∈ direct → nodes.Emits output.node assignment.value
  referred : output.node ∉ direct →
    ∃ operand, assignment.value = .operand operand ∧ nodes.RefersTo output.node operand

/-- The code of a stage, as a schedule of its operations: some have temporaries, and the others are
computed in the output that they are for. -/
structure Emission (nodes : ShaderNodes) (outputs : List StageOutput) (named direct : List NodeIndex)
    (body : StageBody) : Prop where
  /-- What is scheduled are the operations that the outputs reach, each once. -/
  distinct : (named ++ direct).Nodup
  scheduled : ∀ index, index ∈ named ++ direct ↔
    nodes.Reached (outputs.map StageOutput.node) index ∧ nodes.IsOperation index
  /-- One expression of the body for each of them, and no other expressions. -/
  emitted : List.Forall₂ nodes.Emits (named ++ direct) body.operations
  direct_iff : ∀ index, index ∈ direct ↔
    nodes.IsOperation index ∧ ∃ position, nodes.OnlyUse outputs index (.output position)
  declared : List.Forall₂ nodes.Declares named body.lets
  distinct_names : (body.lets.map LetBinding.name).Nodup
  /-- An operation comes after the operations among its arguments. -/
  ordered : ∀ before index after, named = before ++ index :: after →
    ∀ node, nodes.get? index = some node → ∀ argument ∈ node.arguments,
      nodes.IsOperation argument → argument ∈ before
  known : ∀ before binding after, body.lets = before ++ binding :: after →
    ∀ name ∈ binding.value.temporaries, name ∈ before.map LetBinding.name
  assigned : List.Forall₂ (nodes.Assigns direct) outputs body.assignments
  known_assigned : ∀ assignment ∈ body.assignments,
    ∀ name ∈ assignment.value.temporaries, name ∈ body.lets.map LetBinding.name

variable {nodes : ShaderNodes} {registry : FunctionRegistry} {stage : Stage}
  {outputs : List StageOutput} {code : StageCode} {direct bound order : List NodeIndex}
  {index : NodeIndex} {node : ShaderNode} {expression : Expression} {operand : Operand}

/-! ### Expressions -/

theorem refersTo_of_operandFor {owner : String}
    (referred : nodes.operandFor bound owner index = .ok operand) :
    nodes.RefersTo index operand := by
  unfold operandFor at referred
  cases held : nodes.get? index with
  | none =>
      rw [held] at referred
      cases referred
  | some node =>
      rw [held] at referred
      refine ⟨node, held, ?_⟩
      cases node with
      | vertexAttribute | uniform | engine | vary | constant =>
          cases referred
          rfl
      | call | fetch | combine | swizzle =>
          dsimp only at referred
          split at referred
          · cases referred
            rfl
          · cases referred

theorem refersTo_of_operands {owner : String} {indices : List NodeIndex} {operands : List Operand}
    (referred : indices.mapM (nodes.operandFor bound owner) = .ok operands) :
    List.Forall₂ nodes.RefersTo indices operands :=
  (mapM_eq_ok_iff.mp referred).imp fun _ _ => refersTo_of_operandFor

theorem computes_of_expressionFor (operation : node.isLeaf = false)
    (expressed : nodes.expressionFor bound index node = .ok expression) :
    nodes.Computes node expression := by
  unfold expressionFor at expressed
  cases node with
  | call invocation =>
      dsimp only at expressed
      split at expressed
      · cases expressed
      · next complete =>
          obtain ⟨operands, referred, same⟩ := bind_eq_ok_iff.mp expressed
          cases same
          exact .call complete (refersTo_of_operands referred)
  | fetch texture coordinate =>
      obtain ⟨operand, referred, same⟩ := bind_eq_ok_iff.mp expressed
      cases same
      exact .fetch (refersTo_of_operandFor referred)
  | combine ty parts =>
      obtain ⟨operands, referred, same⟩ := bind_eq_ok_iff.mp expressed
      cases same
      exact .combine (refersTo_of_operands referred)
  | swizzle source mask ty =>
      obtain ⟨operand, referred, same⟩ := bind_eq_ok_iff.mp expressed
      cases same
      exact .swizzle (refersTo_of_operandFor referred)
  | vertexAttribute | uniform | engine | vary | constant => cases operation

theorem Computes.isOperation (computes : nodes.Computes node expression) :
    expression.isOperation = true ∧ node.isLeaf = false := by
  cases computes <;> exact ⟨rfl, rfl⟩

/-- The operands of an expression stand for the arguments of its node. -/
theorem Computes.operands (computes : nodes.Computes node expression) :
    List.Forall₂ nodes.RefersTo node.arguments expression.operands := by
  cases computes with
  | call _ each => exact each
  | combine each => exact each
  | fetch refers => exact .cons refers .nil
  | swizzle refers => exact .cons refers .nil

/-- A temporary is read for an operation that it is named after. -/
theorem RefersTo.temporary {name : String} (refers : nodes.RefersTo index operand)
    (read : operand.temporary? = some name) :
    ∃ node, nodes.get? index = some node ∧ node.isLeaf = false ∧ name = node.variableName index := by
  obtain ⟨node, held, rfl⟩ := refers
  refine ⟨node, held, ?_⟩
  cases node with
  | call | fetch | combine | swizzle =>
      cases read
      exact ⟨rfl, rfl⟩
  | vertexAttribute | uniform | engine | vary | constant => cases read

theorem Computes.temporary {name : String} (computes : nodes.Computes node expression)
    (read : name ∈ expression.temporaries) :
    ∃ argument ∈ node.arguments, ∃ source, nodes.get? argument = some source ∧
      source.isLeaf = false ∧ name = source.variableName argument := by
  obtain ⟨operand, listed, reads⟩ := List.mem_filterMap.mp read
  obtain ⟨argument, member, refers⟩ := exists_of_mem_results computes.operands listed
  exact ⟨argument, member, refers.temporary reads⟩

/-! ### Uses -/

/-- What occurs once in a list has one position in it. -/
theorem count_eq_one_iff {α : Type} [DecidableEq α] {items : List α} {item : α} :
    items.count item = 1 ↔
      ∃ position, ∀ other : Nat, items[other]? = some item ↔ other = position := by
  induction items with
  | nil => simp
  | cons head rest ih =>
      by_cases same : head = item
      · subst same
        rw [List.count_cons_self, Nat.add_eq_right, List.count_eq_zero, List.mem_iff_getElem?]
        constructor
        · intro absent
          refine ⟨0, fun other => ?_⟩
          cases other with
          | zero => simp
          | succ other => simpa using fun here => absent ⟨other, here⟩
        · rintro ⟨position, only⟩ ⟨other, here⟩
          have first : 0 = position := (only 0).mp rfl
          have second : other + 1 = position := (only (other + 1)).mp here
          omega
      · rw [List.count_cons_of_ne same, ih]
        constructor
        · rintro ⟨position, only⟩
          refine ⟨position + 1, fun other => ?_⟩
          cases other with
          | zero => simpa using same
          | succ other => simpa using only other
        · rintro ⟨position, only⟩
          cases position with
          | zero =>
              have first : (head :: rest)[0]? = some item := (only 0).mpr rfl
              exact absurd (Option.some.inj first) same
          | succ position => exact ⟨position, fun other => by simpa using only (other + 1)⟩

/-- An output is the only use of its node iff the node is used once. -/
theorem onlyUse_output_iff (recorded : nodes.Recorded)
    (held : ∀ index ∈ order, ∃ node, nodes.get? index = some node)
    (isOrder : nodes.IsOrder (outputs.map StageOutput.node) order) :
    (∃ position, nodes.OnlyUse outputs index (.output position)) ↔
      index ∈ outputs.map StageOutput.node ∧ nodes.useCount order outputs index = 1 := by
  have unargued : (order.flatMap nodes.dependencies).count index = 0 ↔
      ∀ consumer position, ¬ nodes.UsedAt outputs index (.argument consumer position) := by
    rw [List.count_eq_zero, List.mem_flatMap]
    constructor
    · rintro absent consumer position ⟨reached, node, found, argument⟩
      refine absent ⟨consumer, (isOrder.mem_iff consumer).mpr reached, ?_⟩
      rw [recorded consumer node found]
      exact List.mem_of_getElem? argument
    · rintro unused ⟨consumer, listed, edge⟩
      obtain ⟨node, found⟩ := held consumer listed
      rw [recorded consumer node found] at edge
      obtain ⟨position, argument⟩ := List.mem_iff_getElem?.mp edge
      exact unused consumer position ⟨(isOrder.mem_iff consumer).mp listed, node, found, argument⟩
  constructor
  · rintro ⟨position, only⟩
    have here : nodes.UsedAt outputs index (.output position) := (only _).mpr rfl
    have once : (outputs.map StageOutput.node).count index = 1 := by
      refine count_eq_one_iff.mpr ⟨position, fun other => ?_⟩
      have use := only (.output other)
      rwa [Use.output.injEq] at use
    have none : (order.flatMap nodes.dependencies).count index = 0 := by
      refine unargued.mpr fun consumer other used => ?_
      cases (only _).mp used
    exact ⟨List.mem_of_getElem? here, by rw [useCount, none, once]⟩
  · rintro ⟨listed, counted⟩
    have positive : 0 < (outputs.map StageOutput.node).count index := List.count_pos_iff.mpr listed
    unfold useCount at counted
    obtain ⟨position, only⟩ := count_eq_one_iff.mp
      (show (outputs.map StageOutput.node).count index = 1 by omega)
    have unused := unargued.mp (by omega)
    refine ⟨position, fun other => ?_⟩
    cases other with
    | argument consumer other => simpa using unused consumer other
    | output other =>
        rw [Use.output.injEq]
        exact only other

/-! ### Assignments -/

theorem assigns_of_assignmentFor {output : StageOutput} {assignment : Assignment}
    (operations : ∀ index ∈ direct, nodes.IsOperation index)
    (generated : nodes.assignmentFor direct bound output = .ok assignment) :
    nodes.Assigns direct output assignment := by
  have target := target_of_assignmentFor generated
  obtain ⟨node, found, inner⟩ := bind_eq_ok_iff.mp generated
  have held := nodeAt_eq_ok_iff.mp found
  split at inner
  · next picked =>
      have listed := List.contains_iff_mem.mp picked
      obtain ⟨expression, expressed, done⟩ := bind_eq_ok_iff.mp inner
      cases done
      obtain ⟨other, there, operation⟩ := operations _ listed
      cases held.symm.trans there
      constructor
      case target => exact target
      case computed => exact fun _ => ⟨node, held, computes_of_expressionFor operation expressed⟩
      case referred => exact fun absent => absurd listed absent
  · next unpicked =>
      obtain ⟨operand, referred, done⟩ := bind_eq_ok_iff.mp inner
      cases done
      constructor
      case target => exact target
      case computed => exact fun listed => absurd (List.contains_iff_mem.mpr listed) unpicked
      case referred => exact fun _ => ⟨operand, rfl, refersTo_of_operandFor referred⟩

/-- What assignments compute are the direct nodes, in the order of the outputs. -/
theorem emits_of_assigns {assignments : List Assignment}
    (each : List.Forall₂ (nodes.Assigns direct) outputs assignments) :
    List.Forall₂ nodes.Emits ((outputs.map StageOutput.node).filter (· ∈ direct))
      ((assignments.map Assignment.value).filter Expression.isOperation) := by
  induction each with
  | nil => exact .nil
  | @cons output assignment outputs assignments here _ ih =>
      rw [List.map_cons, List.map_cons, List.filter_cons, List.filter_cons]
      by_cases picked : output.node ∈ direct
      · obtain ⟨node, held, computes⟩ := here.computed picked
        simpa [picked, computes.isOperation.1] using List.Forall₂.cons ⟨node, held, computes⟩ ih
      · obtain ⟨operand, refers, _⟩ := here.referred picked
        simpa [picked, refers, Expression.isOperation] using ih

end ShaderNodes

/-- Splitting the results of a list of steps splits the list. -/
theorem exists_of_results_eq {α β : Type} {related : α → β → Prop} {items : List α}
    {before after : List β} {result : β}
    (each : List.Forall₂ related items (before ++ result :: after)) :
    ∃ first item last, items = first ++ item :: last ∧ List.Forall₂ related first before ∧
      related item result := by
  induction before generalizing items with
  | nil =>
      cases each with
      | cons here _ => exact ⟨[], _, _, rfl, .nil, here⟩
  | cons other before ih =>
      cases each with
      | @cons item _ rest _ here later =>
          obtain ⟨first, found, last, rfl, earlier, there⟩ := ih later
          exact ⟨item :: first, found, last, rfl, .cons here earlier, there⟩

/-! ### Stages -/

open ShaderNodes

namespace Generated

theorem exists_of_mem_order (generated : Generated nodes registry stage outputs direct code)
    (listed : index ∈ code.order) : ∃ node, nodes.get? index = some node := by
  obtain ⟨node, found, _⟩ := bind_eq_ok_iff.mp (generated.checkNode_of_mem listed)
  exact ⟨node, nodeAt_eq_ok_iff.mp found⟩

/-- The direct nodes are the roots that are operations and used once. -/
theorem direct_eq (generated : Generated nodes registry stage outputs direct code) :
    direct = (outputs.map StageOutput.node).filter fun index =>
      (nodes.get? index).any (!·.isLeaf) && nodes.useCount code.order outputs index == 1 := by
  apply filterM_eq_ok _ generated.picked
  intro index result tested
  obtain ⟨node, found, _⟩ := bind_eq_ok_iff.mp tested
  have held := nodeAt_eq_ok_iff.mp found
  rw [isDirect_eq_ok held] at tested
  cases tested
  rw [held, Option.any_some]

theorem mem_direct_iff (generated : Generated nodes registry stage outputs direct code)
    (recorded : nodes.Recorded) :
    index ∈ direct ↔
      nodes.IsOperation index ∧ ∃ position, nodes.OnlyUse outputs index (.output position) := by
  have operation : (nodes.get? index).any (!·.isLeaf) = true ↔ nodes.IsOperation index := by
    simp [IsOperation, Option.any_eq_true]
  rw [onlyUse_output_iff recorded (fun _ => generated.exists_of_mem_order) generated.isOrder,
    generated.direct_eq, List.mem_filter, Bool.and_eq_true, operation, beq_iff_eq]
  exact and_left_comm

/-- A root that is used once stands once among the roots. -/
theorem nodup_direct (generated : Generated nodes registry stage outputs direct code) :
    direct.Nodup := by
  rw [List.nodup_iff_count_le_one]
  intro index
  by_cases listed : index ∈ direct
  · have once := generated.direct_eq ▸ listed
    rw [List.mem_filter, Bool.and_eq_true, beq_iff_eq, useCount] at once
    have atMost : direct.count index ≤ (outputs.map StageOutput.node).count index := by
      conv_lhs => rw [generated.direct_eq]
      exact List.filter_sublist.count_le index
    omega
  · rw [List.count_eq_zero.mpr listed]
    exact Nat.zero_le 1

theorem filter_mem_direct (generated : Generated nodes registry stage outputs direct code) :
    (outputs.map StageOutput.node).filter (· ∈ direct) = direct := by
  conv_rhs => rw [generated.direct_eq]
  apply List.filter_congr
  intro index listed
  rw [Bool.eq_iff_iff, decide_eq_true_iff]
  conv_lhs => rw [generated.direct_eq]
  rw [List.mem_filter]
  exact and_iff_right listed

theorem mem_boundNodes_iff (generated : Generated nodes registry stage outputs direct code) :
    index ∈ nodes.boundNodes direct code.order ↔
      nodes.Reached (outputs.map StageOutput.node) index ∧ index ∉ direct ∧
        nodes.IsOperation index := by
  unfold boundNodes
  rw [List.mem_filter, generated.isOrder.mem_iff]
  simp [IsOperation, Option.any_eq_true]

/-- An operation that is an argument of a reached node has a temporary. -/
theorem argument_named (generated : Generated nodes registry stage outputs direct code)
    (recorded : nodes.Recorded)
    (reached : nodes.Reached (outputs.map StageOutput.node) index)
    (held : nodes.get? index = some node) {argument : NodeIndex}
    (listed : argument ∈ node.arguments) (operation : nodes.IsOperation argument) :
    argument ∈ nodes.boundNodes direct code.order := by
  have argumentReached : nodes.Reached (outputs.map StageOutput.node) argument :=
    reached.dependency (recorded index node held ▸ listed)
  refine generated.mem_boundNodes_iff.mpr ⟨argumentReached, ?_, operation⟩
  intro picked
  obtain ⟨_, position, only⟩ := (generated.mem_direct_iff recorded).mp picked
  obtain ⟨place, stands⟩ := List.mem_iff_getElem?.mp listed
  cases (only (.argument index place)).mp ⟨reached, node, held, stands⟩

theorem declares_lets (generated : Generated nodes registry stage outputs direct code) :
    List.Forall₂ nodes.Declares (nodes.boundNodes direct code.order) code.body.lets ∧
      (code.body.lets.map LetBinding.name).Nodup := by
  have each : List.Forall₂ (nodes.LetFor (nodes.boundNodes direct code.order))
      (nodes.boundNodes direct code.order) code.body.lets :=
    lets_for generated.declared (by simp) fun _ => id
  constructor
  · apply each.imp
    rintro index binding ⟨node, bound, held, operation, named, typed, expressed, _⟩
    exact ⟨node, held, named, typed, computes_of_expressionFor operation expressed⟩
  · exact nodup_letNames each (generated.isOrder.distinct.filter _)

/-- Temporaries are declared in dependency order. -/
theorem ordered_boundNodes (generated : Generated nodes registry stage outputs direct code)
    (recorded : nodes.Recorded)
    {before after : List NodeIndex}
    (split : nodes.boundNodes direct code.order = before ++ index :: after)
    (held : nodes.get? index = some node) {argument : NodeIndex}
    (listed : argument ∈ node.arguments) (operation : nodes.IsOperation argument) :
    argument ∈ before := by
  have here : index ∈ nodes.boundNodes direct code.order :=
    split ▸ List.mem_append_right _ List.mem_cons_self
  obtain ⟨reached, _, _⟩ := generated.mem_boundNodes_iff.mp here
  have named := generated.argument_named recorded reached held listed operation
  obtain ⟨first, rest, order, rfl, later⟩ := List.filter_eq_append_iff.mp split
  obtain ⟨between, last, rfl, skipped, _, _⟩ := List.filter_eq_cons_iff.mp later
  have earlier : argument ∈ first ++ between := by
    refine generated.isOrder.follows (first ++ between) index last ?_ argument ?_
    · rw [order, List.append_assoc]
    · exact recorded index node held ▸ listed
  obtain ⟨_, kept⟩ := List.mem_filter.mp named
  rcases List.mem_append.mp earlier with inFirst | inBetween
  · exact List.mem_filter.mpr ⟨inFirst, kept⟩
  · exact absurd kept (skipped argument inBetween)

/-- The temporaries and the direct nodes are all operations that the outputs reach. -/
theorem mem_scheduled_iff (generated : Generated nodes registry stage outputs direct code)
    (recorded : nodes.Recorded) :
    index ∈ nodes.boundNodes direct code.order ++ direct ↔
      nodes.Reached (outputs.map StageOutput.node) index ∧ nodes.IsOperation index := by
  rw [List.mem_append, generated.mem_boundNodes_iff]
  constructor
  · rintro (⟨reached, _, operation⟩ | picked)
    · exact ⟨reached, operation⟩
    · obtain ⟨operation, position, only⟩ := (generated.mem_direct_iff recorded).mp picked
      have used : nodes.UsedAt outputs index (.output position) := (only _).mpr rfl
      exact ⟨.root (List.mem_of_getElem? used), operation⟩
  · rintro ⟨reached, operation⟩
    by_cases picked : index ∈ direct
    · exact .inr picked
    · exact .inl ⟨reached, picked, operation⟩

theorem assigns_assignments (generated : Generated nodes registry stage outputs direct code)
    (recorded : nodes.Recorded) :
    List.Forall₂ (nodes.Assigns direct) outputs code.body.assignments := by
  have operations : ∀ index ∈ direct, nodes.IsOperation index := fun index listed =>
    ((generated.mem_direct_iff recorded).mp listed).1
  exact (mapM_eq_ok_iff.mp generated.assigned).imp fun _ _ => assigns_of_assignmentFor operations

theorem emits_operations (generated : Generated nodes registry stage outputs direct code)
    (recorded : nodes.Recorded) :
    List.Forall₂ nodes.Emits (nodes.boundNodes direct code.order ++ direct)
      code.body.operations := by
  have letValues : List.Forall₂ nodes.Emits (nodes.boundNodes direct code.order)
      (code.body.lets.map LetBinding.value) := by
    rw [List.forall₂_map_right_iff]
    apply generated.declares_lets.1.imp
    rintro index binding ⟨node, held, _, _, computes⟩
    exact ⟨node, held, computes⟩
  have all : (code.body.lets.map LetBinding.value).filter Expression.isOperation =
      code.body.lets.map LetBinding.value := by
    apply List.filter_eq_self.mpr
    intro expression member
    obtain ⟨_, _, _, _, computes⟩ := exists_of_mem_results letValues member
    exact computes.isOperation.1
  have assigned := emits_of_assigns (generated.assigns_assignments recorded)
  rw [generated.filter_mem_direct] at assigned
  rw [StageBody.operations, List.filter_append, all]
  exact List.rel_append letValues assigned

/-- A declaration reads temporaries that are declared before it. -/
theorem declared_before_let (generated : Generated nodes registry stage outputs direct code)
    (recorded : nodes.Recorded) {before after : List LetBinding} {binding : LetBinding}
    (split : code.body.lets = before ++ binding :: after) {name : String}
    (read : name ∈ binding.value.temporaries) : name ∈ before.map LetBinding.name := by
  have declared := generated.declares_lets.1
  rw [split] at declared
  obtain ⟨first, index, last, named, each, node, held, _, _, computes⟩ :=
    exists_of_results_eq declared
  obtain ⟨argument, listed, source, there, operation, rfl⟩ := computes.temporary read
  have earlier : argument ∈ first :=
    generated.ordered_boundNodes recorded named held listed ⟨source, there, operation⟩
  obtain ⟨other, member, found, again, sameName, _⟩ := exists_of_mem_items each earlier
  cases there.symm.trans again
  exact List.mem_map.mpr ⟨other, member, sameName⟩

/-- An assignment reads temporaries that are declared. -/
theorem declared_before_assignment
    (generated : Generated nodes registry stage outputs direct code) (recorded : nodes.Recorded)
    {assignment : Assignment} (listed : assignment ∈ code.body.assignments) {name : String}
    (read : name ∈ assignment.value.temporaries) : name ∈ code.body.lets.map LetBinding.name := by
  have nameOf : ∀ index ∈ nodes.boundNodes direct code.order, ∀ node,
      nodes.get? index = some node →
        node.variableName index ∈ code.body.lets.map LetBinding.name := by
    intro index member node held
    obtain ⟨binding, declared, other, there, named, _⟩ :=
      exists_of_mem_items generated.declares_lets.1 member
    cases held.symm.trans there
    exact List.mem_map.mpr ⟨binding, declared, named⟩
  obtain ⟨output, placed, assigns⟩ :=
    exists_of_mem_results (generated.assigns_assignments recorded) listed
  have reached : nodes.Reached (outputs.map StageOutput.node) output.node :=
    .root (List.mem_map_of_mem placed)
  by_cases picked : output.node ∈ direct
  · obtain ⟨node, held, computes⟩ := assigns.computed picked
    obtain ⟨argument, member, source, there, operation, rfl⟩ := computes.temporary read
    have named := generated.argument_named recorded reached held member ⟨source, there, operation⟩
    exact nameOf argument named source there
  · obtain ⟨operand, value, refers⟩ := assigns.referred picked
    rw [value, Expression.temporaries, Expression.operands] at read
    obtain ⟨_, only, reads⟩ := List.mem_filterMap.mp read
    cases List.mem_singleton.mp only
    obtain ⟨node, held, operation, rfl⟩ := refers.temporary reads
    have named := generated.mem_boundNodes_iff.mpr ⟨reached, picked, node, held, operation⟩
    exact nameOf output.node named node held

theorem emission (generated : Generated nodes registry stage outputs direct code)
    (recorded : nodes.Recorded) :
    nodes.Emission outputs (nodes.boundNodes direct code.order) direct code.body := by
  obtain ⟨declared, distinctNames⟩ := generated.declares_lets
  constructor
  case distinct =>
    refine List.nodup_append'.mpr ⟨generated.isOrder.distinct.filter _, generated.nodup_direct, ?_⟩
    intro index named picked
    exact (generated.mem_boundNodes_iff.mp named).2.1 picked
  case scheduled => exact fun _ => generated.mem_scheduled_iff recorded
  case emitted => exact generated.emits_operations recorded
  case direct_iff => exact fun _ => generated.mem_direct_iff recorded
  case declared => exact declared
  case distinct_names => exact distinctNames
  case ordered =>
    intro before index after split node held argument listed operation
    exact generated.ordered_boundNodes recorded split held listed operation
  case known => exact fun _ _ _ split _ => generated.declared_before_let recorded split
  case assigned => exact generated.assigns_assignments recorded
  case known_assigned => exact fun _ listed _ => generated.declared_before_assignment recorded listed

end Generated

namespace ShaderGraph

variable {graph : ShaderGraph}

/-- Each operation is emitted once and in order.  Whatever the outputs of a stage, if the stage of a
graph is generated, its statements compute the operations that the outputs reach, each once: in an
output if that is its only use, and otherwise in a temporary.  Leaves have no temporary.  The
temporaries have different names and come in dependency order, none is read before it is declared, and
after them every output is assigned once, in order. -/
theorem emitted_once (reachable : graph.Reachable)
    (generated : generateStage graph.nodes graph.registry stage outputs = .ok code) :
    (∃ named direct, ShaderNodes.Emission graph.nodes outputs named direct code.body) ∧
      code.body.assignments.map Assignment.target = outputs.map StageOutput.target ∧
      code.body.statements stage = code.body.lets.map (LetBinding.text stage) ++
        code.body.assignments.map (Assignment.text stage) := by
  obtain ⟨direct, pieces⟩ := generated_of_generateStage generated
  refine ⟨⟨_, direct, pieces.emission reachable.wellFormed.edges⟩, ?_, rfl⟩
  exact targets_of_assignments pieces.assigned

/-- A position that is an output and is also swizzled for another output. -/
def swizzledPosition : ShaderGraph :=
  (new 1 .empty).authorAll
    [.vertexAttribute "position" .vec3, .engineUniform .time, .combine .vec4 [⟨1, 0⟩, ⟨1, 1⟩],
      .swizzle ⟨1, 2⟩ "xy"]

/-- The outputs of both. -/
def swizzledOutputs : List StageOutput := [⟨.clipPosition, 2⟩, ⟨.varying "v_plane", 3⟩]

/-- The position has a temporary, and the swizzle is computed in its output. -/
theorem swizzledPosition_emitted_once :
    ∃ code, swizzledPosition.Reachable ∧
      generateStage swizzledPosition.nodes swizzledPosition.registry .vertex swizzledOutputs =
        .ok code ∧
      (∃ named direct,
        ShaderNodes.Emission swizzledPosition.nodes swizzledOutputs named direct code.body) ∧
      code.body.lets.map LetBinding.name = ["_t2"] ∧
      code.body.assignments.map Assignment.value =
        [.operand (.temporary "_t2"), .swizzle (.temporary "_t2") "xy"] := by
  let code : StageCode :=
    { stage := .vertex, order := [0, 1, 2, 3], functions := []
      body :=
        { lets := [⟨"_t2", .vec4, .combine .vec4 [.vertexAttribute "position", .engine .time]⟩]
          assignments :=
            [⟨.clipPosition, .operand (.temporary "_t2")⟩,
              ⟨.varying "v_plane", .swizzle (.temporary "_t2") "xy"⟩] } }
  have generated : generateStage swizzledPosition.nodes swizzledPosition.registry .vertex
      swizzledOutputs = .ok code := generateStage_eq_of_generateWithin 12 (by decide +kernel)
  have reachable : swizzledPosition.Reachable := ⟨1, .empty, _, rfl⟩
  obtain ⟨emission, _⟩ := emitted_once reachable generated
  exact ⟨code, reachable, generated, emission, rfl, rfl⟩

end ShaderGraph

end ShaderFlow

/-
Module: ShaderFlow.Proofs.Shader.StageMeaning
Purpose: The code of a stage computes, in every output, the value of the node of that output.
Main exports: ShaderNodes.expressionFor_denotes, ShaderNodes.runAll?_letBindings,
  StageOutput.Computed, ShaderNodes.runAll?_assignments, ShaderGraph.StageOutputs,
  ShaderGraph.run_generateStage
-/
import ShaderFlow.Proofs.Shader.BoundedLink
import ShaderFlow.Proofs.Shader.Evaluation
import ShaderFlow.Proofs.Shader.Linking
import ShaderFlow.Proofs.Shader.TemporaryNames

namespace ShaderFlow

universe u

/-!
The invariant of a run ties the names to the nodes: every node that has its temporary already has its
value in it.  An expression is only generated over such nodes and leaves, so it has a value, and by the
definition of `Denotes` this is the value of its node.  A later declaration does not disturb an
earlier one, because different nodes have temporaries of different names.  Nor does an assignment before
the last one, because the fields of the vertex output are not spelled like temporaries.

Different outputs have targets of different spelling, except that a vary slot can bear the name of the
field that holds the position.  Then the field is written twice, and the slot has the last word; linking
refuses such a graph later on.
-/

/-- A call without unbound slot has one argument for each parameter, in their order. -/
theorem FunctionCall.map_get?_inputs {invocation : FunctionCall}
    (complete : invocation.unbound? = none) :
    invocation.function.inputs.map (fun input => invocation.bound.get? input.name) =
      invocation.arguments.map some := by
  unfold unbound? at complete
  unfold arguments
  rw [List.find?_eq_none] at complete
  generalize invocation.function.inputs = inputs at complete ⊢
  induction inputs with
  | nil => rfl
  | cons input rest ih =>
      have here := complete input List.mem_cons_self
      simp only [OrderedMap.contains, Bool.not_eq_true', Bool.not_eq_false, Option.isSome_iff_exists]
        at here
      obtain ⟨index, found⟩ := here
      have later := ih fun other member => complete other (.tail _ member)
      simp only [List.map_cons, List.filterMap_cons, found, later]

namespace ShaderNodes

variable {α : Type u} {reading : Interpretation α} {nodes : ShaderNodes}
  {store : Store α} {direct bound : List NodeIndex} {owner : String}

/-- Every node of a list has its value in the temporary that is named after it. -/
def Holds (reading : Interpretation α) (nodes : ShaderNodes) (store : Store α)
    (bound : List NodeIndex) : Prop :=
  ∀ index ∈ bound, ∀ node, nodes.get? index = some node →
    ∃ value, store (node.variableName index) = some value ∧
      Denotes reading nodes index value

/-! ### Operands and expressions -/

/-- An operand has the value of the node it stands for. -/
theorem operandFor_denotes {index : NodeIndex} {operand : Operand}
    (holds : Holds reading nodes store bound)
    (generated : nodes.operandFor bound owner index = .ok operand) :
    ∃ value, operand.eval? reading store = some value ∧
      Denotes reading nodes index value := by
  unfold operandFor at generated
  split at generated
  · cases generated
  · next held =>
      cases generated
      exact ⟨_, rfl, .vertexAttribute held⟩
  · next held =>
      cases generated
      exact ⟨_, rfl, .uniform held⟩
  · next held =>
      cases generated
      exact ⟨_, rfl, .engine held⟩
  · next held =>
      cases generated
      exact ⟨_, rfl, .vary held⟩
  · next held =>
      cases generated
      exact ⟨_, rfl, .constant held⟩
  · next node _ _ _ _ _ held =>
      split at generated
      · next declared =>
          cases generated
          exact holds index (List.contains_iff_mem.mp declared) node held
      · cases generated

/-- Operands have the values of the nodes they stand for, in order. -/
theorem operands_denote {indices : List NodeIndex} {operands : List Operand}
    (holds : Holds reading nodes store bound)
    (generated : indices.mapM (nodes.operandFor bound owner) = .ok operands) :
    ∃ values, operands.mapM (Operand.eval? reading store) = some values ∧
      DenotesEach reading nodes indices values := by
  have each := mapM_eq_ok_iff.mp generated
  clear generated
  induction each with
  | nil => exact ⟨[], rfl, .nil⟩
  | cons here _ ih =>
      obtain ⟨value, evaluated, denotes⟩ := operandFor_denotes holds here
      obtain ⟨values, evaluatedRest, denotesRest⟩ := ih
      refine ⟨value :: values, ?_, .cons denotes denotesRest⟩
      rw [List.mapM_cons, evaluated, evaluatedRest]
      rfl

/-- The expression that is generated for a node has the value of the node. -/
theorem expressionFor_denotes {index : NodeIndex} {node : ShaderNode} {expression : Expression}
    (holds : Holds reading nodes store bound) (held : nodes.get? index = some node)
    (generated : nodes.expressionFor bound index node = .ok expression) :
    ∃ value, expression.eval? reading store = some value ∧
      Denotes reading nodes index value := by
  unfold expressionFor at generated
  cases node with
  | call invocation =>
      simp only at generated
      split at generated
      · cases generated
      · next complete =>
          obtain ⟨operands, referred, same⟩ := bind_eq_ok_iff.mp generated
          cases same
          obtain ⟨values, evaluated, denotes⟩ := operands_denote holds referred
          refine ⟨reading.call invocation.function.name values, ?_,
            .call held (FunctionCall.map_get?_inputs complete) denotes⟩
          simp [Expression.eval?, evaluated]
  | fetch texture coordinate =>
      obtain ⟨operand, referred, same⟩ := bind_eq_ok_iff.mp generated
      cases same
      obtain ⟨value, evaluated, denotes⟩ := operandFor_denotes holds referred
      refine ⟨reading.fetch texture value, ?_, .fetch held denotes⟩
      simp [Expression.eval?, evaluated]
  | combine ty parts =>
      obtain ⟨operands, referred, same⟩ := bind_eq_ok_iff.mp generated
      cases same
      obtain ⟨values, evaluated, denotes⟩ := operands_denote holds referred
      refine ⟨reading.combine ty values, ?_, .combine held denotes⟩
      simp [Expression.eval?, evaluated]
  | swizzle source mask ty =>
      obtain ⟨operand, referred, same⟩ := bind_eq_ok_iff.mp generated
      cases same
      obtain ⟨value, evaluated, denotes⟩ := operandFor_denotes holds referred
      refine ⟨reading.swizzle value mask, ?_, .swizzle held denotes⟩
      simp [Expression.eval?, evaluated]
  | vertexAttribute | uniform | engine | vary | constant =>
      obtain ⟨operand, referred, same⟩ := bind_eq_ok_iff.mp generated
      cases same
      exact operandFor_denotes holds referred

/-- What is not spelled like a temporary can be written without disturbing any. -/
theorem Holds.update_of_ne {name : String} {value : α} (holds : Holds reading nodes store bound)
    (unlike : ∀ index (node : ShaderNode), node.variableName index ≠ name) :
    Holds reading nodes (Function.update store name (some value)) bound := by
  intro index member node held
  obtain ⟨own, stored, denotes⟩ := holds index member node held
  exact ⟨own, by rw [Function.update_of_ne (unlike index node), stored], denotes⟩

/-! ### Declarations -/

/-- A new declaration adds its node to those that have a temporary. -/
theorem Holds.update {index : NodeIndex} {node : ShaderNode} {value : α}
    (holds : Holds reading nodes store bound) (held : nodes.get? index = some node)
    (denotes : Denotes reading nodes index value) :
    Holds reading nodes
      (Function.update store (node.variableName index) (some value)) (index :: bound) := by
  intro other member otherNode otherHeld
  by_cases same : other = index
  · subst same
    rw [held] at otherHeld
    cases otherHeld
    exact ⟨value, Function.update_self .., denotes⟩
  · have earlier : other ∈ bound := by simpa [same] using member
    obtain ⟨otherValue, stored, otherDenotes⟩ := holds other earlier otherNode otherHeld
    refine ⟨otherValue, ?_, otherDenotes⟩
    rw [Function.update_of_ne, stored]
    intro clash
    exact same (ShaderNode.index_eq_of_variableName_eq clash)

/-- The declarations of a list of nodes run through, and leave the values of the nodes that had a
temporary before and of those that get one. -/
theorem runAll?_letBindings {order : List NodeIndex} {lets : List LetBinding}
    (holds : Holds reading nodes store bound)
    (generated : nodes.letBindings direct bound order = .ok lets) :
    ∃ final, Statement.runAll? reading store (lets.map .declare) = some final ∧
      Holds reading nodes final bound ∧
      Holds reading nodes final (nodes.boundNodes direct order) := by
  induction order generalizing store bound lets with
  | nil =>
      cases generated
      exact ⟨store, rfl, holds, by simp [boundNodes, Holds]⟩
  | cons index rest ih =>
      obtain ⟨node, found, inner⟩ := bind_eq_ok_iff.mp generated
      have held := nodeAt_eq_ok_iff.mp found
      split at inner
      · next skipped =>
          rw [boundNodes_cons held, if_pos skipped]
          exact ih holds inner
      · next declared =>
          obtain ⟨expression, expressed, later⟩ := bind_eq_ok_iff.mp inner
          obtain ⟨others, following, done⟩ := bind_eq_ok_iff.mp later
          cases done
          obtain ⟨value, evaluated, denotes⟩ := expressionFor_denotes holds held expressed
          obtain ⟨final, ran, before, after⟩ := ih (holds.update held denotes) following
          refine ⟨final, ?_, fun other member => before other (.tail _ member), ?_⟩
          · rw [List.map_cons, Statement.runAll?, Statement.value, evaluated]
            exact ran
          · rw [boundNodes_cons held, if_neg declared]
            intro other member
            rcases List.mem_cons.mp member with rfl | deeper
            · exact before other List.mem_cons_self
            · exact after other deeper

/-! ### Assignments -/

/-- The assignment of an output writes to its target. -/
theorem target_of_assignmentFor {output : StageOutput} {assignment : Assignment}
    (generated : nodes.assignmentFor direct bound output = .ok assignment) :
    assignment.target = output.target := by
  obtain ⟨node, _, inner⟩ := bind_eq_ok_iff.mp generated
  split at inner <;>
    · obtain ⟨_, _, done⟩ := bind_eq_ok_iff.mp inner
      cases done
      rfl

/-- The right-hand side of the assignment of an output has the value of its node. -/
theorem assignmentFor_denotes {output : StageOutput} {assignment : Assignment}
    (holds : Holds reading nodes store bound)
    (generated : nodes.assignmentFor direct bound output = .ok assignment) :
    ∃ value, assignment.value.eval? reading store = some value ∧
      Denotes reading nodes output.node value := by
  obtain ⟨node, found, inner⟩ := bind_eq_ok_iff.mp generated
  split at inner
  · obtain ⟨expression, expressed, done⟩ := bind_eq_ok_iff.mp inner
    cases done
    exact expressionFor_denotes holds (nodeAt_eq_ok_iff.mp found) expressed
  · obtain ⟨operand, referred, done⟩ := bind_eq_ok_iff.mp inner
    cases done
    exact operandFor_denotes holds referred

/-- There is one assignment for each output, in order. -/
theorem targets_of_assignments {outputs : List StageOutput} {assignments : List Assignment}
    (generated : outputs.mapM (nodes.assignmentFor direct bound) = .ok assignments) :
    assignments.map Assignment.target = outputs.map StageOutput.target := by
  have each := mapM_eq_ok_iff.mp generated
  clear generated
  induction each with
  | nil => rfl
  | cons here _ ih => rw [List.map_cons, List.map_cons, target_of_assignmentFor here, ih]

end ShaderNodes

/-- The target of an output holds the value of its node, which is the only value that the node has. -/
def StageOutput.Computed {α : Type u} (reading : Interpretation α) (nodes : ShaderNodes)
    (store : Store α) (output : StageOutput) : Prop :=
  ∃ value, store output.target.text = some value ∧
    ∀ other, Denotes reading nodes output.node other ↔ other = value

namespace ShaderNodes

variable {α : Type u} {reading : Interpretation α} {nodes : ShaderNodes} {store : Store α}
  {direct bound : List NodeIndex}

/-- The assignments of outputs run through, if only the last one may write to a temporary.  An output
keeps its value if no later one is spelled alike. -/
theorem runAll?_assignments {outputs : List StageOutput} {assignments : List Assignment}
    {lasting : StageOutput → Prop} (holds : outputs ≠ [] → Holds reading nodes store bound)
    (generated : outputs.mapM (nodes.assignmentFor direct bound) = .ok assignments)
    (apart : outputs.Pairwise fun output later =>
      (∀ index (node : ShaderNode), node.variableName index ≠ output.target.text) ∧
        (lasting output → output.target.text ≠ later.target.text)) :
    ∃ final, Statement.runAll? reading store (assignments.map .assign) = some final ∧
      ∀ output ∈ outputs, lasting output → output.Computed reading nodes final := by
  have each := mapM_eq_ok_iff.mp generated
  clear generated
  induction each generalizing store with
  | nil => exact ⟨store, rfl, by simp⟩
  | @cons output assignment outputs assignments here rest ih =>
      have sameTarget := target_of_assignmentFor here
      obtain ⟨value, evaluated, denotes⟩ := assignmentFor_denotes (holds (by simp)) here
      rw [List.pairwise_cons] at apart
      obtain ⟨final, ran, computed⟩ := @ih
        (Function.update store output.target.text (some value)) (fun more => by
          obtain ⟨later, listed⟩ := List.exists_mem_of_ne_nil _ more
          exact (holds (by simp)).update_of_ne (apart.1 later listed).1) apart.2
      refine ⟨final, ?_, ?_⟩
      · rw [List.map_cons, Statement.runAll?, Statement.value, evaluated, Statement.destination,
          sameTarget]
        exact ran
      · intro other member lasts
        rcases List.mem_cons.mp member with rfl | later
        · have targets := targets_of_assignments (mapM_eq_ok_iff.mpr rest)
          refine ⟨value, ?_, fun other => ⟨fun second => denotes_unique second denotes,
            fun same => same ▸ denotes⟩⟩
          rw [Statement.eq_of_runAll? ran, Function.update_self]
          have destinations : (assignments.map Statement.assign).map Statement.destination =
              (assignments.map Assignment.target).map OutputTarget.text := by
            rw [List.map_map, List.map_map]
            rfl
          rw [destinations, targets, List.map_map]
          intro written
          obtain ⟨next, listed, same⟩ := List.mem_map.mp written
          exact (apart.1 next listed).2 lasts same.symm
        · exact computed other later lasts

end ShaderNodes

/-! ### Stages of a graph -/

/-- Different vary slots are written to fields of different spelling. -/
theorem OutputTarget.text_varying_injective : Function.Injective fun name =>
    (OutputTarget.varying name).text := by
  intro name other same
  simpa [OutputTarget.text, String.append_assoc, toString] using same

/-- Fields are not spelled like temporaries: they have a period in their names. -/
theorem OutputTarget.variableName_ne_text_varying (name : String) (index : NodeIndex)
    (node : ShaderNode) : node.variableName index ≠ (OutputTarget.varying name).text := by
  intro same
  have period : '.' ∈ (OutputTarget.varying name).text.toList := by
    simp [OutputTarget.text, vertexOutputVariable, toString]
  rw [← same] at period
  exact absurd (ShaderNode.isNameChar_of_mem_variableName period) (by decide)

namespace ShaderGraph

variable {α : Type u} {graph : ShaderGraph} {stage : Stage} {outputs : List StageOutput}

/-- The outputs that a stage of a graph is generated for. -/
inductive StageOutputs (graph : ShaderGraph) : Stage → List StageOutput → Prop where
  | vertex {root : NodeIndex} (placed : graph.vertexRoot = some root) :
      StageOutputs graph .vertex (graph.vertexOutputs root)
  | fragment {root : NodeIndex} (placed : graph.fragmentRoot = some root) :
      StageOutputs graph .fragment (graph.fragmentOutputs root)

/-- Only the last output of a stage may be spelled like a temporary.  An output is spelled like a later
one only if it is the position and a vary slot bears the name of its field. -/
theorem StageOutputs.apart (of : graph.StageOutputs stage outputs) :
    outputs.Pairwise fun output later =>
      (∀ index (node : ShaderNode), node.variableName index ≠ output.target.text) ∧
        ((output.target = .clipPosition → clipPositionField ∉ graph.varys.keys) →
          output.target.text ≠ later.target.text) := by
  cases of with
  | @vertex root placed =>
      refine List.pairwise_cons.mpr ⟨?_, List.pairwise_map.mpr ?_⟩
      · intro later listed
        obtain ⟨slot, held, rfl⟩ := List.mem_map.mp listed
        refine ⟨OutputTarget.variableName_ne_text_varying clipPositionField, fun unlike same => ?_⟩
        have spelled : clipPositionField = slot.1 := OutputTarget.text_varying_injective same
        exact unlike rfl (spelled ▸ List.mem_map_of_mem held)
      · refine (List.pairwise_map.mp graph.varys.distinct).imp fun {slot later} distinct => ?_
        exact ⟨OutputTarget.variableName_ne_text_varying slot.1, fun _ same =>
          distinct (OutputTarget.text_varying_injective same)⟩
  | fragment placed => exact List.pairwise_singleton _ _

/-- No vary slot of a graph that compiles bears the name of the field of the position. -/
theorem clipPositionField_not_mem_keys {descriptor : ProgramDescriptor}
    (compiled : graph.compile = .ok descriptor) : clipPositionField ∉ graph.varys.keys := by
  obtain ⟨program, linked, _⟩ := compile_eq_ok_iff.mp compiled
  obtain ⟨_, _, _, _, link⟩ := linked_of_link linked
  intro member
  obtain ⟨entry, listed, same⟩ := List.mem_map.mp member
  exact (unreserved_of_varyings link.varyingsAdded entry listed).1 same

/-- Code generation preserves meaning.  The statements of a stage spell out straight-line code, which
declares temporaries and then assigns each output.  Under every reading of the leaves and the operations
it runs through without reading a temporary before its declaration.  It leaves in the target of every
output the value of the node of the output, which is the only value of that node, except for the
position if a vary slot bears the name of its field: that field is left with the value of the slot, and
the graph does not compile.  Nothing else is written. -/
theorem run_generateStage {code : StageCode} (of : graph.StageOutputs stage outputs)
    (generated : generateStage graph.nodes graph.registry stage outputs = .ok code) :
    code.stage = stage ∧
      code.body.statements stage = code.body.steps.map (Statement.text stage) ∧
      code.body.assignments.map Assignment.target = outputs.map StageOutput.target ∧
      (∀ reading : Interpretation α, ∃ store, code.body.run? reading = some store ∧
        (∀ output ∈ outputs,
          (output.target = .clipPosition → clipPositionField ∉ graph.varys.keys) →
            output.Computed reading graph.nodes store) ∧
        ∀ name ∉ code.body.steps.map Statement.destination, store name = none) ∧
      (clipPositionField ∈ graph.varys.keys → ∃ error, graph.compile = .error error) := by
  obtain ⟨direct, pieces⟩ := generated_of_generateStage generated
  refine ⟨pieces.stage_eq, code.body.statements_eq_map_text stage,
    ShaderNodes.targets_of_assignments pieces.assigned, fun reading => ?_, fun crowded => ?_⟩
  · have start : ShaderNodes.Holds reading graph.nodes (fun _ => none) [] := by
      intro index member
      cases member
    obtain ⟨declared, ranLets, _, holds⟩ := ShaderNodes.runAll?_letBindings start pieces.declared
    obtain ⟨store, ranAssignments, computed⟩ :=
      ShaderNodes.runAll?_assignments (fun _ => holds) pieces.assigned of.apart
    have ran : code.body.run? reading = some store := by
      rw [StageBody.run?, StageBody.steps, Statement.runAll?_append, ranLets]
      exact ranAssignments
    exact ⟨store, ran, computed, fun name unwritten => Statement.eq_of_runAll? ran unwritten⟩
  · cases compiled : graph.compile with
    | ok descriptor => exact absurd crowded (clipPositionField_not_mem_keys compiled)
    | error error => exact ⟨error, rfl⟩

/-! ### A shared operation and a call with slots bound out of order -/

/-- Two parameters of one type, so that only their order tells them apart. -/
def tinting : ShaderFunction :=
  { name := "tinted", returnType := .vec4, inputs := [⟨"base", .vec4⟩, ⟨"tint", .vec4⟩],
    body := "return base * tint;" }

/-- The position goes to a vary slot and, tinted, to the vertex root. -/
def tintedPosition : ShaderGraph :=
  { generation := 1
    registry := ⟨[tinting], by simp, by decide⟩
    nodes := ⟨#[⟨.uniform "color" (.defaultFor .vec4), []⟩, ⟨.vertexAttribute "position" .vec3, []⟩,
      ⟨.engine .time, []⟩, ⟨.combine .vec4 [1, 2], [1, 2]⟩,
      ⟨.call { function := tinting, bound := .ofList [("tint", 0), ("base", 3)] }, [3, 0]⟩]⟩
    vertexRoot := some 4
    varys := .ofList [("v_position", 3)] }

/-- The vertex code of `tintedPosition`. -/
def tintedPositionCode : StageCode :=
  { stage := .vertex, order := [1, 2, 3, 0, 4], functions := [tinting]
    body :=
      { lets := [⟨"_t3", .vec4, .combine .vec4 [.vertexAttribute "position", .engine .time]⟩]
        assignments :=
          [⟨.clipPosition, .call "tinted" [.temporary "_t3", .uniform "color"]⟩,
            ⟨.varying "v_position", .operand (.temporary "_t3")⟩] } }

/-- The reading that spells a value out as nested calls. -/
def nestedCalls : Interpretation String where
  vertexAttribute name := name
  uniform name := name
  engine quantity := quantity.name
  vary name := name
  constant value := value.wgsl
  call function arguments := function ++ "(" ++ ", ".intercalate arguments ++ ")"
  fetch texture coordinate := texture ++ "[" ++ coordinate ++ "]"
  combine ty parts := ty.wgsl ++ "(" ++ ", ".intercalate parts ++ ")"
  swizzle source mask := source ++ "." ++ mask

theorem run_generateStage_tintedPosition :
    tintedPosition.StageOutputs .vertex (tintedPosition.vertexOutputs 4) ∧
      generateStage tintedPosition.nodes tintedPosition.registry .vertex
        (tintedPosition.vertexOutputs 4) = .ok tintedPositionCode ∧
      tintedPositionCode.body.statements .vertex =
        ["let _t3: vec4<f32> = vec4<f32>(position, inner_time);",
          "out.clip_position = tinted(_t3, color);", "out.v_position = _t3;"] ∧
      ∃ store, tintedPositionCode.body.run? nestedCalls = some store ∧
        store "out.clip_position" = some "tinted(vec4<f32>(position, inner_time), color)" ∧
        store "out.v_position" = some "vec4<f32>(position, inner_time)" := by
  have of : tintedPosition.StageOutputs .vertex (tintedPosition.vertexOutputs 4) := .vertex rfl
  have generated : generateStage tintedPosition.nodes tintedPosition.registry .vertex
      (tintedPosition.vertexOutputs 4) = .ok tintedPositionCode :=
    generateStage_eq_of_generateWithin 12 (by decide +kernel)
  obtain ⟨_, _, _, runs, _⟩ := run_generateStage of generated
  obtain ⟨store, ran, computed, _⟩ := runs nestedCalls
  have position : Denotes nestedCalls tintedPosition.nodes 3 _ :=
    .combine rfl (.cons (.vertexAttribute rfl) (.cons (.engine rfl) .nil))
  have base : [some 3, some 0] = List.map some [3, 0] := rfl
  have tinted : Denotes nestedCalls tintedPosition.nodes 4 _ :=
    .call rfl base (.cons position (.cons (.uniform rfl) .nil))
  have free : clipPositionField ∉ tintedPosition.varys.keys := by decide
  obtain ⟨first, storedFirst, isFirst⟩ := computed ⟨.clipPosition, 4⟩ (by decide) fun _ => free
  obtain ⟨second, storedSecond, isSecond⟩ :=
    computed ⟨.varying "v_position", 3⟩ (by decide) fun _ => free
  refine ⟨of, generated, by decide +kernel, store, ran, ?_, ?_⟩
  · refine storedFirst.trans ?_
    rw [← (isFirst _).mp tinted]
    decide
  · refine storedSecond.trans ?_
    rw [← (isSecond _).mp position]
    decide

/-! ### A vary slot named like the field of the position -/

/-- The slot is set to another node than the position, and the fragment stage has a root that only the
vertex stage can read. -/
def overwrittenPosition : ShaderGraph :=
  (new 1 .empty).authorAll
    [.vertexAttribute "position" .vec4, .uniform "shade" (.defaultFor .vec4),
      .setVary "clip_position" ⟨1, 1⟩, .setVertexRoot ⟨1, 0⟩, .setFragmentRoot ⟨1, 0⟩]

/-- The vertex code of `overwrittenPosition`. -/
def overwrittenPositionCode : StageCode :=
  { stage := .vertex, order := [0, 1], functions := []
    body :=
      { lets := []
        assignments :=
          [⟨.clipPosition, .operand (.vertexAttribute "position")⟩,
            ⟨.varying "clip_position", .operand (.uniform "shade")⟩] } }

/-- The vertex stage is generated, and its second statement overwrites what the first has written.  No
code at all could leave both values in the one field.  What is refused is the fragment stage. -/
theorem overwrittenPosition_not_computed :
    overwrittenPosition.Reachable ∧
      overwrittenPosition.StageOutputs .vertex (overwrittenPosition.vertexOutputs 0) ∧
      generateStage overwrittenPosition.nodes overwrittenPosition.registry .vertex
        (overwrittenPosition.vertexOutputs 0) = .ok overwrittenPositionCode ∧
      overwrittenPositionCode.body.statements .vertex =
        ["out.clip_position = position;", "out.clip_position = shade;"] ∧
      (∃ store, overwrittenPositionCode.body.run? nestedCalls = some store ∧
        store "out.clip_position" = some "shade") ∧
      (¬ ∃ store, ∀ output ∈ overwrittenPosition.vertexOutputs 0,
        output.Computed nestedCalls overwrittenPosition.nodes store) ∧
      overwrittenPosition.compile = .error (.stageMismatch "attribute 'position'" .fragment) := by
  have position : overwrittenPosition.nodes.get? 0 = some (.vertexAttribute "position" .vec4) := by
    decide +kernel
  have shade : overwrittenPosition.nodes.get? 1 = some (.uniform "shade" (.defaultFor .vec4)) := by
    decide +kernel
  have outputs : overwrittenPosition.vertexOutputs 0 =
      [⟨.clipPosition, 0⟩, ⟨.varying "clip_position", 1⟩] := by decide +kernel
  refine ⟨⟨_, _, _, rfl⟩, .vertex (by decide +kernel),
    generateStage_eq_of_generateWithin 12 (by decide +kernel), by decide +kernel,
    ⟨_, rfl, by decide +kernel⟩, ?_, ?_⟩
  · rintro ⟨store, computed⟩
    rw [outputs] at computed
    obtain ⟨first, storedFirst, isFirst⟩ := computed ⟨.clipPosition, 0⟩ (by decide)
    obtain ⟨second, storedSecond, isSecond⟩ := computed ⟨.varying "clip_position", 1⟩ (by decide)
    have same : first = second := Option.some.inj (storedFirst.symm.trans storedSecond)
    rw [← (isFirst _).mp (.vertexAttribute position), ← (isSecond _).mp (.uniform shade)] at same
    exact absurd same (by decide)
  · have linked : overwrittenPosition.link =
        .error (.stageMismatch "attribute 'position'" .fragment) :=
      link_eq_of_linkWithin 12 (by decide +kernel)
    rw [compile, linked]
    rfl

end ShaderGraph

end ShaderFlow

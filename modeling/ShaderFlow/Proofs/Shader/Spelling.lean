/-
Module: ShaderFlow.Proofs.Shader.Spelling
Purpose: Names in graphs that calls lead to, and the statements that are spelled with them.
Main exports: ShaderNode.WellNamed, ShaderGraph.WellNamed, ShaderGraph.Reachable.wellNamed,
  Generated.lineFeed_not_mem_statement
-/
import ShaderFlow.Proofs.Shader.Generation
import ShaderFlow.Proofs.Shader.Masks
import ShaderFlow.Proofs.Shader.TemporaryNames

namespace ShaderFlow

/-!
Every name that a call declares is an identifier, and a mask consists of component letters.  So no
declared name, and no statement that is spelled with such names, can break out of its line.
-/

/-! ### Names of nodes -/

/-- Letters that name components. -/
def componentLetters : List Char := ['x', 'y', 'z', 'w', 'r', 'g', 'b', 'a']

/-- Everything that a node is spelled with was checked when the node was created. -/
def ShaderNode.WellNamed : ShaderNode → Prop
  | .call invocation => invocation.function.fault? = none
  | .vertexAttribute name _ | .uniform name _ | .vary name _ | .fetch name _ => isIdentifier name
  | .swizzle _ mask _ => ∀ c ∈ mask.toList, c ∈ componentLetters
  | .engine _ | .constant _ | .combine .. => True

/-- Every node of an arena is well named. -/
def ShaderNodes.AllWellNamed (nodes : ShaderNodes) : Prop :=
  ∀ index node, nodes.get? index = some node → node.WellNamed

theorem Swizzle.mem_componentLetters {source ty : ShaderType} {mask : List Char}
    (typed : resultType source mask = .ok ty) : ∀ c ∈ mask, c ∈ componentLetters := by
  have component : alphabets.all fun letters => letters.toList.all componentLetters.contains := by
    decide
  obtain ⟨⟨_, _, _, _, letters, listed, named⟩, _⟩ := resultType_eq_ok_iff.mp typed
  intro c member
  have known := List.mem_of_mem_take (names_iff.mp (named c member))
  exact List.contains_iff_mem.mp
    (List.all_eq_true.mp (List.all_eq_true.mp component letters listed) c known)

namespace ShaderGraph

variable {graph next : ShaderGraph} {call : AuthoringCall}

/-- Every node is well named, and every vary slot bears an identifier. -/
structure WellNamed (graph : ShaderGraph) : Prop where
  nodes : ShaderNodes.AllWellNamed graph.nodes
  slots : ∀ name ∈ graph.varys.keys, isIdentifier name

theorem mem_keys_of_varyType? {name : String} {ty : ShaderType}
    (typed : graph.varyType? name = some ty) : name ∈ graph.varys.keys := by
  obtain ⟨producer, found, _⟩ := Option.map_eq_some_iff.mp typed
  obtain ⟨index, slot, _⟩ := Option.bind_eq_some_iff.mp found
  obtain ⟨entry, listed, _⟩ := Option.map_eq_some_iff.mp slot
  have sameName : entry.1 = name := by simpa using List.find?_some listed
  exact sameName ▸ List.mem_map_of_mem (List.mem_of_find?_eq_some listed)

theorem WellNamed.create {node : ShaderNode} (named : graph.WellNamed)
    (creates : graph.Creates call node) : node.WellNamed := by
  cases creates with
  | vertexAttribute valid | uniform valid _ | textureFetch valid _ _ => exact valid
  | engineUniform | constant | combine => trivial
  | swizzle held typed =>
      intro c member
      rw [String.toList_ofList] at member
      exact Swizzle.mem_componentLetters typed c member
  | call registered => exact graph.registry.sound _ (FunctionRegistry.mem_of_get? registered)
  | vary typed => exact named.slots _ (mem_keys_of_varyType? typed)

theorem WellNamed.author (named : graph.WellNamed) (authors : graph.Authors call next) :
    next.WellNamed where
  nodes := by
    intro index node held
    rcases authors.node_cases held with before | ⟨_, creates⟩ |
      ⟨invocation, changed, before, rfl, same⟩
    · exact named.nodes index node before
    · exact named.create creates
    · have earlier : invocation.function.fault? = none := named.nodes index _ before
      exact (congrArg ShaderFunction.fault? same).trans earlier
  slots := by
    cases authors with
    | @varySlot name node _ valid _ _ =>
        intro other member
        rw [OrderedMap.keys_insert] at member
        split at member
        · exact named.slots other member
        · rcases List.mem_append.mp member with earlier | last
          · exact named.slots other earlier
          · rw [List.mem_singleton.mp last]
            exact valid
    | reset => simp [ShaderGraph.reset, OrderedMap.keys, OrderedMap.empty]
    | create | bind | label | unlabelled | vertexRoot | fragmentRoot | options =>
        exact named.slots

theorem Reachable.wellNamed (reachable : graph.Reachable) : graph.WellNamed :=
  reachable.invariant WellNamed
    (fun _ _ => ⟨fun _ _ held => (by cases held), by
      simp [ShaderGraph.new, OrderedMap.keys, OrderedMap.empty]⟩)
    fun _ _ _ named authors => named.author authors

end ShaderGraph

/-! ### Spelling of values -/

namespace Scalar

theorem lineFeed_not_mem_positional (x : ShortDecimal) : '\n' ∉ positional x := by
  have digits : '\n' ∉ decimalDigits x.digits := not_mem_toDigits (by decide)
  unfold positional
  dsimp only
  split
  · simp [digits]
  · split
    · simp only [List.mem_append, List.mem_cons, not_or]
      exact ⟨fun inside => digits (List.mem_of_mem_take inside), by decide,
        fun inside => digits (List.mem_of_mem_drop inside)⟩
    · simp [digits]

theorem lineFeed_not_mem_scientific {mark : Char} (x : ShortDecimal) (ordinary : mark ≠ '\n') :
    '\n' ∉ scientific mark x := by
  have digits : ∀ n, '\n' ∉ decimalDigits n := fun n => not_mem_toDigits (by decide)
  have significand := digits x.digits
  unfold scientific
  split
  · simp
  · next first rest spelled =>
      rw [spelled, List.mem_cons, not_or] at significand
      dsimp only
      split <;> split <;> simp_all [Ne.symm ordinary]

theorem lineFeed_not_mem_text (x : Scalar) : '\n' ∉ x.text.toList := by
  have body : '\n' ∉ magnitudeText layout x := by
    unfold magnitudeText
    split
    · decide
    · split
      · decide
      · split
        · exact lineFeed_not_mem_positional _
        · exact lineFeed_not_mem_scientific _ (by decide)
  unfold text
  split
  · decide
  · dsimp only
    rw [String.toList_ofList]
    split
    · simp [body]
    · exact body

end Scalar

theorem ShaderValue.lineFeed_not_mem_wgsl (value : ShaderValue) : '\n' ∉ value.wgsl.toList := by
  have scalars : '\n' ∉ (scalarList value.scalars).toList := by
    apply not_mem_intercalate (by decide)
    intro text member
    obtain ⟨x, _, rfl⟩ := List.mem_map.mp member
    exact Scalar.lineFeed_not_mem_text x
  unfold wgsl
  split
  · exact scalars
  · have ty : '\n' ∉ value.ty.wgsl.toList := ShaderType.lineFeed_not_mem_wgsl _
    simp [scalars, ty]

/-! ### Spelling of statements -/

namespace ShaderNodes

variable {nodes : ShaderNodes} {direct bound : List NodeIndex} {owner : String}
  {index : NodeIndex} {node : ShaderNode} {operand : Operand} {expression : Expression}
  {stage : Stage}

theorem lineFeed_not_mem_variableName : '\n' ∉ (node.variableName index).toList := by
  intro member
  have nameChar := ShaderNode.isNameChar_of_mem_variableName member
  revert nameChar
  decide

theorem lineFeed_not_mem_operand (named : nodes.AllWellNamed)
    (referred : nodes.operandFor bound owner index = .ok operand) :
    '\n' ∉ operand.text.toList := by
  unfold operandFor at referred
  split at referred
  · cases referred
  · next held =>
      cases referred
      exact lineFeed_not_mem_of_isIdentifier (named _ _ held)
  · next held =>
      cases referred
      exact lineFeed_not_mem_of_isIdentifier (named _ _ held)
  · next quantity _ =>
      cases referred
      cases quantity <;> decide
  · next held =>
      cases referred
      exact lineFeed_not_mem_of_isIdentifier (named _ _ held)
  · next value _ =>
      cases referred
      exact value.lineFeed_not_mem_wgsl
  · split at referred
    · cases referred
      exact lineFeed_not_mem_variableName
    · cases referred

theorem lineFeed_not_mem_operandList (named : nodes.AllWellNamed) {indices : List NodeIndex}
    {operands : List Operand}
    (referred : indices.mapM (nodes.operandFor bound owner) = .ok operands) :
    '\n' ∉ (operandList operands).toList := by
  apply not_mem_intercalate (by decide)
  intro text member
  obtain ⟨operand, listed, rfl⟩ := List.mem_map.mp member
  obtain ⟨index, _, referredHere⟩ :=
    exists_of_mem_results (mapM_eq_ok_iff.mp referred) listed
  exact lineFeed_not_mem_operand named referredHere

theorem lineFeed_not_mem_expression (named : nodes.AllWellNamed)
    (held : nodes.get? index = some node)
    (expressed : nodes.expressionFor bound index node = .ok expression) :
    '\n' ∉ (expression.text stage).toList := by
  have wellNamed := named index node held
  unfold expressionFor at expressed
  cases node with
  | call invocation =>
      simp only at expressed
      split at expressed
      · cases expressed
      · obtain ⟨operands, referred, done⟩ := bind_eq_ok_iff.mp expressed
        cases done
        have name : '\n' ∉ invocation.function.name.toList :=
          lineFeed_not_mem_of_isIdentifier (ShaderFunction.fault?_eq_none_iff.mp wellNamed).1
        have operands := lineFeed_not_mem_operandList named referred
        unfold Expression.text
        simp only [not_mem_append, toList_toString, name, operands, not_false_eq_true, true_and,
          and_true]
        decide
  | fetch texture coordinate =>
      obtain ⟨operand, referred, done⟩ := bind_eq_ok_iff.mp expressed
      cases done
      have name : '\n' ∉ texture.toList := lineFeed_not_mem_of_isIdentifier wellNamed
      have operand := lineFeed_not_mem_operand named referred
      unfold Expression.text samplerName
      cases stage <;>
        simp only [not_mem_append, toList_toString, name, operand, not_false_eq_true, true_and,
          and_true] <;>
        decide
  | combine ty parts =>
      obtain ⟨operands, referred, done⟩ := bind_eq_ok_iff.mp expressed
      cases done
      have spelled : '\n' ∉ ty.wgsl.toList := ShaderType.lineFeed_not_mem_wgsl _
      have operands := lineFeed_not_mem_operandList named referred
      unfold Expression.text
      simp only [not_mem_append, toList_toString, spelled, operands, not_false_eq_true, true_and,
        and_true]
      decide
  | swizzle source mask ty =>
      obtain ⟨operand, referred, done⟩ := bind_eq_ok_iff.mp expressed
      cases done
      have letters : '\n' ∉ mask.toList := fun member =>
        absurd (wellNamed _ member) (by decide)
      have operand := lineFeed_not_mem_operand named referred
      unfold Expression.text
      simp only [not_mem_append, toList_toString, operand, letters, not_false_eq_true, true_and,
        and_true]
      decide
  | vertexAttribute | uniform | engine | vary | constant =>
      obtain ⟨operand, referred, done⟩ := bind_eq_ok_iff.mp expressed
      cases done
      exact lineFeed_not_mem_operand named referred

theorem lineFeed_not_mem_letBinding (named : nodes.AllWellNamed) {order : List NodeIndex}
    {lets : List LetBinding} (declared : nodes.letBindings direct bound order = .ok lets) :
    ∀ binding ∈ lets, '\n' ∉ (binding.text stage).toList := by
  induction order generalizing bound lets with
  | nil =>
      cases declared
      simp
  | cons index rest ih =>
      obtain ⟨node, found, inner⟩ := bind_eq_ok_iff.mp declared
      split at inner
      · exact ih inner
      · obtain ⟨value, expressed, later⟩ := bind_eq_ok_iff.mp inner
        obtain ⟨others, following, done⟩ := bind_eq_ok_iff.mp later
        cases done
        intro binding member
        rcases List.mem_cons.mp member with rfl | deeper
        · have right : '\n' ∉ (value.text stage).toList :=
            lineFeed_not_mem_expression named (nodeAt_eq_ok_iff.mp found) expressed
          have ty : '\n' ∉ node.ty.wgsl.toList := ShaderType.lineFeed_not_mem_wgsl _
          have name : '\n' ∉ (node.variableName index).toList := lineFeed_not_mem_variableName
          simp only [LetBinding.text, not_mem_append, toList_toString, name, ty, right,
            not_false_eq_true, and_true]
          decide
        · exact ih following binding deeper

theorem lineFeed_not_mem_assignment (named : nodes.AllWellNamed) {output : StageOutput}
    {assignment : Assignment} (target : '\n' ∉ output.target.text.toList)
    (assigned : nodes.assignmentFor direct bound output = .ok assignment) :
    '\n' ∉ (assignment.text stage).toList := by
  obtain ⟨node, found, inner⟩ := bind_eq_ok_iff.mp assigned
  split at inner
  · obtain ⟨value, expressed, done⟩ := bind_eq_ok_iff.mp inner
    cases done
    have right : '\n' ∉ (value.text stage).toList :=
      lineFeed_not_mem_expression named (nodeAt_eq_ok_iff.mp found) expressed
    simp only [Assignment.text, not_mem_append, toList_toString, target, right, not_false_eq_true,
      true_and, and_true]
    decide
  · obtain ⟨operand, referred, done⟩ := bind_eq_ok_iff.mp inner
    cases done
    have right : '\n' ∉ ((Expression.operand operand).text stage).toList :=
      lineFeed_not_mem_operand named referred
    simp only [Assignment.text, not_mem_append, toList_toString, target, right, not_false_eq_true,
      true_and, and_true]
    decide

end ShaderNodes

/-- Every statement of a stage stands on a line of its own. -/
theorem Generated.lineFeed_not_mem_statement {nodes : ShaderNodes} {registry : FunctionRegistry}
    {stage : Stage} {outputs : List StageOutput} {direct : List NodeIndex} {code : StageCode}
    (generated : Generated nodes registry stage outputs direct code) (named : nodes.AllWellNamed)
    (targets : ∀ output ∈ outputs, '\n' ∉ output.target.text.toList) :
    ∀ statement ∈ code.body.statements stage, '\n' ∉ statement.toList := by
  intro statement member
  rcases List.mem_append.mp member with isLet | isAssignment
  · obtain ⟨binding, listed, rfl⟩ := List.mem_map.mp isLet
    exact ShaderNodes.lineFeed_not_mem_letBinding named generated.declared binding listed
  · obtain ⟨assignment, listed, rfl⟩ := List.mem_map.mp isAssignment
    obtain ⟨output, given, assigned⟩ :=
      exists_of_mem_results (mapM_eq_ok_iff.mp generated.assigned) listed
    exact ShaderNodes.lineFeed_not_mem_assignment named (targets output given) assigned

end ShaderFlow

/-
Module: ShaderFlow.Proofs.Shader.FreshNames
Purpose: The names of temporaries are fresh: apart from each other and from all other names of a module.
Main exports: Program.declaredNames, Linked.not_underscored_of_mem_declaredNames,
  ShaderNode.variableName_fresh
-/
import ShaderFlow.Proofs.Shader.NameResolution

namespace ShaderFlow

/-!
Many labels are sanitized to one text, and this text may look like the end of another name: with the
label `a_1` node 2 is named `_a_1_2`, and with the label `a` node 12 is named `_a_12`.  But the slot of a
node is what stands behind the last underscore, or behind the letter if there is no label, so names of
different nodes differ whatever their labels are.

No other name starts with an underscore.  Declared names are identifiers, which start with a letter, and
the names that are generated for samplers, for engine uniforms and for the output of a stage are
identifiers or continue one.
-/

namespace Program

/-- Every name that a module declares for something else than a temporary: at module scope, for the
entry point with its parameters and the variable that it returns, for the fields of the struct, and for
the parameters of functions. -/
def declaredNames (program : Program) (stage : Stage) : List String :=
  (program.globals stage).names ++ program.entryName stage ::
    ((program.parameters stage).names ++ program.outputName stage ::
      clipPositionField :: (program.varyings.map VaryingSlot.name ++
        (program.code stage).functions.flatMap fun function =>
          function.inputs.map Parameter.name))

end Program

namespace Linked

variable {graph : ShaderGraph} {vertexRoot fragmentRoot : NodeIndex} {resources : Resources}
  {names : ModuleNames} {program : Program} {stage : Stage} {name : String}

theorem not_underscored_of_mem_declaredNames
    (linked : Linked graph vertexRoot fragmentRoot resources names program)
    (spelled : program.Spelled) (member : name ∈ program.declaredNames stage) :
    ¬ Underscored name := by
  have entry : isIdentifier (program.entryName stage) := by
    cases stage with
    | vertex => exact spelled.vertexEntry
    | fragment => exact spelled.fragmentEntry
  have functions : ∀ function ∈ (program.code stage).functions, function.fault? = none := by
    cases stage with
    | vertex => exact spelled.vertexFunctions
    | fragment => exact spelled.fragmentFunctions
  simp only [Program.declaredNames, List.mem_append, List.mem_cons, List.mem_map, List.mem_flatMap]
    at member
  rcases member with isGlobal | rfl | isParameter | rfl | rfl | ⟨slot, listed, rfl⟩ |
    ⟨function, listed, input, inside, rfl⟩
  · exact (linked.globals_known spelled isGlobal).2
  · exact not_underscored_of_isIdentifier entry
  · obtain ⟨_, parameters⟩ := linked.parameters_apart spelled stage
    exact not_underscored_of_isIdentifier (parameters name isParameter).1
  · exact not_underscored_of_isIdentifier (linked.isIdentifier_outputName stage)
  · unfold Underscored
    decide
  · exact not_underscored_of_isIdentifier (spelled.varyings slot listed)
  · have faultless := ShaderFunction.fault?_eq_none_iff.mp (functions function listed)
    exact not_underscored_of_isIdentifier (faultless.2.1 input inside)

/-- Words that are reserved or predeclared do not start like temporaries. -/
theorem not_underscored_of_mem_reserved {word : String}
    (reserved : word ∈ reservedWords ++ predeclaredNames) : ¬ Underscored word := by
  have plain : (reservedWords ++ predeclaredNames).all
      fun word => word.toList.head? != some '_' := by decide +kernel
  simpa [Underscored] using List.all_eq_true.mp plain word reserved

end Linked

namespace ShaderNode

/-- Temporary names are fresh.  Nodes of different slots have different names, whatever they are
labelled.  Every name is one underscore, a letter, and further letters, digits and underscores; it is
not an identifier and not a word of WGSL.  In a program linked from a graph that calls lead to, nothing
else in its modules bears such a name. -/
theorem variableName_fresh :
    (∀ (node other : ShaderNode) (index otherIndex : NodeIndex), index ≠ otherIndex →
      node.variableName index ≠ other.variableName otherIndex) ∧
    (∀ (node : ShaderNode) (index : NodeIndex),
      (∃ first rest, (node.variableName index).toList = '_' :: first :: rest ∧ first.isAlpha ∧
        ∀ c ∈ rest, isNameChar c) ∧
      isIdentifier (node.variableName index) = false ∧
      node.variableName index ∉ reservedWords ++ predeclaredNames) ∧
    ∀ (graph : ShaderGraph) (program : Program), graph.Reachable → graph.link = .ok program →
      ∀ (stage : Stage) (node : ShaderNode) (index : NodeIndex),
        node.variableName index ∉ program.declaredNames stage := by
  refine ⟨?_, ?_, ?_⟩
  · intro node other index otherIndex apart same
    exact apart (index_eq_of_variableName_eq same)
  · intro node index
    have underscored := Linked.underscored_variableName node index
    refine ⟨node.variableName_spelling index, ?_, ?_⟩
    · apply Bool.eq_false_iff.mpr
      intro named
      exact Linked.not_underscored_of_isIdentifier named underscored
    · intro reserved
      exact Linked.not_underscored_of_mem_reserved reserved underscored
  · intro graph program reachable linked stage node index member
    obtain ⟨_, _, _, _, link⟩ := ShaderGraph.linked_of_link linked
    have spelled := link.spelled reachable.wellNamed
    have underscored := Linked.underscored_variableName node index
    exact link.not_underscored_of_mem_declaredNames spelled member underscored

/-- A temporary never bears the name of the uniform that is named like an entry point. -/
theorem variableName_fresh_namesakeGraph :
    ∃ program, ShaderGraph.namesakeGraph.Reachable ∧
      ShaderGraph.namesakeGraph.link = .ok program ∧
      "vs_main" ∈ program.declaredNames .vertex ∧
      ∀ (node : ShaderNode) (index : NodeIndex), node.variableName index ≠ "vs_main" := by
  have reachable : ShaderGraph.namesakeGraph.Reachable := ⟨_, _, _, rfl⟩
  obtain ⟨program, linked, declared⟩ := map_eq_ok_iff.mp ShaderGraph.link_namesakeGraph
  have listed : "vs_main" ∈ program.globalNames program.vertex ++
      [program.descriptor.vertexEntry] := by simp [declared]
  have member : "vs_main" ∈ program.declaredNames .vertex := by
    rw [Program.declaredNames, Program.names_globals]
    rcases List.mem_append.mp listed with isGlobal | isEntry
    · exact List.mem_append_left _ isGlobal
    · rw [List.mem_singleton.mp isEntry]
      exact List.mem_append_right _ List.mem_cons_self
  refine ⟨program, reachable, linked, member, ?_⟩
  intro node index same
  exact variableName_fresh.2.2 _ program reachable linked .vertex node index (same ▸ member)

/-- Signs at the ends of a label are dropped, and a digit in front gets a letter. -/
example : sanitizeLabel "9 lives!".toList = "n9_lives".toList := by decide

end ShaderNode

end ShaderFlow

/-
Module: ShaderFlow.Proofs.Shader.Compilable
Purpose: Which graphs compile up to their names, and which errors compiling can end with.
Main exports: ShaderError.OfLinking, linkProgram_error, ShaderGraph.CompileFault,
  ShaderGraph.Reachable.compileFault, ShaderGraph.compile_exact
-/
import ShaderFlow.Proofs.Shader.BoundedLink
import ShaderFlow.Proofs.Shader.Generable

namespace ShaderFlow

/-!
Compiling fails for want of a root, in the generation of a stage, or in linking.  Authoring keeps
every slot of the graph filled, so linking only ever complains about names.
-/

/-! ### Errors of linking -/

/-- A complaint about a name. -/
def ShaderError.OfLinking : ShaderError → Prop
  | .invalidIdentifier name => isIdentifier name = false
  | .conflictingDeclaration .. => True
  | _ => False

variable {names : ModuleNames} {name : String} {kind : DeclarationKind} {error : ShaderError}

theorem checkIdentifier_error (failed : ShaderGraph.checkIdentifier name = .error error) :
    error.OfLinking := by
  unfold ShaderGraph.checkIdentifier at failed
  split at failed
  · cases failed
  · next invalid =>
      cases failed
      exact Bool.eq_false_iff.mpr invalid

namespace ModuleNames

theorem declare_error (failed : names.declare name kind = .error error) : error.OfLinking := by
  unfold declare at failed
  split at failed
  · split at failed
    · cases failed
    · cases failed
      trivial
  · cases failed

theorem checkLocal_error (failed : names.checkLocal name kind = .error error) :
    error.OfLinking := by
  unfold checkLocal at failed
  split at failed
  · cases failed
    trivial
  · cases failed

end ModuleNames

theorem Resources.addNode_error {resources : Resources} {node : ShaderNode}
    (failed : resources.addNode node = .error error) : error.OfLinking := by
  have uniform : ∀ name default engine, resources.addUniform name default engine = .error error →
      error.OfLinking := by
    intro name default engine failed
    rcases bind_eq_error_iff.mp failed with declared | ⟨_, _, inner⟩
    · exact ModuleNames.declare_error declared
    · split at inner <;> cases inner
  cases node with
  | uniform | engine =>
      unfold addNode at failed
      exact uniform _ _ _ failed
  | fetch =>
      rcases bind_eq_error_iff.mp failed with declared | ⟨_, _, inner⟩
      · exact ModuleNames.declare_error declared
      · rcases bind_eq_error_iff.mp inner with declared | ⟨_, _, inner⟩
        · exact ModuleNames.declare_error declared
        · split at inner <;> cases inner
  | call | vertexAttribute | vary | constant | combine | swizzle => cases failed

theorem addAttribute_error {attributes : List AttributeSlot} {node : ShaderNode}
    (failed : addAttribute names attributes node = .error error) : error.OfLinking := by
  unfold addAttribute at failed
  split at failed
  · split at failed
    · split at failed
      · cases failed
      · cases failed
        trivial
    · rcases bind_eq_error_iff.mp failed with checked | ⟨_, _, inner⟩
      · exact ModuleNames.checkLocal_error checked
      · split at inner
        · cases inner
          trivial
        · cases inner
  · cases failed

/-- The varying of a slot whose node is in the arena can only be refused for its name. -/
theorem addVarying_error {nodes : ShaderNodes} {fragmentOutput : String}
    {varyings : List VaryingSlot} {slot : String × NodeIndex} {producer : ShaderNode}
    (held : nodes.get? slot.2 = some producer)
    (failed : addVarying nodes names fragmentOutput varyings slot = .error error) :
    error.OfLinking := by
  unfold addVarying at failed
  rcases bind_eq_error_iff.mp failed with checked | ⟨_, _, inner⟩
  · exact ModuleNames.checkLocal_error checked
  · dsimp only at inner
    split at inner
    · cases inner
      trivial
    · rw [held] at inner
      cases inner

/-- Linking only complains about names, if the nodes of all slots are in the arena. -/
theorem linkProgram_error {nodes : ShaderNodes} {options : EntryNames}
    {varys : OrderedMap String NodeIndex} {vertex fragment : StageCode}
    (filled : ∀ slot ∈ varys.entries, ∃ producer, nodes.get? slot.2 = some producer)
    (failed : linkProgram nodes options varys vertex fragment = .error error) :
    error.OfLinking := by
  unfold linkProgram at failed
  rcases bind_eq_error_iff.mp failed with named | ⟨_, _, failed⟩
  · exact checkIdentifier_error named
  rcases bind_eq_error_iff.mp failed with named | ⟨_, _, failed⟩
  · exact checkIdentifier_error named
  rcases bind_eq_error_iff.mp failed with named | ⟨_, _, failed⟩
  · exact checkIdentifier_error named
  rcases bind_eq_error_iff.mp failed with collected | ⟨_, _, failed⟩
  · obtain ⟨_, _, _, refused⟩ := foldlM_eq_error collected
    exact Resources.addNode_error refused
  rcases bind_eq_error_iff.mp failed with declared | ⟨_, _, failed⟩
  · obtain ⟨_, _, _, refused⟩ := foldlM_eq_error declared
    exact ModuleNames.declare_error refused
  rcases bind_eq_error_iff.mp failed with added | ⟨_, _, failed⟩
  · obtain ⟨_, _, _, refused⟩ := foldlM_eq_error added
    exact addAttribute_error refused
  rcases bind_eq_error_iff.mp failed with added | ⟨_, _, failed⟩
  · obtain ⟨_, slot, listed, refused⟩ := foldlM_eq_error added
    obtain ⟨producer, held⟩ := filled slot listed
    exact addVarying_error held refused
  rcases bind_eq_error_iff.mp failed with checked | ⟨_, _, failed⟩
  · exact ModuleNames.checkLocal_error checked
  · cases failed

namespace ShaderGraph

variable {graph : ShaderGraph} {vertexRoot fragmentRoot root : NodeIndex}

/-! ### Stages of a graph -/

/-- The nodes that the vertex stage starts from: its root, then the nodes of the slots. -/
def vertexRoots (graph : ShaderGraph) (vertexRoot : NodeIndex) : List NodeIndex :=
  vertexRoot :: graph.varys.values

@[simp] theorem nodes_vertexOutputs :
    (graph.vertexOutputs root).map StageOutput.node = graph.vertexRoots root := by
  simp [vertexOutputs, vertexRoots, OrderedMap.values, Function.comp_def]

@[simp] theorem nodes_fragmentOutputs :
    (graph.fragmentOutputs root).map StageOutput.node = [root] := rfl

theorem exists_of_contains {index : NodeIndex} (inside : graph.nodes.contains index) :
    ∃ node, graph.nodes.get? index = some node := by
  have inside : index < graph.nodes.nodes.size := of_decide_eq_true inside
  exact ⟨_, by rw [DependencyGraph.get?, Array.getElem?_eq_getElem inside]; rfl⟩

theorem Reachable.authored (reachable : graph.Reachable) {roots : List NodeIndex}
    (placed : ∀ root ∈ roots, graph.nodes.contains root) :
    Authored graph.nodes graph.registry roots where
  edges := reachable.wellFormed.edges
  closed := by
    intro index node held dependency edge
    rw [reachable.wellFormed.edges index node held] at edge
    exact exists_of_contains (reachable.wellFormed.inside index node held dependency
      (ShaderNode.mentions_of_mem_arguments edge))
  placed root listed := exists_of_contains (placed root listed)
  registered := reachable.sourced.function

theorem Reachable.slot_placed (reachable : graph.Reachable) {slot : String × NodeIndex}
    (listed : slot ∈ graph.varys.entries) : graph.nodes.contains slot.2 :=
  (reachable.wellFormed.slots slot.1 slot.2 (OrderedMap.get?_eq_some_iff.mpr listed)).1

theorem Reachable.vertexAuthored (reachable : graph.Reachable)
    (placed : graph.vertexRoot = some root) :
    Authored graph.nodes graph.registry (graph.vertexRoots root) := by
  refine reachable.authored (List.forall_mem_cons.mpr ⟨?_, ?_⟩)
  · exact (reachable.wellFormed.vertexRoot root placed).1
  · intro producer member
    obtain ⟨slot, listed, rfl⟩ := List.mem_map.mp member
    exact reachable.slot_placed listed

theorem Reachable.fragmentAuthored (reachable : graph.Reachable)
    (placed : graph.fragmentRoot = some root) : Authored graph.nodes graph.registry [root] :=
  reachable.authored
    (List.forall_mem_singleton.mpr (reachable.wellFormed.fragmentRoot root placed).1)

/-! ### Compiling -/

/-- Why a graph does not compile, and that it is the case. -/
inductive CompileFault (graph : ShaderGraph) : ShaderError → Prop where
  | missingVertexRoot (absent : graph.vertexRoot = none) : CompileFault graph (.missingRoot .vertex)
  | missingFragmentRoot (absent : graph.fragmentRoot = none) :
      CompileFault graph (.missingRoot .fragment)
  | vertex {root : NodeIndex} {error : ShaderError} (placed : graph.vertexRoot = some root)
      (refutes : ShaderNodes.Refutes graph.nodes .vertex (graph.vertexRoots root) error) :
      CompileFault graph error
  | fragment {root : NodeIndex} {error : ShaderError} (placed : graph.fragmentRoot = some root)
      (refutes : ShaderNodes.Refutes graph.nodes .fragment [root] error) : CompileFault graph error
  | linking {error : ShaderError} (naming : error.OfLinking) : CompileFault graph error

theorem Reachable.compileFault (reachable : graph.Reachable)
    (failed : graph.compile = .error error) : graph.CompileFault error := by
  have failed : graph.link = .error error := by
    rcases bind_eq_error_iff.mp failed with linked | ⟨_, _, done⟩
    · exact linked
    · cases done
  unfold link at failed
  split at failed
  · next vertexRoot vertexPlaced =>
      split at failed
      · next fragmentRoot fragmentPlaced =>
          rcases bind_eq_error_iff.mp failed with refused | ⟨_, _, failed⟩
          · have sound := generateStage_sound .vertex _
              (nodes_vertexOutputs ▸ reachable.vertexAuthored vertexPlaced)
            rw [refused, nodes_vertexOutputs] at sound
            exact .vertex vertexPlaced sound
          rcases bind_eq_error_iff.mp failed with refused | ⟨_, _, failed⟩
          · have sound := generateStage_sound .fragment
              (graph.fragmentOutputs fragmentRoot) (reachable.fragmentAuthored fragmentPlaced)
            rw [refused] at sound
            exact .fragment fragmentPlaced sound
          · refine .linking (linkProgram_error ?_ failed)
            exact fun slot listed => exists_of_contains (reachable.slot_placed listed)
      · next absent =>
          cases failed
          exact .missingFragmentRoot (Option.eq_none_iff_forall_ne_some.mpr absent)
  · next absent =>
      cases failed
      exact .missingVertexRoot (Option.eq_none_iff_forall_ne_some.mpr absent)

/-- Kinds of the errors that compiling can end with. -/
def compileErrorKinds : List String :=
  ["MissingRoot", "GraphCycle", "MissingBinding", "StageMismatch", "InvalidIdentifier",
    "ConflictingDeclaration"]

theorem CompileFault.kind_mem (fault : graph.CompileFault error) :
    error.kind ∈ compileErrorKinds := by
  have generation : ∀ stage roots, ShaderNodes.Refutes graph.nodes stage roots error →
      error.kind ∈ compileErrorKinds := by
    intro stage roots refutes
    cases error with
    | graphCycle | missingBinding | stageMismatch => simp [ShaderError.kind, compileErrorKinds]
    | _ => exact refutes.elim
  cases fault with
  | missingVertexRoot | missingFragmentRoot => simp [ShaderError.kind, compileErrorKinds]
  | vertex _ refutes | fragment _ refutes => exact generation _ _ refutes
  | linking naming =>
      cases error with
      | invalidIdentifier | conflictingDeclaration => simp [ShaderError.kind, compileErrorKinds]
      | _ => exact naming.elim

/-- Compiling is exact.  On every graph that authoring leads to, a stage is generated iff what its
roots reach has no cycle, no call with an input left open and no node foreign to the stage.  An error
of compiling says something true about the graph, and is of one of six kinds. -/
theorem compile_exact (reachable : graph.Reachable) :
    (∀ root, graph.vertexRoot = some root →
      ((∃ code, generateStage graph.nodes graph.registry .vertex (graph.vertexOutputs root) =
          .ok code) ↔
        ShaderNodes.Generable graph.nodes .vertex (root :: graph.varys.values))) ∧
    (∀ root, graph.fragmentRoot = some root →
      ((∃ code, generateStage graph.nodes graph.registry .fragment (graph.fragmentOutputs root) =
          .ok code) ↔
        ShaderNodes.Generable graph.nodes .fragment [root])) ∧
    ∀ error, graph.compile = .error error →
      graph.CompileFault error ∧ error.kind ∈ compileErrorKinds := by
  refine ⟨?_, ?_, ?_⟩
  · intro root placed
    have authored := reachable.vertexAuthored placed
    rw [← nodes_vertexOutputs] at authored
    rw [generateStage_exact authored, nodes_vertexOutputs, vertexRoots]
  · intro root placed
    exact generateStage_exact (reachable.fragmentAuthored placed)
  · intro error failed
    have fault := Reachable.compileFault reachable failed
    exact ⟨fault, fault.kind_mem⟩

/-! ### A function that is fed with its own result -/

/-- A function on colors. -/
def tint : ShaderFunction :=
  { name := "tint", returnType := .vec4, inputs := [⟨"base", .vec4⟩], body := "return base;" }

/-- The vertex root invokes a function on its own result; the fragment root is a constant. -/
def selfFed : List AuthoringCall :=
  [.call "tint", .bind ⟨1, 0⟩ "base" ⟨1, 0⟩, .constant (.vec4 .zero .zero .zero .one),
    .setVertexRoot ⟨1, 0⟩, .setFragmentRoot ⟨1, 1⟩]

/-- The graph that `selfFed` leads to. -/
def selfFedGraph : ShaderGraph :=
  (new 1 ⟨[tint], by decide, by decide +kernel⟩).authorAll selfFed

theorem compile_selfFed :
    selfFedGraph.compile = .error (.graphCycle "function 'tint' [_t0]") := by
  have linked : selfFedGraph.link = .error (.graphCycle "function 'tint' [_t0]") :=
    link_eq_of_linkWithin 9 (by decide +kernel)
  rw [compile, linked]
  rfl

/-- A constant reaches nothing but itself. -/
theorem generable_selfFed : ShaderNodes.Generable selfFedGraph.nodes .fragment [1] := by
  have alone : ∀ index, selfFedGraph.nodes.Reached [1] index → index = 1 := by
    rintro index ⟨root, listed, path⟩
    cases List.mem_singleton.mp listed
    rcases path.cases_head with same | ⟨next, edge, _⟩
    · exact same.symm
    · have none : selfFedGraph.nodes.dependencies 1 = [] := by decide +kernel
      rw [DependencyGraph.DependsOn, none] at edge
      cases edge
  have held : selfFedGraph.nodes.get? 1 = some (.constant (.vec4 .zero .zero .zero .one)) := by
    decide +kernel
  refine ⟨?_, ?_, ?_⟩
  · intro index reached cycle
    cases alone index reached
    obtain ⟨next, edge, _⟩ := Relation.TransGen.head'_iff.mp cycle
    have none : selfFedGraph.nodes.dependencies 1 = [] := by decide +kernel
    rw [DependencyGraph.DependsOn, none] at edge
    cases edge
  · intro index invocation reached called
    cases alone index reached
    cases held.symm.trans called
  · intro index node reached found
    cases alone index reached
    cases held.symm.trans found
    exact id

/-- The vertex stage is refused and the fragment stage is not. -/
theorem compile_exact_selfFed :
    selfFedGraph.Reachable ∧ selfFedGraph.vertexRoot = some 0 ∧
      selfFedGraph.fragmentRoot = some 1 ∧
      (¬ ∃ code, generateStage selfFedGraph.nodes selfFedGraph.registry .vertex
        (selfFedGraph.vertexOutputs 0) = .ok code) ∧
      (∃ code, generateStage selfFedGraph.nodes selfFedGraph.registry .fragment
        (selfFedGraph.fragmentOutputs 1) = .ok code) ∧
      selfFedGraph.CompileFault (.graphCycle "function 'tint' [_t0]") := by
  have reachable : selfFedGraph.Reachable := ⟨_, _, _, rfl⟩
  have vertexPlaced : selfFedGraph.vertexRoot = some 0 := by decide +kernel
  have fragmentPlaced : selfFedGraph.fragmentRoot = some 1 := by decide +kernel
  obtain ⟨vertex, fragment, faults⟩ := compile_exact reachable
  refine ⟨reachable, vertexPlaced, fragmentPlaced, ?_, ?_, (faults _ compile_selfFed).1⟩
  · intro generated
    have edge : (0 : NodeIndex) ∈ selfFedGraph.nodes.dependencies 0 := by decide +kernel
    exact ((vertex 0 vertexPlaced).mp generated).acyclic 0 (.root List.mem_cons_self) (.single edge)
  · exact (fragment 1 fragmentPlaced).mpr generable_selfFed

end ShaderGraph

end ShaderFlow

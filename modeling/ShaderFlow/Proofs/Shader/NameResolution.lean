/-
Module: ShaderFlow.Proofs.Shader.NameResolution
Purpose: What the names in the statements of an entry point stand for.
Main exports: Reference, ShaderNodes.PrintedFor, Declaration, Program.locals, Program.globals,
  Program.denotes, Program.DeclaredFor, Program.Resolves, ShaderGraph.resolves_of_compile
-/
import ShaderFlow.Proofs.Shader.Declarations
import ShaderFlow.Proofs.Shader.ModuleScope
import ShaderFlow.Proofs.Shader.StageMeaning
import ShaderFlow.Proofs.Shader.VaryTypes

namespace ShaderFlow

/-!
A name in a statement stands for what the innermost scope declares under it: the entry point declares
its parameters, its output variable and its temporaries, and the module everything else.  Parameters
and the fragment output are compared with the table of module scope, and temporaries are kept apart by
their underscore.  The output variable of the vertex entry point is compared with attributes only.
-/

/-! ### Names in statements -/

/-- The names in an operand; a literal has none. -/
def Operand.names : Operand → List String
  | vertexAttribute name | uniform name | vary name | temporary name => [name]
  | engine quantity => [quantity.name]
  | constant _ => []

/-- The names that an expression refers to, from left to right. -/
def Expression.names : Expression → List String
  | .operand source => source.names
  | .call function arguments => function :: arguments.flatMap Operand.names
  | .fetch texture coordinate => texture :: samplerName texture :: coordinate.names
  | .combine _ parts => parts.flatMap Operand.names
  | .swizzle source _ => source.names

/-- What a name in a statement is printed for. -/
inductive Referent where
  /-- The value of a node. -/
  | node (index : NodeIndex)
  | function (function : ShaderFunction)
  | texture (name : String)
  | sampler (texture : String)
deriving DecidableEq, Repr

/-- A name in a statement with what it is printed for. -/
structure Reference where
  name : String
  referent : Referent
deriving DecidableEq, Repr

/-- The names that a function node or a fetch is printed with, its arguments apart. -/
def ShaderNode.ownReferences : ShaderNode → List Reference
  | .call invocation => [⟨invocation.function.name, .function invocation.function⟩]
  | .fetch texture _ => [⟨texture, .texture texture⟩, ⟨samplerName texture, .sampler texture⟩]
  | .vertexAttribute .. | .uniform .. | .engine _ | .vary .. | .constant _ | .combine ..
  | .swizzle .. => []

namespace ShaderNodes

variable {nodes : ShaderNodes} {bound : List NodeIndex} {owner : String} {index : NodeIndex}

/-- The name that stands for the value of a node in a statement, if it is no literal. -/
def valueReferences (nodes : ShaderNodes) (index : NodeIndex) : List Reference :=
  match nodes.get? index with
  | none => []
  | some (.constant _) => []
  | some (.vertexAttribute name _) => [⟨name, .node index⟩]
  | some (.uniform name _) => [⟨name, .node index⟩]
  | some (.vary name _) => [⟨name, .node index⟩]
  | some (.engine quantity) => [⟨quantity.name, .node index⟩]
  | some node => [⟨node.variableName index, .node index⟩]

/-- The names that an operation is printed with, those of its arguments among them. -/
def operationReferences (nodes : ShaderNodes) (node : ShaderNode) : List Reference :=
  node.ownReferences ++ node.arguments.flatMap nodes.valueReferences

/-- What the names of an expression for a node are printed for: the expression spells out the
operation of the node, or names its value. -/
inductive PrintedFor (nodes : ShaderNodes) (index : NodeIndex) : List Reference → Prop where
  | operation {node : ShaderNode} (held : nodes.get? index = some node) :
      PrintedFor nodes index (nodes.operationReferences node)
  | value : PrintedFor nodes index (nodes.valueReferences index)

theorem names_of_operandFor {operand : Operand}
    (referred : nodes.operandFor bound owner index = .ok operand) :
    operand.names = (nodes.valueReferences index).map Reference.name := by
  unfold operandFor at referred
  unfold valueReferences
  cases held : nodes.get? index with
  | none =>
      rw [held] at referred
      cases referred
  | some node =>
      rw [held] at referred
      cases node with
      | vertexAttribute | uniform | engine | vary | constant =>
          cases referred
          rfl
      | call | fetch | combine | swizzle =>
          dsimp only at referred
          split at referred
          · cases referred
            rfl
          · cases referred

theorem names_of_operands {indices : List NodeIndex} {operands : List Operand}
    (referred : indices.mapM (nodes.operandFor bound owner) = .ok operands) :
    operands.flatMap Operand.names =
      (indices.flatMap nodes.valueReferences).map Reference.name := by
  have each := mapM_eq_ok_iff.mp referred
  clear referred
  induction each with
  | nil => rfl
  | cons here _ ih =>
      rw [List.flatMap_cons, List.flatMap_cons, List.map_append, names_of_operandFor here, ih]

/-- The expression of an operation spells out the names of the operation. -/
theorem names_of_expressionFor {node : ShaderNode} {expression : Expression}
    (operation : node.isLeaf = false)
    (expressed : nodes.expressionFor bound index node = .ok expression) :
    expression.names = (nodes.operationReferences node).map Reference.name := by
  unfold expressionFor at expressed
  unfold operationReferences
  cases node with
  | call invocation =>
      simp only at expressed
      split at expressed
      · cases expressed
      · obtain ⟨operands, referred, same⟩ := bind_eq_ok_iff.mp expressed
        cases same
        exact congrArg (invocation.function.name :: ·) (names_of_operands referred)
  | fetch texture coordinate =>
      obtain ⟨operand, referred, same⟩ := bind_eq_ok_iff.mp expressed
      cases same
      simp [Expression.names, ShaderNode.ownReferences, ShaderNode.arguments,
        names_of_operandFor referred]
  | combine ty parts =>
      obtain ⟨operands, referred, same⟩ := bind_eq_ok_iff.mp expressed
      cases same
      exact names_of_operands referred
  | swizzle source mask ty =>
      obtain ⟨operand, referred, same⟩ := bind_eq_ok_iff.mp expressed
      cases same
      simp [Expression.names, ShaderNode.ownReferences, ShaderNode.arguments,
        names_of_operandFor referred]
  | vertexAttribute | uniform | engine | vary | constant => cases operation

/-- The expression of a leaf is its name or its literal. -/
theorem exists_operand_of_isLeaf {node : ShaderNode} {expression : Expression} (leaf : node.isLeaf)
    (expressed : nodes.expressionFor bound index node = .ok expression) :
    ∃ owner operand, nodes.operandFor bound owner index = .ok operand ∧
      expression = .operand operand := by
  unfold expressionFor at expressed
  cases node with
  | vertexAttribute | uniform | engine | vary | constant =>
      obtain ⟨operand, referred, same⟩ := bind_eq_ok_iff.mp expressed
      cases same
      exact ⟨_, operand, referred, rfl⟩
  | call | fetch | combine | swizzle => cases leaf

/-- All arguments of an operation are referred to in its expression. -/
theorem exists_operand {node : ShaderNode} {expression : Expression} (operation : node.isLeaf = false)
    (expressed : nodes.expressionFor bound index node = .ok expression) :
    ∀ argument ∈ node.arguments, ∃ owner operand,
      nodes.operandFor bound owner argument = .ok operand := by
  unfold expressionFor at expressed
  intro argument member
  cases node with
  | call invocation =>
      simp only at expressed
      split at expressed
      · cases expressed
      · obtain ⟨operands, referred, _⟩ := bind_eq_ok_iff.mp expressed
        obtain ⟨operand, _, this⟩ := exists_of_mem_items (mapM_eq_ok_iff.mp referred) member
        exact ⟨_, operand, this⟩
  | combine ty parts =>
      obtain ⟨operands, referred, _⟩ := bind_eq_ok_iff.mp expressed
      obtain ⟨operand, _, this⟩ := exists_of_mem_items (mapM_eq_ok_iff.mp referred) member
      exact ⟨_, operand, this⟩
  | fetch | swizzle =>
      obtain ⟨operand, referred, _⟩ := bind_eq_ok_iff.mp expressed
      rw [List.mem_singleton.mp member]
      exact ⟨_, operand, referred⟩
  | vertexAttribute | uniform | engine | vary | constant => cases operation

end ShaderNodes

/-! ### Scopes -/

/-- What an entry point or a module declares a name as. -/
inductive Declaration where
  | vertexAttribute (slot : AttributeSlot)
  | varying (slot : VaryingSlot)
  /-- The variable that an entry point returns. -/
  | output
  | temporary (binding : LetBinding)
  | outputStruct
  | uniform (slot : UniformSlot)
  | texture (slot : TextureSlot)
  | sampler (slot : TextureSlot)
  | function (function : ShaderFunction)
  | entryPoint
deriving DecidableEq, Repr

/-- Whether a declaration stands outside of the entry point. -/
def Declaration.isGlobal : Declaration → Bool
  | vertexAttribute _ | varying _ | output | temporary _ => false
  | outputStruct | uniform _ | texture _ | sampler _ | function _ | entryPoint => true

/-- The declarations of one scope. -/
abbrev Scope := List (String × Declaration)

namespace Scope

variable {scope later : Scope} {name : String} {declaration : Declaration}

def names (scope : Scope) : List String := scope.map Prod.fst

/-- What a scope declares under a name; a proper scope declares a name once. -/
def find (scope : Scope) (name : String) : List Declaration :=
  (scope.filter fun entry => entry.1 = name).map Prod.snd

theorem find_append : Scope.find (scope ++ later) name = scope.find name ++ later.find name := by
  simp [find]

theorem mem_find_iff : declaration ∈ scope.find name ↔ (name, declaration) ∈ scope := by
  simp [find]

theorem find_eq_nil (absent : name ∉ scope.names) : scope.find name = [] := by
  rw [List.eq_nil_iff_forall_not_mem]
  intro declaration member
  exact absent (List.mem_map_of_mem (mem_find_iff.mp member))

theorem find_eq_singleton (distinct : scope.names.Nodup) (member : (name, declaration) ∈ scope) :
    scope.find name = [declaration] := by
  induction scope with
  | nil => cases member
  | cons entry rest ih =>
      obtain ⟨fresh, distinct⟩ := List.nodup_cons.mp distinct
      rcases List.mem_cons.mp member with rfl | later
      · have others : Scope.find rest name = [] := find_eq_nil fresh
        unfold find at others ⊢
        rw [List.filter_cons_of_pos (by simp), List.map_cons, others]
      · have unlike : entry.1 ≠ name := by
          rintro rfl
          exact fresh (List.mem_map.mpr ⟨_, later, rfl⟩)
        have others := ih distinct later
        unfold find at others ⊢
        rw [List.filter_cons_of_neg (by simpa using unlike), others]

end Scope

namespace Program

/-- The code of a stage. -/
def code (program : Program) : Stage → StageCode
  | .vertex => program.vertex
  | .fragment => program.fragment

/-- The name of an entry point. -/
def entryName (program : Program) : Stage → String
  | .vertex => program.options.vertexEntry
  | .fragment => program.options.fragmentEntry

/-- The parameters of an entry point. -/
def parameters (program : Program) : Stage → Scope
  | .vertex => program.attributes.map fun slot => (slot.name, .vertexAttribute slot)
  | .fragment => program.varyings.map fun slot => (slot.name, .varying slot)

/-- The variable that an entry point returns. -/
def outputName (program : Program) : Stage → String
  | .vertex => vertexOutputVariable
  | .fragment => program.options.fragmentOutput

/-- The scope of an entry point: its parameters, its output variable and its temporaries. -/
def locals (program : Program) (stage : Stage) : Scope :=
  program.parameters stage ++ (program.outputName stage, .output) ::
    (program.code stage).body.lets.map fun binding => (binding.name, .temporary binding)

/-- The scope of a module, the entry point apart. -/
def globals (program : Program) (stage : Stage) : Scope :=
  (vertexOutputStruct, .outputStruct) ::
    (program.uniforms.map (fun slot => (slot.name, .uniform slot)) ++
      (program.textures.flatMap (fun slot =>
          [(slot.name, .texture slot), (samplerName slot.name, .sampler slot)]) ++
        (program.code stage).functions.map fun function => (function.name, .function function)))

/-- What a name in an entry point stands for: what the entry point declares under it, or else what
the module does. -/
def denotes (program : Program) (stage : Stage) (name : String) : List Declaration :=
  if name ∈ (program.locals stage).names then (program.locals stage).find name
  else Scope.find (program.globals stage ++ [(program.entryName stage, .entryPoint)]) name

/-- The declaration of what a name is printed for. -/
def DeclaredFor (program : Program) (nodes : ShaderNodes) (stage : Stage) :
    Referent → Declaration → Prop
  | .node index, .vertexAttribute slot =>
      slot ∈ program.attributes ∧ nodes.get? index = some (.vertexAttribute slot.name slot.ty)
  | .node index, .varying slot =>
      slot ∈ program.varyings ∧ ∃ ty, nodes.get? index = some (.vary slot.name ty)
  | .node index, .temporary binding =>
      binding ∈ (program.code stage).body.lets ∧ ∃ node, nodes.get? index = some node ∧
        node.isLeaf = false ∧ binding.name = node.variableName index ∧ binding.ty = node.ty
  | .node index, .uniform slot =>
      slot ∈ program.uniforms ∧
        ((∃ default, nodes.get? index = some (.uniform slot.name default) ∧
            slot.ty = default.ty ∧ slot.engine = none) ∨
          ∃ quantity, nodes.get? index = some (.engine quantity) ∧ slot.name = quantity.name ∧
            slot.ty = quantity.ty ∧ slot.engine = some quantity)
  | .function function, .function found =>
      found = function ∧ function ∈ (program.code stage).functions
  | .texture name, .texture slot => slot ∈ program.textures ∧ slot.name = name
  | .sampler texture, .sampler slot => slot ∈ program.textures ∧ slot.name = texture
  | _, _ => False

/-- Every name of an expression for a node has the declaration that it is printed for.  It stands for
this declaration, and for nothing else, exactly if it is local, or is neither the output variable of
the vertex entry point nor the name of the entry point. -/
def Resolves (program : Program) (nodes : ShaderNodes) (stage : Stage) (index : NodeIndex)
    (expression : Expression) : Prop :=
  ∃ references, nodes.PrintedFor index references ∧
    expression.names = references.map Reference.name ∧
    ∀ reference ∈ references, ∃ declaration,
      program.DeclaredFor nodes stage reference.referent declaration ∧
      (program.denotes stage reference.name = [declaration] ↔
        (declaration.isGlobal → reference.name ≠ program.entryName stage ∧
          ¬ (stage = .vertex ∧ reference.name = vertexOutputVariable)))

/-- A declaration is in its scope. -/
def Places (program : Program) (stage : Stage) (name : String) (declaration : Declaration) : Prop :=
  if declaration.isGlobal then (name, declaration) ∈ program.globals stage
  else (name, declaration) ∈ program.locals stage

theorem names_locals (program : Program) (stage : Stage) :
    (program.locals stage).names = (program.parameters stage).names ++ program.outputName stage ::
      (program.code stage).body.lets.map LetBinding.name := by
  simp [locals, Scope.names, Function.comp_def]

theorem names_globals (program : Program) (stage : Stage) :
    (program.globals stage).names = program.globalNames (program.code stage) := by
  simp [globals, globalNames, Scope.names, List.map_flatMap, Function.comp_def]

theorem not_isGlobal_of_mem_locals {program : Program} {stage : Stage} {name : String}
    {declaration : Declaration} (member : (name, declaration) ∈ program.locals stage) :
    declaration.isGlobal = false := by
  unfold locals parameters at member
  cases stage <;> simp only [List.mem_append, List.mem_cons, List.mem_map, Prod.mk.injEq] at member
  all_goals
    rcases member with ⟨_, _, _, rfl⟩ | ⟨_, rfl⟩ | ⟨_, _, _, rfl⟩
    all_goals rfl

theorem denotes_of_mem_locals {program : Program} {stage : Stage} {name : String}
    {declaration : Declaration} (distinct : (program.locals stage).names.Nodup)
    (placed : (name, declaration) ∈ program.locals stage) :
    program.denotes stage name = [declaration] := by
  have inside : name ∈ (program.locals stage).names := List.mem_map_of_mem placed
  unfold denotes
  rw [if_pos inside, Scope.find_eq_singleton distinct placed]

/-- What a declared name stands for. -/
theorem denotes_eq_singleton_iff {program : Program} {stage : Stage} {name : String}
    {declaration : Declaration} (localsDistinct : (program.locals stage).names.Nodup)
    (globalsDistinct : (program.globals stage).names.Nodup)
    (shadowed : name ∈ (program.globals stage).names →
      (name ∈ (program.locals stage).names ↔ stage = .vertex ∧ name = vertexOutputVariable))
    (placed : program.Places stage name declaration) :
    program.denotes stage name = [declaration] ↔
      (declaration.isGlobal → name ≠ program.entryName stage ∧
        ¬ (stage = .vertex ∧ name = vertexOutputVariable)) := by
  unfold Places at placed
  split at placed
  · next isGlobal =>
      have known := shadowed (List.mem_map_of_mem placed)
      unfold denotes
      split
      · next inside =>
          have captured := known.mp inside
          constructor
          · intro found
            have member := Scope.mem_find_iff.mp (found ▸ List.mem_singleton_self declaration)
            rw [not_isGlobal_of_mem_locals member] at isGlobal
            cases isGlobal
          · intro free
            exact absurd captured (free isGlobal).2
      · next outside =>
          rw [Scope.find_append, Scope.find_eq_singleton globalsDistinct placed]
          have free : ¬ (stage = .vertex ∧ name = vertexOutputVariable) := fun captured =>
            outside (known.mpr captured)
          by_cases same : program.entryName stage = name
          · simp [Scope.find, same, isGlobal]
          · simp [Scope.find, same, isGlobal, free, Ne.symm same]
  · next isLocal =>
      exact ⟨fun _ isGlobal => absurd isGlobal isLocal,
        fun _ => denotes_of_mem_locals localsDistinct placed⟩

end Program

/-! ### Scopes of a linked program -/

namespace Linked

variable {graph : ShaderGraph} {vertexRoot fragmentRoot : NodeIndex} {resources : Resources}
  {names : ModuleNames} {program : Program} {stage : Stage} {name : String}

theorem generated (linked : Linked graph vertexRoot fragmentRoot resources names program)
    (stage : Stage) : ∃ outputs direct, graph.StageOutputs stage outputs ∧
      Generated graph.nodes graph.registry stage outputs direct (program.code stage) := by
  cases stage with
  | vertex =>
      obtain ⟨direct, pieces⟩ := generated_of_generateStage linked.vertexGenerated
      exact ⟨_, direct, .vertex linked.vertexPlaced, pieces⟩
  | fragment =>
      obtain ⟨direct, pieces⟩ := generated_of_generateStage linked.fragmentGenerated
      exact ⟨_, direct, .fragment linked.fragmentPlaced, pieces⟩

theorem code_declares_function (linked : Linked graph vertexRoot fragmentRoot resources names program)
    {function : ShaderFunction} (member : function ∈ (program.code stage).functions) :
    names.get? function.name = some .function := by
  cases stage with
  | vertex => exact linked.declares_function (.inl member)
  | fragment => exact linked.declares_function (.inr member)

/-- Names that start like those of temporaries. -/
def Underscored (name : String) : Prop := name.toList.head? = some '_'

theorem not_underscored_of_isIdentifier (named : isIdentifier name) : ¬ Underscored name := by
  intro underscored
  obtain ⟨rest, spelled⟩ := List.head?_eq_some_iff.mp underscored
  have same : name = String.ofList ('_' :: rest) := by rw [← spelled, String.ofList_toList]
  rw [same, isIdentifier_underscore] at named
  cases named

theorem underscored_variableName (node : ShaderNode) (index : NodeIndex) :
    Underscored (node.variableName index) := by
  unfold Underscored
  rcases node.variableName_eq index with spelled | ⟨label, spelled⟩ <;>
    rw [spelled, String.toList_ofList] <;> rfl

/-- Parameters are identifiers, each other than the other local names and other than all names of
module scope. -/
theorem parameters_apart (linked : Linked graph vertexRoot fragmentRoot resources names program)
    (spelled : program.Spelled) (stage : Stage) :
    (program.parameters stage).names.Nodup ∧ ∀ name ∈ (program.parameters stage).names,
      isIdentifier name ∧ names.get? name = none ∧ name ≠ program.outputName stage := by
  cases stage with
  | vertex =>
      have attributes := attributesFor_of_addAll linked.attributesAdded
      have same : (program.parameters .vertex).names = program.attributes.map AttributeSlot.name := by
        simp [Program.parameters, Scope.names, Function.comp_def]
      rw [same]
      refine ⟨attributes.distinct, ?_⟩
      intro name member
      obtain ⟨slot, listed, rfl⟩ := List.mem_map.mp member
      exact ⟨spelled.attributes slot listed, attributes.unshadowing slot listed⟩
  | fragment =>
      have same : (program.parameters .fragment).names = graph.varys.keys := by
        rw [OrderedMap.keys, ← names_of_varyings (varyings_for linked.varyingsAdded)]
        simp [Program.parameters, Scope.names, Function.comp_def]
      rw [same]
      refine ⟨graph.varys.distinct, ?_⟩
      intro name member
      have varying : name ∈ program.varyings.map VaryingSlot.name := by
        rw [names_of_varyings (varyings_for linked.varyingsAdded)]
        exact member
      obtain ⟨slot, listed, sameName⟩ := List.mem_map.mp varying
      obtain ⟨entry, found, rfl⟩ := List.mem_map.mp member
      refine ⟨sameName ▸ spelled.varyings slot listed,
        unshadowing_of_varyings linked.varyingsAdded entry found, ?_⟩
      rw [Program.outputName, linked.options_eq]
      exact (unreserved_of_varyings linked.varyingsAdded entry found).2

theorem isIdentifier_outputName
    (linked : Linked graph vertexRoot fragmentRoot resources names program) (stage : Stage) :
    isIdentifier (program.outputName stage) := by
  cases stage with
  | vertex => exact (by decide +kernel : isIdentifier vertexOutputVariable)
  | fragment =>
      rw [Program.outputName, linked.options_eq]
      exact linked.fragmentOutput_named

theorem lets_apart (linked : Linked graph vertexRoot fragmentRoot resources names program)
    (stage : Stage) :
    ((program.code stage).body.lets.map LetBinding.name).Nodup ∧
      ∀ name ∈ (program.code stage).body.lets.map LetBinding.name, Underscored name := by
  obtain ⟨outputs, direct, _, pieces⟩ := linked.generated stage
  have each := ShaderNodes.lets_for pieces.declared (by simp) fun _ member => member
  have distinct := pieces.isOrder.distinct.filter
    (fun index => !direct.contains index && (graph.nodes.get? index).any fun node => !node.isLeaf)
  refine ⟨ShaderNodes.nodup_letNames each distinct, ?_⟩
  intro name member
  obtain ⟨binding, listed, rfl⟩ := List.mem_map.mp member
  obtain ⟨index, _, node, _, _, _, named, _⟩ := exists_of_mem_results each listed
  rw [named]
  exact underscored_variableName node index

/-- The local names of an entry point are pairwise distinct. -/
theorem locals_nodup (linked : Linked graph vertexRoot fragmentRoot resources names program)
    (spelled : program.Spelled) (stage : Stage) : (program.locals stage).names.Nodup := by
  obtain ⟨parametersDistinct, parameters⟩ := linked.parameters_apart spelled stage
  obtain ⟨letsDistinct, lets⟩ := linked.lets_apart stage
  have output := not_underscored_of_isIdentifier (linked.isIdentifier_outputName stage)
  rw [Program.names_locals, List.nodup_append, List.nodup_cons]
  refine ⟨parametersDistinct, ⟨fun member => output (lets _ member), letsDistinct⟩, ?_⟩
  rintro name isParameter other member rfl
  obtain ⟨named, _, unlike⟩ := parameters name isParameter
  rcases List.mem_cons.mp member with same | isTemporary
  · exact unlike same
  · exact not_underscored_of_isIdentifier named (lets name isTemporary)

/-- An entry point writes to and returns its own output variable. -/
theorem denotes_outputName (linked : Linked graph vertexRoot fragmentRoot resources names program)
    (spelled : program.Spelled) (stage : Stage) :
    program.denotes stage (program.outputName stage) = [.output] :=
  Program.denotes_of_mem_locals (linked.locals_nodup spelled stage)
    (List.mem_append_right _ List.mem_cons_self)

theorem not_underscored_samplerName {texture : String} (named : isIdentifier texture) :
    ¬ Underscored (samplerName texture) := by
  intro underscored
  unfold Underscored samplerName at underscored
  rw [String.toList_append, List.head?_append] at underscored
  cases first : texture.toList.head? with
  | none =>
      have empty : texture = "" := String.toList_inj.mp (List.head?_eq_none_iff.mp first)
      subst empty
      exact absurd named (by decide)
  | some c =>
      rw [first, Option.some_or] at underscored
      exact not_underscored_of_isIdentifier named (first.trans underscored)

/-- The names of module scope are in the table, and unlike those of temporaries. -/
theorem globals_known (linked : Linked graph vertexRoot fragmentRoot resources names program)
    (spelled : program.Spelled) (member : name ∈ (program.globals stage).names) :
    names.get? name ≠ none ∧ ¬ Underscored name := by
  have sound := linked.sound
  rw [Program.names_globals] at member
  rcases List.mem_cons.mp member with rfl | resource
  · exact ⟨by simp [sound.struct], by unfold Underscored; decide⟩
  rcases List.mem_append.mp resource with isUniform | rest
  · obtain ⟨slot, listed, rfl⟩ := List.mem_map.mp isUniform
    refine ⟨?_, not_underscored_of_isIdentifier (spelled.uniforms slot listed)⟩
    rw [linked.uniforms_eq] at listed
    simp [sound.uniform slot listed]
  rcases List.mem_append.mp rest with isTexture | isFunction
  · obtain ⟨slot, listed, held⟩ := List.mem_flatMap.mp isTexture
    have named := spelled.textures slot listed
    rw [linked.textures_eq] at listed
    rcases List.mem_cons.mp held with rfl | last
    · exact ⟨by simp [sound.texture slot listed], not_underscored_of_isIdentifier named⟩
    · rw [List.mem_singleton.mp last]
      exact ⟨by simp [sound.sampler slot listed], not_underscored_samplerName named⟩
  · obtain ⟨function, listed, rfl⟩ := List.mem_map.mp isFunction
    refine ⟨by simp [linked.code_declares_function listed], ?_⟩
    have faultless : function.fault? = none := by
      cases stage with
      | vertex => exact spelled.vertexFunctions function listed
      | fragment => exact spelled.fragmentFunctions function listed
    exact not_underscored_of_isIdentifier (ShaderFunction.fault?_eq_none_iff.mp faultless).1

/-- The one local name that may shadow a name of module scope is the output variable of the vertex
entry point. -/
theorem mem_locals_iff (linked : Linked graph vertexRoot fragmentRoot resources names program)
    (spelled : program.Spelled) (member : name ∈ (program.globals stage).names) :
    name ∈ (program.locals stage).names ↔ stage = .vertex ∧ name = vertexOutputVariable := by
  obtain ⟨inTable, plain⟩ := linked.globals_known spelled member
  rw [Program.names_locals, List.mem_append, List.mem_cons]
  constructor
  · -- Of the local names only the output of the vertex entry point is not kept out of module scope.
    rintro (isParameter | rfl | isTemporary)
    · exact absurd ((linked.parameters_apart spelled stage).2 name isParameter).2.1 inTable
    · cases stage with
      | vertex => exact ⟨rfl, rfl⟩
      | fragment =>
          rw [Program.outputName, linked.options_eq] at inTable
          exact absurd (ModuleNames.checkLocal_eq_ok linked.fragmentOutput_local) inTable
    · exact absurd ((linked.lets_apart stage).2 name isTemporary) plain
  · rintro ⟨rfl, rfl⟩
    exact .inr (.inl rfl)

/-! ### Declarations of what a statement refers to -/

section Stage

variable {outputs : List StageOutput} {direct bound : List NodeIndex} {owner : String}
  {index : NodeIndex} {node : ShaderNode}

/-- The arguments of a reached node are reached. -/
theorem mem_order_of_argument (formed : graph.WellFormed)
    (pieces : Generated graph.nodes graph.registry stage outputs direct (program.code stage))
    (member : index ∈ (program.code stage).order) (held : graph.nodes.get? index = some node)
    {argument : NodeIndex} (listed : argument ∈ node.arguments) :
    argument ∈ (program.code stage).order := by
  have order := pieces.isOrder
  rw [← formed.edges index node held] at listed
  exact (order.mem_iff argument).mpr (((order.mem_iff index).mp member).dependency listed)

/-- A reached node has what it needs at module scope. -/
theorem declares_node (linked : Linked graph vertexRoot fragmentRoot resources names program)
    (member : index ∈ (program.code stage).order) (held : graph.nodes.get? index = some node) :
    resources.Declares node := by
  apply Resources.declares_of_mem linked.collected
  rw [List.mem_filterMap]
  refine ⟨index, ?_, held⟩
  cases stage with
  | vertex => exact List.mem_append_left _ member
  | fragment => exact List.mem_append_right _ member

/-- A node with a temporary has the declaration of its temporary. -/
theorem exists_temporary
    (pieces : Generated graph.nodes graph.registry stage outputs direct (program.code stage))
    (member : index ∈ ShaderNodes.boundNodes graph.nodes direct (program.code stage).order)
    (held : graph.nodes.get? index = some node) :
    ∃ binding ∈ (program.code stage).body.lets, binding.name = node.variableName index ∧
      program.DeclaredFor graph.nodes stage (.node index) (.temporary binding) := by
  have each := ShaderNodes.lets_for pieces.declared (by simp) fun _ member => member
  obtain ⟨binding, listed, found, _, heldHere, operation, named, typed, _⟩ :=
    exists_of_mem_items each member
  cases held.symm.trans heldHere
  exact ⟨binding, listed, named, listed, node, held, operation, named, typed⟩

/-- The name that stands for a reached node has the declaration of the node, in its scope. -/
theorem declared_value (linked : Linked graph vertexRoot fragmentRoot resources names program)
    (sourced : graph.Sourced)
    (pieces : Generated graph.nodes graph.registry stage outputs direct (program.code stage))
    (member : index ∈ (program.code stage).order)
    (inScope : ∀ other ∈ bound,
      other ∈ ShaderNodes.boundNodes graph.nodes direct (program.code stage).order)
    {operand : Operand}
    (referred : ShaderNodes.operandFor graph.nodes bound owner index = .ok operand) :
    ∀ reference ∈ ShaderNodes.valueReferences graph.nodes index, ∃ declaration,
      program.DeclaredFor graph.nodes stage reference.referent declaration ∧
        program.Places stage reference.name declaration := by
  have checked := pieces.checkNode_of_mem member
  unfold ShaderNodes.operandFor at referred
  unfold ShaderNodes.valueReferences
  cases held : graph.nodes.get? index with
  | none => simp
  | some node =>
      have declares := linked.declares_node member held
      have stages := ShaderNodes.stage_of_checkNode held checked
      rw [held] at referred
      -- Leaves are declared for the stage; any other node is referred to by a temporary before.
      cases node with
      | constant => simp
      | vertexAttribute name ty =>
          cases stages.1 name ty rfl
          obtain ⟨slot, listed, rfl, rfl⟩ :=
            (attributesFor_of_addAll linked.attributesAdded).declared name ty
              (List.mem_filterMap.mpr ⟨index, member, held⟩)
          rw [List.forall_mem_singleton]
          refine ⟨.vertexAttribute slot, ⟨listed, held⟩, ?_⟩
          exact List.mem_append_left _ (List.mem_map_of_mem listed)
      | vary name ty =>
          cases stages.2 name ty rfl
          have varying : name ∈ program.varyings.map VaryingSlot.name := by
            rw [names_of_varyings (varyings_for linked.varyingsAdded)]
            exact sourced.slot index name ty held
          obtain ⟨slot, listed, rfl⟩ := List.mem_map.mp varying
          rw [List.forall_mem_singleton]
          refine ⟨.varying slot, ⟨listed, ty, held⟩, ?_⟩
          exact List.mem_append_left _ (List.mem_map_of_mem listed)
      | uniform name default =>
          obtain ⟨slot, listed, rfl, typed, tagged⟩ := declares
          rw [← linked.uniforms_eq] at listed
          rw [List.forall_mem_singleton]
          refine ⟨.uniform slot, ⟨listed, .inl ⟨default, held, typed, tagged⟩⟩, ?_⟩
          exact .tail _ (List.mem_append_left _ (List.mem_map_of_mem listed))
      | engine quantity =>
          obtain ⟨slot, listed, named, typed, tagged⟩ := declares
          rw [← linked.uniforms_eq] at listed
          rw [List.forall_mem_singleton, ← named]
          refine ⟨.uniform slot, ⟨listed, .inr ⟨quantity, held, named, typed, tagged⟩⟩, ?_⟩
          exact .tail _ (List.mem_append_left _ (List.mem_map_of_mem listed))
      | call | fetch | combine | swizzle =>
          dsimp only at referred
          split at referred
          · next declared =>
              obtain ⟨binding, listed, named, is⟩ :=
                exists_temporary pieces (inScope index (List.contains_iff_mem.mp declared)) held
              rw [List.forall_mem_singleton, ← named]
              refine ⟨.temporary binding, is, ?_⟩
              exact List.mem_append_right _ (.tail _ (List.mem_map.mpr ⟨binding, listed, rfl⟩))
          · cases referred

/-- The names of the operation of a reached node have their declarations, each in its scope. -/
theorem declared_operation (linked : Linked graph vertexRoot fragmentRoot resources names program)
    (formed : graph.WellFormed) (sourced : graph.Sourced)
    (pieces : Generated graph.nodes graph.registry stage outputs direct (program.code stage))
    (member : index ∈ (program.code stage).order) (held : graph.nodes.get? index = some node)
    (operation : node.isLeaf = false)
    (inScope : ∀ other ∈ bound,
      other ∈ ShaderNodes.boundNodes graph.nodes direct (program.code stage).order)
    {expression : Expression}
    (expressed : ShaderNodes.expressionFor graph.nodes bound index node = .ok expression) :
    ∀ reference ∈ ShaderNodes.operationReferences graph.nodes node, ∃ declaration,
      program.DeclaredFor graph.nodes stage reference.referent declaration ∧
        program.Places stage reference.name declaration := by
  intro reference listed
  rcases List.mem_append.mp listed with own | ofArgument
  · have declares := linked.declares_node member held
    cases node with
    | call invocation =>
        rw [List.mem_singleton.mp own]
        have collected := pieces.function_of_call member held
          (sourced.function index invocation held)
        refine ⟨.function invocation.function, ⟨rfl, collected⟩, ?_⟩
        exact .tail _ (List.mem_append_right _
          (List.mem_append_right _ (List.mem_map_of_mem collected)))
    | fetch texture coordinate =>
        obtain ⟨slot, present, rfl⟩ := declares
        rw [← linked.textures_eq] at present
        have placed : ∀ entry ∈ [(slot.name, Declaration.texture slot),
            (samplerName slot.name, .sampler slot)], entry ∈ program.globals stage :=
          fun entry inside => .tail _ (List.mem_append_right _ (List.mem_append_left _
            (List.mem_flatMap.mpr ⟨slot, present, inside⟩)))
        rcases List.mem_cons.mp own with rfl | last
        · exact ⟨.texture slot, ⟨present, rfl⟩, placed _ List.mem_cons_self⟩
        · rw [List.mem_singleton.mp last]
          exact ⟨.sampler slot, ⟨present, rfl⟩, placed _ (.tail _ List.mem_cons_self)⟩
    | vertexAttribute | uniform | engine | vary | constant | combine | swizzle => cases own
  · obtain ⟨argument, isArgument, ofValue⟩ := List.mem_flatMap.mp ofArgument
    obtain ⟨owner, operand, referred⟩ :=
      ShaderNodes.exists_operand operation expressed argument isArgument
    exact linked.declared_value sourced pieces
      (mem_order_of_argument formed pieces member held isArgument) inScope referred reference ofValue

/-- Names that have their declarations in their scopes resolve. -/
theorem resolves (linked : Linked graph vertexRoot fragmentRoot resources names program)
    (spelled : program.Spelled) {references : List Reference} {expression : Expression}
    (printed : ShaderNodes.PrintedFor graph.nodes index references)
    (same : expression.names = references.map Reference.name)
    (declared : ∀ reference ∈ references, ∃ declaration,
      program.DeclaredFor graph.nodes stage reference.referent declaration ∧
        program.Places stage reference.name declaration) :
    program.Resolves graph.nodes stage index expression := by
  have globalsDistinct : (program.globals stage).names.Nodup := by
    obtain ⟨_, _, _, pieces⟩ := linked.generated stage
    rw [Program.names_globals]
    exact linked.globalNames_nodup pieces.functions_sound.1 fun function member =>
      linked.code_declares_function member
  refine ⟨references, printed, same, ?_⟩
  intro reference listed
  obtain ⟨declaration, is, placed⟩ := declared reference listed
  exact ⟨declaration, is, Program.denotes_eq_singleton_iff (linked.locals_nodup spelled stage)
    globalsDistinct (linked.mem_locals_iff spelled) placed⟩

/-- The name of a reached node resolves. -/
theorem resolves_operand (linked : Linked graph vertexRoot fragmentRoot resources names program)
    (spelled : program.Spelled) (sourced : graph.Sourced)
    (pieces : Generated graph.nodes graph.registry stage outputs direct (program.code stage))
    (member : index ∈ (program.code stage).order)
    (inScope : ∀ other ∈ bound,
      other ∈ ShaderNodes.boundNodes graph.nodes direct (program.code stage).order)
    {operand : Operand}
    (referred : ShaderNodes.operandFor graph.nodes bound owner index = .ok operand) :
    program.Resolves graph.nodes stage index (.operand operand) :=
  linked.resolves spelled .value (ShaderNodes.names_of_operandFor referred)
    (linked.declared_value sourced pieces member inScope referred)

/-- All names in the expression of a reached node resolve. -/
theorem resolves_expression (linked : Linked graph vertexRoot fragmentRoot resources names program)
    (spelled : program.Spelled) (formed : graph.WellFormed) (sourced : graph.Sourced)
    (pieces : Generated graph.nodes graph.registry stage outputs direct (program.code stage))
    (member : index ∈ (program.code stage).order) (held : graph.nodes.get? index = some node)
    (inScope : ∀ other ∈ bound,
      other ∈ ShaderNodes.boundNodes graph.nodes direct (program.code stage).order)
    {expression : Expression}
    (expressed : ShaderNodes.expressionFor graph.nodes bound index node = .ok expression) :
    program.Resolves graph.nodes stage index expression := by
  cases operation : node.isLeaf with
  | false =>
      exact linked.resolves spelled (.operation held)
        (ShaderNodes.names_of_expressionFor operation expressed)
        (linked.declared_operation formed sourced pieces member held operation inScope expressed)
  | true =>
      obtain ⟨owner, operand, referred, rfl⟩ :=
        ShaderNodes.exists_operand_of_isLeaf operation expressed
      exact linked.resolves_operand spelled sourced pieces member inScope referred

/-- All names in the assignment of an output resolve. -/
theorem resolves_assignment (linked : Linked graph vertexRoot fragmentRoot resources names program)
    (spelled : program.Spelled) (formed : graph.WellFormed) (sourced : graph.Sourced)
    (pieces : Generated graph.nodes graph.registry stage outputs direct (program.code stage))
    {output : StageOutput} (listed : output ∈ outputs) {assignment : Assignment}
    (assigned : ShaderNodes.assignmentFor graph.nodes direct
      (ShaderNodes.boundNodes graph.nodes direct (program.code stage).order) output =
        .ok assignment) :
    assignment.target = output.target ∧
      program.Resolves graph.nodes stage output.node assignment.value := by
  have member : output.node ∈ (program.code stage).order :=
    (pieces.isOrder.mem_iff output.node).mpr (.root (List.mem_map_of_mem listed))
  refine ⟨ShaderNodes.target_of_assignmentFor assigned, ?_⟩
  obtain ⟨node, found, inner⟩ := bind_eq_ok_iff.mp assigned
  split at inner
  · obtain ⟨expression, expressed, done⟩ := bind_eq_ok_iff.mp inner
    cases done
    exact linked.resolves_expression spelled formed sourced pieces member
      (ShaderNodes.nodeAt_eq_ok_iff.mp found) (fun _ inside => inside) expressed
  · obtain ⟨operand, referred, done⟩ := bind_eq_ok_iff.mp inner
    cases done
    exact linked.resolves_operand spelled sourced pieces member (fun _ inside => inside) referred

end Stage

end Linked

namespace ShaderGraph

/-- Name resolution.  In a program compiled from a graph that calls lead to, the local names of an
entry point are pairwise distinct, and only the output variable of the vertex entry point, which is
not compared with module scope, can shadow a name of module scope.  Every temporary holds the value
of a node, every assignment is for the node of its output, and every name in them resolves to the
declaration of what it is printed for, unless it is a name of module scope that is shadowed so, or
that the entry point itself bears. -/
theorem resolves_of_compile {graph : ShaderGraph} {descriptor : ProgramDescriptor}
    (reachable : graph.Reachable) (compiled : graph.compile = .ok descriptor) :
    ∃ program, graph.link = .ok program ∧ program.descriptor = descriptor ∧ ∀ stage,
      (program.locals stage).names.Nodup ∧
      program.denotes stage (program.outputName stage) = [.output] ∧
      (∀ name ∈ (program.globals stage).names, name ∈ (program.locals stage).names ↔
        stage = .vertex ∧ name = vertexOutputVariable) ∧
      (∀ binding ∈ (program.code stage).body.lets, ∃ index,
        program.DeclaredFor graph.nodes stage (.node index) (.temporary binding) ∧
          program.Resolves graph.nodes stage index binding.value) ∧
      ∃ outputs, graph.StageOutputs stage outputs ∧
        List.Forall₂ (fun output assignment => assignment.target = output.target ∧
          program.Resolves graph.nodes stage output.node assignment.value) outputs
          (program.code stage).body.assignments := by
  obtain ⟨program, linked, rfl⟩ := compile_eq_ok_iff.mp compiled
  obtain ⟨_, _, _, _, link⟩ := linked_of_link linked
  have formed := reachable.wellFormed
  have sourced := reachable.sourced
  have spelled := link.spelled reachable.wellNamed
  refine ⟨program, linked, rfl, ?_⟩
  intro stage
  obtain ⟨outputs, direct, of, pieces⟩ := link.generated stage
  refine ⟨link.locals_nodup spelled stage, link.denotes_outputName spelled stage,
    fun name member => link.mem_locals_iff spelled member, ?_, outputs, of, ?_⟩
  · intro binding listed
    have each := ShaderNodes.lets_for pieces.declared (by simp) fun _ member => member
    obtain ⟨index, indexed, node, bound, held, operation, named, typed, expressed, inScope⟩ :=
      exists_of_mem_results each listed
    exact ⟨index, ⟨listed, node, held, operation, named, typed⟩,
      link.resolves_expression spelled formed sourced pieces (List.mem_filter.mp indexed).1 held
        inScope expressed⟩
  · have each := mapM_eq_ok_iff.mp pieces.assigned
    refine List.forall₂_iff_get.mpr ⟨each.length_eq, ?_⟩
    intro position inOutputs inAssignments
    exact link.resolves_assignment spelled formed sourced pieces (List.get_mem ..)
      (each.get inOutputs inAssignments)

/-! ### A uniform that bears the name of the output variable -/

/-- Position and color are one uniform, of the name that the vertex entry point gives its output. -/
def outUniform : ShaderGraph :=
  (new 1 .empty).authorAll
    [.uniform "out" (.vec4 .zero .zero .zero .one), .setVertexRoot ⟨1, 0⟩, .setFragmentRoot ⟨1, 0⟩]

theorem link_outUniform :
    outUniform.link.map (fun program =>
      (program.vertex.body, program.fragment.body, (program.locals .vertex).names,
        program.denotes .vertex "out")) =
      .ok (⟨[], [⟨.clipPosition, .operand (.uniform "out")⟩]⟩,
        ⟨[], [⟨.color "frag_color", .operand (.uniform "out")⟩]⟩, ["out"], [.output]) :=
  map_link_eq_of_linkWithin 9 (by decide +kernel)

/-- A program whose vertex entry point assigns its output variable to a field of itself, instead of the
uniform that the assignment is printed for, compiles. -/
theorem outUniform_captured :
    ∃ program, outUniform.Reachable ∧ outUniform.compile = .ok program.descriptor ∧
      outUniform.link = .ok program ∧
      outUniform.nodes.get? 0 = some (.uniform "out" (.vec4 .zero .zero .zero .one)) ∧
      program.vertex.body.assignments = [⟨.clipPosition, .operand (.uniform "out")⟩] ∧
      "out" ∈ (program.locals .vertex).names ∧ program.denotes .vertex "out" = [.output] := by
  obtain ⟨program, linked, found⟩ := map_eq_ok_iff.mp link_outUniform
  simp only [Prod.mk.injEq] at found
  obtain ⟨vertex, _, localNames, denotes⟩ := found
  refine ⟨program, ⟨_, _, _, rfl⟩, compile_eq_ok_iff.mpr ⟨program, linked, rfl⟩, linked,
    by decide +kernel, by rw [vertex], ?_, denotes⟩
  rw [localNames]
  decide

theorem resolves_of_compile_outUniform :
    ∃ program : Program, outUniform.Reachable ∧ outUniform.compile = .ok program.descriptor ∧
      (∀ stage, (program.locals stage).names.Nodup) ∧
      program.Resolves outUniform.nodes .vertex 0 (.operand (.uniform "out")) ∧
      program.Resolves outUniform.nodes .fragment 0 (.operand (.uniform "out")) := by
  have reachable : outUniform.Reachable := ⟨_, _, _, rfl⟩
  obtain ⟨program, linked, found⟩ := map_eq_ok_iff.mp link_outUniform
  simp only [Prod.mk.injEq] at found
  have compiled : outUniform.compile = .ok program.descriptor :=
    compile_eq_ok_iff.mpr ⟨program, linked, rfl⟩
  obtain ⟨again, linkedAgain, _, resolves⟩ := resolves_of_compile reachable compiled
  cases linked.symm.trans linkedAgain
  refine ⟨program, reachable, compiled, fun stage => (resolves stage).1, ?_, ?_⟩
  · obtain ⟨_, _, _, _, outputs, of, each⟩ := resolves .vertex
    rw [Program.code, found.1] at each
    cases of with
    | vertex placed =>
        cases placed.symm.trans (by decide +kernel : outUniform.vertexRoot = some 0)
        cases each with
        | cons first _ => exact first.2
  · obtain ⟨_, _, _, _, outputs, of, each⟩ := resolves .fragment
    rw [Program.code, found.2.1] at each
    cases of with
    | fragment placed =>
        cases placed.symm.trans (by decide +kernel : outUniform.fragmentRoot = some 0)
        cases each with
        | cons first _ => exact first.2

end ShaderGraph

end ShaderFlow

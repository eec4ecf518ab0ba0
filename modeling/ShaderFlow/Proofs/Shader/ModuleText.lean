/-
Module: ShaderFlow.Proofs.Shader.ModuleText
Purpose: The lines of the two modules of a linked program.
Main exports: Program.Spelled, Linked.spelled, Program.Spelled.splitLines_vertexModule,
  Program.Spelled.splitLines_fragmentModule
-/
import ShaderFlow.Proofs.Shader.Linking
import ShaderFlow.Proofs.Shader.Spelling

namespace ShaderFlow

/-- Everything that the modules of a program are spelled with stays within its line. -/
structure Program.Spelled (program : Program) : Prop where
  vertexEntry : isIdentifier program.options.vertexEntry
  fragmentEntry : isIdentifier program.options.fragmentEntry
  fragmentOutput : isIdentifier program.options.fragmentOutput
  attributes : ∀ slot ∈ program.attributes, isIdentifier slot.name
  uniforms : ∀ slot ∈ program.uniforms, isIdentifier slot.name
  textures : ∀ slot ∈ program.textures, isIdentifier slot.name
  varyings : ∀ slot ∈ program.varyings, isIdentifier slot.name
  vertexFunctions : ∀ function ∈ program.vertex.functions, function.fault? = none
  fragmentFunctions : ∀ function ∈ program.fragment.functions, function.fault? = none
  vertexStatements : ∀ statement ∈ program.vertex.body.statements program.vertex.stage,
    '\n' ∉ statement.toList
  fragmentStatements : ∀ statement ∈ program.fragment.body.statements program.fragment.stage,
    '\n' ∉ statement.toList

/-! ### Names in a linked program -/

theorem EngineUniform.isIdentifier_name (quantity : EngineUniform) :
    isIdentifier quantity.name := by
  cases quantity <;> decide +kernel

namespace Resources

variable {resources later : Resources}

/-- Uniforms and textures bear identifiers. -/
def Named (resources : Resources) : Prop :=
  (∀ slot ∈ resources.uniforms, isIdentifier slot.name) ∧
    ∀ slot ∈ resources.textures, isIdentifier slot.name

theorem Named.addUniform {name : String} {default : ShaderValue} {engine : Option EngineUniform}
    (resourcesNamed : resources.Named) (named : isIdentifier name)
    (added : resources.addUniform name default engine = .ok later) : later.Named := by
  obtain ⟨_, _, inner⟩ := bind_eq_ok_iff.mp added
  split at inner
  · cases inner
    exact resourcesNamed
  · cases inner
    refine ⟨?_, resourcesNamed.2⟩
    intro slot member
    rcases List.mem_append.mp member with earlier | last
    · exact resourcesNamed.1 slot earlier
    · rw [List.mem_singleton.mp last]
      exact named

theorem Named.addTexture {name : String} (resourcesNamed : resources.Named)
    (named : isIdentifier name) (added : resources.addTexture name = .ok later) :
    later.Named := by
  obtain ⟨_, _, added⟩ := bind_eq_ok_iff.mp added
  obtain ⟨_, _, inner⟩ := bind_eq_ok_iff.mp added
  split at inner
  · cases inner
    exact resourcesNamed
  · cases inner
    refine ⟨resourcesNamed.1, ?_⟩
    intro slot member
    rcases List.mem_append.mp member with earlier | last
    · exact resourcesNamed.2 slot earlier
    · rw [List.mem_singleton.mp last]
      exact named

theorem Named.addNode {node : ShaderNode} (resourcesNamed : resources.Named)
    (named : node.WellNamed) (added : resources.addNode node = .ok later) : later.Named := by
  cases node with
  | uniform =>
      unfold Resources.addNode at added
      exact resourcesNamed.addUniform named added
  | engine quantity =>
      unfold Resources.addNode at added
      exact resourcesNamed.addUniform quantity.isIdentifier_name added
  | fetch => exact resourcesNamed.addTexture named added
  | call | vertexAttribute | vary | constant | combine | swizzle =>
      cases added
      exact resourcesNamed

end Resources

namespace OutputTarget

theorem lineFeed_not_mem_clipPosition : '\n' ∉ clipPosition.text.toList := by
  unfold text
  simp only [not_mem_append, toList_toString]
  decide

theorem lineFeed_not_mem_varying {name : String} (named : isIdentifier name) :
    '\n' ∉ (varying name).text.toList := by
  have free : '\n' ∉ name.toList := lineFeed_not_mem_of_isIdentifier named
  unfold text
  simp only [not_mem_append, toList_toString, free, not_false_eq_true, and_true]
  decide

end OutputTarget

theorem isIdentifier_of_addAttribute {names : ModuleNames} {attributes later : List AttributeSlot}
    {node : ShaderNode} (earlier : ∀ slot ∈ attributes, isIdentifier slot.name)
    (named : node.WellNamed) (added : addAttribute names attributes node = .ok later) :
    ∀ slot ∈ later, isIdentifier slot.name := by
  unfold addAttribute at added
  split at added
  · split at added
    · split at added
      · cases added
        exact earlier
      · cases added
    · obtain ⟨_, _, inner⟩ := bind_eq_ok_iff.mp added
      split at inner
      · cases inner
      · cases inner
        intro slot member
        rcases List.mem_append.mp member with before | last
        · exact earlier slot before
        · rw [List.mem_singleton.mp last]
          exact named
  · cases added
    exact earlier

namespace Linked

variable {graph : ShaderGraph} {vertexRoot fragmentRoot : NodeIndex} {resources : Resources}
  {names : ModuleNames} {program : Program}

theorem wellNamed_of_mem {order : List NodeIndex} {node : ShaderNode} (named : graph.WellNamed)
    (member : node ∈ order.filterMap graph.nodes.get?) : node.WellNamed := by
  obtain ⟨index, _, held⟩ := List.mem_filterMap.mp member
  exact named.nodes index node held

/-- A linked program is spelled within its lines, if the graph is well named. -/
theorem spelled (linked : Linked graph vertexRoot fragmentRoot resources names program)
    (named : graph.WellNamed) : program.Spelled := by
  obtain ⟨_, vertex⟩ := generated_of_generateStage linked.vertexGenerated
  obtain ⟨_, fragment⟩ := generated_of_generateStage linked.fragmentGenerated
  have resourcesNamed : resources.Named :=
    foldlM_keeps Resources.Named
      (fun _ _ member _ before added => before.addNode (wellNamed_of_mem named member) added)
      (by simp [Resources.Named, Resources.initial]) linked.collected
  have slots : ∀ entry ∈ graph.varys.entries, isIdentifier entry.1 :=
    fun entry member => named.slots _ (List.mem_map_of_mem member)
  have attributes : ∀ slot ∈ program.attributes, isIdentifier slot.name := by
    have kept : ∀ found, ∀ node ∈ program.vertex.order.filterMap graph.nodes.get?, ∀ later,
        (∀ slot ∈ found, isIdentifier slot.name) → addAttribute names found node = .ok later →
        ∀ slot ∈ later, isIdentifier slot.name := by
      intro _ node member _ before added
      exact isIdentifier_of_addAttribute before (wellNamed_of_mem named member) added
    exact foldlM_keeps _ kept (by simp) linked.attributesAdded
  have varyings : ∀ slot ∈ program.varyings, isIdentifier slot.name := by
    intro slot member
    obtain ⟨entry, listed, this⟩ :=
      exists_of_mem_results (varyings_for linked.varyingsAdded) member
    rw [this.1]
    exact slots entry listed
  constructor
  case attributes => exact attributes
  case varyings => exact varyings
  case vertexEntry =>
    rw [linked.options_eq]
    exact linked.vertexEntry_named
  case fragmentEntry =>
    rw [linked.options_eq]
    exact linked.fragmentEntry_named
  case fragmentOutput =>
    rw [linked.options_eq]
    exact linked.fragmentOutput_named
  case uniforms =>
    rw [linked.uniforms_eq]
    exact resourcesNamed.1
  case textures =>
    rw [linked.textures_eq]
    exact resourcesNamed.2
  case vertexFunctions =>
    intro function member
    exact graph.registry.sound function (vertex.functions_sound.2 function member)
  case fragmentFunctions =>
    intro function member
    exact graph.registry.sound function (fragment.functions_sound.2 function member)
  case vertexStatements =>
    have targets : ∀ output ∈ graph.vertexOutputs vertexRoot, '\n' ∉ output.target.text.toList := by
      intro output member
      rcases List.mem_cons.mp member with rfl | later
      · exact OutputTarget.lineFeed_not_mem_clipPosition
      · obtain ⟨entry, listed, rfl⟩ := List.mem_map.mp later
        exact OutputTarget.lineFeed_not_mem_varying (slots entry listed)
    rw [vertex.stage_eq]
    exact vertex.lineFeed_not_mem_statement named.nodes targets
  case fragmentStatements =>
    have targets : ∀ output ∈ graph.fragmentOutputs fragmentRoot,
        '\n' ∉ output.target.text.toList := by
      intro output member
      rw [List.mem_singleton.mp member]
      exact lineFeed_not_mem_of_isIdentifier linked.fragmentOutput_named
    rw [fragment.stage_eq]
    exact fragment.lineFeed_not_mem_statement named.nodes targets

end Linked

/-! ### Lines of declarations -/

namespace Program

/-- A resource: its group and binding, a keyword, its name, and what stands behind the name. -/
def resourceText (group : List Char) (binding : Nat) (keyword : List Char) (name : String)
    (rest : List Char) : List Char :=
  '@' :: (group ++ ' ' :: '@' :: (("binding(".toList ++ ((toString binding).toList ++ [')'])) ++
    ' ' :: (keyword ++ ' ' :: (name.toList ++ ':' :: rest))))

theorem content_uniformDeclaration (slot : UniformSlot) :
    (uniformDeclaration slot).content =
      resourceText "group(0)".toList slot.binding "var<uniform>".toList slot.name
        (' ' :: (slot.ty.wgsl.toList ++ [';'])) := by
  have group : (toString uniformGroup).toList = ['0'] := by decide +kernel
  simp only [uniformDeclaration, CodeLine.content_zero, String.toList_append, toList_toString,
    group]
  simp [resourceText]

theorem content_textureDeclarations (slot : TextureSlot) :
    (textureDeclarations slot).map CodeLine.content =
      [resourceText "group(1)".toList slot.binding "var".toList slot.name
          " texture_2d<f32>;".toList,
        resourceText "group(1)".toList slot.samplerBinding "var".toList (samplerName slot.name)
          " sampler;".toList] := by
  have group : (toString textureGroup).toList = ['1'] := by decide +kernel
  simp only [textureDeclarations, List.map_cons, List.map_nil, CodeLine.content_zero,
    String.toList_append, toList_toString, group]
  simp [resourceText]

variable {program : Program} {c : Char}

theorem not_mem_located {location : Nat} {name : String} {ty : ShaderType}
    (named : isIdentifier name) (odd : isNameChar c = false) (digit : c.isDigit = false)
    (marks : c ∉ "@location() :f32vec4<>matx".toList) :
    c ∉ (located location name ty).toList := by
  have free := not_mem_of_isIdentifier named odd
  have number : c ∉ (toString location).toList := not_mem_toString digit
  have spelled : c ∉ ty.wgsl.toList := ShaderType.not_mem_wgsl (by simp_all)
  unfold located
  simp only [not_mem_append, toList_toString, free, number, spelled, not_false_eq_true, and_true]
  simp_all

theorem lineFeed_not_mem_structDeclaration
    (varyings : ∀ slot ∈ program.varyings, isIdentifier slot.name) :
    ∀ line ∈ program.structDeclaration, '\n' ∉ line.text.toList := by
  intro line member
  simp only [structDeclaration, List.mem_append, List.mem_cons, List.mem_map] at member
  rcases member with (rfl | rfl | ⟨slot, listed, rfl⟩) | rfl | rfl | isNil
  · decide +kernel
  · decide +kernel
  · have field : '\n' ∉ (located slot.location slot.name slot.ty).toList :=
      not_mem_located (varyings slot listed) (by decide) (by decide) (by decide)
    simp only [not_mem_append, toList_toString, field, not_false_eq_true, true_and]
    decide
  · decide
  · decide
  · cases isNil

theorem lineFeed_not_mem_uniformDeclaration {slot : UniformSlot} (named : isIdentifier slot.name) :
    '\n' ∉ (uniformDeclaration slot).text.toList := by
  have free : '\n' ∉ slot.name.toList := lineFeed_not_mem_of_isIdentifier named
  have number : '\n' ∉ (toString slot.binding).toList := lineFeed_not_mem_toString _
  have spelled : '\n' ∉ slot.ty.wgsl.toList := ShaderType.lineFeed_not_mem_wgsl _
  unfold uniformDeclaration
  simp only [not_mem_append, toList_toString, free, number, spelled, not_false_eq_true, true_and,
    and_true]
  decide

theorem lineFeed_not_mem_textureDeclarations {slot : TextureSlot} (named : isIdentifier slot.name) :
    ∀ line ∈ textureDeclarations slot, '\n' ∉ line.text.toList := by
  have free : '\n' ∉ slot.name.toList := lineFeed_not_mem_of_isIdentifier named
  have binding : '\n' ∉ (toString slot.binding).toList := lineFeed_not_mem_toString _
  have samplerBinding : '\n' ∉ (toString slot.samplerBinding).toList :=
    lineFeed_not_mem_toString _
  have sampler : '\n' ∉ (samplerName slot.name).toList := not_mem_append.mpr ⟨free, by decide⟩
  unfold textureDeclarations
  simp only [List.mem_cons, List.not_mem_nil, or_false, forall_eq_or_imp, forall_eq,
    not_mem_append, toList_toString, free, binding, samplerBinding, sampler, not_false_eq_true,
    true_and, and_true]
  decide

theorem lineFeed_not_mem_resourceDeclarations
    (uniforms : ∀ slot ∈ program.uniforms, isIdentifier slot.name)
    (textures : ∀ slot ∈ program.textures, isIdentifier slot.name) :
    ∀ line ∈ program.resourceDeclarations, '\n' ∉ line.text.toList := by
  intro line member
  unfold resourceDeclarations at member
  dsimp only at member
  split at member
  · cases member
  · rcases List.mem_append.mp member with declared | last
    · rcases List.mem_append.mp declared with isUniform | isTexture
      · obtain ⟨slot, listed, rfl⟩ := List.mem_map.mp isUniform
        exact lineFeed_not_mem_uniformDeclaration (uniforms slot listed)
      · obtain ⟨slot, listed, held⟩ := List.mem_flatMap.mp isTexture
        exact lineFeed_not_mem_textureDeclarations (textures slot listed) line held
    · rw [List.mem_singleton.mp last]
      decide

end Program

theorem ShaderFunction.toList_header (function : ShaderFunction) :
    (s!"fn {function.name}({parameterList function.inputs}) -> {function.returnType.wgsl} " ++
      "\x7b").toList = "fn".toList ++ ' ' :: (function.name.toList ++ '(' ::
        ((parameterList function.inputs).toList ++
          (") -> ".toList ++ (function.returnType.wgsl.toList ++ " \x7b".toList)))) := by
  simp only [String.toList_append, toList_toString]
  simp

theorem ShaderFunction.lineFeed_not_mem_declaration {function : ShaderFunction}
    (faultless : function.fault? = none) :
    ∀ line ∈ function.declaration, '\n' ∉ line.text.toList := by
  obtain ⟨named, inputs, _⟩ := fault?_eq_none_iff.mp faultless
  have name : '\n' ∉ function.name.toList := lineFeed_not_mem_of_isIdentifier named
  have ty : '\n' ∉ function.returnType.wgsl.toList := ShaderType.lineFeed_not_mem_wgsl _
  have parameters : '\n' ∉ (parameterList function.inputs).toList := by
    apply not_mem_intercalate (by decide)
    intro text member
    obtain ⟨input, listed, rfl⟩ := List.mem_map.mp member
    have inputName : '\n' ∉ input.name.toList :=
      lineFeed_not_mem_of_isIdentifier (inputs input listed)
    have inputType : '\n' ∉ input.ty.wgsl.toList := ShaderType.lineFeed_not_mem_wgsl _
    simp only [not_mem_append, toList_toString, inputName, inputType, not_false_eq_true, true_and,
      and_true]
    decide
  intro line member
  unfold declaration at member
  rcases List.mem_cons.mp member with rfl | later
  · simp only [not_mem_append, toList_toString, name, parameters, ty, not_false_eq_true, and_true]
    decide
  · rcases List.mem_append.mp later with body | last
    · exact CodeLine.lineFeed_not_mem_block body
    · rw [List.mem_singleton.mp last]
      decide

namespace Program

variable {program : Program}

theorem lineFeed_not_mem_functionDeclarations {code : StageCode}
    (functions : ∀ function ∈ code.functions, function.fault? = none) :
    ∀ line ∈ functionDeclarations code, '\n' ∉ line.text.toList := by
  intro line member
  obtain ⟨function, listed, held⟩ := List.mem_flatMap.mp member
  rcases List.mem_append.mp held with declared | last
  · exact function.lineFeed_not_mem_declaration (functions function listed) line declared
  · rw [List.mem_singleton.mp last]
    decide

theorem lineFeed_not_mem_entryPoint {code : StageCode} {mark header name ty : String}
    (markLine : '\n' ∉ mark.toList) (headerLine : '\n' ∉ header.toList)
    (named : '\n' ∉ name.toList) (typed : '\n' ∉ ty.toList)
    (statements : ∀ statement ∈ code.body.statements code.stage, '\n' ∉ statement.toList) :
    ∀ line ∈ entryPoint code mark header name ty, '\n' ∉ line.text.toList := by
  intro line member
  simp only [entryPoint, List.mem_append, List.mem_cons, List.mem_map, List.not_mem_nil,
    or_false] at member
  rcases member with ((rfl | rfl | rfl) | ⟨statement, listed, rfl⟩) | rfl | rfl
  · exact markLine
  · simp only [not_mem_append, headerLine, not_false_eq_true, true_and]
    decide
  · simp only [not_mem_append, toList_toString, named, typed, not_false_eq_true, and_true]
    decide
  · exact statements statement listed
  · simp only [not_mem_append, toList_toString, named, not_false_eq_true, and_true]
    decide
  · decide

namespace Spelled

theorem lineFeed_not_mem_declarations (spelled : program.Spelled) {code : StageCode}
    (functions : ∀ function ∈ code.functions, function.fault? = none) :
    ∀ line ∈ program.declarations code, '\n' ∉ line.text.toList := by
  intro line member
  rcases List.mem_append.mp member with first | isFunction
  · rcases List.mem_append.mp first with isStruct | isResource
    · exact lineFeed_not_mem_structDeclaration spelled.varyings line isStruct
    · exact lineFeed_not_mem_resourceDeclarations spelled.uniforms spelled.textures line isResource
  · exact lineFeed_not_mem_functionDeclarations functions line isFunction

/-- The lines of the source of the vertex module. -/
theorem splitLines_vertexModule (spelled : program.Spelled) :
    Text.splitLines (renderCode program.vertexModule).toList =
      program.vertexModule.map CodeLine.content := by
  apply splitLines_renderCode
  intro line member
  rcases List.mem_append.mp member with declared | entry
  · exact spelled.lineFeed_not_mem_declarations spelled.vertexFunctions line declared
  · have name : '\n' ∉ program.options.vertexEntry.toList :=
      lineFeed_not_mem_of_isIdentifier spelled.vertexEntry
    have parameters : '\n' ∉ (", ".intercalate
        (program.attributes.map fun slot => located slot.location slot.name slot.ty)).toList := by
      apply not_mem_intercalate (by decide)
      intro text listed
      obtain ⟨slot, held, rfl⟩ := List.mem_map.mp listed
      exact not_mem_located (spelled.attributes slot held) (by decide) (by decide) (by decide)
    refine lineFeed_not_mem_entryPoint (by decide) ?_ (by decide) (by decide)
      spelled.vertexStatements line entry
    simp only [not_mem_append, toList_toString, name, parameters, not_false_eq_true, and_true]
    decide

/-- The lines of the source of the fragment module. -/
theorem splitLines_fragmentModule (spelled : program.Spelled) :
    Text.splitLines (renderCode program.fragmentModule).toList =
      program.fragmentModule.map CodeLine.content := by
  apply splitLines_renderCode
  intro line member
  rcases List.mem_append.mp member with declared | entry
  · exact spelled.lineFeed_not_mem_declarations spelled.fragmentFunctions line declared
  · have name : '\n' ∉ program.options.fragmentEntry.toList :=
      lineFeed_not_mem_of_isIdentifier spelled.fragmentEntry
    have output : '\n' ∉ program.options.fragmentOutput.toList :=
      lineFeed_not_mem_of_isIdentifier spelled.fragmentOutput
    have parameters : '\n' ∉ (", ".intercalate
        (program.varyings.map fun slot => located slot.location slot.name slot.ty)).toList := by
      apply not_mem_intercalate (by decide)
      intro text listed
      obtain ⟨slot, held, rfl⟩ := List.mem_map.mp listed
      exact not_mem_located (spelled.varyings slot held) (by decide) (by decide) (by decide)
    refine lineFeed_not_mem_entryPoint (by decide) ?_ output (by decide)
      spelled.fragmentStatements line entry
    simp only [not_mem_append, toList_toString, name, parameters, not_false_eq_true, and_true]
    decide

end Spelled

end Program

end ShaderFlow

/-
Module: ShaderFlow.Proofs.Shader.ModuleScope
Purpose: The names that the source of a module declares outside of all blocks.
Main exports: declaredName?, moduleScope, Program.globalNames, Linked.globalNames_nodup,
  ShaderGraph.moduleScope_nodup_iff
-/
import ShaderFlow.Proofs.Shader.BoundedLink
import ShaderFlow.Proofs.Shader.ModuleText

namespace ShaderFlow

/-!
The names are read off the lines of the source: a declaration at module scope stands at the start of
a line, behind attributes such as `@group(0)`, and everything inside a block is indented.
-/

/-- Words that a declaration starts with, attributes apart. -/
def declarationKeywords : List (List Char) :=
  ["struct".toList, "var<uniform>".toList, "var".toList, "fn".toList]

/-- The name that a line declares at module scope. -/
def declaredName? (line : List Char) : Option String :=
  match (line.splitOn ' ').dropWhile fun word => word.head? == some '@' with
  | keyword :: word :: _ =>
      if keyword ∈ declarationKeywords then some (String.ofList (word.takeWhile isNameChar))
      else none
  | _ => none

/-- The names that a source declares at module scope, in order. -/
def moduleScope (source : String) : List String :=
  (Text.splitLines source.toList).filterMap declaredName?

/-! ### Scanning one line -/

theorem splitOn_append_of_not_mem {word rest : List Char} (free : ' ' ∉ word) :
    (word ++ rest).splitOn ' ' = (rest.splitOn ' ').modifyHead (word ++ ·) := by
  induction word with
  | nil => cases split : rest.splitOn ' ' <;> simp [split]
  | cons c word ih =>
      rw [List.mem_cons, not_or] at free
      rw [List.cons_append, List.splitOn_cons_eq_if_modifyHead, ih free.2]
      have other : (c == ' ') = false := by simpa using Ne.symm free.1
      cases rest.splitOn ' ' <;> simp [other]

theorem declaredName?_nil : declaredName? [] = none := by simp [declaredName?]

theorem declaredName?_indented {rest : List Char} : declaredName? (' ' :: rest) = none := by
  have first : (' ' :: rest).splitOn ' ' = [] :: rest.splitOn ' ' :=
    List.splitOn_append_cons_self_of_not_mem List.not_mem_nil rest
  obtain ⟨word, others, later⟩ := List.exists_cons_of_ne_nil (List.splitOn_ne_nil ' ' rest)
  have unlisted : [] ∉ declarationKeywords := by decide
  unfold declaredName?
  rw [first, List.dropWhile_cons_of_neg (by decide), later]
  simp only [if_neg unlisted]

/-- An attribute does not count. -/
theorem declaredName?_attribute {word rest : List Char} (free : ' ' ∉ word) :
    declaredName? ('@' :: (word ++ ' ' :: rest)) = declaredName? rest := by
  have marked : ' ' ∉ '@' :: word := by simpa using free
  have first : ('@' :: (word ++ ' ' :: rest)).splitOn ' ' = ('@' :: word) :: rest.splitOn ' ' :=
    List.splitOn_append_cons_self_of_not_mem marked rest
  unfold declaredName?
  rw [first, List.dropWhile_cons_of_pos (by simp)]

/-- A declaration is a keyword, a name, and something that ends the name. -/
theorem declaredName?_declaration {keyword name rest : List Char} {mark : Char}
    (listed : keyword ∈ declarationKeywords) (named : ∀ c ∈ name, isNameChar c)
    (odd : isNameChar mark = false) :
    declaredName? (keyword ++ ' ' :: (name ++ mark :: rest)) = some (String.ofList name) := by
  have plain : ' ' ∉ keyword ∧ (keyword.head? == some '@') = false := by
    revert keyword
    decide
  have free : ' ' ∉ name := fun member => absurd (named _ member) (by decide)
  have second : ∃ word others, (name ++ mark :: rest).splitOn ' ' = word :: others ∧
      word.takeWhile isNameChar = name := by
    rw [splitOn_append_of_not_mem free]
    obtain ⟨word, others, split⟩ := List.exists_cons_of_ne_nil
      (List.splitOn_ne_nil ' ' (mark :: rest))
    refine ⟨name ++ word, others, by rw [split, List.modifyHead_cons], ?_⟩
    rw [List.splitOn_cons_eq_if_modifyHead] at split
    have ended : word.takeWhile isNameChar = [] := by
      split at split
      · cases split
        rfl
      · obtain ⟨first, _, more⟩ := List.exists_cons_of_ne_nil (List.splitOn_ne_nil ' ' rest)
        rw [more, List.modifyHead_cons] at split
        cases split
        exact List.takeWhile_cons_of_neg (by simp [odd])
    rw [List.takeWhile_append_of_pos named, ended, List.append_nil]
  obtain ⟨word, others, split, scanned⟩ := second
  unfold declaredName?
  rw [List.splitOn_append_cons_self_of_not_mem plain.1, List.dropWhile_cons_of_neg (by simp [plain.2]),
    split]
  simp only [if_pos listed, scanned]

/-! ### Scanning the parts of a module -/

namespace CodeLine

theorem declaredName?_content_succ (depth : Nat) (text : String) :
    declaredName? (content ⟨depth + 1, text⟩) = none :=
  holds_of_content_succ (p := (declaredName? · = none)) declaredName?_nil
    (fun _ => declaredName?_indented) depth text

end CodeLine

namespace Program

variable {program : Program}

/-- The names that a list of lines declares at module scope. -/
def scopeOf (lines : List CodeLine) : List String :=
  (lines.map CodeLine.content).filterMap declaredName?

theorem scopeOf_append (lines later : List CodeLine) :
    scopeOf (lines ++ later) = scopeOf lines ++ scopeOf later := by
  simp [scopeOf]

theorem scopeOf_nil : scopeOf [] = [] := rfl

theorem scopeOf_cons (line : CodeLine) (lines : List CodeLine) :
    scopeOf (line :: lines) = (declaredName? line.content).toList ++ scopeOf lines := by
  cases declared : declaredName? line.content <;> simp [scopeOf, declared]

/-- Lines inside a block declare nothing. -/
theorem scopeOf_inner {lines : List CodeLine} (inner : ∀ line ∈ lines, 0 < line.depth) :
    scopeOf lines = [] := by
  unfold scopeOf
  rw [List.filterMap_eq_nil_iff]
  intro content member
  obtain ⟨⟨depth, text⟩, listed, rfl⟩ := List.mem_map.mp member
  obtain ⟨outer, rfl⟩ := Nat.exists_eq_succ_of_ne_zero (Nat.ne_of_gt (inner _ listed))
  exact CodeLine.declaredName?_content_succ outer text

theorem declaredName?_brace : declaredName? ['\x7d'] = none := by decide +kernel

theorem scopeOf_structDeclaration :
    scopeOf program.structDeclaration = [vertexOutputStruct] := by
  have header : declaredName? (s!"struct {vertexOutputStruct} " ++ "\x7b").toList =
      some vertexOutputStruct := by
    decide +kernel
  have fields : scopeOf (⟨1, s!"@builtin(position) {clipPositionField}: {ShaderType.vec4.wgsl},"⟩ ::
      program.varyings.map fun varying =>
        ⟨1, s!"{located varying.location varying.name varying.ty},"⟩) = [] := by
    apply scopeOf_inner
    intro line member
    rcases List.mem_cons.mp member with rfl | later
    · decide
    · obtain ⟨varying, _, rfl⟩ := List.mem_map.mp later
      exact Nat.one_pos
  unfold structDeclaration
  rw [List.cons_append, scopeOf_cons, scopeOf_append, fields, CodeLine.content_zero, header]
  simp only [scopeOf_cons, scopeOf_nil, CodeLine.content_zero]
  decide +kernel

/-- A resource is declared behind its group and its binding. -/
theorem declaredName?_resourceText {group keyword rest : List Char} {binding : Nat} {name : String}
    (grouped : ' ' ∉ group) (listed : keyword ∈ declarationKeywords)
    (named : ∀ c ∈ name.toList, isNameChar c) :
    declaredName? (resourceText group binding keyword name rest) = some name := by
  have free : ' ' ∉ "binding(".toList ++ ((toString binding).toList ++ [')']) := by
    have number : ' ' ∉ (toString binding).toList := not_mem_toString (by decide)
    simp only [List.mem_append, number, not_or, not_false_eq_true, true_and]
    decide
  unfold resourceText
  rw [declaredName?_attribute grouped, declaredName?_attribute free,
    declaredName?_declaration listed named (by decide), String.ofList_toList]

theorem declaredName?_uniformDeclaration {slot : UniformSlot} (named : isIdentifier slot.name) :
    declaredName? (uniformDeclaration slot).content = some slot.name := by
  rw [content_uniformDeclaration,
    declaredName?_resourceText (by decide) (by decide) fun _ => isNameChar_of_mem named]

theorem scopeOf_textureDeclarations {slot : TextureSlot} (named : isIdentifier slot.name) :
    scopeOf (textureDeclarations slot) = [slot.name, samplerName slot.name] := by
  have letters : ∀ c ∈ "_sampler".toList, isNameChar c := List.all_eq_true.mp (by decide)
  have sampler : ∀ c ∈ (samplerName slot.name).toList, isNameChar c := by
    intro c member
    rcases List.mem_append.mp (String.toList_append ▸ member) with inside | suffix
    · exact isNameChar_of_mem named inside
    · exact letters c suffix
  unfold scopeOf
  rw [content_textureDeclarations,
    List.filterMap_cons_some
      (declaredName?_resourceText (by decide) (by decide) fun _ => isNameChar_of_mem named),
    List.filterMap_cons_some (declaredName?_resourceText (by decide) (by decide) sampler),
    List.filterMap_nil]

theorem scopeOf_resourceDeclarations
    (uniforms : ∀ slot ∈ program.uniforms, isIdentifier slot.name)
    (textures : ∀ slot ∈ program.textures, isIdentifier slot.name) :
    scopeOf program.resourceDeclarations = program.uniforms.map UniformSlot.name ++
      program.textures.flatMap fun slot => [slot.name, samplerName slot.name] := by
  have first : scopeOf (program.uniforms.map uniformDeclaration) =
      program.uniforms.map UniformSlot.name := by
    generalize program.uniforms = slots at uniforms
    induction slots with
    | nil => rfl
    | cons slot rest ih =>
        rw [List.map_cons, List.map_cons, scopeOf_cons,
          declaredName?_uniformDeclaration (uniforms slot List.mem_cons_self),
          ih fun other member => uniforms other (.tail _ member)]
        rfl
  have second : scopeOf (program.textures.flatMap textureDeclarations) =
      program.textures.flatMap fun slot => [slot.name, samplerName slot.name] := by
    generalize program.textures = slots at textures
    induction slots with
    | nil => rfl
    | cons slot rest ih =>
        rw [List.flatMap_cons, List.flatMap_cons, scopeOf_append,
          scopeOf_textureDeclarations (textures slot List.mem_cons_self),
          ih fun other member => textures other (.tail _ member)]
  have both := scopeOf_append (program.uniforms.map uniformDeclaration)
    (program.textures.flatMap textureDeclarations)
  rw [first, second] at both
  unfold resourceDeclarations
  dsimp only
  split
  · next none =>
      rw [List.isEmpty_iff.mp none] at both
      exact both
  · rw [scopeOf_append, both, scopeOf_cons, scopeOf_nil, CodeLine.content_zero]
    simp [declaredName?_nil]

/-- A function or an entry point is declared by the name in its header. -/
theorem declaredName?_header {name : String} (named : isIdentifier name) (rest : List Char) :
    declaredName? ("fn".toList ++ ' ' :: (name.toList ++ '(' :: rest)) = some name := by
  rw [declaredName?_declaration (by decide) (fun _ => isNameChar_of_mem named) (by decide),
    String.ofList_toList]

theorem scopeOf_declaration {function : ShaderFunction} (named : isIdentifier function.name) :
    scopeOf function.declaration = [function.name] := by
  have body : scopeOf (CodeLine.block 1 function.body) = [] := by
    apply scopeOf_inner
    intro line member
    obtain ⟨_, _, rfl⟩ := List.mem_map.mp member
    exact Nat.one_pos
  unfold ShaderFunction.declaration
  dsimp only
  rw [List.cons_append, scopeOf_cons, scopeOf_append, body, CodeLine.content_zero,
    function.toList_header, declaredName?_header named _, scopeOf_cons, scopeOf_nil, CodeLine.content_zero]
  rw [show declaredName? ("\x7d" : String).toList = none from declaredName?_brace]
  rfl

theorem scopeOf_functionDeclarations {code : StageCode}
    (functions : ∀ function ∈ code.functions, isIdentifier function.name) :
    scopeOf (functionDeclarations code) = code.functions.map ShaderFunction.name := by
  unfold functionDeclarations
  generalize code.functions = listed at functions
  induction listed with
  | nil => rfl
  | cons function rest ih =>
      rw [List.flatMap_cons, scopeOf_append, scopeOf_append,
        scopeOf_declaration (functions function List.mem_cons_self),
        ih fun other member => functions other (.tail _ member), scopeOf_cons,
        CodeLine.content_zero, List.map_cons]
      simp [declaredName?_nil, scopeOf_nil]

/-- An entry point is declared by its header alone. -/
theorem scopeOf_entryPoint {code : StageCode} {mark header variableName variableType : String}
    {entry : String} (marked : declaredName? mark.toList = none)
    (declared : declaredName? (header ++ " \x7b").toList = some entry) :
    scopeOf (entryPoint code mark header variableName variableType) = [entry] := by
  have statements : scopeOf ((code.body.statements code.stage).map (CodeLine.mk 1)) = [] := by
    apply scopeOf_inner
    intro line member
    obtain ⟨statement, _, rfl⟩ := List.mem_map.mp member
    exact Nat.one_pos
  unfold entryPoint
  rw [scopeOf_append, scopeOf_append, statements]
  simp only [scopeOf_cons, scopeOf_nil, CodeLine.content_zero, marked, declared,
    CodeLine.declaredName?_content_succ 0]
  rw [show declaredName? ("\x7d" : String).toList = none from declaredName?_brace]
  rfl

/-- Names declared in a module before its entry point. -/
def globalNames (program : Program) (code : StageCode) : List String :=
  vertexOutputStruct :: (program.uniforms.map UniformSlot.name ++
    ((program.textures.flatMap fun slot => [slot.name, samplerName slot.name]) ++
      code.functions.map ShaderFunction.name))

theorem Spelled.scopeOf_declarations (spelled : program.Spelled) {code : StageCode}
    (functions : ∀ function ∈ code.functions, function.fault? = none) :
    scopeOf (program.declarations code) = program.globalNames code := by
  have named : ∀ function ∈ code.functions, isIdentifier function.name := fun function member =>
    (ShaderFunction.fault?_eq_none_iff.mp (functions function member)).1
  unfold declarations
  rw [scopeOf_append, scopeOf_append, scopeOf_structDeclaration,
    scopeOf_resourceDeclarations spelled.uniforms spelled.textures,
    scopeOf_functionDeclarations named]
  simp [globalNames]

/-- The vertex module declares its globals, each by one line, and then its entry point. -/
theorem Spelled.moduleScope_vertexModule (spelled : program.Spelled) :
    moduleScope (renderCode program.vertexModule) =
      program.globalNames program.vertex ++ [program.options.vertexEntry] := by
  unfold moduleScope
  rw [spelled.splitLines_vertexModule]
  change scopeOf program.vertexModule = _
  unfold vertexModule
  rw [scopeOf_append, spelled.scopeOf_declarations spelled.vertexFunctions,
    scopeOf_entryPoint (by decide +kernel)]
  have header := declaredName?_header spelled.vertexEntry ((", ".intercalate
    (program.attributes.map fun slot => located slot.location slot.name slot.ty)).toList ++
      (") -> ".toList ++ (vertexOutputStruct.toList ++ " \x7b".toList)))
  simp only [String.toList_append, toList_toString]
  simpa using header

/-- The fragment module declares its globals, each by one line, and then its entry point. -/
theorem Spelled.moduleScope_fragmentModule (spelled : program.Spelled) :
    moduleScope (renderCode program.fragmentModule) =
      program.globalNames program.fragment ++ [program.options.fragmentEntry] := by
  unfold moduleScope
  rw [spelled.splitLines_fragmentModule]
  change scopeOf program.fragmentModule = _
  unfold fragmentModule
  rw [scopeOf_append, spelled.scopeOf_declarations spelled.fragmentFunctions,
    scopeOf_entryPoint (by decide +kernel)]
  have header := declaredName?_header spelled.fragmentEntry ((", ".intercalate
    (program.varyings.map fun slot => located slot.location slot.name slot.ty)).toList ++
      (") -> @location(0) ".toList ++ (ShaderType.vec4.wgsl.toList ++ " \x7b".toList)))
  simp only [String.toList_append, toList_toString]
  simpa using header

end Program

/-! ### Names that are declared once -/

/-- Section of a module that declarations of a kind stand in. -/
def DeclarationKind.scopeSection : DeclarationKind → Nat
  | .vertexOutputStruct => 0
  | .uniform _ | .engineUniform _ => 1
  | .texture | .sampler => 2
  | .function => 3
  | .vertexAttribute | .typedAttribute _ | .vary | .fragmentOutput | .generatedName => 4

namespace Linked

variable {graph : ShaderGraph} {vertexRoot fragmentRoot : NodeIndex} {resources : Resources}
  {names : ModuleNames} {program : Program}

theorem samplerName_injective {texture other : String}
    (same : samplerName texture = samplerName other) : texture = other := by
  simpa [samplerName] using same

/-- Textures and samplers bear different names. -/
theorem textureNames_nodup (sound : resources.Sound) :
    (resources.textures.flatMap fun slot => [slot.name, samplerName slot.name]).Nodup := by
  have kinds : ∀ slot ∈ resources.textures, ∀ other ∈ resources.textures,
      slot.name ≠ samplerName other.name := by
    intro slot member other otherMember same
    have isTexture := sound.texture slot member
    rw [same, sound.sampler other otherMember] at isTexture
    cases isTexture
  rw [List.nodup_flatMap]
  constructor
  · intro slot member
    simpa using kinds slot member slot member
  · have distinct := List.pairwise_map.mp sound.textures_distinct
    apply distinct.imp_of_mem
    intro slot other member otherMember unlike
    have samplers : samplerName slot.name ≠ samplerName other.name :=
      fun same => unlike (samplerName_injective same)
    simp only [Function.onFun, List.disjoint_cons_left, List.mem_cons, List.not_mem_nil, or_false,
      not_or, List.disjoint_nil_left, and_true]
    exact ⟨⟨unlike, kinds slot member other otherMember⟩,
      Ne.symm (kinds other otherMember slot member), samplers⟩

/-- Names that the table gives kinds of different sections are different. -/
theorem names_apart {first second : List String} {section_ other : Nat}
    (inFirst : ∀ name ∈ first, (names.get? name).map DeclarationKind.scopeSection = some section_)
    (inSecond : ∀ name ∈ second, (names.get? name).map DeclarationKind.scopeSection = some other)
    (unlike : section_ ≠ other) : ∀ name ∈ first, ∀ later ∈ second, name ≠ later := by
  rintro name inside later present rfl
  exact unlike (Option.some.inj ((inFirst name inside).symm.trans (inSecond name present)))

/-- No two globals of a module bear the same name. -/
theorem globalNames_nodup (linked : Linked graph vertexRoot fragmentRoot resources names program)
    {code : StageCode} (distinct : (code.functions.map ShaderFunction.name).Nodup)
    (declared : ∀ function ∈ code.functions, names.get? function.name = some .function) :
    (program.globalNames code).Nodup := by
  have sound := linked.sound
  have struct : ∀ name ∈ [vertexOutputStruct],
      (names.get? name).map DeclarationKind.scopeSection = some 0 := by
    intro name member
    rw [List.mem_singleton.mp member, sound.struct]
    rfl
  have uniforms : ∀ name ∈ program.uniforms.map UniformSlot.name,
      (names.get? name).map DeclarationKind.scopeSection = some 1 := by
    rw [linked.uniforms_eq]
    intro name member
    obtain ⟨slot, listed, rfl⟩ := List.mem_map.mp member
    rw [sound.uniform slot listed]
    unfold UniformSlot.kind
    cases slot.engine <;> rfl
  have textures : ∀ name ∈ program.textures.flatMap fun slot => [slot.name, samplerName slot.name],
      (names.get? name).map DeclarationKind.scopeSection = some 2 := by
    rw [linked.textures_eq]
    intro name member
    obtain ⟨slot, listed, held⟩ := List.mem_flatMap.mp member
    rcases List.mem_cons.mp held with rfl | last
    · rw [sound.texture slot listed]
      rfl
    · rw [List.mem_singleton.mp last, sound.sampler slot listed]
      rfl
  have functions : ∀ name ∈ code.functions.map ShaderFunction.name,
      (names.get? name).map DeclarationKind.scopeSection = some 3 := by
    intro name member
    obtain ⟨function, listed, rfl⟩ := List.mem_map.mp member
    rw [declared function listed]
    rfl
  have textureNames := textureNames_nodup sound
  have later : ((program.textures.flatMap fun slot => [slot.name, samplerName slot.name]) ++
      code.functions.map ShaderFunction.name).Nodup :=
    List.nodup_append.mpr ⟨linked.textures_eq ▸ textureNames, distinct,
      names_apart textures functions (by decide)⟩
  have resources : (program.uniforms.map UniformSlot.name ++
      ((program.textures.flatMap fun slot => [slot.name, samplerName slot.name]) ++
        code.functions.map ShaderFunction.name)).Nodup := by
    refine List.nodup_append.mpr ⟨linked.uniforms_eq ▸ sound.uniforms_distinct, later, ?_⟩
    intro name inside other member
    rcases List.mem_append.mp member with second | third
    · exact names_apart uniforms textures (by decide) name inside other second
    · exact names_apart uniforms functions (by decide) name inside other third
  refine List.nodup_cons.mpr ⟨?_, resources⟩
  intro member
  rcases List.mem_append.mp member with first | rest
  · exact names_apart struct uniforms (by decide) _ List.mem_cons_self _ first rfl
  · rcases List.mem_append.mp rest with second | third
    · exact names_apart struct textures (by decide) _ List.mem_cons_self _ second rfl
    · exact names_apart struct functions (by decide) _ List.mem_cons_self _ third rfl

end Linked

namespace ShaderGraph

/-- Names at module scope.  In a program compiled from a graph that calls lead to, each module
declares the struct, the uniforms, the textures with their samplers and the functions of its stage,
all under different names, and last its entry point.  The entry point goes through no table of names,
so the names of a module are pairwise different iff no other declaration bears the name of its entry
point. -/
theorem moduleScope_nodup_iff {graph : ShaderGraph} {descriptor : ProgramDescriptor}
    (reachable : graph.Reachable) (compiled : graph.compile = .ok descriptor) :
    ∃ program, graph.link = .ok program ∧ program.descriptor = descriptor ∧
      moduleScope descriptor.vertexSource =
        program.globalNames program.vertex ++ [descriptor.vertexEntry] ∧
      moduleScope descriptor.fragmentSource =
        program.globalNames program.fragment ++ [descriptor.fragmentEntry] ∧
      (program.globalNames program.vertex).Nodup ∧ (program.globalNames program.fragment).Nodup ∧
      ((moduleScope descriptor.vertexSource).Nodup ↔
        descriptor.vertexEntry ∉ program.globalNames program.vertex) ∧
      ((moduleScope descriptor.fragmentSource).Nodup ↔
        descriptor.fragmentEntry ∉ program.globalNames program.fragment) := by
  obtain ⟨program, linked, rfl⟩ := compile_eq_ok_iff.mp compiled
  obtain ⟨_, _, _, _, link⟩ := linked_of_link linked
  obtain ⟨_, vertex⟩ := generated_of_generateStage link.vertexGenerated
  obtain ⟨_, fragment⟩ := generated_of_generateStage link.fragmentGenerated
  have spelled := link.spelled reachable.wellNamed
  have vertexNames := link.globalNames_nodup vertex.functions_sound.1 fun function member =>
    link.declares_function (.inl member)
  have fragmentNames := link.globalNames_nodup fragment.functions_sound.1 fun function member =>
    link.declares_function (.inr member)
  have vertexScope := spelled.moduleScope_vertexModule
  have fragmentScope := spelled.moduleScope_fragmentModule
  refine ⟨program, linked, rfl, vertexScope, fragmentScope, vertexNames, fragmentNames, ?_, ?_⟩
  · change (moduleScope (renderCode program.vertexModule)).Nodup ↔ _
    rw [vertexScope, ← List.concat_eq_append, List.nodup_concat]
    exact and_iff_left vertexNames
  · change (moduleScope (renderCode program.fragmentModule)).Nodup ↔ _
    rw [fragmentScope, ← List.concat_eq_append, List.nodup_concat]
    exact and_iff_left fragmentNames

/-! ### A uniform that bears the name of an entry point -/

/-- The fragment root is a uniform of the name that the vertex entry point has by default. -/
def namesakeGraph : ShaderGraph :=
  (new 1 .empty).authorAll
    [.constant (.vec4 .zero .zero .zero .one), .uniform "vs_main" (.defaultFor .vec4),
      .setVertexRoot ⟨1, 0⟩, .setFragmentRoot ⟨1, 1⟩]

theorem link_namesakeGraph :
    namesakeGraph.link.map (fun program =>
      program.globalNames program.vertex ++ [program.descriptor.vertexEntry]) =
      .ok ["VertexOutput", "vs_main", "vs_main"] :=
  map_link_eq_of_linkWithin 9 (by decide +kernel)

/-- A program whose vertex module declares a uniform and a function of one name compiles. -/
theorem namesakeGraph_declares_twice :
    ∃ descriptor, namesakeGraph.Reachable ∧ namesakeGraph.compile = .ok descriptor ∧
      moduleScope descriptor.vertexSource = ["VertexOutput", "vs_main", "vs_main"] ∧
      ¬ (moduleScope descriptor.vertexSource).Nodup := by
  have reachable : namesakeGraph.Reachable := ⟨_, _, _, rfl⟩
  obtain ⟨program, linked, declared⟩ := map_eq_ok_iff.mp link_namesakeGraph
  obtain ⟨_, _, _, _, link⟩ := linked_of_link linked
  have scope : moduleScope program.descriptor.vertexSource =
      ["VertexOutput", "vs_main", "vs_main"] :=
    (link.spelled reachable.wellNamed).moduleScope_vertexModule.trans declared
  refine ⟨program.descriptor, reachable, compile_eq_ok_iff.mpr ⟨program, linked, rfl⟩, scope, ?_⟩
  rw [scope]
  decide

theorem moduleScope_nodup_iff_namesakeGraph :
    ∃ program, namesakeGraph.Reachable ∧ namesakeGraph.compile = .ok program.descriptor ∧
      namesakeGraph.link = .ok program ∧
      moduleScope program.descriptor.vertexSource =
        program.globalNames program.vertex ++ [program.descriptor.vertexEntry] ∧
      (program.globalNames program.vertex).Nodup ∧
      "vs_main" ∈ program.globalNames program.vertex ∧
      ((moduleScope program.descriptor.vertexSource).Nodup ↔
        program.descriptor.vertexEntry ∉ program.globalNames program.vertex) := by
  have reachable : namesakeGraph.Reachable := ⟨_, _, _, rfl⟩
  obtain ⟨program, linked, declared⟩ := map_eq_ok_iff.mp link_namesakeGraph
  have compiled : namesakeGraph.compile = .ok program.descriptor :=
    compile_eq_ok_iff.mpr ⟨program, linked, rfl⟩
  obtain ⟨_, linkedAgain, _, vertexScope, _, vertexNames, _, vertexIff, _⟩ :=
    moduleScope_nodup_iff reachable compiled
  cases linked.symm.trans linkedAgain
  have front : program.globalNames program.vertex = ["VertexOutput", "vs_main"] :=
    List.append_inj_left' (declared.trans (rfl : _ = ["VertexOutput", "vs_main"] ++ ["vs_main"])) rfl
  refine ⟨program, reachable, compiled, linked, vertexScope, vertexNames, ?_, vertexIff⟩
  rw [front]
  decide

end ShaderGraph

end ShaderFlow

/-
Module: ShaderFlow.Proofs.Shader.SourceDetermines
Purpose: What the source of a vertex module says about the manifests of its program.
Main exports: UniformSlot.declared, Program.Spelled.manifests_eq
-/
import ShaderFlow.Proofs.Shader.ModuleText

namespace ShaderFlow

/-!
Every attribute, texture and varying of a program can be read back from its vertex module, and so can
name, type and binding of every uniform.  What a uniform starts with, and whether the renderer fills
it, is not written there.
-/

/-- What the source says about a uniform. -/
def UniformSlot.declared (slot : UniformSlot) : String × ShaderType × Nat :=
  (slot.name, slot.ty, slot.binding)

namespace Program

variable {program other : Program}

/-! ### Reading back one declaration -/

theorem toList_located (location : Nat) (name : String) (ty : ShaderType) :
    (located location name ty).toList = "@location(".toList ++ ((toString location).toList ++
      ')' :: ' ' :: (name.toList ++ ':' :: ' ' :: ty.wgsl.toList)) := by
  simp only [located, String.toList_append, toList_toString]
  simp

theorem located_injective {location otherLocation : Nat} {name otherName : String}
    {ty otherTy : ShaderType} (named : isIdentifier name) (otherNamed : isIdentifier otherName)
    (same : located location name ty = located otherLocation otherName otherTy) :
    location = otherLocation ∧ name = otherName ∧ ty = otherTy := by
  have spelled := congrArg String.toList same
  rw [toList_located, toList_located] at spelled
  obtain ⟨number, rest⟩ := Text.eq_of_append_delimiter
    (not_mem_toString (by decide)) (not_mem_toString (by decide)) (List.append_cancel_left spelled)
  obtain ⟨letters, type⟩ := Text.eq_of_append_delimiter
    (not_mem_of_isIdentifier named (by decide)) (not_mem_of_isIdentifier otherNamed (by decide))
    (List.cons.inj rest).2
  exact ⟨eq_of_toList_toString number, String.toList_inj.mp letters,
    ShaderType.wgsl_injective (String.toList_inj.mp (List.cons.inj type).2)⟩

theorem resourceText_injective {group keyword rest otherRest : List Char}
    {binding otherBinding : Nat} {name otherName : String} (named : ':' ∉ name.toList)
    (otherNamed : ':' ∉ otherName.toList)
    (same : resourceText group binding keyword name rest =
      resourceText group otherBinding keyword otherName otherRest) :
    binding = otherBinding ∧ name = otherName ∧ rest = otherRest := by
  simp only [resourceText, List.append_assoc, List.cons.injEq, List.append_cancel_left_eq,
    true_and, List.cons_append, List.nil_append] at same
  obtain ⟨number, behind⟩ := Text.eq_of_append_delimiter
    (not_mem_toString (by decide)) (not_mem_toString (by decide)) same
  simp only [List.cons.injEq, List.append_cancel_left_eq, true_and] at behind
  obtain ⟨letters, type⟩ := Text.eq_of_append_delimiter named otherNamed behind
  exact ⟨eq_of_toList_toString number, String.toList_inj.mp letters, type⟩

theorem declared_eq_of_uniformDeclaration {slot otherSlot : UniformSlot}
    (named : isIdentifier slot.name) (otherNamed : isIdentifier otherSlot.name)
    (same : (uniformDeclaration slot).content = (uniformDeclaration otherSlot).content) :
    slot.declared = otherSlot.declared := by
  rw [content_uniformDeclaration, content_uniformDeclaration] at same
  obtain ⟨binding, name, type⟩ := resourceText_injective
    (not_mem_of_isIdentifier named (by decide)) (not_mem_of_isIdentifier otherNamed (by decide))
    same
  have ty := ShaderType.wgsl_injective
    (String.toList_inj.mp (List.append_cancel_right (List.cons.inj type).2))
  unfold UniformSlot.declared
  rw [binding, name, ty]

/-- A texture and its sampler are two lines; between them they tell both bindings. -/
theorem eq_of_textureDeclarations {slot otherSlot : TextureSlot}
    (named : isIdentifier slot.name) (otherNamed : isIdentifier otherSlot.name)
    (same : (textureDeclarations slot).map CodeLine.content =
      (textureDeclarations otherSlot).map CodeLine.content) : slot = otherSlot := by
  have free : ∀ {texture : TextureSlot}, isIdentifier texture.name →
      ':' ∉ texture.name.toList ∧ ':' ∉ (samplerName texture.name).toList := fun named =>
    have apart := not_mem_of_isIdentifier named (by decide)
    ⟨apart, not_mem_append.mpr ⟨apart, by decide⟩⟩
  rw [content_textureDeclarations, content_textureDeclarations, List.cons.injEq,
    List.cons.injEq] at same
  obtain ⟨binding, name, _⟩ :=
    resourceText_injective (free named).1 (free otherNamed).1 same.1
  obtain ⟨samplerBinding, _, _⟩ :=
    resourceText_injective (free named).2 (free otherNamed).2 same.2.1
  cases slot
  cases otherSlot
  simp_all

theorem textures_eq {textures others : List TextureSlot}
    (named : ∀ slot ∈ textures, isIdentifier slot.name)
    (otherNamed : ∀ slot ∈ others, isIdentifier slot.name)
    (same : (textures.flatMap fun slot => (textureDeclarations slot).map CodeLine.content) =
      others.flatMap fun slot => (textureDeclarations slot).map CodeLine.content) :
    textures = others := by
  induction textures generalizing others with
  | nil =>
      cases others with
      | nil => rfl
      | cons otherSlot others => cases same
  | cons slot textures ih =>
      cases others with
      | nil => cases same
      | cons otherSlot others =>
          rw [List.flatMap_cons, List.flatMap_cons] at same
          obtain ⟨here, later⟩ := List.append_inj same (by simp only [textureDeclarations,
            List.map_cons, List.map_nil, List.length_cons, List.length_nil])
          rw [eq_of_textureDeclarations (named slot List.mem_cons_self)
              (otherNamed otherSlot List.mem_cons_self) here,
            ih (fun slot member => named slot (.tail _ member))
              (fun slot member => otherNamed slot (.tail _ member)) later]

/-! ### Reading back the manifests -/

/-- Lines of the fields that carry the varyings. -/
def fieldLines (program : Program) : List (List Char) :=
  program.varyings.map fun slot =>
    CodeLine.content ⟨1, s!"{located slot.location slot.name slot.ty},"⟩

/-- Lines of the uniforms. -/
def uniformLines (program : Program) : List (List Char) :=
  program.uniforms.map fun slot => (uniformDeclaration slot).content

/-- Lines of the textures and samplers. -/
def textureLines (program : Program) : List (List Char) :=
  program.textures.flatMap fun slot => (textureDeclarations slot).map CodeLine.content

/-- Parameters of the entry point of the vertex stage. -/
def attributeList (program : Program) : String :=
  ", ".intercalate (program.attributes.map fun slot => located slot.location slot.name slot.ty)

/-- Header of the entry point of the vertex stage. -/
def vertexHeader (program : Program) : List Char :=
  "fn ".toList ++ (program.options.vertexEntry.toList ++ '(' ::
    (program.attributeList.toList ++ ") -> VertexOutput \x7b".toList))

/-- Whether a line starts with an attribute. -/
def isMarked (line : List Char) : Bool := line.head? == some '@'

theorem isMarked_content_succ (depth : Nat) (text : String) :
    isMarked (CodeLine.content ⟨depth + 1, text⟩) = false :=
  CodeLine.holds_of_content_succ (p := (isMarked · = false)) rfl (fun _ => rfl) depth text

theorem isMarked_functionDeclarations {code : StageCode} :
    ∀ line ∈ (functionDeclarations code).map CodeLine.content, isMarked line = false := by
  intro content member
  obtain ⟨line, listed, rfl⟩ := List.mem_map.mp member
  obtain ⟨function, _, held⟩ := List.mem_flatMap.mp listed
  rcases List.mem_append.mp held with declared | last
  · unfold ShaderFunction.declaration at declared
    rcases List.mem_cons.mp declared with rfl | later
    · rw [CodeLine.content_zero, function.toList_header]
      rfl
    · rcases List.mem_append.mp later with body | brace
      · obtain ⟨_, _, rfl⟩ := List.mem_map.mp body
        exact isMarked_content_succ 0 _
      · rw [List.mem_singleton.mp brace]
        decide
  · rw [List.mem_singleton.mp last]
    decide

theorem exists_of_mem_uniformLines {line : List Char} (member : line ∈ program.uniformLines) :
    ∃ rest, line = "@group(0)".toList ++ rest := by
  obtain ⟨slot, _, rfl⟩ := List.mem_map.mp member
  rw [content_uniformDeclaration]
  exact ⟨_, rfl⟩

theorem exists_of_mem_textureLines {line : List Char} (member : line ∈ program.textureLines) :
    ∃ rest, line = "@group(1)".toList ++ rest := by
  obtain ⟨slot, _, held⟩ := List.mem_flatMap.mp member
  rw [content_textureDeclarations] at held
  rcases List.mem_cons.mp held with rfl | last
  · exact ⟨_, rfl⟩
  · rw [List.mem_singleton.mp last]
    exact ⟨_, rfl⟩

theorem isMarked_resourceLines :
    ∀ line ∈ program.uniformLines ++ program.textureLines, isMarked line := by
  intro line member
  rcases List.mem_append.mp member with isUniform | isTexture
  · obtain ⟨rest, rfl⟩ := exists_of_mem_uniformLines isUniform
    rfl
  · obtain ⟨rest, rfl⟩ := exists_of_mem_textureLines isTexture
    rfl

/-- Whether a line starts like one of a uniform. -/
def isUniformLine (line : List Char) : Bool := line.take 9 == "@group(0)".toList

theorem isUniformLine_uniformLines : ∀ line ∈ program.uniformLines, isUniformLine line := by
  intro line member
  obtain ⟨rest, rfl⟩ := exists_of_mem_uniformLines member
  rfl

theorem isUniformLine_textureLines :
    ∀ line ∈ program.textureLines, isUniformLine line = false := by
  intro line member
  obtain ⟨rest, rfl⟩ := exists_of_mem_textureLines member
  rfl

theorem vertexMark_not_mem {plain : List (List Char)}
    (unmarked : ∀ line ∈ plain, isMarked line = false) :
    "@vertex".toList ∉ (program.uniformLines ++ program.textureLines) ++ plain := by
  intro member
  rcases List.mem_append.mp member with resource | isPlain
  · rcases List.mem_append.mp resource with isUniform | isTexture
    · obtain ⟨rest, same⟩ := exists_of_mem_uniformLines isUniform
      exact absurd same (by simp)
    · obtain ⟨rest, same⟩ := exists_of_mem_textureLines isTexture
      exact absurd same (by simp)
  · exact absurd (unmarked _ isPlain) (by decide)

theorem brace_not_mem_fieldLines : ['\x7d'] ∉ program.fieldLines := by
  intro member
  obtain ⟨slot, _, same⟩ := List.mem_map.mp member
  rcases CodeLine.content_succ 0 s!"{located slot.location slot.name slot.ty}," with
    blank | ⟨_, indented⟩
  · rw [blank] at same
    cases same
  · rw [indented] at same
    exact absurd same (by simp)

theorem map_content_structDeclaration (program : Program) :
    program.structDeclaration.map CodeLine.content =
      "struct VertexOutput \x7b".toList ::
        CodeLine.content ⟨1, "@builtin(position) clip_position: vec4<f32>,"⟩ ::
        (program.fieldLines ++ [['\x7d'], []]) := by
  unfold structDeclaration
  rw [List.map_append, List.map_cons, List.map_cons, List.map_map]
  rfl

theorem map_content_resourceDeclarations (program : Program) :
    ∃ blank, (∀ line ∈ blank, line = []) ∧
      program.resourceDeclarations.map CodeLine.content =
        (program.uniformLines ++ program.textureLines) ++ blank := by
  have lines : (program.uniforms.map uniformDeclaration ++
      program.textures.flatMap textureDeclarations).map CodeLine.content =
      program.uniformLines ++ program.textureLines := by
    rw [List.map_append, List.map_map, List.map_flatMap]
    rfl
  rw [← lines]
  unfold resourceDeclarations
  dsimp only
  split
  · next none =>
      rw [List.isEmpty_iff.mp none]
      exact ⟨[], by simp, rfl⟩
  · rw [List.map_append]
    exact ⟨[[]], by simp, rfl⟩

theorem map_content_entryPoint (code : StageCode) (mark header variableName variableType : String) :
    ∃ statements, (entryPoint code mark header variableName variableType).map CodeLine.content =
      mark.toList :: (header ++ " \x7b").toList :: statements := by
  unfold entryPoint
  simp only [List.cons_append, List.map_cons, CodeLine.content_zero]
  exact ⟨_, rfl⟩

/-- Lines of the vertex module: only resources and the mark of the stage start with an attribute. -/
theorem map_content_vertexModule (program : Program) :
    ∃ plain statements, (∀ line ∈ plain, isMarked line = false) ∧
      program.vertexModule.map CodeLine.content =
        "struct VertexOutput \x7b".toList ::
          CodeLine.content ⟨1, "@builtin(position) clip_position: vec4<f32>,"⟩ ::
          (program.fieldLines ++ ['\x7d'] :: [] ::
            (((program.uniformLines ++ program.textureLines) ++ plain) ++
              "@vertex".toList :: program.vertexHeader :: statements)) := by
  obtain ⟨blank, empty, resources⟩ := program.map_content_resourceDeclarations
  have header :
      (s!"fn {program.options.vertexEntry}({program.attributeList}) -> {vertexOutputStruct}" ++
        " \x7b").toList = program.vertexHeader := by
    simp only [String.toList_append, toList_toString, vertexHeader]
    simp [vertexOutputStruct]
  obtain ⟨statements, entry⟩ := map_content_entryPoint program.vertex "@vertex"
    s!"fn {program.options.vertexEntry}({program.attributeList}) -> {vertexOutputStruct}"
    vertexOutputVariable vertexOutputStruct
  rw [header] at entry
  refine ⟨blank ++ (functionDeclarations program.vertex).map CodeLine.content, statements, ?_, ?_⟩
  · intro line member
    rcases List.mem_append.mp member with isBlank | isFunction
    · rw [empty line isBlank]
      rfl
    · exact isMarked_functionDeclarations line isFunction
  · unfold attributeList at entry
    unfold vertexModule declarations
    rw [List.map_append, List.map_append, List.map_append, map_content_structDeclaration, resources,
      entry]
    simp

namespace Spelled

/-- Values at consecutive locations, as fields of a struct. -/
theorem varyings_eq (spelled : program.Spelled) (otherSpelled : other.Spelled)
    (same : program.fieldLines = other.fieldLines) : program.varyings = other.varyings := by
  have slots : ∀ slot ∈ program.varyings, ∀ otherSlot ∈ other.varyings,
      CodeLine.content ⟨1, s!"{located slot.location slot.name slot.ty},"⟩ =
        CodeLine.content ⟨1, s!"{located otherSlot.location otherSlot.name otherSlot.ty},"⟩ →
      id slot = id otherSlot := by
    intro slot member otherSlot otherMember lines
    have texts := congrArg String.toList (CodeLine.content_injective lines)
    simp only [String.toList_append, toList_toString, List.append_cancel_right_eq] at texts
    obtain ⟨location, name, ty⟩ := located_injective (spelled.varyings slot member)
      (otherSpelled.varyings otherSlot otherMember) (String.toList_inj.mp texts)
    cases slot
    cases otherSlot
    simp_all
  simpa using Text.map_eq_of_map_eq slots same

/-- Values at consecutive locations, as parameters of an entry point. -/
theorem attributes_eq (spelled : program.Spelled) (otherSpelled : other.Spelled)
    (entry : program.options.vertexEntry = other.options.vertexEntry)
    (same : program.vertexHeader = other.vertexHeader) :
    program.attributes = other.attributes := by
  have parameters : ∀ {program : Program}, program.Spelled →
      ∀ text ∈ (program.attributes.map fun slot =>
        located slot.location slot.name slot.ty).map String.toList, text ≠ [] ∧ ',' ∉ text := by
    intro program spelled text member
    obtain ⟨_, listed, rfl⟩ := List.mem_map.mp member
    obtain ⟨slot, held, rfl⟩ := List.mem_map.mp listed
    refine ⟨?_, not_mem_located (spelled.attributes slot held) (by decide) (by decide) (by decide)⟩
    rw [toList_located]
    simp
  have slots : ∀ slot ∈ program.attributes, ∀ otherSlot ∈ other.attributes,
      located slot.location slot.name slot.ty =
        located otherSlot.location otherSlot.name otherSlot.ty → id slot = id otherSlot := by
    intro slot member otherSlot otherMember texts
    obtain ⟨location, name, ty⟩ := located_injective (spelled.attributes slot member)
      (otherSpelled.attributes otherSlot otherMember) texts
    cases slot
    cases otherSlot
    simp_all
  unfold vertexHeader attributeList at same
  rw [entry] at same
  have lists := List.append_cancel_right
    (List.cons.inj (List.append_cancel_left (List.append_cancel_left same))).2
  rw [String.toList_intercalate, String.toList_intercalate] at lists
  have texts := Text.eq_of_intercalate (parameters spelled) (parameters otherSpelled) lists
  simpa using Text.map_eq_of_map_eq slots
    (List.map_injective_iff.mpr (fun _ _ => String.toList_injective) texts)

/-- Programs with the same vertex module differ at most in what their uniforms start with and in who
fills these. -/
theorem manifests_eq (spelled : program.Spelled) (otherSpelled : other.Spelled)
    (entry : program.options.vertexEntry = other.options.vertexEntry)
    (source : renderCode program.vertexModule = renderCode other.vertexModule) :
    program.attributes = other.attributes ∧ program.textures = other.textures ∧
      program.varyings = other.varyings ∧
      program.uniforms.map UniformSlot.declared = other.uniforms.map UniformSlot.declared := by
  have lines : program.vertexModule.map CodeLine.content =
      other.vertexModule.map CodeLine.content := by
    rw [← spelled.splitLines_vertexModule, source, otherSpelled.splitLines_vertexModule]
  obtain ⟨plain, statements, unmarked, shape⟩ := program.map_content_vertexModule
  obtain ⟨otherPlain, otherStatements, otherUnmarked, otherShape⟩ := other.map_content_vertexModule
  rw [shape, otherShape] at lines
  obtain ⟨fields, behind⟩ := Text.eq_of_append_delimiter brace_not_mem_fieldLines
    brace_not_mem_fieldLines (List.cons.inj (List.cons.inj lines).2).2
  obtain ⟨declared, stage⟩ := Text.eq_of_append_delimiter (vertexMark_not_mem unmarked)
    (vertexMark_not_mem otherUnmarked) (List.cons.inj behind).2
  obtain ⟨resources, _⟩ := Text.eq_of_append_of_apart isMarked_resourceLines isMarked_resourceLines
    unmarked otherUnmarked declared
  obtain ⟨uniforms, textures⟩ := Text.eq_of_append_of_apart (p := isUniformLine)
    isUniformLine_uniformLines isUniformLine_uniformLines isUniformLine_textureLines
    isUniformLine_textureLines resources
  refine ⟨spelled.attributes_eq otherSpelled entry (List.cons.inj stage).1,
    textures_eq spelled.textures otherSpelled.textures textures,
    spelled.varyings_eq otherSpelled fields, Text.map_eq_of_map_eq ?_ uniforms⟩
  intro slot member otherSlot otherMember
  exact declared_eq_of_uniformDeclaration (spelled.uniforms slot member)
    (otherSpelled.uniforms otherSlot otherMember)

end Spelled

end Program

end ShaderFlow

/-
Module: ShaderFlow.Proofs.Shader.UniformTypes
Purpose: The types that the sources of a program declare its uniforms with.
Main exports: DeclaresUniform, Program.mem_uniformLines_of_mem_module,
  ProgramDescriptor.Compiled.declaresUniform_iff
-/
import ShaderFlow.Proofs.Shader.SourceDetermines

namespace ShaderFlow

/-!
A source may declare a uniform in one way only: at the start of a line, behind the attributes for group
zero and a binding.  Compiled sources have one such line for each uniform of the program and no other
one, so what they say about the type of a uniform is what the program says.
-/

/-- A line of the source declares a uniform of the name, at the binding and with the type. -/
def DeclaresUniform (source name : String) (binding : Nat) (ty : ShaderType) : Prop :=
  (s!"@group(0) @binding({binding}) var<uniform> {name}: {ty.wgsl};").toList ∈
    Text.splitLines source.toList

namespace Program

variable {program : Program} {line : List Char}

/-! ### Lines that start like a declaration of a uniform -/

theorem toList_uniformText (binding : Nat) (name : String) (ty : ShaderType) :
    (s!"@group(0) @binding({binding}) var<uniform> {name}: {ty.wgsl};").toList =
      resourceText "group(0)".toList binding "var<uniform>".toList name
        (' ' :: (ty.wgsl.toList ++ [';'])) := by
  simp only [String.toList_append, toList_toString]
  simp [resourceText]

theorem isUniformLine_of_unmarked (unmarked : isMarked line = false) :
    isUniformLine line = false := by
  cases line with
  | nil => rfl
  | cons first rest =>
      have odd : first ≠ '@' := by simpa [isMarked] using unmarked
      simp [isUniformLine, odd]

theorem isUniformLine_resourceText (binding : Nat) (keyword : List Char) (name : String)
    (rest : List Char) :
    isUniformLine (resourceText "group(0)".toList binding keyword name rest) = true := rfl

theorem isMarked_structDeclaration (member : line ∈ program.structDeclaration.map CodeLine.content) :
    isMarked line = false := by
  rw [map_content_structDeclaration] at member
  rcases List.mem_cons.mp member with rfl | member
  · rfl
  · rcases List.mem_cons.mp member with rfl | member
    · exact isMarked_content_succ 0 _
    · rcases List.mem_append.mp member with field | last
      · obtain ⟨slot, _, rfl⟩ := List.mem_map.mp field
        exact isMarked_content_succ 0 _
      · rcases List.mem_cons.mp last with rfl | last
        · rfl
        · rw [List.mem_singleton.mp last]
          rfl

/-- What stands in an entry point behind its mark is not marked. -/
theorem isMarked_entryPoint {code : StageCode} {mark header variableName variableType : String}
    (function : isMarked (header ++ " \x7b").toList = false)
    (member : line ∈ (entryPoint code mark header variableName variableType).map CodeLine.content) :
    line = mark.toList ∨ isMarked line = false := by
  obtain ⟨⟨depth, text⟩, listed, rfl⟩ := List.mem_map.mp member
  simp only [entryPoint, List.mem_append, List.mem_cons, List.mem_map, List.not_mem_nil, or_false,
    CodeLine.mk.injEq] at listed
  rcases listed with ((⟨rfl, rfl⟩ | ⟨rfl, rfl⟩ | ⟨rfl, rfl⟩) | ⟨_, _, rfl, rfl⟩) | ⟨rfl, rfl⟩ |
    ⟨rfl, rfl⟩
  · exact .inl (CodeLine.content_zero _)
  · exact .inr (by rw [CodeLine.content_zero, function])
  · exact .inr (isMarked_content_succ 0 _)
  · exact .inr (isMarked_content_succ 0 _)
  · exact .inr (isMarked_content_succ 0 _)
  · exact .inr (by decide +kernel)

/-- Only the uniforms of a program are declared by lines that start like the declaration of one. -/
theorem mem_uniformLines_of_mem_module {code : StageCode}
    {mark header variableName variableType : String} (stage : isUniformLine mark.toList = false)
    (function : isMarked (header ++ " \x7b").toList = false)
    (member : line ∈ (program.declarations code ++
      entryPoint code mark header variableName variableType).map CodeLine.content)
    (uniform : isUniformLine line = true) : line ∈ program.uniformLines := by
  have marked : isMarked line ≠ false := by
    intro unmarked
    rw [isUniformLine_of_unmarked unmarked] at uniform
    cases uniform
  rw [declarations, List.map_append, List.map_append, List.map_append] at member
  rcases List.mem_append.mp member with declared | entry
  · rcases List.mem_append.mp declared with member | isFunction
    · rcases List.mem_append.mp member with isStruct | resource
      · exact absurd (isMarked_structDeclaration isStruct) marked
      · obtain ⟨blank, empty, same⟩ := program.map_content_resourceDeclarations
        rw [same] at resource
        rcases List.mem_append.mp resource with slot | isBlank
        · rcases List.mem_append.mp slot with isUniform | isTexture
          · exact isUniform
          · cases (isUniformLine_textureLines line isTexture).symm.trans uniform
        · rw [empty line isBlank] at uniform
          cases uniform
    · exact absurd (isMarked_functionDeclarations line isFunction) marked
  · rcases isMarked_entryPoint function entry with rfl | unmarked
    · cases stage.symm.trans uniform
    · exact absurd unmarked marked

theorem mem_module_of_mem_uniformLines {code : StageCode} {entry : List CodeLine}
    (member : line ∈ program.uniformLines) :
    line ∈ (program.declarations code ++ entry).map CodeLine.content := by
  obtain ⟨blank, _, same⟩ := program.map_content_resourceDeclarations
  have resource : line ∈ program.resourceDeclarations.map CodeLine.content := by
    rw [same]
    exact List.mem_append_left _ (List.mem_append_left _ member)
  rw [declarations, List.map_append, List.map_append, List.map_append]
  exact List.mem_append_left _ (List.mem_append_left _ (List.mem_append_right _ resource))

/-! ### Types of uniforms -/

/-- If the lines of a source that start like the declaration of a uniform are those of the uniforms of
a program, the source declares each of them at its binding and with its type, and in no other way. -/
theorem Spelled.declaresUniform_iff (spelled : program.Spelled)
    (distinct : (program.uniforms.map UniformSlot.name).Nodup) {source : String}
    (lines : ∀ line, line ∈ Text.splitLines source.toList ∧ isUniformLine line = true ↔
      line ∈ program.uniformLines)
    {slot : UniformSlot} (member : slot ∈ program.uniforms) (binding : Nat) (ty : ShaderType) :
    DeclaresUniform source slot.name binding ty ↔ binding = slot.binding ∧ ty = slot.ty := by
  constructor
  · intro listed
    rw [DeclaresUniform, toList_uniformText] at listed
    obtain ⟨other, held, same⟩ := List.mem_map.mp
      ((lines _).mp ⟨listed, isUniformLine_resourceText ..⟩)
    rw [content_uniformDeclaration] at same
    obtain ⟨number, name, type⟩ := resourceText_injective
      (not_mem_of_isIdentifier (spelled.uniforms other held) (by decide))
      (not_mem_of_isIdentifier (spelled.uniforms slot member) (by decide)) same
    have one : other = slot := List.inj_on_of_nodup_map distinct held member name
    have ty_eq := ShaderType.wgsl_injective
      (String.toList_inj.mp (List.append_cancel_right (List.cons.inj type).2))
    exact ⟨one ▸ number.symm, one ▸ ty_eq.symm⟩
  · rintro ⟨rfl, rfl⟩
    rw [DeclaresUniform, toList_uniformText, ← content_uniformDeclaration]
    exact ((lines _).mpr (List.mem_map.mpr ⟨slot, member, rfl⟩)).1

theorem Spelled.mem_vertexModule_iff (spelled : program.Spelled) (line : List Char) :
    line ∈ Text.splitLines (renderCode program.vertexModule).toList ∧ isUniformLine line = true ↔
      line ∈ program.uniformLines := by
  rw [spelled.splitLines_vertexModule, vertexModule]
  refine ⟨fun ⟨member, uniform⟩ =>
    mem_uniformLines_of_mem_module (by decide) ?_ member uniform, fun member =>
      ⟨mem_module_of_mem_uniformLines member, isUniformLine_uniformLines line member⟩⟩
  simp [isMarked, toList_toString]

theorem Spelled.mem_fragmentModule_iff (spelled : program.Spelled) (line : List Char) :
    line ∈ Text.splitLines (renderCode program.fragmentModule).toList ∧ isUniformLine line = true ↔
      line ∈ program.uniformLines := by
  rw [spelled.splitLines_fragmentModule, fragmentModule]
  refine ⟨fun ⟨member, uniform⟩ =>
    mem_uniformLines_of_mem_module (by decide) ?_ member uniform, fun member =>
      ⟨mem_module_of_mem_uniformLines member, isUniformLine_uniformLines line member⟩⟩
  simp [isMarked, toList_toString]

end Program

namespace ProgramDescriptor

/-- The descriptor comes from a graph that calls lead to. -/
def Compiled (descriptor : ProgramDescriptor) : Prop :=
  ∃ graph : ShaderGraph, graph.Reachable ∧ graph.compile = .ok descriptor

/-- Both sources of a compiled program declare every uniform at its binding and with its type, and in
no other way. -/
theorem Compiled.declaresUniform_iff {descriptor : ProgramDescriptor} (compiled : descriptor.Compiled)
    {source : String} (either : source ∈ [descriptor.vertexSource, descriptor.fragmentSource])
    {slot : UniformSlot} (member : slot ∈ descriptor.uniforms) (binding : Nat) (ty : ShaderType) :
    DeclaresUniform source slot.name binding ty ↔ binding = slot.binding ∧ ty = slot.ty := by
  obtain ⟨graph, reachable, compiled⟩ := compiled
  obtain ⟨program, linked, rfl⟩ := ShaderGraph.compile_eq_ok_iff.mp compiled
  obtain ⟨_, _, _, _, link⟩ := ShaderGraph.linked_of_link linked
  have spelled := link.spelled reachable.wellNamed
  have distinct : (program.uniforms.map UniformSlot.name).Nodup := by
    rw [link.uniforms_eq]
    exact link.sound.uniforms_distinct
  have vertex := spelled.declaresUniform_iff distinct spelled.mem_vertexModule_iff member
    binding ty
  have fragment := spelled.declaresUniform_iff distinct spelled.mem_fragmentModule_iff
    member binding ty
  simp only [List.mem_cons, List.not_mem_nil, or_false] at either
  rcases either with rfl | rfl
  · exact vertex
  · exact fragment

end ProgramDescriptor

end ShaderFlow

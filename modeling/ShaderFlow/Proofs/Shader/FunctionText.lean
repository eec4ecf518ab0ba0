/-
Module: ShaderFlow.Proofs.Shader.FunctionText
Purpose: The functions that the source of a module declares, read off the lines that open them.
Main exports: ShaderFunction.header, ShaderFunction.signature, functionLines,
  ShaderFunction.signature_eq_of_header, Program.Spelled.functionLines_source
-/
import ShaderFlow.Proofs.Shader.NameResolution
import ShaderFlow.Proofs.Shader.SourceDetermines

namespace ShaderFlow

/-!
A function opens with a line of its own, outside of all blocks, and no other line starts with its
keyword.  The line spells out name, parameters and result, and each of them can be read back: the
name ends at the first parenthesis, and the parameters, which hold none, at the next one.
-/

/-! ### Headers -/

namespace ShaderFunction

/-- The line that opens the declaration of a function. -/
def header (function : ShaderFunction) : String :=
  s!"fn {function.name}({parameterList function.inputs}) -> {function.returnType.wgsl} " ++ "\x7b"

/-- What a caller has to know of a function: its name, its parameters in order, and its result. -/
def signature (function : ShaderFunction) : String × List Parameter × ShaderType :=
  (function.name, function.inputs, function.returnType)

/-- A parameter as it stands in a declaration. -/
def parameterText (input : Parameter) : String := s!"{input.name}: {input.ty.wgsl}"

variable {function other : ShaderFunction} {input otherInput : Parameter}

theorem toList_parameterText (input : Parameter) :
    (parameterText input).toList = input.name.toList ++ ':' :: ' ' :: input.ty.wgsl.toList := by
  simp only [parameterText, String.toList_append, toList_toString]
  simp

theorem parameterText_injective (named : isIdentifier input.name)
    (otherNamed : isIdentifier otherInput.name)
    (same : parameterText input = parameterText otherInput) : input = otherInput := by
  have spelled := congrArg String.toList same
  rw [toList_parameterText, toList_parameterText] at spelled
  obtain ⟨name, type⟩ := Text.eq_of_append_delimiter
    (not_mem_of_isIdentifier named (by decide)) (not_mem_of_isIdentifier otherNamed (by decide))
    spelled
  have sameName := String.toList_inj.mp name
  have sameType := ShaderType.wgsl_injective (String.toList_inj.mp (List.cons.inj type).2)
  cases input
  cases otherInput
  simp_all

theorem not_mem_parameterText {c : Char} (named : isIdentifier input.name)
    (odd : isNameChar c = false) (marks : c ∉ ": f32vec4<>matx".toList) :
    c ∉ (parameterText input).toList := by
  have name := not_mem_of_isIdentifier named odd
  have type : c ∉ input.ty.wgsl.toList := ShaderType.not_mem_wgsl (by simp_all)
  rw [toList_parameterText]
  simp_all

/-- Parameters can be read back from their list. -/
theorem inputs_eq_of_parameterList {inputs others : List Parameter}
    (named : ∀ input ∈ inputs, isIdentifier input.name)
    (otherNamed : ∀ input ∈ others, isIdentifier input.name)
    (same : parameterList inputs = parameterList others) : inputs = others := by
  have free : ∀ {inputs : List Parameter}, (∀ input ∈ inputs, isIdentifier input.name) →
      ∀ text ∈ (inputs.map parameterText).map String.toList, text ≠ [] ∧ ',' ∉ text := by
    intro inputs named text member
    obtain ⟨_, listed, rfl⟩ := List.mem_map.mp member
    obtain ⟨input, held, rfl⟩ := List.mem_map.mp listed
    refine ⟨?_, not_mem_parameterText (named input held) (by decide) (by decide)⟩
    rw [toList_parameterText]
    simp
  have lists := congrArg String.toList same
  unfold parameterList at lists
  rw [String.toList_intercalate, String.toList_intercalate] at lists
  have texts := Text.eq_of_intercalate (free named) (free otherNamed) lists
  have sameInputs : inputs.map id = others.map id := Text.map_eq_of_map_eq
    (fun input member other present =>
      parameterText_injective (named input member) (otherNamed other present))
    (List.map_injective_iff.mpr (fun _ _ => String.toList_injective) texts)
  simpa using sameInputs

theorem parenthesis_not_mem_parameterList {inputs : List Parameter}
    (named : ∀ input ∈ inputs, isIdentifier input.name) : ')' ∉ (parameterList inputs).toList := by
  apply not_mem_intercalate (by decide)
  intro text member
  obtain ⟨input, listed, rfl⟩ := List.mem_map.mp member
  exact not_mem_parameterText (named input listed) (by decide) (by decide)

/-- A header says what a caller has to know: definitions without fault that are opened alike have the
same name, parameters and result. -/
theorem signature_eq_of_header (faultless : function.fault? = none)
    (otherFaultless : other.fault? = none) (same : function.header = other.header) :
    function.signature = other.signature := by
  obtain ⟨named, inputs, _⟩ := fault?_eq_none_iff.mp faultless
  obtain ⟨otherNamed, otherInputs, _⟩ := fault?_eq_none_iff.mp otherFaultless
  have spelled := congrArg String.toList same
  unfold header at spelled
  rw [toList_header, toList_header] at spelled
  obtain ⟨name, behind⟩ := Text.eq_of_append_delimiter
    (not_mem_of_isIdentifier named (by decide)) (not_mem_of_isIdentifier otherNamed (by decide))
    (List.cons.inj (List.append_cancel_left spelled)).2
  obtain ⟨parameters, result⟩ := Text.eq_of_append_delimiter
    (parenthesis_not_mem_parameterList inputs) (parenthesis_not_mem_parameterList otherInputs)
    behind
  have ty : function.returnType = other.returnType :=
    ShaderType.wgsl_injective (String.toList_inj.mp
      (List.append_cancel_right (List.append_cancel_left result)))
  unfold signature
  rw [String.toList_inj.mp name, ty,
    inputs_eq_of_parameterList inputs otherInputs (String.toList_inj.mp parameters)]

end ShaderFunction

/-! ### Lines that open a function -/

/-- Whether a line opens a function. -/
def isFunctionLine (line : List Char) : Bool := "fn ".toList.isPrefixOf line

/-- The lines of a source that open functions, from top to bottom. -/
def functionLines (source : String) : List (List Char) :=
  (Text.splitLines source.toList).filter isFunctionLine

namespace Program

variable {program : Program}

/-- The lines that open functions, among lines of code. -/
def openings (lines : List CodeLine) : List (List Char) :=
  (lines.map CodeLine.content).filter isFunctionLine

theorem openings_append (lines later : List CodeLine) :
    openings (lines ++ later) = openings lines ++ openings later := by
  simp [openings]

theorem openings_cons (line : CodeLine) (lines : List CodeLine) :
    openings (line :: lines) = openings [line] ++ openings lines :=
  openings_append [line] lines

theorem openings_eq_nil {lines : List CodeLine}
    (plain : ∀ line ∈ lines, isFunctionLine line.content = false) : openings lines = [] := by
  unfold openings
  rw [List.filter_eq_nil_iff]
  intro content member
  obtain ⟨line, listed, rfl⟩ := List.mem_map.mp member
  simp [plain line listed]

theorem isFunctionLine_content_succ (depth : Nat) (text : String) :
    isFunctionLine (CodeLine.content ⟨depth + 1, text⟩) = false :=
  CodeLine.holds_of_content_succ (p := (isFunctionLine · = false)) rfl (fun _ => rfl) depth text

theorem openings_structDeclaration : openings program.structDeclaration = [] := by
  apply openings_eq_nil
  intro line member
  simp only [structDeclaration, List.mem_append, List.mem_cons, List.mem_map, List.not_mem_nil,
    or_false] at member
  rcases member with (rfl | rfl | ⟨slot, _, rfl⟩) | rfl | rfl
  · decide +kernel
  · exact isFunctionLine_content_succ 0 _
  · exact isFunctionLine_content_succ 0 _
  · decide
  · decide

theorem openings_resourceDeclarations : openings program.resourceDeclarations = [] := by
  obtain ⟨blank, empty, lines⟩ := program.map_content_resourceDeclarations
  unfold openings
  rw [lines, List.filter_eq_nil_iff]
  intro line member
  rcases List.mem_append.mp member with isResource | isBlank
  · rcases List.mem_append.mp isResource with isUniform | isTexture
    · obtain ⟨rest, rfl⟩ := exists_of_mem_uniformLines isUniform
      simp [isFunctionLine]
    · obtain ⟨rest, rfl⟩ := exists_of_mem_textureLines isTexture
      simp [isFunctionLine]
  · rw [empty line isBlank]
    decide

theorem openings_declaration (function : ShaderFunction) :
    openings function.declaration = [function.header.toList] := by
  have opens : isFunctionLine function.header.toList := by
    unfold ShaderFunction.header
    rw [function.toList_header]
    rfl
  have rest : openings (CodeLine.block 1 function.body ++ [⟨0, "\x7d"⟩]) = [] := by
    apply openings_eq_nil
    intro line member
    rcases List.mem_append.mp member with body | brace
    · obtain ⟨_, _, rfl⟩ := List.mem_map.mp body
      exact isFunctionLine_content_succ 0 _
    · rw [List.mem_singleton.mp brace]
      decide
  unfold ShaderFunction.declaration
  dsimp only
  rw [List.cons_append, openings_cons, rest, List.append_nil]
  unfold openings
  rw [List.map_singleton, CodeLine.content_zero]
  exact List.filter_cons_of_pos opens

/-- The functions of a stage are opened one after another. -/
theorem openings_functionDeclarations (code : StageCode) :
    openings (functionDeclarations code) =
      code.functions.map fun function => function.header.toList := by
  unfold functionDeclarations
  induction code.functions with
  | nil => rfl
  | cons function rest ih =>
      rw [List.flatMap_cons, openings_append, openings_append, openings_declaration, ih]
      rfl

/-- Only the header of an entry point opens a function. -/
theorem openings_entryPoint {code : StageCode} {mark header variableName variableType : String}
    (marked : isFunctionLine mark.toList = false)
    (opens : isFunctionLine (header ++ " \x7b").toList) :
    openings (entryPoint code mark header variableName variableType) =
      [(header ++ " \x7b").toList] := by
  have statements : openings ((code.body.statements code.stage).map (CodeLine.mk 1) ++
      [⟨1, s!"return {variableName};"⟩, ⟨0, "\x7d"⟩]) = [] := by
    apply openings_eq_nil
    intro line member
    simp only [List.mem_append, List.mem_map, List.mem_cons, List.not_mem_nil, or_false] at member
    rcases member with ⟨_, _, rfl⟩ | rfl | rfl
    · exact isFunctionLine_content_succ 0 _
    · exact isFunctionLine_content_succ 0 _
    · decide
  unfold entryPoint
  rw [List.append_assoc, openings_append, statements, List.append_nil]
  unfold openings
  simp only [List.map_cons, List.map_nil, CodeLine.content_zero, List.filter_cons, marked, opens,
    isFunctionLine_content_succ 0, if_true, Bool.false_eq_true, if_false, List.filter_nil]

/-- The source of a module. -/
def source (program : Program) : Stage → String
  | .vertex => program.descriptor.vertexSource
  | .fragment => program.descriptor.fragmentSource

/-- The line that opens an entry point. -/
def entryHeader (program : Program) : Stage → String
  | .vertex =>
      let parameters := ", ".intercalate
        (program.attributes.map fun slot => located slot.location slot.name slot.ty)
      s!"fn {program.options.vertexEntry}({parameters}) -> {vertexOutputStruct}" ++ " \x7b"
  | .fragment =>
      let parameters := ", ".intercalate
        (program.varyings.map fun slot => located slot.location slot.name slot.ty)
      s!"fn {program.options.fragmentEntry}({parameters}) -> @location(0) {ShaderType.vec4.wgsl}" ++
        " \x7b"

theorem isFunctionLine_entryHeader (stage : Stage) :
    isFunctionLine (program.entryHeader stage).toList := by
  cases stage <;>
    · simp only [entryHeader, String.toList_append]
      rfl

/-- A module opens the functions of its stage, in order, and then its entry point. -/
theorem Spelled.functionLines_source (spelled : program.Spelled) (stage : Stage) :
    functionLines (program.source stage) =
      ((program.code stage).functions.map fun function => function.header.toList) ++
        [(program.entryHeader stage).toList] := by
  have declarations : ∀ code, openings (program.declarations code) =
      code.functions.map fun function => function.header.toList := by
    intro code
    unfold Program.declarations
    rw [openings_append, openings_append, openings_structDeclaration,
      openings_resourceDeclarations, openings_functionDeclarations]
    rfl
  cases stage with
  | vertex =>
      unfold functionLines source descriptor
      rw [spelled.splitLines_vertexModule]
      change openings program.vertexModule = _
      unfold vertexModule
      rw [openings_append, declarations,
        openings_entryPoint (by decide) (isFunctionLine_entryHeader .vertex)]
      rfl
  | fragment =>
      unfold functionLines source descriptor
      rw [spelled.splitLines_fragmentModule]
      change openings program.fragmentModule = _
      unfold fragmentModule
      rw [openings_append, declarations,
        openings_entryPoint (by decide) (isFunctionLine_entryHeader .fragment)]
      rfl

end Program

end ShaderFlow

/-
Module: ShaderFlow.Proofs.Shader.TemporaryNames
Purpose: The temporaries of different nodes have different names.
Main exports: ShaderNode.variableName_eq, ShaderNode.index_eq_of_variableName_eq,
  ShaderNode.variableName_spelling
-/
import ShaderFlow.Proofs.Shader.SourceText
import ShaderFlow.Shader.Temporary

namespace ShaderFlow

namespace ShaderNode

/-- The name of a temporary is spelled from the slot alone or from a label and the slot. -/
theorem variableName_eq (node : ShaderNode) (index : NodeIndex) :
    node.variableName index = String.ofList ('_' :: 't' :: Nat.toDigits 10 index) ∨
      ∃ label, node.variableName index =
        String.ofList ('_' :: sanitizeLabel label ++ '_' :: Nat.toDigits 10 index) := by
  unfold variableName
  split
  · exact .inr ⟨_, rfl⟩
  · exact .inl rfl

/-- A name without label has no underscore after the first character, and one with a label has. -/
theorem unlabelled_ne_labelled {index other : NodeIndex} {label : List Char} :
    't' :: Nat.toDigits 10 index ≠ sanitizeLabel label ++ '_' :: Nat.toDigits 10 other := by
  intro same
  have underscore : '_' ∈ 't' :: Nat.toDigits 10 index := by
    rw [same]
    simp
  simp at underscore

/-- The slot of a node can be read off the name of its temporary. -/
theorem index_eq_of_variableName_eq {node other : ShaderNode} {index otherIndex : NodeIndex}
    (same : node.variableName index = other.variableName otherIndex) : index = otherIndex := by
  rcases variableName_eq node index with first | ⟨label, first⟩ <;>
    rcases variableName_eq other otherIndex with second | ⟨otherLabel, second⟩ <;>
    rw [first, second, String.ofList_inj] at same
  · simp only [List.cons.injEq, true_and] at same
    exact eq_of_toDigits_eq same
  · simp only [List.cons_append, List.cons.injEq, true_and] at same
    exact absurd same unlabelled_ne_labelled
  · simp only [List.cons_append, List.cons.injEq, true_and] at same
    exact absurd same.symm unlabelled_ne_labelled
  · exact eq_of_toDigits_eq (Text.eq_of_delimiter_append Nat.underscore_not_in_toDigits
      Nat.underscore_not_in_toDigits same).2

theorem isNameChar_of_mem_sanitizeLabel {label : List Char} {c : Char}
    (member : c ∈ sanitizeLabel label) : isNameChar c := by
  have cleaned : ∀ c ∈ Text.dropEndWhile (fun c => c = '_')
      ((label.map underscored).dropWhile fun c => c = '_'), isNameChar c := by
    intro c inside
    have kept := (List.dropWhile_sublist _).mem (Text.mem_of_mem_dropEndWhile inside)
    obtain ⟨original, _, rfl⟩ := List.mem_map.mp kept
    unfold underscored isNameChar
    split <;> simp_all
  unfold sanitizeLabel at member
  dsimp only at member
  split at member
  · exact List.all_eq_true.mp (by decide) c member
  · split at member
    · exact cleaned c member
    · rcases List.mem_cons.mp member with rfl | later
      · decide
      · exact cleaned c later

/-- A label as part of a name starts with a letter. -/
theorem exists_isAlpha_of_sanitizeLabel (label : List Char) :
    ∃ first rest, sanitizeLabel label = first :: rest ∧ first.isAlpha := by
  unfold sanitizeLabel
  dsimp only
  split
  · exact ⟨'n', _, rfl, by decide⟩
  · next first rest cleaned =>
      split
      · next letter => exact ⟨first, rest, cleaned, letter⟩
      · exact ⟨'n', _, rfl, by decide⟩

/-- The name of a temporary is made of letters, digits and underscores. -/
theorem isNameChar_of_mem_variableName {node : ShaderNode} {index : NodeIndex} {c : Char}
    (member : c ∈ (node.variableName index).toList) : isNameChar c := by
  have digits : ∀ c ∈ Nat.toDigits 10 index, isNameChar c := by
    intro c inside
    have digit := Nat.isDigit_of_mem_toDigits (by decide) (by decide) inside
    simp [isNameChar, Char.isAlphanum, digit]
  rcases variableName_eq node index with spelled | ⟨label, spelled⟩ <;>
    rw [spelled, String.toList_ofList] at member
  · simp only [List.mem_cons] at member
    rcases member with rfl | rfl | inside
    · decide
    · decide
    · exact digits c inside
  · simp only [List.mem_cons, List.cons_append, List.mem_append] at member
    rcases member with rfl | inside | rfl | inside
    · decide
    · exact isNameChar_of_mem_sanitizeLabel inside
    · decide
    · exact digits c inside

/-- The name of a temporary is an underscore, a letter, and further letters, digits and underscores. -/
theorem variableName_spelling (node : ShaderNode) (index : NodeIndex) :
    ∃ first rest, (node.variableName index).toList = '_' :: first :: rest ∧ first.isAlpha ∧
      ∀ c ∈ rest, isNameChar c := by
  have begins : ∃ first rest, (node.variableName index).toList = '_' :: first :: rest ∧
      first.isAlpha := by
    rcases variableName_eq node index with spelled | ⟨label, spelled⟩ <;>
      rw [spelled, String.toList_ofList]
    · exact ⟨'t', _, rfl, by decide⟩
    · obtain ⟨first, rest, sanitized, letter⟩ := exists_isAlpha_of_sanitizeLabel label
      rw [sanitized]
      exact ⟨first, _, rfl, letter⟩
  obtain ⟨first, rest, spelled, letter⟩ := begins
  refine ⟨first, rest, spelled, letter, ?_⟩
  intro c member
  have inside : c ∈ (node.variableName index).toList := by simp [spelled, member]
  exact isNameChar_of_mem_variableName inside

end ShaderNode

end ShaderFlow

/-
Module: ShaderFlow.Proofs.Shader.SourceText
Purpose: The lines of generated source, and the characters of what stands in them.
Main exports: Text.splitLines_append_lineFeed, CodeLine.content, splitLines_renderCode,
  not_mem_of_isIdentifier, ShaderType.wgsl_injective
-/
import ShaderFlow.Proofs.Text.Delimited
import ShaderFlow.Shader.CodeLayout

namespace ShaderFlow

namespace Text

variable {c : Char} {line text : List Char}

theorem lineFeed_not_mem_splitLines (member : line ∈ splitLines text) : '\n' ∉ line := by
  induction text generalizing line with
  | nil => cases member
  | cons c text ih =>
      rw [splitLines_cons] at member
      unfold pushFront at member
      split at member
      · rcases List.mem_cons.mp member with rfl | later
        · simp
        · exact ih later
      · next ordinary =>
          split at member
          · rw [List.mem_singleton.mp member]
            simpa using Ne.symm ordinary
          · next first rest lines =>
              rcases List.mem_cons.mp member with rfl | later
              · rw [List.mem_cons, not_or]
                exact ⟨Ne.symm ordinary, ih (lines ▸ List.mem_cons_self)⟩
              · exact ih (lines ▸ .tail _ later)

/-- A text without line feed, followed by one, is the first line. -/
theorem splitLines_append_lineFeed (free : '\n' ∉ line) :
    splitLines (line ++ '\n' :: text) = line :: splitLines text := by
  induction line with
  | nil => rfl
  | cons c line ih =>
      rw [List.mem_cons, not_or] at free
      rw [List.cons_append, splitLines_cons, ih free.2, pushFront, if_neg (Ne.symm free.1)]

theorem mem_of_mem_dropEndWhile {p : Char → Bool} (member : c ∈ dropEndWhile p text) :
    c ∈ text := by
  unfold dropEndWhile at member
  exact List.mem_reverse.mp ((List.dropWhile_sublist p).mem (List.mem_reverse.mp member))

end Text

/-! ### Lines of code -/

namespace CodeLine

/-- A line as it stands in the source, without its line feed. -/
def content (line : CodeLine) : List Char :=
  if line.text.isEmpty then []
  else (List.replicate line.depth indentation.toList).flatten ++ line.text.toList

@[simp] theorem content_zero (text : String) : content ⟨0, text⟩ = text.toList := by
  unfold content
  split
  · next blank => simp_all
  · rfl

/-- A line inside a block is empty or indented. -/
theorem content_succ (depth : Nat) (text : String) :
    content ⟨depth + 1, text⟩ = [] ∨ ∃ rest, content ⟨depth + 1, text⟩ = ' ' :: rest := by
  unfold content
  split
  · exact .inl rfl
  · rw [List.replicate_succ, List.flatten_cons, List.append_assoc]
    exact .inr ⟨_, rfl⟩

/-- What holds of an empty line and of every indented one holds of all lines inside a block. -/
theorem holds_of_content_succ {p : List Char → Prop} (blank : p [])
    (indented : ∀ rest, p (' ' :: rest)) (depth : Nat) (text : String) :
    p (content ⟨depth + 1, text⟩) := by
  rcases content_succ depth text with empty | ⟨rest, spaced⟩
  · rwa [empty]
  · rw [spaced]
    exact indented rest

theorem content_injective {depth : Nat} {text other : String}
    (same : content ⟨depth, text⟩ = content ⟨depth, other⟩) : text = other := by
  unfold content at same
  split at same
  · next blank =>
      split at same
      · next otherBlank =>
          exact (String.isEmpty_iff.mp blank).trans (String.isEmpty_iff.mp otherBlank).symm
      · next otherFull => simp_all
  · next full =>
      split at same
      · next otherBlank => simp_all
      · exact String.toList_inj.mp (List.append_cancel_left same)

theorem toList_render (line : CodeLine) : line.render.toList = line.content ++ ['\n'] := by
  unfold render content
  split
  · rfl
  · simp [String.toList_join, List.flatMap_def]

theorem lineFeed_not_mem_content {line : CodeLine} (free : '\n' ∉ line.text.toList) :
    '\n' ∉ line.content := by
  unfold content
  split
  · simp
  · rw [List.mem_append, not_or]
    refine ⟨?_, free⟩
    intro member
    obtain ⟨blank, held, inside⟩ := List.mem_flatten.mp member
    rw [List.eq_of_mem_replicate held] at inside
    revert inside
    decide

theorem lineFeed_not_mem_block {depth : Nat} {text : String} {line : CodeLine}
    (member : line ∈ block depth text) : '\n' ∉ line.text.toList := by
  obtain ⟨held, listed, rfl⟩ := List.mem_map.mp member
  intro inside
  rw [String.toList_ofList] at inside
  exact Text.lineFeed_not_mem_splitLines listed (Text.mem_of_mem_dropEndWhile inside)

end CodeLine

theorem toList_renderCode (lines : List CodeLine) :
    (renderCode lines).toList = lines.flatMap fun line => line.content ++ ['\n'] := by
  suffices general : ∀ start : String,
      (lines.foldl (fun text line => text ++ line.render) start).toList =
        start.toList ++ lines.flatMap fun line => line.content ++ ['\n'] by
    unfold renderCode
    simpa using general ""
  induction lines with
  | nil => simp
  | cons line rest ih =>
      intro start
      rw [List.foldl_cons, ih, String.toList_append, CodeLine.toList_render, List.flatMap_cons,
        List.append_assoc]

/-- The lines of the source are the lines of the code, if none of these holds a line feed. -/
theorem splitLines_renderCode {lines : List CodeLine}
    (free : ∀ line ∈ lines, '\n' ∉ line.text.toList) :
    Text.splitLines (renderCode lines).toList = lines.map CodeLine.content := by
  rw [toList_renderCode]
  induction lines with
  | nil => rfl
  | cons line rest ih =>
      rw [List.flatMap_cons, List.append_assoc, List.singleton_append,
        Text.splitLines_append_lineFeed
          (CodeLine.lineFeed_not_mem_content (free line List.mem_cons_self)),
        ih fun other member => free other (.tail _ member), List.map_cons]

/-! ### Characters of names, numbers and types -/

@[simp] theorem toList_toString (text : String) : (toString text).toList = text.toList := rfl

theorem not_mem_append {text other : String} {c : Char} :
    c ∉ (text ++ other).toList ↔ c ∉ text.toList ∧ c ∉ other.toList := by
  rw [String.toList_append, List.mem_append, not_or]

theorem not_mem_intercalate {separator : String} {texts : List String} {c : Char}
    (apart : c ∉ separator.toList) (each : ∀ text ∈ texts, c ∉ text.toList) :
    c ∉ (separator.intercalate texts).toList := by
  rw [String.toList_intercalate]
  induction texts with
  | nil => simp
  | cons text rest ih =>
      have here := each text List.mem_cons_self
      have later := ih fun other member => each other (.tail _ member)
      cases rest with
      | nil => simpa using here
      | cons next rest =>
          rw [List.map_cons, List.map_cons, List.intercalate_cons_cons]
          rw [List.map_cons] at later
          simp [here, apart, later]

theorem isNameChar_of_mem {name : String} {c : Char} (named : isIdentifier name)
    (member : c ∈ name.toList) : isNameChar c := by
  simp only [isIdentifier, Bool.and_eq_true] at named
  have spelled := named.1.1
  cases letters : name.toList with
  | nil =>
      rw [letters] at member
      cases member
  | cons first rest =>
      rw [letters] at spelled member
      simp only [isNameSpelling, Bool.and_eq_true, List.all_eq_true] at spelled
      rcases List.mem_cons.mp member with rfl | later
      · simp [isNameChar, Char.isAlphanum, spelled.1]
      · exact spelled.2 c later

theorem not_mem_of_isIdentifier {name : String} {c : Char} (named : isIdentifier name)
    (odd : isNameChar c = false) : c ∉ name.toList := by
  intro member
  rw [isNameChar_of_mem named member] at odd
  cases odd

theorem not_mem_toDigits {n : Nat} {c : Char} (odd : c.isDigit = false) :
    c ∉ Nat.toDigits 10 n := by
  intro member
  rw [Nat.isDigit_of_mem_toDigits (by decide) (by decide) member] at odd
  cases odd

theorem eq_of_toDigits_eq {n m : Nat} (same : Nat.toDigits 10 n = Nat.toDigits 10 m) : n = m := by
  rw [← Nat.ofDigitChars_ten_toDigits (n := n), same, Nat.ofDigitChars_ten_toDigits]

theorem eq_of_toList_toString {n m : Nat} (same : (toString n).toList = (toString m).toList) :
    n = m := by
  rw [Nat.toString_eq_repr, Nat.toString_eq_repr, Nat.toList_repr, Nat.toList_repr] at same
  exact eq_of_toDigits_eq same

theorem not_mem_toString {n : Nat} {c : Char} (odd : c.isDigit = false) :
    c ∉ (toString n).toList := by
  rw [Nat.toString_eq_repr, Nat.toList_repr]
  exact not_mem_toDigits odd

theorem lineFeed_not_mem_of_isIdentifier {name : String} (named : isIdentifier name) :
    '\n' ∉ name.toList :=
  not_mem_of_isIdentifier named (by decide)

theorem lineFeed_not_mem_toString (n : Nat) : '\n' ∉ (toString n).toList :=
  not_mem_toString (by decide)

namespace ShaderType

theorem wgsl_injective {ty other : ShaderType} (same : ty.wgsl = other.wgsl) : ty = other := by
  revert same
  cases ty <;> cases other <;> decide

theorem not_mem_wgsl {ty : ShaderType} {c : Char} (odd : c ∉ "f32vec4<>matx".toList) :
    c ∉ ty.wgsl.toList := by
  intro member
  cases ty <;> simp_all [wgsl]

theorem lineFeed_not_mem_wgsl (ty : ShaderType) : '\n' ∉ ty.wgsl.toList :=
  not_mem_wgsl (by decide)

end ShaderType

end ShaderFlow

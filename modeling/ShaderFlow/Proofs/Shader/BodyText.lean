/-
Module: ShaderFlow.Proofs.Shader.BodyText
Purpose: The body of a function as it stands in the source of a module.
Main exports: Text.Lines, Text.visible, CodeLine.WritesLine, CodeLine.Copies, CodeLine.copies_block,
  ShaderFunction.body_copied
-/
import Mathlib.Data.List.DropRight
import ShaderFlow.Proofs.Shader.FunctionText
import ShaderFlow.Proofs.Text.Trimmed

namespace ShaderFlow

/-!
A block is cut at line feeds only.  A carriage return in front of a line feed then stands at the end
of its line, where it is lost with all other white space, so the block is written as if the two had
ended the line together.
-/

/-! ### Lines of a text -/

namespace Text

/-- A text and its lines.  A line ends at a line feed, together with a carriage return right in front
of it, or at the end of the text. -/
inductive Lines : List Char → List (List Char) → Prop where
  | nil : Lines [] []
  | last {line : List Char} (full : line ≠ []) (free : '\n' ∉ line) : Lines line [line]
  | lineFeed {line text : List Char} {lines : List (List Char)} (free : '\n' ∉ line)
      (bare : line.getLast? ≠ some '\r') (later : Lines text lines) :
      Lines (line ++ '\n' :: text) (line :: lines)
  | carriageReturn {line text : List Char} {lines : List (List Char)} (free : '\n' ∉ line)
      (later : Lines text lines) : Lines (line ++ '\r' :: '\n' :: text) (line :: lines)

/-- The characters of a text that are not white space. -/
def visible (text : List Char) : List Char := text.filter fun c => !isBlank c

variable {text line : List Char} {lines : List (List Char)}

theorem visible_append (text later : List Char) :
    visible (text ++ later) = visible text ++ visible later :=
  List.filter_append text later

theorem visible_eq_nil (blank : ∀ c ∈ text, isBlank c) : visible text = [] := by
  simpa [visible] using blank

theorem exists_lines (text : List Char) : ∃ lines, Lines text lines := by
  induction text with
  | nil => exact ⟨[], .nil⟩
  | cons c text ih =>
      obtain ⟨lines, cut⟩ := ih
      by_cases feed : c = '\n'
      · subst feed
        exact ⟨[] :: lines, @Lines.lineFeed [] text lines (by simp) (by simp) cut⟩
      · have free {line : List Char} (rest : '\n' ∉ line) : '\n' ∉ c :: line :=
          List.not_mem_cons_of_ne_of_not_mem (Ne.symm feed) rest
        cases cut with
        | nil => exact ⟨[[c]], .last (by simp) (free (by simp))⟩
        | last _ rest => exact ⟨[c :: text], .last (by simp) (free rest)⟩
        | @lineFeed line text lines rest bare later =>
            -- a carriage return goes with the line feed if there is nothing between them
            by_cases joined : line = [] ∧ c = '\r'
            · obtain ⟨rfl, rfl⟩ := joined
              exact ⟨[] :: lines, @Lines.carriageReturn [] text lines (by simp) later⟩
            · refine ⟨(c :: line) :: lines, .lineFeed (free rest) ?_ later⟩
              cases line with
              | nil => simpa using joined
              | cons => rwa [List.getLast?_cons_cons]
        | @carriageReturn line text lines rest later =>
            exact ⟨(c :: line) :: lines, .carriageReturn (free rest) later⟩

theorem splitLines_eq_singleton (full : line ≠ []) (free : '\n' ∉ line) :
    splitLines line = [line] := by
  induction line with
  | nil => exact absurd rfl full
  | cons c line ih =>
      rw [List.mem_cons, not_or] at free
      rw [splitLines_cons]
      cases line with
      | nil => simp [pushFront, Ne.symm free.1]
      | cons => rw [ih (by simp) free.2, pushFront, if_neg (Ne.symm free.1)]

/-- Without the white space at their ends, the lines are those between line feeds. -/
theorem Lines.map_trimEnd (cut : Lines text lines) :
    (splitLines text).map trimEnd = lines.map trimEnd := by
  induction cut with
  | nil => rfl
  | last full free => rw [splitLines_eq_singleton full free]
  | lineFeed free _ _ ih => rw [splitLines_append_lineFeed free, List.map_cons, List.map_cons, ih]
  | @carriageReturn line text _ free _ ih =>
      have together : line ++ '\r' :: '\n' :: text = (line ++ ['\r']) ++ '\n' :: text := by simp
      have lost : trimEnd (line ++ ['\r']) = trimEnd line :=
        List.rdropWhile_concat_pos isBlank line '\r' (by decide)
      rw [together, splitLines_append_lineFeed (by simpa using free), List.map_cons, List.map_cons,
        lost, ih]

theorem Lines.visible_flatten (cut : Lines text lines) : visible lines.flatten = visible text := by
  induction cut with
  | nil => rfl
  | last => rw [List.flatten_singleton]
  | lineFeed _ _ _ ih | carriageReturn _ _ ih =>
      rw [List.flatten_cons, visible_append, visible_append, ih]
      rfl

end Text

/-! ### Lines of a block -/

namespace CodeLine

open Text

/-- How a line of a block is written.  Of a blank line there is the line feed only; any other line is
indented, and keeps everything but the white space at its end. -/
inductive WritesLine (depth : Nat) : List Char → List Char → Prop where
  | blank {line : List Char} (empty : ∀ c ∈ line, isBlank c) : WritesLine depth line ['\n']
  | indented {kept lost : List Char} {last : Char} (ends : kept.getLast? = some last)
      (shows : isBlank last = false) (empty : ∀ c ∈ lost, isBlank c) :
      WritesLine depth (kept ++ lost) (List.replicate (4 * depth) ' ' ++ kept ++ ['\n'])

/-- How a block is written: line by line, without the line feeds around it. -/
def Copies (depth : Nat) (body written : List Char) : Prop :=
  ∃ core lines outputs, Trimmed (fun c => c = '\n') body core ∧ Lines core lines ∧
    List.Forall₂ (WritesLine depth) lines outputs ∧ written = outputs.flatten

variable {depth : Nat} {line output body written : List Char}

theorem flatten_indentation (depth : Nat) :
    (List.replicate depth indentation.toList).flatten = List.replicate (4 * depth) ' ' := by
  have spaces : indentation.toList = List.replicate 4 ' ' := by decide
  rw [spaces, List.flatten_replicate_replicate, Nat.mul_comm]

/-- A line of a block without the white space at its end, as a line of code. -/
theorem writesLine_content (depth : Nat) (line : List Char) :
    WritesLine depth line (content ⟨depth, String.ofList (trimEnd line)⟩ ++ ['\n']) := by
  obtain ⟨lost, spelled, empty, stopped⟩ := dropEndWhile_eq_iff.mp (Eq.refl (trimEnd line))
  unfold content
  dsimp only
  rw [flatten_indentation, String.toList_ofList]
  cases ends : (trimEnd line).getLast? with
  | none =>
      rw [List.getLast?_eq_none_iff] at ends
      have nothing : (String.ofList []).isEmpty := rfl
      rw [ends] at spelled
      rw [ends, if_pos nothing]
      exact .blank (spelled ▸ empty)
  | some last =>
      have full : ¬ (String.ofList (trimEnd line)).isEmpty := by
        intro nothing
        rw [String.isEmpty_iff, String.ofList_eq_empty_iff] at nothing
        simp [nothing] at ends
      rw [if_neg full]
      have writes : WritesLine depth (trimEnd line ++ lost)
          (List.replicate (4 * depth) ' ' ++ trimEnd line ++ ['\n']) :=
        .indented ends (stopped last ends) empty
      rwa [← spelled] at writes

theorem WritesLine.visible_eq (writes : WritesLine depth line output) :
    visible output = visible line := by
  cases writes with
  | blank empty =>
      rw [visible_eq_nil empty]
      rfl
  | indented _ _ empty =>
      have indent : visible (List.replicate (4 * depth) ' ') = [] := by
        apply visible_eq_nil
        intro c member
        rw [List.eq_of_mem_replicate member]
        decide
      have feed : visible ['\n'] = [] := rfl
      simp only [visible_append, indent, feed, visible_eq_nil empty, List.nil_append,
        List.append_nil]

theorem WritesLine.ended (writes : WritesLine depth line output) :
    ∃ front, output = front ++ ['\n'] := by
  cases writes with
  | blank => exact ⟨[], rfl⟩
  | indented => exact ⟨_, rfl⟩

/-! ### Blocks -/

theorem copies_block (depth : Nat) (text : String) :
    Copies depth text.toList (renderCode (block depth text)).toList := by
  have trimmed := trimmed_iff.mpr
    (Eq.refl (dropEndWhile (fun c => c = '\n') (text.toList.dropWhile fun c => c = '\n')))
  obtain ⟨lines, cut⟩ := exists_lines
    (dropEndWhile (fun c => c = '\n') (text.toList.dropWhile fun c => c = '\n'))
  refine ⟨_, lines, _, trimmed, cut, List.forall₂_map_right_iff.mpr
    (List.forall₂_same.mpr fun line _ => writesLine_content depth line), ?_⟩
  have spelled : block depth text = lines.map fun line => ⟨depth, String.ofList (trimEnd line)⟩ := by
    have same := congrArg (List.map fun kept => (⟨depth, String.ofList kept⟩ : CodeLine))
      cut.map_trimEnd
    rw [List.map_map, List.map_map] at same
    exact same
  rw [toList_renderCode, spelled, List.flatMap_def, List.map_map]
  rfl

theorem Copies.visible_eq (copies : Copies depth body written) :
    visible written = visible body := by
  obtain ⟨core, lines, outputs, ⟨front, back, rfl, around, _⟩, cut, writes, rfl⟩ := copies
  have lineByLine : visible outputs.flatten = visible lines.flatten := by
    clear cut
    induction writes with
    | nil => rfl
    | cons here _ ih =>
        rw [List.flatten_cons, List.flatten_cons, visible_append, visible_append,
          here.visible_eq, ih]
  have blank : ∀ c ∈ front ++ back, isBlank c := by
    intro c member
    have feed : c = '\n' := by simpa using around c member
    subst feed
    decide
  rw [List.forall_mem_append] at blank
  rw [lineByLine, cut.visible_flatten, visible_append, visible_append, visible_eq_nil blank.1,
    visible_eq_nil blank.2, List.nil_append, List.append_nil]

theorem Copies.ended (copies : Copies depth body written) :
    written = [] ∨ ∃ front, written = front ++ ['\n'] := by
  obtain ⟨_, lines, outputs, -, -, writes, rfl⟩ := copies
  induction writes with
  | nil => exact .inl rfl
  | cons here _ ih =>
      rw [List.flatten_cons]
      rcases ih with empty | ⟨front, rest⟩
      · rw [empty, List.append_nil]
        exact .inr here.ended
      · rw [rest, ← List.append_assoc]
        exact .inr ⟨_, rfl⟩

end CodeLine

theorem renderCode_append (lines later : List CodeLine) :
    (renderCode (lines ++ later)).toList =
      (renderCode lines).toList ++ (renderCode later).toList := by
  rw [toList_renderCode, toList_renderCode, toList_renderCode, List.flatMap_append]

namespace ShaderFunction

/-- The text of a declaration: a line with the header, the body one block deep, and a line with the
brace. -/
theorem toList_renderCode_declaration (function : ShaderFunction) :
    (renderCode function.declaration).toList = function.header.toList ++ '\n' ::
      (renderCode (CodeLine.block 1 function.body)).toList ++ "\x7d\n".toList := by
  have opening : (renderCode [⟨0, function.header⟩]).toList = function.header.toList ++ ['\n'] := by
    rw [toList_renderCode, List.flatMap_singleton, CodeLine.content_zero]
  have closing : (renderCode [⟨0, "\x7d"⟩]).toList = "\x7d\n".toList := by decide
  have split : function.declaration =
      ([⟨0, function.header⟩] ++ CodeLine.block 1 function.body) ++ [⟨0, "\x7d"⟩] := rfl
  rw [split, renderCode_append, renderCode_append, opening, closing]
  simp

/-- A body is copied without loss.  Behind whatever stands in the source, a block puts the visible
characters of its text and no others: the lines of the text, indented, each without the white space at
its end.  It ends with a line feed if it puts anything, so the brace behind the body of a function
begins a line. -/
theorem body_copied :
    (∀ (earlier : List CodeLine) (depth : Nat) (body : String), ∃ written,
      (renderCode (earlier ++ CodeLine.block depth body)).toList =
        (renderCode earlier).toList ++ written ∧
      Text.visible written = Text.visible body.toList ∧
      CodeLine.Copies depth body.toList written ∧
      (written = [] ∨ ∃ front, written = front ++ ['\n'])) ∧
    ∀ (earlier : List CodeLine) (function : ShaderFunction), ∃ before written,
      (renderCode (earlier ++ function.declaration)).toList = before ++ "\x7d\n".toList ∧
      before = (renderCode earlier).toList ++ function.header.toList ++ '\n' :: written ∧
      CodeLine.Copies 1 function.body.toList written ∧ ∃ front, before = front ++ ['\n'] := by
  constructor
  · intro earlier depth body
    have copies := CodeLine.copies_block depth body
    exact ⟨_, renderCode_append _ _, copies.visible_eq, copies, copies.ended⟩
  · intro earlier function
    have copies := CodeLine.copies_block 1 function.body
    refine ⟨_, _, ?_, rfl, copies, ?_⟩
    · rw [renderCode_append, toList_renderCode_declaration]
      simp
    · rcases copies.ended with empty | ⟨front, spelled⟩
      · rw [empty]
        exact ⟨_, rfl⟩
      · rw [spelled]
        exact ⟨(renderCode earlier).toList ++ function.header.toList ++ '\n' :: front, by simp⟩

/-- A line keeps the space in front of it, and the blank line stays as an empty one. -/
example : renderCode (CodeLine.block 1 "\n let a = 1.0;\t\r\n \r\nreturn a;\n\n") =
    "     let a = 1.0;\n\n    return a;\n" := by decide +kernel

end ShaderFunction

end ShaderFlow

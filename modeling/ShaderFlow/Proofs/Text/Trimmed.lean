/-
Module: ShaderFlow.Proofs.Text.Trimmed
Purpose: Texts from which the characters of a class are cut at the ends.
Main exports: dropWhile_eq_iff, dropEndWhile_eq_iff, Trimmed, trimmed_iff
-/
import Mathlib.Data.List.TakeWhile
import ShaderFlow.Text.Blank

namespace ShaderFlow.Text

/-!
A cut takes characters of the class only, and all of them up to the first that is not of the class.
The two conditions determine what is left.
-/

variable {p : Char → Bool} {text kept word : List Char}

theorem dropWhile_eq_iff :
    text.dropWhile p = kept ↔
      ∃ lost, text = lost ++ kept ∧ (∀ c ∈ lost, p c) ∧ ∀ c ∈ kept.head?, p c = false := by
  constructor
  · rintro rfl
    refine ⟨text.takeWhile p, List.takeWhile_append_dropWhile.symm,
      fun c => List.mem_takeWhile_imp, ?_⟩
    intro c first
    have stopped := List.head?_dropWhile_not p text
    rwa [Option.mem_def.mp first] at stopped
  · rintro ⟨lost, rfl, all, stopped⟩
    rw [List.dropWhile_append_of_pos all]
    cases kept with
    | nil => rfl
    | cons c rest => exact List.dropWhile_cons_of_neg (by simp [stopped c rfl])

theorem dropEndWhile_eq_iff :
    dropEndWhile p text = kept ↔
      ∃ lost, text = kept ++ lost ∧ (∀ c ∈ lost, p c) ∧ ∀ c ∈ kept.getLast?, p c = false := by
  unfold dropEndWhile
  rw [List.reverse_eq_iff, dropWhile_eq_iff]
  simp only [List.head?_reverse]
  constructor
  · rintro ⟨lost, spelled, all, stopped⟩
    exact ⟨lost.reverse, by simpa using congrArg List.reverse spelled, by simpa using all, stopped⟩
  · rintro ⟨lost, rfl, all, stopped⟩
    exact ⟨lost.reverse, by simp, by simpa using all, stopped⟩

/-- What is left of a text without the characters of a class at its ends. -/
def Trimmed (p : Char → Bool) (text word : List Char) : Prop :=
  ∃ front back, text = front ++ word ++ back ∧ (∀ c ∈ front ++ back, p c) ∧
    (∀ c ∈ word.head?, p c = false) ∧ ∀ c ∈ word.getLast?, p c = false

/-- A text is trimmed to one word only, the one that two cuts leave. -/
theorem trimmed_iff : Trimmed p text word ↔ dropEndWhile p (text.dropWhile p) = word := by
  rw [dropEndWhile_eq_iff]
  constructor
  · rintro ⟨front, back, rfl, all, first, last⟩
    rw [List.forall_mem_append] at all
    cases word with
    | nil =>
        -- nothing is left, so the cut at the front takes the back too
        refine ⟨[], ?_, by simp, last⟩
        exact dropWhile_eq_iff.mpr ⟨front ++ back, by simp, List.forall_mem_append.mpr all, by simp⟩
    | cons c rest =>
        refine ⟨back, ?_, all.2, last⟩
        exact dropWhile_eq_iff.mpr ⟨front, by simp, all.1, by simpa using first⟩
  · rintro ⟨back, left, backCut, last⟩
    obtain ⟨front, spelled, frontCut, first⟩ := dropWhile_eq_iff.mp left
    refine ⟨front, back, by rw [spelled, List.append_assoc],
      List.forall_mem_append.mpr ⟨frontCut, backCut⟩, ?_, last⟩
    cases word with
    | nil => simp
    | cons c rest => simpa using first

end ShaderFlow.Text

/-
Module: ShaderFlow.Proofs.Text.Delimited
Purpose: Texts that are cut at a delimiter can be taken apart in one way only.
Main exports: eq_of_append_delimiter, eq_of_delimiter_append, eq_of_append_of_apart,
  eq_of_intercalate, map_eq_of_map_eq
-/
import Mathlib.Data.List.Basic

namespace ShaderFlow.Text

universe u

variable {α : Type u} {delimiter : α} {a b x y : List α}

/-- Two texts that agree, each cut at its first delimiter, agree before and after it. -/
theorem eq_of_append_delimiter (ha : delimiter ∉ a) (hb : delimiter ∉ b)
    (same : a ++ delimiter :: x = b ++ delimiter :: y) : a = b ∧ x = y := by
  induction a generalizing b with
  | nil =>
      cases b with
      | nil => simpa using same
      | cons c b =>
          simp only [List.nil_append, List.cons_append, List.cons.injEq] at same
          exact absurd (same.1 ▸ List.mem_cons_self) hb
  | cons c a ih =>
      cases b with
      | nil =>
          simp only [List.nil_append, List.cons_append, List.cons.injEq] at same
          exact absurd (same.1 ▸ List.mem_cons_self) ha
      | cons d b =>
          simp only [List.cons_append, List.cons.injEq] at same
          obtain ⟨rfl, rfl⟩ := ih (fun h => ha (.tail _ h))
            (fun h => hb (.tail _ h)) same.2
          rw [same.1]
          exact ⟨rfl, rfl⟩

/-- Two texts that agree, each cut at its last delimiter, agree before and after it. -/
theorem eq_of_delimiter_append (hx : delimiter ∉ x) (hy : delimiter ∉ y)
    (same : a ++ delimiter :: x = b ++ delimiter :: y) : a = b ∧ x = y := by
  have reversed : x.reverse ++ delimiter :: a.reverse = y.reverse ++ delimiter :: b.reverse := by
    simpa using congrArg List.reverse same
  obtain ⟨after, before⟩ := eq_of_append_delimiter (by simpa using hx) (by simpa using hy) reversed
  exact ⟨List.reverse_inj.mp before, List.reverse_inj.mp after⟩

/-- Two texts that agree, each of a front with a property and a rest without, have the same front
and the same rest. -/
theorem eq_of_append_of_apart {p : α → Bool} (ha : ∀ c ∈ a, p c) (hb : ∀ c ∈ b, p c)
    (hx : ∀ c ∈ x, p c = false) (hy : ∀ c ∈ y, p c = false) (same : a ++ x = b ++ y) :
    a = b ∧ x = y := by
  have front : ∀ {front rest : List α}, (∀ c ∈ front, p c) → (∀ c ∈ rest, p c = false) →
      (front ++ rest).filter p = front := by
    intro front rest inside outside
    rw [List.filter_append, List.filter_eq_self.mpr inside,
      List.filter_eq_nil_iff.mpr fun c member => by simp [outside c member], List.append_nil]
  have fronts : a = b := by rw [← front ha hx, same, front hb hy]
  subst fronts
  exact ⟨rfl, List.append_cancel_left same⟩

/-- A list of texts can be read back from its joined text, if they are not empty and free of the
first character of the separator. -/
theorem eq_of_intercalate {separator : List α} {texts others : List (List α)}
    (free : ∀ text ∈ texts, text ≠ [] ∧ delimiter ∉ text)
    (otherFree : ∀ text ∈ others, text ≠ [] ∧ delimiter ∉ text)
    (same : (delimiter :: separator).intercalate texts =
      (delimiter :: separator).intercalate others) : texts = others := by
  induction texts generalizing others with
  | nil =>
      cases others with
      | nil => rfl
      | cons other others =>
          cases others <;> simp_all
  | cons text texts ih =>
      have here := free text List.mem_cons_self
      cases others with
      | nil => cases texts <;> simp_all
      | cons other others =>
          have there := otherFree other List.mem_cons_self
          cases texts with
          | nil =>
              cases others with
              | nil => simpa using same
              | cons next others =>
                  rw [List.intercalate_singleton, List.intercalate_cons_cons] at same
                  exact absurd (same ▸ (by simp : delimiter ∈ _)) here.2
          | cons next texts =>
              cases others with
              | nil =>
                  rw [List.intercalate_singleton, List.intercalate_cons_cons] at same
                  exact absurd (same ▸ (by simp : delimiter ∈ _)) there.2
              | cons otherNext others =>
                  rw [List.intercalate_cons_cons, List.intercalate_cons_cons, List.append_assoc,
                    List.append_assoc, List.cons_append, List.cons_append] at same
                  obtain ⟨rfl, later⟩ := eq_of_append_delimiter here.2 there.2 same
                  rw [ih (fun text member => free text (.tail _ member))
                    (fun text member => otherFree text (.tail _ member))
                    (List.append_cancel_left later)]

/-- What images determine, lists of images determine. -/
theorem map_eq_of_map_eq {β : Type u} {γ : Type u} {f : α → β} {key : α → γ} {xs ys : List α}
    (determines : ∀ x ∈ xs, ∀ y ∈ ys, f x = f y → key x = key y) (same : xs.map f = ys.map f) :
    xs.map key = ys.map key := by
  induction xs generalizing ys with
  | nil =>
      cases ys with
      | nil => rfl
      | cons y ys => cases same
  | cons x xs ih =>
      cases ys with
      | nil => cases same
      | cons y ys =>
          rw [List.map_cons, List.map_cons, List.cons.injEq] at same
          rw [List.map_cons, List.map_cons,
            determines x List.mem_cons_self y List.mem_cons_self same.1,
            ih (fun x member y present => determines x (.tail _ member) y (.tail _ present)) same.2]

end ShaderFlow.Text

/-
Module: ShaderFlow.Proofs.Outcome
Purpose: What follows from the success or the failure of a composite step, and when it succeeds.
Main exports: bind_eq_ok_iff, map_eq_ok_iff, mapM_eq_ok_iff, forM_eq_ok_iff, foldlM_invariant,
  foldlM_keeps, filterM_eq_ok, foldlM_congr, mapM_congr, foldlM_image, bind_eq_error_iff,
  mapM_eq_error_iff, foldlM_eq_error, exists_mapM, exists_filterM, exists_foldlM
-/
import Mathlib.Data.List.Forall2

namespace ShaderFlow

universe u v w

variable {ε : Type u} {α : Type v} {β : Type w}

/-- A sequence of two steps succeeds iff both do. -/
theorem bind_eq_ok_iff {γ : Type w} {first : Except ε β} {next : β → Except ε γ} {value : γ} :
    first >>= next = .ok value ↔ ∃ middle, first = .ok middle ∧ next middle = .ok value := by
  cases first <;> simp [bind, Except.bind]

/-- The result of a step succeeds under a function iff the step does. -/
theorem map_eq_ok_iff {γ : Type w} {first : Except ε β} {next : β → γ} {value : γ} :
    first.map next = .ok value ↔ ∃ middle, first = .ok middle ∧ next middle = value := by
  cases first <;> simp [Except.map]

/-- A step on every member of a list succeeds iff it does on each; the results stand in order. -/
theorem mapM_eq_ok_iff {step : α → Except ε β} {items : List α} {results : List β} :
    items.mapM step = .ok results ↔
      List.Forall₂ (fun item result => step item = .ok result) items results := by
  induction items generalizing results with
  | nil => cases results <;> simp [pure, Except.pure]
  | cons item rest ih =>
      rw [List.mapM_cons, bind_eq_ok_iff]
      constructor
      · rintro ⟨result, here, later⟩
        obtain ⟨others, there, same⟩ := bind_eq_ok_iff.mp later
        cases same
        exact .cons here (ih.mp there)
      · rintro (_ | ⟨here, there⟩)
        exact ⟨_, here, bind_eq_ok_iff.mpr ⟨_, ih.mpr there, rfl⟩⟩

/-- Steps without result on the members of a list succeed iff each does. -/
theorem forM_eq_ok_iff {step : α → Except ε PUnit} {items : List α} :
    items.forM step = .ok ⟨⟩ ↔ ∀ item ∈ items, step item = .ok ⟨⟩ := by
  induction items with
  | nil => simp [List.forM, pure, Except.pure]
  | cons item rest ih =>
      rw [List.forM, bind_eq_ok_iff, List.forall_mem_cons]
      constructor
      · rintro ⟨_, here, later⟩
        exact ⟨here, ih.mp later⟩
      · rintro ⟨here, later⟩
        exact ⟨⟨⟩, here, ih.mpr later⟩

/-- Every result of a list of steps is the result of one of them. -/
theorem exists_of_mem_results {γ : Type w} {related : α → γ → Prop} {items : List α}
    {results : List γ} {result : γ} (each : List.Forall₂ related items results)
    (member : result ∈ results) : ∃ item ∈ items, related item result := by
  induction each with
  | nil => cases member
  | cons here _ ih =>
      rcases List.mem_cons.mp member with rfl | later
      · exact ⟨_, List.mem_cons_self, here⟩
      · obtain ⟨item, listed, found⟩ := ih later
        exact ⟨item, .tail _ listed, found⟩

/-- Every member of a list of steps has a result. -/
theorem exists_of_mem_items {γ : Type w} {related : α → γ → Prop} {items : List α}
    {results : List γ} {item : α} (each : List.Forall₂ related items results)
    (member : item ∈ items) : ∃ result ∈ results, related item result :=
  exists_of_mem_results each.flip member

/-- What holds of the start and is kept by every successful step, holds of the result of a fold.
The statement may mention the members that the fold has worked through. -/
theorem foldlM_invariant {step : β → α → Except ε β} (holds : List α → β → Prop)
    {items : List α}
    (kept : ∀ before value item after next, items = before ++ item :: after →
      holds before value → step value item = .ok next → holds (before ++ [item]) next)
    {start result : β} (initially : holds [] start)
    (folded : items.foldlM step start = .ok result) : holds items result := by
  suffices general : ∀ (rest before : List α) (value : β), items = before ++ rest →
      holds before value → rest.foldlM step value = .ok result → holds items result from
    general items [] start rfl initially folded
  intro rest
  induction rest with
  | nil =>
      intro before value split held done
      rw [List.foldlM_nil] at done
      cases done
      rw [split, List.append_nil]
      exact held
  | cons item rest ih =>
      intro before value split held done
      rw [List.foldlM_cons] at done
      obtain ⟨next, stepped, later⟩ := bind_eq_ok_iff.mp done
      exact ih (before ++ [item]) next (by simp [split])
        (kept before value item rest next split held stepped) later

/-- What every successful step of a fold keeps holds of the result. -/
theorem foldlM_keeps {step : β → α → Except ε β} (holds : β → Prop) {items : List α}
    (kept : ∀ value, ∀ item ∈ items, ∀ next, holds value → step value item = .ok next → holds next)
    {start result : β} (initially : holds start)
    (folded : items.foldlM step start = .ok result) : holds result := by
  refine foldlM_invariant (fun _ => holds) ?_ initially folded
  intro before value item after next split held stepped
  exact kept value item (by simp [split]) next held stepped

/-- What a test picks from a list, if it fails on no member, are the members that pass it. -/
theorem filterM_eq_ok {ι : Type} {test : ι → Except ε Bool} {verdict : ι → Bool}
    (tested : ∀ item result, test item = .ok result → result = verdict item) {items picked : List ι}
    (done : items.filterM test = .ok picked) : picked = items.filter verdict := by
  -- the test runs over the list with what it has picked so far, the latest first
  have run : ∀ (rest before later : List ι), rest.filterAuxM test before = .ok later →
      later = (rest.filter verdict).reverse ++ before := by
    intro rest
    induction rest with
    | nil =>
        intro before later ran
        cases ran
        rfl
    | cons item rest ih =>
        intro before later ran
        rw [List.filterAuxM] at ran
        obtain ⟨result, here, others⟩ := bind_eq_ok_iff.mp ran
        cases tested item result here
        have found := ih _ later others
        cases passed : verdict item with
        | true => simpa [passed] using found
        | false => simpa [passed] using found
  rw [List.filterM] at done
  obtain ⟨later, ran, same⟩ := bind_eq_ok_iff.mp done
  cases same
  simp [run items [] later ran]

/-! ### Steps that agree -/

section

variable {m : Type u → Type v} [Monad m] {items : List α}

/-- Steps that agree on the members of a list agree on the list. -/
theorem forM_congr {first second : α → m PUnit}
    (same : ∀ item ∈ items, first item = second item) : items.forM first = items.forM second := by
  induction items with
  | nil => rfl
  | cons item rest ih =>
      obtain ⟨here, later⟩ := List.forall_mem_cons.mp same
      rw [List.forM, List.forM, here, ih later]

theorem mapM_congr [LawfulMonad m] {β : Type u} {first second : α → m β}
    (same : ∀ item ∈ items, first item = second item) : items.mapM first = items.mapM second := by
  induction items with
  | nil => rfl
  | cons item rest ih =>
      obtain ⟨here, later⟩ := List.forall_mem_cons.mp same
      rw [List.mapM_cons, List.mapM_cons, here, ih later]

theorem foldlM_congr {β : Type u} {first second : β → α → m β}
    (same : ∀ value, ∀ item ∈ items, first value item = second value item) (start : β) :
    items.foldlM first start = items.foldlM second start := by
  induction items generalizing start with
  | nil => rfl
  | cons item rest ih =>
      have later := fun value other (listed : other ∈ rest) => same value other (.tail _ listed)
      simp only [List.foldlM_cons, same start item List.mem_cons_self, ih later]

end

/-- Steps that go the same way on the image of a value do so over a list. -/
theorem foldlM_image {γ : Type w} {image : β → γ} {first : γ → α → Except ε γ}
    {second : β → α → Except ε β} {items : List α}
    (same : ∀ value, ∀ item ∈ items, first (image value) item = (second value item).map image)
    (start : β) : items.foldlM first (image start) = (items.foldlM second start).map image := by
  induction items generalizing start with
  | nil => rfl
  | cons item rest ih =>
      rw [List.foldlM_cons, List.foldlM_cons, same start item List.mem_cons_self]
      cases second start item with
      | error => rfl
      | ok next => exact ih (fun value other listed => same value other (.tail _ listed)) next

theorem filterM_congr {ι : Type} {items : List ι} {first second : ι → Except ε Bool}
    (same : ∀ item ∈ items, first item = second item) :
    items.filterM first = items.filterM second := by
  -- the test runs over the list with what it has picked so far, the latest first
  have run : ∀ rest picked : List ι, (∀ item ∈ rest, first item = second item) →
      rest.filterAuxM first picked = rest.filterAuxM second picked := by
    intro rest
    induction rest with
    | nil => exact fun _ _ => rfl
    | cons item rest ih =>
        intro picked same
        obtain ⟨here, later⟩ := List.forall_mem_cons.mp same
        simp only [List.filterAuxM, here, fun picked => ih picked later]
  rw [List.filterM, List.filterM, run items [] same]

/-! ### Failure -/

/-- A sequence of two steps fails with the first, or with the second after it. -/
theorem bind_eq_error_iff {γ : Type w} {first : Except ε β} {next : β → Except ε γ} {error : ε} :
    first >>= next = .error error ↔
      first = .error error ∨ ∃ middle, first = .ok middle ∧ next middle = .error error := by
  cases first <;> simp [bind, Except.bind]

/-- Steps without result on the members of a list fail as one of them does. -/
theorem forM_eq_error {step : α → Except ε PUnit} {items : List α} {error : ε}
    (failed : items.forM step = .error error) : ∃ item ∈ items, step item = .error error := by
  induction items with
  | nil => cases failed
  | cons item rest ih =>
      rw [List.forM] at failed
      rcases bind_eq_error_iff.mp failed with here | ⟨_, _, later⟩
      · exact ⟨item, List.mem_cons_self, here⟩
      · obtain ⟨other, listed, there⟩ := ih later
        exact ⟨other, .tail _ listed, there⟩

/-- Steps on the members of a list fail as the first of them that fails. -/
theorem mapM_eq_error_iff {step : α → Except ε β} {items : List α} {error : ε} :
    items.mapM step = .error error ↔
      ∃ before item after, items = before ++ item :: after ∧
        (∀ earlier ∈ before, ∃ result, step earlier = .ok result) ∧ step item = .error error := by
  constructor
  · intro failed
    induction items with
    | nil => cases failed
    | cons item rest ih =>
        rw [List.mapM_cons] at failed
        rcases bind_eq_error_iff.mp failed with here | ⟨result, stepped, later⟩
        · exact ⟨[], item, rest, rfl, by simp, here⟩
        · rcases bind_eq_error_iff.mp later with there | ⟨_, _, impossible⟩
          · obtain ⟨before, other, after, rfl, succeeded, refused⟩ := ih there
            exact ⟨item :: before, other, after, rfl,
              List.forall_mem_cons.mpr ⟨⟨result, stepped⟩, succeeded⟩, refused⟩
          · cases impossible
  · rintro ⟨before, item, after, rfl, succeeded, refused⟩
    induction before with
    | nil =>
        rw [List.nil_append, List.mapM_cons]
        exact bind_eq_error_iff.mpr (.inl refused)
    | cons first before ih =>
        obtain ⟨⟨result, stepped⟩, others⟩ := List.forall_mem_cons.mp succeeded
        rw [List.cons_append, List.mapM_cons]
        have later := ih others
        exact bind_eq_error_iff.mpr (.inr ⟨result, stepped, bind_eq_error_iff.mpr (.inl later)⟩)

/-- A fold fails as one of its steps does. -/
theorem foldlM_eq_error {step : β → α → Except ε β} {items : List α} {start : β} {error : ε}
    (failed : items.foldlM step start = .error error) :
    ∃ value, ∃ item ∈ items, step value item = .error error := by
  induction items generalizing start with
  | nil => cases failed
  | cons item rest ih =>
      rw [List.foldlM_cons] at failed
      rcases bind_eq_error_iff.mp failed with here | ⟨_, _, later⟩
      · exact ⟨start, item, List.mem_cons_self, here⟩
      · obtain ⟨value, other, listed, there⟩ := ih later
        exact ⟨value, other, .tail _ listed, there⟩

/-! ### Steps that never fail -/

/-- A step that succeeds on each member of a list succeeds on all of them. -/
theorem exists_mapM {step : α → Except ε β} {items : List α}
    (total : ∀ item ∈ items, ∃ result, step item = .ok result) :
    ∃ results, items.mapM step = .ok results := by
  induction items with
  | nil => exact ⟨[], rfl⟩
  | cons item rest ih =>
      obtain ⟨result, here⟩ := total item List.mem_cons_self
      obtain ⟨results, later⟩ := ih fun other listed => total other (.tail _ listed)
      refine ⟨result :: results, ?_⟩
      rw [List.mapM_cons]
      exact bind_eq_ok_iff.mpr ⟨result, here, bind_eq_ok_iff.mpr ⟨results, later, rfl⟩⟩

/-- A fold of steps that succeed on every value succeeds. -/
theorem exists_foldlM (step : β → α → Except ε β) (items : List α)
    (total : ∀ value, ∀ item ∈ items, ∃ next, step value item = .ok next) (start : β) :
    ∃ result, items.foldlM step start = .ok result := by
  induction items generalizing start with
  | nil => exact ⟨start, rfl⟩
  | cons item rest ih =>
      obtain ⟨next, here⟩ := total start item List.mem_cons_self
      rw [List.foldlM_cons, here]
      exact ih (fun value other listed => total value other (.tail _ listed)) next

/-- A test that never fails picks members of a list that pass it. -/
theorem exists_filterM {ι : Type} (test : ι → Except ε Bool) (items : List ι)
    (total : ∀ item ∈ items, ∃ verdict, test item = .ok verdict) :
    ∃ picked, items.filterM test = .ok picked ∧
      ∀ item ∈ picked, item ∈ items ∧ test item = .ok true := by
  -- the test runs over the list with what it has picked so far, the latest first
  have run : ∀ rest picked : List ι, (∀ item ∈ rest, item ∈ items) →
      (∀ item ∈ picked, item ∈ items ∧ test item = .ok true) →
      ∃ later, rest.filterAuxM test picked = .ok later ∧
        ∀ item ∈ later, item ∈ items ∧ test item = .ok true := by
    intro rest
    induction rest with
    | nil => exact fun picked _ sound => ⟨picked, rfl, sound⟩
    | cons item rest ih =>
        intro picked listed sound
        obtain ⟨verdict, tested⟩ := total item (listed item List.mem_cons_self)
        have others : ∀ other ∈ rest, other ∈ items := fun other member =>
          listed other (.tail _ member)
        rw [List.filterAuxM, tested]
        cases verdict with
        | false => exact ih picked others sound
        | true =>
            exact ih (item :: picked) others
              (List.forall_mem_cons.mpr ⟨⟨listed item List.mem_cons_self, tested⟩, sound⟩)
  obtain ⟨picked, ran, sound⟩ := run items [] (fun _ member => member) (by simp)
  refine ⟨picked.reverse, ?_, fun item member => sound item (List.mem_reverse.mp member)⟩
  rw [List.filterM, ran]
  rfl

end ShaderFlow

/-
Module: ShaderFlow.Proofs.Gpu.VertexFields
Purpose: Vertex attributes read fields of one vertex, and those of different names share no byte.
Main exports: ShaderType.IsMatrix, VertexLayout.FirstField, VertexLayout.Reads, VertexInput.Covers,
  VertexLayout.input_eq_ok_iff, VertexLayout.FirstField.apart, VertexLayout.attributes_exact
-/
import Mathlib.Algebra.GroupWithZero.Nat
import ShaderFlow.Gpu.VertexLayout
import ShaderFlow.Proofs.Outcome

namespace ShaderFlow

/-!
The type of a field and its offset are found by two searches.  Both stop at the first field of the name,
so they speak of one field.  The fields lie one behind the other: of two different fields, one stands
among those before the other, and its bytes are over where the other begins.
-/

/-- The types that no vertex attribute can have. -/
def ShaderType.IsMatrix (ty : ShaderType) : Prop := ty = .mat3 ∨ ty = .mat4

/-- Exactly the matrices have no vertex format. -/
theorem ShaderType.exists_vertexFormat?_iff {ty : ShaderType} :
    (∃ format, ty.vertexFormat? = some format) ↔ ¬ty.IsMatrix := by
  cases ty <;> simp [vertexFormat?, IsMatrix]

/-- The bytes of a vertex that an input reads. -/
def VertexInput.Covers (input : VertexInput) (byte : Nat) : Prop :=
  input.offset ≤ byte ∧ byte < input.offset + input.format.size

namespace VertexLayout

variable {layout : VertexLayout} {name other : String} {ty otherTy : ShaderType} {start : Nat}
  {before earlier fields : List (String × ShaderType)} {slot : AttributeSlot} {input : VertexInput}

/-- The first field of a name, behind the fields `before`. -/
structure FirstField (layout : VertexLayout) (name : String) (ty : ShaderType)
    (before : List (String × ShaderType)) : Prop where
  placed : ∃ after, layout.fields = before ++ (name, ty) :: after
  first : name ∉ before.map Prod.fst

/-- An input reads the first field of the name of an attribute, as a value of the type that both
have. -/
structure Reads (layout : VertexLayout) (slot : AttributeSlot) (input : VertexInput) : Prop where
  field : ∃ before, layout.FirstField slot.name slot.ty before ∧
    input.offset = (before.map fun field => field.2.fieldSize).sum
  format : slot.ty.vertexFormat? = some input.format
  location : input.location = slot.location

/-! ### The two searches -/

theorem sizeOf_eq_sum (fields : List (String × ShaderType)) :
    sizeOf fields = (fields.map fun field => field.2.fieldSize).sum := by
  induction fields with
  | nil => rfl
  | cons field rest ih => simp [sizeOf, ih]

theorem sizeOf_cons (name : String) (ty : ShaderType) (rest : List (String × ShaderType)) :
    sizeOf ((name, ty) :: rest) = ty.fieldSize + sizeOf rest := rfl

theorem sizeOf_append (fields rest : List (String × ShaderType)) :
    sizeOf (fields ++ rest) = sizeOf fields + sizeOf rest := by
  simp [sizeOf_eq_sum]

/-- Fields of other names before a field put its offset off by their bytes. -/
theorem offsetFrom?_append (field : String × ShaderType) {fields rest : List (String × ShaderType)}
    (fresh : ∀ earlier ∈ fields, earlier.1 ≠ field.1) :
    offsetFrom? field.1 start (fields ++ field :: rest) = some (start + sizeOf fields) := by
  induction fields generalizing start with
  | nil => simp [offsetFrom?, sizeOf]
  | cons earlier fields ih =>
      obtain ⟨different, fresh⟩ := List.forall_mem_cons.mp fresh
      rw [List.cons_append, offsetFrom?, if_neg different, ih fresh, sizeOf, Nat.add_assoc]

namespace FirstField

theorem fieldType?_eq (field : layout.FirstField name ty before) :
    layout.fieldType? name = some ty := by
  obtain ⟨after, placed⟩ := field.placed
  have others : before.find? (·.1 = name) = none := by
    apply List.find?_eq_none.mpr
    intro earlier listed same
    exact field.first (List.mem_map.mpr ⟨earlier, listed, by simpa using same⟩)
  simp [fieldType?, placed, List.find?_append, others]

theorem offsetOf?_eq (field : layout.FirstField name ty before) :
    layout.offsetOf? name = some (sizeOf before) := by
  obtain ⟨after, placed⟩ := field.placed
  have others : ∀ earlier ∈ before, earlier.1 ≠ name := by
    intro earlier listed same
    exact field.first (List.mem_map.mpr ⟨earlier, listed, same⟩)
  rw [offsetOf?, placed, offsetFrom?_append (name, ty) others, Nat.zero_add]

end FirstField

/-- What the search for a type stops at is the first field of the name. -/
theorem exists_firstField (held : layout.fieldType? name = some ty) :
    ∃ before, layout.FirstField name ty before := by
  obtain ⟨field, found, rfl⟩ := Option.map_eq_some_iff.mp held
  obtain ⟨same, before, after, placed, others⟩ := List.find?_eq_some_iff_append.mp found
  simp only [decide_eq_true_eq] at same
  subst same
  refine ⟨before, ⟨after, placed⟩, fun listed => ?_⟩
  obtain ⟨earlier, member, same⟩ := List.mem_map.mp listed
  simpa [same] using others earlier member

theorem input_eq_ok_iff : layout.input slot = .ok input ↔ layout.Reads slot input := by
  constructor
  · intro fed
    cases held : layout.fieldType? slot.name with
    | none => simp [VertexLayout.input, held] at fed
    | some ty =>
        obtain ⟨before, field⟩ := exists_firstField held
        rw [VertexLayout.input, held, field.offsetOf?_eq] at fed
        by_cases same : ty = slot.ty
        · subst same
          cases formatted : slot.ty.vertexFormat? with
          | none => simp [formatted] at fed
          | some format =>
              simp only [formatted, if_true, Except.ok.injEq] at fed
              subst fed
              exact ⟨⟨before, field, sizeOf_eq_sum before⟩, formatted, rfl⟩
        · simp [same] at fed
  · rintro ⟨⟨before, field, offset⟩, formatted, location⟩
    rw [← sizeOf_eq_sum] at offset
    simp [VertexLayout.input, field.fieldType?_eq, field.offsetOf?_eq, formatted, ← offset,
      ← location]

/-! ### The bytes of a vertex -/

namespace FirstField

theorem end_le_stride (field : layout.FirstField name ty before) :
    sizeOf before + ty.fieldSize ≤ layout.stride := by
  obtain ⟨after, placed⟩ := field.placed
  rw [stride, placed, sizeOf_append, sizeOf_cons]
  omega

/-- A field that stands before another one ends before it. -/
theorem end_le_of_append {between : List (String × ShaderType)} :
    sizeOf before + ty.fieldSize ≤ sizeOf (before ++ (name, ty) :: between) := by
  rw [sizeOf_append, sizeOf_cons]
  omega

/-- Of two fields, one ends before the other begins. -/
theorem apart (field : layout.FirstField name ty before)
    (otherField : layout.FirstField other otherTy earlier) (different : name ≠ other) :
    sizeOf before + ty.fieldSize ≤ sizeOf earlier ∨
      sizeOf earlier + otherTy.fieldSize ≤ sizeOf before := by
  obtain ⟨after, placed⟩ := field.placed
  obtain ⟨rest, otherPlaced⟩ := otherField.placed
  rcases List.append_eq_append_iff.mp (placed.symm.trans otherPlaced) with
    ⟨between, rfl, same⟩ | ⟨between, rfl, same⟩
  · cases between with
    | nil => simp_all
    | cons head between =>
        obtain ⟨rfl, _⟩ := List.cons.inj same
        exact .inl end_le_of_append
  · cases between with
    | nil => simp_all
    | cons head between =>
        obtain ⟨rfl, _⟩ := List.cons.inj same
        exact .inr end_le_of_append

end FirstField

namespace Reads

theorem end_le_stride (reads : layout.Reads slot input) :
    input.offset + input.format.size ≤ layout.stride := by
  obtain ⟨before, field, offset⟩ := reads.field
  rw [offset, ← sizeOf_eq_sum, ShaderType.size_of_vertexFormat? reads.format]
  exact field.end_le_stride

/-- Inputs of different names share no byte. -/
theorem apart {next : AttributeSlot} {nextInput : VertexInput} {byte : Nat}
    (reads : layout.Reads slot input) (readsNext : layout.Reads next nextInput)
    (different : slot.name ≠ next.name) : ¬(input.Covers byte ∧ nextInput.Covers byte) := by
  obtain ⟨before, field, offset⟩ := reads.field
  obtain ⟨earlier, nextField, nextOffset⟩ := readsNext.field
  have separate := field.apart nextField different
  rw [sizeOf_eq_sum, sizeOf_eq_sum, ← offset, ← nextOffset,
    ← ShaderType.size_of_vertexFormat? reads.format,
    ← ShaderType.size_of_vertexFormat? readsNext.format] at separate
  rintro ⟨⟨_, _⟩, ⟨_, _⟩⟩
  omega

end Reads

/-! ### All attributes of a program -/

/-- Which attributes a layout feeds, and from where.  The layout is accepted iff the first field of the
name of every attribute has exactly its type, and no attribute is a matrix.  If it is accepted, there is
one input for each attribute, in order and at its location, with the format of its type; it reads the
bytes behind all fields that stand before its own, which end within the vertex, and inputs of different
names share none of them. -/
theorem attributes_exact (layout : VertexLayout) (slots : List AttributeSlot) :
    ((∃ inputs, layout.attributes slots = .ok inputs) ↔
      ∀ slot ∈ slots, (∃ before, layout.FirstField slot.name slot.ty before) ∧
        ¬slot.ty.IsMatrix) ∧
    ∀ inputs, layout.attributes slots = .ok inputs →
      List.Forall₂ layout.Reads slots inputs ∧
      (∀ input ∈ inputs, input.offset + input.format.size ≤ layout.stride) ∧
      ∀ one ∈ slots.zip inputs, ∀ two ∈ slots.zip inputs, one.1.name ≠ two.1.name →
        ∀ byte, ¬(one.2.Covers byte ∧ two.2.Covers byte) := by
  have reads {inputs : List VertexInput} (fed : layout.attributes slots = .ok inputs) :
      List.Forall₂ layout.Reads slots inputs :=
    (mapM_eq_ok_iff.mp fed).imp fun _ _ => input_eq_ok_iff.mp
  refine ⟨⟨?accepted, ?complete⟩, fun inputs fed => ⟨reads fed, ?within, ?disjoint⟩⟩
  case accepted =>
    rintro ⟨inputs, fed⟩ slot listed
    obtain ⟨input, _, here⟩ := exists_of_mem_items (reads fed) listed
    obtain ⟨before, field, _⟩ := here.field
    exact ⟨⟨before, field⟩, ShaderType.exists_vertexFormat?_iff.mp ⟨_, here.format⟩⟩
  case complete =>
    intro fields
    apply exists_mapM
    intro slot listed
    obtain ⟨⟨before, field⟩, vector⟩ := fields slot listed
    obtain ⟨format, formatted⟩ := ShaderType.exists_vertexFormat?_iff.mpr vector
    exact ⟨⟨format, _, slot.location⟩,
      input_eq_ok_iff.mpr ⟨⟨before, field, rfl⟩, formatted, rfl⟩⟩
  case within =>
    intro input listed
    obtain ⟨slot, _, here⟩ := exists_of_mem_results (reads fed) listed
    exact here.end_le_stride
  case disjoint =>
    intro one listed two listedTwo different byte
    have each := List.forall₂_iff_zip.mp (reads fed)
    exact (each.2 listed).apart (each.2 listedTwo) different

/-- Only the first of two fields of a name counts, and fields that nothing reads are skipped. -/
example : (⟨[("uv", .vec2), ("normal", .vec3), ("uv", .vec4), ("weight", .float)]⟩ :
      VertexLayout).attributes [⟨"weight", .float, 0⟩, ⟨"uv", .vec2, 1⟩] =
    .ok [⟨.float32, 36, 0⟩, ⟨.float32x2, 0, 1⟩] := by
  decide

end VertexLayout

end ShaderFlow

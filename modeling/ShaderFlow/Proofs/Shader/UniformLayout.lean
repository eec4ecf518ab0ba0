/-
Module: ShaderFlow.Proofs.Shader.UniformLayout
Purpose: The bytes of a uniform variable decode to the scalars of its value.
Main exports: Scalar.ofBytes, wordAt?, ShaderValue.flatten_columns, ShaderValue.uniformScalars_eq,
  ShaderValue.length_uniformBytes, ShaderValue.getElem?_uniformScalars, ShaderValue.uniformBytes_decode
-/
import Mathlib.Data.List.Basic
import ShaderFlow.Shader.ShaderValue

namespace ShaderFlow

/-!
A value is padded in one of two ways: a matrix of three columns column by column, everything else at its
end.  A value that is no matrix is a single column, and the columns of a matrix of four need no padding,
so either way every column is filled up to four scalars.  Scalar `row` of column `column` is then word
`4 * column + row`, and all other words are zero.
-/

/-! ### Words -/

/-- The scalar of four bytes, the least significant first. -/
def Scalar.ofBytes (first second third fourth : UInt8) : Scalar :=
  ⟨.ofNat (first.toNat + 256 * (second.toNat + 256 * (third.toNat + 256 * fourth.toNat)))⟩

/-- The scalar whose bytes stand at an offset. -/
def wordAt? (bytes : List UInt8) (offset : Nat) : Option Scalar :=
  match bytes.drop offset with
  | first :: second :: third :: fourth :: _ => some (.ofBytes first second third fourth)
  | _ => none

theorem Scalar.ofBytes_bytes (x : Scalar) :
    ofBytes x.bits.toUInt8 (x.bits >>> 8).toUInt8 (x.bits >>> 16).toUInt8
      (x.bits >>> 24).toUInt8 = x := by
  have bound := x.bits.toNat_lt
  have whole : x.bits.toUInt8.toNat + 256 * ((x.bits >>> 8).toUInt8.toNat +
      256 * ((x.bits >>> 16).toUInt8.toNat + 256 * (x.bits >>> 24).toUInt8.toNat)) =
        x.bits.toNat := by
    simp [Nat.shiftRight_eq_div_pow]
    omega
  rw [ofBytes, whole, UInt32.ofNat_toNat]

/-- The words of scalars that were written one after another are the scalars. -/
theorem wordAt?_flatMap_bytes (scalars : List Scalar) (number : Nat) :
    wordAt? (scalars.flatMap Scalar.bytes) (4 * number) = scalars[number]? := by
  induction scalars generalizing number with
  | nil => simp [wordAt?]
  | cons scalar rest ih =>
      cases number with
      | zero => simp [wordAt?, Scalar.bytes, Scalar.ofBytes_bytes]
      | succ number =>
          rw [List.getElem?_cons_succ, ← ih]
          simp [wordAt?, Scalar.bytes, Nat.mul_succ]

/-- Parts of one length are found at the multiples of this length. -/
theorem getElem?_flatMap {α β : Type} {parts : α → List β} {items : List α} {width : Nat}
    (each : ∀ item ∈ items, (parts item).length = width) {place : Nat} (inside : place < width)
    (number : Nat) :
    (items.flatMap parts)[width * number + place]? =
      items[number]?.bind fun item => (parts item)[place]? := by
  induction items generalizing number with
  | nil => simp
  | cons item rest ih =>
      obtain ⟨here, others⟩ := List.forall_mem_cons.mp each
      cases number with
      | zero => simp [List.getElem?_append_left, here, inside]
      | succ number =>
          have behind : width * (number + 1) + place = width + (width * number + place) := by
            rw [Nat.mul_succ]
            omega
          rw [behind, List.flatMap_cons, List.getElem?_append_right (by omega), here,
            Nat.add_sub_cancel_left, List.getElem?_cons_succ]
          exact ih others number

/-! ### Columns -/

namespace ShaderType

theorem rowCount_bounds (ty : ShaderType) : 0 < ty.rowCount ∧ ty.rowCount ≤ 4 := by
  cases ty <;> decide

/-- The size of a uniform buffer is that of its columns. -/
theorem uniformSize_eq (ty : ShaderType) : ty.uniformSize = 4 * (4 * ty.columnCount) := by
  cases ty <;> rfl

theorem place_lt_scalarCount {ty : ShaderType} {column row : Nat} (inside : column < ty.columnCount)
    (within : row < ty.rowCount) : ty.rowCount * column + row < ty.scalarCount := by
  calc ty.rowCount * column + row
    _ < ty.rowCount * (column + 1) := Nat.add_lt_add_left within _
    _ ≤ ty.rowCount * ty.columnCount := Nat.mul_le_mul_left _ inside
    _ = ty.scalarCount := Nat.mul_comm ..

end ShaderType

namespace ShaderValue

variable {value : ShaderValue}

theorem length_columns (value : ShaderValue) : value.columns.length = value.ty.columnCount := by
  simp [columns]

theorem getElem?_columns (value : ShaderValue) {column : Nat}
    (inside : column < value.ty.columnCount) :
    value.columns[column]? =
      some ((value.scalars.drop (value.ty.rowCount * column)).take value.ty.rowCount) := by
  simp [columns, inside]

theorem length_of_mem_columns {column : List Scalar} (member : column ∈ value.columns) :
    column.length = value.ty.rowCount := by
  obtain ⟨index, inside, rfl⟩ := List.mem_map.mp member
  have room : value.ty.rowCount * (index + 1) ≤ value.ty.rowCount * value.ty.columnCount :=
    Nat.mul_le_mul_left _ (List.mem_range.mp inside)
  rw [List.length_take, List.length_drop, value.length_scalars, ShaderType.scalarCount,
    Nat.mul_comm value.ty.columnCount]
  rw [Nat.mul_succ] at room
  omega

/-- The scalars of a value are its columns one after another. -/
theorem flatten_columns (value : ShaderValue) : value.columns.flatten = value.scalars := by
  have front (count : Nat) : ((List.range count).map fun column =>
      (value.scalars.drop (value.ty.rowCount * column)).take value.ty.rowCount).flatten =
        value.scalars.take (value.ty.rowCount * count) := by
    induction count with
    | zero => simp
    | succ count ih => simp [List.range_succ, ih, Nat.mul_succ, List.take_add]
  have whole : value.scalars.length ≤ value.ty.rowCount * value.ty.columnCount := by
    simp [value.length_scalars, ShaderType.scalarCount, Nat.mul_comm]
  rw [columns, front, List.take_of_length_le whole]

/-! ### Padding -/

theorem fillUp_of_dvd {scalars : List Scalar} (full : 4 ∣ scalars.length) :
    fillUp scalars = scalars := by
  simp [fillUp, Nat.mod_eq_zero_of_dvd full]

theorem length_fillUp_of_mem_columns {column : List Scalar} (member : column ∈ value.columns) :
    (fillUp column).length = 4 := by
  obtain ⟨positive, short⟩ := value.ty.rowCount_bounds
  rw [fillUp, List.length_append, List.length_replicate, length_of_mem_columns member]
  omega

theorem length_flatMap_fillUp (value : ShaderValue) :
    (value.columns.flatMap fillUp).length = 4 * value.ty.columnCount := by
  rw [List.length_flatMap, List.map_congr_left fun column => length_fillUp_of_mem_columns,
    List.map_const', List.sum_replicate_nat, length_columns, Nat.mul_comm]

/-- Both ways to pad a value fill up its columns. -/
theorem uniformScalars_eq (value : ShaderValue) :
    value.uniformScalars = value.columns.flatMap fillUp := by
  have whole : fillUp (value.columns.flatMap fillUp) = value.columns.flatMap fillUp := by
    apply fillUp_of_dvd
    rw [length_flatMap_fillUp]
    exact Nat.dvd_mul_right ..
  have lengths : ∀ column ∈ value.columns, column.length = value.ty.rowCount :=
    fun _ => length_of_mem_columns
  have flat := value.flatten_columns
  cases kind : value.ty with
  | mat3 =>
      have padded : value.columns.flatMap (fun column => column ++ [.zero]) =
          value.columns.flatMap fillUp := by
        apply List.flatMap_congr
        intro column member
        simp [fillUp, lengths column member, kind, ShaderType.rowCount]
      simp only [uniformScalars, kind]
      rw [padded, whole]
  | mat4 =>
      have full : value.columns.flatMap fillUp = value.scalars := by
        rw [← flat, ← List.flatMap_id']
        apply List.flatMap_congr
        intro column member
        apply fillUp_of_dvd
        simp [lengths column member, kind, ShaderType.rowCount]
      simp only [uniformScalars, kind]
      rw [← full, whole]
  | float | vec2 | vec3 | vec4 =>
      have one : value.columns.length = 1 := by simp [length_columns, kind, ShaderType.columnCount]
      obtain ⟨only, single⟩ := List.length_eq_one_iff.mp one
      rw [single] at flat ⊢
      simp only [uniformScalars, kind]
      simpa using congrArg fillUp flat.symm

/-- The bytes of a value are as many as a uniform of its type takes. -/
theorem length_uniformBytes (value : ShaderValue) :
    value.uniformBytes.length = value.ty.uniformSize := by
  rw [uniformBytes, uniformScalars_eq, List.length_flatMap,
    List.map_congr_left fun scalar _ => Scalar.length_bytes scalar, List.map_const',
    List.sum_replicate_nat, length_flatMap_fillUp, ShaderType.uniformSize_eq, Nat.mul_comm]

/-! ### Decoding -/

/-- A padded column holds the scalars of the column, and zeros up to the fourth. -/
theorem getElem?_uniformScalars (value : ShaderValue) {column row : Nat}
    (inside : column < value.ty.columnCount) (below : row < 4) :
    value.uniformScalars[4 * column + row]? =
      if row < value.ty.rowCount then value.scalars[value.ty.rowCount * column + row]?
      else some .zero := by
  have held := value.getElem?_columns inside
  have long := length_of_mem_columns (List.mem_of_getElem? held)
  have filled := length_fillUp_of_mem_columns (List.mem_of_getElem? held)
  rw [uniformScalars_eq, getElem?_flatMap (fun _ => length_fillUp_of_mem_columns) below, held,
    Option.bind_some]
  rw [fillUp, List.length_append, long, List.length_replicate] at filled
  rw [fillUp, List.getElem?_append, long]
  split
  · next within => rw [List.getElem?_take_of_lt within, List.getElem?_drop]
  · rw [List.getElem?_replicate, if_pos (by omega)]

theorem wordAt?_uniformBytes (value : ShaderValue) (number : Nat) :
    wordAt? value.uniformBytes (4 * number) = value.uniformScalars[number]? :=
  wordAt?_flatMap_bytes ..

/-- The word of a scalar, by its column and its row. -/
theorem wordAt?_of_place (value : ShaderValue) {column row : Nat}
    (inside : column < value.ty.columnCount) (within : row < value.ty.rowCount) :
    wordAt? value.uniformBytes (4 * (4 * column + row)) =
      value.scalars[value.ty.rowCount * column + row]? := by
  have below : row < 4 := Nat.lt_of_lt_of_le within value.ty.rowCount_bounds.2
  rw [wordAt?_uniformBytes, value.getElem?_uniformScalars inside below, if_pos within]

/-- A word that belongs to no scalar is zero. -/
theorem wordAt?_of_gap (value : ShaderValue) {word : Nat} (inside : 4 * word < value.ty.uniformSize)
    (gap : ∀ column < value.ty.columnCount, ∀ row < value.ty.rowCount, word ≠ 4 * column + row) :
    wordAt? value.uniformBytes (4 * word) = some .zero := by
  have size := value.ty.uniformSize_eq
  have column : word / 4 < value.ty.columnCount := by omega
  have split : word = 4 * (word / 4) + word % 4 := (Nat.div_add_mod word 4).symm
  have outside : ¬ word % 4 < value.ty.rowCount := fun within => gap _ column _ within split
  rw [wordAt?_uniformBytes, split,
    value.getElem?_uniformScalars column (Nat.mod_lt _ (by decide)), if_neg outside]

/-- Values of one type that have the same bytes have the same scalars. -/
theorem scalars_eq_of_uniformBytes {other : ShaderValue} (ty : other.ty = value.ty)
    (same : other.uniformBytes = value.uniformBytes) : other.scalars = value.scalars := by
  apply List.ext_getElem?
  intro index
  by_cases inside : index < value.ty.scalarCount
  · have row : index % value.ty.rowCount < value.ty.rowCount :=
      Nat.mod_lt _ value.ty.rowCount_bounds.1
    have column : index / value.ty.rowCount < value.ty.columnCount :=
      Nat.div_lt_of_lt_mul (Nat.mul_comm .. ▸ inside)
    have mine := value.wordAt?_of_place column row
    have others := other.wordAt?_of_place (ty ▸ column) (ty ▸ row)
    rw [same, ty, mine, Nat.div_add_mod] at others
    exact others.symm
  · have beyond := Nat.le_of_not_lt inside
    rw [List.getElem?_eq_none (by rwa [other.length_scalars, ty]),
      List.getElem?_eq_none (by rwa [value.length_scalars])]

/-- The bytes of a uniform decode to its value, whatever the bits of its scalars are.  They are as many
as a buffer of its type takes.  Word `4 * column + row` is the scalar in this column and row, and the
scalars are listed column by column; all other words are zero.  So values of one type have the same
bytes iff their scalars are the same bit by bit. -/
theorem uniformBytes_decode (value : ShaderValue) :
    value.uniformBytes.length = value.ty.uniformSize ∧
    (∀ column < value.ty.columnCount, ∀ row < value.ty.rowCount, ∃ scalar,
      value.scalars[value.ty.rowCount * column + row]? = some scalar ∧
        wordAt? value.uniformBytes (4 * (4 * column + row)) = some scalar) ∧
    (∀ word, 4 * word < value.ty.uniformSize →
      (∀ column < value.ty.columnCount, ∀ row < value.ty.rowCount, word ≠ 4 * column + row) →
        wordAt? value.uniformBytes (4 * word) = some .zero) ∧
    ∀ other : ShaderValue, other.ty = value.ty →
      (other.uniformBytes = value.uniformBytes ↔ other.scalars = value.scalars) := by
  refine ⟨value.length_uniformBytes, ?_, fun word => value.wordAt?_of_gap, ?_⟩
  · intro column inside row within
    have place := ShaderType.place_lt_scalarCount inside within
    rw [← value.length_scalars] at place
    have held := List.getElem?_eq_getElem place
    exact ⟨_, held, (value.wordAt?_of_place inside within).trans held⟩
  · intro other ty
    constructor
    · exact scalars_eq_of_uniformBytes ty
    · intro same
      cases other
      cases value
      cases ty
      cases same
      rfl

end ShaderValue

end ShaderFlow

/-
Module: ShaderFlow.Proofs.Render.DebugLayout
Purpose: The debug grid is laid out within 32 bits; its cells keep to their shares of the surface.
Main exports: Word.ofNat?, DebugGrid.cellsChecked?, DebugGrid.Asks, DebugGrid.InShare,
  DebugGrid.cellsChecked?_eq, DebugGrid.cells_sound
-/
import Mathlib.Algebra.GroupWithZero.Nat
import Mathlib.Data.Finset.Card
import Mathlib.Order.Bounds.Basic
import ShaderFlow.Proofs.Outcome
import ShaderFlow.Proofs.Render.DebugCells

namespace ShaderFlow

/-!
The grid is defined over natural numbers and written into 32 bits at the end.  Here the same grid is
laid out with 32-bit numbers, where every step may fail: a sum or product that does not fit, a
difference below zero, a division by zero.  No step does, because everything that is computed lies
within a side of the surface; only the search for the number of columns squares numbers of its own,
and it ends at 65535 at the latest.
-/

/-! ### Arithmetic within 32 bits -/

namespace Word

/-- The 32-bit number of a value, if it fits. -/
def ofNat? (value : Nat) : Option UInt32 :=
  if value < UInt32.size then some (.ofNat value) else none

/-- A sum that must fit. -/
def sum? (a b : UInt32) : Option UInt32 := ofNat? (a.toNat + b.toNat)

/-- A product that must fit. -/
def product? (a b : UInt32) : Option UInt32 := ofNat? (a.toNat * b.toNat)

/-- A quotient, unless the divisor is zero. -/
def quotient? (a b : UInt32) : Option UInt32 := if b = 0 then none else some (a / b)

/-- A remainder, unless the divisor is zero. -/
def remainder? (a b : UInt32) : Option UInt32 := if b = 0 then none else some (a % b)

/-- A quotient rounded up, unless the divisor is zero. -/
def ceilQuotient? (a b : UInt32) : Option UInt32 := do
  let whole ← quotient? a b
  if 0 < (← remainder? a b) then sum? whole 1 else return whole

theorem ofNat?_eq_some_iff {value : Nat} {word : UInt32} :
    ofNat? value = some word ↔ value = word.toNat := by
  constructor
  · intro found
    by_cases fits : value < UInt32.size
    · simp only [ofNat?, fits, if_true, Option.some.injEq] at found
      rw [← found]
      exact (UInt32.toNat_ofNat_of_lt fits).symm
    · simp [ofNat?, fits] at found
  · rintro rfl
    simp [ofNat?, word.toNat_lt_size]

/-- Every 32-bit number is the number of a value that fits. -/
theorem exists_ofNat (word : UInt32) : ∃ value < UInt32.size, word = .ofNat value :=
  ⟨word.toNat, word.toNat_lt_size, UInt32.ofNat_toNat.symm⟩

variable {a b : Nat} (a_fits : a < UInt32.size) (b_fits : b < UInt32.size)
include a_fits

theorem ofNat?_of_lt : ofNat? a = some (.ofNat a) := if_pos a_fits

theorem toNat_ofNat : (UInt32.ofNat a).toNat = a := UInt32.toNat_ofNat_of_lt a_fits

theorem ofNat_ne_zero (nonzero : a ≠ 0) : UInt32.ofNat a ≠ 0 := by
  rw [ne_eq, ← UInt32.toNat_inj, toNat_ofNat a_fits]
  exact nonzero

include b_fits

theorem ofNat_lt_iff : UInt32.ofNat a < UInt32.ofNat b ↔ a < b := by
  rw [UInt32.lt_iff_toNat_lt, toNat_ofNat a_fits, toNat_ofNat b_fits]

theorem ofNat_le_iff : UInt32.ofNat a ≤ UInt32.ofNat b ↔ a ≤ b := by
  rw [UInt32.le_iff_toNat_le, toNat_ofNat a_fits, toNat_ofNat b_fits]

theorem min_ofNat : min (UInt32.ofNat a) (.ofNat b) = .ofNat (min a b) := by
  rw [← UInt32.toNat_inj, Viewport.toNat_min, toNat_ofNat a_fits, toNat_ofNat b_fits,
    toNat_ofNat (Nat.lt_of_le_of_lt (Nat.min_le_left a b) a_fits)]

theorem max_ofNat : max (UInt32.ofNat a) (.ofNat b) = .ofNat (max a b) := by
  show (if UInt32.ofNat a ≤ .ofNat b then UInt32.ofNat b else .ofNat a) = _
  rw [Nat.max_def]
  simp only [ofNat_le_iff a_fits b_fits]
  split <;> rfl

theorem sum?_ofNat (fits : a + b < UInt32.size) :
    sum? (.ofNat a) (.ofNat b) = some (.ofNat (a + b)) := by
  rw [sum?, toNat_ofNat a_fits, toNat_ofNat b_fits, ofNat?_of_lt fits]

theorem product?_ofNat (fits : a * b < UInt32.size) :
    product? (.ofNat a) (.ofNat b) = some (.ofNat (a * b)) := by
  rw [product?, toNat_ofNat a_fits, toNat_ofNat b_fits, ofNat?_of_lt fits]

theorem difference?_ofNat (le : b ≤ a) :
    Viewport.difference? (.ofNat a) (.ofNat b) = some (.ofNat (a - b)) := by
  rw [Viewport.difference?, if_pos ((ofNat_le_iff b_fits a_fits).mpr le), UInt32.ofNat_sub le]

theorem ofNat_div : UInt32.ofNat a / .ofNat b = .ofNat (a / b) := by
  rw [← UInt32.toNat_inj, UInt32.toNat_div, toNat_ofNat a_fits, toNat_ofNat b_fits,
    toNat_ofNat (Nat.lt_of_le_of_lt (Nat.div_le_self a b) a_fits)]

theorem quotient?_ofNat (nonzero : b ≠ 0) :
    quotient? (.ofNat a) (.ofNat b) = some (.ofNat (a / b)) := by
  rw [quotient?, if_neg (ofNat_ne_zero b_fits nonzero), ofNat_div a_fits b_fits]

theorem remainder?_ofNat (nonzero : b ≠ 0) :
    remainder? (.ofNat a) (.ofNat b) = some (.ofNat (a % b)) := by
  rw [remainder?, if_neg (ofNat_ne_zero b_fits nonzero), Option.some.injEq, ← UInt32.toNat_inj,
    UInt32.toNat_mod, toNat_ofNat a_fits, toNat_ofNat b_fits,
    toNat_ofNat (Nat.lt_of_le_of_lt (Nat.mod_le a b) a_fits)]

/-- A quotient that leaves a remainder is less than the dividend, so one more fits as well. -/
theorem ceilQuotient?_ofNat (nonzero : b ≠ 0) :
    ceilQuotient? (.ofNat a) (.ofNat b) = some (.ofNat ((a + b - 1) / b)) := by
  have positive : 0 < b := Nat.pos_of_ne_zero nonzero
  have whole := Nat.div_add_mod a b
  have rest := Nat.mod_lt a positive
  have quotient_le := Nat.div_le_self a b
  have remainder_le := Nat.mod_le a b
  have zero_fits : 0 < UInt32.size := by decide
  have remainder_fits : a % b < UInt32.size := by omega
  simp only [ceilQuotient?, quotient?_ofNat a_fits b_fits nonzero,
    remainder?_ofNat a_fits b_fits nonzero, Option.bind_eq_bind, Option.bind_some,
    show (0 : UInt32) = .ofNat 0 from rfl, show (1 : UInt32) = .ofNat 1 from rfl,
    ofNat_lt_iff zero_fits remainder_fits]
  rcases Nat.eq_zero_or_pos (a % b) with even | left
  · rw [if_neg (by omega)]
    have exact_quotient : (a + b - 1) / b = a / b := by
      rw [show a + b - 1 = b * (a / b) + (b - 1) by omega, Nat.mul_add_div positive,
        Nat.div_eq_of_lt (show b - 1 < b by omega), Nat.add_zero]
    rw [exact_quotient]
    rfl
  · have next : (a + b - 1) / b = a / b + 1 := by
      rw [show a + b - 1 = b * (a / b) + (a % b + b - 1) by omega, Nat.mul_add_div positive,
        show a % b + b - 1 = a % b - 1 + b by omega, Nat.add_div_right _ positive,
        Nat.div_eq_of_lt (show a % b - 1 < b by omega)]
    have smaller : a / b < a := by
      refine Nat.div_lt_self (by omega) ?_
      by_contra single
      have none_left : a % b = 0 := by rw [show b = 1 by omega, Nat.mod_one]
      omega
    rw [if_pos left, sum?_ofNat (by omega) (by decide) (by omega), next]

end Word

namespace DebugGrid

/-! ### The layout within 32 bits -/

/-- Smallest number from a given start on whose square is at least a count. -/
def squareColumnsChecked? (count columns : UInt32) : Option UInt32 :=
  match _squared : Word.product? columns columns with
  | none => none
  | some square =>
      if _lacking : square < count then
        match _following : Word.sum? columns 1 with
        | none => none
        | some next => squareColumnsChecked? count next
      else some columns
termination_by count.toNat - columns.toNat
decreasing_by
  replace _squared := Word.ofNat?_eq_some_iff.mp _squared
  replace _following := Word.ofNat?_eq_some_iff.mp _following
  replace _lacking := UInt32.lt_iff_toNat_lt.mp _lacking
  have atMost := Nat.le_mul_self columns.toNat
  have one : (1 : UInt32).toNat = 1 := rfl
  omega

/-- Number of columns for a count of cells. -/
def columnCountChecked? (grid : DebugGrid) (count : UInt32) : Option UInt32 := do
  let columns ←
    match grid.columns with
    | some columns => if columns = 0 then squareColumnsChecked? count 1 else some columns
    | none => squareColumnsChecked? count 1
  return min columns count

/-- A cell of the given number, where every cell has a share of the given size. -/
def cellChecked? (columns padding : UInt32) (share : Extent) (index : UInt32) :
    Option Viewport := do
  let column ← Word.remainder? index columns
  let row ← Word.quotient? index columns
  let x ← Word.sum? (← Word.product? column share.width) padding
  let y ← Word.sum? (← Word.product? row share.height) padding
  let border ← Word.product? 2 padding
  let width ← Viewport.difference? share.width border
  let height ← Viewport.difference? share.height border
  return ⟨x, y, max width 1, max height 1⟩

/-- The rectangles of `count` cells on a surface, laid out with 32-bit numbers alone. -/
def cellsChecked? (grid : DebugGrid) (count : UInt32) (surface : Extent) :
    Option (List Viewport) := do
  if count = 0 then
    return []
  let columns ← grid.columnCountChecked? count
  let rows ← Word.ceilQuotient? count columns
  let width ← Word.quotient? surface.width columns
  let height ← Word.quotient? surface.height rows
  let padding := min (min grid.padding (width / 2)) (height / 2)
  (List.range count.toNat).mapM fun index =>
    cellChecked? columns padding ⟨width, height⟩ (.ofNat index)

/-- The search ends at the first number whose square is large enough, if not before. -/
theorem squareColumnsFrom_le {count columns enough : Nat} (start : columns ≤ enough)
    (square : count ≤ enough * enough) : squareColumnsFrom count columns ≤ enough := by
  induction columns using squareColumnsFrom.induct count with
  | case1 columns lacking ih =>
      rw [squareColumnsFrom, if_pos lacking]
      apply ih
      exact Nat.mul_self_lt_mul_self_iff.mp (by omega)
  | case2 columns reached =>
      rw [squareColumnsFrom, if_neg reached]
      exact start

/-- The search keeps within the numbers whose square fits, if some such number is large enough. -/
theorem squareColumnsChecked?_ofNat {count columns : Nat} (bounded : count ≤ 65535 ^ 2)
    (inside : columns ≤ 65535) :
    squareColumnsChecked? (.ofNat count) (.ofNat columns) =
      some (.ofNat (squareColumnsFrom count columns)) := by
  have size : UInt32.size = 4294967296 := rfl
  induction columns using squareColumnsFrom.induct count with
  | case1 columns lacking ih =>
      have below : columns ≠ 65535 := by
        rintro rfl
        omega
      have square_le := Nat.mul_le_mul inside inside
      have product := Word.product?_ofNat (show columns < _ by omega) (show columns < _ by omega)
        (by omega)
      have sum : Word.sum? (.ofNat columns) 1 = some (.ofNat (columns + 1)) :=
        Word.sum?_ofNat (b := 1) (by omega) (by omega) (by omega)
      have less := (Word.ofNat_lt_iff (show columns * columns < _ by omega)
        (show count < _ by omega)).mpr lacking
      rw [squareColumnsFrom, if_pos lacking, ← ih (by omega), squareColumnsChecked?]
      split
      case h_1 missing => cases product.symm.trans missing
      case h_2 square squared =>
        cases product.symm.trans squared
        rw [dif_pos less]
        split
        case h_1 missing => cases sum.symm.trans missing
        case h_2 next following =>
          cases sum.symm.trans following
          rfl
  | case2 columns enough =>
      have square_le := Nat.mul_le_mul inside inside
      have product := Word.product?_ofNat (show columns < _ by omega) (show columns < _ by omega)
        (by omega)
      have least : ¬ UInt32.ofNat (columns * columns) < .ofNat count := by
        rw [Word.ofNat_lt_iff (by omega) (by omega)]
        exact enough
      rw [squareColumnsFrom, if_neg enough, squareColumnsChecked?]
      split
      case h_1 missing => cases product.symm.trans missing
      case h_2 square squared =>
        cases product.symm.trans squared
        rw [dif_neg least]

variable {grid : DebugGrid} {count : UInt32} {surface : Extent}

/-- Width of the share of the surface that a cell has. -/
def shareWidth (grid : DebugGrid) (count : UInt32) (surface : Extent) : Nat :=
  surface.width.toNat / grid.columnCount count.toNat

/-- Height of the share of the surface that a cell has. -/
def shareHeight (grid : DebugGrid) (count : UInt32) (surface : Extent) : Nat :=
  surface.height.toNat / grid.rowCount count.toNat

/-- Padding that a cell gets: at most half of its share on each side. -/
def inset (grid : DebugGrid) (count : UInt32) (surface : Extent) : Nat :=
  min grid.padding.toNat
    (min (grid.shareWidth count surface / 2) (grid.shareHeight count surface / 2))

/-- The cell of a number among cells that lie side by side in so many columns. -/
def cellAt (columns width height padding index : Nat) : Viewport :=
  { x := .ofNat (index % columns * width + padding)
    y := .ofNat (index / columns * height + padding)
    width := .ofNat (max (width - 2 * padding) 1)
    height := .ofNat (max (height - 2 * padding) 1) }

theorem cells_eq_map (grid : DebugGrid) (count : UInt32) (surface : Extent) :
    grid.cells count surface =
      (List.range count.toNat).map
        (cellAt (grid.columnCount count.toNat) (grid.shareWidth count surface)
          (grid.shareHeight count surface) (grid.inset count surface)) := rfl

/-- The shares in front of a cell and its own lie on the side of the surface. -/
theorem succ_mul_share_le {parts part : Nat} (length : Nat) (inside : part < parts) :
    (part + 1) * (length / parts) ≤ length :=
  Nat.le_trans (Nat.mul_le_mul_right _ inside) (Nat.mul_div_le length parts)

theorem inset_le (grid : DebugGrid) (count : UInt32) (surface : Extent) :
    grid.inset count surface ≤ grid.shareWidth count surface / 2 ∧
      grid.inset count surface ≤ grid.shareHeight count surface / 2 :=
  Nat.le_min.mp (Nat.min_le_right _ _)

theorem shareWidth_lt_size (grid : DebugGrid) (count : UInt32) (surface : Extent) :
    grid.shareWidth count surface < UInt32.size :=
  Nat.lt_of_le_of_lt (Nat.div_le_self _ _) surface.width.toNat_lt_size

theorem shareHeight_lt_size (grid : DebugGrid) (count : UInt32) (surface : Extent) :
    grid.shareHeight count surface < UInt32.size :=
  Nat.lt_of_le_of_lt (Nat.div_le_self _ _) surface.height.toNat_lt_size

/-- The grid can search for its number of columns, or need not. -/
def Searchable (grid : DebugGrid) (count : UInt32) : Prop :=
  count.toNat ≤ 65535 ^ 2 ∨ ∃ columns, grid.columns = some columns ∧ columns ≠ 0

theorem columnCountChecked?_eq (searchable : grid.Searchable count) :
    grid.columnCountChecked? count = some (.ofNat (grid.columnCount count.toNat)) := by
  have size : UInt32.size = 4294967296 := rfl
  have min_eq {columns : Nat} (fits : columns < UInt32.size) :
      min (UInt32.ofNat columns) count = .ofNat (min columns count.toNat) := by
    simpa only [UInt32.ofNat_toNat] using Word.min_ofNat fits count.toNat_lt_size
  have search (bounded : count.toNat ≤ 65535 ^ 2) :
      squareColumnsChecked? count 1 = some (.ofNat (squareColumns count.toNat)) ∧
        squareColumns count.toNat < UInt32.size := by
    have found := squareColumnsChecked?_ofNat bounded (show 1 ≤ 65535 by decide)
    have last : squareColumns count.toNat ≤ 65535 :=
      squareColumnsFrom_le (by decide) (by simpa using bounded)
    rw [UInt32.ofNat_toNat] at found
    exact ⟨found, by omega⟩
  unfold columnCountChecked? columnCount
  rcases searchable with bounded | ⟨columns, configured, nonzero⟩
  · obtain ⟨found, fits⟩ := search bounded
    cases grid.columns with
    | none => simp [found, min_eq fits]
    | some columns =>
        by_cases unset : columns = 0
        · simp [unset, found, min_eq fits]
        · simpa [unset] using min_eq columns.toNat_lt_size
  · simpa [configured, nonzero] using min_eq columns.toNat_lt_size

theorem columnCount_lt_size (grid : DebugGrid) (count : UInt32) :
    grid.columnCount count.toNat < UInt32.size :=
  Nat.lt_of_le_of_lt (Nat.min_le_right _ _) count.toNat_lt_size

theorem rowCount_lt_size (grid : DebugGrid) (count : UInt32) (nonempty : 0 < count.toNat) :
    grid.rowCount count.toNat < UInt32.size := by
  refine Nat.lt_of_le_of_lt (Nat.div_le_of_le_mul ?_) count.toNat_lt_size
  have columns := grid.columnCount_pos nonempty
  have several := Nat.le_mul_of_pos_left (count.toNat - 1) columns
  rw [Nat.mul_sub_one] at several
  have whole := Nat.le_mul_of_pos_right (grid.columnCount count.toNat) nonempty
  omega

/-- A cell is laid out whenever its far corner fits. -/
theorem cellChecked?_ofNat {columns padding width height index : Nat} (nonzero : columns ≠ 0)
    (columns_fits : columns < UInt32.size) (index_fits : index < UInt32.size)
    (width_fits : width < UInt32.size) (height_fits : height < UInt32.size)
    (across : padding ≤ width / 2) (down : padding ≤ height / 2)
    (right : index % columns * width + padding < UInt32.size)
    (bottom : index / columns * height + padding < UInt32.size) :
    cellChecked? (.ofNat columns) (.ofNat padding) ⟨.ofNat width, .ofNat height⟩ (.ofNat index) =
      some (cellAt columns width height padding index) := by
  have column_le := Nat.mod_le index columns
  have row_le := Nat.div_le_self index columns
  have size : UInt32.size = 4294967296 := rfl
  have two : (2 : UInt32) = .ofNat 2 := rfl
  have one : (1 : UInt32) = .ofNat 1 := rfl
  simp (disch := omega) only [cellChecked?, cellAt, two, one, Word.remainder?_ofNat,
    Word.quotient?_ofNat, Word.product?_ofNat, Word.sum?_ofNat, Word.difference?_ofNat, Word.max_ofNat,
    Option.bind_eq_bind, Option.bind_some, Option.pure_def]

/-! Each step of the layout has the number that the grid has for it. -/

theorem inset_ofNat (grid : DebugGrid) (count : UInt32) (surface : Extent) :
    min (min grid.padding (.ofNat (grid.shareWidth count surface) / 2))
        (.ofNat (grid.shareHeight count surface) / 2) =
      .ofNat (grid.inset count surface) := by
  have size : UInt32.size = 4294967296 := rfl
  have two : (2 : UInt32) = .ofNat 2 := rfl
  have width_fits := grid.shareWidth_lt_size count surface
  have height_fits := grid.shareHeight_lt_size count surface
  obtain ⟨padding, padding_fits, same⟩ := Word.exists_ofNat grid.padding
  simp (disch := omega) only [inset, same, two, Word.ofNat_div, Word.min_ofNat, Word.toNat_ofNat,
    Nat.min_assoc]

section

variable (nonempty : 0 < count.toNat)
include nonempty

theorem rowCount_pos : 0 < grid.rowCount count.toNat :=
  Nat.zero_lt_of_lt (grid.row_lt_rowCount nonempty)

theorem ceilQuotient?_columnCount :
    Word.ceilQuotient? count (.ofNat (grid.columnCount count.toNat)) =
      some (.ofNat (grid.rowCount count.toNat)) := by
  have quotient := Word.ceilQuotient?_ofNat count.toNat_lt_size (grid.columnCount_lt_size count)
    (grid.columnCount_pos nonempty).ne'
  rwa [UInt32.ofNat_toNat] at quotient

theorem quotient?_columnCount :
    Word.quotient? surface.width (.ofNat (grid.columnCount count.toNat)) =
      some (.ofNat (grid.shareWidth count surface)) := by
  have quotient := Word.quotient?_ofNat surface.width.toNat_lt_size
    (grid.columnCount_lt_size count) (grid.columnCount_pos nonempty).ne'
  rwa [UInt32.ofNat_toNat] at quotient

theorem quotient?_rowCount :
    Word.quotient? surface.height (.ofNat (grid.rowCount count.toNat)) =
      some (.ofNat (grid.shareHeight count surface)) := by
  have quotient := Word.quotient?_ofNat surface.height.toNat_lt_size
    (grid.rowCount_lt_size count nonempty) (rowCount_pos nonempty).ne'
  rwa [UInt32.ofNat_toNat] at quotient

end

/-- The corner of a cell lies on the surface. -/
theorem corner_le (grid : DebugGrid) (surface : Extent) {index : Nat} (listed : index < count.toNat) :
    index % grid.columnCount count.toNat * grid.shareWidth count surface +
        grid.inset count surface ≤ surface.width.toNat ∧
      index / grid.columnCount count.toNat * grid.shareHeight count surface +
        grid.inset count surface ≤ surface.height.toNat := by
  obtain ⟨across, down⟩ := grid.inset_le count surface
  have columns := grid.columnCount_pos (Nat.zero_lt_of_lt listed)
  have width := succ_mul_share_le surface.width.toNat (Nat.mod_lt index columns)
  have height := succ_mul_share_le surface.height.toNat (grid.row_lt_rowCount listed)
  rw [Nat.succ_mul] at width height
  unfold shareWidth at across ⊢
  unfold shareHeight at down ⊢
  omega

/-- The grid is laid out within 32 bits: nothing overflows or falls below zero, and nothing is
divided by zero. -/
theorem cellsChecked?_eq (searchable : grid.Searchable count) :
    grid.cellsChecked? count surface = some (grid.cells count surface) := by
  unfold cellsChecked?
  split
  case isTrue empty => simp [empty, cells]
  case isFalse filled =>
    have nonempty : 0 < count.toNat := by
      rw [Nat.pos_iff_ne_zero, ne_eq, ← UInt32.toNat_zero, UInt32.toNat_inj]
      exact filled
    obtain ⟨across, down⟩ := grid.inset_le count surface
    have laid_out (index : Nat) (listed : index ∈ List.range count.toNat) :
        cellChecked? (.ofNat (grid.columnCount count.toNat)) (.ofNat (grid.inset count surface))
            ⟨.ofNat (grid.shareWidth count surface), .ofNat (grid.shareHeight count surface)⟩
            (.ofNat index) =
          pure (cellAt (grid.columnCount count.toNat) (grid.shareWidth count surface)
            (grid.shareHeight count surface) (grid.inset count surface) index) := by
      replace listed := List.mem_range.mp listed
      obtain ⟨right, bottom⟩ := grid.corner_le surface listed
      apply cellChecked?_ofNat (grid.columnCount_pos nonempty).ne' (grid.columnCount_lt_size count)
        (Nat.lt_trans listed count.toNat_lt_size) (grid.shareWidth_lt_size count surface)
        (grid.shareHeight_lt_size count surface) across down
      · exact Nat.lt_of_le_of_lt right surface.width.toNat_lt_size
      · exact Nat.lt_of_le_of_lt bottom surface.height.toNat_lt_size
    simp only [columnCountChecked?_eq searchable, ceilQuotient?_columnCount nonempty,
      quotient?_columnCount nonempty, quotient?_rowCount nonempty, inset_ofNat,
      Option.bind_eq_bind, Option.bind_some]
    rw [mapM_congr laid_out, List.mapM_pure]
    rfl

/-! ### Where the cells lie -/

/-- The number of columns that a grid asks for: the configured one unless it is zero, otherwise the
least whose square has room for all cells. -/
inductive Asks (grid : DebugGrid) (count : Nat) : Nat → Prop where
  | configured {columns : UInt32} (fixed : grid.columns = some columns) (nonzero : columns ≠ 0) :
      Asks grid count columns.toNat
  | square {columns : Nat} (free : ∀ fixed, grid.columns = some fixed → fixed = 0)
      (least : IsLeast {columns | count ≤ columns * columns} columns) : Asks grid count columns

/-- A rectangle keeps to the share of the cell of a number, where shares of the given size lie in so
many columns and are counted row by row. -/
structure InShare (columns width height index : Nat) (cell : Viewport) : Prop where
  left : index % columns * width ≤ cell.x.toNat
  right : cell.x.toNat + cell.width.toNat ≤ (index % columns + 1) * width
  top : index / columns * height ≤ cell.y.toNat
  bottom : cell.y.toNat + cell.height.toNat ≤ (index / columns + 1) * height

theorem le_square_squareColumnsFrom (count columns : Nat) :
    count ≤ squareColumnsFrom count columns * squareColumnsFrom count columns := by
  induction columns using squareColumnsFrom.induct count with
  | case1 columns lacking ih =>
      rw [squareColumnsFrom, if_pos lacking]
      exact ih
  | case2 columns reached =>
      rw [squareColumnsFrom, if_neg reached]
      exact Nat.le_of_not_lt reached

theorem isLeast_squareColumns {count : Nat} (nonempty : 0 < count) :
    IsLeast {columns | count ≤ columns * columns} (squareColumns count) := by
  refine ⟨le_square_squareColumnsFrom count 1, fun columns enough => ?_⟩
  apply squareColumnsFrom_le _ enough
  rw [Nat.one_le_iff_ne_zero]
  rintro rfl
  exact absurd enough (Nat.not_le_of_lt nonempty)

theorem exists_asks (grid : DebugGrid) {count : Nat} (nonempty : 0 < count) :
    ∃ columns, grid.Asks count columns ∧ grid.columnCount count = min columns count := by
  have least := isLeast_squareColumns nonempty
  unfold columnCount
  cases configured : grid.columns with
  | none => exact ⟨_, .square (by simp [configured]) least, rfl⟩
  | some columns =>
      by_cases unset : columns = 0
      · exact ⟨_, .square (by simp [configured, unset]) least, by simp [unset]⟩
      · exact ⟨_, .configured configured unset, by simp [unset]⟩

theorem isLeast_rowCount (grid : DebugGrid) {count : Nat} (nonempty : 0 < count) :
    IsLeast {rows | count ≤ rows * grid.columnCount count} (grid.rowCount count) := by
  have columns := grid.columnCount_pos nonempty
  have whole := Nat.div_add_mod (count + grid.columnCount count - 1) (grid.columnCount count)
  have rest := Nat.mod_lt (count + grid.columnCount count - 1) columns
  constructor
  · show count ≤ (count + grid.columnCount count - 1) / grid.columnCount count * _
    rw [Nat.mul_comm]
    omega
  · intro rows enough
    apply Nat.le_of_lt_succ
    apply (Nat.div_lt_iff_lt_mul columns).mpr
    rw [Nat.succ_mul]
    exact Nat.lt_of_lt_of_le (by omega) (Nat.add_le_add_right enough _)

/-- The corner of a cell stands behind the shares in front of it and the padding; its sides are what
the padding leaves of a share, and one pixel at least. -/
theorem toNat_cell {index : Nat} {cell : Viewport}
    (listed : (grid.cells count surface)[index]? = some cell) :
    cell.x.toNat =
        index % grid.columnCount count.toNat * grid.shareWidth count surface +
          grid.inset count surface ∧
      cell.y.toNat =
        index / grid.columnCount count.toNat * grid.shareHeight count surface +
          grid.inset count surface ∧
      cell.width.toNat =
        max (grid.shareWidth count surface - 2 * grid.inset count surface) 1 ∧
      cell.height.toNat =
        max (grid.shareHeight count surface - 2 * grid.inset count surface) 1 := by
  have size : UInt32.size = 4294967296 := rfl
  have width := grid.shareWidth_lt_size count surface
  have height := grid.shareHeight_lt_size count surface
  obtain ⟨inside, rfl⟩ := List.getElem?_eq_some_iff.mp listed
  rw [length_cells] at inside
  obtain ⟨right, bottom⟩ := grid.corner_le surface inside
  have right_fits := surface.width.toNat_lt_size
  have bottom_fits := surface.height.toNat_lt_size
  simp only [cells_eq_map, List.getElem_map, List.getElem_range, cellAt]
  refine ⟨?_, ?_, ?_, ?_⟩
  all_goals apply Word.toNat_ofNat; omega

theorem pos_of_mem_cells {cell : Viewport} (member : cell ∈ grid.cells count surface) :
    0 < cell.width ∧ 0 < cell.height := by
  obtain ⟨index, listed⟩ := List.mem_iff_getElem?.mp member
  obtain ⟨-, -, width, height⟩ := toNat_cell listed
  simp only [UInt32.lt_iff_toNat_lt, UInt32.toNat_zero]
  omega

/-- A share with pixels has room for its cell, as the padding leaves one of them. -/
theorem inShare_of_getElem? (wide : 0 < grid.shareWidth count surface)
    (high : 0 < grid.shareHeight count surface) {index : Nat} {cell : Viewport}
    (listed : (grid.cells count surface)[index]? = some cell) :
    InShare (grid.columnCount count.toNat) (grid.shareWidth count surface)
      (grid.shareHeight count surface) index cell := by
  obtain ⟨x, y, width, height⟩ := toNat_cell listed
  obtain ⟨across, down⟩ := grid.inset_le count surface
  constructor
  all_goals
    try rw [Nat.succ_mul]
    omega

/-- The pixels of a share tell its column and its row. -/
theorem InShare.place {columns width height index x y : Nat} {cell : Viewport}
    (share : InShare columns width height index cell) (held : cell.Holds x y) :
    x / width = index % columns ∧ y / height = index / columns :=
  ⟨Nat.div_eq_of_lt_le (Nat.le_trans share.left held.left)
      (Nat.lt_of_lt_of_le held.right share.right),
    Nat.div_eq_of_lt_le (Nat.le_trans share.top held.top)
      (Nat.lt_of_lt_of_le held.bottom share.bottom)⟩

/-- Cells that keep to shares of different numbers have no pixel in common. -/
theorem InShare.apart {columns width height index later : Nat} {cell other : Viewport}
    (share : InShare columns width height index cell)
    (next : InShare columns width height later other) (different : index ≠ later) :
    cell.Apart other := by
  intro x y held shared
  obtain ⟨column, row⟩ := share.place held
  obtain ⟨same_column, same_row⟩ := next.place shared
  apply different
  rw [← Nat.div_add_mod index columns, ← Nat.div_add_mod later columns, ← column, ← row,
    same_column, same_row]

/-- The cells of one column begin at the same distance from the left. -/
theorem card_lefts_le (grid : DebugGrid) {count : UInt32} (nonempty : 0 < count.toNat)
    (surface : Extent) :
    ((grid.cells count surface).map (·.x)).toFinset.card ≤ grid.columnCount count.toNat := by
  let left (column : Nat) : UInt32 :=
    .ofNat (column * grid.shareWidth count surface + grid.inset count surface)
  have among : ((grid.cells count surface).map (·.x)).toFinset ⊆
      (Finset.range (grid.columnCount count.toNat)).image left := by
    intro x member
    simp only [cells_eq_map, List.map_map, List.mem_toFinset, List.mem_map] at member
    obtain ⟨index, -, rfl⟩ := member
    apply Finset.mem_image_of_mem left
    exact Finset.mem_range.mpr (Nat.mod_lt index (grid.columnCount_pos nonempty))
  calc _ ≤ ((Finset.range (grid.columnCount count.toNat)).image left).card :=
        Finset.card_le_card among
    _ ≤ (Finset.range (grid.columnCount count.toNat)).card := Finset.card_image_le
    _ = grid.columnCount count.toNat := Finset.card_range _

/-- The debug grid is sound.  It is laid out within 32 bits and has as many cells as asked for, in
no more columns than asked for.  Every cell has pixels, on a surface with pixels they all lie on it,
and if each share has a pixel, the cells keep to their shares and have no pixel in common. -/
theorem cells_sound (grid : DebugGrid) (count : UInt32) (surface : Extent) (nonempty : 0 < count)
    (searchable : grid.Searchable count) :
    ∃ asked columns rows,
      grid.Asks count.toNat asked ∧ columns = min asked count.toNat ∧
      IsLeast {rows | count.toNat ≤ rows * columns} rows ∧
      grid.cellsChecked? count surface = some (grid.cells count surface) ∧
      (grid.cells count surface).length = count.toNat ∧
      ((grid.cells count surface).map (·.x)).toFinset.card ≤ columns ∧
      (∀ cell ∈ grid.cells count surface, 0 < cell.width ∧ 0 < cell.height) ∧
      (0 < surface.width → 0 < surface.height →
        ∀ cell ∈ grid.cells count surface, cell.Fits surface) ∧
      (columns ≤ surface.width.toNat → rows ≤ surface.height.toNat →
        (grid.cells count surface).Pairwise Viewport.Apart ∧
        ∀ index cell, (grid.cells count surface)[index]? = some cell →
          InShare columns (surface.width.toNat / columns) (surface.height.toNat / rows) index
            cell) := by
  replace nonempty : 0 < count.toNat := UInt32.lt_iff_toNat_lt.mp nonempty
  obtain ⟨asked, asks, least⟩ := grid.exists_asks nonempty
  have columns := grid.columnCount_pos nonempty
  refine ⟨asked, grid.columnCount count.toNat, grid.rowCount count.toNat, asks, least,
    grid.isLeast_rowCount nonempty, cellsChecked?_eq searchable, length_cells ..,
    grid.card_lefts_le nonempty surface, fun _ => pos_of_mem_cells, fun wide high _ =>
    fits_of_mem_cells wide high, fun wide high => ?_⟩
  have inside (index : Nat) (cell : Viewport)
      (listed : (grid.cells count surface)[index]? = some cell) :=
    inShare_of_getElem? (Nat.div_pos wide columns) (Nat.div_pos high (rowCount_pos nonempty)) listed
  refine ⟨List.pairwise_iff_getElem.mpr fun index later _ _ before => ?_, inside⟩
  exact (inside index _ (List.getElem?_eq_getElem _)).apart
    (inside later _ (List.getElem?_eq_getElem _)) (Nat.ne_of_lt before)

/-- Five cells in two rows on a surface of 7 by 5 pixels: the padding is half of a share. -/
theorem cells_sound_narrow :
    0 < (5 : UInt32) ∧ Searchable {} 5 ∧
      cellsChecked? {} 5 ⟨7, 5⟩ = some (cells {} 5 ⟨7, 5⟩) ∧ (cells {} 5 ⟨7, 5⟩).length = 5 ∧
      (∀ cell ∈ cells {} 5 ⟨7, 5⟩, cell.Fits ⟨7, 5⟩) ∧
      (cells {} 5 ⟨7, 5⟩).Pairwise Viewport.Apart := by
  have nonempty : 0 < (5 : UInt32) := by decide
  have searchable : Searchable {} 5 := .inl (by decide)
  obtain ⟨asked, columns, rows, -, narrow, ⟨enough, least⟩, laid_out, length, -, -, fits, roomy⟩ :=
    cells_sound {} 5 ⟨7, 5⟩ nonempty searchable
  replace enough : 5 ≤ rows * columns := enough
  have wide : columns ≤ 5 := narrow ▸ Nat.min_le_right asked 5
  have high : rows ≤ 5 := by
    refine least (Nat.le_mul_of_pos_right 5 (Nat.pos_of_ne_zero ?_))
    rintro rfl
    omega
  exact ⟨nonempty, searchable, laid_out, length, fits (by decide) (by decide),
    (roomy (Nat.le_trans wide (by decide)) high).1⟩

end DebugGrid

end ShaderFlow

/-
Module: ShaderFlow.Proofs.Render.DebugCells
Purpose: Rectangles that lie on their target, such as the cells of the debug view.
Main exports: Viewport.Holds, Viewport.Fits, Viewport.clamp?_of_fits, Viewport.fits_of_clamp?,
  Viewport.clampChecked?_eq, DebugGrid.fits_of_mem_cells
-/
import ShaderFlow.Render.DebugGrid

namespace ShaderFlow

/-!
The cells share each side of the surface evenly, and the padding takes at most half of a share from
either end.  So a cell with its padding stays within its share, and if the shares have no pixels, the
one pixel that a cell keeps is the first of the surface.
-/

namespace Viewport

/-- A rectangle holds a pixel, given by its distances from the left and from the top. -/
structure Holds (viewport : Viewport) (x y : Nat) : Prop where
  left : viewport.x.toNat ≤ x
  right : x < viewport.x.toNat + viewport.width.toNat
  top : viewport.y.toNat ≤ y
  bottom : y < viewport.y.toNat + viewport.height.toNat

/-- Two rectangles have no pixel in common. -/
def Apart (first second : Viewport) : Prop := ∀ x y, first.Holds x y → ¬ second.Holds x y

/-- A rectangle with pixels, all of them on a target of the given size. -/
structure Fits (viewport : Viewport) (size : Extent) : Prop where
  wide : 0 < viewport.width.toNat
  high : 0 < viewport.height.toNat
  right : viewport.x.toNat + viewport.width.toNat ≤ size.width.toNat
  bottom : viewport.y.toNat + viewport.height.toNat ≤ size.height.toNat

variable {viewport : Viewport} {size : Extent}

/-- The rest of a side behind its start holds a length that fits. -/
theorem min_eq_of_fits {start length side : UInt32}
    (fits : start.toNat + length.toNat ≤ side.toNat) : min length (side - start) = length := by
  have rest : (side - start).toNat = side.toNat - start.toNat :=
    UInt32.toNat_sub_of_le _ _ (UInt32.le_iff_toNat_le.mpr (by omega))
  refine if_pos (UInt32.le_iff_toNat_le.mpr ?_)
  omega

/-- A rectangle that lies on its target is drawn as it is. -/
theorem clamp?_of_fits (fits : viewport.Fits size) : viewport.clamp? size = some viewport := by
  obtain ⟨wide, high, right, bottom⟩ := fits
  unfold clamp?
  rw [if_pos ⟨UInt32.lt_iff_toNat_lt.mpr (by omega), UInt32.lt_iff_toNat_lt.mpr (by omega)⟩]
  dsimp only
  rw [min_eq_of_fits right, min_eq_of_fits bottom,
    if_pos ⟨UInt32.lt_iff_toNat_lt.mpr wide, UInt32.lt_iff_toNat_lt.mpr high⟩]

theorem toNat_min (a b : UInt32) : (min a b).toNat = min a.toNat b.toNat := by
  show (if a ≤ b then a else b).toNat = _
  rw [Nat.min_def]
  simp only [UInt32.le_iff_toNat_le]
  split <;> rfl

/-- What remains of a rectangle lies on its target. -/
theorem fits_of_clamp? {visible : Viewport} (clamped : viewport.clamp? size = some visible) :
    visible.Fits size := by
  unfold clamp? at clamped
  split at clamped
  case isFalse => cases clamped
  case isTrue inside =>
    dsimp only at clamped
    split at clamped
    case isFalse => cases clamped
    case isTrue pixels =>
      cases clamped
      have right := Nat.min_le_right viewport.width.toNat (size.width - viewport.x).toNat
      have bottom := Nat.min_le_right viewport.height.toNat (size.height - viewport.y).toNat
      rw [← toNat_min] at right bottom
      have left := UInt32.lt_iff_toNat_lt.mp inside.1
      have top := UInt32.lt_iff_toNat_lt.mp inside.2
      rw [UInt32.toNat_sub_of_le _ _ (UInt32.le_iff_toNat_le.mpr (Nat.le_of_lt left))] at right
      rw [UInt32.toNat_sub_of_le _ _ (UInt32.le_iff_toNat_le.mpr (Nat.le_of_lt top))] at bottom
      exact ⟨UInt32.lt_iff_toNat_lt.mp pixels.1, UInt32.lt_iff_toNat_lt.mp pixels.2,
        by dsimp only; omega, by dsimp only; omega⟩

/-- The difference of two numbers of pixels, unless it falls below zero. -/
def difference? (side start : UInt32) : Option UInt32 :=
  if start ≤ side then some (side - start) else none

/-- The part of a rectangle that lies on a target, with differences that must not fall below zero. -/
def clampChecked? (viewport : Viewport) (size : Extent) : Option (Option Viewport) := do
  if viewport.x < size.width ∧ viewport.y < size.height then
    let width := min viewport.width (← difference? size.width viewport.x)
    let height := min viewport.height (← difference? size.height viewport.y)
    return if 0 < width ∧ 0 < height then some ⟨viewport.x, viewport.y, width, height⟩ else none
  else return none

/-- No difference falls below zero, whatever the rectangle is. -/
theorem clampChecked?_eq (viewport : Viewport) (size : Extent) :
    viewport.clampChecked? size = some (viewport.clamp? size) := by
  have difference_eq {side start : UInt32} (inside : start < side) :
      difference? side start = some (side - start) := if_pos (UInt32.le_of_lt inside)
  unfold clampChecked? clamp?
  split
  · next inside =>
      rw [difference_eq inside.1, difference_eq inside.2]
      rfl
  · rfl

theorem fits_full (wide : 0 < size.width) (high : 0 < size.height) :
    (full size).Fits size :=
  ⟨UInt32.lt_iff_toNat_lt.mp wide, UInt32.lt_iff_toNat_lt.mp high,
    Nat.le_of_eq (Nat.zero_add _), Nat.le_of_eq (Nat.zero_add _)⟩

end Viewport

namespace DebugGrid

theorem le_squareColumnsFrom (count columns : Nat) :
    columns ≤ squareColumnsFrom count columns := by
  induction columns using squareColumnsFrom.induct count with
  | case1 columns small ih =>
      rw [squareColumnsFrom, if_pos small]
      omega
  | case2 columns large =>
      exact Nat.le_of_eq (by rw [squareColumnsFrom, if_neg large])

theorem columnCount_pos (grid : DebugGrid) {count : Nat} (nonempty : 0 < count) :
    0 < grid.columnCount count := by
  have square : 0 < squareColumns count := le_squareColumnsFrom count 1
  unfold columnCount
  refine Nat.lt_min.mpr ⟨?_, nonempty⟩
  split
  · next columns =>
      split
      · exact square
      · next nonzero => exact Nat.pos_of_ne_zero fun same => nonzero (UInt32.toNat_inj.mp same)
  · exact square

/-- The row of a cell is one of the rows. -/
theorem row_lt_rowCount (grid : DebugGrid) {count index : Nat} (listed : index < count) :
    index / grid.columnCount count < grid.rowCount count := by
  have columns := grid.columnCount_pos (Nat.zero_lt_of_lt listed)
  unfold rowCount
  dsimp only
  rw [Nat.div_lt_iff_lt_mul columns]
  have whole := Nat.div_add_mod (count + grid.columnCount count - 1) (grid.columnCount count)
  have rest := Nat.mod_lt (count + grid.columnCount count - 1) columns
  rw [Nat.mul_comm] at whole
  omega

/-- A cell stays on its side of the surface: `part` counts the shares in front of it. -/
theorem share_le {length parts part padding : Nat} (pixels : 0 < length) (inside : part < parts)
    (narrow : padding ≤ length / parts / 2) :
    part * (length / parts) + padding + max (length / parts - 2 * padding) 1 ≤ length := by
  have shares : (part + 1) * (length / parts) ≤ length :=
    Nat.le_trans (Nat.mul_le_mul_right _ inside) (Nat.mul_div_le length parts)
  rw [Nat.add_mul, Nat.one_mul] at shares
  rcases Nat.eq_zero_or_pos (length / parts) with empty | _
  · simp only [empty, Nat.mul_zero] at narrow ⊢
    omega
  · omega

/-- A number up to a side of the surface is a number of pixels. -/
theorem toNat_ofNat_of_le (side : UInt32) {pixels : Nat} (le : pixels ≤ side.toNat) :
    (UInt32.ofNat pixels).toNat = pixels :=
  UInt32.toNat_ofNat_of_lt (Nat.lt_of_le_of_lt le side.toNat_lt_size)

/-- Every cell of a surface with pixels lies on it. -/
theorem fits_of_mem_cells {grid : DebugGrid} {count : UInt32} {surface : Extent} {cell : Viewport}
    (wide : 0 < surface.width) (high : 0 < surface.height)
    (member : cell ∈ grid.cells count surface) : cell.Fits surface := by
  obtain ⟨index, listed, rfl⟩ := List.mem_map.mp member
  replace listed := List.mem_range.mp listed
  have columns := grid.columnCount_pos (Nat.zero_lt_of_lt listed)
  have narrow := Nat.min_le_right grid.padding.toNat
    (min (surface.width.toNat / grid.columnCount count.toNat / 2)
      (surface.height.toNat / grid.rowCount count.toNat / 2))
  obtain ⟨across, down⟩ := Nat.le_min.mp narrow
  replace across := share_le (UInt32.lt_iff_toNat_lt.mp wide) (Nat.mod_lt index columns) across
  replace down := share_le (UInt32.lt_iff_toNat_lt.mp high) (grid.row_lt_rowCount listed) down
  constructor <;> dsimp only
  case wide => rw [toNat_ofNat_of_le surface.width (by omega)]; omega
  case high => rw [toNat_ofNat_of_le surface.height (by omega)]; omega
  case right =>
    rw [toNat_ofNat_of_le surface.width (by omega), toNat_ofNat_of_le surface.width (by omega)]
    exact across
  case bottom =>
    rw [toNat_ofNat_of_le surface.height (by omega), toNat_ofNat_of_le surface.height (by omega)]
    exact down

end DebugGrid

end ShaderFlow

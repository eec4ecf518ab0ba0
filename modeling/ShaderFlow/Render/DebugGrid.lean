/-
Module: ShaderFlow.Render.DebugGrid
Purpose: Grid of all targets on the display surface.
Main exports: DebugGrid, DebugGrid.cells, DebugGrid.assign, FrameOptions
-/
import ShaderFlow.Data.OrderedMap
import ShaderFlow.Render.Target

namespace ShaderFlow

/-- Shape of the debug grid. -/
structure DebugGrid where
  /-- Fixed number of columns; otherwise, or if it is zero, the smallest square that holds all
  cells. -/
  columns : Option UInt32 := none
  /-- Pixels kept free on each side of a cell. -/
  padding : UInt32 := 4
deriving DecidableEq, Repr, Inhabited

/-- Options of one frame. -/
structure FrameOptions where
  /-- Shrink the screen into a cell of the grid and show every offscreen target beside it. -/
  debugView : Bool := false
  grid : DebugGrid := {}
deriving DecidableEq, Repr, Inhabited

namespace DebugGrid

/-- Smallest `c` from a given start on with `count ≤ c * c`. -/
def squareColumnsFrom (count columns : Nat) : Nat :=
  if columns * columns < count then squareColumnsFrom count (columns + 1) else columns
termination_by count - columns
decreasing_by
  next small =>
    have atMost : columns ≤ columns * columns := Nat.le_mul_self columns
    omega

/-- Smallest number of columns of a square grid with at least `count` cells. -/
def squareColumns (count : Nat) : Nat := squareColumnsFrom count 1

/-- Number of columns for `count` cells; no column stays empty. -/
def columnCount (grid : DebugGrid) (count : Nat) : Nat :=
  let columns :=
    match grid.columns with
    | some columns => if columns = 0 then squareColumns count else columns.toNat
    | none => squareColumns count
  min columns count

/-- Number of rows for `count` cells. -/
def rowCount (grid : DebugGrid) (count : Nat) : Nat :=
  let columns := grid.columnCount count
  (count + columns - 1) / columns

/-- The rectangles of `count` cells on a surface, row by row.  The padding takes at most half a cell
from each side, and a cell keeps at least one pixel. -/
def cells (grid : DebugGrid) (count : UInt32) (surface : Extent) : List Viewport :=
  let columns := grid.columnCount count.toNat
  let rows := grid.rowCount count.toNat
  let width := surface.width.toNat / columns
  let height := surface.height.toNat / rows
  let padding := min grid.padding.toNat (min (width / 2) (height / 2))
  (List.range count.toNat).map fun index =>
    { x := UInt32.ofNat (index % columns * width + padding)
      y := UInt32.ofNat (index / columns * height + padding)
      width := UInt32.ofNat (max (width - 2 * padding) 1)
      height := UInt32.ofNat (max (height - 2 * padding) 1) }

/-- Names in the order of their cells: the screen, then offscreen targets as registered. -/
def cellOrder (targets : OrderedMap String RenderTarget) : List String :=
  let named := fun screen => targets.entries.filter fun entry => entry.2.isScreen == screen
  (named true ++ named false).map Prod.fst

/-- Give every target its cell. -/
def assign (grid : DebugGrid) (surface : Extent) (targets : OrderedMap String RenderTarget) :
    OrderedMap String RenderTarget :=
  let cells := grid.cells (UInt32.ofNat targets.size) surface
  let order := cellOrder targets
  targets.mapValues fun name target =>
    { target with debugViewport := cells[order.idxOf name]? }

/-- Take the cells away from all targets. -/
def clear (targets : OrderedMap String RenderTarget) : OrderedMap String RenderTarget :=
  targets.mapValues fun _ target => { target with debugViewport := none }

@[simp] theorem length_cells (grid : DebugGrid) (count : UInt32) (surface : Extent) :
    (grid.cells count surface).length = count.toNat := by
  simp [cells]

end DebugGrid

end ShaderFlow

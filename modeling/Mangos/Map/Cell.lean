import Mangos.Framework.Loops
import Mathlib.Data.Rat.Floor

/-!
# Cells of a map and searches around a place

A map has 512 cells in each direction.
-/

namespace Mangos

open Framework

/-- `SIZE_OF_GRID_CELL`: an eighth of the float 533.33333. -/
def sizeOfGridCell : ℚ := 8738133 / 131072

def totalNumberOfCellsPerMap : UInt32 := 512

def maxVisibilityDistance : ℚ := 500

/-- `MAP_HALFSIZE`, half of all cells. -/
def mapHalfsize : ℚ := 256 * sizeOfGridCell

def IsValidMapCoord (c : ℚ) : Prop := |c| ≤ mapHalfsize - 1 / 2

instance (c : ℚ) : Decidable (IsValidMapCoord c) := inferInstanceAs (Decidable (_ ≤ _))

/-- A conversion to `int`. -/
def truncate (q : ℚ) : ℤ := if 0 ≤ q then ⌊q⌋ else ⌈q⌉

structure CellPair where
  x_coord : UInt32
  y_coord : UInt32
  deriving DecidableEq

/-- The unsigned coordinates are cut at the last cell. -/
def CellPair.normalize (p : CellPair) : CellPair where
  x_coord := min p.x_coord (totalNumberOfCellsPerMap - 1)
  y_coord := min p.y_coord (totalNumberOfCellsPerMap - 1)

/-- `Compute` in one direction. -/
def computeCoord (centerVal : ℤ) (c centerOffset size : ℚ) : UInt32 :=
  .ofInt (truncate ((c - centerOffset) / size + centerVal + 1 / 2))

def computeCellPair (x y : ℚ) : CellPair where
  x_coord := computeCoord 256 x (sizeOfGridCell / 2) sizeOfGridCell
  y_coord := computeCoord 256 y (sizeOfGridCell / 2) sizeOfGridCell

structure CellArea where
  low_bound : CellPair
  high_bound : CellPair

def calculateCellArea (x y radius : ℚ) : CellArea :=
  if radius ≤ 0 then
    let center := (computeCellPair x y).normalize
    ⟨center, center⟩
  else ⟨(computeCellPair (x - radius) (y - radius)).normalize,
    (computeCellPair (x + radius) (y + radius)).normalize⟩

def visitRange (xs xe ys ye : UInt32) : Option (List CellPair) :=
  (countUp xs xe).bind fun columns =>
    gather columns fun x => (countUp ys ye).map fun rows => rows.map (CellPair.mk x)

/-- `Cell::VisitCircle`. The central strip comes first, then the columns at its sides, each one cell lower
and higher than the one before. -/
def visitCircle (begin_cell end_cell : CellPair) : Option (List CellPair) :=
  let x_shift := ⌈((end_cell.x_coord - begin_cell.x_coord).toNat : ℚ) * (3 / 10) - 1 / 2⌉
  if x_shift < 0 then some []
  else
    let x_start := begin_cell.x_coord + .ofInt x_shift
    let x_end := end_cell.x_coord - .ofInt x_shift
    (visitRange x_start x_end begin_cell.y_coord end_cell.y_coord).bind fun strip =>
      if x_shift = 0 then some strip
      else
        (countUp 1 (x_start - begin_cell.x_coord)).bind fun steps =>
          (gather steps fun step =>
            (countDown (end_cell.y_coord - step) (begin_cell.y_coord + step)).map fun rows =>
              rows.flatMap fun y => [⟨x_start - step, y⟩, ⟨x_end + step, y⟩]).map (strip ++ ·)

/-- `Cell::Visit` of the cell `standing_cell`: the cells that the map visitor is called with, unless a
loop does not end. -/
def visit (standing_cell : CellPair) (x y radius : ℚ) : Option (List CellPair) :=
  if totalNumberOfCellsPerMap ≤ standing_cell.x_coord ∨
      totalNumberOfCellsPerMap ≤ standing_cell.y_coord then some []
  else if radius ≤ 0 then some [standing_cell]
  else
    let area := calculateCellArea x y (min radius maxVisibilityDistance)
    let begin_cell := area.low_bound
    let end_cell := area.high_bound
    if begin_cell = end_cell then some [standing_cell]
    else if end_cell.x_coord < begin_cell.x_coord then some []
    else if 4 < (end_cell.x_coord.toNat : ℤ) - begin_cell.x_coord.toNat ∧
        4 < (end_cell.y_coord.toNat : ℤ) - begin_cell.y_coord.toNat then
      visitCircle begin_cell end_cell
    else
      (visitRange begin_cell.x_coord end_cell.x_coord begin_cell.y_coord end_cell.y_coord).map
        fun cells => standing_cell :: cells.filter (· ≠ standing_cell)

def cellCoord (c : ℚ) : ℚ := c / sizeOfGridCell + 256

def lowCell (c radius : ℚ) : ℤ := max 0 ⌊cellCoord (c - radius)⌋

def highCell (c radius : ℚ) : ℤ := min 511 ⌊cellCoord (c + radius)⌋

end Mangos

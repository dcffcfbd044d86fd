import Mangos.Framework.UnitCells
import Mangos.Map.Visiting
import Mathlib.Tactic.NormNum

/-!
# What a search covers

A search is to visit each cell with a place in its radius.
-/

namespace Mangos

open Framework

theorem sizeOfGridCell_pos : 0 < sizeOfGridCell := by
  norm_num [sizeOfGridCell]

theorem cellCoord_sub (c radius : ℚ) : cellCoord (c - radius) = cellCoord c - radius / sizeOfGridCell := by
  rw [cellCoord, cellCoord, sub_div]
  ring

theorem cellCoord_add (c radius : ℚ) : cellCoord (c + radius) = cellCoord c + radius / sizeOfGridCell := by
  rw [cellCoord, cellCoord, add_div]
  ring

theorem IsValidMapCoord.cellCoord_mem {c : ℚ} (h : IsValidMapCoord c) : 0 < cellCoord c ∧ cellCoord c < 512 := by
  obtain ⟨hlow, hhigh⟩ := abs_le.mp h
  rw [mapHalfsize] at hlow hhigh
  have hlow' : -256 < c / sizeOfGridCell := by
    rw [lt_div_iff₀ sizeOfGridCell_pos]
    linarith
  have hhigh' : c / sizeOfGridCell < 256 := by
    rw [div_lt_iff₀ sizeOfGridCell_pos]
    linarith
  rw [cellCoord]
  constructor <;> linarith

theorem radius_div_le {radius : ℚ} (hmax : radius ≤ maxVisibilityDistance) : radius / sizeOfGridCell ≤ 38 / 5 := by
  rw [div_le_iff₀ sizeOfGridCell_pos]
  apply hmax.trans
  norm_num [maxVisibilityDistance, sizeOfGridCell]

theorem computeCoord_eq (c : ℚ) : computeCoord 256 c (sizeOfGridCell / 2) sizeOfGridCell =
    .ofInt (truncate (cellCoord c)) := by
  have hsize : (c - sizeOfGridCell / 2) / sizeOfGridCell = c / sizeOfGridCell - 1 / 2 := by
    rw [sub_div, div_right_comm, div_self sizeOfGridCell_pos.ne']
  rw [computeCoord, hsize, cellCoord]
  congr 2
  push_cast
  ring

theorem toNat_truncate {t : ℚ} (hlow : -1 < t) (hhigh : t < 1000) :
    ((UInt32.ofInt (truncate t)).toNat : ℤ) = max 0 ⌊t⌋ := by
  have hfloor : ⌊t⌋ < 1000 := Int.floor_lt.mpr (by exact_mod_cast hhigh)
  rw [toNat_ofInt, truncate]
  by_cases ht : 0 ≤ t
  · have hnonneg : 0 ≤ ⌊t⌋ := Int.floor_nonneg.mpr ht
    rw [if_pos ht, max_eq_right hnonneg]
    omega
  · have hzero : ⌈t⌉ = 0 := Int.ceil_eq_zero_iff.mpr ⟨hlow, (not_le.mp ht).le⟩
    have hneg : ⌊t⌋ ≤ 0 := (Int.floor_le_ceil t).trans hzero.le
    rw [if_neg ht, hzero, max_eq_left hneg]
    rfl

theorem toNat_truncate_wraps {t : ℚ} (hlow : -1000 < t) (hhigh : t ≤ -1) : 512 ≤ (UInt32.ofInt (truncate t)).toNat := by
  have hceil : ⌈t⌉ ≤ -1 := Int.ceil_le.mpr (by exact_mod_cast hhigh)
  have hceil' : -1000 < ⌈t⌉ := Int.lt_ceil.mpr (by exact_mod_cast hlow)
  have hn := toNat_ofInt ⌈t⌉
  rw [truncate, if_neg (by linarith)]
  omega

section Cells

variable {x y : ℚ}

theorem col_computeCellPair (hlow : -1 < cellCoord x) (hhigh : cellCoord x < 1000) :
    (computeCellPair x y).col = max 0 ⌊cellCoord x⌋ := by
  rw [CellPair.col, computeCellPair, computeCoord_eq]
  exact toNat_truncate hlow hhigh

theorem row_computeCellPair (hlow : -1 < cellCoord y) (hhigh : cellCoord y < 1000) :
    (computeCellPair x y).row = max 0 ⌊cellCoord y⌋ := by
  rw [CellPair.row, computeCellPair, computeCoord_eq y]
  exact toNat_truncate hlow hhigh

theorem col_computeCellPair_wraps (hlow : -1000 < cellCoord x) (hhigh : cellCoord x ≤ -1) :
    512 ≤ (computeCellPair x y).col := by
  rw [CellPair.col, computeCellPair, computeCoord_eq]
  exact_mod_cast toNat_truncate_wraps hlow hhigh

theorem row_computeCellPair_wraps (hlow : -1000 < cellCoord y) (hhigh : cellCoord y ≤ -1) :
    512 ≤ (computeCellPair x y).row := by
  rw [CellPair.row, computeCellPair, computeCoord_eq y]
  exact_mod_cast toNat_truncate_wraps hlow hhigh

end Cells

theorem toNat_cut (i : UInt32) : ((min i (totalNumberOfCellsPerMap - 1)).toNat : ℤ) = min 511 ↑i.toNat := by
  have hlast : (totalNumberOfCellsPerMap - 1).toNat = 511 := rfl
  change ((if i ≤ totalNumberOfCellsPerMap - 1 then i else totalNumberOfCellsPerMap - 1).toNat : ℤ) = _
  by_cases hle : i ≤ totalNumberOfCellsPerMap - 1
  · rw [if_pos hle]
    rw [UInt32.le_iff_toNat_le, hlast] at hle
    omega
  · rw [if_neg hle, hlast]
    rw [UInt32.le_iff_toNat_le, hlast] at hle
    omega

theorem toNat_normalized {c : ℚ} (hlow : -1000 < cellCoord c) (hhigh : cellCoord c < 1000) :
    ((min (computeCoord 256 c (sizeOfGridCell / 2) sizeOfGridCell) (totalNumberOfCellsPerMap - 1)).toNat : ℤ) =
      if -1 < cellCoord c then min 511 (max 0 ⌊cellCoord c⌋) else 511 := by
  rw [toNat_cut, computeCoord_eq]
  by_cases hin : -1 < cellCoord c
  · rw [if_pos hin, toNat_truncate hin hhigh]
  · have hwrap := toNat_truncate_wraps hlow (not_lt.mp hin)
    rw [if_neg hin, min_eq_left (by omega)]

section Bounds

variable {c radius : ℚ} (hc : IsValidMapCoord c) (hpos : 0 < radius)
  (hmax : radius ≤ maxVisibilityDistance)
include hc hpos hmax

theorem toNat_low : ((min (computeCoord 256 (c - radius) (sizeOfGridCell / 2) sizeOfGridCell)
      (totalNumberOfCellsPerMap - 1)).toNat : ℤ) =
      if -1 < cellCoord (c - radius) then lowCell c radius else 511 := by
  have hr := div_pos hpos sizeOfGridCell_pos
  have hr' := radius_div_le hmax
  obtain ⟨hu, hu'⟩ := hc.cellCoord_mem
  have hfloor : ⌊cellCoord (c - radius)⌋ < 512 :=
    Int.floor_lt.mpr (by rw [cellCoord_sub, Int.cast_ofNat]; linarith)
  rw [toNat_normalized (by rw [cellCoord_sub]; linarith) (by rw [cellCoord_sub]; linarith), lowCell,
    min_eq_right (by omega)]

theorem toNat_high : ((min (computeCoord 256 (c + radius) (sizeOfGridCell / 2) sizeOfGridCell)
      (totalNumberOfCellsPerMap - 1)).toNat : ℤ) = highCell c radius := by
  have hr := div_pos hpos sizeOfGridCell_pos
  have hr' := radius_div_le hmax
  obtain ⟨hu, hu'⟩ := hc.cellCoord_mem
  have hfloor : 0 ≤ ⌊cellCoord (c + radius)⌋ :=
    Int.floor_nonneg.mpr (by rw [cellCoord_add]; linarith)
  rw [toNat_normalized (by rw [cellCoord_add]; linarith) (by rw [cellCoord_add]; linarith), highCell,
    if_pos (by rw [cellCoord_add]; linarith), max_eq_right hfloor]

theorem floor_mem_bounds : lowCell c radius ≤ max 0 ⌊cellCoord c⌋ ∧
    max 0 ⌊cellCoord c⌋ ≤ highCell c radius ∧ highCell c radius - lowCell c radius ≤ 16 := by
  have hr := div_pos hpos sizeOfGridCell_pos
  have hr' := radius_div_le hmax
  obtain ⟨hu, hu'⟩ := hc.cellCoord_mem
  have hnonneg : 0 ≤ ⌊cellCoord c⌋ := Int.floor_nonneg.mpr hu.le
  have hlast : ⌊cellCoord c⌋ < 512 := Int.floor_lt.mpr (by rwa [Int.cast_ofNat])
  have hlow : ⌊cellCoord (c - radius)⌋ ≤ ⌊cellCoord c⌋ :=
    Int.floor_le_floor (by rw [cellCoord_sub]; linarith)
  have hhigh : ⌊cellCoord c⌋ ≤ ⌊cellCoord (c + radius)⌋ :=
    Int.floor_le_floor (by rw [cellCoord_add]; linarith)
  have hwide : ⌊cellCoord (c + radius)⌋ < ⌊cellCoord (c - radius)⌋ + 17 := by
    rw [Int.floor_lt]
    have hsub := Int.lt_floor_add_one (cellCoord (c - radius))
    push_cast
    rw [cellCoord_sub] at hsub ⊢
    rw [cellCoord_add]
    linarith
  rw [lowCell, highCell]
  omega

end Bounds

def CellPair.InMap (p : CellPair) : Prop :=
  p.x_coord < totalNumberOfCellsPerMap ∧ p.y_coord < totalNumberOfCellsPerMap

theorem CellPair.inMap_iff {p : CellPair} : p.InMap ↔ p.col < 512 ∧ p.row < 512 := by
  rw [CellPair.InMap, UInt32.lt_iff_toNat_lt, UInt32.lt_iff_toNat_lt, CellPair.col, CellPair.row,
    show totalNumberOfCellsPerMap.toNat = 512 from rfl]
  omega

theorem CellPair.col_nonneg (p : CellPair) : 0 ≤ p.col := Int.natCast_nonneg _

theorem CellPair.row_nonneg (p : CellPair) : 0 ≤ p.row := Int.natCast_nonneg _

def CellPair.Reached (p : CellPair) (x y radius : ℚ) : Prop :=
  ∃ x' y', computeCellPair x' y' = p ∧ (x' - x) ^ 2 + (y' - y) ^ 2 ≤ radius ^ 2

/-- A search ends, visits cells of the map only and each at most once, and among them the standing cell
and all cells with a place in the radius. -/
def Covers (x y radius : ℚ) : Prop :=
  ∃ cells, visit (computeCellPair x y) x y radius = some cells ∧ cells.Nodup ∧
    (∀ p ∈ cells, p.InMap) ∧ computeCellPair x y ∈ cells ∧ ∀ p : CellPair, p.InMap → p.Reached x y radius → p ∈ cells

/-- The square of a search does not reach a cell's width beyond the low borders of the map, and if it is
large, no cell that the octagon leaves out at its corners meets the disc. -/
structure SearchFits (x y radius : ℚ) : Prop where
  left : -1 < cellCoord (x - radius)
  below : -1 < cellCoord (y - radius)
  corners : 4 < highCell x radius - lowCell x radius → 4 < highCell y radius - lowCell y radius →
    ∀ c e, lowCell x radius ≤ c → c ≤ highCell x radius → lowCell y radius ≤ e → e ≤ highCell y radius →
      min (c - lowCell x radius) (highCell x radius - c) + min (e - lowCell y radius) (highCell y radius - e) <
        (3 * (highCell x radius - lowCell x radius) + 4) / 10 →
      ¬ Near (cellCoord x) (cellCoord y) (radius / sizeOfGridCell) c e

section Search

variable {x y radius : ℚ}

theorem sub_eq_cells (p x : ℚ) : p - x = (cellCoord p - cellCoord x) * sizeOfGridCell := by
  have hpos := sizeOfGridCell_pos.ne'
  rw [cellCoord, cellCoord]
  field_simp
  ring

theorem dist_le_iff {p q : ℚ} : (p - x) ^ 2 + (q - y) ^ 2 ≤ radius ^ 2 ↔
    (cellCoord p - cellCoord x) ^ 2 + (cellCoord q - cellCoord y) ^ 2 ≤ (radius / sizeOfGridCell) ^ 2 := by
  rw [sub_eq_cells p x, sub_eq_cells q y, div_pow, le_div_iff₀ (pow_pos sizeOfGridCell_pos 2)]
  ring_nf

theorem mem_cell (t : ℚ) : ((max 0 ⌊t⌋ : ℤ) : ℚ) ≤ max 0 t ∧ max 0 t < ((max 0 ⌊t⌋ : ℤ) : ℚ) + 1 := by
  rw [Int.cast_max, Int.cast_zero]
  constructor
  · exact max_le_max le_rfl (Int.floor_le t)
  · apply max_lt
    · exact (by norm_num : (0 : ℚ) < 0 + 1).trans_le (add_le_add (le_max_left _ _) le_rfl)
    · exact (Int.lt_floor_add_one t).trans_le (add_le_add (le_max_right _ _) le_rfl)

theorem sub_sq_max_le {t u : ℚ} (hu : 0 ≤ u) : (max 0 t - u) ^ 2 ≤ (t - u) ^ 2 := by
  rcases le_total 0 t with ht | ht
  · rw [max_eq_right ht]
  · rw [max_eq_left ht]
    nlinarith

variable (hx : IsValidMapCoord x) (hy : IsValidMapCoord y) (hpos : 0 < radius)
  (hmax : radius ≤ maxVisibilityDistance)
include hx hy hpos hmax

theorem reached_iff {p : CellPair} (hp : p.InMap) :
    p.Reached x y radius ↔ Near (cellCoord x) (cellCoord y) (radius / sizeOfGridCell) p.col p.row := by
  have hr := div_pos hpos sizeOfGridCell_pos
  have hr' := radius_div_le hmax
  obtain ⟨hu, hu'⟩ := hx.cellCoord_mem
  obtain ⟨hv, hv'⟩ := hy.cellCoord_mem
  have hin := CellPair.inMap_iff.mp hp
  constructor
  · rintro ⟨x', y', rfl, hdist⟩
    rw [dist_le_iff] at hdist
    have hdx := abs_le_of_sq_le_sq' ((le_add_of_nonneg_right (sq_nonneg _)).trans hdist) hr.le
    have hdy := abs_le_of_sq_le_sq' ((le_add_of_nonneg_left (sq_nonneg _)).trans hdist) hr.le
    have hlow : -1 < cellCoord x' := by
      by_contra hle
      have hwrap := @col_computeCellPair_wraps x' y' (by linarith) (not_lt.mp hle)
      omega
    have hlow' : -1 < cellCoord y' := by
      by_contra hle
      have hwrap := @row_computeCellPair_wraps x' y' (by linarith) (not_lt.mp hle)
      omega
    rw [col_computeCellPair hlow (by linarith), row_computeCellPair hlow' (by linarith)]
    apply near_of_exists (mem_cell _) (mem_cell _)
    exact (add_le_add (sub_sq_max_le hu.le) (sub_sq_max_le hv.le)).trans hdist
  · intro hnear
    obtain ⟨t, s, ht, hs, hdist⟩ := exists_of_near hnear
    have hcol : (0 : ℚ) ≤ p.col := by exact_mod_cast p.col_nonneg
    have hrow : (0 : ℚ) ≤ p.row := by exact_mod_cast p.row_nonneg
    have hback (t : ℚ) : cellCoord ((t - 256) * sizeOfGridCell) = t := by
      rw [cellCoord, mul_div_cancel_right₀ _ sizeOfGridCell_pos.ne']
      ring
    refine ⟨(t - 256) * sizeOfGridCell, (s - 256) * sizeOfGridCell, ?_, ?_⟩
    · have hcol' : (p.col : ℚ) < 512 := by exact_mod_cast hin.1
      have hrow' : (p.row : ℚ) < 512 := by exact_mod_cast hin.2
      rw [CellPair.ext_iff', col_computeCellPair (by rw [hback]; linarith) (by rw [hback]; linarith),
        row_computeCellPair (by rw [hback]; linarith) (by rw [hback]; linarith), hback, hback,
        Int.floor_eq_iff.mpr ht, Int.floor_eq_iff.mpr hs]
      constructor
      · exact max_eq_right p.col_nonneg
      · exact max_eq_right p.row_nonneg
    · rw [dist_le_iff, hback, hback]
      exact hdist

omit hx hy hpos hmax in
theorem covers_iff_of_yields {which : CellPair → Prop}
    (h : Yields (visit (computeCellPair x y) x y radius) which) (hin : ∀ p, which p → p.InMap) :
    Covers x y radius ↔ which (computeCellPair x y) ∧ ∀ p : CellPair, p.InMap → p.Reached x y radius → which p := by
  obtain ⟨cells, hrun, hnodup, hmem⟩ := h
  simp only [← hmem] at hin ⊢
  constructor
  · rintro ⟨cells', hrun', -, -, hcover⟩
    rw [hrun, Option.some.injEq] at hrun'
    exact hrun' ▸ hcover
  · intro hcover
    exact ⟨cells, hrun, hnodup, hin, hcover⟩

theorem area_bounds : ∃ low high, calculateCellArea x y radius = ⟨low, high⟩ ∧
    low.col = (if -1 < cellCoord (x - radius) then lowCell x radius else 511) ∧
    low.row = (if -1 < cellCoord (y - radius) then lowCell y radius else 511) ∧
    high.col = highCell x radius ∧ high.row = highCell y radius := by
  rw [calculateCellArea, if_neg (not_le.mpr hpos)]
  exact ⟨_, _, rfl, toNat_low hx hpos hmax, toNat_low hy hpos hmax, toNat_high hx hpos hmax, toNat_high hy hpos hmax⟩

omit hpos hmax in
theorem standing_cell_eq : (computeCellPair x y).col = max 0 ⌊cellCoord x⌋ ∧
    (computeCellPair x y).row = max 0 ⌊cellCoord y⌋ := by
  obtain ⟨hu, hu'⟩ := hx.cellCoord_mem
  obtain ⟨hv, hv'⟩ := hy.cellCoord_mem
  exact ⟨col_computeCellPair (by linarith) (by linarith), row_computeCellPair (by linarith) (by linarith)⟩

omit hx hy hmax in
theorem near_in_bounds {p : CellPair} (hp : p.InMap)
    (hnear : Near (cellCoord x) (cellCoord y) (radius / sizeOfGridCell) p.col p.row) :
    (lowCell x radius ≤ p.col ∧ p.col ≤ highCell x radius) ∧ lowCell y radius ≤ p.row ∧ p.row ≤ highCell y radius := by
  have hr := div_pos hpos sizeOfGridCell_pos
  have hin := CellPair.inMap_iff.mp hp
  have hcol := p.col_nonneg
  have hrow := p.row_nonneg
  have hbounds {c t : ℚ} {n : ℤ} (hn : 0 ≤ n ∧ n < 512) (ht : n ≤ t ∧ t < n + 1)
      (hdist : -(radius / sizeOfGridCell) ≤ t - cellCoord c ∧ t - cellCoord c ≤ radius / sizeOfGridCell) :
      lowCell c radius ≤ n ∧ n ≤ highCell c radius := by
    have hlow : ⌊cellCoord (c - radius)⌋ < n + 1 := by
      rw [Int.floor_lt, cellCoord_sub]
      push_cast
      linarith
    have hhigh : n ≤ ⌊cellCoord (c + radius)⌋ := by
      rw [Int.le_floor, cellCoord_add]
      linarith
    rw [lowCell, highCell]
    omega
  obtain ⟨t, s, ht, hs, hdist⟩ := exists_of_near hnear
  constructor
  · apply hbounds ⟨hcol, hin.1⟩ ht
    exact abs_le_of_sq_le_sq' ((le_add_of_nonneg_right (sq_nonneg _)).trans hdist) hr.le
  · apply hbounds ⟨hrow, hin.2⟩ hs
    exact abs_le_of_sq_le_sq' ((le_add_of_nonneg_left (sq_nonneg _)).trans hdist) hr.le

omit hx hy hpos hmax in
theorem exists_cellPair {c e : ℤ} (hc : 0 ≤ c ∧ c < 512) (he : 0 ≤ e ∧ e < 512) :
    ∃ p : CellPair, p.InMap ∧ p.col = c ∧ p.row = e := by
  have hcol := toNat_ofInt c
  have hrow := toNat_ofInt e
  have heq : (CellPair.mk (.ofInt c) (.ofInt e)).col = c ∧ (CellPair.mk (.ofInt c) (.ofInt e)).row = e := by
    rw [CellPair.col, CellPair.row]
    dsimp only
    omega
  exact ⟨_, CellPair.inMap_iff.mpr (by omega), heq⟩

theorem covers_iff_of_square (hleft : -1 < cellCoord (x - radius))
    (hbelow : -1 < cellCoord (y - radius)) : Covers x y radius ↔ SearchFits x y radius := by
  obtain ⟨low, high, harea, hlx, hly, hhx, hhy⟩ := area_bounds hx hy hpos hmax
  rw [if_pos hleft] at hlx
  rw [if_pos hbelow] at hly
  obtain ⟨hsx, hsy⟩ := standing_cell_eq hx hy
  have hbx := floor_mem_bounds hx hpos hmax
  have hby := floor_mem_bounds hy hpos hmax
  have hlastx : highCell x radius ≤ 511 := min_le_left _ _
  have hlasty : highCell y radius ≤ 511 := min_le_left _ _
  have hstanding : InRange low high (computeCellPair x y) := by
    rw [InRange]
    omega
  have hyields := visit_yields hpos hmax harea hstanding (by omega) (by omega) (by omega)
  have hinMap (p : CellPair) (hp : IsVisited low high p) : p.InMap := by
    obtain ⟨hrange, -⟩ := hp
    rw [InRange] at hrange
    exact CellPair.inMap_iff.mpr (by omega)
  rw [covers_iff_of_yields hyields hinMap]
  constructor
  · rintro ⟨-, hcover⟩
    refine ⟨hleft, hbelow, fun hwide htall c e hc hc' he he' hcut hnear => ?_⟩
    have hzero : 0 ≤ lowCell x radius := le_max_left _ _
    have hzero' : 0 ≤ lowCell y radius := le_max_left _ _
    obtain ⟨p, hp, rfl, rfl⟩ := exists_cellPair (c := c) (e := e) (by omega) (by omega)
    have hvisited := hcover p hp ((reached_iff hx hy hpos hmax hp).mpr hnear)
    apply hvisited.2 (by rw [IsLarge]; omega)
    rwa [IsCut, hlx, hhx, hly, hhy]
  · intro hfits
    have hcover (p : CellPair) (hp : p.InMap) (hreached : p.Reached x y radius) :
        IsVisited low high p := by
      have hnear := (reached_iff hx hy hpos hmax hp).mp hreached
      obtain ⟨hc, he⟩ := near_in_bounds hpos hp hnear
      constructor
      · rw [InRange]
        omega
      · intro hlarge hcut
        rw [IsLarge] at hlarge
        rw [IsCut, hlx, hhx, hly, hhy] at hcut
        exact hfits.corners (by omega) (by omega) _ _ hc.1 hc.2 he.1 he.2 hcut hnear
    refine ⟨hcover _ (CellPair.inMap_iff.mpr (by omega)) ⟨x, y, rfl, ?_⟩, hcover⟩
    rw [sub_self, sub_self, zero_pow two_ne_zero, add_zero]
    exact sq_nonneg radius

theorem not_covers_of_left (hleft : cellCoord (x - radius) ≤ -1) : ¬ Covers x y radius := by
  obtain ⟨low, high, harea, hlx, -, hhx, -⟩ := area_bounds hx hy hpos hmax
  rw [if_neg (not_lt.mpr hleft)] at hlx
  have hr' := radius_div_le hmax
  have hfloor : ⌊cellCoord (x + radius)⌋ < 511 := by
    rw [Int.floor_lt, cellCoord_add]
    rw [cellCoord_sub] at hleft
    push_cast
    linarith
  have hhigh : highCell x radius < 511 := lt_of_le_of_lt (min_le_right _ _) hfloor
  rintro ⟨cells, hrun, -, -, hstanding, -⟩
  rw [visit_of_col_lt hpos hmax harea (by omega), Option.some.injEq] at hrun
  exact List.not_mem_nil (hrun ▸ hstanding)

theorem not_covers_of_below (hbelow : cellCoord (y - radius) ≤ -1) : ¬ Covers x y radius := by
  obtain ⟨low, high, harea, -, hly, hhx, hhy⟩ := area_bounds hx hy hpos hmax
  rw [if_neg (not_lt.mpr hbelow)] at hly
  have hr' := radius_div_le hmax
  obtain ⟨hu, hu'⟩ := hx.cellCoord_mem
  obtain ⟨hv, hv'⟩ := hy.cellCoord_mem
  rw [cellCoord_sub] at hbelow
  have hfloor : ⌊cellCoord (y + radius)⌋ < 511 := by
    rw [Int.floor_lt, cellCoord_add]
    push_cast
    linarith
  have hhigh : highCell y radius < 511 := lt_of_le_of_lt (min_le_right _ _) hfloor
  have hlastx : highCell x radius ≤ 511 := min_le_left _ _
  -- a place in the next row
  have hnext : cellCoord (y + sizeOfGridCell) = cellCoord y + 1 := by
    rw [cellCoord_add, div_self sizeOfGridCell_pos.ne']
  have hrow : (computeCellPair x (y + sizeOfGridCell)).row = max 0 (⌊cellCoord y⌋ + 1) := by
    rw [row_computeCellPair (by linarith) (by linarith), hnext, Int.floor_add_one]
  have hcol : (computeCellPair x (y + sizeOfGridCell)).col = max 0 ⌊cellCoord x⌋ :=
    col_computeCellPair (by linarith) (by linarith)
  obtain ⟨-, hsy⟩ := standing_cell_eq hx hy
  have hlow : 0 ≤ ⌊cellCoord y⌋ := Int.floor_nonneg.mpr hv.le
  have hfx : ⌊cellCoord x⌋ < 512 := Int.floor_lt.mpr (by rwa [Int.cast_ofNat])
  have hfy : ⌊cellCoord y⌋ < 511 := Int.floor_lt.mpr (by push_cast; linarith)
  rintro ⟨cells, hrun, -, -, -, hcover⟩
  have hin := hcover _ (CellPair.inMap_iff.mpr (by omega)) ⟨x, y + sizeOfGridCell, rfl, by
    rw [dist_le_iff, hnext, sub_self, add_sub_cancel_left, one_pow, zero_pow two_ne_zero, zero_add]
    exact one_le_pow₀ (by linarith)⟩
  have hsame := visit_of_row_lt hpos hmax harea (by omega) (by omega) (by omega) hrun _ hin
  have hrows := congrArg CellPair.row hsame
  omega

/-- A search at a valid place covers what it is to cover just if it fits. -/
theorem covers_iff_searchFits : Covers x y radius ↔ SearchFits x y radius := by
  by_cases hleft : -1 < cellCoord (x - radius)
  · by_cases hbelow : -1 < cellCoord (y - radius)
    · exact covers_iff_of_square hx hy hpos hmax hleft hbelow
    · have hnot := not_covers_of_below hx hy hpos hmax (not_lt.mp hbelow)
      exact iff_of_false hnot fun h => hbelow h.below
  · have hnot := not_covers_of_left hx hy hpos hmax (not_lt.mp hleft)
    exact iff_of_false hnot fun h => hleft h.left

end Search

theorem covers_small : Covers 0 0 50 :=
  (covers_iff_searchFits (by decide +kernel) (by decide +kernel) (by decide +kernel)
    (by decide +kernel)).mpr
    ⟨by decide +kernel, by decide +kernel, fun h => absurd h (by decide +kernel)⟩

/-- The octagon leaves out a corner cell in reach. -/
theorem not_covers_corner : IsValidMapCoord 24 ∧ 160 ≤ maxVisibilityDistance ∧ ¬ Covers 24 24 160 := by
  refine ⟨by decide +kernel, by decide +kernel, fun hcovers => ?_⟩
  have hfits := (covers_iff_of_square (by decide +kernel) (by decide +kernel) (by decide +kernel)
    (by decide +kernel) (by decide +kernel) (by decide +kernel)).mp hcovers
  exact hfits.corners (by decide +kernel) (by decide +kernel) 258 258 (by decide +kernel)
    (by decide +kernel) (by decide +kernel) (by decide +kernel) (by decide +kernel) (by decide +kernel)

/-- Near the low border a search may visit nothing. -/
example : visit (computeCellPair (-17000) 0) (-17000) 0 200 = some [] := by decide +kernel

end Mangos

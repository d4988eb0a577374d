import Mathlib.Algebra.BigOperators.Group.List.Basic
import Mathlib.Data.Finset.Prod
import Mathlib.Data.Nat.ModEq
import Mathlib.Order.Interval.Finset.Nat

/-!
# Rectangles that tile a region of a grid

Cells are pairs of a row and a column, rectangles are half-open in both.  A list of rectangles
tiles a region when every cell of the region is in exactly one of them; their areas then add up to
the area of the region, and any selection of them covers as many cells as their areas add up to.
The rectangles of a grid, cut by a region, tile it.

## Main definitions

* `GridTiling.Rect`, `GridTiling.Tiles`
* `GridTiling.starts` — where the parts of a grid begin that meet an interval
* `GridTiling.patches` — the rectangles of a grid that meet a region

## Main statements

* `GridTiling.card_covered` — the cells of disjoint rectangles
* `GridTiling.Tiles.countP_eq_one` — a cell is in one rectangle
* `GridTiling.tiles_patches` — the rectangles of a grid
-/

namespace GridTiling

/-- The cells in rows `top … bottom - 1` and columns `left … right - 1`. -/
structure Rect where
  top : ℕ
  bottom : ℕ
  left : ℕ
  right : ℕ
  deriving DecidableEq

namespace Rect

/-- The cells of a rectangle. -/
def cells (r : Rect) : Finset (ℕ × ℕ) := Finset.Ico r.top r.bottom ×ˢ Finset.Ico r.left r.right

/-- The number of its cells. -/
def area (r : Rect) : ℕ := (r.right - r.left) * (r.bottom - r.top)

/-- The rectangle seen from another origin. -/
def shift (r : Rect) (row column : ℕ) : Rect :=
  ⟨r.top - row, r.bottom - row, r.left - column, r.right - column⟩

theorem mem_cells {r : Rect} {cell : ℕ × ℕ} :
    cell ∈ r.cells ↔ (r.top ≤ cell.1 ∧ cell.1 < r.bottom) ∧ r.left ≤ cell.2 ∧ cell.2 < r.right := by
  rw [cells, Finset.mem_product, Finset.mem_Ico, Finset.mem_Ico]

theorem card_cells (r : Rect) : r.cells.card = r.area := by
  rw [cells, Finset.card_product, Nat.card_Ico, Nat.card_Ico, area, Nat.mul_comm]

theorem area_pos_iff {r : Rect} : 0 < r.area ↔ r.left < r.right ∧ r.top < r.bottom := by
  rw [area, Nat.pos_iff_ne_zero, Nat.mul_ne_zero_iff]
  omega

theorem corner_mem {r : Rect} (positive : 0 < r.area) : (r.top, r.left) ∈ r.cells := by
  obtain ⟨wide, tall⟩ := area_pos_iff.mp positive
  exact mem_cells.mpr ⟨⟨le_rfl, tall⟩, le_rfl, wide⟩

theorem mem_shift {r : Rect} {row column : ℕ} {cell : ℕ × ℕ} :
    cell ∈ (r.shift row column).cells ↔ (row + cell.1, column + cell.2) ∈ r.cells := by
  rw [mem_cells, mem_cells]
  dsimp only [shift]
  omega

/-- A rectangle below and right of the other origin keeps its area. -/
theorem area_shift {r : Rect} {row column : ℕ} (above : row ≤ r.top) (before : column ≤ r.left) :
    (r.shift row column).area = r.area := by
  simp only [area, shift]
  congr 1 <;> omega

end Rect

/-! ## Disjoint rectangles -/

/-- The cells in some rectangle. -/
def covered (rects : List Rect) : Finset (ℕ × ℕ) :=
  rects.foldr (fun r rest => r.cells ∪ rest) ∅

/-- No two of the rectangles share a cell. -/
def Apart (rects : List Rect) : Prop := rects.Pairwise fun r r' => Disjoint r.cells r'.cells

theorem mem_covered {rects : List Rect} {cell : ℕ × ℕ} :
    cell ∈ covered rects ↔ ∃ r ∈ rects, cell ∈ r.cells := by
  induction rects with
  | nil => simp [covered]
  | cons r rest ih =>
      change cell ∈ r.cells ∪ covered rest ↔ _
      rw [Finset.mem_union, ih, List.exists_mem_cons_iff]

/-- **The cells of disjoint rectangles** that satisfy a condition. -/
theorem card_filter_covered {rects : List Rect} (apart : Apart rects) (P : ℕ × ℕ → Prop)
    [DecidablePred P] : ((covered rects).filter P).card =
      (rects.map fun r => (r.cells.filter P).card).sum := by
  induction rects with
  | nil => rfl
  | cons r rest ih =>
      obtain ⟨first, later⟩ := List.pairwise_cons.mp apart
      have disjoint : Disjoint (r.cells.filter P) ((covered rest).filter P) := by
        refine Finset.disjoint_left.mpr fun cell here there => ?_
        obtain ⟨r', mem, inside⟩ := mem_covered.mp (Finset.mem_filter.mp there).1
        exact Finset.disjoint_left.mp (first r' mem) (Finset.mem_filter.mp here).1 inside
      change ((r.cells ∪ covered rest).filter P).card = _
      rw [Finset.filter_union, Finset.card_union_of_disjoint disjoint, ih later, List.map_cons,
        List.sum_cons]

/-- **The cells of disjoint rectangles.** -/
theorem card_covered {rects : List Rect} (apart : Apart rects) :
    (covered rects).card = (rects.map Rect.area).sum := by
  have all := card_filter_covered apart fun _ => True
  simpa only [Finset.filter_true, Rect.card_cells] using all

theorem Apart.shift {rects : List Rect} (apart : Apart rects) (row column : ℕ) :
    Apart (rects.map fun r => r.shift row column) := by
  refine List.pairwise_map.mpr (apart.imp fun {r r'} disjoint => ?_)
  refine Finset.disjoint_left.mpr fun cell here there => ?_
  exact Finset.disjoint_left.mp disjoint (Rect.mem_shift.mp here) (Rect.mem_shift.mp there)

/-! ## Tilings -/

/-- The rectangles cut a region. -/
structure Tiles (rects : List Rect) (region : Rect) : Prop where
  positive : ∀ r ∈ rects, 0 < r.area
  apart : Apart rects
  covers : ∀ cell, cell ∈ region.cells ↔ ∃ r ∈ rects, cell ∈ r.cells

namespace Tiles

variable {rects : List Rect} {region : Rect}

theorem covered_eq (tiles : Tiles rects region) : covered rects = region.cells := by
  ext cell
  rw [mem_covered, tiles.covers]

/-- The areas add up. -/
theorem sum_area (tiles : Tiles rects region) : (rects.map Rect.area).sum = region.area := by
  rw [← card_covered tiles.apart, tiles.covered_eq, Rect.card_cells]

/-- **A cell is in one rectangle.** -/
theorem countP_eq_one (tiles : Tiles rects region) {cell : ℕ × ℕ} (inside : cell ∈ region.cells) :
    rects.countP (fun r => cell ∈ r.cells) = 1 := by
  have some : 0 < rects.countP fun r => decide (cell ∈ r.cells) := by
    obtain ⟨r, mem, here⟩ := (tiles.covers cell).mp inside
    exact List.countP_pos_iff.mpr ⟨r, mem, decide_eq_true here⟩
  have apart := tiles.apart
  clear tiles
  have atMost : rects.countP (fun r => decide (cell ∈ r.cells)) ≤ 1 := by
    clear some
    induction rects with
    | nil => exact Nat.zero_le 1
    | cons r rest ih =>
        obtain ⟨first, later⟩ := List.pairwise_cons.mp apart
        rw [List.countP_cons]
        by_cases here : cell ∈ r.cells
        · have none : rest.countP (fun r => decide (cell ∈ r.cells)) = 0 := by
            refine List.countP_eq_zero.mpr fun r' mem there => ?_
            exact Finset.disjoint_left.mp (first r' mem) here (of_decide_eq_true there)
          rw [none, if_pos (decide_eq_true here)]
        · rw [if_neg (by simpa using here)]
          exact ih later
  exact Nat.le_antisymm atMost some

/-- The tiling seen from another origin, above and left of the region. -/
theorem shift (tiles : Tiles rects region) {row column : ℕ} (above : row ≤ region.top)
    (before : column ≤ region.left) :
    Tiles (rects.map fun r => r.shift row column) (region.shift row column) := by
  have inside : ∀ r ∈ rects, row ≤ r.top ∧ column ≤ r.left := by
    intro r mem
    have corner := Rect.corner_mem (tiles.positive r mem)
    obtain ⟨⟨rowLe, -⟩, columnLe, -⟩ :=
      Rect.mem_cells.mp ((tiles.covers _).mpr ⟨r, mem, corner⟩)
    exact ⟨above.trans rowLe, before.trans columnLe⟩
  refine ⟨?_, tiles.apart.shift row column, fun cell => ?_⟩
  · intro r' mem
    obtain ⟨r, memR, rfl⟩ := List.mem_map.mp mem
    obtain ⟨rowLe, columnLe⟩ := inside r memR
    exact Rect.area_shift rowLe columnLe ▸ tiles.positive r memR
  · rw [Rect.mem_shift, tiles.covers]
    constructor
    · rintro ⟨r, mem, here⟩
      exact ⟨_, List.mem_map_of_mem mem, Rect.mem_shift.mpr here⟩
    · rintro ⟨r', mem, here⟩
      obtain ⟨r, memR, rfl⟩ := List.mem_map.mp mem
      exact ⟨r, memR, Rect.mem_shift.mp here⟩

end Tiles

/-! ## The rectangles of a grid -/

/-- Where the parts of size `size` begin that meet the interval from `first` to `last - 1`. -/
def starts (first last size : ℕ) : List ℕ :=
  List.range' (first / size * size) ((last - first / size * size + (size - 1)) / size) size

/-- The rectangles of a grid that meet a region, row by row, each cut by the region. -/
def patches (region : Rect) (height width : ℕ) : List Rect :=
  (starts region.top region.bottom height).flatMap fun top =>
    (starts region.left region.right width).map fun left =>
      ⟨max top region.top, min (top + height) region.bottom, max left region.left,
        min (left + width) region.right⟩

section Starts

variable {first last size : ℕ}

theorem mem_starts (positive : 0 < size) {start : ℕ} :
    start ∈ starts first last size ↔
      size ∣ start ∧ first / size * size ≤ start ∧ start < last := by
  rw [starts, List.mem_range']
  constructor
  · rintro ⟨i, small, rfl⟩
    have inside := (Nat.lt_div_iff_mul_lt positive).mp small
    refine ⟨Nat.dvd_add (Nat.dvd_mul_left _ _) (Nat.dvd_mul_right _ _), Nat.le_add_right _ _, ?_⟩
    rw [Nat.mul_comm] at inside
    omega
  · rintro ⟨⟨quotient, rfl⟩, above, below⟩
    have more : first / size ≤ quotient := by
      rw [Nat.mul_comm] at above
      exact Nat.le_of_mul_le_mul_left above positive
    have split : size * quotient = first / size * size + size * (quotient - first / size) := by
      rw [Nat.mul_comm (first / size), ← Nat.mul_add, Nat.add_sub_cancel' more]
    refine ⟨quotient - first / size, (Nat.lt_div_iff_mul_lt positive).mpr ?_, split⟩
    rw [Nat.mul_comm]
    omega

theorem nodup_starts (positive : 0 < size) : (starts first last size).Nodup :=
  List.nodup_range' size positive

/-- The part of a position of the interval. -/
theorem start_mem (positive : 0 < size) {n : ℕ} (low : first ≤ n) (high : n < last) :
    n / size * size ∈ starts first last size :=
  (mem_starts positive).mpr ⟨Nat.dvd_mul_left _ _,
    Nat.mul_le_mul_right size (Nat.div_le_div_right low),
    (Nat.div_mul_le_self n size).trans_lt high⟩

/-- A position is in one part. -/
theorem start_eq (positive : 0 < size) {start n : ℕ} (mem : start ∈ starts first last size)
    (low : start ≤ n) (high : n < start + size) : start = n / size * size := by
  obtain ⟨⟨quotient, rfl⟩, -, -⟩ := (mem_starts positive).mp mem
  have same : n / size = quotient := by
    refine Nat.div_eq_of_lt_le ?_ ?_
    · rwa [Nat.mul_comm]
    · rw [Nat.succ_mul, Nat.mul_comm]
      exact high
  rw [same, Nat.mul_comm]

/-- Every part meets the interval. -/
theorem start_meets (positive : 0 < size) (nonempty : first < last) {start : ℕ}
    (mem : start ∈ starts first last size) : max start first < min (start + size) last := by
  obtain ⟨⟨quotient, rfl⟩, above, below⟩ := (mem_starts positive).mp mem
  have remainder := Nat.div_add_mod first size
  have small := Nat.mod_lt first positive
  rw [Nat.mul_comm] at remainder
  omega

end Starts

/-- **The rectangles of a grid**, cut by a region, tile it. -/
theorem tiles_patches {region : Rect} {height width : ℕ} (positive : 0 < height ∧ 0 < width)
    (nonempty : 0 < region.area) : Tiles (patches region height width) region := by
  obtain ⟨wide, tall⟩ := Rect.area_pos_iff.mp nonempty
  refine ⟨?_, ?_, fun cell => ?_⟩
  · intro r mem
    obtain ⟨top, memTop, mem⟩ := List.mem_flatMap.mp mem
    obtain ⟨left, memLeft, rfl⟩ := List.mem_map.mp mem
    exact Rect.area_pos_iff.mpr
      ⟨start_meets positive.2 wide memLeft, start_meets positive.1 tall memTop⟩
  · -- rectangles that share a cell begin where the cell says
    refine List.pairwise_flatMap.mpr ⟨fun top memTop => ?_, ?_⟩
    · refine List.pairwise_map.mpr ((nodup_starts positive.2).imp_of_mem ?_)
      intro left left' memLeft memLeft' different
      refine Finset.disjoint_left.mpr fun cell here there => different ?_
      obtain ⟨-, columns⟩ := Rect.mem_cells.mp here
      obtain ⟨-, columns'⟩ := Rect.mem_cells.mp there
      dsimp only at columns columns'
      rw [start_eq positive.2 memLeft (by omega) (by omega : cell.2 < left + width),
        start_eq positive.2 memLeft' (by omega) (by omega : cell.2 < left' + width)]
    · refine (nodup_starts positive.1).imp_of_mem fun {top top'} memTop memTop' different => ?_
      intro r mem r' mem'
      obtain ⟨left, -, rfl⟩ := List.mem_map.mp mem
      obtain ⟨left', -, rfl⟩ := List.mem_map.mp mem'
      refine Finset.disjoint_left.mpr fun cell here there => different ?_
      obtain ⟨rows, -⟩ := Rect.mem_cells.mp here
      obtain ⟨rows', -⟩ := Rect.mem_cells.mp there
      dsimp only at rows rows'
      rw [start_eq positive.1 memTop (by omega) (by omega : cell.1 < top + height),
        start_eq positive.1 memTop' (by omega) (by omega : cell.1 < top' + height)]
  · constructor
    · intro inside
      obtain ⟨⟨topLe, ltBottom⟩, leftLe, ltRight⟩ := Rect.mem_cells.mp inside
      refine ⟨_, List.mem_flatMap.mpr ⟨_, start_mem positive.1 topLe ltBottom,
        List.mem_map_of_mem (start_mem positive.2 leftLe ltRight)⟩, ?_⟩
      have row := Nat.lt_div_mul_add (a := cell.1) positive.1
      have column := Nat.lt_div_mul_add (a := cell.2) positive.2
      have rowLe := Nat.div_mul_le_self cell.1 height
      have columnLe := Nat.div_mul_le_self cell.2 width
      rw [Rect.mem_cells]
      dsimp only
      omega
    · rintro ⟨r, mem, here⟩
      obtain ⟨top, -, mem⟩ := List.mem_flatMap.mp mem
      obtain ⟨left, -, rfl⟩ := List.mem_map.mp mem
      rw [Rect.mem_cells] at here ⊢
      dsimp only at here
      omega

end GridTiling

import CubeNano.Lib.GridTiling
import Mathlib.Data.Int.Notation

/-!
# Arrays

Two-dimensional arrays with slices as NumPy has them: reading a slice, filling it with a value, and
assigning another array to it, which is broadcast along an axis of length one.  Several assignments
whose rectangles share no cell leave in every cell what the one assignment there wrote.

## Main definitions

* `Plane`, `Plane.Slice`, `Plane.view`, `Plane.fill`, `Plane.assign`
* `Plane.overlay` — what fill and assign do to the cells
* `Tensor` — an array with any number of axes

## Main statements

* `Plane.foldl_overlay_of_mem` — a cell of one of several rectangles
* `Plane.count_fill` — counting the cells that were filled
-/

open GridTiling

/-- An array with rows and columns.  Only the cells within its shape count. -/
structure Plane (α : Type) where
  height : ℕ
  width : ℕ
  cell : ℕ → ℕ → α

namespace Plane

variable {α : Type}

/-- `np.full((height, width), value)`. -/
def constant (height width : ℕ) (value : α) : Plane α := ⟨height, width, fun _ _ => value⟩

/-- The whole array. -/
def whole (p : Plane α) : Rect := ⟨0, p.height, 0, p.width⟩

/-- `np.count_nonzero(condition)`. -/
def count (p : Plane α) (condition : α → Bool) : ℕ :=
  (p.whole.cells.filter fun c => condition (p.cell c.1 c.2) = true).card

/-- Whether a cell counts. -/
theorem mem_whole {p : Plane α} {row column : ℕ} :
    (row, column) ∈ p.whole.cells ↔ row < p.height ∧ column < p.width := by
  rw [Rect.mem_cells, whole]
  simp

/-- Two arrays of one shape, where the cells that are counted in the first are among those that
are counted in the second. -/
theorem count_le_count {β : Type} {p : Plane α} {q : Plane β} {f : α → Bool} {g : β → Bool}
    (shape : p.height = q.height ∧ p.width = q.width)
    (among : ∀ row column, row < p.height → column < p.width →
      f (p.cell row column) = true → g (q.cell row column) = true) : p.count f ≤ q.count g := by
  have whole : q.whole = p.whole := by rw [Plane.whole, Plane.whole, shape.1, shape.2]
  rw [count, count, whole]
  refine Finset.card_le_card fun cell mem => ?_
  obtain ⟨inside, counted⟩ := Finset.mem_filter.mp mem
  obtain ⟨rows, columns⟩ := mem_whole.mp inside
  exact Finset.mem_filter.mpr ⟨inside, among _ _ rows columns counted⟩

/-- Two arrays of one shape in which the same cells are counted. -/
theorem count_congr {β : Type} {p : Plane α} {q : Plane β} {f : α → Bool} {g : β → Bool}
    (shape : p.height = q.height ∧ p.width = q.width)
    (same : ∀ row column, row < p.height → column < p.width →
      f (p.cell row column) = g (q.cell row column)) : p.count f = q.count g := by
  refine Nat.le_antisymm (count_le_count shape fun row column rows columns counted => ?_)
    (count_le_count ⟨shape.1.symm, shape.2.symm⟩ fun row column rows columns counted => ?_)
  · rw [← same row column rows columns, counted]
  · rw [same row column (shape.1 ▸ rows) (shape.2 ▸ columns), counted]

/-! ## Slices -/

/-- `[top:bottom, left:right]`. -/
structure Slice where
  top : ℤ
  bottom : ℤ
  left : ℤ
  right : ℤ

/-- An index of a slice: from the end when negative, and at most the length. -/
def sliceIndex (length : ℕ) (i : ℤ) : ℕ :=
  if i < 0 then (i + length).toNat else min i.toNat length

/-- The cells that a slice of an array of a shape selects. -/
def Slice.rect (s : Slice) (height width : ℕ) : Rect :=
  ⟨sliceIndex height s.top, sliceIndex height s.bottom, sliceIndex width s.left,
    sliceIndex width s.right⟩

/-- An index within the axis. -/
theorem sliceIndex_natCast {length n : ℕ} (within : n ≤ length) : sliceIndex length n = n := by
  rw [sliceIndex, if_neg (by omega), Int.toNat_natCast, min_eq_left within]

/-- A slice within the array. -/
theorem Slice.rect_natCast {height width : ℕ} {r : Rect} (rows : r.top ≤ height ∧ r.bottom ≤ height)
    (columns : r.left ≤ width ∧ r.right ≤ width) :
    (⟨r.top, r.bottom, r.left, r.right⟩ : Slice).rect height width = r := by
  rw [Slice.rect, sliceIndex_natCast rows.1, sliceIndex_natCast rows.2,
    sliceIndex_natCast columns.1, sliceIndex_natCast columns.2]

/-- `p[slice]`. -/
def view (p : Plane α) (s : Slice) : Plane α :=
  let r := s.rect p.height p.width
  ⟨r.bottom - r.top, r.right - r.left, fun row column => p.cell (r.top + row) (r.left + column)⟩

/-! ## Writing -/

/-- The array with other values in a rectangle. -/
def overlay (p : Plane α) (r : Rect) (value : ℕ → ℕ → α) : Plane α :=
  { p with
    cell := fun row column =>
      if (r.top ≤ row ∧ row < r.bottom) ∧ r.left ≤ column ∧ column < r.right then value row column
      else p.cell row column }

/-- `p[slice] = value`. -/
def fill (p : Plane α) (s : Slice) (value : α) : Plane α :=
  p.overlay (s.rect p.height p.width) fun _ _ => value

/-- `p[slice] = other`, where the shapes can be broadcast. -/
def assign (p : Plane α) (s : Slice) (other : Plane α) : Option (Plane α) :=
  let r := s.rect p.height p.width
  if (other.height = r.bottom - r.top ∨ other.height = 1) ∧
      (other.width = r.right - r.left ∨ other.width = 1) then
    some (p.overlay r fun row column =>
      other.cell (if other.height = 1 then 0 else row - r.top)
        (if other.width = 1 then 0 else column - r.left))
  else none

@[simp] theorem height_overlay (p : Plane α) (r : Rect) (value : ℕ → ℕ → α) :
    (p.overlay r value).height = p.height := rfl

@[simp] theorem width_overlay (p : Plane α) (r : Rect) (value : ℕ → ℕ → α) :
    (p.overlay r value).width = p.width := rfl

theorem overlay_of_mem {p : Plane α} {r : Rect} {value : ℕ → ℕ → α} {row column : ℕ}
    (inside : (row, column) ∈ r.cells) : (p.overlay r value).cell row column = value row column :=
  if_pos (Rect.mem_cells.mp inside)

theorem overlay_of_not_mem {p : Plane α} {r : Rect} {value : ℕ → ℕ → α} {row column : ℕ}
    (outside : (row, column) ∉ r.cells) :
    (p.overlay r value).cell row column = p.cell row column :=
  if_neg fun inside => outside (Rect.mem_cells.mpr inside)

/-- The array is determined by its cells in the rectangle. -/
theorem overlay_congr {p : Plane α} {r : Rect} {value value' : ℕ → ℕ → α}
    (same : ∀ row column, (row, column) ∈ r.cells → value row column = value' row column) :
    p.overlay r value = p.overlay r value' := by
  unfold overlay
  congr 1
  funext row column
  by_cases inside : (row, column) ∈ r.cells
  · rw [if_pos (Rect.mem_cells.mp inside), if_pos (Rect.mem_cells.mp inside),
      same row column inside]
  · rw [if_neg (inside ∘ Rect.mem_cells.mpr), if_neg (inside ∘ Rect.mem_cells.mpr)]

/-- An assignment of an array of the shape of the slice. -/
theorem assign_eq_some {p other : Plane α} {s : Slice} {r : Rect}
    (selects : s.rect p.height p.width = r) (rows : other.height = r.bottom - r.top)
    (columns : other.width = r.right - r.left) :
    p.assign s other =
      some (p.overlay r fun row column => other.cell (row - r.top) (column - r.left)) := by
  subst selects
  rw [assign, if_pos ⟨.inl rows, .inl columns⟩]
  refine congrArg some (overlay_congr fun row column inside => ?_)
  obtain ⟨⟨topLe, ltBottom⟩, leftLe, ltRight⟩ := Rect.mem_cells.mp inside
  dsimp only at topLe ltBottom leftLe ltRight
  congr 1
  · split
    · omega
    · rfl
  · split
    · omega
    · rfl

/-! ## Writing several rectangles -/

/-- The array after the layers, the later over the earlier. -/
def overlays (p : Plane α) (layers : List (Rect × (ℕ → ℕ → α))) : Plane α :=
  layers.foldl (fun p layer => p.overlay layer.1 layer.2) p

theorem shape_overlays (p : Plane α) (layers : List (Rect × (ℕ → ℕ → α))) :
    (p.overlays layers).height = p.height ∧ (p.overlays layers).width = p.width := by
  induction layers generalizing p with
  | nil => exact ⟨rfl, rfl⟩
  | cons layer rest ih => exact ih (p.overlay layer.1 layer.2)

theorem overlays_of_not_mem {p : Plane α} {layers : List (Rect × (ℕ → ℕ → α))} {row column : ℕ}
    (outside : ∀ layer ∈ layers, (row, column) ∉ layer.1.cells) :
    (p.overlays layers).cell row column = p.cell row column := by
  induction layers generalizing p with
  | nil => rfl
  | cons layer rest ih =>
      obtain ⟨first, later⟩ := List.forall_mem_cons.mp outside
      exact (ih later).trans (overlay_of_not_mem first)

/-- **A cell of one of several rectangles** that share no cell. -/
theorem overlays_of_mem {p : Plane α} {layers : List (Rect × (ℕ → ℕ → α))}
    (apart : Apart (layers.map Prod.fst)) {layer : Rect × (ℕ → ℕ → α)} (mem : layer ∈ layers)
    {row column : ℕ} (inside : (row, column) ∈ layer.1.cells) :
    (p.overlays layers).cell row column = layer.2 row column := by
  induction layers generalizing p with
  | nil => exact nomatch mem
  | cons first rest ih =>
      obtain ⟨disjoint, later⟩ := List.pairwise_cons.mp apart
      rcases List.mem_cons.mp mem with rfl | memRest
      · have outside : ∀ other ∈ rest, (row, column) ∉ other.1.cells := fun other memOther there =>
          Finset.disjoint_left.mp (disjoint other.1 (List.mem_map_of_mem memOther)) inside there
        exact (overlays_of_not_mem outside).trans (overlay_of_mem inside)
      · exact ih later memRest

/-- **Counting the cells that were filled**, in an array that had no such cell. -/
theorem count_overlays [DecidableEq α] {p : Plane α} {value : α} {rects : List Rect}
    (apart : Apart rects) (within : ∀ r ∈ rects, r.cells ⊆ p.whole.cells)
    (blank : ∀ row column, p.cell row column ≠ value) :
    (p.overlays (rects.map fun r => (r, fun _ _ => value))).count (fun v => v = value) =
      (rects.map Rect.area).sum := by
  have sameRects : (rects.map fun r => (r, fun (_ _ : ℕ) => value)).map Prod.fst = rects := by
    rw [List.map_map]
    exact List.map_id rects
  rw [← card_covered apart, count]
  congr 1
  ext ⟨row, column⟩
  have shape := shape_overlays p (rects.map fun r => (r, fun (_ _ : ℕ) => value))
  rw [Finset.mem_filter, mem_covered, whole, shape.1, shape.2]
  constructor
  · rintro ⟨-, filled⟩
    by_contra none
    push Not at none
    have outside : ∀ layer ∈ rects.map fun r => (r, fun (_ _ : ℕ) => value),
        (row, column) ∉ layer.1.cells := by
      intro layer mem
      obtain ⟨r, memR, rfl⟩ := List.mem_map.mp mem
      exact none r memR
    dsimp only at filled
    rw [overlays_of_not_mem outside] at filled
    exact blank row column (of_decide_eq_true filled)
  · rintro ⟨r, mem, inside⟩
    refine ⟨within r mem inside, decide_eq_true ?_⟩
    exact overlays_of_mem (sameRects.symm ▸ apart)
      (List.mem_map_of_mem (f := fun r => (r, fun (_ _ : ℕ) => value)) mem) inside

end Plane

/-! ## More axes -/

/-- An array with any number of axes.  Only the indices within its shape count. -/
structure Tensor (α : Type) where
  shape : List ℕ
  cell : List ℕ → α

namespace Tensor

/-- The indices of an array of a shape. -/
def indices : List ℕ → List (List ℕ)
  | [] => [[]]
  | n :: shape => (List.range n).flatMap fun i => (indices shape).map (i :: ·)

/-- `condition(array).all()`. -/
def all {α : Type} (t : Tensor α) (condition : α → Bool) : Bool :=
  (indices t.shape).all fun i => condition (t.cell i)

end Tensor

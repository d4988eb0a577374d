import Mathlib.Algebra.BigOperators.Ring.List
import Mathlib.Algebra.Field.Basic

/-!
# Weighted sums over taps

A kernel is a list of taps, each a place with a weight, and it sums a function of the places.  The
kernel of a plane is the product of two kernels of axes; its sum is the sum of the sums.

## Main definitions

* `weighted` — the sum of a function by weight
* `productTaps` — the product of two kernels

## Main statements

* `weighted_product` — the sum over a product
* `weighted_product_scaled` — two functions in proportion along each axis are so in the plane
-/

namespace Resampling

variable {ι κ 𝕜 : Type*} [CommRing 𝕜]

/-- The sum of a function over taps, by weight. -/
def weighted (taps : List (ι × 𝕜)) (f : ι → 𝕜) : 𝕜 := (taps.map fun tap => f tap.1 * tap.2).sum

@[simp] theorem weighted_nil (f : ι → 𝕜) : weighted [] f = 0 := rfl

@[simp] theorem weighted_cons (tap : ι × 𝕜) (taps : List (ι × 𝕜)) (f : ι → 𝕜) :
    weighted (tap :: taps) f = f tap.1 * tap.2 + weighted taps f := List.sum_cons

theorem weighted_append (taps taps' : List (ι × 𝕜)) (f : ι → 𝕜) :
    weighted (taps ++ taps') f = weighted taps f + weighted taps' f := by
  rw [weighted, List.map_append, List.sum_append]
  rfl

/-- Functions that agree at the taps that count have one sum. -/
theorem weighted_congr {taps : List (ι × 𝕜)} {f g : ι → 𝕜}
    (same : ∀ tap ∈ taps, tap.2 ≠ 0 → f tap.1 = g tap.1) : weighted taps f = weighted taps g := by
  refine congrArg List.sum (List.map_congr_left fun tap mem => ?_)
  by_cases counts : tap.2 = 0
  · rw [counts, mul_zero, mul_zero]
  · rw [same tap mem counts]

theorem weighted_mul_left (taps : List (ι × 𝕜)) (f : ι → 𝕜) (c : 𝕜) :
    weighted taps (fun i => c * f i) = c * weighted taps f := by
  unfold weighted
  rw [← List.sum_map_mul_left]
  exact congrArg List.sum (List.map_congr_left fun tap _ => mul_assoc _ _ _)

theorem weighted_mul_right (taps : List (ι × 𝕜)) (f : ι → 𝕜) (c : 𝕜) :
    weighted taps (fun i => f i * c) = weighted taps f * c := by
  rw [mul_comm, ← weighted_mul_left]
  exact congrArg (weighted taps) (funext fun i => mul_comm _ _)

/-- The product of two kernels. -/
def productTaps (rows : List (ι × 𝕜)) (cols : List (κ × 𝕜)) : List ((ι × κ) × 𝕜) :=
  rows.flatMap fun row => cols.map fun col => ((row.1, col.1), row.2 * col.2)

/-- **The sum over a product** is the sum of the sums. -/
theorem weighted_product (rows : List (ι × 𝕜)) (cols : List (κ × 𝕜)) (f : ι × κ → 𝕜) :
    weighted (productTaps rows cols) f =
      weighted rows fun i => weighted cols fun j => f (i, j) := by
  induction rows with
  | nil => rfl
  | cons row rest ih =>
      have first : weighted (cols.map fun col => ((row.1, col.1), row.2 * col.2)) f =
          (weighted cols fun j => f (row.1, j)) * row.2 := by
        unfold weighted
        rw [← List.sum_map_mul_right, List.map_map]
        refine congrArg List.sum (List.map_congr_left fun col _ => ?_)
        change f (row.1, col.1) * (row.2 * col.2) = f (row.1, col.1) * col.2 * row.2
        rw [mul_comm row.2, mul_assoc]
      rw [weighted_cons, ← ih, ← first, ← weighted_append]
      rfl

/-- The sum of a product over a product. -/
theorem weighted_product_mul (rows : List (ι × 𝕜)) (cols : List (κ × 𝕜)) (f : ι → 𝕜) (g : κ → 𝕜) :
    weighted (productTaps rows cols) (fun p => f p.1 * g p.2) =
      weighted rows f * weighted cols g := by
  rw [weighted_product, ← weighted_mul_right]
  exact congrArg (weighted rows) (funext fun i => weighted_mul_left cols g (f i))

/-- A kernel whose taps are moved by `fold` sums in proportion to its taps that are `kept`. -/
def Scaled (taps : List (ι × 𝕜)) (fold : ι → ι) (kept : ι → Prop) [DecidablePred kept]
    (ratio : 𝕜) : Prop :=
  ∀ f : ι → 𝕜, weighted taps (fun i => f (fold i)) =
    ratio * weighted taps fun i => if kept i then f i else 0

/-- **Proportion in the plane** follows from proportion along its axes. -/
theorem weighted_product_scaled {rows : List (ι × 𝕜)} {cols : List (κ × 𝕜)} {fold : ι → ι}
    {fold' : κ → κ} {kept : ι → Prop} {kept' : κ → Prop} [DecidablePred kept]
    [DecidablePred kept'] {ratio ratio' : 𝕜} (scaled : Scaled rows fold kept ratio)
    (scaled' : Scaled cols fold' kept' ratio') (f : ι × κ → 𝕜) :
    weighted (productTaps rows cols) (fun p => f (fold p.1, fold' p.2)) =
      ratio * ratio' *
        weighted (productTaps rows cols) fun p => if kept p.1 ∧ kept' p.2 then f p else 0 := by
  rw [weighted_product, weighted_product]
  have inner (i : ι) : (weighted cols fun j => f (fold i, fold' j)) =
      ratio' * weighted cols fun j => if kept' j then f (fold i, j) else 0 :=
    scaled' fun j => f (fold i, j)
  simp only [inner]
  rw [scaled fun i => ratio' * weighted cols fun j => if kept' j then f (i, j) else 0, mul_assoc]
  refine congrArg (ratio * ·) ?_
  rw [← weighted_mul_left]
  refine congrArg (weighted rows) (funext fun i => ?_)
  by_cases keep : kept i
  · simp only [keep, if_true, true_and]
  · simp only [keep, false_and, if_false]
    have none : weighted cols (fun _ => (0 : 𝕜)) = 0 := by
      simpa using weighted_mul_left cols (fun _ => (1 : 𝕜)) 0
    rw [none, mul_zero]

end Resampling

import Mathlib.Algebra.BigOperators.Group.List.Basic
import Mathlib.Algebra.Ring.Nat

/-!
# Sums of terms that depend on the position

A stretch of a sequence begins at a position, and every element contributes a term that depends
on its position and on itself.  The sum over a sequence is the sum over the parts of any partition,
each taken where it begins.  When the terms repeat with a period, only the position modulo the
period counts.

## Main definitions

* `PositionSum.sumAt` — the sum over a stretch that begins at a position
* `PositionSum.placed` — the parts of a partition with the positions where they begin

## Main statements

* `PositionSum.sumAt_flatten` — a sum over a partition
* `PositionSum.sumAt_shift` — a sum of terms that repeat
-/

namespace PositionSum

variable {α M : Type} [AddCommMonoid M]

/-- The sum over a stretch that begins at `pos`. -/
def sumAt (term : ℕ → α → M) : ℕ → List α → M
  | _, [] => 0
  | pos, x :: rest => term pos x + sumAt term (pos + 1) rest

/-- The parts of a sequence that begins at `pos`, each with its own beginning. -/
def placed : ℕ → List (List α) → List (ℕ × List α)
  | _, [] => []
  | pos, part :: rest => (pos, part) :: placed (pos + part.length) rest

variable {term : ℕ → α → M}

theorem sumAt_append (pos : ℕ) (xs ys : List α) :
    sumAt term pos (xs ++ ys) = sumAt term pos xs + sumAt term (pos + xs.length) ys := by
  induction xs generalizing pos with
  | nil => exact (zero_add _).symm
  | cons x rest ih =>
      have next : pos + (x :: rest).length = pos + 1 + rest.length := by
        rw [List.length_cons]
        omega
      rw [next, List.cons_append, sumAt, ih, sumAt]
      exact (add_assoc _ _ _).symm

/-- **A sum over a partition.** -/
theorem sumAt_flatten (pos : ℕ) (parts : List (List α)) :
    sumAt term pos parts.flatten =
      ((placed pos parts).map fun part => sumAt term part.1 part.2).sum := by
  induction parts generalizing pos with
  | nil => rfl
  | cons part rest ih =>
      rw [List.flatten_cons, sumAt_append, ih, placed, List.map_cons, List.sum_cons]

/-- Elements that contribute nothing. -/
theorem sumAt_replicate {x : α} (nothing : ∀ pos, term pos x = 0) (pos count : ℕ) :
    sumAt term pos (List.replicate count x) = 0 := by
  induction count generalizing pos with
  | zero => rfl
  | succ count ih => rw [List.replicate_succ, sumAt, nothing, ih, zero_add]

/-- Terms that repeat after `period` positions. -/
theorem sumAt_shift {period : ℕ} (repeats : ∀ pos x, term (pos + period) x = term pos x)
    (pos : ℕ) (xs : List α) : sumAt term (pos + period) xs = sumAt term pos xs := by
  induction xs generalizing pos with
  | nil => rfl
  | cons x rest ih =>
      have next : pos + period + 1 = pos + 1 + period := by omega
      rw [sumAt, sumAt, repeats, next, ih]

theorem sumAt_shift_mul {period : ℕ} (repeats : ∀ pos x, term (pos + period) x = term pos x)
    (pos times : ℕ) (xs : List α) :
    sumAt term (pos + period * times) xs = sumAt term pos xs := by
  induction times with
  | zero => rfl
  | succ times ih =>
      rw [Nat.mul_succ, ← Nat.add_assoc, sumAt_shift repeats, ih]

/-- The terms of whole periods, period by period. -/
theorem sumAt_periods {period : ℕ} (repeats : ∀ pos x, term (pos + period) x = term pos x)
    {pieces : List (List α)} (whole : ∀ piece ∈ pieces, piece.length = period) :
    sumAt term 0 pieces.flatten = (pieces.map (sumAt term 0)).sum := by
  induction pieces with
  | nil => rfl
  | cons piece rest ih =>
      obtain ⟨first, later⟩ := List.forall_mem_cons.mp whole
      rw [List.flatten_cons, sumAt_append, first, sumAt_shift repeats, ih later, List.map_cons,
        List.sum_cons]

/-- A running sum that is reduced after every step. -/
theorem foldl_add_mod {β : Type} (f : β → ℕ) (m start : ℕ) (small : start < m) (xs : List β) :
    xs.foldl (fun total x => (total + f x) % m) start = (start + (xs.map f).sum) % m := by
  induction xs generalizing start with
  | nil => exact (Nat.mod_eq_of_lt small).symm
  | cons x rest ih =>
      have positive : 0 < m := Nat.zero_lt_of_lt small
      rw [List.foldl_cons, ih _ (Nat.mod_lt _ positive), Nat.mod_add_mod, List.map_cons,
        List.sum_cons, Nat.add_assoc]

end PositionSum

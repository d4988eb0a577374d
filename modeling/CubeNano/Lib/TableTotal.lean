import CubeNano.Lib.Table
import Mathlib.Algebra.BigOperators.Group.List.Basic
import Mathlib.Algebra.Order.BigOperators.Group.List
import Mathlib.Tactic.Abel
import Mathlib.Algebra.Order.Group.Int

/-!
# Totals over a table

The sum of a weight of the rows of a table, as a running total keeps it: each operation on
one row moves the total by the change of that row's weight.

## Main definitions

* `Table.total`

## Main statements

* `Table.total_set`, `Table.total_update`, `Table.total_erase`
-/

universe u v

namespace Table

variable {κ : Type u} {ρ : Type v}

/-- The sum of a weight of the rows. -/
def total (w : ρ → ℤ) (t : Table κ ρ) : ℤ := (t.rows.map fun row => w row.2).sum

@[simp] theorem total_empty (w : ρ → ℤ) : (empty : Table κ ρ).total w = 0 := rfl

/-- Weights that are not negative add up to one that is not. -/
theorem total_nonneg {w : ρ → ℤ} (nonneg : ∀ r, 0 ≤ w r) (t : Table κ ρ) : 0 ≤ t.total w := by
  refine List.sum_nonneg fun x mem => ?_
  obtain ⟨row, -, rfl⟩ := List.mem_map.mp mem
  exact nonneg row.2

variable [DecidableEq κ]

/-- The weight under a key; a missing row weighs nothing. -/
def weight (w : ρ → ℤ) (t : Table κ ρ) (k : κ) : ℤ := (t.find? k).elim 0 w

theorem weight_of_find? {w : ρ → ℤ} {t : Table κ ρ} {k : κ} {r : ρ} (found : t.find? k = some r) :
    t.weight w k = w r := by
  rw [weight, found]
  rfl

theorem total_append (w : ρ → ℤ) (t : Table κ ρ) (k : κ) (r : ρ) (fresh : t.find? k = none) :
    (t.append k r fresh).total w = t.total w + w r := by
  change ((t.rows ++ [(k, r)]).map fun row => w row.2).sum = _
  rw [List.map_append, List.sum_append]
  simp [total]

/-- The total without the row under a key. -/
theorem total_erase (w : ρ → ℤ) (t : Table κ ρ) (k : κ) :
    (t.erase k).total w = t.total w - t.weight w k := by
  obtain ⟨rows, nodup⟩ := t
  change ((rows.filter fun row => row.1 ≠ k).map fun row => w row.2).sum =
    (rows.map fun row => w row.2).sum - (rows.lookup k).elim 0 w
  induction rows with
  | nil => rfl
  | cons row rest ih =>
      obtain ⟨key, value⟩ := row
      rw [List.map_cons, List.nodup_cons] at nodup
      by_cases same : key = k
      · subst same
        have others : rest.filter (fun row => row.1 ≠ key) = rest := by
          refine List.filter_eq_self.mpr fun row mem => decide_eq_true fun equal => nodup.1 ?_
          exact List.mem_map.mpr ⟨row, mem, equal⟩
        rw [List.filter_cons, if_neg (by simp), others]
        simp
      · have differs : (k == key) = false := by simpa using Ne.symm same
        rw [List.filter_cons, if_pos (by simpa using same), List.lookup_cons, differs]
        have tail := ih nodup.2
        simp only [List.map_cons, List.sum_cons]
        rw [tail]
        abel

/-- A rewritten row moves the total by the change of its weight. -/
theorem total_update (w : ρ → ℤ) (t : Table κ ρ) {k : κ} {r : ρ} (f : ρ → ρ)
    (found : t.find? k = some r) : (t.update k f).total w = t.total w - w r + w (f r) := by
  have rest : (t.update k f).erase k = t.erase k := by
    refine Table.ext ?_
    change ((t.rows.map fun row => (row.1, if row.1 = k then f row.2 else row.2)).filter
      fun row => row.1 ≠ k) = t.rows.filter fun row => row.1 ≠ k
    rw [List.filter_map]
    refine (List.map_congr_left fun row mem => ?_).trans (List.map_id _)
    have differs := of_decide_eq_true (List.mem_filter.mp mem).2
    rw [if_neg differs]
    rfl
  have after : (t.update k f).find? k = some (f r) := by
    rw [find?_update, if_pos rfl, found]
    rfl
  have before := total_erase w t k
  have changed := total_erase w (t.update k f) k
  rw [rest, before, weight_of_find? found, weight_of_find? after] at changed
  rw [changed]
  abel

/-- An assigned row takes the place of the one under its key. -/
theorem total_set (w : ρ → ℤ) (t : Table κ ρ) (k : κ) (r : ρ) :
    (t.set k r).total w = t.total w - t.weight w k + w r := by
  unfold set
  split
  · rename_i fresh
    rw [total_append, weight, fresh]
    simp
  · rename_i stored
    obtain ⟨old, found⟩ := Option.ne_none_iff_exists'.mp stored
    rw [total_update w t _ found, weight_of_find? found]

end Table

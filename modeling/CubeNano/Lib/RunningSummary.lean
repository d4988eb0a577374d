import Mathlib.Algebra.BigOperators.Group.List.Basic
import Mathlib.Algebra.Order.Field.Basic
import Mathlib.Data.List.ReduceOption
import Mathlib.Order.Lattice
import Mathlib.Tactic.FieldSimp
import Mathlib.Tactic.Linarith
import Mathlib.Tactic.Ring

/-!
# Running summaries

The least, the greatest and the mean value of a list, and how each changes with one more
value.  A mean that is carried along with a weight of its own stays the mean only if the
weight is the number of values, or if the new value is the mean already.

## Main definitions

* `mean?` — the mean, of a list with values

## Main statements

* `mean?_concat_iff` — a weighted update is the mean of the longer list
-/

namespace CubeNano

universe u

variable {α : Type u}

/-! ## Extremes -/

section Extremes

variable [LinearOrder α]

/-- The least value after one more. -/
theorem min?_concat (values : List α) (v : α) :
    (values ++ [v]).min? = some (values.min?.elim v fun m => min m v) := by
  cases values with
  | nil => rfl
  | cons a rest =>
      show some (List.foldl min a (rest ++ [v])) = _
      rw [List.foldl_append]
      rfl

/-- The greatest value after one more. -/
theorem max?_concat (values : List α) (v : α) :
    (values ++ [v]).max? = some (values.max?.elim v fun m => max m v) := by
  cases values with
  | nil => rfl
  | cons a rest =>
      show some (List.foldl max a (rest ++ [v])) = _
      rw [List.foldl_append]
      rfl

end Extremes

/-! ## Means -/

section Means

variable [Field α]

/-- The mean of a list, if it has values. -/
def mean? (values : List α) : Option α :=
  if values = [] then none else some (values.sum / values.length)

theorem mean?_eq_none_iff {values : List α} : mean? values = none ↔ values = [] := by
  unfold mean?
  split
  · rename_i empty
    exact ⟨fun _ => empty, fun _ => rfl⟩
  · rename_i nonempty
    exact ⟨nofun, fun empty => absurd empty nonempty⟩

theorem mean?_singleton (v : α) : mean? [v] = some v := by
  simp [mean?]

variable [LinearOrder α] [IsStrictOrderedRing α]

/-- **A weighted update.**  With a weight of at least the number of values it is the mean
exactly when the weight is that number, or the new value is the mean. -/
theorem mean?_concat_iff {values : List α} {m v : α} {weight : ℕ}
    (mean : mean? values = some m) (enough : values.length ≤ weight) :
    mean? (values ++ [v]) = some ((m * weight + v) / (weight + 1 : ℕ)) ↔
      values.length = weight ∨ v = m := by
  have nonempty : values ≠ [] := by
    rintro rfl
    cases mean
  rw [mean?, if_neg nonempty, Option.some.injEq] at mean
  rw [mean?, if_neg (by simp), List.sum_append, List.sum_singleton, List.length_append,
    List.length_singleton, Option.some.injEq]
  have positive : 0 < values.length := List.length_pos_of_ne_nil nonempty
  generalize values.length = count at *
  generalize values.sum = total at *
  have count_pos : (0 : α) < count := by exact_mod_cast positive
  have weight_pos : (0 : α) ≤ weight := Nat.cast_nonneg weight
  have sum_eq : total = m * count := by
    rw [← mean]
    field_simp
  rw [sum_eq, Nat.cast_add, Nat.cast_one, Nat.cast_add, Nat.cast_one,
    div_eq_div_iff (by linarith) (by linarith)]
  have factored : (m * count + v) * ((weight : α) + 1) - (m * weight + v) * ((count : α) + 1) =
      ((weight : α) - count) * (v - m) := by ring
  rw [← sub_eq_zero, factored, mul_eq_zero, sub_eq_zero, sub_eq_zero, Nat.cast_inj]
  exact or_congr_left eq_comm

end Means

end CubeNano

import Mathlib.Data.List.Sort
import Mathlib.Order.Basic

/-!
# Sorting by a key

A list of records sorted by a key of each, as `sorted(items, key=...)` does.
Where the keys are distinct the result depends on the records only, not on the
order they come in.
-/

namespace CubeNano

universe u v

variable {α : Type u} {κ : Type v} [LinearOrder κ]

/-- `sorted(items, key=key)`. -/
def sortByKey (key : α → κ) (items : List α) : List α :=
  items.insertionSort fun a b => key a ≤ key b

section

variable (key : α → κ)

theorem sortByKey_perm (items : List α) : (sortByKey key items).Perm items :=
  List.perm_insertionSort _ items

theorem mem_sortByKey {items : List α} {a : α} : a ∈ sortByKey key items ↔ a ∈ items :=
  (sortByKey_perm key items).mem_iff

theorem length_sortByKey (items : List α) : (sortByKey key items).length = items.length :=
  (sortByKey_perm key items).length_eq

theorem pairwise_sortByKey (items : List α) :
    (sortByKey key items).Pairwise fun a b => key a ≤ key b := by
  have total : Std.Total fun a b : α => key a ≤ key b := ⟨fun a b => le_total (key a) (key b)⟩
  have trans : IsTrans α fun a b => key a ≤ key b := ⟨fun _ _ _ => le_trans⟩
  exact List.pairwise_insertionSort _ items

/-- A list is its own sorted form exactly when its keys ascend. -/
theorem sortByKey_eq_self_iff {items : List α} :
    sortByKey key items = items ↔ items.Pairwise fun a b => key a ≤ key b := by
  constructor
  · intro same
    rw [← same]
    exact pairwise_sortByKey key items
  · exact List.Pairwise.insertionSort_eq

/-- **Records with distinct keys have one sorted form.** -/
theorem sortByKey_eq_of_perm {items items' : List α} (perm : items.Perm items')
    (distinct : (items.map key).Nodup) : sortByKey key items = sortByKey key items' := by
  refine List.Perm.eq_of_pairwise ?_ (pairwise_sortByKey key items) (pairwise_sortByKey key items')
    ((sortByKey_perm key items).trans (perm.trans (sortByKey_perm key items').symm))
  intro a b memA memB first second
  have inA : a ∈ items := (mem_sortByKey key).mp memA
  have inB : b ∈ items := perm.mem_iff.mpr ((mem_sortByKey key).mp memB)
  exact List.inj_on_of_nodup_map distinct inA inB (le_antisymm first second)

/-- Sorting commutes with a map that keeps the keys. -/
theorem map_sortByKey {β : Type u} (key' : β → κ) (f : α → β) (keeps : ∀ a, key' (f a) = key a)
    (items : List α) : (sortByKey key items).map f = sortByKey key' (items.map f) := by
  refine List.map_insertionSort _ _ f items fun a _ b _ => ?_
  rw [keeps, keeps]

end

end CubeNano

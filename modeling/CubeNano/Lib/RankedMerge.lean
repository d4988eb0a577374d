import Mathlib.Data.List.Basic

/-!
# Merging states by rank

States of a ranking are told apart by their rank, except at the top, where there may be
several.  `merge` never lowers a state and never leaves the top, so a sequence of merges
ends in a highest of the merged states, in whatever order they came, as long as there is at
most one at the top among them.

## Main definitions

* `Ranking.merge` — the merge
* `Ranking.IsHighest` — a highest state of a list

## Main statements

* `Ranking.IsHighest.merge` — the merge of two highest states is one of both lists
* `Ranking.IsHighest.unique` — there is one highest state
-/

universe u

/-- A ranking of states. -/
structure Ranking (σ : Type u) where
  rank : σ → ℕ
  top : ℕ
  rank_le : ∀ s, rank s ≤ top
  /-- Below the top the rank tells the states apart. -/
  injective : ∀ s s', rank s = rank s' → rank s ≠ top → s = s'

namespace Ranking

variable {σ : Type u} (ranking : Ranking σ)

/-- Merge a candidate into the current state. -/
def merge [DecidableEq σ] (current candidate : σ) : σ :=
  if ranking.rank candidate < ranking.rank current then current
  else if ranking.rank current = ranking.top ∧ current ≠ candidate then current
  else candidate

/-- A state of the list that no other one exceeds. -/
def IsHighest (s : σ) (states : List σ) : Prop :=
  s ∈ states ∧ ∀ s' ∈ states, ranking.rank s' ≤ ranking.rank s

/-- At most one of the states is at the top. -/
def AtMostOneTop (states : List σ) : Prop :=
  ∀ s ∈ states, ∀ s' ∈ states, ranking.rank s = ranking.top → ranking.rank s' = ranking.top →
    s = s'

variable {ranking}

theorem IsHighest.singleton (s : σ) : ranking.IsHighest s [s] :=
  ⟨List.mem_singleton_self s, fun s' mem => by
    obtain rfl := List.mem_singleton.mp mem
    exact Nat.le_refl _⟩

theorem IsHighest.of_mem_iff {s : σ} {states states' : List σ}
    (highest : ranking.IsHighest s states) (same : ∀ s', s' ∈ states' ↔ s' ∈ states) :
    ranking.IsHighest s states' :=
  ⟨(same s).mpr highest.1, fun s' mem => highest.2 s' ((same s').mp mem)⟩

/-- **There is one highest state.** -/
theorem IsHighest.unique {s s' : σ} {states : List σ} (one : ranking.AtMostOneTop states)
    (highest : ranking.IsHighest s states) (highest' : ranking.IsHighest s' states) : s = s' := by
  have same : ranking.rank s = ranking.rank s' :=
    Nat.le_antisymm (highest'.2 s highest.1) (highest.2 s' highest'.1)
  by_cases top : ranking.rank s = ranking.top
  · exact one s highest.1 s' highest'.1 top (same ▸ top)
  · exact ranking.injective s s' same top

section Merge

variable [DecidableEq σ]

theorem rank_le_merge_left (a b : σ) : ranking.rank a ≤ ranking.rank (ranking.merge a b) := by
  unfold merge
  split
  · exact Nat.le_refl _
  split
  · exact Nat.le_refl _
  · omega

theorem rank_le_merge_right (a b : σ) : ranking.rank b ≤ ranking.rank (ranking.merge a b) := by
  have bound := ranking.rank_le b
  unfold merge
  split
  · omega
  split
  · omega
  · exact Nat.le_refl _

/-- The merge is one of the two. -/
theorem merge_eq_or (a b : σ) : ranking.merge a b = a ∨ ranking.merge a b = b := by
  unfold merge
  split
  · exact .inl rfl
  split
  · exact .inl rfl
  · exact .inr rfl

/-- **Highest states merge** to a highest state of both lists. -/
theorem IsHighest.merge {a b : σ} {states states' : List σ} (highest : ranking.IsHighest a states)
    (highest' : ranking.IsHighest b states') :
    ranking.IsHighest (ranking.merge a b) (states ++ states') := by
  refine ⟨?_, fun s mem => ?_⟩
  · rcases @merge_eq_or _ ranking _ a b with same | same <;> rw [same]
    · exact List.mem_append_left _ highest.1
    · exact List.mem_append_right _ highest'.1
  · rcases List.mem_append.mp mem with mem | mem
    · exact Nat.le_trans (highest.2 s mem) (rank_le_merge_left a b)
    · exact Nat.le_trans (highest'.2 s mem) (rank_le_merge_right a b)

end Merge

end Ranking

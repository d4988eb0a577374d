import Mathlib.Data.Finset.Interval
import Mathlib.Data.Set.Card
import Mathlib.Order.Interval.Finset.Nat

/-!
# Merging half-open intervals

A list of half-open intervals `(start, finish)` of natural numbers, in the order
of their starts, as the record of what has been covered so far.  `absorb` adds an
interval: the stored intervals it touches are deleted and one interval that spans
them all is put in their place.

A list is `Separated` when consecutive intervals leave a gap and `Proper` when none
is empty.  `absorb` keeps both, covers exactly the union (`covers_absorb`), and
moves the total length by what the code computes from the touched intervals
(`total_absorb`), so for separated proper lists the total length is the number of
covered positions (`total_eq_ncard`).

## Main definitions

* `Intervals.Covers`, `Intervals.Separated`, `Intervals.Proper`
* `Intervals.touching`, `Intervals.absorb`, `Intervals.total`
-/

namespace Intervals

instance lawfulBEq_range : LawfulBEq (ℕ × ℕ) := inferInstance

/-- A position lies in one of the intervals. -/
def Covers (l : List (ℕ × ℕ)) (i : ℕ) : Prop := ∃ r ∈ l, r.1 ≤ i ∧ i < r.2

/-- Every interval ends before the later ones start, with a gap. -/
def Separated (l : List (ℕ × ℕ)) : Prop := l.Pairwise fun r r' => r.2 < r'.1

/-- No interval is empty. -/
def Proper (l : List (ℕ × ℕ)) : Prop := ∀ r ∈ l, r.1 < r.2

/-- The interval overlaps or adjoins `[a, b)`. -/
def touches (a b : ℕ) (r : ℕ × ℕ) : Bool := r.1 ≤ b ∧ a ≤ r.2

/-- The intervals that overlap or adjoin `[a, b)`. -/
def touching (a b : ℕ) (l : List (ℕ × ℕ)) : List (ℕ × ℕ) := l.filter (touches a b)

/-- Insertion before the first interval with a larger start. -/
def insertRow (x : ℕ × ℕ) : List (ℕ × ℕ) → List (ℕ × ℕ)
  | [] => [x]
  | r :: rest => if x.1 < r.1 then x :: r :: rest else r :: insertRow x rest

/-- The smallest start of an interval and some others. -/
def spanStart (a : ℕ) (l : List (ℕ × ℕ)) : ℕ := (l.map Prod.fst).foldr min a

/-- The largest end of an interval and some others. -/
def spanEnd (b : ℕ) (l : List (ℕ × ℕ)) : ℕ := (l.map Prod.snd).foldr max b

/-- Add `[a, b)`, merged with the intervals it touches. -/
def absorb (a b : ℕ) (l : List (ℕ × ℕ)) : List (ℕ × ℕ) :=
  insertRow (spanStart a (touching a b l), spanEnd b (touching a b l))
    (l.filter fun r => !touches a b r)

/-- The total length. -/
def total (l : List (ℕ × ℕ)) : ℕ := (l.map fun r => r.2 - r.1).sum

variable {l : List (ℕ × ℕ)} {a b : ℕ}

@[simp] theorem covers_nil (i : ℕ) : ¬ Covers [] i := by
  rintro ⟨r, mem, -⟩
  cases mem

theorem touches_iff {r : ℕ × ℕ} : touches a b r = true ↔ r.1 ≤ b ∧ a ≤ r.2 := by
  simp [touches]

theorem mem_touching {r : ℕ × ℕ} : r ∈ touching a b l ↔ r ∈ l ∧ r.1 ≤ b ∧ a ≤ r.2 := by
  rw [touching, List.mem_filter, touches_iff]

/-! ## Insertion -/

theorem perm_insertRow (x : ℕ × ℕ) (l : List (ℕ × ℕ)) : (insertRow x l).Perm (x :: l) := by
  induction l with
  | nil => exact .refl _
  | cons r rest ih =>
      unfold insertRow
      split
      · exact .refl _
      · exact (ih.cons r).trans (.swap x r rest)

@[simp] theorem mem_insertRow {x r : ℕ × ℕ} : r ∈ insertRow x l ↔ r = x ∨ r ∈ l := by
  rw [(perm_insertRow x l).mem_iff, List.mem_cons]

/-- Two intervals of a separated list are equal or apart. -/
theorem Separated.apart (h : Separated l) {r r' : ℕ × ℕ} (mem : r ∈ l) (mem' : r' ∈ l) :
    r = r' ∨ r.2 < r'.1 ∨ r'.2 < r.1 := by
  induction l with
  | nil => cases mem
  | cons first rest ih =>
      obtain ⟨gaps, later⟩ := List.pairwise_cons.mp h
      rcases List.mem_cons.mp mem with rfl | mem
      · rcases List.mem_cons.mp mem' with rfl | mem'
        · exact .inl rfl
        · exact .inr (.inl (gaps r' mem'))
      · rcases List.mem_cons.mp mem' with same | mem'
        · exact .inr (.inr (same ▸ gaps r mem))
        · exact ih later mem mem'

/-- An interval apart from all others is inserted with gaps on both sides. -/
theorem Separated.insertRow {x : ℕ × ℕ} (h : Separated l) (proper : Proper l) (nonempty : x.1 < x.2)
    (apart : ∀ r ∈ l, r.2 < x.1 ∨ x.2 < r.1) : Separated (insertRow x l) := by
  induction l with
  | nil => exact List.pairwise_singleton _ _
  | cons r rest ih =>
      obtain ⟨first, later⟩ := List.pairwise_cons.mp h
      have own := proper r List.mem_cons_self
      unfold Intervals.insertRow
      split
      · rename_i before
        have gap : x.2 < r.1 := (apart r List.mem_cons_self).resolve_left (by omega)
        refine List.pairwise_cons.mpr ⟨fun r' mem => ?_, h⟩
        rcases List.mem_cons.mp mem with rfl | mem
        · exact gap
        · have := first r' mem
          omega
      · have gap : r.2 < x.1 := (apart r List.mem_cons_self).resolve_right (by omega)
        refine List.pairwise_cons.mpr ⟨fun r' mem => ?_, ih later
          (fun r' mem => proper r' (List.mem_cons_of_mem _ mem))
          fun r' mem => apart r' (List.mem_cons_of_mem _ mem)⟩
        rcases mem_insertRow.mp mem with rfl | mem
        · exact gap
        · exact first r' mem

/-! ## The span of the touched intervals -/

theorem spanStart_le_self (a : ℕ) (l : List (ℕ × ℕ)) : spanStart a l ≤ a := by
  induction l with
  | nil => exact le_rfl
  | cons r rest ih => exact (min_le_right _ _).trans ih

theorem spanStart_le_of_mem {r : ℕ × ℕ} (mem : r ∈ l) : spanStart a l ≤ r.1 := by
  induction l with
  | nil => cases mem
  | cons r' rest ih =>
      rcases List.mem_cons.mp mem with rfl | mem
      · exact min_le_left _ _
      · exact (min_le_right _ _).trans (ih mem)

theorem self_le_spanEnd (b : ℕ) (l : List (ℕ × ℕ)) : b ≤ spanEnd b l := by
  induction l with
  | nil => exact le_rfl
  | cons r rest ih => exact ih.trans (le_max_right _ _)

theorem le_spanEnd_of_mem {r : ℕ × ℕ} (mem : r ∈ l) : r.2 ≤ spanEnd b l := by
  induction l with
  | nil => cases mem
  | cons r' rest ih =>
      rcases List.mem_cons.mp mem with rfl | mem
      · exact le_max_left _ _
      · exact (ih mem).trans (le_max_right _ _)

theorem spanStart_cases (a : ℕ) (l : List (ℕ × ℕ)) :
    spanStart a l = a ∨ ∃ r ∈ l, spanStart a l = r.1 := by
  induction l with
  | nil => exact .inl rfl
  | cons r rest ih =>
      change min r.1 (spanStart a rest) = a ∨ ∃ r' ∈ r :: rest, min r.1 (spanStart a rest) = r'.1
      rcases le_total r.1 (spanStart a rest) with le | le
      · exact .inr ⟨r, List.mem_cons_self, min_eq_left le⟩
      · rw [min_eq_right le]
        exact ih.imp_right fun ⟨r', mem, same⟩ => ⟨r', List.mem_cons_of_mem _ mem, same⟩

theorem spanEnd_cases (b : ℕ) (l : List (ℕ × ℕ)) :
    spanEnd b l = b ∨ ∃ r ∈ l, spanEnd b l = r.2 := by
  induction l with
  | nil => exact .inl rfl
  | cons r rest ih =>
      change max r.2 (spanEnd b rest) = b ∨ ∃ r' ∈ r :: rest, max r.2 (spanEnd b rest) = r'.2
      rcases le_total (spanEnd b rest) r.2 with le | le
      · exact .inr ⟨r, List.mem_cons_self, max_eq_left le⟩
      · rw [max_eq_right le]
        exact ih.imp_right fun ⟨r', mem, same⟩ => ⟨r', List.mem_cons_of_mem _ mem, same⟩

/-! ## Absorption -/

theorem mem_absorb {r : ℕ × ℕ} : r ∈ absorb a b l ↔
    r = (spanStart a (touching a b l), spanEnd b (touching a b l)) ∨
      r ∈ l ∧ (b < r.1 ∨ r.2 < a) := by
  rw [absorb, mem_insertRow, List.mem_filter, Bool.not_eq_true', Bool.eq_false_iff, ne_eq,
    touches_iff, not_and_or, not_le, not_le]

/-- **Absorption covers exactly the union.** -/
theorem covers_absorb (i : ℕ) : Covers (absorb a b l) i ↔ Covers l i ∨ a ≤ i ∧ i < b := by
  constructor
  · rintro ⟨r, mem, lower, upper⟩
    rcases mem_absorb.mp mem with rfl | ⟨mem, -⟩
    · by_cases left : i < a
      · -- the span starts before `a`, so at a touched interval that reaches `a`
        rcases spanStart_cases a (touching a b l) with same | ⟨r, touched, same⟩
        · exact absurd lower (by simp only [same]; omega)
        · obtain ⟨mem, -, reaches⟩ := mem_touching.mp touched
          exact .inl ⟨r, mem, same ▸ lower, by omega⟩
      by_cases right : i < b
      · exact .inr ⟨not_lt.mp left, right⟩
      · rcases spanEnd_cases b (touching a b l) with same | ⟨r, touched, same⟩
        · exact absurd upper (by simp only [same]; omega)
        · obtain ⟨mem, reaches, -⟩ := mem_touching.mp touched
          exact .inl ⟨r, mem, by omega, same ▸ upper⟩
    · exact .inl ⟨r, mem, lower, upper⟩
  · have span : (spanStart a (touching a b l), spanEnd b (touching a b l)) ∈ absorb a b l :=
      mem_absorb.mpr (.inl rfl)
    rintro (⟨r, mem, lower, upper⟩ | ⟨lower, upper⟩)
    · by_cases touched : r ∈ touching a b l
      · exact ⟨_, span, (spanStart_le_of_mem touched).trans lower,
          upper.trans_le (le_spanEnd_of_mem touched)⟩
      · have away : b < r.1 ∨ r.2 < a := by
          by_contra near
          exact touched (mem_touching.mpr ⟨mem, by omega⟩)
        exact ⟨r, mem_absorb.mpr (.inr ⟨mem, away⟩), lower, upper⟩
    · exact ⟨_, span, (spanStart_le_self _ _).trans lower, upper.trans_le (self_le_spanEnd _ _)⟩

theorem proper_absorb (nonempty : a < b) (proper : Proper l) : Proper (absorb a b l) := by
  intro r mem
  rcases mem_absorb.mp mem with rfl | ⟨mem, -⟩
  · exact (spanStart_le_self a _).trans_lt (nonempty.trans_le (self_le_spanEnd b _))
  · exact proper r mem

/-- **Absorption keeps the gaps.** -/
theorem separated_absorb (nonempty : a < b) (proper : Proper l) (separated : Separated l) :
    Separated (absorb a b l) := by
  refine Separated.insertRow (separated.filter _) (fun r mem => proper r (List.mem_of_mem_filter mem))
    ((spanStart_le_self a _).trans_lt (nonempty.trans_le (self_le_spanEnd b _))) fun r mem => ?_
  obtain ⟨mem, away⟩ := List.mem_filter.mp mem
  rw [Bool.not_eq_true', Bool.eq_false_iff, ne_eq, touches_iff, not_and_or, not_le, not_le] at away
  rcases away with above | below
  · right
    rcases spanEnd_cases b (touching a b l) with same | ⟨r', touched, same⟩
    · exact same.trans_lt above
    · obtain ⟨mem', starts, -⟩ := mem_touching.mp touched
      have own := proper r mem
      change spanEnd b (touching a b l) < r.1
      rcases separated.apart mem mem' with rfl | before | after
      · omega
      · omega
      · omega
  · left
    rcases spanStart_cases a (touching a b l) with same | ⟨r', touched, same⟩
    · exact below.trans_eq same.symm
    · obtain ⟨mem', -, ends⟩ := mem_touching.mp touched
      have own := proper r mem
      change r.2 < spanStart a (touching a b l)
      rcases separated.apart mem mem' with rfl | before | after
      · omega
      · omega
      · omega

theorem total_filter_add (p : ℕ × ℕ → Bool) (l : List (ℕ × ℕ)) :
    total (l.filter p) + total (l.filter fun r => !p r) = total l := by
  induction l with
  | nil => rfl
  | cons r rest ih =>
      cases kept : p r
      · simp only [List.filter_cons, kept, total, List.map_cons, List.sum_cons, Bool.not_false,
          if_true, Bool.false_eq_true, if_false] at ih ⊢
        omega
      · simp only [List.filter_cons, kept, total, List.map_cons, List.sum_cons, Bool.not_true,
          if_true, Bool.false_eq_true, if_false] at ih ⊢
        omega

/-- The touched intervals leave the total and their span enters it. -/
theorem total_absorb (a b : ℕ) (l : List (ℕ × ℕ)) :
    total (absorb a b l) + total (touching a b l) =
      total l + (spanEnd b (touching a b l) - spanStart a (touching a b l)) := by
  have parts := total_filter_add (touches a b) l
  have inserted (x : ℕ × ℕ) (l : List (ℕ × ℕ)) : total (insertRow x l) = x.2 - x.1 + total l := by
    unfold total
    rw [((perm_insertRow x l).map _).sum_eq, List.map_cons, List.sum_cons]
  rw [absorb, inserted]
  unfold touching
  omega

/-- The total length, as signed arithmetic computes it. -/
theorem total_cast (proper : Proper l) :
    (l.map fun r => (r.2 : ℤ) - r.1).sum = total l := by
  induction l with
  | nil => rfl
  | cons r rest ih =>
      have own := proper r List.mem_cons_self
      have rest := ih fun r' mem => proper r' (List.mem_cons_of_mem _ mem)
      simp only [total, List.map_cons, List.sum_cons] at rest ⊢
      omega

/-- Deleting the touched intervals by membership deletes them by position. -/
theorem filter_notMem_touching (a b : ℕ) (l : List (ℕ × ℕ)) :
    (l.filter fun r => r ∉ touching a b l) = l.filter fun r => !touches a b r := by
  apply List.filter_congr
  intro r mem
  unfold touching
  cases touched : touches a b r with
  | true => simp [mem, touched]
  | false => simp [touched]

/-! ## Counting -/

/-- **The total length of a separated list is the number of covered positions.** -/
theorem total_eq_ncard (proper : Proper l) (separated : Separated l) :
    total l = Set.ncard {i | Covers l i} := by
  induction l with
  | nil => simp [total]
  | cons r rest ih =>
      obtain ⟨first, later⟩ := List.pairwise_cons.mp separated
      have split : {i | Covers (r :: rest) i} = Set.Ico r.1 r.2 ∪ {i | Covers rest i} := by
        ext i
        constructor
        · rintro ⟨r', mem, inside⟩
          rcases List.mem_cons.mp mem with rfl | mem
          · exact .inl inside
          · exact .inr ⟨r', mem, inside⟩
        · rintro (inside | ⟨r', mem, inside⟩)
          · exact ⟨r, List.mem_cons_self, inside⟩
          · exact ⟨r', List.mem_cons_of_mem _ mem, inside⟩
      have bounded (l : List (ℕ × ℕ)) : {i | Covers l i}.Finite := by
        refine (Set.finite_lt_nat (spanEnd 0 l)).subset ?_
        rintro i ⟨r, mem, -, upper⟩
        exact upper.trans_le (le_spanEnd_of_mem mem)
      have disjoint : Disjoint (Set.Ico r.1 r.2) {i | Covers rest i} := by
        rw [Set.disjoint_left]
        rintro i inside ⟨r', mem, lower, -⟩
        have := first r' mem
        exact absurd inside.2 (by omega)
      rw [split, Set.ncard_union_eq disjoint (Set.finite_Ico _ _) (bounded rest),
        ← ih (fun r' mem => proper r' (List.mem_cons_of_mem _ mem)) later]
      have length : (Set.Ico r.1 r.2).ncard = r.2 - r.1 := by
        rw [← Finset.coe_Ico, Set.ncard_coe_finset, Nat.card_Ico]
      rw [length]
      rfl

end Intervals

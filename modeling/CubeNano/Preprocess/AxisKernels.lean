import CubeNano.Lib.WeightedSum
import CubeNano.Preprocess.StripIndependence
import Mathlib.Tactic.LinearCombination
import Mathlib.Tactic.Linarith
import Mathlib.Tactic.Ring

/-!
# Kernels along an axis

A kernel of the warp is the product of two kernels of an axis.  Along an axis only the bicubic one
has taps outside the source that count, at a coordinate between the first two samples or between
the last two.  The border policies `edge` and `reflect` fold such a tap onto a sample inside.

## Main definitions

* `axisTaps` — a kernel along one axis
* `foldIndex` — the sample that a tap takes along an axis
* `AxisWhole`, `AxisMean` — where an axis has no tap outside that counts, and where leaving it out
  changes no mean

## Main statements

* `kernelTaps_product` — a kernel is a product
* `AxisWhole.inside`, `exists_outside` — the taps of an axis that count
* `AxisMean.scaled`, `axisMean_of_means` — the axes whose means miss nothing
-/

namespace CubeNano

open Resampling

/-! ## Kernels of an axis -/

/-- The taps of a kernel along one axis. -/
def axisTaps (kernel : ResampleKernel) (c : ℚ) : List (ℤ × ℚ) :=
  match kernel with
  | .nearest => [(⌊c + 1 / 2⌋, 1)]
  | .bilinear | .support => [(⌊c⌋, 1 - (c - ⌊c⌋)), (⌊c⌋ + 1, c - ⌊c⌋)]
  | .bicubic =>
      [-1, 0, 1, 2].map fun offset : ℤ => (⌊c⌋ + offset, cubicWeight (c - ⌊c⌋ - offset))

/-- **A kernel is a product** of two kernels of an axis. -/
theorem kernelTaps_product (mapping : ℚ × ℚ) (kernel : ResampleKernel) (pixelOffset : ℚ) :
    (kernelTaps mapping kernel pixelOffset).map (fun tap => ((tap.row, tap.col), tap.weight)) =
      productTaps (axisTaps kernel (mapping.1 - pixelOffset))
        (axisTaps kernel (mapping.2 - pixelOffset)) := by
  cases kernel with
  | nearest => simp [kernelTaps, axisTaps, productTaps]
  | bilinear => rfl
  | support => rfl
  | bicubic => rfl

section Cubic

variable {t : ℚ}

/-- The weights of the four taps of the bicubic kernel, between two samples. -/
theorem cubicWeight_before (nonneg : 0 ≤ t) (small : t < 1) :
    cubicWeight (t - (-1 : ℤ)) = -(t * (1 - t) ^ 2) / 2 := by
  have distance : |t - (-1 : ℤ)| = t + 1 := by
    rw [abs_of_nonneg (by push_cast; linarith)]
    push_cast
    ring
  unfold cubicWeight
  rw [distance]
  dsimp only
  by_cases zero : t = 0
  · subst zero
    norm_num
  · have above : 0 < t := lt_of_le_of_ne nonneg (Ne.symm zero)
    rw [if_neg (by linarith), if_pos (by linarith)]
    ring

theorem cubicWeight_first (nonneg : 0 ≤ t) (small : t < 1) :
    cubicWeight (t - (0 : ℤ)) = (1 - t) * (1 + t - 3 / 2 * t ^ 2) := by
  have distance : |t - (0 : ℤ)| = t := by
    rw [Int.cast_zero, sub_zero, abs_of_nonneg nonneg]
  unfold cubicWeight
  rw [distance]
  dsimp only
  rw [if_pos small.le]
  ring

theorem cubicWeight_second (nonneg : 0 ≤ t) (small : t < 1) :
    cubicWeight (t - (1 : ℤ)) = t * (1 / 2 + 2 * t - 3 / 2 * t ^ 2) := by
  have distance : |t - (1 : ℤ)| = 1 - t := by
    rw [Int.cast_one, abs_of_nonpos (by linarith)]
    ring
  unfold cubicWeight
  rw [distance]
  dsimp only
  rw [if_pos (by linarith)]
  ring

theorem cubicWeight_after (nonneg : 0 ≤ t) (small : t < 1) :
    cubicWeight (t - (2 : ℤ)) = -(t ^ 2 * (1 - t)) / 2 := by
  have distance : |t - (2 : ℤ)| = 2 - t := by
    rw [abs_of_nonpos (by push_cast; linarith)]
    push_cast
    ring
  unfold cubicWeight
  rw [distance]
  dsimp only
  rw [if_neg (by linarith)]
  by_cases zero : t = 0
  · subst zero
    norm_num
  · have above : 0 < t := lt_of_le_of_ne nonneg (Ne.symm zero)
    rw [if_pos (by linarith)]
    ring

end Cubic

/-- A coordinate lies at a sample, or some way to the next one. -/
theorem exists_floor (c : ℚ) : ∃ (row : ℤ) (t : ℚ), c = row + t ∧ 0 ≤ t ∧ t < 1 :=
  ⟨⌊c⌋, Int.fract c, (Int.floor_add_fract c).symm, Int.fract_nonneg c, Int.fract_lt_one c⟩

theorem floor_of_eq {row : ℤ} {t c : ℚ} (split : c = row + t) (nonneg : 0 ≤ t) (small : t < 1) :
    ⌊c⌋ = row := by
  rw [Int.floor_eq_iff]
  exact ⟨by linarith, by linarith⟩

/-- The bicubic kernel of an axis. -/
theorem axisTaps_bicubic {row : ℤ} {t c : ℚ} (split : c = row + t) (nonneg : 0 ≤ t)
    (small : t < 1) :
    axisTaps .bicubic c =
      [(row - 1, -(t * (1 - t) ^ 2) / 2), (row, (1 - t) * (1 + t - 3 / 2 * t ^ 2)),
        (row + 1, t * (1 / 2 + 2 * t - 3 / 2 * t ^ 2)), (row + 2, -(t ^ 2 * (1 - t)) / 2)] := by
  have rest : c - (row : ℚ) = t := by linarith
  simp only [axisTaps, floor_of_eq split nonneg small, rest, List.map_cons, List.map_nil,
    cubicWeight_before nonneg small, cubicWeight_first nonneg small,
    cubicWeight_second nonneg small, cubicWeight_after nonneg small, add_zero]
  rw [← sub_eq_add_neg]

/-- The weights of a kernel of an axis add up to one. -/
theorem weighted_axisTaps_one (kernel : ResampleKernel) (c : ℚ) :
    weighted (axisTaps kernel c) (fun _ => 1) = 1 := by
  cases kernel with
  | nearest => simp [axisTaps]
  | bilinear => simp [axisTaps]
  | support => simp [axisTaps]
  | bicubic =>
      obtain ⟨row, t, split, nonneg, small⟩ := exists_floor c
      rw [axisTaps_bicubic split nonneg small]
      simp only [weighted_cons, weighted_nil]
      ring

/-! ## Axes of a source -/

/-- An index of an axis with `n` samples. -/
def Inside (n : ℕ) (i : ℤ) : Prop := 0 ≤ i ∧ i < n

instance (n : ℕ) : DecidablePred (Inside n) := fun i => inferInstanceAs (Decidable (0 ≤ i ∧ i < n))

/-- The sample that a tap takes along an axis. -/
def foldIndex (policy : BorderPolicy) (n : ℕ) (i : ℤ) : ℤ :=
  match policy with
  | .edge => clip i 0 (n - 1)
  | .reflect => reflectIndex i n
  | .invalid | .constant => i

theorem foldIndex_of_inside (policy : BorderPolicy) {n : ℕ} {i : ℤ} (inside : Inside n i) :
    foldIndex policy n i = i := by
  cases policy with
  | edge => exact clip_of_inside inside.1 (Int.le_sub_one_of_lt inside.2)
  | reflect => exact reflectIndex_of_inside inside.1 inside.2
  | invalid => rfl
  | constant => rfl

/-- Where no tap outside counts: a bicubic coordinate is not strictly between the first two samples
of its axis, nor between the last two. -/
def AxisWhole (kernel : ResampleKernel) (c : ℚ) (n : ℕ) : Prop :=
  kernel = .bicubic → ¬(0 < c ∧ c < 1) ∧ ¬((n : ℚ) - 2 < c ∧ c < n - 1)

/-- Where a mean without the taps outside is the mean with their samples: also halfway between
the samples of an axis that has but two. -/
def AxisMean (kernel : ResampleKernel) (c : ℚ) (n : ℕ) : Prop :=
  AxisWhole kernel c n ∨ n = 2 ∧ c = 1 / 2

section Axis

variable {kernel : ResampleKernel} {c : ℚ} {n : ℕ}

/-- The taps that count are in the source. -/
theorem AxisWhole.inside (whole : AxisWhole kernel c n) (first : 0 ≤ c) (last : c ≤ n - 1) :
    ∀ tap ∈ axisTaps kernel c, tap.2 ≠ 0 → Inside n tap.1 := by
  obtain ⟨row, t, split, nonneg, small⟩ := exists_floor c
  have floor := floor_of_eq split nonneg small
  have rowFirst : 0 ≤ row := by
    rw [← floor]
    exact Int.floor_nonneg.mpr first
  have rowLast : row < n := by
    rw [← floor, Int.floor_lt]
    push_cast
    linarith
  have integral : t ≠ 0 → row + 1 < n := fun between => by
    have above : 0 < t := lt_of_le_of_ne nonneg (Ne.symm between)
    have bound : (row : ℚ) < ((n : ℤ) - 1 : ℤ) := by
      push_cast
      linarith
    have := Int.cast_lt.mp bound
    omega
  cases kernel with
  | nearest =>
      intro tap mem _
      obtain rfl : tap = _ := List.mem_singleton.mp mem
      refine ⟨Int.floor_nonneg.mpr (by linarith), Int.floor_lt.mpr ?_⟩
      push_cast
      linarith
  | bilinear | support =>
      intro tap mem counts
      simp only [axisTaps, floor, List.mem_cons, List.not_mem_nil, or_false] at mem
      rcases mem with rfl | rfl
      · exact ⟨rowFirst, rowLast⟩
      · have between : t ≠ 0 := by
          rintro rfl
          exact counts (by simp [split])
        exact ⟨by omega, integral between⟩
  | bicubic =>
      obtain ⟨notFirst, notLast⟩ := whole rfl
      rw [axisTaps_bicubic split nonneg small]
      intro tap mem counts
      simp only [List.mem_cons, List.not_mem_nil, or_false] at mem
      by_cases atSample : t = 0
      · subst atSample
        rcases mem with rfl | rfl | rfl | rfl
        · exact absurd (by norm_num) counts
        · exact ⟨rowFirst, rowLast⟩
        · exact absurd (by norm_num) counts
        · exact absurd (by norm_num) counts
      · have above : 0 < t := lt_of_le_of_ne nonneg (Ne.symm atSample)
        have rowPos : 1 ≤ row := by
          by_contra low
          obtain rfl : row = 0 := by omega
          refine notFirst ⟨?_, ?_⟩
          · rw [split]
            push_cast
            linarith
          · rw [split]
            push_cast
            linarith
        have rowRoom : row + 2 < n := by
          by_contra high
          have edge : row + 2 = n := by
            have := integral atSample
            omega
          have edge' : (row : ℚ) + 2 = n := by exact_mod_cast edge
          exact notLast ⟨by linarith, by linarith⟩
        rcases mem with rfl | rfl | rfl | rfl
        · exact ⟨by omega, by omega⟩
        · exact ⟨by omega, by omega⟩
        · exact ⟨by omega, by omega⟩
        · exact ⟨by omega, by omega⟩

/-- Otherwise some tap outside counts. -/
theorem exists_outside (first : 0 ≤ c) (notWhole : ¬AxisWhole kernel c n) :
    ∃ tap ∈ axisTaps kernel c, tap.2 ≠ 0 ∧ ¬Inside n tap.1 := by
  unfold AxisWhole at notWhole
  push Not at notWhole
  obtain ⟨rfl, border⟩ := notWhole
  by_cases low : 0 < c ∧ c < 1
  · have split : c = (0 : ℤ) + c := by
      rw [Int.cast_zero, zero_add]
    have taps := axisTaps_bicubic split first low.2
    refine ⟨_, taps ▸ List.mem_cons_self, ?_, fun inside => ?_⟩
    · have : 0 < c * (1 - c) ^ 2 := mul_pos low.1 (pow_pos (by linarith) 2)
      dsimp only
      intro zero
      linarith
    · have := inside.1
      dsimp only at this
      omega
  · obtain ⟨above, below⟩ := border fun positive => not_lt.mp fun small => low ⟨positive, small⟩
    have split : c = ((n : ℤ) - 2 : ℤ) + (c - (n - 2)) := by
      push_cast
      ring
    have taps := axisTaps_bicubic split (by linarith) (by linarith)
    refine ⟨_, taps ▸ List.mem_cons_of_mem _ (List.mem_cons_of_mem _
      (List.mem_cons_of_mem _ List.mem_cons_self)), ?_, fun inside => ?_⟩
    · have : 0 < (c - (n - 2)) ^ 2 * (1 - (c - (n - 2))) :=
        mul_pos (pow_pos (by linarith) 2) (by linarith)
      dsimp only
      intro zero
      linarith
    · have := inside.2
      dsimp only at this
      omega

/-- The two samples next to a coordinate count. -/
theorem cubic_near_pos {t : ℚ} (above : 0 < t) (small : t < 1) :
    0 < (1 - t) * (1 + t - 3 / 2 * t ^ 2) ∧ 0 < t * (1 / 2 + 2 * t - 3 / 2 * t ^ 2) := by
  have square : t ^ 2 < t := by nlinarith
  exact ⟨mul_pos (by linarith) (by linarith), mul_pos above (by linarith)⟩

variable {policy : BorderPolicy}

/-- **Leaving out the taps outside** keeps the proportions of an axis. -/
theorem AxisMean.scaled (mean : AxisMean kernel c n) (folds : policy.invalidates = false)
    (first : 0 ≤ c) (last : c ≤ n - 1) :
    ∃ ratio, 0 < ratio ∧ ratio ≤ 1 ∧
      Scaled (axisTaps kernel c) (foldIndex policy n) (Inside n) ratio := by
  by_cases whole : AxisWhole kernel c n
  · refine ⟨1, one_pos, le_rfl, fun f => ?_⟩
    rw [one_mul]
    refine weighted_congr fun tap mem counts => ?_
    have inside := whole.inside first last tap mem counts
    rw [foldIndex_of_inside policy inside, if_pos inside]
  · obtain ⟨rfl, rfl⟩ := mean.resolve_left whole
    obtain rfl : kernel = .bicubic := by
      by_contra other
      exact whole fun bicubic => absurd bicubic other
    refine ⟨8 / 9, by norm_num, by norm_num, fun f => ?_⟩
    have split : (1 / 2 : ℚ) = (0 : ℤ) + 1 / 2 := by norm_num
    rw [axisTaps_bicubic split (by norm_num) (by norm_num)]
    cases policy with
    | edge =>
        simp [weighted, foldIndex, clip, Inside]
        ring
    | reflect =>
        simp [weighted, foldIndex, reflectIndex, Inside]
        ring
    | invalid => cases folds
    | constant => cases folds

/-- Near the first of more than two samples, the tap before them is missed. -/
theorem not_means_first {t : ℚ} (above : 0 < t) (small : t < 1) (many : 3 ≤ n)
    (folds : policy.invalidates = false)
    (means : ∀ f : ℤ → ℚ, weighted (axisTaps .bicubic t) (fun i => f (foldIndex policy n i)) *
        weighted (axisTaps .bicubic t) (fun i => if Inside n i then 1 else 0) =
      weighted (axisTaps .bicubic t) fun i => if Inside n i then f i else 0) : False := by
  have split : t = (0 : ℤ) + t := by rw [Int.cast_zero, zero_add]
  obtain ⟨firstPos, secondPos⟩ := cubic_near_pos above small
  have missed : 0 < t * (1 - t) ^ 2 := mul_pos above (pow_pos (by linarith) 2)
  have outside : ¬Inside n (0 - 1) := fun inside => absurd inside.1 (by decide)
  have inside (i : ℤ) (nonneg : 0 ≤ i) (low : i ≤ 2) : Inside n i := ⟨nonneg, by omega⟩
  have kept (i : ℤ) (nonneg : 0 ≤ i) (low : i ≤ 2) : foldIndex policy n i = i :=
    foldIndex_of_inside policy (inside i nonneg low)
  rw [axisTaps_bicubic split above.le small] at means
  simp only [weighted_cons, weighted_nil, if_neg outside, if_pos (inside 0 le_rfl (by decide)),
    if_pos (inside (0 + 1) (by decide) (by decide)),
    if_pos (inside (0 + 2) (by decide) (by decide)), kept 0 le_rfl (by decide),
    kept (0 + 1) (by decide) (by decide), kept (0 + 2) (by decide) (by decide)] at means
  cases policy with
  | edge =>
      have before : foldIndex .edge n (0 - 1) = 0 := by
        change min (max (0 - 1) 0) ((n : ℤ) - 1) = 0
        omega
      rw [before] at means
      have second := means fun i => if i = 1 then 1 else 0
      norm_num at second
      nlinarith
  | reflect =>
      have before : foldIndex .reflect n (0 - 1) = 1 := by
        change reflectIndex (0 - 1) n = 1
        unfold reflectIndex
        rw [if_neg (by omega)]
        have folded : (0 - 1 : ℤ) % (2 * n - 2) = 2 * n - 3 := by
          rw [← Int.add_emod_right, Int.emod_eq_of_lt (by omega) (by omega)]
          ring
        dsimp only
        rw [folded, if_neg (by omega)]
        omega
      rw [before] at means
      have second := means fun i => if i = 0 then 1 else 0
      norm_num at second
      nlinarith
  | invalid => cases folds
  | constant => cases folds

/-- Near the last of more than two samples, the tap behind them is missed. -/
theorem not_means_last {t : ℚ} (split : c = ((n : ℤ) - 2 : ℤ) + t) (above : 0 < t) (small : t < 1)
    (many : 3 ≤ n) (folds : policy.invalidates = false)
    (means : ∀ f : ℤ → ℚ, weighted (axisTaps .bicubic c) (fun i => f (foldIndex policy n i)) *
        weighted (axisTaps .bicubic c) (fun i => if Inside n i then 1 else 0) =
      weighted (axisTaps .bicubic c) fun i => if Inside n i then f i else 0) : False := by
  obtain ⟨firstPos, secondPos⟩ := cubic_near_pos above small
  have missed : 0 < t ^ 2 * (1 - t) := mul_pos (pow_pos above 2) (by linarith)
  have outside : ¬Inside n ((n : ℤ) - 2 + 2) := fun inside => by
    have := inside.2
    omega
  have inside (i : ℤ) (high : (n : ℤ) - 3 ≤ i) (low : i < n) : Inside n i := ⟨by omega, low⟩
  have kept (i : ℤ) (high : (n : ℤ) - 3 ≤ i) (low : i < n) : foldIndex policy n i = i :=
    foldIndex_of_inside policy (inside i high low)
  rw [axisTaps_bicubic split above.le small] at means
  simp only [weighted_cons, weighted_nil, if_neg outside,
    if_pos (inside ((n : ℤ) - 2 - 1) (by omega) (by omega)),
    if_pos (inside ((n : ℤ) - 2) (by omega) (by omega)),
    if_pos (inside ((n : ℤ) - 2 + 1) (by omega) (by omega)),
    kept ((n : ℤ) - 2 - 1) (by omega) (by omega), kept ((n : ℤ) - 2) (by omega) (by omega),
    kept ((n : ℤ) - 2 + 1) (by omega) (by omega)] at means
  cases policy with
  | edge =>
      have behind : foldIndex .edge n ((n : ℤ) - 2 + 2) = (n : ℤ) - 2 + 1 := by
        change min (max ((n : ℤ) - 2 + 2) 0) ((n : ℤ) - 1) = _
        omega
      rw [behind] at means
      have first := means fun i => if i = (n : ℤ) - 2 then 1 else 0
      norm_num at first
      nlinarith
  | reflect =>
      have behind : foldIndex .reflect n ((n : ℤ) - 2 + 2) = (n : ℤ) - 2 := by
        change reflectIndex _ n = _
        unfold reflectIndex
        rw [if_neg (by omega)]
        have folded : ((n : ℤ) - 2 + 2) % (2 * n - 2) = n := by
          rw [Int.emod_eq_of_lt (by omega) (by omega)]
          ring
        dsimp only
        rw [folded, if_neg (by omega)]
        ring
      rw [behind] at means
      have second := means fun i => if i = (n : ℤ) - 2 + 1 then 1 else 0
      have other : (n : ℤ) - 2 - 1 ≠ n - 2 + 1 := by omega
      norm_num [other] at second
      nlinarith
  | invalid => cases folds
  | constant => cases folds

/-- Between the only two samples of an axis, the taps outside are missed but halfway. -/
theorem half_of_means {t : ℚ} (above : 0 < t) (small : t < 1) (folds : policy.invalidates = false)
    (means : ∀ f : ℤ → ℚ, weighted (axisTaps .bicubic t) (fun i => f (foldIndex policy 2 i)) *
        weighted (axisTaps .bicubic t) (fun i => if Inside 2 i then 1 else 0) =
      weighted (axisTaps .bicubic t) fun i => if Inside 2 i then f i else 0) : t = 1 / 2 := by
  have split : t = (0 : ℤ) + t := by rw [Int.cast_zero, zero_add]
  rw [axisTaps_bicubic split above.le small] at means
  have before : ¬Inside 2 (0 - 1) := by decide
  have first : Inside 2 0 := by decide
  have second : Inside 2 (0 + 1) := by decide
  have after : ¬Inside 2 (0 + 2) := by decide
  simp only [weighted_cons, weighted_nil, if_neg before, if_pos first, if_pos second,
    if_neg after] at means
  have means := means fun i => if i = 0 then 1 else 0
  have rest : 0 < 1 - t := by linarith
  cases policy with
  | edge =>
      norm_num [foldIndex, clip] at means
      have product : t ^ 2 * (1 - t) ^ 2 * (1 / 2 - t) = 0 := by linear_combination 2 * means
      have positive : t ^ 2 * (1 - t) ^ 2 ≠ 0 := (mul_pos (pow_pos above 2) (pow_pos rest 2)).ne'
      have zero := (mul_eq_zero.mp product).resolve_left positive
      linarith
  | reflect =>
      norm_num [foldIndex, reflectIndex] at means
      have product : t * (1 - t) * (1 + t - t ^ 2) * (1 - 2 * t) = 0 := by
        linear_combination 2 * means
      have positive : t * (1 - t) * (1 + t - t ^ 2) ≠ 0 :=
        (mul_pos (mul_pos above rest) (by nlinarith)).ne'
      have zero := (mul_eq_zero.mp product).resolve_left positive
      linarith
  | invalid => cases folds
  | constant => cases folds

/-- **The axes whose means miss nothing**: only there is every mean that leaves out the taps
outside the mean with their samples. -/
theorem axisMean_of_means (first : 0 ≤ c) (last : c ≤ n - 1) (folds : policy.invalidates = false)
    (means : ∀ f : ℤ → ℚ, weighted (axisTaps kernel c) (fun i => f (foldIndex policy n i)) *
        weighted (axisTaps kernel c) (fun i => if Inside n i then 1 else 0) =
      weighted (axisTaps kernel c) fun i => if Inside n i then f i else 0) :
    AxisMean kernel c n := by
  refine or_iff_not_imp_left.mpr fun notWhole => ?_
  unfold AxisWhole at notWhole
  push Not at notWhole
  obtain ⟨rfl, border⟩ := notWhole
  by_cases low : 0 < c ∧ c < 1
  · have two : 2 ≤ n := by
      have : (1 : ℚ) < n := by linarith [low.1]
      exact_mod_cast this
    rcases two.eq_or_lt with rfl | many
    · exact ⟨rfl, half_of_means low.1 low.2 folds means⟩
    · exact (not_means_first low.1 low.2 many folds means).elim
  · obtain ⟨above, below⟩ := border fun positive => not_lt.mp fun small => low ⟨positive, small⟩
    have many : 3 ≤ n := by
      by_contra few
      have : (n : ℚ) ≤ 2 := by exact_mod_cast Nat.lt_succ_iff.mp (not_le.mp few)
      refine low ⟨lt_of_le_of_ne first fun zero => ?_, by linarith⟩
      have strict : (1 : ℚ) < n := by linarith
      have upper : (n : ℚ) < 2 := by linarith
      have := Nat.cast_lt.mp (show ((1 : ℕ) : ℚ) < n by simpa using strict)
      have := Nat.cast_lt.mp (show (n : ℚ) < (2 : ℕ) by simpa using upper)
      omega
    have split : c = ((n : ℤ) - 2 : ℤ) + (c - (n - 2)) := by
      push_cast
      ring
    exact (not_means_last split (by linarith) (by linarith) many folds means).elim

end Axis

/-- A folded index is in the source. -/
theorem inside_foldIndex {policy : BorderPolicy} (folds : policy.invalidates = false) {n : ℕ}
    (positive : 0 < n) (i : ℤ) : Inside n (foldIndex policy n i) := by
  cases policy with
  | edge =>
      change 0 ≤ min (max i 0) ((n : ℤ) - 1) ∧ min (max i 0) ((n : ℤ) - 1) < n
      omega
  | reflect =>
      change 0 ≤ reflectIndex i n ∧ reflectIndex i n < n
      unfold reflectIndex
      split
      · omega
      · have nonneg := Int.emod_nonneg i (show (2 * n - 2 : ℤ) ≠ 0 by omega)
        have small := Int.emod_lt_of_pos i (show (0 : ℤ) < 2 * n - 2 by omega)
        dsimp only
        split <;> omega
  | invalid => cases folds
  | constant => cases folds

end CubeNano

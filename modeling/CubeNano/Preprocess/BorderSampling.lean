import CubeNano.Preprocess.AxisKernels
import Mathlib.Algebra.Order.BigOperators.Group.List
import Mathlib.Data.List.OfFn

/-!
# Samples at the border of a source

A pixel of a warp is the mean of the samples at the taps of its kernel.  The border policies `edge`
and `reflect` give a tap outside the source a sample inside it, but the warp leaves it out.

## Main definitions

* `TransformPlanner.SampledRight` — what is expected of a pixel
* `TransformPlanner.BordersHold` — the condition for it

## Main statements

* `TransformPlanner.resampleImage_prepared`, `TransformPlanner.resampleValidity_prepared` — the
  sums that the warp takes
* `warp_samples` — a pixel is as expected for every source exactly under its condition
* `warp_not_samples` — a bicubic pixel between the first two samples
-/

namespace CubeNano

open Resampling

/-! ## What is expected of a pixel -/

namespace TransformPlanner

variable (p : TransformPlanner) (source : Source)

/-- The source pixel whose sample a tap takes. -/
def samplePlace (tap : Tap) : ℤ × ℤ :=
  (foldIndex p.profile.borderPolicy p.sourceRows tap.row,
    foldIndex p.profile.borderPolicy p.sourceCols tap.col)

/-- A place with a sample, and a valid one. -/
def SampleValid (place : ℤ × ℤ) : Prop :=
  (Inside p.sourceRows place.1 ∧ Inside p.sourceCols place.2) ∧
    source.validity place.1.toNat place.2.toNat ≠ p.profile.validityEncoding.invalidValue

instance : DecidablePred (p.SampleValid source) := fun _ =>
  inferInstanceAs (Decidable ((_ ∧ _) ∧ _))

/-- A function of the valid samples. -/
def validSample (f : ℕ × ℕ → ℚ) (place : ℤ × ℤ) : ℚ :=
  if p.SampleValid source place then f (place.1.toNat, place.2.toNat) else 0

/-- The sum of a function over the valid samples at the taps of the image kernel, by weight. -/
def sampleSum (mapping : ℚ × ℚ) (f : ℕ × ℕ → ℚ) : ℚ :=
  ((kernelTaps mapping p.profile.imageKernel p.pixelOffset).map fun tap =>
    p.validSample source f (p.samplePlace tap) * tap.weight).sum

/-- **What is expected of a pixel**: it is the mean of its valid samples, unless their weights
cancel, and it is valid where the border has samples and all those that count are valid. -/
structure SampledRight (mapping : ℚ × ℚ) (pixel : WarpedPixel) : Prop where
  mean : p.profile.precision.eps < |p.sampleSum source mapping fun _ => 1| →
    pixel.image = List.ofFn fun channel =>
      p.sampleSum source mapping (fun place => source.image place.1 place.2 channel) /
        p.sampleSum source mapping fun _ => 1
  valid : p.profile.borderPolicy.invalidates = false →
    (∀ kernel ∈ [p.profile.imageKernel, p.profile.validityKernel],
      ∀ tap ∈ kernelTaps mapping kernel p.pixelOffset, tap.weight ≠ 0 →
        p.SampleValid source (p.samplePlace tap)) →
    pixel.validity = p.profile.validityEncoding.validValue

/-- The condition for it: no sample outside the source counts, or it makes no difference. -/
def BordersHold (mapping : ℚ × ℚ) : Prop :=
  p.profile.borderPolicy.invalidates = true ∨
    (AxisMean p.profile.imageKernel (mapping.1 - p.pixelOffset) p.sourceRows ∧
      AxisMean p.profile.imageKernel (mapping.2 - p.pixelOffset) p.sourceCols) ∧
    AxisWhole p.profile.validityKernel (mapping.1 - p.pixelOffset) p.sourceRows ∧
    AxisWhole p.profile.validityKernel (mapping.2 - p.pixelOffset) p.sourceCols

/-- A pixel of the result, from the whole source. -/
def warpedPixel (row col : ℕ) : WarpedPixel :=
  let resolution := p.profile.targetGrid.resolution.getD (0, 0)
  finalizePixel p.profile (warpPixel p.profile (source.block source.whole)
    (p.stripPlan resolution (0, 0)) (p.planPixel resolution row col))

end TransformPlanner

/-- A profile with another support threshold. -/
def PreprocessingProfile.withThreshold (profile : PreprocessingProfile) (threshold : ℚ) :
    PreprocessingProfile := { profile with supportThreshold := threshold }

namespace TransformPlanner

/-- A planner with another support threshold. -/
def withThreshold (p : TransformPlanner) (threshold : ℚ) : TransformPlanner :=
  { p with profile := p.profile.withThreshold threshold }

/-- The threshold plays no part in the making of a planner. -/
theorem new_withThreshold {profile : PreprocessingProfile} {calibration : CalibrationBundle}
    {rows cols : ℕ} {p : TransformPlanner} (created : new profile calibration rows cols = .ok p)
    (threshold : ℚ) :
    new (profile.withThreshold threshold) calibration rows cols =
      .ok (p.withThreshold threshold) := by
  unfold new at created
  split_ifs at created with positive shape transform implemented direction convention
  · cases created
  · cases created
  · cases created
  · cases created
  · cases created
  · obtain ⟨roi, resolved, rest⟩ := bind_eq_ok_iff.mp created
    obtain ⟨affine, matrix, result⟩ := bind_eq_ok_iff.mp rest
    cases result
    have made : new (profile.withThreshold threshold) calibration rows cols =
        (do
          let roi ← resolveRoi profile.sourceRoi rows cols
          let affine ← resolveAffine profile calibration
          .ok ⟨profile.withThreshold threshold, rows, cols, roi.1, affine.1, affine.2, positive.1,
            positive.2, roi.2.1, roi.2.2⟩) := by
      unfold new
      rw [dif_pos positive]
      exact (if_neg shape).trans <| (if_neg transform).trans <| (if_neg implemented).trans <|
        (if_neg direction).trans (if_neg convention)
    rw [made, resolved]
    change (resolveAffine profile calibration >>= _) = _
    rw [matrix]
    rfl
  · cases created

/-- The region of interest of a new planner is that of its profile. -/
theorem roi_of_new {profile : PreprocessingProfile} {calibration : CalibrationBundle}
    {rows cols : ℕ} {p : TransformPlanner} (created : new profile calibration rows cols = .ok p)
    (full : profile.sourceRoi = .full) : p.roi = ⟨0, rows, 0, cols⟩ := by
  unfold new at created
  split_ifs at created
  · cases created
  · cases created
  · cases created
  · cases created
  · cases created
  · obtain ⟨roi, resolved, rest⟩ := bind_eq_ok_iff.mp created
    obtain ⟨affine, -, result⟩ := bind_eq_ok_iff.mp rest
    rw [full] at resolved
    cases resolved
    cases result
    rfl
  · cases created

/-! ## What the warp reads -/

section Reading

variable {p : TransformPlanner} {source : Source} {resolution mapping : ℚ × ℚ}

/-- The image kernel of a mapped pixel, as a product. -/
def imageTaps (p : TransformPlanner) (mapping : ℚ × ℚ) : List ((ℤ × ℤ) × ℚ) :=
  productTaps (axisTaps p.profile.imageKernel (mapping.1 - p.pixelOffset))
    (axisTaps p.profile.imageKernel (mapping.2 - p.pixelOffset))

/-- A sum over the taps of the image kernel. -/
theorem sum_imageTaps (f : ℤ × ℤ → ℚ) :
    ((kernelTaps mapping p.profile.imageKernel p.pixelOffset).map fun tap =>
      f (tap.row, tap.col) * tap.weight).sum = weighted (p.imageTaps mapping) f := by
  rw [imageTaps, ← kernelTaps_product, weighted, List.map_map]
  rfl

theorem sampleSum_eq (f : ℕ × ℕ → ℚ) :
    p.sampleSum source mapping f = weighted (p.imageTaps mapping) fun place =>
      p.validSample source f (foldIndex p.profile.borderPolicy p.sourceRows place.1,
        foldIndex p.profile.borderPolicy p.sourceCols place.2) := by
  rw [← sum_imageTaps]
  rfl

/-- The sum that the warp takes: it leaves out the taps outside the source. -/
def keptSum (p : TransformPlanner) (source : Source) (mapping : ℚ × ℚ) (f : ℕ × ℕ → ℚ) : ℚ :=
  weighted (p.imageTaps mapping) (p.validSample source f)

/-- A tap as the warp prepares it, from the whole source. -/
def prepared (p : TransformPlanner) (source : Source) (resolution : ℚ × ℚ) (tap : Tap) :
    PreparedTap :=
  prepareTap p.profile (p.stripPlan resolution (0, 0)) (source.block source.whole) tap

/-- With the full region of interest, a tap is eligible in the source, where it is read. -/
theorem prepared_reads (full : p.roi = ⟨0, p.sourceRows, 0, p.sourceCols⟩)
    (plans : p.Plans source) (tap : Tap) :
    (p.prepared source resolution tap).eligible =
        decide (Inside p.sourceRows tap.row ∧ Inside p.sourceCols tap.col) ∧
      (Inside p.sourceRows tap.row ∧ Inside p.sourceCols tap.col →
        (source.block source.whole).safeRow (p.prepared source resolution tap) = tap.row.toNat ∧
          (source.block source.whole).safeCol (p.prepared source resolution tap) =
            tap.col.toNat) := by
  have shape : (p.stripPlan resolution (0, 0)).sourceShape = (source.rows, source.cols) :=
    congrArg₂ Prod.mk plans.1 plans.2
  have inside : RoiInside (p.stripPlan resolution (0, 0)) := ⟨p.roi_rows, p.roi_cols⟩
  have roi : (p.stripPlan resolution (0, 0)).sourceRoi = ⟨0, p.sourceRows, 0, p.sourceCols⟩ := full
  by_cases within : Inside p.sourceRows tap.row ∧ Inside p.sourceCols tap.col
  · have inRoi : (p.stripPlan resolution (0, 0)).sourceRoi.Contains tap.row tap.col := by
      rw [roi]
      exact ⟨within.1.1, within.1.2, within.2.1, within.2.2⟩
    obtain ⟨eligible, row, col⟩ := prepareTap_inside p.profile inside inRoi
      (whole_contains shape inside inRoi)
    refine ⟨eligible.trans (decide_eq_true within).symm, fun _ => ⟨?_, ?_⟩⟩
    · exact (Nat.zero_add _).symm.trans row
    · exact (Nat.zero_add _).symm.trans col
  · refine ⟨?_, fun both => absurd both within⟩
    have notRoi : ¬(p.stripPlan resolution (0, 0)).sourceRoi.Contains tap.row tap.col := by
      rw [roi]
      rintro ⟨rowFirst, rowLast, colFirst, colLast⟩
      exact within ⟨⟨rowFirst, rowLast⟩, colFirst, colLast⟩
    rw [prepared, prepareTap_eligible, decide_eq_false notRoi, Bool.and_false, Bool.false_and,
      decide_eq_false within]

/-- A tap is used where the source has a valid sample for it. -/
theorem imageUsable_prepared (full : p.roi = ⟨0, p.sourceRows, 0, p.sourceCols⟩)
    (plans : p.Plans source) (tap : Tap) :
    imageUsable p.profile (source.block source.whole) (p.prepared source resolution tap) =
      decide (p.SampleValid source (tap.row, tap.col)) := by
  obtain ⟨eligible, reads⟩ := @prepared_reads p source resolution full plans tap
  rw [imageUsable, eligible]
  by_cases within : Inside p.sourceRows tap.row ∧ Inside p.sourceCols tap.col
  · obtain ⟨row, col⟩ := reads within
    have valid : sourceValid p.profile (source.block source.whole)
        (p.prepared source resolution tap) =
          decide (source.validity tap.row.toNat tap.col.toNat ≠
            p.profile.validityEncoding.invalidValue) := by
      rw [sourceValid, row, col]
      change decide (source.validity (0 + _) (0 + _) ≠ _) = _
      rw [Nat.zero_add, Nat.zero_add]
    rw [valid, decide_eq_true within, Bool.true_and]
    exact decide_eq_decide.mpr (and_iff_right within).symm
  · rw [decide_eq_false within, Bool.false_and]
    exact (decide_eq_false fun valid => within valid.1).symm

/-- What a used tap reads. -/
theorem read_prepared (full : p.roi = ⟨0, p.sourceRows, 0, p.sourceCols⟩) (plans : p.Plans source)
    (f : ℕ × ℕ → ℚ) (tap : Tap) :
    (if imageUsable p.profile (source.block source.whole) (p.prepared source resolution tap) = true
      then f ((source.block source.whole).safeRow (p.prepared source resolution tap),
        (source.block source.whole).safeCol (p.prepared source resolution tap)) else 0) =
      p.validSample source f (tap.row, tap.col) := by
  rw [imageUsable_prepared full plans]
  by_cases valid : p.SampleValid source (tap.row, tap.col)
  · obtain ⟨row, col⟩ := (@prepared_reads p source resolution full plans tap).2 valid.1
    rw [if_pos (decide_eq_true valid), row, col, validSample, if_pos valid]
  · rw [decide_eq_false valid, if_neg Bool.false_ne_true, validSample, if_neg valid]

/-- **The image of a pixel**: the quotient of the sums that are kept. -/
theorem resampleImage_prepared (full : p.roi = ⟨0, p.sourceRows, 0, p.sourceCols⟩)
    (plans : p.Plans source) :
    resampleImage p.profile (source.block source.whole)
        ((kernelTaps mapping p.profile.imageKernel p.pixelOffset).map
          (p.prepared source resolution)) =
      (List.ofFn fun channel =>
          if |p.keptSum source mapping fun _ => 1| > p.profile.precision.eps then
            p.keptSum source mapping (fun place => source.image place.1 place.2 channel) /
              p.keptSum source mapping fun _ => 1
          else 0,
        decide (|p.keptSum source mapping fun _ => 1| > p.profile.precision.eps)) := by
  have kept (f : ℕ × ℕ → ℚ) :
      (((kernelTaps mapping p.profile.imageKernel p.pixelOffset).map
        (p.prepared source resolution)).map fun tap =>
          (if imageUsable p.profile (source.block source.whole) tap = true then
            f ((source.block source.whole).safeRow tap, (source.block source.whole).safeCol tap)
          else 0) * tap.weight).sum = p.keptSum source mapping f := by
    rw [List.map_map, keptSum, ← sum_imageTaps]
    refine congrArg List.sum (List.map_congr_left fun tap _ => ?_)
    exact congrArg (· * tap.weight) (read_prepared full plans f tap)
  have denominator :
      (((kernelTaps mapping p.profile.imageKernel p.pixelOffset).map
        (p.prepared source resolution)).map fun tap =>
          if imageUsable p.profile (source.block source.whole) tap = true then tap.weight
          else 0).sum = p.keptSum source mapping fun _ => 1 := by
    rw [← kept fun _ => 1]
    refine congrArg List.sum (List.map_congr_left fun tap _ => ?_)
    rw [ite_mul, one_mul, zero_mul]
  have result (channel : Fin source.channels) :
      (((kernelTaps mapping p.profile.imageKernel p.pixelOffset).map
        (p.prepared source resolution)).map fun tap =>
          (if imageUsable p.profile (source.block source.whole) tap = true then
            (source.block source.whole).image ((source.block source.whole).safeRow tap)
              ((source.block source.whole).safeCol tap) channel
          else 0) * tap.weight).sum =
        p.keptSum source mapping fun place => source.image place.1 place.2 channel := by
    rw [← kept fun place => source.image place.1 place.2 channel]
    refine congrArg List.sum (List.map_congr_left fun tap _ => ?_)
    change (if _ then source.image (0 + _) (0 + _) channel else 0) * _ = _
    rw [Nat.zero_add, Nat.zero_add]
  unfold resampleImage
  simp only [denominator, result, decide_eq_true_eq]

/-- The weights of a kernel add up to one. -/
theorem sum_kernelTaps (mapping : ℚ × ℚ) (kernel : ResampleKernel) (pixelOffset : ℚ) :
    ((kernelTaps mapping kernel pixelOffset).map Tap.weight).sum = 1 := by
  have product := weighted_product_mul (axisTaps kernel (mapping.1 - pixelOffset))
    (axisTaps kernel (mapping.2 - pixelOffset)) (fun _ => 1) fun _ => 1
  rw [weighted_axisTaps_one, weighted_axisTaps_one, ← kernelTaps_product, weighted,
    List.map_map] at product
  simpa [Function.comp_def] using product

/-- The weights of a kernel do not all vanish. -/
theorem sum_abs_kernelTaps_pos (mapping : ℚ × ℚ) (kernel : ResampleKernel) (pixelOffset : ℚ) :
    0 < ((kernelTaps mapping kernel pixelOffset).map fun tap => |tap.weight|).sum := by
  have bound : ((kernelTaps mapping kernel pixelOffset).map Tap.weight).sum ≤
      ((kernelTaps mapping kernel pixelOffset).map fun tap => |tap.weight|).sum :=
    List.sum_le_sum fun tap _ => le_abs_self tap.weight
  rw [sum_kernelTaps] at bound
  exact lt_of_lt_of_le one_pos bound

/-- The support of a pixel: the share of its weights whose taps have a valid sample. -/
theorem resampleValidity_prepared (full : p.roi = ⟨0, p.sourceRows, 0, p.sourceCols⟩)
    (plans : p.Plans source) (kernel : ResampleKernel) :
    (resampleValidity p.profile (source.block source.whole)
      ((kernelTaps mapping kernel p.pixelOffset).map (p.prepared source resolution))).1 =
      ((kernelTaps mapping kernel p.pixelOffset).map fun tap =>
          if p.SampleValid source (tap.row, tap.col) then |tap.weight| else 0).sum /
        ((kernelTaps mapping kernel p.pixelOffset).map fun tap => |tap.weight|).sum := by
  have supported :
      (((kernelTaps mapping kernel p.pixelOffset).map (p.prepared source resolution)).map fun tap =>
          if imageUsable p.profile (source.block source.whole) tap = true then |tap.weight|
          else 0) =
        (kernelTaps mapping kernel p.pixelOffset).map fun tap =>
          if p.SampleValid source (tap.row, tap.col) then |tap.weight| else 0 := by
    rw [List.map_map]
    refine List.map_congr_left fun tap _ => ?_
    change (if imageUsable p.profile (source.block source.whole)
      (p.prepared source resolution tap) = true then |tap.weight| else 0) = _
    rw [imageUsable_prepared full plans]
    simp only [decide_eq_true_eq]
  have total :
      (((kernelTaps mapping kernel p.pixelOffset).map (p.prepared source resolution)).map fun tap =>
          |tap.weight|) =
        (kernelTaps mapping kernel p.pixelOffset).map fun tap => |tap.weight| := by
    rw [List.map_map]
    rfl
  unfold resampleValidity
  rw [total]
  refine (if_pos (sum_abs_kernelTaps_pos mapping kernel p.pixelOffset)).trans ?_
  exact congrArg (fun sums : List ℚ => sums.sum / _) supported

/-- The support is whole, where every tap that counts has a valid sample. -/
theorem support_eq_one (full : p.roi = ⟨0, p.sourceRows, 0, p.sourceCols⟩)
    (plans : p.Plans source) {kernel : ResampleKernel}
    (valid : ∀ tap ∈ kernelTaps mapping kernel p.pixelOffset, tap.weight ≠ 0 →
      p.SampleValid source (tap.row, tap.col)) :
    (resampleValidity p.profile (source.block source.whole)
      ((kernelTaps mapping kernel p.pixelOffset).map (p.prepared source resolution))).1 = 1 := by
  have supported : ((kernelTaps mapping kernel p.pixelOffset).map fun tap =>
        if p.SampleValid source (tap.row, tap.col) then |tap.weight| else 0) =
      (kernelTaps mapping kernel p.pixelOffset).map fun tap => |tap.weight| := by
    refine List.map_congr_left fun tap mem => ?_
    by_cases counts : tap.weight = 0
    · rw [counts, abs_zero, ite_self]
    · rw [if_pos (valid tap mem counts)]
  rw [resampleValidity_prepared full plans, supported]
  exact div_self (sum_abs_kernelTaps_pos mapping kernel p.pixelOffset).ne'

/-- It is not, where a tap that counts has none. -/
theorem support_lt_one (full : p.roi = ⟨0, p.sourceRows, 0, p.sourceCols⟩)
    (plans : p.Plans source) {kernel : ResampleKernel} {tap : Tap}
    (mem : tap ∈ kernelTaps mapping kernel p.pixelOffset) (counts : tap.weight ≠ 0)
    (missing : ¬p.SampleValid source (tap.row, tap.col)) :
    (resampleValidity p.profile (source.block source.whole)
      ((kernelTaps mapping kernel p.pixelOffset).map (p.prepared source resolution))).1 < 1 := by
  rw [resampleValidity_prepared full plans,
    div_lt_one (sum_abs_kernelTaps_pos mapping kernel p.pixelOffset)]
  refine List.sum_lt_sum _ _ (fun other _ => ?_) ⟨tap, mem, ?_⟩
  · split
    · exact le_rfl
    · exact abs_nonneg _
  · rw [if_neg missing]
    exact abs_pos.mpr counts

end Reading

/-! ## The pixel -/

section Pixel

variable {p : TransformPlanner} {source : Source} {row col : ℕ}

/-- The mapping of a target pixel. -/
def mappingOf (p : TransformPlanner) (row col : ℕ) : ℚ × ℚ :=
  p.mappingYx (p.profile.targetGrid.resolution.getD (0, 0)) row col

/-- Where a target pixel maps into the source. -/
def MapsInside (p : TransformPlanner) (row col : ℕ) : Prop :=
  p.outside (p.mappingOf row col) ⟨0, p.sourceRows, 0, p.sourceCols⟩ = false

instance (p : TransformPlanner) (row col : ℕ) : Decidable (p.MapsInside row col) :=
  inferInstanceAs (Decidable (_ = false))

/-- A mapping inside the source lies between its first and its last samples. -/
theorem MapsInside.bounds (inside : p.MapsInside row col) :
    (0 ≤ (p.mappingOf row col).1 - p.pixelOffset ∧
      (p.mappingOf row col).1 - p.pixelOffset ≤ p.sourceRows - 1) ∧
      0 ≤ (p.mappingOf row col).2 - p.pixelOffset ∧
      (p.mappingOf row col).2 - p.pixelOffset ≤ p.sourceCols - 1 := by
  unfold MapsInside outside at inside
  simp only [Bool.or_eq_false_iff, decide_eq_false_iff_not, not_lt, Nat.cast_zero,
    zero_add] at inside
  obtain ⟨⟨⟨rowFirst, rowLast⟩, colFirst⟩, colLast⟩ := inside
  exact ⟨⟨by linarith, by linarith⟩, by linarith, by linarith⟩

theorem finalValidity_withReason (profile : PreprocessingProfile) (name : String)
    (mask : PixelDraft → Bool) (pixel : PixelDraft) :
    finalValidity profile (withReason profile name mask pixel) = finalValidity profile pixel := by
  unfold withReason
  split <;> rfl

theorem image_withReason (profile : PreprocessingProfile) (name : String)
    (mask : PixelDraft → Bool) (pixel : PixelDraft) :
    (withReason profile name mask pixel).image = pixel.image := by
  unfold withReason
  split <;> rfl

/-- The prepared taps of a kernel. -/
def preparedTaps (p : TransformPlanner) (source : Source) (row col : ℕ) (kernel : ResampleKernel) :
    List PreparedTap :=
  (kernelTaps (p.mappingOf row col) kernel p.pixelOffset).map
    (p.prepared source (p.profile.targetGrid.resolution.getD (0, 0)))

/-- The image of a pixel of the result. -/
theorem warpedPixel_image :
    (p.warpedPixel source row col).image =
      (resampleImage p.profile (source.block source.whole)
        (p.preparedTaps source row col p.profile.imageKernel)).1 := by
  unfold warpedPixel finalizePixel finalPixel
  dsimp only
  rw [image_withReason, image_withReason, image_withReason]
  rfl

/-- The validity of a pixel of the result that maps inside the source, where the border has
samples. -/
theorem warpedPixel_validity (full : p.roi = ⟨0, p.sourceRows, 0, p.sourceCols⟩)
    (inside : p.MapsInside row col) (folds : p.profile.borderPolicy.invalidates = false) :
    (p.warpedPixel source row col).validity =
      if (resampleValidity p.profile (source.block source.whole)
            (p.preparedTaps source row col p.profile.validityKernel)).1 <
            p.profile.supportThreshold ∨
          (resampleImage p.profile (source.block source.whole)
            (p.preparedTaps source row col p.profile.imageKernel)).2 = false then
        p.profile.validityEncoding.invalidValue
      else p.profile.validityEncoding.validValue := by
  have outsideRoi : (p.planPixel (p.profile.targetGrid.resolution.getD (0, 0)) row col).outsideRoi =
      false := by
    change p.outside _ p.roi = false
    rw [full]
    exact inside
  unfold warpedPixel finalizePixel finalPixel
  dsimp only
  rw [finalValidity_withReason, finalValidity_withReason, finalValidity_withReason]
  unfold finalValidity warpPixel
  simp only [outsideRoi, folds, Bool.false_and, Bool.or_false]
  refine if_congr ?_ rfl rfl
  rw [← Bool.or_assoc, Bool.or_self, Bool.or_eq_true, decide_eq_true_eq, Bool.not_eq_true']
  rfl

/-- Whether the image of a pixel has support. -/
theorem hasSupport_eq (full : p.roi = ⟨0, p.sourceRows, 0, p.sourceCols⟩)
    (plans : p.Plans source) :
    (resampleImage p.profile (source.block source.whole)
      (p.preparedTaps source row col p.profile.imageKernel)).2 =
        decide (|p.keptSum source (p.mappingOf row col) fun _ => 1| > p.profile.precision.eps) := by
  rw [preparedTaps, resampleImage_prepared full plans]

/-- Along whole axes, the taps of a kernel that count are in the source. -/
theorem inside_of_whole {kernel : ResampleKernel} {mapping : ℚ × ℚ} {offset : ℚ} {rows cols : ℕ}
    (first : 0 ≤ mapping.1 - offset ∧ mapping.1 - offset ≤ rows - 1)
    (second : 0 ≤ mapping.2 - offset ∧ mapping.2 - offset ≤ cols - 1)
    (whole : AxisWhole kernel (mapping.1 - offset) rows)
    (whole' : AxisWhole kernel (mapping.2 - offset) cols) {tap : Tap}
    (mem : tap ∈ kernelTaps mapping kernel offset) (counts : tap.weight ≠ 0) :
    Inside rows tap.row ∧ Inside cols tap.col := by
  have product := List.mem_map_of_mem mem (f := fun tap => ((tap.row, tap.col), tap.weight))
  rw [kernelTaps_product, productTaps, List.mem_flatMap] at product
  obtain ⟨⟨i, w⟩, memRow, product⟩ := product
  obtain ⟨⟨j, w'⟩, memCol, same⟩ := List.mem_map.mp product
  have places := Prod.mk.inj (Prod.mk.inj same).1
  have weights : w * w' = tap.weight := (Prod.mk.inj same).2
  rw [← places.1, ← places.2]
  refine ⟨whole.inside first.1 first.2 _ memRow fun zero => counts ?_,
    whole'.inside second.1 second.2 _ memCol fun zero => counts ?_⟩
  · rw [← weights, show w = 0 from zero, zero_mul]
  · rw [← weights, show w' = 0 from zero, mul_zero]

theorem eps_lt_one (precision : NumericPrecision) : precision.eps < 1 := by
  cases precision <;> norm_num [NumericPrecision.eps]

/-- **The condition is enough.**  Whatever the source, the sums that the warp keeps are those of
all valid samples, in proportion. -/
theorem sampledRight_of_bordersHold (full : p.roi = ⟨0, p.sourceRows, 0, p.sourceCols⟩)
    (plans : p.Plans source) (inside : p.MapsInside row col)
    (threshold : p.profile.supportThreshold ≤ 1) (hold : p.BordersHold (p.mappingOf row col)) :
    p.SampledRight source (p.mappingOf row col) (p.warpedPixel source row col) := by
  obtain ⟨⟨rowFirst, rowLast⟩, colFirst, colLast⟩ := inside.bounds
  obtain ⟨ratio, positive, small, sums⟩ : ∃ ratio : ℚ, 0 < ratio ∧ ratio ≤ 1 ∧
      ∀ f, p.sampleSum source (p.mappingOf row col) f =
        ratio * p.keptSum source (p.mappingOf row col) f := by
    by_cases folds : p.profile.borderPolicy.invalidates = true
    · refine ⟨1, one_pos, le_rfl, fun f => ?_⟩
      rw [one_mul, sampleSum_eq, keptSum]
      cases policy : p.profile.borderPolicy with
      | invalid => rfl
      | constant => rfl
      | edge => rw [policy] at folds; cases folds
      | reflect => rw [policy] at folds; cases folds
    · have folds := Bool.eq_false_iff.mpr folds
      obtain ⟨⟨rowMean, colMean⟩, -⟩ := hold.resolve_left (by rw [folds]; exact Bool.false_ne_true)
      obtain ⟨ratio, positive, small, scaled⟩ := rowMean.scaled folds rowFirst rowLast
      obtain ⟨ratio', positive', small', scaled'⟩ := colMean.scaled folds colFirst colLast
      refine ⟨ratio * ratio', mul_pos positive positive', mul_le_one₀ small positive'.le small',
        fun f => ?_⟩
      rw [sampleSum_eq, imageTaps, weighted_product_scaled scaled scaled']
      refine congrArg (ratio * ratio' * ·) ?_
      refine congrArg (weighted _) (funext fun place => ?_)
      by_cases within : Inside p.sourceRows place.1 ∧ Inside p.sourceCols place.2
      · rw [if_pos within]
      · rw [if_neg within, validSample, if_neg fun valid => within valid.1]
  have kept {bound : ℚ} (enough : bound < |p.sampleSum source (p.mappingOf row col) fun _ => 1|) :
      bound < |p.keptSum source (p.mappingOf row col) fun _ => 1| := by
    rw [sums, abs_mul, abs_of_pos positive] at enough
    exact lt_of_lt_of_le enough (mul_le_of_le_one_left (abs_nonneg _) small)
  constructor
  · intro enough
    rw [warpedPixel_image, preparedTaps, resampleImage_prepared full plans]
    refine congrArg List.ofFn (funext fun channel => ?_)
    rw [if_pos (kept enough), sums, sums, mul_div_mul_left _ _ positive.ne']
  · intro folds valid
    obtain ⟨-, rowWhole, colWhole⟩ :=
      hold.resolve_left (by rw [folds]; exact Bool.false_ne_true)
    have image : (p.sampleSum source (p.mappingOf row col) fun _ => 1) = 1 := by
      refine Eq.trans ?_
        (sum_kernelTaps (p.mappingOf row col) p.profile.imageKernel p.pixelOffset)
      refine congrArg List.sum (List.map_congr_left fun tap mem => ?_)
      by_cases counts : tap.weight = 0
      · rw [counts, mul_zero]
      · rw [validSample, if_pos (valid _ (by simp) tap mem counts), one_mul]
    have supported : p.profile.precision.eps <
        |p.keptSum source (p.mappingOf row col) fun _ => 1| := by
      refine kept ?_
      rw [image, abs_one]
      exact eps_lt_one _
    have whole : (resampleValidity p.profile (source.block source.whole)
        (p.preparedTaps source row col p.profile.validityKernel)).1 = 1 := by
      refine support_eq_one full plans fun tap mem counts => ?_
      obtain ⟨inRow, inCol⟩ :=
        inside_of_whole ⟨rowFirst, rowLast⟩ ⟨colFirst, colLast⟩ rowWhole colWhole mem counts
      have place : p.samplePlace tap = (tap.row, tap.col) :=
        congrArg₂ Prod.mk (foldIndex_of_inside _ inRow) (foldIndex_of_inside _ inCol)
      exact place ▸ valid _ (by simp) tap mem counts
    rw [warpedPixel_validity full inside folds, whole, hasSupport_eq full plans, if_neg]
    rintro (low | unsupported)
    · exact absurd low (not_lt.mpr threshold)
    · exact absurd supported (of_decide_eq_false unsupported)

/-- A source of one channel all of whose samples are valid. -/
def validSource (p : TransformPlanner) (image : ℕ → ℕ → ℚ) : Source where
  rows := p.sourceRows
  cols := p.sourceCols
  channels := 1
  image := fun row col _ => image row col
  validity := fun _ _ => p.profile.validityEncoding.validValue
  reason := fun _ _ => 0

theorem sampleValid_validSource {image : ℕ → ℕ → ℚ} {place : ℤ × ℤ} :
    p.SampleValid (p.validSource image) place ↔
      Inside p.sourceRows place.1 ∧ Inside p.sourceCols place.2 :=
  and_iff_left p.profile.validityEncoding.differ

/-- The sums over a source that varies along its rows alone, and over one along its columns. -/
theorem keptSum_validSource {image : ℕ → ℕ → ℚ} (g h : ℤ → ℚ) (mapping : ℚ × ℚ)
    (f : ℕ × ℕ → ℚ) (split : ∀ i j : ℤ, 0 ≤ i → 0 ≤ j → f (i.toNat, j.toNat) = g i * h j) :
    p.keptSum (p.validSource image) mapping f =
      weighted (axisTaps p.profile.imageKernel (mapping.1 - p.pixelOffset))
          (fun i => if Inside p.sourceRows i then g i else 0) *
        weighted (axisTaps p.profile.imageKernel (mapping.2 - p.pixelOffset))
          fun j => if Inside p.sourceCols j then h j else 0 := by
  rw [keptSum, imageTaps, ← weighted_product_mul]
  refine congrArg (weighted _) (funext fun place => ?_)
  unfold validSample
  by_cases inRow : Inside p.sourceRows place.1
  · by_cases inCol : Inside p.sourceCols place.2
    · rw [if_pos (sampleValid_validSource.mpr ⟨inRow, inCol⟩), if_pos inRow, if_pos inCol,
        split _ _ inRow.1 inCol.1]
    · rw [if_neg fun valid => inCol (sampleValid_validSource.mp valid).2, if_neg inCol, mul_zero]
  · rw [if_neg fun valid => inRow (sampleValid_validSource.mp valid).1, if_neg inRow, zero_mul]

theorem sampleSum_validSource {image : ℕ → ℕ → ℚ} (g h : ℤ → ℚ) (mapping : ℚ × ℚ)
    (folds : p.profile.borderPolicy.invalidates = false)
    (f : ℕ × ℕ → ℚ) (split : ∀ i j : ℤ, 0 ≤ i → 0 ≤ j → f (i.toNat, j.toNat) = g i * h j) :
    p.sampleSum (p.validSource image) mapping f =
      weighted (axisTaps p.profile.imageKernel (mapping.1 - p.pixelOffset))
          (fun i => g (foldIndex p.profile.borderPolicy p.sourceRows i)) *
        weighted (axisTaps p.profile.imageKernel (mapping.2 - p.pixelOffset))
          fun j => h (foldIndex p.profile.borderPolicy p.sourceCols j) := by
  rw [sampleSum_eq, imageTaps, ← weighted_product_mul]
  refine congrArg (weighted _) (funext fun place => ?_)
  have inRow := inside_foldIndex folds p.sourceRows_pos place.1
  have inCol := inside_foldIndex folds p.sourceCols_pos place.2
  unfold validSample
  rw [if_pos (sampleValid_validSource.mpr ⟨inRow, inCol⟩), split _ _ inRow.1 inCol.1]

/-- What is expected of a pixel whose samples are all valid, in terms of the sums. -/
theorem quotient_of_right (full : p.roi = ⟨0, p.sourceRows, 0, p.sourceCols⟩)
    {image : ℕ → ℕ → ℚ}
    (right : p.SampledRight (p.validSource image) (p.mappingOf row col)
      (p.warpedPixel (p.validSource image) row col))
    (folds : p.profile.borderPolicy.invalidates = false) :
    p.sampleSum (p.validSource image) (p.mappingOf row col) (fun place => image place.1 place.2) =
      if |p.keptSum (p.validSource image) (p.mappingOf row col) fun _ => 1| >
          p.profile.precision.eps then
        p.keptSum (p.validSource image) (p.mappingOf row col)
            (fun place => image place.1 place.2) /
          p.keptSum (p.validSource image) (p.mappingOf row col) fun _ => 1
      else 0 := by
  have total : (p.sampleSum (p.validSource image) (p.mappingOf row col) fun _ => 1) = 1 := by
    rw [sampleSum_validSource (fun _ => 1) (fun _ => 1) _ folds _ fun _ _ _ _ => (mul_one 1).symm,
      weighted_axisTaps_one, weighted_axisTaps_one, mul_one]
  have mean := right.mean (by rw [total, abs_one]; exact eps_lt_one _)
  rw [warpedPixel_image, preparedTaps, resampleImage_prepared full ⟨rfl, rfl⟩, total] at mean
  have channel := congrFun (List.ofFn_injective mean) (⟨0, Nat.one_pos⟩ : Fin 1)
  rw [div_one] at channel
  exact channel.symm

/-- **The condition is needed** for the images of sources whose samples are all valid. -/
theorem axisMean_of_right (full : p.roi = ⟨0, p.sourceRows, 0, p.sourceCols⟩)
    (inside : p.MapsInside row col) (folds : p.profile.borderPolicy.invalidates = false)
    (right : ∀ image, p.SampledRight (p.validSource image) (p.mappingOf row col)
      (p.warpedPixel (p.validSource image) row col)) :
    AxisMean p.profile.imageKernel ((p.mappingOf row col).1 - p.pixelOffset) p.sourceRows ∧
      AxisMean p.profile.imageKernel ((p.mappingOf row col).2 - p.pixelOffset) p.sourceCols := by
  obtain ⟨⟨rowFirst, rowLast⟩, colFirst, colLast⟩ := inside.bounds
  have quotient (image : ℕ → ℕ → ℚ) := quotient_of_right full (right image) folds
  have one (image : ℕ → ℕ → ℚ) := @keptSum_validSource p image (fun _ => 1) (fun _ => 1)
    (p.mappingOf row col) (fun _ => 1) fun _ _ _ _ => (mul_one 1).symm
  have enough : p.profile.precision.eps < |p.keptSum (p.validSource fun _ _ => 1)
      (p.mappingOf row col) fun _ => 1| := by
    by_contra few
    have all := quotient fun _ _ => 1
    rw [if_neg few, sampleSum_validSource (fun _ => 1) (fun _ => 1) _ folds _
      fun _ _ _ _ => (mul_one 1).symm, weighted_axisTaps_one, weighted_axisTaps_one] at all
    norm_num at all
  rw [one] at enough
  have nonzero := abs_pos.mp (lt_trans (by cases p.profile.precision <;>
    norm_num [NumericPrecision.eps]) enough)
  have rowNonzero := left_ne_zero_of_mul nonzero
  have colNonzero := right_ne_zero_of_mul nonzero
  refine ⟨axisMean_of_means rowFirst rowLast folds fun f => ?_,
    axisMean_of_means colFirst colLast folds fun f => ?_⟩
  · have mean := quotient fun i _ => f i
    have split (i j : ℤ) (first : 0 ≤ i) (_ : 0 ≤ j) : f (i.toNat : ℤ) = f i * 1 := by
      rw [Int.toNat_of_nonneg first, mul_one]
    rw [one, if_pos enough, sampleSum_validSource f (fun _ => 1) _ folds _ split,
      keptSum_validSource f (fun _ => 1) _ _ split, weighted_axisTaps_one, mul_one,
      mul_div_mul_right _ _ colNonzero] at mean
    rw [mean, div_mul_cancel₀ _ rowNonzero]
  · have mean := quotient fun _ j => f j
    have split (i j : ℤ) (_ : 0 ≤ i) (first : 0 ≤ j) : f (j.toNat : ℤ) = 1 * f j := by
      rw [Int.toNat_of_nonneg first, one_mul]
    rw [one, if_pos enough, sampleSum_validSource (fun _ => 1) f _ folds _ split,
      keptSum_validSource (fun _ => 1) f _ _ split, weighted_axisTaps_one, one_mul,
      mul_div_mul_left _ _ rowNonzero] at mean
    rw [mean, div_mul_cancel₀ _ colNonzero]

/-- Some tap of a kernel of an axis counts. -/
theorem exists_counts (kernel : ResampleKernel) (c : ℚ) : ∃ tap ∈ axisTaps kernel c, tap.2 ≠ 0 := by
  by_contra none
  push Not at none
  have zero : weighted (axisTaps kernel c) (fun _ => 1) = weighted (axisTaps kernel c) fun _ => 0 :=
    weighted_congr fun tap mem counts => absurd (none tap mem) counts
  rw [weighted_axisTaps_one] at zero
  have nothing := weighted_mul_left (axisTaps kernel c) (fun _ => (1 : ℚ)) 0
  simp only [zero_mul] at nothing
  rw [nothing] at zero
  exact one_ne_zero zero

/-- The tap of a kernel at two taps of its axes. -/
theorem exists_tap {kernel : ResampleKernel} {mapping : ℚ × ℚ} {offset : ℚ} {tapRow tapCol : ℤ × ℚ}
    (memRow : tapRow ∈ axisTaps kernel (mapping.1 - offset))
    (memCol : tapCol ∈ axisTaps kernel (mapping.2 - offset)) :
    ∃ tap ∈ kernelTaps mapping kernel offset,
      tap.row = tapRow.1 ∧ tap.col = tapCol.1 ∧ tap.weight = tapRow.2 * tapCol.2 := by
  have product : ((tapRow.1, tapCol.1), tapRow.2 * tapCol.2) ∈
      productTaps (axisTaps kernel (mapping.1 - offset)) (axisTaps kernel (mapping.2 - offset)) :=
    List.mem_flatMap.mpr ⟨tapRow, memRow, List.mem_map.mpr ⟨tapCol, memCol, rfl⟩⟩
  rw [← kernelTaps_product] at product
  obtain ⟨tap, mem, same⟩ := List.mem_map.mp product
  have places := Prod.mk.inj (Prod.mk.inj same).1
  exact ⟨tap, mem, places.1, places.2, (Prod.mk.inj same).2⟩

/-- **The condition is needed** for the validity, under the highest threshold. -/
theorem axisWhole_of_right (full : p.roi = ⟨0, p.sourceRows, 0, p.sourceCols⟩)
    (inside : p.MapsInside row col) (folds : p.profile.borderPolicy.invalidates = false)
    (threshold : p.profile.supportThreshold = 1) {image : ℕ → ℕ → ℚ}
    (right : p.SampledRight (p.validSource image) (p.mappingOf row col)
      (p.warpedPixel (p.validSource image) row col)) :
    AxisWhole p.profile.validityKernel ((p.mappingOf row col).1 - p.pixelOffset) p.sourceRows ∧
      AxisWhole p.profile.validityKernel ((p.mappingOf row col).2 - p.pixelOffset)
        p.sourceCols := by
  obtain ⟨⟨rowFirst, -⟩, colFirst, -⟩ := inside.bounds
  have valid := right.valid folds fun kernel _ tap _ _ => sampleValid_validSource.mpr
    ⟨inside_foldIndex folds p.sourceRows_pos tap.row,
      inside_foldIndex folds p.sourceCols_pos tap.col⟩
  rw [warpedPixel_validity full inside folds, threshold] at valid
  have missed (tap : Tap)
      (mem : tap ∈ kernelTaps (p.mappingOf row col) p.profile.validityKernel p.pixelOffset)
      (counts : tap.weight ≠ 0)
      (outside : ¬(Inside p.sourceRows tap.row ∧ Inside p.sourceCols tap.col)) : False := by
    have low := @support_lt_one p (p.validSource image)
      (p.profile.targetGrid.resolution.getD (0, 0)) _ full ⟨rfl, rfl⟩ _ _ mem counts
      fun within => outside (sampleValid_validSource.mp within)
    rw [if_pos (.inl low)] at valid
    exact p.profile.validityEncoding.differ valid.symm
  constructor
  · by_contra notWhole
    obtain ⟨tapRow, memRow, counts, outside⟩ := exists_outside rowFirst notWhole
    obtain ⟨tapCol, memCol, counts'⟩ :=
      exists_counts p.profile.validityKernel ((p.mappingOf row col).2 - p.pixelOffset)
    obtain ⟨tap, mem, atRow, -, weight⟩ := exists_tap memRow memCol
    exact missed tap mem (weight ▸ mul_ne_zero counts counts') fun both => outside (atRow ▸ both.1)
  · by_contra notWhole
    obtain ⟨tapCol, memCol, counts, outside⟩ := exists_outside colFirst notWhole
    obtain ⟨tapRow, memRow, counts'⟩ :=
      exists_counts p.profile.validityKernel ((p.mappingOf row col).1 - p.pixelOffset)
    obtain ⟨tap, mem, -, atCol, weight⟩ := exists_tap memRow memCol
    exact missed tap mem (weight ▸ mul_ne_zero counts' counts) fun both => outside (atCol ▸ both.2)

/-- A pixel of a run. -/
theorem getElem?_of_warpStrips (plans : p.Plans source) {stripRows : ℕ+}
    {out : List (List WarpedPixel)} (returned : p.warpStrips source stripRows = .ok out)
    (rowLt : row < p.profile.targetGrid.rows) (colLt : col < p.profile.targetGrid.cols) :
    (out[row]?.bind fun pixels => pixels[col]?) = some (p.warpedPixel source row col) := by
  obtain ⟨-, rfl⟩ := (warpStrips_eq_ok_iff plans stripRows out).mp returned
  rw [List.getElem?_map, List.getElem?_range' rowLt, Nat.zero_add, Nat.one_mul]
  change ((List.range p.profile.targetGrid.cols).map _)[col]? = _
  rw [List.getElem?_map, List.getElem?_range colLt]
  rfl

end Pixel

end TransformPlanner

open TransformPlanner

/-- **Samples at the border.**  Take a profile whose region of interest is the whole source, and a
target pixel that maps inside a source.  Whatever the support threshold and the samples of the
source, a run returns the pixel that the warp makes of the whole source; and that pixel is as
expected, for every threshold and every source, exactly when the border policy gives no sample to a
tap outside the source, or no such tap makes a difference. -/
theorem warp_samples {profile : PreprocessingProfile} {calibration : CalibrationBundle}
    {rows cols row col : ℕ} {p : TransformPlanner}
    (created : TransformPlanner.new profile calibration rows cols = .ok p)
    (full : profile.sourceRoi = .full) (rowLt : row < profile.targetGrid.rows)
    (colLt : col < profile.targetGrid.cols) (inside : p.MapsInside row col) :
    (∀ (threshold : ℚ) (source : Source) (stripRows : ℕ+) (out : List (List WarpedPixel)),
      source.rows = rows → source.cols = cols →
      preprocessStrips (profile.withThreshold threshold) calibration source stripRows = .ok out →
        (out[row]?.bind fun pixels => pixels[col]?) =
          some ((p.withThreshold threshold).warpedPixel source row col)) ∧
      ((∀ threshold : ℚ, 0 ≤ threshold → threshold ≤ 1 → ∀ source : Source,
        source.rows = rows → source.cols = cols →
          (p.withThreshold threshold).SampledRight source (p.mappingOf row col)
            ((p.withThreshold threshold).warpedPixel source row col)) ↔
        p.BordersHold (p.mappingOf row col)) := by
  obtain ⟨rfl, rfl, rfl⟩ := of_new_eq_ok created
  have roi := roi_of_new created full
  refine ⟨fun threshold source stripRows out sameRows sameCols returned => ?_,
    fun right => ?_, fun hold threshold _ low source sameRows sameCols => ?_⟩
  · have plans : (p.withThreshold threshold).Plans source := ⟨sameRows.symm, sameCols.symm⟩
    unfold preprocessStrips at returned
    rw [sameRows, sameCols, new_withThreshold created] at returned
    exact getElem?_of_warpStrips plans returned rowLt colLt
  · refine or_iff_not_imp_left.mpr fun notInvalidates => ?_
    have folds := Bool.eq_false_iff.mpr notInvalidates
    have highest (image : ℕ → ℕ → ℚ) := right 1 zero_le_one le_rfl (p.validSource image) rfl rfl
    exact ⟨@axisMean_of_right (p.withThreshold 1) row col roi inside folds highest,
      @axisWhole_of_right (p.withThreshold 1) row col roi inside folds rfl (fun _ _ => 0)
        (highest fun _ _ => 0)⟩
  · exact @sampledRight_of_bordersHold (p.withThreshold threshold) source row col roi
      ⟨sameRows.symm, sameCols.symm⟩ inside low hold

/-! ## A bicubic pixel near a corner -/

/-- A profile with one target pixel, halfway between the first two samples of both axes. -/
def cubicEdgeProfile : PreprocessingProfile where
  schemaShape := none
  transformDirection := .modelToSource
  transformType := .identity
  pixelConvention := .corner
  targetGrid := ⟨1, 1, (1 / 2, 1 / 2), some (1, 1)⟩
  sourceRoi := .full
  haloRows := 0
  haloCols := 0
  borderPolicy := .edge
  imageKernel := .bicubic
  validityKernel := .bicubic
  reasonKernel := .nearest
  supportThreshold := 1
  precision := .float64
  validityEncoding := ⟨1, 0, by decide⟩
  reasonBits := [("border", 8), ("insufficient_support", 16)]

/-- A calibration for it. -/
def cubicEdgeCalibration : CalibrationBundle := ⟨.identity, .modelToSource, .corner, none, none⟩

/-- Its planner, for a source of four rows and columns. -/
def cubicEdgePlanner : TransformPlanner where
  profile := cubicEdgeProfile
  sourceRows := 4
  sourceCols := 4
  roi := ⟨0, 4, 0, 4⟩
  matrix := ((1, 0), (0, 1))
  offset := (0, 0)
  sourceRows_pos := by decide
  sourceCols_pos := by decide
  roi_rows := le_rfl
  roi_cols := le_rfl

/-- The planner of a concrete profile. -/
theorem warp_samples_sample :
    (∀ (threshold : ℚ) (source : Source) (stripRows : ℕ+) (out : List (List WarpedPixel)),
      source.rows = 4 → source.cols = 4 →
      preprocessStrips (cubicEdgeProfile.withThreshold threshold) cubicEdgeCalibration source
          stripRows = .ok out →
        (out[0]?.bind fun pixels => pixels[0]?) =
          some ((cubicEdgePlanner.withThreshold threshold).warpedPixel source 0 0)) ∧
      ((∀ threshold : ℚ, 0 ≤ threshold → threshold ≤ 1 → ∀ source : Source,
        source.rows = 4 → source.cols = 4 →
          (cubicEdgePlanner.withThreshold threshold).SampledRight source
            (cubicEdgePlanner.mappingOf 0 0)
            ((cubicEdgePlanner.withThreshold threshold).warpedPixel source 0 0)) ↔
        cubicEdgePlanner.BordersHold (cubicEdgePlanner.mappingOf 0 0)) :=
  @warp_samples cubicEdgeProfile cubicEdgeCalibration 4 4 0 0 cubicEdgePlanner rfl rfl
    (by decide) (by decide) (by decide +kernel)

/-- All its samples are valid, the pixel is not. -/
theorem warp_not_samples :
    ¬∀ (profile : PreprocessingProfile) (calibration : CalibrationBundle) (source : Source)
      (p : TransformPlanner) (row col : ℕ),
      TransformPlanner.new profile calibration source.rows source.cols = .ok p →
        profile.sourceRoi = .full → row < profile.targetGrid.rows →
        col < profile.targetGrid.cols → p.MapsInside row col →
          p.SampledRight source (p.mappingOf row col) (p.warpedPixel source row col) := by
  intro right
  have pixel := right cubicEdgeProfile cubicEdgeCalibration
    (cubicEdgePlanner.validSource fun _ _ => 0) cubicEdgePlanner 0 0 rfl rfl (by decide)
    (by decide) (by decide +kernel)
  have folds : cubicEdgePlanner.profile.borderPolicy.invalidates = false := rfl
  have valid := pixel.valid folds fun kernel _ tap _ _ => sampleValid_validSource.mpr
    ⟨inside_foldIndex folds cubicEdgePlanner.sourceRows_pos tap.row,
      inside_foldIndex folds cubicEdgePlanner.sourceCols_pos tap.col⟩
  revert valid
  decide +kernel

end CubeNano

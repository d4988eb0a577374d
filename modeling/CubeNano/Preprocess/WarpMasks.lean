import CubeNano.Preprocess.StripIndependence
import CubeNano.Preprocess.ValidityBuilder

/-!
# The masks of a warp

The validity and the reasons that `CPUWarpBackend.warp` gives an output block, from a source block
whose samples may be infinite or NaN, and from any plan, also one whose mapping is not finite.

## Main definitions

* `QualityBlock`, `MappedPlan` — the source block and the plan
* `warpMasks` — the masks of the result

## Main statements

* `masks_agree` — the validity of source and result agrees with their reasons
-/

namespace CubeNano

/-! ## Blocks and plans -/

/-- `SourceBlock`, with its samples as floats. -/
structure QualityBlock (channels : ℕ) where
  image : ℕ → ℕ → Fin channels → PyFloat
  masks : ValidityMasks
  height : ℕ
  width : ℕ
  rowStart : ℕ
  colStart : ℕ
  sourceShape : ℕ × ℕ

/-- The number of a finite float. -/
def PyFloat.number : PyFloat → ℚ
  | .finite value => value
  | _ => 0

/-- A block with its finite samples as numbers. -/
def QualityBlock.numbers {channels : ℕ} (block : QualityBlock channels) : SourceBlock channels where
  image := fun row col channel => (block.image row col channel).number
  validity := block.masks.validity
  reason := block.masks.reason
  height := block.height
  width := block.width
  rowStart := block.rowStart
  colStart := block.colStart
  sourceShape := block.sourceShape

/-- A pixel of a plan; the mapping is there if both its coordinates are finite. -/
structure MappedPixel where
  mapping : Option (ℚ × ℚ)
  /-- `finite_mapping_yx`. -/
  finiteMapping : Bool
  outsideSource : Bool
  outsideRoi : Bool

/-- `TransformPlan`, whatever its arrays hold. -/
structure MappedPlan where
  sourceShape : ℕ × ℕ
  sourceRoi : SourceWindow
  sourceWindow : SourceWindow
  pixelOffset : ℚ
  outputShape : ℕ × ℕ
  pixel : ℕ → ℕ → MappedPixel

namespace MappedPlan

/-- The plan without its pixels, as the preparation of taps reads it. -/
def geometry (plan : MappedPlan) : TransformPlan where
  outputRowStart := 0
  outputRowEnd := plan.outputShape.1
  sourceShape := plan.sourceShape
  sourceRoi := plan.sourceRoi
  sourceWindow := plan.sourceWindow
  pixelOffset := plan.pixelOffset
  pixels := []

/-- `_kernel_taps` of one pixel: without a finite mapping its taps are those at the origin, and
weigh nothing. -/
def taps (plan : MappedPlan) (pixel : MappedPixel) (kernel : ResampleKernel) : List Tap :=
  match pixel.mapping with
  | some mapping => kernelTaps mapping kernel plan.pixelOffset
  | none =>
      (kernelTaps (plan.pixelOffset, plan.pixelOffset) kernel plan.pixelOffset).map fun tap =>
        { tap with weight := 0 }

end MappedPlan

/-! ## The warp -/

/-- What the resampling of a pixel comes to. -/
structure PixelQuality where
  supportFraction : ℚ
  reason : ℕ
  hasSupport : Bool
  border : Bool
  /-- Some sample of the result is not finite. -/
  bad : Bool

section Warp

variable {channels : ℕ} (p : QualityProfile) (block : QualityBlock channels) (plan : MappedPlan)

/-- The prepared taps of a pixel. -/
def qualityTaps (pixel : MappedPixel) (kernel : ResampleKernel) : List PreparedTap :=
  (plan.taps pixel kernel).map
    (prepareTap p.toPreprocessingProfile plan.geometry block.numbers)

/-- Whether a tap brings a sample that is not finite to the sum, which makes the sum not finite,
whatever the weight. -/
def bringsNonFinite (tap : PreparedTap) : Bool :=
  imageUsable p.toPreprocessingProfile block.numbers tap &&
    (List.finRange channels).any fun channel =>
      !(block.image (block.numbers.safeRow tap) (block.numbers.safeCol tap) channel).isFinite

/-- The resampling of a pixel, up to its masks. -/
def pixelQuality (pixel : MappedPixel) : PixelQuality :=
  let image := resampleImage p.toPreprocessingProfile block.numbers
    (qualityTaps p block plan pixel p.imageKernel)
  let validity := resampleValidity p.toPreprocessingProfile block.numbers
    (qualityTaps p block plan pixel p.validityKernel)
  let reason := resampleValidity p.toPreprocessingProfile block.numbers
    (qualityTaps p block plan pixel p.reasonKernel)
  { supportFraction := validity.1
    reason := validity.2 ||| reason.2
    hasSupport := image.2
    border := hasBorder p.toPreprocessingProfile (qualityTaps p block plan pixel p.imageKernel) ||
      hasBorder p.toPreprocessingProfile (qualityTaps p block plan pixel p.validityKernel) ||
      hasBorder p.toPreprocessingProfile (qualityTaps p block plan pixel p.reasonKernel)
    bad := image.2 && (qualityTaps p block plan pixel p.imageKernel).any (bringsNonFinite p block) }

/-- A mask of the output block. -/
def outputMask (mask : MappedPixel → PixelQuality → Bool) : ℕ → ℕ → Bool := fun row col =>
  mask (plan.pixel row col) (pixelQuality p block plan (plan.pixel row col))

/-- The masks of `CPUWarpBackend.warp`, before the cast to the output type. -/
def warpMasks : Raises ValidityMasks :=
  let window := plan.sourceWindow
  let outside (pixel : MappedPixel) : Bool := pixel.outsideRoi || !pixel.finiteMapping ||
    (p.borderPolicy.invalidates && pixel.outsideSource)
  if block.sourceShape ≠ plan.sourceShape then
    valueError "source block and transform plan source shapes do not match"
  else if window.isEmpty = false ∧ (block.rowStart > window.rowStart ∨
      block.rowStart + block.height < window.rowEnd ∨ block.colStart > window.colStart ∨
      block.colStart + block.width < window.colEnd) then
    valueError "source block does not cover the planned source window"
  else do
    let masks ← ValidityBuilder.finalize p plan.outputShape
      { validity := fun row col =>
          if (pixelQuality p block plan (plan.pixel row col)).supportFraction ≥ p.supportThreshold
          then p.validityEncoding.validValue else p.validityEncoding.invalidValue
        reason := fun row col => (pixelQuality p block plan (plan.pixel row col)).reason }
      { outsideMapping := outputMask p block plan fun pixel _ => outside pixel
        border := outputMask p block plan fun _ quality => quality.border
        insufficientSupport := outputMask p block plan fun _ quality =>
          decide (quality.supportFraction < p.supportThreshold) || !quality.hasSupport ||
            (p.borderPolicy.invalidates && quality.border)
        forceInvalid := outputMask p block plan fun pixel _ => outside pixel }
    if ValidityBuilder.anySet plan.outputShape
        (outputMask p block plan fun _ quality => quality.bad) then
      if p.nonFinitePolicy = .reject then
        preprocessError "NON_FINITE_OUTPUT" "warp produced non-finite output values"
      else
        ValidityBuilder.finalize p plan.outputShape masks
          { insufficientSupport := outputMask p block plan fun _ quality => quality.bad
            forceInvalid := outputMask p block plan fun _ quality => quality.bad }
    else .ok masks

end Warp

/-- A pixel with a finite mapping is resampled as the warp of a plan resamples it. -/
theorem pixelQuality_planned {channels : ℕ} (p : QualityProfile) (block : QualityBlock channels)
    (plan : MappedPlan) (planned : PlannedPixel) :
    let quality := pixelQuality p block plan
      ⟨some planned.mapping, true, planned.outsideSource, planned.outsideRoi⟩
    let draft := warpPixel p.toPreprocessingProfile block.numbers plan.geometry planned
    draft.supportFraction = quality.supportFraction ∧ draft.reason = quality.reason ∧
      draft.border = quality.border ∧
      draft.insufficientSupport = (decide (quality.supportFraction < p.supportThreshold) ||
        !quality.hasSupport || (p.borderPolicy.invalidates && quality.border)) :=
  ⟨rfl, rfl, rfl, rfl⟩

/-! ## Reasons of taps -/

section Reasons

variable {channels : ℕ} {p : QualityProfile} {block : QualityBlock channels} {plan : MappedPlan}

/-- An eligible tap reads the pixel of the block that it samples. -/
theorem reads_of_eligible {tap : Tap}
    (eligible : (prepareTap p.toPreprocessingProfile plan.geometry block.numbers tap).eligible =
      true) :
    block.numbers.safeRow (prepareTap p.toPreprocessingProfile plan.geometry block.numbers tap) <
        block.height ∧
      block.numbers.safeCol (prepareTap p.toPreprocessingProfile plan.geometry block.numbers tap) <
        block.width ∧
      sampleIndex p.toPreprocessingProfile plan.sourceShape tap =
        ((block.rowStart : ℤ) + block.numbers.safeRow
            (prepareTap p.toPreprocessingProfile plan.geometry block.numbers tap),
          (block.colStart : ℤ) + block.numbers.safeCol
            (prepareTap p.toPreprocessingProfile plan.geometry block.numbers tap)) := by
  rw [prepareTap_eligible, Bool.and_eq_true, Bool.and_eq_true, decide_eq_true_eq] at eligible
  obtain ⟨⟨⟨rowFirst, rowLast, colFirst, colLast⟩, -⟩, -⟩ := eligible
  have localRow : (prepareTap p.toPreprocessingProfile plan.geometry block.numbers tap).localRow =
      (sampleIndex p.toPreprocessingProfile plan.sourceShape tap).1 - block.rowStart := rfl
  have localCol : (prepareTap p.toPreprocessingProfile plan.geometry block.numbers tap).localCol =
      (sampleIndex p.toPreprocessingProfile plan.sourceShape tap).2 - block.colStart := rfl
  have height : block.numbers.height = block.height := rfl
  have width : block.numbers.width = block.width := rfl
  unfold SourceBlock.safeRow SourceBlock.safeCol
  rw [clip_of_inside rowFirst (by omega), clip_of_inside colFirst (by omega)]
  refine ⟨by omega, by omega, Prod.ext ?_ ?_⟩
  · dsimp only
    omega
  · dsimp only
    omega

/-- **A reason of a resampled pixel** is that of a pixel of the block which one of its taps
samples. -/
theorem exists_tap_of_has {pixel : MappedPixel} {kernel : ResampleKernel} {name : String}
    (has : p.reasons.Has (resampleValidity p.toPreprocessingProfile block.numbers
      (qualityTaps p block plan pixel kernel)).2 name) :
    ∃ tap ∈ plan.taps pixel kernel, ∃ i < block.height, ∃ j < block.width,
      sampleIndex p.toPreprocessingProfile plan.sourceShape tap =
          ((block.rowStart : ℤ) + i, (block.colStart : ℤ) + j) ∧
        p.reasons.Has (block.masks.reason i j) name := by
  unfold resampleValidity at has
  obtain ⟨prepared, mem, has⟩ :=
    ((p.reasons.has_foldl_or _ _ _ _).mp has).resolve_left (p.reasons.not_has_zero name)
  obtain ⟨tap, memTap, rfl⟩ := List.mem_map.mp mem
  split at has
  · rename_i used
    obtain ⟨row, col, sampled⟩ := reads_of_eligible (Bool.and_eq_true_iff.mp used).1
    exact ⟨tap, memTap, _, row, _, col, sampled, has⟩
  · exact absurd has (p.reasons.not_has_zero name)

/-- The reasons of a resampled pixel are those of source pixels. -/
theorem has_pixelQuality {pixel : MappedPixel} {name : String}
    (has : p.reasons.Has (pixelQuality p block plan pixel).reason name) :
    ∃ kernel ∈ [p.validityKernel, p.reasonKernel], ∃ tap ∈ plan.taps pixel kernel,
      ∃ i < block.height, ∃ j < block.width,
        sampleIndex p.toPreprocessingProfile plan.sourceShape tap =
            ((block.rowStart : ℤ) + i, (block.colStart : ℤ) + j) ∧
          p.reasons.Has (block.masks.reason i j) name := by
  rcases (p.reasons.has_or _ _ _).mp has with has | has
  · exact ⟨p.validityKernel, by simp, exists_tap_of_has has⟩
  · exact ⟨p.reasonKernel, by simp, exists_tap_of_has has⟩

/-- A pixel whose validity agrees with its reasons, of which some are those of the source. -/
structure Agrees (p : QualityProfile) (masks : ValidityMasks) (row col : ℕ)
    (source : String → Prop) : Prop where
  two_values : masks.validity row col = p.validityEncoding.validValue ∨
    masks.validity row col = p.validityEncoding.invalidValue
  invalid_iff : masks.validity row col = p.validityEncoding.invalidValue ↔
    p.reasons.Has (masks.reason row col) "outside_mapping" ∨
      p.reasons.Has (masks.reason row col) "insufficient_support"
  source_of_has : ∀ name ∈ ["source_nodata", "missing_channel"],
    p.reasons.Has (masks.reason row col) name → source name

/-- **One call of `finalize`** keeps validity and reasons in agreement. -/
theorem Agrees.of_finalize {shape : ℕ × ℕ} {base out : ValidityMasks}
    {masks : ValidityBuilder.OutputMasks} {row col : ℕ} {source : String → Prop}
    (returned : ValidityBuilder.finalize p shape base masks = .ok out) (rowLt : row < shape.1)
    (colLt : col < shape.2)
    (forced : masks.forceInvalid row col = true →
      masks.outsideMapping row col = true ∨ masks.insufficientSupport row col = true)
    (named : base.validity row col ≠ p.validityEncoding.validValue →
      (masks.outsideMapping row col = true ∨ masks.insufficientSupport row col = true) ∨
        p.reasons.Has (base.reason row col) "outside_mapping" ∨
          p.reasons.Has (base.reason row col) "insufficient_support")
    (invalid : p.reasons.Has (base.reason row col) "outside_mapping" ∨
        p.reasons.Has (base.reason row col) "insufficient_support" →
      base.validity row col ≠ p.validityEncoding.validValue)
    (sources : ∀ name ∈ ["source_nodata", "missing_channel"],
      p.reasons.Has (base.reason row col) name → source name) :
    Agrees p out row col source := by
  obtain ⟨invalidIff, values, has⟩ := ValidityBuilder.finalize_spec returned rowLt colLt
  have outside : p.reasons.Has (out.reason row col) "outside_mapping" ↔
      p.reasons.Has (base.reason row col) "outside_mapping" ∨
        masks.outsideMapping row col = true := by
    rw [has]
    simp
  have support : p.reasons.Has (out.reason row col) "insufficient_support" ↔
      p.reasons.Has (base.reason row col) "insufficient_support" ∨
        masks.insufficientSupport row col = true := by
    rw [has]
    simp
  refine ⟨values, ?_, fun name mem present => ?_⟩
  · rw [invalidIff, outside, support]
    constructor
    · rintro (base | isOutside | unsupported | force)
      · rcases named base with (isOutside | unsupported) | (isOutside | unsupported)
        · exact .inl (.inr isOutside)
        · exact .inr (.inr unsupported)
        · exact .inl (.inl isOutside)
        · exact .inr (.inl unsupported)
      · exact .inl (.inr isOutside)
      · exact .inr (.inr unsupported)
      · exact (forced force).imp .inr .inr
    · rintro ((earlier | isOutside) | (earlier | unsupported))
      · exact .inl (invalid (.inl earlier))
      · exact .inr (.inl isOutside)
      · exact .inl (invalid (.inr earlier))
      · exact .inr (.inr (.inl unsupported))
  · refine sources name mem (((has name).mp present).resolve_right ?_)
    simp only [List.mem_cons, List.not_mem_nil, or_false] at mem
    rintro (⟨same, -⟩ | ⟨same, -⟩ | ⟨same, -⟩) <;> rcases mem with rfl | rfl <;> simp at same

end Reasons

/-- **Masks agree with reasons.**  Take any profile, a source block that `build_source` gave its
masks, and any plan.  A source pixel is invalid exactly where it has the reason `source_nodata` or
`missing_channel`.  A pixel of the warp is invalid exactly where it has the reason
`outside_mapping` or `insufficient_support`, and where it has one of the two others, one of its taps
samples a source pixel with that reason. -/
theorem masks_agree {channels : ℕ} {p : QualityProfile} {block : QualityBlock channels}
    {missing : Option MissingChannels} {external : Option MaskValue}
    (built : ValidityBuilder.buildSource p block.image (block.height, block.width) missing external =
      .ok block.masks) (plan : MappedPlan) :
    (∀ row < block.height, ∀ col < block.width,
      (block.masks.validity row col = p.validityEncoding.invalidValue ↔
        p.reasons.Has (block.masks.reason row col) "source_nodata" ∨
          p.reasons.Has (block.masks.reason row col) "missing_channel")) ∧
      ∀ masks, warpMasks p block plan = .ok masks →
        ∀ row < plan.outputShape.1, ∀ col < plan.outputShape.2,
          (masks.validity row col = p.validityEncoding.invalidValue ↔
            p.reasons.Has (masks.reason row col) "outside_mapping" ∨
              p.reasons.Has (masks.reason row col) "insufficient_support") ∧
            ∀ name ∈ ["source_nodata", "missing_channel"],
              p.reasons.Has (masks.reason row col) name →
                ∃ kernel ∈ [p.validityKernel, p.reasonKernel],
                  ∃ tap ∈ plan.taps (plan.pixel row col) kernel,
                    ∃ i < block.height, ∃ j < block.width,
                      sampleIndex p.toPreprocessingProfile plan.sourceShape tap =
                          ((block.rowStart : ℤ) + i, (block.colStart : ℤ) + j) ∧
                        p.reasons.Has (block.masks.reason i j) name := by
  have sourceSpec {row col : ℕ} (rowLt : row < block.height) (colLt : col < block.width) :=
    @ValidityBuilder.buildSource_spec p (block.height, block.width) row col _ _ _ _ _ built rowLt
      colLt
  refine ⟨fun row rowLt col colLt => (sourceSpec rowLt colLt).1,
    fun masks returned row rowLt col colLt => ?_⟩
  unfold warpMasks at returned
  dsimp only at returned
  split at returned
  · cases returned
  split at returned
  · cases returned
  obtain ⟨first, finalized, returned⟩ := bind_eq_ok_iff.mp returned
  -- the reasons that the resampling brings are no reasons of the output
  have none (name : String) (other : name ≠ "source_nodata" ∧ name ≠ "missing_channel") :
      ¬p.reasons.Has (pixelQuality p block plan (plan.pixel row col)).reason name := by
    intro has
    obtain ⟨-, -, -, -, i, iLt, j, jLt, -, has⟩ := has_pixelQuality has
    exact ((sourceSpec iLt jLt).2 name has).elim other.1 other.2
  have agrees := Agrees.of_finalize finalized rowLt colLt .inl
    (fun base => .inl (.inr (by
      have low : ¬_ ≥ p.supportThreshold := fun enough => base (if_pos enough)
      exact Bool.or_eq_true_iff.mpr (.inl (Bool.or_eq_true_iff.mpr
        (.inl (decide_eq_true (not_le.mp low))))))))
    (fun has => has.elim (fun has => absurd has (none _ (by decide)))
      fun has => absurd has (none _ (by decide)))
    fun name _ has => has_pixelQuality has
  split at returned
  · split at returned
    · cases returned
    · have again := Agrees.of_finalize returned rowLt colLt .inr
        (fun base => .inr (agrees.invalid_iff.mp (agrees.two_values.resolve_left base)))
        (fun has => by
          rw [agrees.invalid_iff.mpr has]
          exact p.validityEncoding.differ.symm)
        agrees.source_of_has
      exact ⟨again.invalid_iff, again.source_of_has⟩
  · cases returned
    exact ⟨agrees.invalid_iff, agrees.source_of_has⟩

/-- A profile whose NoData is NaN. -/
def nanProfile : QualityProfile where
  schemaShape := none
  transformDirection := .modelToSource
  transformType := .identity
  pixelConvention := .corner
  targetGrid := ⟨1, 2, (0, 0), some (1, 1)⟩
  sourceRoi := .full
  haloRows := 0
  haloCols := 0
  borderPolicy := .invalid
  imageKernel := .nearest
  validityKernel := .nearest
  reasonKernel := .nearest
  supportThreshold := 1
  precision := .float64
  validityEncoding := ⟨1, 0, Nat.one_ne_zero⟩
  reasonBits := [("source_nodata", 1), ("insufficient_support", 16)]
  channels := []
  nodata := some ⟨"nan", none, none, none, none⟩
  nonFinitePolicy := .reject
  bits_distinct := by decide
  bits_single := by
    simp only [List.mem_cons, List.not_mem_nil, or_false]
    rintro entry (rfl | rfl)
    · exact ⟨0, rfl⟩
    · exact ⟨4, rfl⟩

/-- Two samples, the first of which is NaN. -/
def nanImage : ℕ → ℕ → Fin 1 → PyFloat := fun _ col _ => if col = 0 then .nan else .finite 5

/-- A block of them. -/
def nanBlock : QualityBlock 1 where
  image := nanImage
  masks :=
    { validity := fun row col =>
        if ValidityBuilder.anyChannel nanImage (fun _ sample => sample = .nan) row col || false
        then 0 else 1
      reason := fun row col =>
        if ValidityBuilder.anyChannel nanImage (fun _ sample => sample = .nan) row col
        then 0 ||| 1 else 0 }
  height := 1
  width := 2
  rowStart := 0
  colStart := 0
  sourceShape := (1, 2)

/-- Its identical mapping. -/
def nanPlan : MappedPlan where
  sourceShape := (1, 2)
  sourceRoi := ⟨0, 1, 0, 2⟩
  sourceWindow := ⟨0, 1, 0, 2⟩
  pixelOffset := 0
  outputShape := (1, 2)
  pixel := fun row col => ⟨some (row, col), true, false, false⟩

/-- The NaN is invalid in the source, and its pixel in the result. -/
theorem masks_agree_sample :
    (nanBlock.masks.validity 0 0 = 0 ↔
      nanProfile.reasons.Has (nanBlock.masks.reason 0 0) "source_nodata" ∨
        nanProfile.reasons.Has (nanBlock.masks.reason 0 0) "missing_channel") ∧
      ∀ masks, warpMasks nanProfile nanBlock nanPlan = .ok masks →
        (masks.validity 0 0 = 0 ↔
          nanProfile.reasons.Has (masks.reason 0 0) "outside_mapping" ∨
            nanProfile.reasons.Has (masks.reason 0 0) "insufficient_support") := by
  have built : ValidityBuilder.buildSource nanProfile nanBlock.image
      (nanBlock.height, nanBlock.width) none none = .ok nanBlock.masks := rfl
  obtain ⟨source, result⟩ := masks_agree built nanPlan
  exact ⟨source 0 (by decide) 0 (by decide), fun masks returned =>
    (result masks returned 0 (by decide) 0 (by decide)).1⟩

end CubeNano

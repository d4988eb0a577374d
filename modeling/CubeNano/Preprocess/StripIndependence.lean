import CubeNano.Preprocess.WarpBackend

/-!
# Strip independence

A target grid is warped strip by strip, each strip from the source window that its plan requests.
The window holds every tap that counts, so that a pixel of the result depends on the source alone,
and the strips together are the warp of the whole source.

## Main definitions

* `SameReading` — two prepared taps that read the same
* `TransformPlanner.RowWarps`, `TransformPlanner.warpedRow` — a row of the result from the source

## Main statements

* `TransformPlanner.contains_of_planStrip` — a planned window holds every tap in the source
* `TransformPlanner.warpPixel_window` — a pixel from a window is the pixel from the source
* `stripIndependence` — strips of any two sizes and the whole source give the same result
-/

namespace CubeNano

/-! ## Source windows -/

theorem minOf_le {values : List ℤ} {value : ℤ} (member : value ∈ values) :
    minOf values ≤ value := by
  obtain ⟨least, found⟩ := Option.isSome_iff_exists.mp
    (List.isSome_min?_of_mem member)
  rw [minOf, found]
  exact (List.min?_eq_some_iff.mp found).2 value member

theorem le_maxOf {values : List ℤ} {value : ℤ} (member : value ∈ values) :
    value ≤ maxOf values := by
  obtain ⟨most, found⟩ := Option.isSome_iff_exists.mp
    (List.isSome_max?_of_mem member)
  rw [maxOf, found]
  exact (List.max?_eq_some_iff.mp found).2 value member

/-- The clamped bounds stay in the source. -/
theorem windowBounds_le {size : ℕ} (positive : 0 < size) (halo : ℕ) (minimum maximum : ℤ) :
    (TransformPlanner.windowBounds size halo minimum maximum).2 ≤ size := by
  dsimp only [TransformPlanner.windowBounds]
  split
  · dsimp only
    omega
  · dsimp only
    omega

/-- The clamped bounds hold every index of the source between the two extremes. -/
theorem mem_windowBounds {size : ℕ} (halo : ℕ) {minimum maximum index : ℤ}
    (low : minimum ≤ index) (high : index ≤ maximum) (nonneg : 0 ≤ index) (inside : index < size) :
    ((TransformPlanner.windowBounds size halo minimum maximum).1 : ℤ) ≤ index ∧
      index < (TransformPlanner.windowBounds size halo minimum maximum).2 := by
  dsimp only [TransformPlanner.windowBounds]
  split
  · rename_i empty
    dsimp only
    omega
  · dsimp only
    omega

/-- The taps of a kernel are at its indices. -/
theorem kernelTaps_indices (mapping : ℚ × ℚ) (kernel : ResampleKernel) (pixelOffset : ℚ) :
    (kernelTaps mapping kernel pixelOffset).map (fun tap => (tap.row, tap.col)) =
      kernelIndices mapping kernel pixelOffset := by
  cases kernel <;> rfl

theorem mem_kernelIndices {mapping : ℚ × ℚ} {kernel : ResampleKernel} {pixelOffset : ℚ} {tap : Tap}
    (member : tap ∈ kernelTaps mapping kernel pixelOffset) :
    (tap.row, tap.col) ∈ kernelIndices mapping kernel pixelOffset := by
  rw [← kernelTaps_indices]
  exact List.mem_map_of_mem member

namespace TransformPlanner

variable {p : TransformPlanner}

/-- The kernels of a profile. -/
def kernels (p : TransformPlanner) : List ResampleKernel :=
  [p.profile.imageKernel, p.profile.validityKernel, p.profile.reasonKernel]

theorem mem_footprintIndices {mapping : ℚ × ℚ} {kernel : ResampleKernel} {tap : Tap}
    (isKernel : kernel ∈ p.kernels) (member : tap ∈ kernelTaps mapping kernel p.pixelOffset) :
    (tap.row, tap.col) ∈ p.footprintIndices mapping := by
  have index := mem_kernelIndices member
  simp only [kernels, List.mem_cons, List.not_mem_nil, or_false] at isKernel
  simp only [footprintIndices, List.mem_append]
  rcases isKernel with rfl | rfl | rfl
  · exact .inl index
  · exact .inr (.inl index)
  · exact .inr (.inr index)

/-- The window of some footprints stays in the source. -/
theorem sourceWindow_le (footprints : List Footprint) :
    (p.sourceWindow footprints).rowEnd ≤ p.sourceRows ∧
      (p.sourceWindow footprints).colEnd ≤ p.sourceCols := by
  unfold sourceWindow
  split
  · exact ⟨Nat.zero_le _, Nat.zero_le _⟩
  · exact ⟨windowBounds_le p.sourceRows_pos _ _ _, windowBounds_le p.sourceCols_pos _ _ _⟩

/-- The window of some footprints holds every pixel of the source within one of them. -/
theorem sourceWindow_contains {footprints : List Footprint} {footprint : Footprint} {row col : ℤ}
    (member : footprint ∈ footprints)
    (rows : footprint.rowMin ≤ row ∧ row ≤ footprint.rowMax)
    (cols : footprint.colMin ≤ col ∧ col ≤ footprint.colMax)
    (inRows : 0 ≤ row ∧ row < p.sourceRows) (inCols : 0 ≤ col ∧ col < p.sourceCols) :
    (p.sourceWindow footprints).Contains row col := by
  have some : footprints ≠ [] := List.ne_nil_of_mem member
  have row := mem_windowBounds p.profile.haloRows
    ((minOf_le (List.mem_map_of_mem member)).trans rows.1)
    (rows.2.trans (le_maxOf (List.mem_map_of_mem member))) inRows.1 inRows.2
  have col := mem_windowBounds p.profile.haloCols
    ((minOf_le (List.mem_map_of_mem member)).trans cols.1)
    (cols.2.trans (le_maxOf (List.mem_map_of_mem member))) inCols.1 inCols.2
  rw [sourceWindow, if_neg some]
  exact ⟨row.1, row.2, col.1, col.2⟩

/-- A tap of a pixel lies within the footprint of the pixel. -/
theorem mem_footprint {mapping : ℚ × ℚ} {kernel : ResampleKernel} {tap : Tap}
    (isKernel : kernel ∈ p.kernels) (member : tap ∈ kernelTaps mapping kernel p.pixelOffset) :
    ((Footprint.of (p.footprintIndices mapping)).rowMin ≤ tap.row ∧
      tap.row ≤ (Footprint.of (p.footprintIndices mapping)).rowMax) ∧
      (Footprint.of (p.footprintIndices mapping)).colMin ≤ tap.col ∧
      tap.col ≤ (Footprint.of (p.footprintIndices mapping)).colMax := by
  have index := mem_footprintIndices isKernel member
  have row : tap.row ∈ (p.footprintIndices mapping).map Prod.fst := List.mem_map.mpr ⟨_, index, rfl⟩
  have col : tap.col ∈ (p.footprintIndices mapping).map Prod.snd := List.mem_map.mpr ⟨_, index, rfl⟩
  exact ⟨⟨minOf_le row, le_maxOf row⟩, minOf_le col, le_maxOf col⟩

end TransformPlanner

/-! ## Readings of a window -/

/-- Two prepared taps, each with its block, that read the same. -/
structure SameReading {channels : ℕ} (block block' : SourceBlock channels)
    (tap tap' : PreparedTap) : Prop where
  weight : tap.weight = tap'.weight
  eligible : tap.eligible = tap'.eligible
  border : tap.border = tap'.border
  pixel : tap.eligible = true →
    block.image (block.safeRow tap) (block.safeCol tap) =
        block'.image (block'.safeRow tap') (block'.safeCol tap') ∧
      block.validity (block.safeRow tap) (block.safeCol tap) =
        block'.validity (block'.safeRow tap') (block'.safeCol tap') ∧
      block.reason (block.safeRow tap) (block.safeCol tap) =
        block'.reason (block'.safeRow tap') (block'.safeCol tap')

section Resample

variable {channels : ℕ} {block block' : SourceBlock channels} {profile : PreprocessingProfile}

theorem SameReading.usable {tap tap' : PreparedTap} (same : SameReading block block' tap tap') :
    imageUsable profile block tap = imageUsable profile block' tap' := by
  unfold imageUsable sourceValid
  rw [← same.eligible]
  cases eligible : tap.eligible with
  | false => rfl
  | true => rw [(same.pixel eligible).2.1]

variable {taps : List Tap} {prepare prepare' : Tap → PreparedTap}

/-- Taps that read the same resample to the same samples. -/
theorem resampleImage_congr
    (same : ∀ tap ∈ taps, SameReading block block' (prepare tap) (prepare' tap)) :
    resampleImage profile block (taps.map prepare) =
      resampleImage profile block' (taps.map prepare') := by
  have denominator : ((taps.map prepare).map fun tap =>
        if imageUsable profile block tap then tap.weight else 0) =
      (taps.map prepare').map fun tap =>
        if imageUsable profile block' tap then tap.weight else 0 := by
    rw [List.map_map, List.map_map]
    refine List.map_congr_left fun tap member => ?_
    simp only [Function.comp_apply]
    rw [(same tap member).usable, (same tap member).weight]
  have result (channel : Fin channels) : ((taps.map prepare).map fun tap =>
        (if imageUsable profile block tap then
          block.image (block.safeRow tap) (block.safeCol tap) channel else 0) * tap.weight) =
      (taps.map prepare').map fun tap =>
        (if imageUsable profile block' tap then
          block'.image (block'.safeRow tap) (block'.safeCol tap) channel else 0) * tap.weight := by
    rw [List.map_map, List.map_map]
    refine List.map_congr_left fun tap member => ?_
    simp only [Function.comp_apply]
    rw [(same tap member).weight, ← (same tap member).usable]
    cases usable : imageUsable profile block (prepare tap) with
    | false => rfl
    | true =>
        have eligible : (prepare tap).eligible = true := (Bool.and_eq_true_iff.mp usable).1
        rw [((same tap member).pixel eligible).1]
  unfold resampleImage
  simp only [denominator, result]

/-- Taps that read the same have the same support and the same reasons. -/
theorem resampleValidity_congr
    (same : ∀ tap ∈ taps, SameReading block block' (prepare tap) (prepare' tap)) :
    resampleValidity profile block (taps.map prepare) =
      resampleValidity profile block' (taps.map prepare') := by
  have total : ((taps.map prepare).map fun tap => |tap.weight|) =
      (taps.map prepare').map fun tap => |tap.weight| := by
    rw [List.map_map, List.map_map]
    refine List.map_congr_left fun tap member => ?_
    simp only [Function.comp_apply]
    rw [(same tap member).weight]
  have supported : ((taps.map prepare).map fun tap =>
        if imageUsable profile block tap then |tap.weight| else 0) =
      (taps.map prepare').map fun tap =>
        if imageUsable profile block' tap then |tap.weight| else 0 := by
    rw [List.map_map, List.map_map]
    refine List.map_congr_left fun tap member => ?_
    simp only [Function.comp_apply]
    rw [(same tap member).usable, (same tap member).weight]
  have reason : (taps.map prepare).foldl (fun reason tap => reason |||
        if tap.eligible && decide (|tap.weight| > profile.precision.eps) then
          block.reason (block.safeRow tap) (block.safeCol tap) else 0) 0 =
      (taps.map prepare').foldl (fun reason tap => reason |||
        if tap.eligible && decide (|tap.weight| > profile.precision.eps) then
          block'.reason (block'.safeRow tap) (block'.safeCol tap) else 0) 0 := by
    rw [List.foldl_map, List.foldl_map]
    refine List.foldl_ext _ _ _ fun reason tap member => ?_
    rw [← (same tap member).eligible, (same tap member).weight]
    cases eligible : (prepare tap).eligible with
    | false => rfl
    | true => rw [((same tap member).pixel eligible).2.2]
  unfold resampleValidity
  rw [reason, total]
  exact congrArg (fun sums : List ℚ => (if _ > 0 then sums.sum / _ else 0, _)) supported

/-- Taps that read the same have the same border. -/
theorem hasBorder_congr
    (same : ∀ tap ∈ taps, SameReading block block' (prepare tap) (prepare' tap)) :
    hasBorder profile (taps.map prepare) = hasBorder profile (taps.map prepare') := by
  unfold hasBorder
  rw [List.any_map, List.any_map, Bool.eq_iff_iff, List.any_eq_true, List.any_eq_true]
  refine exists_congr fun tap => and_congr_right fun member => ?_
  simp only [Function.comp_apply]
  rw [(same tap member).border, (same tap member).weight]

end Resample

/-! ## Pixels of a window -/

/-- An index inside a source is folded onto itself. -/
theorem reflectIndex_of_inside {index : ℤ} {size : ℕ} (nonneg : 0 ≤ index) (inside : index < size) :
    reflectIndex index size = index := by
  unfold reflectIndex
  by_cases single : size ≤ 1
  · rw [if_pos single]
    omega
  · rw [if_neg single]
    have folded : index % (2 * size - 2) = index := Int.emod_eq_of_lt nonneg (by omega)
    simp only [folded]
    rw [if_pos inside]

/-- An index inside the bounds is clipped onto itself. -/
theorem clip_of_inside {value low high : ℤ} (above : low ≤ value) (below : value ≤ high) :
    clip value low high = value := by
  rw [clip, max_eq_left above, min_eq_left below]

/-- A tap inside the source is sampled where it is, whatever the border policy. -/
def sampleIndex (profile : PreprocessingProfile) (shape : ℕ × ℕ) (tap : Tap) : ℤ × ℤ :=
  match profile.borderPolicy with
  | .edge => (clip tap.row 0 (shape.1 - 1), clip tap.col 0 (shape.2 - 1))
  | .reflect => (reflectIndex tap.row shape.1, reflectIndex tap.col shape.2)
  | .invalid | .constant => (tap.row, tap.col)

theorem sampleIndex_of_inside (profile : PreprocessingProfile) {shape : ℕ × ℕ} {tap : Tap}
    (inRows : 0 ≤ tap.row ∧ tap.row < shape.1) (inCols : 0 ≤ tap.col ∧ tap.col < shape.2) :
    sampleIndex profile shape tap = (tap.row, tap.col) := by
  unfold sampleIndex
  cases profile.borderPolicy with
  | edge =>
      dsimp only
      rw [clip_of_inside inRows.1 (Int.le_sub_one_of_lt inRows.2),
        clip_of_inside inCols.1 (Int.le_sub_one_of_lt inCols.2)]
  | reflect =>
      dsimp only
      rw [reflectIndex_of_inside inRows.1 inRows.2, reflectIndex_of_inside inCols.1 inCols.2]
  | invalid => rfl
  | constant => rfl

section Window

variable (profile : PreprocessingProfile) {source : Source} {plan : TransformPlan}
  {w : SourceWindow} {tap : Tap}

/-- The region of interest of a plan lies in its source. -/
def RoiInside (plan : TransformPlan) : Prop :=
  plan.sourceRoi.rowEnd ≤ plan.sourceShape.1 ∧ plan.sourceRoi.colEnd ≤ plan.sourceShape.2

/-- A tap is eligible where the block holds its sample and the region of interest holds the tap. -/
theorem prepareTap_eligible {channels : ℕ} (block : SourceBlock channels) :
    (prepareTap profile plan block tap).eligible =
      (decide (0 ≤ (prepareTap profile plan block tap).localRow ∧
          (prepareTap profile plan block tap).localRow < block.height ∧
          0 ≤ (prepareTap profile plan block tap).localCol ∧
          (prepareTap profile plan block tap).localCol < block.width) &&
        decide (plan.sourceRoi.Contains tap.row tap.col) &&
        (!profile.borderPolicy.invalidates || decide (0 ≤ tap.row ∧
          tap.row < plan.sourceShape.1 ∧ 0 ≤ tap.col ∧ tap.col < plan.sourceShape.2))) := by
  unfold prepareTap
  cases profile.borderPolicy <;> simp [BorderPolicy.invalidates]

/-- A tap in the region of interest, in a window that holds it, is read where it is. -/
theorem prepareTap_inside (inside : RoiInside plan)
    (inRoi : plan.sourceRoi.Contains tap.row tap.col) (held : w.Contains tap.row tap.col) :
    (prepareTap profile plan (source.block w) tap).eligible = true ∧
      (w.rowStart + (source.block w).safeRow (prepareTap profile plan (source.block w) tap) =
        tap.row.toNat) ∧
      w.colStart + (source.block w).safeCol (prepareTap profile plan (source.block w) tap) =
        tap.col.toNat := by
  obtain ⟨row, rowLt, col, colLt⟩ := inRoi
  obtain ⟨heldRow, heldRowLt, heldCol, heldColLt⟩ := held
  have inRows : 0 ≤ tap.row ∧ tap.row < plan.sourceShape.1 := by
    have := inside.1
    omega
  have inCols : 0 ≤ tap.col ∧ tap.col < plan.sourceShape.2 := by
    have := inside.2
    omega
  have sample := sampleIndex_of_inside profile inRows inCols
  have localRow : (prepareTap profile plan (source.block w) tap).localRow =
      tap.row - w.rowStart := congrArg (fun index : ℤ × ℤ => index.1 - (w.rowStart : ℤ)) sample
  have localCol : (prepareTap profile plan (source.block w) tap).localCol =
      tap.col - w.colStart := congrArg (fun index : ℤ × ℤ => index.2 - (w.colStart : ℤ)) sample
  have height : (source.block w).height = w.rowEnd - w.rowStart := rfl
  have width : (source.block w).width = w.colEnd - w.colStart := rfl
  refine ⟨?_, ?_, ?_⟩
  · rw [prepareTap_eligible, localRow, localCol, decide_eq_true (show _ ∧ _ ∧ _ ∧ _ by omega),
      decide_eq_true (show plan.sourceRoi.Contains _ _ from ⟨row, rowLt, col, colLt⟩),
      decide_eq_true (show _ ∧ _ ∧ _ ∧ _ by omega), Bool.or_true]
    rfl
  · rw [SourceBlock.safeRow, localRow, clip_of_inside (by omega) (by omega)]
    omega
  · rw [SourceBlock.safeCol, localCol, clip_of_inside (by omega) (by omega)]
    omega

/-- The window of the whole source holds the region of interest. -/
theorem whole_contains (shape : plan.sourceShape = (source.rows, source.cols))
    (inside : RoiInside plan) {row col : ℤ} (inRoi : plan.sourceRoi.Contains row col) :
    source.whole.Contains row col := by
  obtain ⟨rowGe, rowLt, colGe, colLt⟩ := inRoi
  obtain ⟨rowEnd, colEnd⟩ := inside
  rw [shape] at rowEnd colEnd
  refine ⟨(Int.natCast_nonneg _).trans rowGe, ?_, (Int.natCast_nonneg _).trans colGe, ?_⟩
  · exact lt_of_lt_of_le rowLt (Int.ofNat_le.mpr rowEnd)
  · exact lt_of_lt_of_le colLt (Int.ofNat_le.mpr colEnd)

/-- A window that holds the taps of the region of interest reads them as the whole source does. -/
theorem sameReading_window (shape : plan.sourceShape = (source.rows, source.cols))
    (inside : RoiInside plan)
    (held : plan.sourceRoi.Contains tap.row tap.col → w.Contains tap.row tap.col) :
    SameReading (source.block w) (source.block source.whole)
      (prepareTap profile plan (source.block w) tap)
      (prepareTap profile plan (source.block source.whole) tap) := by
  by_cases inRoi : plan.sourceRoi.Contains tap.row tap.col
  · obtain ⟨eligible, row, col⟩ := prepareTap_inside profile inside inRoi (held inRoi)
    obtain ⟨eligible', row', col'⟩ :=
      prepareTap_inside profile inside inRoi (whole_contains shape inside inRoi)
    have sameRow := row.trans row'.symm
    have sameCol := col.trans col'.symm
    exact
      { weight := rfl
        eligible := eligible.trans eligible'.symm
        border := rfl
        pixel := fun _ => ⟨congrArg₂ source.image sameRow sameCol,
          congrArg₂ source.validity sameRow sameCol, congrArg₂ source.reason sameRow sameCol⟩ }
  · have never {v : SourceWindow} :
        (prepareTap profile plan (source.block v) tap).eligible = false := by
      rw [prepareTap_eligible, decide_eq_false inRoi, Bool.and_false, Bool.false_and]
    exact
      { weight := rfl
        eligible := never.trans never.symm
        border := rfl
        pixel := fun eligible => absurd (never.symm.trans eligible) Bool.false_ne_true }

/-- **A pixel from a window** that holds the taps of its kernels is the pixel from the source. -/
theorem warpPixel_window (shape : plan.sourceShape = (source.rows, source.cols))
    (inside : RoiInside plan) {pixel : PlannedPixel}
    (held : ∀ kernel ∈ [profile.imageKernel, profile.validityKernel, profile.reasonKernel],
      ∀ tap ∈ kernelTaps pixel.mapping kernel plan.pixelOffset,
        plan.sourceRoi.Contains tap.row tap.col → w.Contains tap.row tap.col) :
    warpPixel profile (source.block w) plan pixel =
      warpPixel profile (source.block source.whole) plan pixel := by
  have same (kernel : ResampleKernel)
      (isKernel : kernel ∈ [profile.imageKernel, profile.validityKernel, profile.reasonKernel])
      (tap : Tap) (member : tap ∈ kernelTaps pixel.mapping kernel plan.pixelOffset) :=
    sameReading_window profile shape inside (held kernel isKernel tap member)
  have image := same profile.imageKernel (by simp)
  have validity := same profile.validityKernel (by simp)
  have reason := same profile.reasonKernel (by simp)
  unfold warpPixel
  simp only [resampleImage_congr image, resampleValidity_congr validity,
    resampleValidity_congr reason, hasBorder_congr image, hasBorder_congr validity,
    hasBorder_congr reason]

end Window

/-! ## Masks -/

section Masks

variable (profile : PreprocessingProfile)

/-- A pixel with the bit of a reason, where its mask is set. -/
def withReason (name : String) (mask : PixelDraft → Bool) (pixel : PixelDraft) : PixelDraft :=
  if mask pixel then
    { pixel with reason := pixel.reason ||| (profile.reasonBits.lookup name).getD 0 }
  else pixel

/-- The encoding has the bit of a reason, if the mask is set. -/
def HasBit (name : String) (mask : PixelDraft → Bool) (pixel : PixelDraft) : Prop :=
  mask pixel = true → (profile.reasonBits.lookup name).isSome = true

variable {profile}

/-- Adding a reason is done pixel by pixel. -/
theorem addReason_eq_ok_iff {name : String} {mask : PixelDraft → Bool}
    {pixels out : List (List PixelDraft)} :
    addReason profile name mask pixels = .ok out ↔
      (∀ row ∈ pixels, ∀ pixel ∈ row, HasBit profile name mask pixel) ∧
        out = pixels.map fun row => row.map (withReason profile name mask) := by
  by_cases needed : (pixels.any fun row => row.any mask) = true
  · rw [addReason, if_pos needed]
    simp only [List.any_eq_true] at needed
    obtain ⟨row, rowMember, pixel, member, set⟩ := needed
    unfold reasonBit HasBit withReason
    cases found : profile.reasonBits.lookup name with
    | some bit =>
        have defined : ∀ row ∈ pixels, ∀ pixel ∈ row, mask pixel = true →
            (some bit).isSome = true := fun _ _ _ _ _ => rfl
        exact ⟨fun returned => ⟨defined, (Except.ok.inj returned).symm⟩,
          fun both => congrArg Except.ok both.2.symm⟩
    | none =>
        refine ⟨fun returned => (by cases returned), fun both => ?_⟩
        cases both.1 row rowMember pixel member set
  · rw [addReason, if_neg needed]
    simp only [List.any_eq_true, not_exists, not_and] at needed
    have clear : ∀ row ∈ pixels, ∀ pixel ∈ row, HasBit profile name mask pixel :=
      fun row rowMember pixel member set => absurd set (needed row rowMember pixel member)
    have unchanged : (pixels.map fun row => row.map (withReason profile name mask)) = pixels := by
      refine (List.map_congr_left fun row rowMember => ?_).trans (List.map_id pixels)
      refine (List.map_congr_left fun pixel member => ?_).trans (List.map_id row)
      exact if_neg (needed row rowMember pixel member)
    rw [unchanged]
    exact ⟨fun returned => ⟨clear, (Except.ok.inj returned).symm⟩,
      fun both => congrArg Except.ok both.2.symm⟩

/-- The bits of all reasons of a pixel are in the encoding. -/
def Reasoned (profile : PreprocessingProfile) (pixel : PixelDraft) : Prop :=
  HasBit profile "outside_mapping" PixelDraft.outsideMapping pixel ∧
    HasBit profile "border" PixelDraft.border pixel ∧
    HasBit profile "insufficient_support" PixelDraft.insufficientSupport pixel

/-- A pixel with all its reasons and its validity. -/
def finalizePixel (profile : PreprocessingProfile) (pixel : PixelDraft) : WarpedPixel :=
  finalPixel profile
    (withReason profile "insufficient_support" PixelDraft.insufficientSupport
      (withReason profile "border" PixelDraft.border
        (withReason profile "outside_mapping" PixelDraft.outsideMapping pixel)))

/-- Adding a reason leaves the border of a pixel alone. -/
@[simp] theorem withReason_border (name : String) (mask : PixelDraft → Bool) (pixel : PixelDraft) :
    (withReason profile name mask pixel).border = pixel.border := by
  unfold withReason
  split <;> rfl

/-- Adding a reason leaves the support of a pixel alone. -/
@[simp] theorem withReason_insufficientSupport (name : String) (mask : PixelDraft → Bool)
    (pixel : PixelDraft) :
    (withReason profile name mask pixel).insufficientSupport = pixel.insufficientSupport := by
  unfold withReason
  split <;> rfl

/-- **The masks are final pixel by pixel.** -/
theorem finalize_eq_ok_iff {pixels : List (List PixelDraft)} {out : List (List WarpedPixel)} :
    finalize profile pixels = .ok out ↔
      (∀ row ∈ pixels, ∀ pixel ∈ row, Reasoned profile pixel) ∧
        out = pixels.map fun row => row.map (finalizePixel profile) := by
  simp only [finalize, bind_eq_ok_iff, addReason_eq_ok_iff, Except.ok.injEq]
  constructor
  · rintro ⟨_, ⟨outside, rfl⟩, _, ⟨border, rfl⟩, _, ⟨support, rfl⟩, rfl⟩
    simp only [List.forall_mem_map, HasBit, withReason_border, withReason_insufficientSupport]
      at border support
    refine ⟨fun row rowMember pixel member => ⟨outside row rowMember pixel member,
      border row rowMember pixel member, support row rowMember pixel member⟩, ?_⟩
    simp only [List.map_map, Function.comp_def]
    rfl
  · rintro ⟨reasoned, rfl⟩
    refine ⟨_, ⟨fun row rowMember pixel member => (reasoned row rowMember pixel member).1, rfl⟩,
      _, ⟨?_, rfl⟩, _, ⟨?_, rfl⟩, ?_⟩
    · simp only [List.forall_mem_map, HasBit, withReason_border]
      exact fun row rowMember pixel member => (reasoned row rowMember pixel member).2.1
    · simp only [List.forall_mem_map, HasBit, withReason_insufficientSupport]
      exact fun row rowMember pixel member => (reasoned row rowMember pixel member).2.2
    · simp only [List.map_map, Function.comp_def]
      rfl

end Masks

/-! ## Strips -/

namespace TransformPlanner

variable {p : TransformPlanner} {source : Source}

/-- A planner of a source has the shape of the source. -/
def Plans (p : TransformPlanner) (source : Source) : Prop :=
  p.sourceRows = source.rows ∧ p.sourceCols = source.cols

/-- The planned pixels of some rows. -/
def planRows (p : TransformPlanner) (resolution : ℚ × ℚ) (rows : List ℕ) :
    List (List PlannedPixel) :=
  rows.map fun row => (List.range p.profile.targetGrid.cols).map (p.planPixel resolution row)

/-- The plan of a strip. -/
def stripPlan (p : TransformPlanner) (resolution : ℚ × ℚ) (strip : ℕ × ℕ) : TransformPlan where
  outputRowStart := strip.1
  outputRowEnd := strip.2
  sourceShape := (p.sourceRows, p.sourceCols)
  sourceRoi := p.roi
  sourceWindow := p.sourceWindow
    ((p.planRows resolution (Chunks.elements strip)).flatten.map PlannedPixel.footprint)
  pixelOffset := p.pixelOffset
  pixels := p.planRows resolution (Chunks.elements strip)

/-- A strip of the target grid is planned, where the grid has a resolution. -/
theorem planStrip_eq {strip : ℕ × ℕ} (nonempty : strip.1 < strip.2)
    (inside : strip.2 ≤ p.profile.targetGrid.rows) {resolution : ℚ × ℚ}
    (known : p.profile.targetGrid.resolution = some resolution) :
    p.planStrip strip.1 strip.2 = .ok (p.stripPlan resolution strip) := by
  rw [planStrip, if_neg (by omega), known]
  rfl

/-- Without a resolution no strip is planned. -/
theorem planStrip_of_none {rowStart rowEnd : ℕ}
    (unknown : p.profile.targetGrid.resolution = none) {plan : TransformPlan} :
    p.planStrip rowStart rowEnd ≠ .ok plan := by
  intro planned
  rw [planStrip, unknown] at planned
  split at planned <;> cases planned

/-- A planned pixel is a pixel of the target grid. -/
theorem exists_of_mem_planRows {resolution : ℚ × ℚ} {rows : List ℕ} {row : List PlannedPixel}
    (rowMember : row ∈ p.planRows resolution rows) {pixel : PlannedPixel} (member : pixel ∈ row) :
    ∃ r c, pixel = p.planPixel resolution r c := by
  obtain ⟨r, -, rfl⟩ := List.mem_map.mp rowMember
  obtain ⟨c, -, rfl⟩ := List.mem_map.mp member
  exact ⟨r, c, rfl⟩

/-- The window of a strip holds every tap of its pixels in the source. -/
theorem stripPlan_contains {resolution : ℚ × ℚ} {strip : ℕ × ℕ} {row : List PlannedPixel}
    (rowMember : row ∈ (p.stripPlan resolution strip).pixels) {pixel : PlannedPixel}
    (member : pixel ∈ row) {kernel : ResampleKernel} (isKernel : kernel ∈ p.kernels) {tap : Tap}
    (isTap : tap ∈ kernelTaps pixel.mapping kernel p.pixelOffset)
    (inRows : 0 ≤ tap.row ∧ tap.row < p.sourceRows)
    (inCols : 0 ≤ tap.col ∧ tap.col < p.sourceCols) :
    (p.stripPlan resolution strip).sourceWindow.Contains tap.row tap.col := by
  have footprint : pixel.footprint ∈ (p.stripPlan resolution strip).pixels.flatten.map
      PlannedPixel.footprint :=
    List.mem_map_of_mem (List.mem_flatten.mpr ⟨row, rowMember, member⟩)
  obtain ⟨r, c, rfl⟩ := exists_of_mem_planRows rowMember member
  obtain ⟨rows, cols⟩ := mem_footprint isKernel isTap
  exact sourceWindow_contains footprint rows cols inRows inCols

/-- **Tap coverage**: the window of a planned strip holds every tap of its pixels in the source. -/
theorem contains_of_planStrip {rowStart rowEnd : ℕ} {plan : TransformPlan}
    (planned : p.planStrip rowStart rowEnd = .ok plan) {row : List PlannedPixel}
    (rowMember : row ∈ plan.pixels) {pixel : PlannedPixel} (member : pixel ∈ row)
    {kernel : ResampleKernel} (isKernel : kernel ∈ p.kernels) {tap : Tap}
    (isTap : tap ∈ kernelTaps pixel.mapping kernel plan.pixelOffset)
    (inRows : 0 ≤ tap.row ∧ tap.row < p.sourceRows)
    (inCols : 0 ≤ tap.col ∧ tap.col < p.sourceCols) :
    plan.sourceWindow.Contains tap.row tap.col := by
  cases known : p.profile.targetGrid.resolution with
  | none => exact absurd planned (planStrip_of_none known)
  | some resolution =>
      have bounds : rowStart < rowEnd ∧ rowEnd ≤ p.profile.targetGrid.rows := by
        by_contra outside
        rw [planStrip, if_pos (by omega)] at planned
        cases planned
      have same := planned.symm.trans (@planStrip_eq p (rowStart, rowEnd) bounds.1 bounds.2 _ known)
      cases same
      exact stripPlan_contains rowMember member isKernel isTap inRows inCols

/-- A row of the target grid warps: the encoding has the bits of the reasons of its pixels. -/
def RowWarps (p : TransformPlanner) (source : Source) (row : ℕ) : Prop :=
  ∃ resolution, p.profile.targetGrid.resolution = some resolution ∧
    ∀ col < p.profile.targetGrid.cols,
      Reasoned p.profile (warpPixel p.profile (source.block source.whole)
        (p.stripPlan resolution (0, 0)) (p.planPixel resolution row col))

/-- A row of the result, from the whole source. -/
def warpedRow (p : TransformPlanner) (source : Source) (row : ℕ) : List WarpedPixel :=
  let resolution := p.profile.targetGrid.resolution.getD (0, 0)
  (List.range p.profile.targetGrid.cols).map fun col =>
    finalizePixel p.profile (warpPixel p.profile (source.block source.whole)
      (p.stripPlan resolution (0, 0)) (p.planPixel resolution row col))

/-- A window that reaches at least as far as another one. -/
def Covers (w v : SourceWindow) : Prop :=
  w.rowStart ≤ v.rowStart ∧ v.rowEnd ≤ w.rowEnd ∧ w.colStart ≤ v.colStart ∧ v.colEnd ≤ w.colEnd

theorem Covers.contains {w v : SourceWindow} (covers : Covers w v) {row col : ℤ}
    (inside : v.Contains row col) : w.Contains row col := by
  obtain ⟨rowStart, rowEnd, colStart, colEnd⟩ := covers
  obtain ⟨rowGe, rowLt, colGe, colLt⟩ := inside
  refine ⟨?_, ?_, ?_, ?_⟩ <;> omega

/-- A pixel of a strip, from a window that reaches as far as the planned one. -/
theorem warpPixel_stripPlan (plans : p.Plans source) {resolution : ℚ × ℚ} {strip : ℕ × ℕ}
    {w : SourceWindow} (covers : Covers w (p.stripPlan resolution strip).sourceWindow)
    {row : List PlannedPixel} (rowMember : row ∈ (p.stripPlan resolution strip).pixels)
    {pixel : PlannedPixel} (member : pixel ∈ row) :
    warpPixel p.profile (source.block w) (p.stripPlan resolution strip) pixel =
      warpPixel p.profile (source.block source.whole) (p.stripPlan resolution (0, 0)) pixel := by
  have shape : (p.stripPlan resolution strip).sourceShape = (source.rows, source.cols) :=
    congrArg₂ Prod.mk plans.1 plans.2
  have inside : RoiInside (p.stripPlan resolution strip) := ⟨p.roi_rows, p.roi_cols⟩
  refine warpPixel_window p.profile shape inside fun kernel isKernel tap isTap inRoi => ?_
  obtain ⟨rowGe, rowLt, colGe, colLt⟩ := inRoi
  have rowEnd : (p.stripPlan resolution strip).sourceRoi.rowEnd ≤ p.sourceRows := p.roi_rows
  have colEnd : (p.stripPlan resolution strip).sourceRoi.colEnd ≤ p.sourceCols := p.roi_cols
  exact covers.contains (stripPlan_contains rowMember member isKernel isTap
    ⟨by omega, by omega⟩ ⟨by omega, by omega⟩)

/-- The warp of a planned strip, from a window that reaches as far as the planned one, is done
row by row, and each row is a row of the warp of the whole source. -/
theorem warp_stripPlan_eq_ok_iff (plans : p.Plans source) {resolution : ℚ × ℚ}
    (known : p.profile.targetGrid.resolution = some resolution) {strip : ℕ × ℕ} {w : SourceWindow}
    (covers : Covers w (p.stripPlan resolution strip).sourceWindow)
    (out : List (List WarpedPixel)) :
    warp p.profile (source.block w) (p.stripPlan resolution strip) = .ok out ↔
      (∀ row ∈ Chunks.elements strip, p.RowWarps source row) ∧
        out = (Chunks.elements strip).map (p.warpedRow source) := by
  have shape : (source.block w).sourceShape = (p.stripPlan resolution strip).sourceShape :=
    congrArg₂ Prod.mk plans.1.symm plans.2.symm
  have drafts : (p.stripPlan resolution strip).pixels.map (fun row =>
        row.map (warpPixel p.profile (source.block w) (p.stripPlan resolution strip))) =
      (p.stripPlan resolution strip).pixels.map fun row =>
        row.map (warpPixel p.profile (source.block source.whole)
          (p.stripPlan resolution (0, 0))) :=
    List.map_congr_left fun row rowMember => List.map_congr_left fun pixel member =>
      warpPixel_stripPlan plans covers rowMember member
  have reaches : ¬((p.stripPlan resolution strip).sourceWindow.isEmpty = false ∧
      ((source.block w).rowStart > (p.stripPlan resolution strip).sourceWindow.rowStart ∨
        (source.block w).rowStart + (source.block w).height <
          (p.stripPlan resolution strip).sourceWindow.rowEnd ∨
        (source.block w).colStart > (p.stripPlan resolution strip).sourceWindow.colStart ∨
        (source.block w).colStart + (source.block w).width <
          (p.stripPlan resolution strip).sourceWindow.colEnd)) := by
    obtain ⟨rowStart, rowEnd, colStart, colEnd⟩ := covers
    simp only [Source.block]
    omega
  simp only [warp]
  rw [if_neg (not_not.mpr shape), if_neg reaches, drafts, finalize_eq_ok_iff]
  have pixels : (p.stripPlan resolution strip).pixels =
      p.planRows resolution (Chunks.elements strip) := rfl
  simp only [pixels, planRows, List.forall_mem_map, List.map_map, Function.comp_def]
  have rows : p.warpedRow source = fun row =>
      (List.range p.profile.targetGrid.cols).map fun col =>
        finalizePixel p.profile (warpPixel p.profile (source.block source.whole)
          (p.stripPlan resolution (0, 0)) (p.planPixel resolution row col)) := by
    funext row
    rw [warpedRow, known, Option.getD_some]
  rw [rows]
  refine and_congr (forall₂_congr fun row _ => ?_) Iff.rfl
  simp only [RowWarps, known, Option.some.injEq, exists_eq_left', List.mem_range]

/-- A strip, from the window that its plan requests. -/
theorem warpStrip_eq_ok_iff (plans : p.Plans source) {strip : ℕ × ℕ} (nonempty : strip.1 < strip.2)
    (inside : strip.2 ≤ p.profile.targetGrid.rows) (out : List (List WarpedPixel)) :
    p.warpStrip source strip = .ok out ↔
      (∀ row ∈ Chunks.elements strip, p.RowWarps source row) ∧
        out = (Chunks.elements strip).map (p.warpedRow source) := by
  cases known : p.profile.targetGrid.resolution with
  | none =>
      refine ⟨fun returned => ?_, fun both => ?_⟩
      · obtain ⟨plan, planned, -⟩ := bind_eq_ok_iff.mp returned
        exact absurd planned (planStrip_of_none known)
      · obtain ⟨resolution, found, -⟩ :=
          both.1 strip.1 (Chunks.mem_elements.mpr ⟨le_rfl, nonempty⟩)
        cases known.symm.trans found
  | some resolution =>
      obtain ⟨rows, cols⟩ := p.sourceWindow_le
        ((p.planRows resolution (Chunks.elements strip)).flatten.map PlannedPixel.footprint)
      have read : source.readWindow (p.stripPlan resolution strip).sourceWindow =
          .ok (source.block (p.stripPlan resolution strip).sourceWindow) :=
        if_neg (not_or.mpr ⟨not_lt.mpr (rows.trans plans.1.le),
          not_lt.mpr (cols.trans plans.2.le)⟩)
      have steps : p.warpStrip source strip = warp p.profile
          (source.block (p.stripPlan resolution strip).sourceWindow)
          (p.stripPlan resolution strip) := by
        rw [warpStrip, planStrip_eq nonempty inside known]
        change (source.readWindow _ >>= _) = _
        rw [read]
        rfl
      rw [steps, warp_stripPlan_eq_ok_iff plans known ⟨le_rfl, le_rfl, le_rfl, le_rfl⟩]

/-- **The strips of a target grid**, whatever their size, are its rows warped from the source. -/
theorem warpStrips_eq_ok_iff (plans : p.Plans source) (stripRows : ℕ+)
    (out : List (List WarpedPixel)) :
    p.warpStrips source stripRows = .ok out ↔
      (∀ row ∈ List.range' 0 p.profile.targetGrid.rows, p.RowWarps source row) ∧
        out = (List.range' 0 p.profile.targetGrid.rows).map (p.warpedRow source) := by
  have chunkwise (strip : ℕ × ℕ)
      (member : strip ∈ Chunks.bounds p.profile.targetGrid.rows stripRows) :=
    warpStrip_eq_ok_iff plans (Chunks.lt_of_mem_bounds member).1
      (Chunks.lt_of_mem_bounds member).2
  rw [warpStrips, stripBounds, Chunks.mapM_flatten_eq_ok_iff chunkwise, Chunks.flatten_elements]

/-- The whole source as one strip gives the rows warped from the source. -/
theorem warpWhole_eq_ok_iff (plans : p.Plans source) (nonempty : 0 < p.profile.targetGrid.rows)
    (out : List (List WarpedPixel)) :
    p.warpWhole source = .ok out ↔
      (∀ row ∈ List.range' 0 p.profile.targetGrid.rows, p.RowWarps source row) ∧
        out = (List.range' 0 p.profile.targetGrid.rows).map (p.warpedRow source) := by
  cases known : p.profile.targetGrid.resolution with
  | none =>
      refine ⟨fun returned => ?_, fun both => ?_⟩
      · obtain ⟨plan, planned, -⟩ := bind_eq_ok_iff.mp returned
        exact absurd planned (planStrip_of_none known)
      · obtain ⟨resolution, found, -⟩ := both.1 0 (List.mem_range'_1.mpr (by omega))
        cases known.symm.trans found
  | some resolution =>
      have strip := @planStrip_eq p (0, p.profile.targetGrid.rows) nonempty le_rfl _ known
      have read : source.readWindow source.whole = .ok (source.block source.whole) :=
        if_neg (not_or.mpr ⟨lt_irrefl _, lt_irrefl _⟩)
      have steps : p.warpWhole source = warp p.profile (source.block source.whole)
          (p.stripPlan resolution (0, p.profile.targetGrid.rows)) := by
        rw [warpWhole, strip]
        change (source.readWindow _ >>= _) = _
        rw [read]
        rfl
      obtain ⟨rows, cols⟩ := p.sourceWindow_le ((p.planRows resolution
        (Chunks.elements (0, p.profile.targetGrid.rows))).flatten.map PlannedPixel.footprint)
      rw [steps, warp_stripPlan_eq_ok_iff plans known ⟨Nat.zero_le _, rows.trans plans.1.le,
        Nat.zero_le _, cols.trans plans.2.le⟩]
      rfl

/-- A new planner has the profile and the shape of its source. -/
theorem of_new_eq_ok {profile : PreprocessingProfile} {calibration : CalibrationBundle}
    {rows cols : ℕ} (created : new profile calibration rows cols = .ok p) :
    p.profile = profile ∧ p.sourceRows = rows ∧ p.sourceCols = cols := by
  unfold new at created
  split_ifs at created
  · cases created
  · cases created
  · cases created
  · cases created
  · cases created
  · obtain ⟨roi, -, rest⟩ := bind_eq_ok_iff.mp created
    obtain ⟨affine, -, result⟩ := bind_eq_ok_iff.mp rest
    cases result
    exact ⟨rfl, rfl, rfl⟩
  · cases created

end TransformPlanner

/-- **Strip independence**: whatever the profile, the calibration and the source, strips of any two
sizes, each warped from the window its plan requests, give the same result, which is the warp of
the target grid as one strip that is given the whole source; and the window of every planned strip
holds every tap of its pixels in the source. -/
theorem stripIndependence (profile : PreprocessingProfile) (calibration : CalibrationBundle)
    (source : Source) (stripRows stripRows' : ℕ+) :
    (∀ out, preprocessStrips profile calibration source stripRows = .ok out ↔
        preprocessStrips profile calibration source stripRows' = .ok out) ∧
      (0 < profile.targetGrid.rows → ∀ out,
        preprocessStrips profile calibration source stripRows = .ok out ↔
          preprocessWhole profile calibration source = .ok out) ∧
      ∀ planner, TransformPlanner.new profile calibration source.rows source.cols = .ok planner →
        ∀ rowStart rowEnd plan, planner.planStrip rowStart rowEnd = .ok plan →
          ∀ row ∈ plan.pixels, ∀ pixel ∈ row, ∀ kernel ∈ planner.kernels,
            ∀ tap ∈ kernelTaps pixel.mapping kernel plan.pixelOffset,
              0 ≤ tap.row ∧ tap.row < source.rows → 0 ≤ tap.col ∧ tap.col < source.cols →
                plan.sourceWindow.Contains tap.row tap.col := by
  refine ⟨fun out => ?_, fun nonempty out => ?_, ?_⟩
  · cases created : TransformPlanner.new profile calibration source.rows source.cols with
    | error e => simp [preprocessStrips, created, bind, Except.bind]
    | ok planner =>
        obtain ⟨-, plans⟩ := TransformPlanner.of_new_eq_ok created
        simp only [preprocessStrips, created, bind, Except.bind]
        rw [TransformPlanner.warpStrips_eq_ok_iff plans,
          TransformPlanner.warpStrips_eq_ok_iff plans]
  · cases created : TransformPlanner.new profile calibration source.rows source.cols with
    | error e => simp [preprocessStrips, preprocessWhole, created, bind, Except.bind]
    | ok planner =>
        obtain ⟨rfl, plans⟩ := TransformPlanner.of_new_eq_ok created
        simp only [preprocessStrips, preprocessWhole, created, bind, Except.bind]
        rw [TransformPlanner.warpStrips_eq_ok_iff plans,
          TransformPlanner.warpWhole_eq_ok_iff plans nonempty]
  · intro planner created rowStart rowEnd plan planned row rowMember pixel member kernel isKernel
      tap isTap inRows inCols
    obtain ⟨-, rows, cols⟩ := TransformPlanner.of_new_eq_ok created
    rw [← rows] at inRows
    rw [← cols] at inCols
    exact TransformPlanner.contains_of_planStrip planned rowMember member isKernel isTap inRows
      inCols

end CubeNano

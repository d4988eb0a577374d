import CubeNano.SatAi.Roi
import CubeNano.SatAi.ThresholdLut

/-!
# Classification of a region

`_infer_region_classification` of `sat_ai/inference.py`: every window of the region of interest is
classified as cloudy or not, and the coverage is the area of the cloudy parts.  The network with
its input normalization is a parameter.

Progress reports, latencies, read counters and the identifiers that are copied into the result are
not modelled.

## Main definitions

* `ModelRuntime`, `InferenceConfig`, `ClassificationResult`
* `inferRegionClassification`

## Main statements

* `classification_coverage` — the windows tile the region, and the areas count the pixels
-/

namespace CubeNano

open GridTiling

/-! ## The runtime -/

/-- The statuses of `domain_status`. -/
inductive DomainStatus
  | verified
  | domainUnverified
  | domainMismatch
  deriving DecidableEq

/-- The constraints of `domain_status`, with the keys they are about. -/
def domainKeys : List (String × String) :=
  [("sensor_ids", "sensor_id"), ("platform_ids", "platform_id"),
    ("product_types", "product_type"), ("processing_levels", "processing_level")]

/-- `domain_status` of supported domains.  The domain gives a value as `str` shows it. -/
def domainStatus (supported : String → List String) : Option (String → Option String) →
    DomainStatus
  | none => .domainUnverified
  | some domain =>
      let constraints := domainKeys.filter fun keys => supported keys.1 ≠ []
      if constraints.any fun keys =>
          (domain keys.2).all fun actual => !(supported keys.1).contains actual then
        .domainMismatch
      else if constraints = [] then .domainUnverified else .verified

/-- `SingletonModelRuntime` of a classifier. -/
structure ModelRuntime where
  /-- `manifest.input_spec.patch_size`. -/
  patchSize : ℤ
  /-- `manifest.supported_domains`. -/
  supportedDomains : String → List String
  /-- The outputs of the network for a batch, one after the other. -/
  model : List (Plane Pixel) → List PyFloat

/-- `infer_logits`. -/
def ModelRuntime.inferLogits (runtime : ModelRuntime) (batch : List (Plane Pixel)) :
    Raises (List PyFloat) :=
  let outputs := runtime.model batch
  if ¬ outputs.all PyFloat.isFinite then valueError "model returned non-finite output"
  else if outputs.length ≠ batch.length then
    valueError "classifier returned unexpected output shape"
  else .ok outputs

/-- `InferenceConfig`. -/
structure InferenceConfig where
  config : ConfigSnapshot
  lut : ThresholdLut

/-! ## Classification -/

/-- `science_decision`. -/
inductive ScienceDecision
  | accepted
  | rejected
  deriving DecidableEq

/-- What `_infer_region_classification` returns. -/
structure ClassificationResult where
  roi : Roi
  patchCount : ℕ
  analyzedArea : ℕ
  cloudPositiveArea : ℕ
  cloudPositiveTileAreaRatioBp : ℕ
  coverageLimitBp : U16
  modelThresholdBp : U16
  scienceDecision : ScienceDecision
  scienceStatus : String
  cloudMask : Plane UInt8

/-- The pixels of the region of interest in a window, seen from the origin of the region. -/
def maskSlice (roi : Roi) (w : PatchWindow) : Plane.Slice :=
  ⟨(max w.y roi.y.val : ℕ) - (roi.y.val : ℤ),
    (min (w.y + w.sceneHeight) roi.yEnd : ℕ) - (roi.y.val : ℤ),
    (max w.x roi.x.val : ℕ) - (roi.x.val : ℤ),
    (min (w.x + w.sceneWidth) roi.xEnd : ℕ) - (roi.x.val : ℤ)⟩

/-- The patch of a window all of whose pixels in the scene are valid. -/
def validPatch (scene : SceneWindow) (w : PatchWindow) : Raises (Plane Pixel) := do
  let (patch, valid) ← buildPaddedPatch scene w
  let inScene := valid.view ⟨0, w.sceneHeight, 0, w.sceneWidth⟩
  if inScene.count id < inScene.height * inScene.width then
    insufficientValidData "strict full-patch validity policy failed"
  else .ok patch

/-- The flags of one batch. -/
def classifyBatch (scene : SceneWindow) (runtime : ModelRuntime) (config : InferenceConfig)
    (batch : List PatchWindow) : Raises (List Bool) := do
  let patches ← batch.mapM (validPatch scene)
  let logits ← runtime.inferLogits patches
  logits.mapM fun logit => config.lut.classify logit config.config.modelThresholdBp

/-- The flags of all windows, `size` at a time. -/
def classifyWindows (scene : SceneWindow) (runtime : ModelRuntime) (config : InferenceConfig)
    (size : ℕ) (windows : List PatchWindow) : Raises (List Bool) := do
  let batches := (List.range' 0 ((windows.length + (size - 1)) / size) size).map fun start =>
    (windows.drop start).take size
  let flags ← batches.mapM (classifyBatch scene runtime config)
  .ok flags.flatten

/-- The weights of the cloudy windows, added up. -/
def cloudArea (flagged : List (PatchWindow × Bool)) : ℕ :=
  ((flagged.filter Prod.snd).map fun entry => entry.1.roiWeight).sum

/-- The mask with the cloudy windows at 255. -/
def cloudMaskOf (roi : Roi) (flagged : List (PatchWindow × Bool)) : Plane UInt8 :=
  (flagged.filter Prod.snd).foldl (fun mask entry => mask.fill (maskSlice roi entry.1) 255)
    (Plane.constant roi.height.val roi.width.val 0)

/-- `_infer_region_classification` after its checks, for the windows of a region. -/
def classifyRegion (scene : SceneWindow) (roi : Roi) (runtime : ModelRuntime)
    (config : InferenceConfig) (batchSize : ℤ) (status : DomainStatus)
    (windows : List PatchWindow) : Raises ClassificationResult := do
  let cloudFlags ← classifyWindows scene runtime config batchSize.toNat windows
  let cloudPositiveArea := cloudArea (windows.zip cloudFlags)
  let analyzedArea := (windows.map PatchWindow.roiWeight).sum
  let ratioBp ← coverageRatioBp cloudPositiveArea analyzedArea
  let accepted ← coverageAccepted cloudPositiveArea analyzedArea config.config.coverageLimitBp
  .ok
    { roi, analyzedArea, cloudPositiveArea
      patchCount := windows.length
      cloudPositiveTileAreaRatioBp := ratioBp
      coverageLimitBp := config.config.coverageLimitBp
      modelThresholdBp := config.config.modelThresholdBp
      scienceDecision := if accepted then .accepted else .rejected
      scienceStatus :=
        if status = .domainUnverified then "DOMAIN_UNVERIFIED" else "demo_non_validated"
      cloudMask := cloudMaskOf roi (windows.zip cloudFlags) }

/-- `_infer_region_classification`. -/
def inferRegionClassification (scene : SceneWindow) (roi : Roi) (runtime : ModelRuntime)
    (config : InferenceConfig) (batchSize : ℤ) (domain : Option (String → Option String)) :
    Raises ClassificationResult :=
  if (roi.width.val : ℤ) < runtime.patchSize ∨ (roi.height.val : ℤ) < runtime.patchSize then
    valueError "ROI width and height must be at least patch_size"
  else do
    let windows ← iterPatchWindows scene.source.height scene.source.width roi runtime.patchSize
    if windows = [] then valueError "ROI does not intersect the scene"
    else if batchSize ≤ 0 then valueError "batch_size must be positive"
    else
      let status := domainStatus runtime.supportedDomains domain
      if status = .domainMismatch then valueError "DOMAIN_MISMATCH"
      else classifyRegion scene roi runtime config batchSize status windows

/-! ## The mask -/

/-- The part of the region of interest in a window, seen from the origin of the region. -/
def maskRect (roi : Roi) (w : PatchWindow) : Rect := (w.roiRect roi).shift roi.y.val roi.x.val

section Mask

variable {height width : ℕ} {roi : Roi} {patchSize : ℤ} {windows : List PatchWindow}

/-- The region of interest, seen from its origin, is the mask. -/
theorem shift_rect (roi : Roi) :
    roi.rect.shift roi.y.val roi.x.val = ⟨0, roi.height.val, 0, roi.width.val⟩ := by
  simp only [Rect.shift, Roi.rect, Roi.yEnd, Roi.xEnd, Nat.sub_self, Nat.add_sub_cancel_left]

/-- The parts of the windows tile the mask. -/
theorem maskRect_tiles (given : iterPatchWindows height width roi patchSize = .ok windows) :
    Tiles (windows.map (maskRect roi)) ⟨0, roi.height.val, 0, roi.width.val⟩ := by
  have tiles : Tiles _ (roi.rect.shift roi.y.val roi.x.val) :=
    (iterPatchWindows_tiles given).1.shift le_rfl le_rfl
  rw [shift_rect, List.map_map] at tiles
  exact tiles

/-- The slice that is filled for a window. -/
theorem rect_maskSlice (given : iterPatchWindows height width roi patchSize = .ok windows)
    {w : PatchWindow} (mem : w ∈ windows) :
    (maskSlice roi w).rect roi.height.val roi.width.val = maskRect roi w := by
  have memRect := List.mem_map_of_mem (f := PatchWindow.roiRect roi) mem
  obtain ⟨wide, tall⟩ := Rect.area_pos_iff.mp ((iterPatchWindows_tiles given).1.positive _ memRect)
  dsimp only [PatchWindow.roiRect, Roi.xEnd, Roi.yEnd] at wide tall
  have slice : maskSlice roi w = ⟨(maskRect roi w).top, (maskRect roi w).bottom,
      (maskRect roi w).left, (maskRect roi w).right⟩ := by
    simp only [maskSlice, maskRect, Rect.shift, PatchWindow.roiRect, Roi.xEnd, Roi.yEnd]
    congr 1 <;> omega
  rw [slice]
  refine Plane.Slice.rect_natCast ?_ ?_
  · simp only [maskRect, Rect.shift, PatchWindow.roiRect, Roi.yEnd]
    omega
  · simp only [maskRect, Rect.shift, PatchWindow.roiRect, Roi.xEnd]
    omega

/-- The mask is the region with the parts of the cloudy windows over it. -/
theorem cloudMaskOf_eq (given : iterPatchWindows height width roi patchSize = .ok windows)
    {flagged : List (PatchWindow × Bool)} (fromWindows : ∀ entry ∈ flagged, entry.1 ∈ windows) :
    cloudMaskOf roi flagged =
      (Plane.constant roi.height.val roi.width.val 0).overlays
        (((flagged.filter Prod.snd).map fun entry => maskRect roi entry.1).map fun r =>
          (r, fun _ _ => 255)) := by
  have step : ∀ (cloudy : List (PatchWindow × Bool)) (mask : Plane UInt8),
      (∀ entry ∈ cloudy, entry.1 ∈ windows) → mask.height = roi.height.val →
        mask.width = roi.width.val →
          cloudy.foldl (fun mask entry => mask.fill (maskSlice roi entry.1) (255 : UInt8)) mask =
            mask.overlays ((cloudy.map fun entry => maskRect roi entry.1).map fun r =>
              (r, fun _ _ => 255)) := by
    intro cloudy
    induction cloudy with
    | nil => exact fun _ _ _ _ => rfl
    | cons entry rest ih =>
        intro mask all rows columns
        obtain ⟨first, later⟩ := List.forall_mem_cons.mp all
        have filled : mask.fill (maskSlice roi entry.1) 255 =
            mask.overlay (maskRect roi entry.1) fun _ _ => 255 := by
          rw [Plane.fill, rows, columns, rect_maskSlice given first]
        rw [List.foldl_cons, filled]
        exact ih _ later rows columns
  exact step _ _ (fun entry mem => fromWindows entry (List.mem_filter.mp mem).1) rfl rfl

/-- The windows that have a flag. -/
theorem sublist_map_fst_zip {α β : Type} (items : List α) (flags : List β) :
    ((items.zip flags).map Prod.fst).Sublist items := by
  induction items generalizing flags with
  | nil => exact List.Sublist.refl []
  | cons item rest ih =>
      cases flags with
      | nil => exact List.nil_sublist _
      | cons flag flags => exact (ih flags).cons_cons item

/-- The areas of the cloudy windows count the pixels of the mask. -/
theorem cloudArea_eq_count (given : iterPatchWindows height width roi patchSize = .ok windows)
    (flags : List Bool) :
    cloudArea (windows.zip flags) =
      (cloudMaskOf roi (windows.zip flags)).count (fun v => v = 255) := by
  have sub : (((windows.zip flags).filter Prod.snd).map Prod.fst).Sublist windows := by
    exact (List.filter_sublist.map _).trans (sublist_map_fst_zip windows flags)
  have tiles := maskRect_tiles given
  have fromWindows : ∀ entry ∈ windows.zip flags, entry.1 ∈ windows :=
    fun entry mem => (List.of_mem_zip mem).1
  rw [cloudMaskOf_eq given fromWindows, Plane.count_overlays]
  · rw [cloudArea, List.map_map]
    refine congrArg List.sum (List.map_congr_left fun entry mem => ?_)
    have memWindow := fromWindows entry (List.mem_filter.mp mem).1
    rw [(iterPatchWindows_tiles given).2 entry.1 memWindow]
    exact (Rect.area_shift (le_max_right _ _) (le_max_right _ _)).symm
  · have sameRects : ((windows.zip flags).filter Prod.snd).map (fun entry => maskRect roi entry.1) =
        (((windows.zip flags).filter Prod.snd).map Prod.fst).map (maskRect roi) := by
      rw [List.map_map]
      rfl
    rw [sameRects]
    exact tiles.apart.sublist (sub.map _)
  · intro r mem cell inside
    obtain ⟨entry, memEntry, rfl⟩ := List.mem_map.mp mem
    have memWindow := fromWindows entry (List.mem_filter.mp memEntry).1
    exact (tiles.covers cell).mpr ⟨_, List.mem_map_of_mem memWindow, inside⟩
  · exact fun _ _ => by simp [Plane.constant]

end Mask

/-! ## Coverage -/

/-- The windows cut a region of interest, each weighted with the size of its part. -/
structure CutsRegion (roi : Roi) (windows : List PatchWindow) : Prop where
  tiles : Tiles (windows.map (PatchWindow.roiRect roi)) roi.rect
  weight : ∀ w ∈ windows, 0 < w.roiWeight ∧ w.roiWeight = (w.roiRect roi).cells.card
  sum_weights : (windows.map PatchWindow.roiWeight).sum = roi.width.val * roi.height.val

/-- A result counts the pixels of the region of interest, and decides by the counts. -/
structure CountsCoverage (roi : Roi) (limit : U16) (result : ClassificationResult) : Prop where
  mask : result.cloudMask.height = roi.height.val ∧ result.cloudMask.width = roi.width.val
  cloud : result.cloudPositiveArea = result.cloudMask.count fun v => v = 255
  analyzed : result.analyzedArea = roi.width.val * roi.height.val
  accepted_iff : result.scienceDecision = .accepted ↔
    result.cloudPositiveArea * 10000 < limit.val * result.analyzedArea
  ratio : result.cloudPositiveTileAreaRatioBp =
    result.cloudPositiveArea * 10000 / result.analyzedArea
  ratio_lt : result.scienceDecision = .accepted → result.cloudPositiveTileAreaRatioBp < limit.val

/-- The windows of a region of interest cut it. -/
theorem cutsRegion {height width : ℕ} {roi : Roi} {patchSize : ℤ} {windows : List PatchWindow}
    (given : iterPatchWindows height width roi patchSize = .ok windows) :
    CutsRegion roi windows := by
  obtain ⟨tiles, weights⟩ := iterPatchWindows_tiles given
  refine ⟨tiles, fun w mem => ⟨?_, ?_⟩, ?_⟩
  · rw [weights w mem]
    exact tiles.positive _ (List.mem_map_of_mem mem)
  · rw [weights w mem, Rect.card_cells]
  · rw [List.map_congr_left weights, ← roi.area_rect, ← tiles.sum_area, List.map_map]
    rfl

/-- What a classification that returns has computed. -/
theorem of_inferRegionClassification {scene : SceneWindow} {roi : Roi} {runtime : ModelRuntime}
    {config : InferenceConfig} {batchSize : ℤ} {domain : Option (String → Option String)}
    {result : ClassificationResult}
    (returned : inferRegionClassification scene roi runtime config batchSize domain = .ok result) :
    ∃ windows flags ratio accepted,
      iterPatchWindows scene.source.height scene.source.width roi runtime.patchSize =
        .ok windows ∧
      coverageRatioBp (cloudArea (windows.zip flags)) (windows.map PatchWindow.roiWeight).sum =
        .ok ratio ∧
      coverageAccepted (cloudArea (windows.zip flags)) (windows.map PatchWindow.roiWeight).sum
        config.config.coverageLimitBp = .ok accepted ∧
      result.cloudPositiveArea = cloudArea (windows.zip flags) ∧
      result.analyzedArea = (windows.map PatchWindow.roiWeight).sum ∧
      result.cloudPositiveTileAreaRatioBp = ratio ∧
      result.scienceDecision = (if accepted then .accepted else .rejected) ∧
      result.cloudMask = cloudMaskOf roi (windows.zip flags) := by
  rw [inferRegionClassification] at returned
  split at returned
  · exact nomatch returned
  obtain ⟨windows, given, returned⟩ := bind_eq_ok_iff.mp returned
  split at returned
  · exact nomatch returned
  split at returned
  · exact nomatch returned
  dsimp only at returned
  split at returned
  · exact nomatch returned
  rw [classifyRegion] at returned
  obtain ⟨flags, -, returned⟩ := bind_eq_ok_iff.mp returned
  obtain ⟨ratio, rounded, returned⟩ := bind_eq_ok_iff.mp returned
  obtain ⟨accepted, decided, returned⟩ := bind_eq_ok_iff.mp returned
  cases returned
  exact ⟨windows, flags, ratio, accepted, given, rounded, decided, rfl, rfl, rfl, rfl, rfl⟩

/-- **The coverage of a classification.**  The windows of a region of interest within the scene cut
it, and whatever the network answers, the areas of a result count pixels and decide. -/
theorem classification_coverage {scene : SceneWindow} {roi : Roi} {runtime : ModelRuntime}
    (inside : roi.xEnd ≤ scene.source.width ∧ roi.yEnd ≤ scene.source.height)
    (positive : 0 < runtime.patchSize) :
    (∃ windows,
      iterPatchWindows scene.source.height scene.source.width roi runtime.patchSize =
        .ok windows ∧ CutsRegion roi windows) ∧
    ∀ config batchSize domain result,
      inferRegionClassification scene roi runtime config batchSize domain = .ok result →
        CountsCoverage roi config.config.coverageLimitBp result := by
  constructor
  · have given := iterPatchWindows_eq_ok_iff.mpr ⟨positive, inside, rfl⟩
    exact ⟨_, given, cutsRegion given⟩
  · intro config batchSize domain result returned
    obtain ⟨windows, flags, ratio, accepted, given, rounded, decided, cloud, analyzed, ratioEq,
      decision, mask⟩ := of_inferRegionClassification returned
    obtain ⟨-, areaPos, -, ratioIs⟩ := coverageRatioBp_eq_ok_iff.mp rounded
    obtain ⟨-, -, -, -, -, acceptedIs⟩ := coverageAccepted_eq_ok_iff.mp decided
    have shape : (cloudMaskOf roi (windows.zip flags)).height = roi.height.val ∧
        (cloudMaskOf roi (windows.zip flags)).width = roi.width.val := by
      rw [cloudMaskOf_eq given fun entry mem => (List.of_mem_zip mem).1]
      exact Plane.shape_overlays _ _
    have acceptedIff : result.scienceDecision = .accepted ↔ accepted = true := by
      rw [decision]
      cases accepted <;> decide
    have below : accepted = true ↔ cloudArea (windows.zip flags) * 10000 <
        config.config.coverageLimitBp.val * (windows.map PatchWindow.roiWeight).sum := by
      rw [acceptedIs, decide_eq_true_iff]
    refine ⟨mask ▸ shape, ?_, ?_, ?_, ?_, fun isAccepted => ?_⟩
    · rw [cloud, mask]
      exact cloudArea_eq_count given flags
    · rw [analyzed]
      exact (cutsRegion given).sum_weights
    · rw [acceptedIff, below, cloud, analyzed]
    · rw [ratioEq, cloud, analyzed, ratioIs]
    · rw [ratioEq, ratioIs]
      exact ratio_lt_of_accepted areaPos (below.mp (acceptedIff.mp isAccepted))

/-- A scene of four rows and five columns with a bright column. -/
def brightColumn : SceneWindow where
  source := ⟨4, 5, fun _ column _ => if column = 2 then 1 else 0⟩
  validity := .allValid
  fits := trivial

/-- A region that cuts windows of two rows and columns. -/
def cuttingRegion : Roi where
  x := 1
  y := 1
  width := 3
  height := 2
  extent_pos := by decide

/-- A network that finds a window cloudy by its first pixel. -/
def firstPixelRuntime : ModelRuntime where
  patchSize := 2
  supportedDomains := fun _ => []
  model := fun batch => batch.map fun patch =>
    .finite (if patch.cell 0 0 0 = 0 then -1 else 1)

theorem zeroThresholds_inRange : (5000 : U16).val ≤ 10000 ∧ (6000 : U16).val ≤ 10000 := by decide

/-- A configuration whose thresholds are 0. -/
def zeroThresholds : InferenceConfig where
  config := ⟨1, 1, 5000, 6000, zeroThresholds_inRange⟩
  lut := ⟨List.replicate (lutEntries * 4) 0, List.length_replicate⟩

theorem classification_coverage_sample :
    (∃ windows, iterPatchWindows 4 5 cuttingRegion 2 = .ok windows ∧
      CutsRegion cuttingRegion windows) ∧
    ∃ result, inferRegionClassification brightColumn cuttingRegion firstPixelRuntime zeroThresholds
        3 none = .ok result ∧
      (result.cloudPositiveArea = 4 ∧ result.analyzedArea = 6) ∧
      CountsCoverage cuttingRegion zeroThresholds.config.coverageLimitBp result := by
  have right := @classification_coverage brightColumn cuttingRegion firstPixelRuntime (by decide)
    (by decide)
  refine ⟨right.1, ?_⟩
  have areas : (inferRegionClassification brightColumn cuttingRegion firstPixelRuntime
      zeroThresholds 3 none).toOption.map (fun r => (r.cloudPositiveArea, r.analyzedArea)) =
        some (4, 6) := by
    decide +kernel
  cases returned : inferRegionClassification brightColumn cuttingRegion firstPixelRuntime
      zeroThresholds 3 none with
  | error e =>
      rw [returned] at areas
      exact nomatch areas
  | ok result =>
      rw [returned] at areas
      obtain ⟨cloud, analyzed⟩ := Prod.ext_iff.mp (Option.some.inj areas)
      exact ⟨result, rfl, ⟨cloud, analyzed⟩, right.2 _ _ _ _ returned⟩

end CubeNano

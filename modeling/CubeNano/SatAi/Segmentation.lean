import CubeNano.SatAi.Classification

/-!
# Segmentation of a region

`_infer_region_segmentation` of `sat_ai/inference.py` with `postprocess_segmentation_logits` of
`sat_ai/segmentation.py`: the pixels of the region of interest are found cloudy or clear window by
window, and the coverage is a share of the valid ones.  The network, the softmax with its
interpolation, and the conversion to 32-bit floats are parameters.

Progress reports, latencies, read counters and the identifiers that are copied into the result are
not modelled.

## Main definitions

* `SegmentationRuntime`, `SegmentationResult`, `inferRegionSegmentation`
* `validAtRoi`, `cloudAtRoi` — what a pixel of the region is to be

## Main statements

* `segmentWindows_spec` — what the loop over the windows writes
* `segmentation_samples` — when a segmentation ends as it is to
-/

namespace CubeNano

open GridTiling

/-! ## Contracts -/

/-- `np.isfinite(outputs).all()`. -/
def isFinite (outputs : Tensor PyFloat) : Bool := outputs.all PyFloat.isFinite

/-- `ModelOutputSpec.shape`, which its `validate` pins. -/
def outputShape : List ℕ := [1, 2, 64, 64]

/-- `ProductSpec`, with the check of its `validate` on the values of the masks. -/
structure ProductSpec where
  clearValue : UInt8
  cloudValue : UInt8
  invalidValue : UInt8
  validValue : UInt8
  cloud_pinned : clearValue = 0 ∧ cloudValue = 255
  validity_pinned : invalidValue = 0 ∧ validValue = 1

/-- The numbers of a `DecisionSpec`, with the checks of `_basis_points`. -/
structure SatAi.DecisionSpec where
  pixelCloudProbabilityThresholdBp : U16
  coverageLimitBp : U16
  minValidPixelRatioBp : U16
  threshold_le : pixelCloudProbabilityThresholdBp.val ≤ 10000
  limit_le : coverageLimitBp.val ≤ 10000
  ratio_le : minValidPixelRatioBp.val ≤ 10000

/-- `DecisionSpec.matches_config`. -/
def SatAi.DecisionSpec.matchesConfig (decision : SatAi.DecisionSpec)
    (pixelThresholdBp limitBp : U16) : Bool :=
  pixelThresholdBp = decision.pixelCloudProbabilityThresholdBp ∧
    limitBp = decision.coverageLimitBp

/-- A runtime with a segmentation model, and the contracts of its manifest. -/
structure SegmentationRuntime where
  /-- `manifest.input_spec.patch_size`. -/
  patchSize : ℕ
  /-- `manifest.output_spec.output_stride`. -/
  outputStride : ℕ
  patchSize_eq : patchSize = 256
  outputStride_eq : outputStride = 4
  supportedDomains : String → List String
  assuranceLevel : String
  decision : SatAi.DecisionSpec
  product : ProductSpec
  /-- The network, with its input normalization. -/
  model : Plane Pixel → Tensor PyFloat
  /-- The channel of the clouds of `cloud_probabilities_from_logits`: softmax, then bilinear
  interpolation to a number of rows and columns. -/
  cloudProbability : Tensor PyFloat → ℕ → ℕ → Plane PyFloat
  /-- `np.float32`. -/
  float32 : ℚ → PyFloat

namespace SegmentationRuntime

variable (runtime : SegmentationRuntime)

/-- `infer_outputs` of one patch. -/
def inferOutputs (patch : Plane Pixel) : Raises (Tensor PyFloat) :=
  if [patch.height, patch.width] ≠ [runtime.patchSize, runtime.patchSize] then
    valueError ("expected batch shape (N, 3, " ++ toString runtime.patchSize ++ ", " ++
      toString runtime.patchSize ++ "), got " ++ shapeText [1, 3, patch.height, patch.width])
  else
    let outputs := runtime.model patch
    let expectedSpatial := runtime.patchSize / runtime.outputStride
    if !isFinite outputs then valueError "model returned non-finite output"
    else if outputs.shape ≠ [1, 2, expectedSpatial, expectedSpatial] then
      valueError ("SegFormer returned unexpected output shape " ++ shapeText outputs.shape)
    else .ok outputs

end SegmentationRuntime

/-! ## Tiles -/

/-- The masks of `SegmentationTile`. -/
structure SegmentationTile where
  cloudMask : Plane UInt8
  validityMask : Plane UInt8

/-- The masks of a tile whose pixels are cloudy as the probabilities say. -/
def tileOf (runtime : SegmentationRuntime) (logits : Tensor PyFloat) (validity : Plane Bool)
    (thresholdBp : ℕ) : SegmentationTile :=
  let probability := runtime.cloudProbability logits runtime.patchSize runtime.patchSize
  let threshold := runtime.float32 (thresholdBp / 10000)
  { cloudMask := ⟨runtime.patchSize, runtime.patchSize, fun row column =>
      if (probability.cell row column).ge threshold && validity.cell row column then
        runtime.product.cloudValue
      else 0⟩
    validityMask := ⟨runtime.patchSize, runtime.patchSize, fun row column =>
      if validity.cell row column then runtime.product.validValue
      else runtime.product.invalidValue⟩ }

/-- `postprocess_segmentation_logits` of one tile, with the contracts of a manifest. -/
def postprocessSegmentationLogits (runtime : SegmentationRuntime) (logits : Tensor PyFloat)
    (validity : Plane Bool) (thresholdBp : ℕ) : Raises SegmentationTile :=
  if logits.shape.length ≠ 4 ∨ logits.shape.getD 1 0 ≠ 2 then
    valueError ("expected segmentation logits [N, 2, h, w], got " ++ shapeText logits.shape)
  else if logits.shape.getD 0 0 = 0 ∨ !isFinite logits then
    valueError "segmentation logits must be finite and non-empty"
  else
    let expected := [logits.shape.getD 0 0, runtime.patchSize, runtime.patchSize]
    if [1, validity.height, validity.width] ≠ expected then
      valueError ("segmentation validity shape must match batch and target spatial shape: " ++
        "validity=" ++ shapeText [1, validity.height, validity.width] ++ ", expected=" ++
        shapeText expected)
    else if 10000 < thresholdBp then valueError "threshold_bp must be an integer in [0, 10000]"
    else if logits.shape ≠ outputShape ∧ logits.shape.getD 0 0 = 1 then
      valueError ("logits shape " ++ shapeText logits.shape ++ " does not match " ++
        shapeText outputShape)
    else .ok (tileOf runtime logits validity thresholdBp)

/-- The part of a tile in the region of interest. -/
def tileSlice (roi : Roi) (w : PatchWindow) : Plane.Slice :=
  let target := maskSlice roi w
  let top : ℤ := (max w.y roi.y.val : ℕ) - (w.y : ℤ)
  let left : ℤ := (max w.x roi.x.val : ℕ) - (w.x : ℤ)
  ⟨top, top + max 0 (target.bottom - target.top), left, left + max 0 (target.right - target.left)⟩

/-- `cloud_mask` and `validity_mask`. -/
structure SegmentationMasks where
  cloud : Plane UInt8
  validity : Plane UInt8

/-- The body of the loop over the windows. -/
def segmentWindow (scene : SceneWindow) (roi : Roi) (runtime : SegmentationRuntime)
    (masks : SegmentationMasks) (w : PatchWindow) : Raises SegmentationMasks := do
  let (patch, valid) ← buildPaddedPatch scene w
  let rawLogits ← runtime.inferOutputs patch
  let tile ← postprocessSegmentationLogits runtime rawLogits valid
    runtime.decision.pixelCloudProbabilityThresholdBp.val
  let cloud ← assignSlice masks.cloud (maskSlice roi w) (tile.cloudMask.view (tileSlice roi w))
  let validity ← assignSlice masks.validity (maskSlice roi w)
    (tile.validityMask.view (tileSlice roi w))
  .ok ⟨cloud, validity⟩

/-- The loop over the windows. -/
def segmentWindows (scene : SceneWindow) (roi : Roi) (runtime : SegmentationRuntime)
    (windows : List PatchWindow) : Raises SegmentationMasks :=
  windows.foldlM (segmentWindow scene roi runtime)
    ⟨Plane.constant roi.height.val roi.width.val 0, Plane.constant roi.height.val roi.width.val 0⟩

/-! ## The result -/

/-- What `_infer_region_segmentation` returns. -/
structure SegmentationResult where
  roi : Roi
  patchCount : ℕ
  analyzedArea : ℕ
  cloudPositiveArea : ℕ
  pixelCloudRatioBp : ℕ
  validPixelRatioBp : ℕ
  coverageLimitBp : U16
  modelThresholdBp : U16
  scienceDecision : ScienceDecision
  scienceStatus : String
  cloudMask : Plane UInt8
  validityMask : Plane UInt8

/-- The end of `_infer_region_segmentation`: the counts of the masks, and the decision. -/
def decideSegmentation (roi : Roi) (runtime : SegmentationRuntime) (status : DomainStatus)
    (patchCount : ℕ) (masks : SegmentationMasks) : Raises SegmentationResult :=
  let validPixels := masks.validity.count fun v => v ≠ 0
  let roiArea := roi.width.val * roi.height.val
  if validPixels * 10000 < runtime.decision.minValidPixelRatioBp.val * roiArea then
    insufficientValidData "valid pixel ratio is below the segmentation contract"
  else do
    let both : Plane Bool := ⟨roi.height.val, roi.width.val, fun row column =>
      masks.cloud.cell row column = runtime.product.cloudValue ∧
        masks.validity.cell row column = runtime.product.validValue⟩
    let cloudPixels := both.count id
    let pixelRatioBp ← coverageRatioBp cloudPixels validPixels
    let accepted ← coverageAccepted cloudPixels validPixels runtime.decision.coverageLimitBp
    .ok
      { roi, patchCount
        analyzedArea := validPixels
        cloudPositiveArea := cloudPixels
        pixelCloudRatioBp := pixelRatioBp
        validPixelRatioBp := validPixels * 10000 / roiArea
        coverageLimitBp := runtime.decision.coverageLimitBp
        modelThresholdBp := runtime.decision.pixelCloudProbabilityThresholdBp
        scienceDecision := if accepted then .accepted else .rejected
        scienceStatus :=
          if status = .domainUnverified then "DOMAIN_UNVERIFIED" else runtime.assuranceLevel
        cloudMask := masks.cloud
        validityMask := masks.validity }

/-- `_infer_region_segmentation`. -/
def inferRegionSegmentation (scene : SceneWindow) (roi : Roi) (runtime : SegmentationRuntime)
    (config : ConfigSnapshot) (batchSize : ℤ) (domain : Option (String → Option String)) :
    Raises SegmentationResult :=
  if batchSize ≠ 1 then valueError "SegFormer MVP runtime requires batch_size=1"
  else do
    let windows ← iterPatchWindows scene.source.height scene.source.width roi runtime.patchSize
    if windows = [] then valueError "ROI does not intersect the scene"
    else
      let status := domainStatus runtime.supportedDomains domain
      if status = .domainMismatch then valueError "DOMAIN_MISMATCH"
      else if !runtime.decision.matchesConfig config.modelThresholdBp config.coverageLimitBp then
        valueError "DECISION_SPEC_MISMATCH"
      else do
        let masks ← segmentWindows scene roi runtime windows
        decideSegmentation roi runtime status windows.length masks

/-! ## What a pixel is to be -/

section Pixels

variable (scene : SceneWindow) (roi : Roi) (runtime : SegmentationRuntime)

/-- The window of a pixel of the region of interest. -/
def windowAt (row column : ℕ) : PatchWindow :=
  patchWindow scene.source.height scene.source.width roi runtime.patchSize
    ((roi.y.val + row) / runtime.patchSize * runtime.patchSize)
    ((roi.x.val + column) / runtime.patchSize * runtime.patchSize)

/-- The tile of a window. -/
def sceneTile (w : PatchWindow) : SegmentationTile :=
  tileOf runtime (runtime.model (scene.paddedPatch w)) (scene.paddedValidity w)
    runtime.decision.pixelCloudProbabilityThresholdBp.val

/-- Whether a pixel of the region of interest is valid. -/
def validAtRoi (row column : ℕ) : Bool := scene.validAt (roi.y.val + row) (roi.x.val + column)

/-- Whether a pixel of the region of interest is cloudy by the tile of its window. -/
def cloudAtRoi (row column : ℕ) : Bool :=
  let w := windowAt scene roi runtime row column
  (sceneTile scene runtime w).cloudMask.cell (roi.y.val + row - w.y) (roi.x.val + column - w.x) =
    runtime.product.cloudValue

/-- The number of valid pixels of the region of interest. -/
def validArea : ℕ :=
  Plane.count ⟨roi.height.val, roi.width.val, validAtRoi scene roi⟩ id

/-- The number of its cloudy pixels. -/
def cloudyArea : ℕ :=
  Plane.count ⟨roi.height.val, roi.width.val, cloudAtRoi scene roi runtime⟩ id

end Pixels

/-- The inputs that the contracts accept, up to the batch size. -/
structure SegmentationAccepted (scene : SceneWindow) (roi : Roi) (runtime : SegmentationRuntime)
    (config : ConfigSnapshot) (domain : Option (String → Option String)) : Prop where
  inside : roi.xEnd ≤ scene.source.width ∧ roi.yEnd ≤ scene.source.height
  domain_known : domainStatus runtime.supportedDomains domain ≠ .domainMismatch
  config_matches :
    runtime.decision.matchesConfig config.modelThresholdBp config.coverageLimitBp = true
  outputs : ∀ windows,
    iterPatchWindows scene.source.height scene.source.width roi runtime.patchSize = .ok windows →
      ∀ w ∈ windows, (runtime.model (scene.paddedPatch w)).shape = outputShape ∧
        isFinite (runtime.model (scene.paddedPatch w)) = true

/-! ## The loop over the windows -/

section Loop

variable {scene : SceneWindow} {roi : Roi} {runtime : SegmentationRuntime}
  {windows : List PatchWindow} {w : PatchWindow}

/-- The part of the region of interest in a window, seen from the origin of the window. -/
def tileRect (roi : Roi) (w : PatchWindow) : Rect := (w.roiRect roi).shift w.y w.x

/-- The slice of a tile that is read for a window. -/
theorem rect_tileSlice {height width : ℕ} {patchSize : ℤ}
    (given : iterPatchWindows height width roi patchSize = .ok windows) (mem : w ∈ windows) :
    (tileSlice roi w).rect patchSize.toNat patchSize.toNat = tileRect roi w := by
  obtain ⟨⟨square, columns, rows⟩, size⟩ := inScene_of_mem given mem
  have memRect := List.mem_map_of_mem (f := PatchWindow.roiRect roi) mem
  obtain ⟨wide, tall⟩ := Rect.area_pos_iff.mp ((iterPatchWindows_tiles given).1.positive _ memRect)
  dsimp only [PatchWindow.roiRect, Roi.xEnd, Roi.yEnd] at wide tall
  have slice : tileSlice roi w = ⟨(tileRect roi w).top, (tileRect roi w).bottom,
      (tileRect roi w).left, (tileRect roi w).right⟩ := by
    simp only [tileSlice, maskSlice, tileRect, Rect.shift, PatchWindow.roiRect, Roi.xEnd, Roi.yEnd]
    congr 1 <;> omega
  rw [slice]
  refine Plane.Slice.rect_natCast ?_ ?_
  · simp only [tileRect, Rect.shift, PatchWindow.roiRect, Roi.yEnd]
    omega
  · simp only [tileRect, Rect.shift, PatchWindow.roiRect, Roi.xEnd]
    omega

/-- **The assignment for a window**: a pixel is taken from the same coordinates of the scene. -/
theorem assignSlice_tile {α : Type} {height width : ℕ} {patchSize : ℤ}
    (given : iterPatchWindows height width roi patchSize = .ok windows) (mem : w ∈ windows)
    {target tile : Plane α}
    (shape : target.height = roi.height.val ∧ target.width = roi.width.val)
    (square : tile.height = patchSize.toNat ∧ tile.width = patchSize.toNat) :
    assignSlice target (maskSlice roi w) (tile.view (tileSlice roi w)) =
      .ok (target.overlay (maskRect roi w) fun row column =>
        tile.cell (roi.y.val + row - w.y) (roi.x.val + column - w.x)) := by
  have memRect := List.mem_map_of_mem (f := PatchWindow.roiRect roi) mem
  obtain ⟨wide, tall⟩ := Rect.area_pos_iff.mp ((iterPatchWindows_tiles given).1.positive _ memRect)
  dsimp only [PatchWindow.roiRect, Roi.xEnd, Roi.yEnd] at wide tall
  have selects : (maskSlice roi w).rect target.height target.width = maskRect roi w := by
    rw [shape.1, shape.2, rect_maskSlice given mem]
  have read : tile.view (tileSlice roi w) =
      ⟨(tileRect roi w).bottom - (tileRect roi w).top,
        (tileRect roi w).right - (tileRect roi w).left, fun row column =>
          tile.cell ((tileRect roi w).top + row) ((tileRect roi w).left + column)⟩ := by
    rw [Plane.view, square.1, square.2, rect_tileSlice given mem]
  have rowsEq : (tile.view (tileSlice roi w)).height =
      (maskRect roi w).bottom - (maskRect roi w).top := by
    rw [read]
    simp only [tileRect, maskRect, Rect.shift, PatchWindow.roiRect, Roi.yEnd]
    omega
  have columnsEq : (tile.view (tileSlice roi w)).width =
      (maskRect roi w).right - (maskRect roi w).left := by
    rw [read]
    simp only [tileRect, maskRect, Rect.shift, PatchWindow.roiRect, Roi.xEnd]
    omega
  rw [assignSlice, Plane.assign_eq_some selects rowsEq columnsEq]
  refine congrArg Except.ok (Plane.overlay_congr fun row column inside => ?_)
  obtain ⟨rows, columns⟩ := Rect.mem_cells.mp inside
  rw [read]
  simp only [tileRect, maskRect, Rect.shift, PatchWindow.roiRect, Roi.xEnd, Roi.yEnd]
    at rows columns ⊢
  congr 1 <;> omega

/-- The outputs of the network for a patch of the size it was made for. -/
theorem inferOutputs_eq {patch : Plane Pixel}
    (shape : patch.height = runtime.patchSize ∧ patch.width = runtime.patchSize)
    (outputs : (runtime.model patch).shape = outputShape ∧
      isFinite (runtime.model patch) = true) :
    runtime.inferOutputs patch = .ok (runtime.model patch) := by
  have spatial : runtime.patchSize / runtime.outputStride = 64 := by
    rw [runtime.patchSize_eq, runtime.outputStride_eq]
  rw [SegmentationRuntime.inferOutputs, shape.1, shape.2, if_neg (by simp)]
  dsimp only
  rw [outputs.2, spatial, outputs.1, if_neg (by simp), if_neg (by simp [outputShape])]

/-- The tile of outputs of the pinned shape. -/
theorem postprocessSegmentationLogits_eq {logits : Tensor PyFloat} {validity : Plane Bool}
    {thresholdBp : ℕ} (outputs : logits.shape = outputShape ∧ isFinite logits = true)
    (shape : validity.height = runtime.patchSize ∧ validity.width = runtime.patchSize)
    (threshold : thresholdBp ≤ 10000) :
    postprocessSegmentationLogits runtime logits validity thresholdBp =
      .ok (tileOf runtime logits validity thresholdBp) := by
  rw [postprocessSegmentationLogits, outputs.1, outputs.2, if_neg (by decide),
    if_neg (by decide)]
  dsimp only
  rw [shape.1, shape.2, if_neg (by simp [outputShape]), if_neg (by omega),
    if_neg (by decide)]

/-- The masks after the assignments for a window. -/
def SegmentationMasks.withTile (masks : SegmentationMasks) (roi : Roi) (w : PatchWindow)
    (tile : SegmentationTile) : SegmentationMasks where
  cloud := masks.cloud.overlay (maskRect roi w) fun row column =>
    tile.cloudMask.cell (roi.y.val + row - w.y) (roi.x.val + column - w.x)
  validity := masks.validity.overlay (maskRect roi w) fun row column =>
    tile.validityMask.cell (roi.y.val + row - w.y) (roi.x.val + column - w.x)

/-- Masks of the shape of a region of interest. -/
def SegmentationMasks.HasShape (masks : SegmentationMasks) (roi : Roi) : Prop :=
  (masks.cloud.height = roi.height.val ∧ masks.cloud.width = roi.width.val) ∧
    masks.validity.height = roi.height.val ∧ masks.validity.width = roi.width.val

/-- **One window** of the loop. -/
theorem segmentWindow_eq
    (given : iterPatchWindows scene.source.height scene.source.width roi runtime.patchSize =
      .ok windows) (mem : w ∈ windows)
    (outputs : (runtime.model (scene.paddedPatch w)).shape = outputShape ∧
      isFinite (runtime.model (scene.paddedPatch w)) = true)
    {masks : SegmentationMasks} (shape : masks.HasShape roi) :
    segmentWindow scene roi runtime masks w =
      .ok (masks.withTile roi w (sceneTile scene runtime w)) := by
  obtain ⟨inScene, width⟩ := inScene_of_mem given mem
  rw [Int.toNat_natCast] at width
  have size : w.height = runtime.patchSize ∧ w.width = runtime.patchSize :=
    ⟨inScene.square.trans width, width⟩
  have tile : postprocessSegmentationLogits runtime (runtime.model (scene.paddedPatch w))
      (scene.paddedValidity w) runtime.decision.pixelCloudProbabilityThresholdBp.val =
        .ok (sceneTile scene runtime w) :=
    postprocessSegmentationLogits_eq outputs size runtime.decision.threshold_le
  have cloud : assignSlice masks.cloud (maskSlice roi w)
      ((sceneTile scene runtime w).cloudMask.view (tileSlice roi w)) = _ :=
    assignSlice_tile given mem shape.1 ⟨rfl, rfl⟩
  have validity : assignSlice masks.validity (maskSlice roi w)
      ((sceneTile scene runtime w).validityMask.view (tileSlice roi w)) = _ :=
    assignSlice_tile given mem shape.2 ⟨rfl, rfl⟩
  rw [segmentWindow, buildPaddedPatch_eq inScene, ok_bind]
  dsimp only
  rw [inferOutputs_eq size outputs, ok_bind, tile, ok_bind, cloud, ok_bind, validity, ok_bind]
  rfl

/-- What the windows write over a mask, which is one of the masks of a tile. -/
def layersOf (scene : SceneWindow) (roi : Roi) (runtime : SegmentationRuntime)
    (windows : List PatchWindow) (mask : SegmentationTile → Plane UInt8) :
    List (Rect × (ℕ → ℕ → UInt8)) :=
  windows.map fun w => (maskRect roi w, fun row column =>
    (mask (sceneTile scene runtime w)).cell (roi.y.val + row - w.y) (roi.x.val + column - w.x))

/-- **The loop** lays the tiles over the masks. -/
theorem foldlM_segmentWindow
    (given : iterPatchWindows scene.source.height scene.source.width roi runtime.patchSize =
      .ok windows)
    (outputs : ∀ w ∈ windows, (runtime.model (scene.paddedPatch w)).shape = outputShape ∧
      isFinite (runtime.model (scene.paddedPatch w)) = true)
    {rest : List PatchWindow} (among : ∀ w ∈ rest, w ∈ windows) {masks : SegmentationMasks}
    (shape : masks.HasShape roi) :
    rest.foldlM (segmentWindow scene roi runtime) masks =
      .ok ⟨masks.cloud.overlays (layersOf scene roi runtime rest SegmentationTile.cloudMask),
        masks.validity.overlays
          (layersOf scene roi runtime rest SegmentationTile.validityMask)⟩ := by
  induction rest generalizing masks with
  | nil => rfl
  | cons w rest ih =>
      obtain ⟨first, later⟩ := List.forall_mem_cons.mp among
      rw [List.foldlM_cons, segmentWindow_eq given first (outputs w first) shape, ok_bind]
      exact ih later shape

/-- The window of a pixel of the region is among its windows, and the pixel in its part. -/
theorem windowAt_mem
    (given : iterPatchWindows scene.source.height scene.source.width roi runtime.patchSize =
      .ok windows) {row column : ℕ} (inside : row < roi.height.val ∧ column < roi.width.val) :
    windowAt scene roi runtime row column ∈ windows ∧
      (row, column) ∈ (maskRect roi (windowAt scene roi runtime row column)).cells := by
  obtain ⟨positive, bounds, rfl⟩ := iterPatchWindows_eq_ok_iff.mp given
  rw [Int.toNat_natCast]
  have size : 0 < runtime.patchSize := by omega
  rw [Roi.xEnd, Roi.yEnd] at bounds
  constructor
  · refine List.mem_flatMap.mpr ⟨_, start_mem size (Nat.le_add_right roi.y.val row) ?_,
      List.mem_map_of_mem (start_mem size (Nat.le_add_right roi.x.val column) ?_)⟩
    · rw [Roi.yEnd]
      omega
    · rw [Roi.xEnd]
      omega
  · have rowLe := Nat.div_mul_le_self (roi.y.val + row) runtime.patchSize
    have rowLt := Nat.lt_div_mul_add (a := roi.y.val + row) size
    have columnLe := Nat.div_mul_le_self (roi.x.val + column) runtime.patchSize
    have columnLt := Nat.lt_div_mul_add (a := roi.x.val + column) size
    rw [maskRect, Rect.mem_shift, Rect.mem_cells]
    simp only [PatchWindow.roiRect, windowAt, patchWindow, Roi.xEnd, Roi.yEnd]
    omega

/-- A pixel of a layered mask is that of the tile of any window that has it in its part. -/
theorem overlays_layersOf
    (given : iterPatchWindows scene.source.height scene.source.width roi runtime.patchSize =
      .ok windows) (mask : SegmentationTile → Plane UInt8) (p : Plane UInt8) (mem : w ∈ windows)
    {row column : ℕ} (inside : (row, column) ∈ (maskRect roi w).cells) :
    (p.overlays (layersOf scene roi runtime windows mask)).cell row column =
      (mask (sceneTile scene runtime w)).cell (roi.y.val + row - w.y)
        (roi.x.val + column - w.x) := by
  have apart : Apart ((layersOf scene roi runtime windows mask).map Prod.fst) := by
    rw [layersOf, List.map_map]
    exact (maskRect_tiles given).apart
  exact Plane.overlays_of_mem apart (List.mem_map_of_mem mem) inside

/-- A pixel of the part of a window is one of its pixels in the scene. -/
theorem scene_of_maskRect {row column : ℕ} (inside : (row, column) ∈ (maskRect roi w).cells) :
    (w.y ≤ roi.y.val + row ∧ roi.y.val + row < w.y + w.sceneHeight) ∧
      w.x ≤ roi.x.val + column ∧ roi.x.val + column < w.x + w.sceneWidth := by
  rw [maskRect, Rect.mem_shift, Rect.mem_cells] at inside
  simp only [PatchWindow.roiRect, Roi.xEnd, Roi.yEnd] at inside
  omega

/-- The validity of a window at a pixel of the region. -/
theorem paddedValidity_at {row column : ℕ} (inside : (row, column) ∈ (maskRect roi w).cells) :
    (scene.paddedValidity w).cell (roi.y.val + row - w.y) (roi.x.val + column - w.x) =
      validAtRoi scene roi row column := by
  obtain ⟨rows, columns⟩ := scene_of_maskRect inside
  have inPatch : (roi.y.val + row - w.y, roi.x.val + column - w.x) ∈ w.sceneRect.cells := by
    rw [Rect.mem_cells]
    simp only [PatchWindow.sceneRect]
    omega
  rw [SceneWindow.paddedValidity, Plane.overlay_of_mem inPatch, validAtRoi,
    Nat.add_sub_cancel' rows.1, Nat.add_sub_cancel' columns.1]

end Loop

/-! ## What is written -/

/-- Every pixel of the region is written once, from the pixel of a tile at the same coordinates of
the scene, and no invalid pixel is marked cloudy. -/
structure MasksRight (scene : SceneWindow) (roi : Roi) (runtime : SegmentationRuntime)
    (windows : List PatchWindow) (masks : SegmentationMasks) : Prop where
  shape : masks.HasShape roi
  once : ∀ row column, row < roi.height.val → column < roi.width.val →
    windows.countP (fun w =>
      (row, column) ∈ ((maskSlice roi w).rect roi.height.val roi.width.val).cells) = 1
  same : ∀ w ∈ windows, ∀ row column,
    (row, column) ∈ ((maskSlice roi w).rect roi.height.val roi.width.val).cells →
      ((w.y ≤ roi.y.val + row ∧ roi.y.val + row < w.y + w.sceneHeight) ∧
        w.x ≤ roi.x.val + column ∧ roi.x.val + column < w.x + w.sceneWidth) ∧
      masks.cloud.cell row column = (sceneTile scene runtime w).cloudMask.cell
        (roi.y.val + row - w.y) (roi.x.val + column - w.x) ∧
      masks.validity.cell row column = (sceneTile scene runtime w).validityMask.cell
        (roi.y.val + row - w.y) (roi.x.val + column - w.x)
  validity : ∀ row column, row < roi.height.val → column < roi.width.val →
    masks.validity.cell row column =
      if validAtRoi scene roi row column then runtime.product.validValue
      else runtime.product.invalidValue
  cloud : ∀ row column, row < roi.height.val → column < roi.width.val →
    masks.cloud.cell row column =
      if cloudAtRoi scene roi runtime row column then runtime.product.cloudValue
      else runtime.product.clearValue
  invalid_clear : ∀ row column, row < roi.height.val → column < roi.width.val →
    validAtRoi scene roi row column = false →
      masks.cloud.cell row column = runtime.product.clearValue

/-- A segmentation ends as it is to: its masks are right, and it returns a result with an area that
was analyzed or reports that there is too little valid data. -/
def SegmentsRight (scene : SceneWindow) (roi : Roi) (runtime : SegmentationRuntime)
    (config : ConfigSnapshot) (domain : Option (String → Option String)) : Prop :=
  ∃ windows masks,
    iterPatchWindows scene.source.height scene.source.width roi runtime.patchSize = .ok windows ∧
    segmentWindows scene roi runtime windows = .ok masks ∧
    MasksRight scene roi runtime windows masks ∧
    ((∃ result, inferRegionSegmentation scene roi runtime config 1 domain = .ok result ∧
        result.cloudMask = masks.cloud ∧ result.validityMask = masks.validity ∧
        0 < result.analyzedArea) ∨
      ∃ message, inferRegionSegmentation scene roi runtime config 1 domain =
        insufficientValidData message)

/-- There are too few valid pixels, or some, whose counts fit 64 bits as basis points. -/
def SegmentationDecided (scene : SceneWindow) (roi : Roi) (runtime : SegmentationRuntime) : Prop :=
  validArea scene roi * 10000 <
      runtime.decision.minValidPixelRatioBp.val * (roi.width.val * roi.height.val) ∨
    0 < validArea scene roi ∧ cloudyArea scene roi runtime ≤ maxU64 / 10000 ∧
      runtime.decision.coverageLimitBp.val * validArea scene roi ≤ maxU64

section Written

variable {scene : SceneWindow} {roi : Roi} {runtime : SegmentationRuntime}
  {windows : List PatchWindow} {w : PatchWindow}

/-- A pixel of the mask of a tile is cloudy or clear. -/
theorem cloudMask_sceneTile (w : PatchWindow) (row column : ℕ) :
    (sceneTile scene runtime w).cloudMask.cell row column =
      if (sceneTile scene runtime w).cloudMask.cell row column = runtime.product.cloudValue then
        runtime.product.cloudValue
      else runtime.product.clearValue := by
  simp only [sceneTile, tileOf, runtime.product.cloud_pinned]
  split <;> rfl

/-- A cloudy pixel is valid. -/
theorem valid_of_cloudAtRoi
    (given : iterPatchWindows scene.source.height scene.source.width roi runtime.patchSize =
      .ok windows) {row column : ℕ} (inside : row < roi.height.val ∧ column < roi.width.val)
    (cloudy : cloudAtRoi scene roi runtime row column = true) :
    validAtRoi scene roi row column = true := by
  obtain ⟨mem, inPart⟩ := windowAt_mem given inside
  have valid : (scene.paddedValidity _).cell _ _ = validAtRoi scene roi row column :=
    paddedValidity_at inPart
  by_contra invalid
  rw [Bool.not_eq_true] at invalid
  rw [invalid] at valid
  simp only [cloudAtRoi, sceneTile, tileOf, valid, Bool.and_false, Bool.false_eq_true, if_false,
    runtime.product.cloud_pinned.2] at cloudy
  exact absurd cloudy (by decide)

/-- **What the loop writes**: every pixel once, as it is to be. -/
theorem segmentWindows_spec
    (given : iterPatchWindows scene.source.height scene.source.width roi runtime.patchSize =
      .ok windows)
    (outputs : ∀ w ∈ windows, (runtime.model (scene.paddedPatch w)).shape = outputShape ∧
      isFinite (runtime.model (scene.paddedPatch w)) = true) :
    ∃ masks, segmentWindows scene roi runtime windows = .ok masks ∧
      MasksRight scene roi runtime windows masks := by
  have blank : SegmentationMasks.HasShape ⟨Plane.constant roi.height.val roi.width.val 0,
      Plane.constant roi.height.val roi.width.val 0⟩ roi := ⟨⟨rfl, rfl⟩, rfl, rfl⟩
  refine ⟨_, foldlM_segmentWindow given outputs (fun w mem => mem) blank, ?_⟩
  have atWindow : ∀ row column, row < roi.height.val → column < roi.width.val → _ :=
    fun row column rows columns => windowAt_mem given ⟨rows, columns⟩
  refine
    { shape := ⟨Plane.shape_overlays _ _, Plane.shape_overlays _ _⟩
      once := fun row column rows columns => ?_
      same := fun w mem row column inside => ?_
      validity := fun row column rows columns => ?_
      cloud := fun row column rows columns => ?_
      invalid_clear := fun row column rows columns invalid => ?_ }
  · have inMask : (row, column) ∈ (⟨0, roi.height.val, 0, roi.width.val⟩ : Rect).cells :=
      Rect.mem_cells.mpr ⟨⟨Nat.zero_le _, rows⟩, Nat.zero_le _, columns⟩
    have one := (maskRect_tiles given).countP_eq_one inMask
    rw [List.countP_map] at one
    rw [← one]
    refine List.countP_congr fun w mem => ?_
    rw [rect_maskSlice given mem, Function.comp_apply]
  · rw [rect_maskSlice given mem] at inside
    exact ⟨scene_of_maskRect inside, overlays_layersOf given _ _ mem inside,
      overlays_layersOf given _ _ mem inside⟩
  · obtain ⟨mem, inside⟩ := atWindow row column rows columns
    rw [overlays_layersOf given _ _ mem inside, ← paddedValidity_at inside]
    rfl
  · obtain ⟨mem, inside⟩ := atWindow row column rows columns
    rw [overlays_layersOf given _ _ mem inside]
    refine (cloudMask_sceneTile _ _ _).trans ?_
    simp only [cloudAtRoi, decide_eq_true_eq]
  · obtain ⟨mem, inside⟩ := atWindow row column rows columns
    rw [overlays_layersOf given _ _ mem inside]
    refine (cloudMask_sceneTile _ _ _).trans (if_neg fun cloudy => ?_)
    rw [valid_of_cloudAtRoi given ⟨rows, columns⟩ (decide_eq_true cloudy)] at invalid
    exact nomatch invalid

/-- The counts of the masks are those of the pixels. -/
theorem counts_of_masksRight
    (given : iterPatchWindows scene.source.height scene.source.width roi runtime.patchSize =
      .ok windows) {masks : SegmentationMasks}
    (right : MasksRight scene roi runtime windows masks) :
    masks.validity.count (fun v => v ≠ 0) = validArea scene roi ∧
      Plane.count ⟨roi.height.val, roi.width.val, fun row column =>
        decide (masks.cloud.cell row column = runtime.product.cloudValue ∧
          masks.validity.cell row column = runtime.product.validValue)⟩ id =
        cloudyArea scene roi runtime := by
  have values := runtime.product.validity_pinned
  have clouds := runtime.product.cloud_pinned
  constructor
  · refine Plane.count_congr right.shape.2 fun row column rows columns => ?_
    rw [right.shape.2.1] at rows
    rw [right.shape.2.2] at columns
    dsimp only
    rw [right.validity row column rows columns, values.1, values.2, id]
    cases validAtRoi scene roi row column <;> decide
  · refine Plane.count_congr ⟨rfl, rfl⟩ fun row column rows columns => ?_
    dsimp only at rows columns ⊢
    rw [right.validity row column rows columns, right.cloud row column rows columns, id, id,
      values.1, values.2, clouds.1, clouds.2]
    cases cloudy : cloudAtRoi scene roi runtime row column with
    | true =>
        rw [valid_of_cloudAtRoi given ⟨rows, columns⟩ cloudy]
        decide
    | false => exact decide_eq_false fun both => absurd both.1 (by decide)

/-- There are no more cloudy pixels than valid ones. -/
theorem cloudyArea_le
    (given : iterPatchWindows scene.source.height scene.source.width roi runtime.patchSize =
      .ok windows) : cloudyArea scene roi runtime ≤ validArea scene roi :=
  Plane.count_le_count ⟨rfl, rfl⟩ fun _ _ rows columns cloudy =>
    valid_of_cloudAtRoi given ⟨rows, columns⟩ cloudy

/-- The ratio never reports too little valid data. -/
theorem kind_of_coverageRatioBp {cloud analyzed : ℕ} {e : PyException}
    (raised : coverageRatioBp cloud analyzed = .error e) : e.kind ≠ .insufficientValidData := by
  unfold coverageRatioBp at raised
  split at raised
  · cases raised
    decide
  split at raised
  · cases raised
    decide
  split at raised
  · cases raised
    decide
  · exact nomatch raised

/-- The decision never reports too little valid data. -/
theorem kind_of_coverageAccepted {cloud analyzed : ℕ} {limit : U16} {e : PyException}
    (raised : coverageAccepted cloud analyzed limit = .error e) :
    e.kind ≠ .insufficientValidData := by
  unfold coverageAccepted at raised
  split at raised
  · cases raised
    decide
  split at raised
  · cases raised
    decide
  split at raised
  · cases raised
    decide
  · exact nomatch raised

/-- **How a segmentation ends**, by the counts of the pixels. -/
theorem decideSegmentation_iff
    (given : iterPatchWindows scene.source.height scene.source.width roi runtime.patchSize =
      .ok windows) {masks : SegmentationMasks}
    (right : MasksRight scene roi runtime windows masks) (status : DomainStatus) (count : ℕ) :
    ((∃ result, decideSegmentation roi runtime status count masks = .ok result ∧
        result.cloudMask = masks.cloud ∧ result.validityMask = masks.validity ∧
        0 < result.analyzedArea) ∨
      ∃ message, decideSegmentation roi runtime status count masks =
        insufficientValidData message) ↔ SegmentationDecided scene roi runtime := by
  obtain ⟨valid, cloudy⟩ := counts_of_masksRight given right
  rw [decideSegmentation]
  dsimp only
  rw [valid, cloudy, SegmentationDecided]
  by_cases few : validArea scene roi * 10000 <
      runtime.decision.minValidPixelRatioBp.val * (roi.width.val * roi.height.val)
  · rw [if_pos few]
    exact ⟨fun _ => .inl few, fun _ => .inr ⟨_, rfl⟩⟩
  · rw [if_neg few]
    constructor
    · rintro (⟨result, returned, -⟩ | ⟨message, raised⟩)
      · obtain ⟨ratio, rounded, returned⟩ := bind_eq_ok_iff.mp returned
        obtain ⟨accepted, decided, -⟩ := bind_eq_ok_iff.mp returned
        obtain ⟨-, some, fits, -⟩ := coverageRatioBp_eq_ok_iff.mp rounded
        obtain ⟨-, -, -, -, limitFits, -⟩ := coverageAccepted_eq_ok_iff.mp decided
        exact .inr ⟨some, fits, limitFits⟩
      · cases rounded : coverageRatioBp (cloudyArea scene roi runtime) (validArea scene roi) with
        | error e =>
            rw [rounded] at raised
            exact absurd (congrArg PyException.kind (Except.error.inj raised))
              (kind_of_coverageRatioBp rounded)
        | ok ratio =>
            rw [rounded, ok_bind] at raised
            cases decided : coverageAccepted (cloudyArea scene roi runtime) (validArea scene roi)
                runtime.decision.coverageLimitBp with
            | error e =>
                rw [decided] at raised
                exact absurd (congrArg PyException.kind (Except.error.inj raised))
                  (kind_of_coverageAccepted decided)
            | ok accepted =>
                rw [decided] at raised
                exact nomatch raised
    · rintro (few' | ⟨some, fits, limitFits⟩)
      · exact absurd few' few
      · have rounded := coverageRatioBp_eq_ok_iff.mpr
          ⟨cloudyArea_le given, some, fits, rfl⟩
        have decided := coverageAccepted_eq_ok_iff.mpr
          ⟨runtime.decision.limit_le, some, cloudyArea_le given, fits, limitFits, rfl⟩
        rw [rounded, ok_bind, decided, ok_bind]
        exact .inl ⟨_, rfl, rfl, rfl, some⟩

/-- Without a valid pixel and without a minimum, the ratio cannot be computed. -/
theorem decideSegmentation_of_none
    (given : iterPatchWindows scene.source.height scene.source.width roi runtime.patchSize =
      .ok windows) {masks : SegmentationMasks}
    (right : MasksRight scene roi runtime windows masks) (status : DomainStatus) (count : ℕ)
    (noMinimum : runtime.decision.minValidPixelRatioBp.val = 0) (none : validArea scene roi = 0) :
    decideSegmentation roi runtime status count masks =
      valueError "analyzed_area must be positive" := by
  obtain ⟨valid, cloudy⟩ := counts_of_masksRight given right
  have noCloud : cloudyArea scene roi runtime = 0 :=
    Nat.le_zero.mp (none ▸ cloudyArea_le given)
  rw [decideSegmentation]
  dsimp only
  rw [valid, cloudy, none, noCloud, noMinimum, if_neg (by omega)]
  rfl

/-- What an accepted segmentation computes. -/
theorem inferRegionSegmentation_eq {config : ConfigSnapshot}
    {domain : Option (String → Option String)}
    (accepted : SegmentationAccepted scene roi runtime config domain) :
    ∃ windows masks,
      iterPatchWindows scene.source.height scene.source.width roi runtime.patchSize =
        .ok windows ∧
      segmentWindows scene roi runtime windows = .ok masks ∧
      MasksRight scene roi runtime windows masks ∧
      inferRegionSegmentation scene roi runtime config 1 domain =
        decideSegmentation roi runtime (domainStatus runtime.supportedDomains domain)
          windows.length masks := by
  have positive : (0 : ℤ) < runtime.patchSize := by
    rw [runtime.patchSize_eq]
    decide
  have given := iterPatchWindows_eq_ok_iff.mpr ⟨positive, accepted.inside, rfl⟩
  obtain ⟨masks, looped, right⟩ := segmentWindows_spec given (accepted.outputs _ given)
  refine ⟨_, masks, given, looped, right, ?_⟩
  have corner : windowAt scene roi runtime 0 0 ∈ _ := (windowAt_mem given
    ⟨Nat.pos_of_ne_zero roi.extent_pos.2, Nat.pos_of_ne_zero roi.extent_pos.1⟩).1
  rw [inferRegionSegmentation, if_neg (by simp), given, ok_bind,
    if_neg (List.ne_nil_of_mem corner)]
  dsimp only
  rw [if_neg accepted.domain_known, accepted.config_matches, if_neg (by simp), looped, ok_bind]

end Written

/-- **A segmentation ends as it is to**, for inputs that the contracts accept, exactly where it has
too few valid pixels for a minimum above them, or some whose counts fit. -/
theorem segmentation_decides {scene : SceneWindow} {roi : Roi} {runtime : SegmentationRuntime}
    {config : ConfigSnapshot} {domain : Option (String → Option String)}
    (accepted : SegmentationAccepted scene roi runtime config domain) :
    SegmentsRight scene roi runtime config domain ↔ SegmentationDecided scene roi runtime := by
  obtain ⟨windows, masks, given, looped, right, ends⟩ := inferRegionSegmentation_eq accepted
  have decides := decideSegmentation_iff given right
    (domainStatus runtime.supportedDomains domain) windows.length
  rw [← ends] at decides
  rw [← decides, SegmentsRight]
  constructor
  · rintro ⟨windows', masks', given', looped', -, outcome⟩
    cases given.symm.trans given'
    cases looped.symm.trans looped'
    exact outcome
  · exact fun outcome => ⟨windows, masks, given, looped, right, outcome⟩

/-! ## A pixel without data -/

/-- A scene of one pixel, which a mask finds valid or not. -/
def onePixelScene (valid : Bool) : SceneWindow where
  source := ⟨1, 1, fun _ _ _ => 0⟩
  validity := .mask ⟨1, 1, fun _ _ => if valid then 1 else 0⟩
  fits := ⟨rfl, rfl⟩

/-- The region of one pixel. -/
def onePixelRegion : Roi where
  x := 0
  y := 0
  width := 1
  height := 1
  extent_pos := by decide

/-- A runtime whose network finds every class equally likely, and which asks for no minimum of
valid pixels. -/
def undecidedRuntime : SegmentationRuntime where
  patchSize := 256
  outputStride := 4
  patchSize_eq := rfl
  outputStride_eq := rfl
  supportedDomains := fun _ => []
  assuranceLevel := "pilot_non_validated"
  decision := ⟨5000, 6000, 0, by decide, by decide, by decide⟩
  product := ⟨0, 255, 0, 1, by decide, by decide⟩
  model := fun _ => ⟨outputShape, fun _ => .finite 0⟩
  cloudProbability := fun _ rows columns => ⟨rows, columns, fun _ _ => .finite (1 / 2)⟩
  float32 := .finite

/-- The configuration of its decision. -/
def matchingConfig : ConfigSnapshot := zeroThresholds.config

theorem accepted_onePixel (valid : Bool) :
    SegmentationAccepted (onePixelScene valid) onePixelRegion undecidedRuntime matchingConfig
      none where
  inside := by
    change 1 ≤ 1 ∧ 1 ≤ 1
    exact ⟨le_rfl, le_rfl⟩
  domain_known := by decide
  config_matches := by decide
  outputs := fun _ _ _ _ => ⟨rfl, List.all_eq_true.mpr fun _ _ => rfl⟩

theorem segmentation_decides_sample :
    SegmentationDecided (onePixelScene true) onePixelRegion undecidedRuntime ∧
      SegmentsRight (onePixelScene true) onePixelRegion undecidedRuntime matchingConfig none := by
  have decided : SegmentationDecided (onePixelScene true) onePixelRegion undecidedRuntime := by
    refine .inr ⟨?_, ?_, ?_⟩ <;> decide +kernel
  exact ⟨decided, (segmentation_decides (accepted_onePixel true)).mpr decided⟩

/-- A region without data ends in an exception of another kind. -/
theorem not_segmentsRight_of_noData :
    SegmentationAccepted (onePixelScene false) onePixelRegion undecidedRuntime matchingConfig
        none ∧
      inferRegionSegmentation (onePixelScene false) onePixelRegion undecidedRuntime matchingConfig 1
        none = valueError "analyzed_area must be positive" ∧
      ¬ SegmentsRight (onePixelScene false) onePixelRegion undecidedRuntime matchingConfig
        none := by
  have accepted := accepted_onePixel false
  obtain ⟨windows, masks, given, looped, right, ends⟩ := inferRegionSegmentation_eq accepted
  rw [decideSegmentation_of_none given right _ _ rfl (by decide +kernel)] at ends
  refine ⟨accepted, ends, ?_⟩
  rintro ⟨windows', masks', -, -, -, (⟨result, returned, -⟩ | ⟨message, raised⟩)⟩
  · rw [ends] at returned
    exact nomatch returned
  · rw [ends] at raised
    exact nomatch raised

end CubeNano

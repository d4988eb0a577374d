import CubeNano.Preprocess.TransformPlan
import Mathlib.Algebra.BigOperators.Group.List.Basic

/-!
# The CPU warp

`src/preprocessing/warp_backend.py` and the parts of `source_reader.py` and `validity.py` that it
uses: reading a window of a source, resampling it at the mapped pixels of a plan, and the masks of
the result, before the cast to the output type.

## Main definitions

* `Source`, `Source.readWindow` — a source with its quality masks, and a window of it
* `warp` — `CPUWarpBackend.warp`
* `TransformPlanner.warpStrips`, `TransformPlanner.warpWhole` — a target grid in strips, and as
  one strip that is given the whole source
-/

namespace CubeNano

/-! ## Sources -/

/-- A source of an opened reader, with the masks that `build_source` gives its pixels. -/
structure Source where
  rows : ℕ
  cols : ℕ
  channels : ℕ
  image : ℕ → ℕ → Fin channels → ℚ
  validity : ℕ → ℕ → ℕ
  reason : ℕ → ℕ → ℕ

/-- `SourceBlock`: a window of a source, indexed from its own corner. -/
structure SourceBlock (channels : ℕ) where
  image : ℕ → ℕ → Fin channels → ℚ
  validity : ℕ → ℕ → ℕ
  reason : ℕ → ℕ → ℕ
  height : ℕ
  width : ℕ
  rowStart : ℕ
  colStart : ℕ
  sourceShape : ℕ × ℕ

/-- The window of all of a source. -/
def Source.whole (source : Source) : SourceWindow := ⟨0, source.rows, 0, source.cols⟩

/-- The block of a window. -/
def Source.block (source : Source) (w : SourceWindow) : SourceBlock source.channels where
  image := fun row col => source.image (w.rowStart + row) (w.colStart + col)
  validity := fun row col => source.validity (w.rowStart + row) (w.colStart + col)
  reason := fun row col => source.reason (w.rowStart + row) (w.colStart + col)
  height := w.rowEnd - w.rowStart
  width := w.colEnd - w.colStart
  rowStart := w.rowStart
  colStart := w.colStart
  sourceShape := (source.rows, source.cols)

/-- `ArraySourceReader.read_window`. -/
def Source.readWindow (source : Source) (w : SourceWindow) :
    Raises (SourceBlock source.channels) :=
  if w.rowEnd > source.rows ∨ w.colEnd > source.cols then
    valueError "source window exceeds source shape"
  else .ok (source.block w)

/-! ## Taps -/

/-- A tap of a kernel: a source pixel and its weight. -/
structure Tap where
  row : ℤ
  col : ℤ
  weight : ℚ

/-- `_cubic_weight`, with its parameter −1/2. -/
def cubicWeight (distance : ℚ) : ℚ :=
  let parameter : ℚ := -1 / 2
  let distance := |distance|
  if distance ≤ 1 then (parameter + 2) * distance ^ 3 - (parameter + 3) * distance ^ 2 + 1
  else if distance < 2 then
    parameter * distance ^ 3 - 5 * parameter * distance ^ 2 + 8 * parameter * distance -
      4 * parameter
  else 0

/-- `_kernel_taps` of one mapped pixel. -/
def kernelTaps (mapping : ℚ × ℚ) (kernel : ResampleKernel) (pixelOffset : ℚ) : List Tap :=
  let y := mapping.1 - pixelOffset
  let x := mapping.2 - pixelOffset
  match kernel with
  | .nearest => [⟨⌊y + 1 / 2⌋, ⌊x + 1 / 2⌋, 1⟩]
  | .bilinear | .support =>
      let row0 := ⌊y⌋
      let col0 := ⌊x⌋
      let dy := y - row0
      let dx := x - col0
      [⟨row0, col0, (1 - dy) * (1 - dx)⟩, ⟨row0, col0 + 1, (1 - dy) * dx⟩,
        ⟨row0 + 1, col0, dy * (1 - dx)⟩, ⟨row0 + 1, col0 + 1, dy * dx⟩]
  | .bicubic =>
      let row0 := ⌊y⌋
      let col0 := ⌊x⌋
      let dy := y - row0
      let dx := x - col0
      [-1, 0, 1, 2].flatMap fun rowOffset : ℤ => [-1, 0, 1, 2].map fun colOffset : ℤ =>
        ⟨row0 + rowOffset, col0 + colOffset,
          cubicWeight (dy - rowOffset) * cubicWeight (dx - colOffset)⟩

/-- `_reflect_indices`. -/
def reflectIndex (index : ℤ) (size : ℕ) : ℤ :=
  if size ≤ 1 then 0
  else
    let period : ℤ := 2 * size - 2
    let folded := index % period
    if folded < size then folded else period - folded

/-- `np.clip`. -/
def clip (value low high : ℤ) : ℤ := min (max value low) high

/-- The border policies that make a pixel outside the source invalid. -/
def BorderPolicy.invalidates : BorderPolicy → Bool
  | invalid | constant => true
  | edge | reflect => false

/-- A tap with its place in a block, and whether it may be used. -/
structure PreparedTap where
  localRow : ℤ
  localCol : ℤ
  weight : ℚ
  eligible : Bool
  border : Bool

/-- `_prepare_tap_indices` of one tap. -/
def prepareTap {channels : ℕ} (profile : PreprocessingProfile) (plan : TransformPlan)
    (block : SourceBlock channels) (tap : Tap) : PreparedTap :=
  let rawInSource := decide (0 ≤ tap.row ∧ tap.row < plan.sourceShape.1 ∧
    0 ≤ tap.col ∧ tap.col < plan.sourceShape.2)
  let inRoi := decide (plan.sourceRoi.Contains tap.row tap.col)
  let sample : ℤ × ℤ :=
    match profile.borderPolicy with
    | .edge => (clip tap.row 0 (plan.sourceShape.1 - 1), clip tap.col 0 (plan.sourceShape.2 - 1))
    | .reflect =>
        (reflectIndex tap.row plan.sourceShape.1, reflectIndex tap.col plan.sourceShape.2)
    | .invalid | .constant => (tap.row, tap.col)
  let localRow := sample.1 - block.rowStart
  let localCol := sample.2 - block.colStart
  let covered := decide (0 ≤ localRow ∧ localRow < block.height ∧
    0 ≤ localCol ∧ localCol < block.width)
  let eligible := covered && inRoi
  { localRow := localRow
    localCol := localCol
    weight := tap.weight
    eligible :=
      match profile.borderPolicy with
      | .edge | .reflect => eligible
      | .invalid | .constant => eligible && rawInSource
    border := !rawInSource }

/-- The row of a block that a tap reads, clipped into the block. -/
def SourceBlock.safeRow {channels : ℕ} (block : SourceBlock channels) (tap : PreparedTap) : ℕ :=
  (clip tap.localRow 0 (max 0 (block.height - 1))).toNat

/-- The column of a block that a tap reads, clipped into the block. -/
def SourceBlock.safeCol {channels : ℕ} (block : SourceBlock channels) (tap : PreparedTap) : ℕ :=
  (clip tap.localCol 0 (max 0 (block.width - 1))).toNat

/-! ## Resampling -/

section Resample

variable {channels : ℕ} (profile : PreprocessingProfile) (block : SourceBlock channels)

/-- Whether a tap reads a pixel that is not marked invalid. -/
def sourceValid (tap : PreparedTap) : Bool :=
  block.validity (block.safeRow tap) (block.safeCol tap) ≠ profile.validityEncoding.invalidValue

/-- A tap that counts for the image. -/
def imageUsable (tap : PreparedTap) : Bool := tap.eligible && sourceValid profile block tap

/-- `_resample_image` of one pixel: its channels, and whether it has support. -/
def resampleImage (taps : List PreparedTap) : List ℚ × Bool :=
  let denominator :=
    (taps.map fun tap => if imageUsable profile block tap then tap.weight else 0).sum
  let result (channel : Fin channels) :=
    (taps.map fun tap =>
      (if imageUsable profile block tap then
        block.image (block.safeRow tap) (block.safeCol tap) channel else 0) * tap.weight).sum
  let good := decide (|denominator| > profile.precision.eps)
  (List.ofFn fun channel => if good then result channel / denominator else 0, good)

/-- `_resample_validity` of one pixel: its support fraction and its reasons. -/
def resampleValidity (taps : List PreparedTap) : ℚ × ℕ :=
  let total := (taps.map fun tap => |tap.weight|).sum
  let supported :=
    (taps.map fun tap =>
      if tap.eligible && sourceValid profile block tap then |tap.weight| else 0).sum
  let reason :=
    taps.foldl (fun reason tap => reason |||
      if tap.eligible && decide (|tap.weight| > profile.precision.eps) then
        block.reason (block.safeRow tap) (block.safeCol tap) else 0) 0
  (if total > 0 then supported / total else 0, reason)

end Resample

/-! ## Masks -/

/-- A pixel of a warp before its masks are final. -/
structure PixelDraft where
  image : List ℚ
  mapping : ℚ × ℚ
  supportFraction : ℚ
  reason : ℕ
  outsideMapping : Bool
  border : Bool
  insufficientSupport : Bool
  forceInvalid : Bool

/-- A pixel of a warp. -/
structure WarpedPixel where
  image : List ℚ
  validity : ℕ
  reason : ℕ
  mapping : ℚ × ℚ
  supportFraction : ℚ

/-- `_bit`. -/
def reasonBit (profile : PreprocessingProfile) (name : String) : Raises ℕ :=
  match profile.reasonBits.lookup name with
  | some bit => .ok bit
  | none =>
      preprocessError "SCHEMA_MISMATCH"
        ("reason encoding does not define required bit '" ++ name ++ "'")

/-- `add_reason`: the bit of a reason is needed only where the mask is set somewhere. -/
def addReason (profile : PreprocessingProfile) (name : String) (mask : PixelDraft → Bool)
    (pixels : List (List PixelDraft)) : Raises (List (List PixelDraft)) :=
  if pixels.any fun row => row.any mask then do
    let bit ← reasonBit profile name
    .ok (pixels.map fun row => row.map fun pixel =>
      if mask pixel then { pixel with reason := pixel.reason ||| bit } else pixel)
  else .ok pixels

/-- The validity of a pixel: `finalize` marks a border pixel, but does not make it invalid. -/
def finalValidity (profile : PreprocessingProfile) (pixel : PixelDraft) : ℕ :=
  if pixel.supportFraction < profile.supportThreshold || pixel.outsideMapping ||
      pixel.insufficientSupport || pixel.forceInvalid then profile.validityEncoding.invalidValue
  else profile.validityEncoding.validValue

/-- A pixel with its final masks. -/
def finalPixel (profile : PreprocessingProfile) (pixel : PixelDraft) : WarpedPixel where
  image := pixel.image
  validity := finalValidity profile pixel
  reason := pixel.reason
  mapping := pixel.mapping
  supportFraction := pixel.supportFraction

/-- `ValidityBuilder.finalize`. -/
def finalize (profile : PreprocessingProfile) (pixels : List (List PixelDraft)) :
    Raises (List (List WarpedPixel)) := do
  let pixels ← addReason profile "outside_mapping" PixelDraft.outsideMapping pixels
  let pixels ← addReason profile "border" PixelDraft.border pixels
  let pixels ← addReason profile "insufficient_support" PixelDraft.insufficientSupport pixels
  .ok (pixels.map fun row => row.map (finalPixel profile))

/-! ## The warp -/

/-- Taps outside the source with a weight that counts. -/
def hasBorder (profile : PreprocessingProfile) (taps : List PreparedTap) : Bool :=
  taps.any fun tap => tap.border && decide (|tap.weight| > profile.precision.eps)

/-- A pixel of `warp`, up to `finalize`. -/
def warpPixel {channels : ℕ} (profile : PreprocessingProfile) (block : SourceBlock channels)
    (plan : TransformPlan) (pixel : PlannedPixel) : PixelDraft :=
  let taps (kernel : ResampleKernel) :=
    (kernelTaps pixel.mapping kernel plan.pixelOffset).map (prepareTap profile plan block)
  let image := resampleImage profile block (taps profile.imageKernel)
  let validity := resampleValidity profile block (taps profile.validityKernel)
  let reason := resampleValidity profile block (taps profile.reasonKernel)
  let physicalBorder := hasBorder profile (taps profile.imageKernel) ||
    hasBorder profile (taps profile.validityKernel) ||
    hasBorder profile (taps profile.reasonKernel)
  let outside := profile.borderPolicy.invalidates && pixel.outsideSource
  { image := image.1
    mapping := pixel.mapping
    supportFraction := validity.1
    reason := validity.2 ||| reason.2
    outsideMapping := pixel.outsideRoi || outside
    border := physicalBorder
    insufficientSupport := decide (validity.1 < profile.supportThreshold) || !image.2 ||
      (profile.borderPolicy.invalidates && physicalBorder)
    forceInvalid := pixel.outsideRoi || outside }

/-- `CPUWarpBackend.warp`, before the cast to the output type. -/
def warp {channels : ℕ} (profile : PreprocessingProfile) (block : SourceBlock channels)
    (plan : TransformPlan) : Raises (List (List WarpedPixel)) :=
  let window := plan.sourceWindow
  if block.sourceShape ≠ plan.sourceShape then
    valueError "source block and transform plan source shapes do not match"
  else if window.isEmpty = false ∧ (block.rowStart > window.rowStart ∨
      block.rowStart + block.height < window.rowEnd ∨ block.colStart > window.colStart ∨
      block.colStart + block.width < window.colEnd) then
    valueError "source block does not cover the planned source window"
  else finalize profile (plan.pixels.map fun row => row.map (warpPixel profile block plan))

namespace TransformPlanner

variable (p : TransformPlanner) (source : Source)

/-- The warp of one strip, given the window that its plan requests. -/
def warpStrip (rows : ℕ × ℕ) : Raises (List (List WarpedPixel)) := do
  let plan ← p.planStrip rows.1 rows.2
  let block ← source.readWindow plan.sourceWindow
  warp p.profile block plan

/-- The warps of the strips of a target grid, one below the other. -/
def warpStrips (stripRows : ℕ+) : Raises (List (List WarpedPixel)) :=
  ((stripBounds p.profile.targetGrid.rows stripRows).mapM (p.warpStrip source)).map List.flatten

/-- The warp of a target grid as a single strip that is given the whole source. -/
def warpWhole : Raises (List (List WarpedPixel)) := do
  let plan ← p.planStrip 0 p.profile.targetGrid.rows
  let block ← source.readWindow source.whole
  warp p.profile block plan

end TransformPlanner

/-- A target grid warped in strips by a profile and a calibration. -/
def preprocessStrips (profile : PreprocessingProfile) (calibration : CalibrationBundle)
    (source : Source) (stripRows : ℕ+) : Raises (List (List WarpedPixel)) := do
  let planner ← TransformPlanner.new profile calibration source.rows source.cols
  planner.warpStrips source stripRows

/-- A target grid warped as one strip, by a profile and a calibration. -/
def preprocessWhole (profile : PreprocessingProfile) (calibration : CalibrationBundle)
    (source : Source) : Raises (List (List WarpedPixel)) := do
  let planner ← TransformPlanner.new profile calibration source.rows source.cols
  planner.warpWhole source

end CubeNano

import CubeNano.Lib.Chunks
import CubeNano.Protocol.Exceptions
import Mathlib.Algebra.Order.Ring.Rat
import Mathlib.Data.Rat.Floor

/-!
# Transform plans

`src/preprocessing/transform_plan.py`: the mapping of a strip of the target grid to the source,
and the source window that the strip reads.  Numbers are exact, so every mapping is finite and
nothing is rounded to the internal precision.

## Main definitions

* `PreprocessingProfile`, `CalibrationBundle` — what the planner and the warp read of them
* `TransformPlanner.new`, `TransformPlanner.planStrip`, `TransformPlanner.stripBounds`
-/

namespace CubeNano

/-! ## Contracts -/

/-- `transform_type`. -/
inductive TransformType
  | identity
  | affine
  | lut
  | brownConrady
  deriving DecidableEq

/-- `transform_direction`. -/
inductive TransformDirection
  | sourceToModel
  | modelToSource
  deriving DecidableEq

/-- `pixel_convention`. -/
inductive PixelConvention
  | center
  | corner
  deriving DecidableEq

/-- `border_policy`. -/
inductive BorderPolicy
  | invalid
  | constant
  | edge
  | reflect
  deriving DecidableEq

/-- The resampling kernels. -/
inductive ResampleKernel
  | nearest
  | bilinear
  | bicubic
  | support
  deriving DecidableEq

/-- `internal_numeric_precision`. -/
inductive NumericPrecision
  | float32
  | float64
  deriving DecidableEq

/-- `np.finfo(dtype).eps`. -/
def NumericPrecision.eps : NumericPrecision → ℚ
  | float32 => 1 / 2 ^ 23
  | float64 => 1 / 2 ^ 52

/-- `TargetGrid`. -/
structure TargetGrid where
  rows : ℕ
  cols : ℕ
  origin : ℚ × ℚ
  resolution : Option (ℚ × ℚ)

/-- `SourceROI`; the bounds of a window have a positive size. -/
inductive SourceROI
  | full
  | window (rowStart rowEnd colStart colEnd : ℕ) (rows : rowStart < rowEnd)
      (cols : colStart < colEnd)

/-- `MaskEncoding`. -/
structure MaskEncoding where
  validValue : ℕ
  invalidValue : ℕ
  differ : validValue ≠ invalidValue

/-- `PreprocessingProfile`, with the fields the planner and the warp read. -/
structure PreprocessingProfile where
  /-- The rows and columns of `source_schema.shape`. -/
  schemaShape : Option (ℕ × ℕ)
  transformDirection : TransformDirection
  transformType : TransformType
  pixelConvention : PixelConvention
  targetGrid : TargetGrid
  sourceRoi : SourceROI
  haloRows : ℕ
  haloCols : ℕ
  borderPolicy : BorderPolicy
  imageKernel : ResampleKernel
  validityKernel : ResampleKernel
  reasonKernel : ResampleKernel
  supportThreshold : ℚ
  precision : NumericPrecision
  validityEncoding : MaskEncoding
  /-- `reason_encoding.bits`. -/
  reasonBits : List (String × ℕ)

/-- `CalibrationBundle`, with the parameters of an affine transform. -/
structure CalibrationBundle where
  transformType : TransformType
  transformDirection : TransformDirection
  pixelConvention : PixelConvention
  matrix : Option (List (List ℚ))
  offset : Option (List ℚ)

/-! ## Kernels -/

/-- The window of a source. -/
structure SourceWindow where
  rowStart : ℕ
  rowEnd : ℕ
  colStart : ℕ
  colEnd : ℕ
  deriving DecidableEq

/-- Whether a window has no pixel. -/
def SourceWindow.isEmpty (w : SourceWindow) : Bool :=
  w.rowStart = w.rowEnd || w.colStart = w.colEnd

/-- A source pixel of a window. -/
def SourceWindow.Contains (w : SourceWindow) (row col : ℤ) : Prop :=
  w.rowStart ≤ row ∧ row < w.rowEnd ∧ w.colStart ≤ col ∧ col < w.colEnd

instance (w : SourceWindow) (row col : ℤ) : Decidable (w.Contains row col) :=
  inferInstanceAs (Decidable (_ ∧ _ ∧ _ ∧ _))

/-- The pairs of two lists, row by row. -/
def gridPairs (rows cols : List ℤ) : List (ℤ × ℤ) :=
  rows.flatMap fun row => cols.map fun col => (row, col)

/-- `_kernel_indices` of one mapped pixel. -/
def kernelIndices (mapping : ℚ × ℚ) (kernel : ResampleKernel) (pixelOffset : ℚ) :
    List (ℤ × ℤ) :=
  let y := mapping.1 - pixelOffset
  let x := mapping.2 - pixelOffset
  match kernel with
  | .nearest => [(⌊y + 1 / 2⌋, ⌊x + 1 / 2⌋)]
  | .bilinear | .support =>
      let y0 := ⌊y⌋
      let x0 := ⌊x⌋
      [(y0, x0), (y0, x0 + 1), (y0 + 1, x0), (y0 + 1, x0 + 1)]
  | .bicubic =>
      let y0 := ⌊y⌋
      let x0 := ⌊x⌋
      gridPairs [y0 + -1, y0 + 0, y0 + 1, y0 + 2] [x0 + -1, x0 + 0, x0 + 1, x0 + 2]

/-- The footprint of a pixel: the first and last row, the first and last column. -/
structure Footprint where
  rowMin : ℤ
  rowMax : ℤ
  colMin : ℤ
  colMax : ℤ

/-- `np.min`. -/
def minOf (values : List ℤ) : ℤ := values.min?.getD 0

/-- `np.max`. -/
def maxOf (values : List ℤ) : ℤ := values.max?.getD 0

/-- The footprint of some source indices. -/
def Footprint.of (indices : List (ℤ × ℤ)) : Footprint where
  rowMin := minOf (indices.map Prod.fst)
  rowMax := maxOf (indices.map Prod.fst)
  colMin := minOf (indices.map Prod.snd)
  colMax := maxOf (indices.map Prod.snd)

/-! ## The planner -/

/-- `TransformPlanner`. -/
structure TransformPlanner where
  profile : PreprocessingProfile
  sourceRows : ℕ
  sourceCols : ℕ
  /-- `source_roi_yx`: first and last row, first and last column. -/
  roi : SourceWindow
  /-- The rows of the matrix. -/
  matrix : (ℚ × ℚ) × (ℚ × ℚ)
  offset : ℚ × ℚ
  sourceRows_pos : 0 < sourceRows
  sourceCols_pos : 0 < sourceCols
  roi_rows : roi.rowEnd ≤ sourceRows
  roi_cols : roi.colEnd ≤ sourceCols

/-- `np.linalg.det`. -/
def determinant (m : (ℚ × ℚ) × (ℚ × ℚ)) : ℚ := m.1.1 * m.2.2 - m.1.2 * m.2.1

/-- `_resolve_affine`. -/
def resolveAffine (profile : PreprocessingProfile) (calibration : CalibrationBundle) :
    Raises (((ℚ × ℚ) × (ℚ × ℚ)) × (ℚ × ℚ)) :=
  if profile.transformType = .identity then .ok (((1, 0), (0, 1)), (0, 0))
  else
    match calibration.matrix, calibration.offset with
    | some [[a, b], [c, d]], some [u, v] =>
        if |determinant ((a, b), (c, d))| ≤ 1 / 10 ^ 12 then
          preprocessError "CALIBRATION_INVALID"
            "affine calibration contains non-finite or singular parameters"
        else .ok (((a, b), (c, d)), (u, v))
    | some _, some _ =>
        preprocessError "CALIBRATION_INVALID"
          "affine calibration matrix must be 2x2 and offset must have length 2"
    | _, _ =>
        preprocessError "CALIBRATION_INVALID"
          "affine calibration requires matrix and offset parameters"

/-- `_resolve_roi`. -/
def resolveRoi (roi : SourceROI) (rows cols : ℕ) :
    Raises { w : SourceWindow // w.rowEnd ≤ rows ∧ w.colEnd ≤ cols } :=
  match roi with
  | .full => .ok ⟨⟨0, rows, 0, cols⟩, le_rfl, le_rfl⟩
  | .window rowStart rowEnd colStart colEnd _ _ =>
      if inside : rowEnd ≤ rows ∧ colEnd ≤ cols then
        .ok ⟨⟨rowStart, rowEnd, colStart, colEnd⟩, inside⟩
      else preprocessError "SCHEMA_MISMATCH" "source ROI exceeds source shape"

/-- `TransformPlanner.__init__`. -/
def TransformPlanner.new (profile : PreprocessingProfile) (calibration : CalibrationBundle)
    (rows cols : ℕ) : Raises TransformPlanner :=
  if positive : 0 < rows ∧ 0 < cols then
    if profile.schemaShape.any fun shape => shape ≠ (rows, cols) then
      valueError "source shape does not match profile source schema"
    else if calibration.transformType ≠ profile.transformType then
      preprocessError "CALIBRATION_UNSUPPORTED"
        "calibration transform type does not match preprocessing profile"
    else if profile.transformType ≠ .identity ∧ profile.transformType ≠ .affine then
      preprocessError "CALIBRATION_UNSUPPORTED"
        "transform type is not implemented by the CPU baseline"
    else if calibration.transformDirection ≠ profile.transformDirection then
      preprocessError "CALIBRATION_UNSUPPORTED"
        "calibration transform direction does not match preprocessing profile"
    else if calibration.pixelConvention ≠ profile.pixelConvention then
      preprocessError "CALIBRATION_UNSUPPORTED"
        "calibration pixel convention does not match preprocessing profile"
    else do
      let roi ← resolveRoi profile.sourceRoi rows cols
      let affine ← resolveAffine profile calibration
      .ok ⟨profile, rows, cols, roi.1, affine.1, affine.2, positive.1, positive.2, roi.2.1,
        roi.2.2⟩
  else valueError "source_shape_yx must contain two positive dimensions"

/-- A pixel of a plan: its mapping, its footprint, and where it maps to. -/
structure PlannedPixel where
  mapping : ℚ × ℚ
  footprint : Footprint
  outsideSource : Bool
  outsideRoi : Bool

/-- `TransformPlan`, its arrays as the rows of its pixels. -/
structure TransformPlan where
  outputRowStart : ℕ
  outputRowEnd : ℕ
  sourceShape : ℕ × ℕ
  sourceRoi : SourceWindow
  sourceWindow : SourceWindow
  pixelOffset : ℚ
  pixels : List (List PlannedPixel)

namespace TransformPlanner

variable (p : TransformPlanner)

/-- `pixel_offset`. -/
def pixelOffset : ℚ := if p.profile.pixelConvention = .center then 1 / 2 else 0

/-- `_target_model_xy` of one pixel. -/
def targetModelXy (resolution : ℚ × ℚ) (row col : ℕ) : ℚ × ℚ :=
  (p.profile.targetGrid.origin.1 + (col + p.pixelOffset) * resolution.1,
    p.profile.targetGrid.origin.2 + (row + p.pixelOffset) * resolution.2)

/-- `_map_model_to_source`, by Cramer's rule where the source solves a linear system. -/
def mapModelToSource (model : ℚ × ℚ) : ℚ × ℚ :=
  let (a, b) := p.matrix.1
  let (c, d) := p.matrix.2
  match p.profile.transformDirection with
  | .sourceToModel =>
      let x := model.1 - p.offset.1
      let y := model.2 - p.offset.2
      ((d * x - b * y) / determinant p.matrix, (a * y - c * x) / determinant p.matrix)
  | .modelToSource =>
      (a * model.1 + b * model.2 + p.offset.1, c * model.1 + d * model.2 + p.offset.2)

/-- The mapping of a target pixel: its source row and column. -/
def mappingYx (resolution : ℚ × ℚ) (row col : ℕ) : ℚ × ℚ :=
  (p.mapModelToSource (p.targetModelXy resolution row col)).swap

/-- The source indices of the three kernels. -/
def footprintIndices (mapping : ℚ × ℚ) : List (ℤ × ℤ) :=
  kernelIndices mapping p.profile.imageKernel p.pixelOffset ++
    (kernelIndices mapping p.profile.validityKernel p.pixelOffset ++
      kernelIndices mapping p.profile.reasonKernel p.pixelOffset)

/-- A mapping outside the bounds of some rows and columns. -/
def outside (mapping : ℚ × ℚ) (w : SourceWindow) : Bool :=
  mapping.1 < w.rowStart + p.pixelOffset || mapping.1 > w.rowEnd - 1 + p.pixelOffset ||
    mapping.2 < w.colStart + p.pixelOffset || mapping.2 > w.colEnd - 1 + p.pixelOffset

/-- The plan of one pixel. -/
def planPixel (resolution : ℚ × ℚ) (row col : ℕ) : PlannedPixel where
  mapping := p.mappingYx resolution row col
  footprint := Footprint.of (p.footprintIndices (p.mappingYx resolution row col))
  outsideSource := p.outside (p.mappingYx resolution row col) ⟨0, p.sourceRows, 0, p.sourceCols⟩
  outsideRoi := p.outside (p.mappingYx resolution row col) p.roi

/-- One axis of `_source_window`: the clamped bounds, at least one index long. -/
def windowBounds (size halo : ℕ) (minimum maximum : ℤ) : ℕ × ℕ :=
  let rawStart := minimum - halo
  let rawEnd := maximum + 1 + halo
  let start := max 0 (min (size : ℤ) rawStart)
  let stop := max start (min (size : ℤ) rawEnd)
  if start = stop ∧ size ≠ 0 then
    let start := min ((size : ℤ) - 1) (max 0 rawStart)
    (start.toNat, (start + 1).toNat)
  else (start.toNat, stop.toNat)

/-- `_source_window`. -/
def sourceWindow (footprints : List Footprint) : SourceWindow :=
  if footprints = [] then ⟨0, 0, 0, 0⟩
  else
    let rows := windowBounds p.sourceRows p.profile.haloRows
      (minOf (footprints.map Footprint.rowMin)) (maxOf (footprints.map Footprint.rowMax))
    let cols := windowBounds p.sourceCols p.profile.haloCols
      (minOf (footprints.map Footprint.colMin)) (maxOf (footprints.map Footprint.colMax))
    ⟨rows.1, rows.2, cols.1, cols.2⟩

/-- `plan_strip`. -/
def planStrip (rowStart rowEnd : ℕ) : Raises TransformPlan :=
  if rowEnd ≤ rowStart ∨ rowEnd > p.profile.targetGrid.rows then
    valueError "output strip bounds are outside target grid"
  else
    match p.profile.targetGrid.resolution with
    | none => typeError "'NoneType' object is not subscriptable"
    | some resolution =>
        let pixels := (List.range' rowStart (rowEnd - rowStart)).map fun row =>
          (List.range p.profile.targetGrid.cols).map fun col => p.planPixel resolution row col
        .ok
          { outputRowStart := rowStart
            outputRowEnd := rowEnd
            sourceShape := (p.sourceRows, p.sourceCols)
            sourceRoi := p.roi
            sourceWindow := p.sourceWindow (pixels.flatten.map PlannedPixel.footprint)
            pixelOffset := p.pixelOffset
            pixels := pixels }

/-- The strips of `plan_strips`. -/
def stripBounds (rows : ℕ) (stripRows : ℕ+) : List (ℕ × ℕ) := Chunks.bounds rows stripRows

end TransformPlanner

end CubeNano

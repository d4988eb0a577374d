import CubeNano.Lib.Chunks
import CubeNano.Lib.Plane
import CubeNano.Preprocess.WarpBackend
import CubeNano.Protocol.PyNumbers

/-!
# The inference adapter

`inference_adapter.py`: the windows of a verified artifact that are given to a model, batch by
batch, and the records that come out.  Areas, fractions and probabilities are exact numbers.  The
arithmetic of the normalization, the conversion to the type of the tensor and the engine are
parameters.

The masks and the mapping of a patch, which no record has, the texts that a record copies from its
artifact and its timestamp are not modelled, nor is the writer that may be given the records.

## Main definitions

* `ModelProfile`, `InferenceAdapter`, `InferenceArtifact`
* `InferenceAdapter.adaptWindow`, `InferenceAdapter.iterPatches`, `InferenceAdapter.run`
-/

namespace CubeNano

open GridTiling

/-! ## Contracts -/

/-- `padding_policy`. -/
inductive PaddingPolicy
  | reject
  | constant
  | edge
  | reflect
  deriving DecidableEq

/-- What is used of a `ModelCompatibilityProfile`. -/
structure ModelProfile where
  requiredBandOrder : List String
  /-- The letters of `tensor_layout`, which are unique. -/
  tensorLayout : List Char
  patchSize : ℕ+ × ℕ+
  batchSize : ℕ+
  paddingPolicy : PaddingPolicy
  /-- `NormalizationSpec.apply` of rows, columns and channels. -/
  normalize : Tensor PyFloat → Raises (Tensor PyFloat)
  /-- It changes no shape. -/
  shape_normalize : ∀ image normalized, normalize image = .ok normalized →
    normalized.shape = image.shape
  /-- The conversion to `tensor_dtype`. -/
  convert : PyFloat → PyFloat

/-- `InferenceAdapter` with its engine, which answers for a patch by the patch only. -/
structure InferenceAdapter where
  profile : ModelProfile
  acceptedOutputLayouts : List String
  acceptedOutputDtypes : Option (List String)
  acceptedSpatialSemantics : Option (List String)
  minValidFraction : ℚ
  threshold : ℚ
  padValue : PyFloat
  minValidFraction_mem : 0 ≤ minValidFraction ∧ minValidFraction ≤ 1
  threshold_mem : 0 ≤ threshold ∧ threshold ≤ 1
  /-- The prediction and the probability for the tensor of a patch. -/
  answer : Tensor PyFloat → Raises (Bool × PyFloat)

/-- A verified artifact: what its reader and its manifest give. -/
structure InferenceArtifact where
  rows : ℕ+
  cols : ℕ+
  sourceChannels : List String
  outputLayout : String
  outputDtype : String
  spatialSemantics : String
  profileFingerprint : Text
  /-- `manifest.profile_fingerprint`. -/
  manifestFingerprint : Text
  /-- `manifest.complete`. -/
  complete : Bool
  /-- The channels of the image, and the image as rows, columns and channels. -/
  channels : ℕ
  image : ℕ → ℕ → ℕ → PyFloat
  /-- The conversion to the type of the image. -/
  castSample : PyFloat → PyFloat
  validity : ℕ → ℕ → ℕ
  reason : ℕ → ℕ → ℕ
  /-- `validity_encoding.valid_value`. -/
  validValue : ℕ
  /-- `reason_encoding.bits`. -/
  bits : List (String × ℕ)

/-! ## Patches and records -/

/-- `AdaptedPatch`. -/
structure AdaptedPatch where
  patchRow : ℕ
  patchCol : ℕ
  modelWindow : Rect
  tensor : Option (Tensor PyFloat)
  validFraction : ℚ
  validityReasonSummary : List (String × ℕ)
  /-- Whether `inference_status` is `ready`, and not `invalid`. -/
  ready : Bool
  reasonCode : Option String

/-- `is_valid`. -/
def AdaptedPatch.isValid (patch : AdaptedPatch) : Bool := patch.ready && patch.tensor.isSome

/-- A record of `run`. -/
structure InferenceRecord where
  patchRow : ℕ
  patchCol : ℕ
  modelWindow : Rect
  validFraction : ℚ
  validityReasonSummary : List (String × ℕ)
  cloudProbability : Option ℚ
  cloudLabel : Option String
  inferenceStatus : String
  reasonCode : Option String
  threshold : ℚ
  georefValid : Bool
  deriving DecidableEq

/-- `InferenceResult`. -/
structure InferenceResult where
  records : List InferenceRecord
  status : String
  cloudCoverage : Option ℚ
  validArea : ℚ
  processedCount : ℕ
  validCount : ℕ
  invalidCount : ℕ
  deriving DecidableEq

/-- `PreprocessFailure`. -/
structure InferenceFailure where
  reasonCode : String
  message : String

/-- The sums of `run`, with its records. -/
structure RunSums where
  validArea : ℚ
  cloudArea : ℚ
  records : List InferenceRecord

/-- The result of the sums. -/
def RunSums.result (sums : RunSums) : InferenceResult where
  records := sums.records
  status :=
    if sums.records.all fun record => record.inferenceStatus = "valid" then "complete"
    else "incomplete"
  cloudCoverage := if sums.validArea ≤ 0 then none else some (sums.cloudArea / sums.validArea)
  validArea := sums.validArea
  processedCount := sums.records.length
  validCount := sums.records.countP fun record => record.inferenceStatus = "valid"
  invalidCount := sums.records.countP fun record => record.inferenceStatus ≠ "valid"

/-! ## Compatibility -/

namespace ModelProfile

variable (profile : ModelProfile)

/-- `accepts`.  The names are printed without escapes. -/
def accepts (channels : List String) : List String :=
  let missing := (profile.requiredBandOrder.filter (!channels.contains ·)).mergeSort (· ≤ ·)
  let others := profile.tensorLayout.filter fun axis => axis ≠ 'N' && axis ≠ 'C'
  (if missing = [] then []
    else ["missing bands: [" ++ ", ".intercalate (missing.map fun name => "'" ++ name ++ "'") ++
      "]"]) ++
  (if others ≠ [] ∧ 'H' ∉ profile.tensorLayout ∧ 'W' ∉ profile.tensorLayout then
    ["tensor layout has no spatial axes"]
  else [])

end ModelProfile

namespace InferenceAdapter

variable (adapter : InferenceAdapter) (artifact : InferenceArtifact)

/-- `_compatibility_reasons`. -/
def compatibilityReasons : List String :=
  let profile := adapter.profile
  profile.accepts artifact.sourceChannels ++
  (if artifact.complete then [] else ["artifact manifest is not complete"]) ++
  (if artifact.manifestFingerprint = artifact.profileFingerprint then []
    else ["artifact profile fingerprint does not match profile metadata"]) ++
  (if adapter.acceptedOutputLayouts.contains artifact.outputLayout then []
    else ["unsupported artifact output layout: " ++ artifact.outputLayout]) ++
  (if adapter.acceptedOutputDtypes.all (·.contains artifact.outputDtype) then []
    else ["unsupported artifact output dtype: " ++ artifact.outputDtype]) ++
  (if adapter.acceptedSpatialSemantics.all (·.contains artifact.spatialSemantics) then []
    else ["unsupported artifact grid semantics: " ++ artifact.spatialSemantics]) ++
  (if 'H' ∈ profile.tensorLayout ∧ 'W' ∈ profile.tensorLayout then []
    else ["tensor layout must contain H and W axes"])

/-- `check_compatibility`. -/
def checkCompatibility : Raises Unit :=
  let reasons := adapter.compatibilityReasons artifact
  if reasons = [] then .ok ()
  else preprocessError "SCHEMA_MISMATCH"
    ("preprocessed artifact is incompatible with the model contract: " ++ "; ".intercalate reasons)

/-! ## Tensors -/

/-- The image of a window. -/
def windowImage (window : Rect) : Tensor PyFloat :=
  ⟨[window.bottom - window.top, window.right - window.left, artifact.channels], fun index =>
    artifact.image (window.top + index.getD 0 0) (window.left + index.getD 1 0) (index.getD 2 0)⟩

/-- `_pad_array` of an image of some rows and columns, by a policy that pads. -/
def padArray (image : Tensor PyFloat) (rows cols : ℕ) : Tensor PyFloat :=
  let height := image.shape.getD 0 0
  let width := image.shape.getD 1 0
  ⟨[rows, cols, image.shape.getD 2 0], fun index =>
    let row := index.getD 0 0
    let col := index.getD 1 0
    let channel := index.getD 2 0
    match adapter.profile.paddingPolicy with
    | .edge => image.cell [min row (height - 1), min col (width - 1), channel]
    | .reflect =>
        image.cell [(reflectIndex row height).toNat, (reflectIndex col width).toNat, channel]
    | _ =>
        if row < height ∧ col < width then image.cell index
        else artifact.castSample adapter.padValue⟩

/-- `image_hwc[..., indices]`. -/
def selectBands (image : Tensor PyFloat) : Tensor PyFloat :=
  let required := adapter.profile.requiredBandOrder
  let indices := required.map fun name => artifact.sourceChannels.idxOf name
  ⟨[image.shape.getD 0 0, image.shape.getD 1 0, required.length], fun index =>
    image.cell [index.getD 0 0, index.getD 1 0, indices.getD (index.getD 2 0) 0]⟩

/-- The length of an axis of the tensor of an image of some rows, columns and channels. -/
def axisLength (shape : List ℕ) : Char → ℕ
  | 'H' => shape.getD 0 0
  | 'W' => shape.getD 1 0
  | 'C' => shape.getD 2 0
  | _ => 1

/-- The tensor of a normalized image in a layout, with one patch on the axis `N`. -/
def transpose (normalized : Tensor PyFloat) (layout : List Char) : Tensor PyFloat :=
  ⟨layout.map (axisLength normalized.shape), fun index =>
    let position (axis : Char) : ℕ := index.getD (layout.idxOf axis) 0
    normalized.cell [position 'H', position 'W', position 'C']⟩

/-- `_tensor` of an image that was padded. -/
def tensorOf (image : Tensor PyFloat) : Raises (Tensor PyFloat) :=
  if artifact.channels ≠ artifact.sourceChannels.length then
    preprocessError "SCHEMA_MISMATCH" "artifact channel count does not match profile schema"
  else do
    let normalized ← adapter.profile.normalize (adapter.selectBands artifact image)
    let layout := adapter.profile.tensorLayout
    if normalized.shape.take 2 ≠
        [(adapter.profile.patchSize.1 : ℕ), (adapter.profile.patchSize.2 : ℕ)] then
      preprocessError "SCHEMA_MISMATCH" "adapted patch does not match model patch size"
    else if layout.any fun axis => !(['N', 'C', 'H', 'W'].contains axis) then
      preprocessError "SCHEMA_MISMATCH" ("unsupported tensor layout " ++ String.ofList layout)
    else
      let transposed := transpose normalized layout
      let tensor : Tensor PyFloat :=
        ⟨transposed.shape, fun index => adapter.profile.convert (transposed.cell index)⟩
      if !tensor.all PyFloat.isFinite then
        preprocessError "NON_FINITE_OUTPUT" "normalization produced a non-finite tensor"
      else .ok tensor

/-! ## Patches -/

/-- The number of valid pixels of a window. -/
def validCount (window : Rect) : ℕ :=
  (window.cells.filter fun cell =>
    artifact.validity cell.1 cell.2 = artifact.validValue).card

/-- `_reason_summary`. -/
def reasonSummary (window : Rect) : List (String × ℕ) :=
  artifact.bits.filterMap fun entry =>
    let count :=
      (window.cells.filter fun cell => artifact.reason cell.1 cell.2 &&& entry.2 ≠ 0).card
    if count = 0 then none else some (entry.1, count)

/-- The summary with the pixels beyond the edge of the grid. -/
def addBorder (summary : List (String × ℕ)) (missing : ℕ) : List (String × ℕ) :=
  if (artifact.bits.lookup "border").getD 0 = 0 then summary
  else if (summary.lookup "border").isSome then
    summary.map fun entry => if entry.1 = "border" then (entry.1, entry.2 + missing) else entry
  else summary ++ [("border", missing)]

/-- `patch_height * patch_width`. -/
def fullArea : ℕ := adapter.profile.patchSize.1 * adapter.profile.patchSize.2

/-- The share of a whole patch that is valid in a window. -/
def validFraction (window : Rect) : ℚ :=
  (validCount artifact window : ℚ) / (adapter.fullArea : ℚ)

/-- Whether a window is smaller than a patch. -/
def IncompleteEdge (window : Rect) : Prop :=
  window.bottom - window.top ≠ adapter.profile.patchSize.1 ∨
    window.right - window.left ≠ adapter.profile.patchSize.2

instance (window : Rect) : Decidable (adapter.IncompleteEdge window) := inferInstanceAs
  (Decidable (_ ∨ _))

/-- `_adapt_window`. -/
def adaptWindow (patchRow patchCol : ℕ) (window : Rect) : Raises AdaptedPatch :=
  let fraction := adapter.validFraction artifact window
  let summary := reasonSummary artifact window
  let invalid (summary : List (String × ℕ)) (reasonCode : String) : AdaptedPatch :=
    ⟨patchRow, patchCol, window, none, fraction, summary, false, some reasonCode⟩
  if adapter.IncompleteEdge window ∧ adapter.profile.paddingPolicy = .reject then
    .ok (invalid (addBorder artifact summary (adapter.fullArea - window.area))
      "BORDER_PADDING_REJECTED")
  else if fraction ≤ 0 ∨ fraction < adapter.minValidFraction then
    .ok (invalid summary "VALID_FRACTION_BELOW_THRESHOLD")
  else do
    let image := windowImage artifact window
    let padded := if adapter.IncompleteEdge window then
        adapter.padArray artifact image adapter.profile.patchSize.1 adapter.profile.patchSize.2
      else image
    let tensor ← adapter.tensorOf artifact padded
    .ok ⟨patchRow, patchCol, window, some tensor, fraction, summary, true, none⟩

/-- The windows of `iter_patches`, with their rows and columns in the grid of patches. -/
def gridWindows : List (ℕ × ℕ × Rect) :=
  let height : ℕ := adapter.profile.patchSize.1
  let width : ℕ := adapter.profile.patchSize.2
  (starts 0 artifact.rows height).zipIdx.flatMap fun (rowStart, patchRow) =>
    (starts 0 artifact.cols width).zipIdx.map fun (colStart, patchCol) =>
      (patchRow, patchCol, ⟨rowStart, min (rowStart + height) artifact.rows, colStart,
        min (colStart + width) artifact.cols⟩)

/-- `list(iter_patches(artifact))`. -/
def iterPatches : Raises (List AdaptedPatch) := do
  adapter.checkCompatibility artifact
  (adapter.gridWindows artifact).mapM fun (patchRow, patchCol, window) =>
    adapter.adaptWindow artifact patchRow patchCol window

/-! ## The engine -/

/-- What the engine answers for a batch; what an engine may raise becomes a failure. -/
def engineAnswers (tensors : List (Tensor PyFloat)) : Raises (List (Bool × PyFloat)) :=
  match tensors.mapM adapter.answer with
  | .ok answers => .ok answers
  | .error e =>
      if e.kind = .osError || e.kind.isRuntimeError then
        preprocessError "RUNTIME_FAULT" "inference engine execution failed"
      else .error e

/-- The probability of a float that is one. -/
def probability? : PyFloat → Option ℚ
  | .finite value => if 0 ≤ value ∧ value ≤ 1 then some value else none
  | _ => none

/-- `_infer_batch`.  The length of the tensors is that of their first axis. -/
def inferBatch (tensors : List (Tensor PyFloat)) : Raises (List (Bool × ℚ)) := do
  let answers ← adapter.engineAnswers tensors
  let length := (tensors.map fun tensor => tensor.shape.headD 0).sum
  if answers.length ≠ length then
    preprocessError "RUNTIME_FAULT"
      "inference engine returned a result count different from the batch"
  else if !answers.all fun entry => entry.2.isFinite then
    preprocessError "NON_FINITE_OUTPUT" "inference engine returned a non-finite probability"
  else if !answers.all fun entry => (probability? entry.2).isSome then
    preprocessError "RUNTIME_FAULT" "inference engine returned a probability outside [0, 1]"
  else .ok (answers.map fun entry => (entry.1, (probability? entry.2).getD 0))

/-- The entries of `predictions` for one batch. -/
def predictBatch (batch : List AdaptedPatch) : Raises (List ((ℕ × ℕ) × Bool × ℚ)) := do
  let answers ← adapter.inferBatch (batch.filterMap AdaptedPatch.tensor)
  .ok ((batch.zip answers).map fun entry =>
    ((entry.1.patchRow, entry.1.patchCol), entry.2))

/-- The entries of `predictions` for the patches that are ready, batch by batch. -/
def predictAll (ready : List AdaptedPatch) : Raises (List ((ℕ × ℕ) × Bool × ℚ)) :=
  ((Chunks.slices ready adapter.profile.batchSize).mapM adapter.predictBatch).map List.flatten

/-! ## Records -/

/-- `predictions[key]`, where a later entry replaces an earlier one. -/
def prediction (predictions : List ((ℕ × ℕ) × Bool × ℚ)) (key : ℕ × ℕ) : Raises (Bool × ℚ) :=
  match predictions.reverse.lookup key with
  | some entry => .ok entry
  | none => keyError (shapeText [key.1, key.2])

/-- The record of a patch, with the prediction of one that is valid. -/
def recordOf (patch : AdaptedPatch) (predicted : Option (Bool × ℚ)) : InferenceRecord where
  patchRow := patch.patchRow
  patchCol := patch.patchCol
  modelWindow := patch.modelWindow
  validFraction := patch.validFraction
  validityReasonSummary := patch.validityReasonSummary
  cloudProbability := predicted.map Prod.snd
  cloudLabel := predicted.map fun entry => if entry.1 then "cloud" else "clear"
  inferenceStatus := if predicted.isSome then "valid" else "invalid"
  reasonCode := if predicted.isSome then none else patch.reasonCode
  threshold := adapter.threshold
  georefValid := true

/-- The body of the loop of `run` over the patches. -/
def sumPatch (predictions : List ((ℕ × ℕ) × Bool × ℚ)) (sums : RunSums) (patch : AdaptedPatch) :
    Raises RunSums := do
  match ← floatOfInt patch.modelWindow.area with
  | .finite area =>
      let patchValidArea := area * patch.validFraction
      if patch.isValid then do
        let predicted ← prediction predictions (patch.patchRow, patch.patchCol)
        .ok
          { validArea := sums.validArea + patchValidArea
            cloudArea := sums.cloudArea + if predicted.1 then patchValidArea else 0
            records := sums.records ++ [adapter.recordOf patch (some predicted)] }
      else .ok { sums with records := sums.records ++ [adapter.recordOf patch none] }
  -- `float` of an integer is finite
  | _ => overflowError "int too large to convert to float"

/-- The body of `run`. -/
def runPatches : Raises InferenceResult := do
  adapter.checkCompatibility artifact
  let prepared ← adapter.iterPatches artifact
  let predictions ← adapter.predictAll (prepared.filter AdaptedPatch.isValid)
  let sums ← prepared.foldlM (adapter.sumPatch predictions) ⟨0, 0, []⟩
  .ok sums.result

/-- `run`: a result, or the failure that a `PreprocessError` becomes. -/
def run : Raises (InferenceResult ⊕ InferenceFailure) :=
  match adapter.runPatches artifact with
  | .ok result => .ok (.inl result)
  | .error ⟨.preprocessError reason, message⟩ => .ok (.inr ⟨reason, message⟩)
  | .error e => .error e

end InferenceAdapter

end CubeNano

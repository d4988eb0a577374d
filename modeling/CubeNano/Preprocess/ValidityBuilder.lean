import CubeNano.Lib.ExceptFold
import CubeNano.Lib.NamedBits
import CubeNano.Preprocess.WarpBackend
import CubeNano.Protocol.PyNumbers

/-!
# Validity and reason masks

`src/preprocessing/validity.py`: the masks of a source block, from its samples and what a reader
knows of them, and the masks of an output block.  An array is a function of its row and column, next
to its shape.

## Main definitions

* `QualityProfile` — what the builder reads of a profile
* `ValidityBuilder.buildSource`, `ValidityBuilder.finalize`

## Main statements

* `ValidityBuilder.has_addReason` — the reasons after one is added
* `ValidityBuilder.buildSource_spec`, `ValidityBuilder.finalize_spec` — validity and reasons
-/

namespace CubeNano

/-! ## Profiles -/

/-- A configured NoData value: one for each of some channels, a sequence, or one number. -/
inductive NoDataValue
  | channels (values : List (String × PyFloat))
  | sequence (values : List PyFloat)
  | scalar (value : PyFloat)

/-- An argument that `np.asarray` makes a mask: a scalar, or an array with its shape. -/
inductive MaskValue
  | scalar (value : Bool)
  | array (shape : List ℕ) (value : ℕ → ℕ → Bool)

/-- `nodata_semantics`: its `kind` in lower case and with underscores, and its other entries. -/
structure NoDataSemantics where
  kind : String
  value : Option NoDataValue
  mask : Option MaskValue
  lower : Option PyFloat
  upper : Option PyFloat

/-- `non_finite_policy`. -/
inductive NonFinitePolicy
  | reject
  | replace
  deriving DecidableEq

/-- A profile, with the fields that the masks depend on. -/
structure QualityProfile extends PreprocessingProfile where
  /-- `source_schema.channels`. -/
  channels : List String
  nodata : Option NoDataSemantics
  nonFinitePolicy : NonFinitePolicy
  bits_distinct : (reasonBits.map Prod.snd).Nodup
  bits_single : ∀ entry ∈ reasonBits, ∃ k, entry.2 = 2 ^ k

/-- `source_schema.channel_count`. -/
def QualityProfile.channelCount (p : QualityProfile) : ℕ :=
  if p.channels = [] then 1 else p.channels.length

/-- The reasons of a profile. -/
def QualityProfile.reasons (p : QualityProfile) : NamedBits String :=
  ⟨p.reasonBits, p.bits_distinct, p.bits_single⟩

/-- What the channels of a source are known to miss. -/
inductive MissingChannels
  | byName (entries : List (String × MaskValue))
  | names (names : List String)
  /-- A Boolean vector. -/
  | flags (values : List Bool)
  /-- A Boolean array of two axes. -/
  | mask (shape : List ℕ) (value : ℕ → ℕ → Bool)
  /-- A Boolean array of three axes. -/
  | channelMask (shape : List ℕ) (value : ℕ → ℕ → ℕ → Bool)

/-- `ValidityMasks`. -/
structure ValidityMasks where
  validity : ℕ → ℕ → ℕ
  reason : ℕ → ℕ → ℕ

namespace ValidityBuilder

/-! ## Masks -/

/-- `_as_bool_mask`. -/
def asBoolMask (value : Option MaskValue) (shape : ℕ × ℕ) (fieldName : String) :
    Raises (ℕ → ℕ → Bool) :=
  match value with
  | none => .ok fun _ _ => false
  | some (.scalar value) => .ok fun _ _ => value
  | some (.array shape' value) =>
      if shape' = [shape.1, shape.2] then .ok value
      else valueError (fieldName ++ " must have shape " ++ shapeText [shape.1, shape.2] ++
        ", got " ++ shapeText shape')

/-- `np.any`. -/
def anySet (shape : ℕ × ℕ) (mask : ℕ → ℕ → Bool) : Bool :=
  (List.range shape.1).any fun row => (List.range shape.2).any fun col => mask row col

/-- `add_reason`, with a mask of the shape of the reasons. -/
def addReason (p : QualityProfile) (shape : ℕ × ℕ) (reason : ℕ → ℕ → ℕ) (name : String)
    (mask : ℕ → ℕ → Bool) : Raises (ℕ → ℕ → ℕ) :=
  if anySet shape mask then do
    let bit ← reasonBit p.toPreprocessingProfile name
    .ok fun row col => if mask row col then reason row col ||| bit else reason row col
  else .ok reason

/-! ## Source blocks -/

section Source

variable {channels : ℕ} (p : QualityProfile) (image : ℕ → ℕ → Fin channels → PyFloat)

/-- A mask of the pixels one of whose samples meets a condition. -/
def anyChannel (condition : Fin channels → PyFloat → Bool) : ℕ → ℕ → Bool := fun row col =>
  (List.finRange channels).any fun channel => condition channel (image row col channel)

/-- The samples that equal the value of their channel, where one is configured. -/
def equalsConfigured (values : List (String × PyFloat)) : ℕ → ℕ → Bool :=
  anyChannel image fun channel sample =>
    match p.channels[channel.val]? with
    | none => false
    | some name => (values.lookup name).any sample.eq

/-- `_nodata_mask`. -/
def nodataMask (shape : ℕ × ℕ) (external : Option MaskValue) : Raises (ℕ → ℕ → Bool) :=
  match p.nodata with
  | none => .ok fun _ _ => false
  | some spec =>
      if ["none", "absent", "not_applicable", "no_data"].contains spec.kind then
        .ok fun _ _ => false
      else if spec.kind = "nan" then .ok (anyChannel image fun _ sample => sample = .nan)
      else if ["non_finite", "nonfinite"].contains spec.kind then
        .ok (anyChannel image fun _ sample => !sample.isFinite)
      else if ["value", "values", "sentinel"].contains spec.kind then
        match spec.value with
        | none => valueError "NoData value semantics require 'value' or 'values'"
        | some (.channels values) => .ok (equalsConfigured p image values)
        | some (.sequence values) =>
            if values.length = channels ∧ p.channels.length = channels then
              .ok (anyChannel image fun channel sample => (values[channel.val]?).any sample.eq)
            else .ok (anyChannel image fun _ sample => values.any sample.eq)
        | some (.scalar value) => .ok (anyChannel image fun _ sample => sample.eq value)
      else if ["mask", "validity_mask"].contains spec.kind then
        match external.or spec.mask with
        | none => valueError "NoData mask semantics require an external mask"
        | some mask => asBoolMask (some mask) shape "NoData mask"
      else if ["range", "valid_range"].contains spec.kind then
        if spec.lower = none ∧ spec.upper = none then
          valueError "NoData range semantics require lower or upper"
        else
          .ok (anyChannel image fun _ sample =>
            (spec.lower.any fun lower => lower.ge sample && !lower.eq sample) ||
              spec.upper.any fun upper => sample.ge upper && !sample.eq upper)
      else valueError ("unsupported NoData semantics kind '" ++ spec.kind ++ "'")

/-- Names that are not channels are refused. -/
def checkChannels (names : List String) : Raises Unit :=
  let unknown := (names.filter fun name => name ∉ p.channels).dedup.mergeSort (· ≤ ·)
  if unknown = [] then .ok ()
  else valueError ("missing channel names are not in source schema: [" ++
    ", ".intercalate (unknown.map fun name => "'" ++ name ++ "'") ++ "]")

/-- `_missing_mask`. -/
def missingMask (missing : Option MissingChannels) (shape : ℕ × ℕ) : Raises (ℕ → ℕ → Bool) :=
  match missing with
  | none => .ok fun _ _ => false
  | some (.byName entries) => do
      checkChannels p (entries.map Prod.fst)
      let masks ← entries.mapM fun entry =>
        asBoolMask (some entry.2) shape "missing channel mask"
      .ok fun row col => masks.any fun mask => mask row col
  | some (.names names) => do
      checkChannels p names
      .ok fun _ _ => names ≠ []
  | some (.flags values) =>
      if values.length ≠ p.channelCount then
        valueError "missing channel vector length does not match source schema"
      else .ok fun _ _ => values.any id
  | some (.mask shape' value) => asBoolMask (some (.array shape' value)) shape "missing channel mask"
  | some (.channelMask shape' value) =>
      if shape' = [shape.1, shape.2, p.channelCount] then
        .ok fun row col => (List.range p.channelCount).any (value row col)
      else valueError "missing channel mask must be YXC with source channel count"

/-- `build_source`. -/
def buildSource (shape : ℕ × ℕ) (missing : Option MissingChannels)
    (external : Option MaskValue) : Raises ValidityMasks :=
  if channels ≠ p.channelCount then
    valueError ("source block channel count does not match profile: " ++ toString channels ++
      " != " ++ toString p.channelCount)
  else do
    let invalid ← nodataMask p image shape external
    let reason ← addReason p shape (fun _ _ => 0) "source_nodata" invalid
    let missing ← missingMask p missing shape
    let reason ← addReason p shape reason "missing_channel" missing
    .ok
      { validity := fun row col =>
          if invalid row col || missing row col then p.validityEncoding.invalidValue
          else p.validityEncoding.validValue
        reason := reason }

end Source

/-! ## Output blocks -/

/-- The masks that `finalize` combines. -/
structure OutputMasks where
  outsideMapping : ℕ → ℕ → Bool := fun _ _ => false
  border : ℕ → ℕ → Bool := fun _ _ => false
  insufficientSupport : ℕ → ℕ → Bool
  forceInvalid : ℕ → ℕ → Bool

/-- `finalize`. -/
def finalize (p : QualityProfile) (shape : ℕ × ℕ) (base : ValidityMasks) (masks : OutputMasks) :
    Raises ValidityMasks := do
  let reason ← addReason p shape base.reason "outside_mapping" masks.outsideMapping
  let reason ← addReason p shape reason "border" masks.border
  let reason ← addReason p shape reason "insufficient_support" masks.insufficientSupport
  .ok
    { validity := fun row col =>
        if base.validity row col ≠ p.validityEncoding.validValue || masks.outsideMapping row col ||
            masks.insufficientSupport row col || masks.forceInvalid row col then
          p.validityEncoding.invalidValue
        else p.validityEncoding.validValue
      reason := reason }

/-! ## Reasons -/

variable {p : QualityProfile} {shape : ℕ × ℕ} {row col : ℕ}

/-- A set pixel makes `np.any` true. -/
theorem anySet_of_set {mask : ℕ → ℕ → Bool} (rowLt : row < shape.1) (colLt : col < shape.2)
    (set : mask row col = true) : anySet shape mask = true :=
  List.any_eq_true.mpr ⟨row, List.mem_range.mpr rowLt,
    List.any_eq_true.mpr ⟨col, List.mem_range.mpr colLt, set⟩⟩

/-- **Adding a reason** where a mask is set. -/
theorem has_addReason {reason out : ℕ → ℕ → ℕ} {name : String} {mask : ℕ → ℕ → Bool}
    (returned : addReason p shape reason name mask = .ok out) (rowLt : row < shape.1)
    (colLt : col < shape.2) (name' : String) :
    p.reasons.Has (out row col) name' ↔
      p.reasons.Has (reason row col) name' ∨ name' = name ∧ mask row col = true := by
  unfold addReason at returned
  by_cases any : anySet shape mask = true
  · rw [if_pos any] at returned
    obtain ⟨bit, found, result⟩ := bind_eq_ok_iff.mp returned
    cases result
    have known : p.reasons.bit? name = some bit := by
      unfold reasonBit at found
      split at found
      · rename_i other lookup
        cases found
        exact lookup
      · cases found
    dsimp only
    split
    · rename_i set
      rw [NamedBits.has_or, p.reasons.has_bit known, and_iff_left set]
    · rename_i clear
      rw [or_iff_left fun both => clear both.2]
  · rw [if_neg any] at returned
    cases returned
    rw [or_iff_left fun both => any (anySet_of_set rowLt colLt both.2)]

/-- **Source blocks**: a pixel is invalid exactly where it has a reason, and it has no other
reasons. -/
theorem buildSource_spec {channels : ℕ} {image : ℕ → ℕ → Fin channels → PyFloat}
    {missing : Option MissingChannels} {external : Option MaskValue} {masks : ValidityMasks}
    (returned : buildSource p image shape missing external = .ok masks) (rowLt : row < shape.1)
    (colLt : col < shape.2) :
    (masks.validity row col = p.validityEncoding.invalidValue ↔
      p.reasons.Has (masks.reason row col) "source_nodata" ∨
        p.reasons.Has (masks.reason row col) "missing_channel") ∧
      ∀ name, p.reasons.Has (masks.reason row col) name →
        name = "source_nodata" ∨ name = "missing_channel" := by
  unfold buildSource at returned
  split at returned
  · cases returned
  · obtain ⟨invalid, -, returned⟩ := bind_eq_ok_iff.mp returned
    obtain ⟨reason, first, returned⟩ := bind_eq_ok_iff.mp returned
    obtain ⟨absent, -, returned⟩ := bind_eq_ok_iff.mp returned
    obtain ⟨reason', second, result⟩ := bind_eq_ok_iff.mp returned
    cases result
    have has (name : String) : p.reasons.Has (reason' row col) name ↔
        name = "source_nodata" ∧ invalid row col = true ∨
          name = "missing_channel" ∧ absent row col = true := by
      rw [has_addReason second rowLt colLt, has_addReason first rowLt colLt,
        or_iff_right (p.reasons.not_has_zero name)]
    constructor
    · dsimp only
      rw [has, has]
      by_cases bad : (invalid row col || absent row col) = true
      · rw [if_pos bad]
        simpa using bad
      · rw [if_neg bad]
        have differ := p.validityEncoding.differ
        simp only [Bool.or_eq_true, not_or] at bad
        simp [bad, differ]
    · intro name present
      rcases (has name).mp present with ⟨named, -⟩ | ⟨named, -⟩
      · exact .inl named
      · exact .inr named

/-- **Output blocks**: what `finalize` makes of validity and reasons. -/
theorem finalize_spec {base out : ValidityMasks} {masks : OutputMasks}
    (returned : finalize p shape base masks = .ok out) (rowLt : row < shape.1)
    (colLt : col < shape.2) :
    (out.validity row col = p.validityEncoding.invalidValue ↔
      base.validity row col ≠ p.validityEncoding.validValue ∨
        masks.outsideMapping row col = true ∨ masks.insufficientSupport row col = true ∨
        masks.forceInvalid row col = true) ∧
      (out.validity row col = p.validityEncoding.validValue ∨
        out.validity row col = p.validityEncoding.invalidValue) ∧
      ∀ name, p.reasons.Has (out.reason row col) name ↔
        p.reasons.Has (base.reason row col) name ∨
          name = "outside_mapping" ∧ masks.outsideMapping row col = true ∨
          name = "border" ∧ masks.border row col = true ∨
          name = "insufficient_support" ∧ masks.insufficientSupport row col = true := by
  unfold finalize at returned
  obtain ⟨outside, first, returned⟩ := bind_eq_ok_iff.mp returned
  obtain ⟨border, second, returned⟩ := bind_eq_ok_iff.mp returned
  obtain ⟨support, third, result⟩ := bind_eq_ok_iff.mp returned
  cases result
  have differ := p.validityEncoding.differ
  refine ⟨?_, ?_, fun name => ?_⟩
  · dsimp only
    split
    · rename_i bad
      simpa [or_assoc] using bad
    · rename_i good
      simp only [Bool.or_eq_true, decide_eq_true_eq, or_assoc] at good
      exact iff_of_false differ good
  · dsimp only
    split
    · exact .inr rfl
    · exact .inl rfl
  · rw [has_addReason third rowLt colLt, has_addReason second rowLt colLt,
      has_addReason first rowLt colLt, or_assoc, or_assoc]

end ValidityBuilder

end CubeNano

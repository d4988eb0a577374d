import CubeNano.Flight.Journal
import CubeNano.Protocol.Cbor
import CubeNano.Protocol.PyNumbers

/-!
# Thresholds and coverage

`ThresholdLUT` and the integer coverage decision of `sat_ai/threshold_lut.py`.  The table holds
one float of 32 bits for every basis point.

## Main definitions

* `ThresholdLut`, `ThresholdLut.classify`
* `coverageRatioBp`, `coverageAccepted`

## Main statements

* `coverageRatioBp_eq_ok_iff`, `coverageAccepted_eq_ok_iff` — when they return, and what
* `ratio_lt_of_accepted` — the rounded ratio of an accepted coverage is below the limit
-/

namespace CubeNano

/-! ## Floats -/

/-- `struct.unpack(">f", data)` of four bytes. -/
def float32OfBytes (data : Bytes) : PyFloat :=
  let bits := fromBytesBE data
  let negative := decide (2 ^ 31 ≤ bits)
  let exponent : ℕ := bits / 2 ^ 23 % 256
  let fraction : ℕ := bits % 2 ^ 23
  if exponent = 255 then if fraction = 0 then .infinite negative else .nan
  else
    let magnitude : ℚ :=
      if exponent = 0 then fraction * (2 : ℚ) ^ (-149 : ℤ)
      else ((2 ^ 23 + fraction : ℕ) : ℚ) * (2 : ℚ) ^ ((exponent : ℤ) - 150)
    .finite (if negative then -magnitude else magnitude)

/-! ## The table -/

/-- `LUT_ENTRIES`. -/
def lutEntries : ℕ := 10001

/-- `ThresholdLUT`, with the check of its constructor. -/
structure ThresholdLut where
  raw : Bytes
  length_raw : raw.length = lutEntries * 4

namespace ThresholdLut

/-- `ThresholdLUT.__init__`, with the only identifier there is. -/
def new (raw : Bytes) : Raises ThresholdLut :=
  if h : raw.length = lutEntries * 4 then .ok ⟨raw, h⟩
  else valueError "threshold LUT must contain exactly 10001 float32 entries"

/-- `threshold`. -/
def threshold (lut : ThresholdLut) (thresholdBp : U16) : Raises PyFloat :=
  if 10000 < thresholdBp.val then valueError "threshold_bp must be in [0, 10000]"
  else .ok (float32OfBytes ((lut.raw.drop (thresholdBp.val * 4)).take 4))

/-- `classify`. -/
def classify (lut : ThresholdLut) (logit : PyFloat) (thresholdBp : U16) : Raises Bool :=
  if !logit.isFinite then valueError "non-finite model logit"
  else if 10000 < thresholdBp.val then valueError "threshold_bp must be in [0, 10000]"
  else if thresholdBp.val = 0 then .ok true
  else if thresholdBp.val = 10000 then .ok false
  else do
    let threshold ← lut.threshold thresholdBp
    .ok (logit.ge threshold)

end ThresholdLut

/-! ## Coverage -/

/-- `coverage_ratio_bp`. -/
def coverageRatioBp (cloudPositiveArea analyzedArea : ℕ) : Raises ℕ :=
  if ¬ cloudPositiveArea ≤ analyzedArea then
    valueError "cloud_positive_area must be within analyzed_area"
  else if analyzedArea = 0 then valueError "analyzed_area must be positive"
  else if maxU64 / 10000 < cloudPositiveArea then
    overflowError "cloud area multiplication exceeds U64"
  else .ok (cloudPositiveArea * 10000 / analyzedArea)

/-- `coverage_accepted`. -/
def coverageAccepted (cloudPositiveArea analyzedArea : ℕ) (coverageLimitBp : U16) : Raises Bool :=
  if 10000 < coverageLimitBp.val then valueError "coverage_limit_bp must be in [0, 10000]"
  else if analyzedArea = 0 ∨ ¬ cloudPositiveArea ≤ analyzedArea then
    valueError "invalid coverage areas"
  else if maxU64 / 10000 < cloudPositiveArea ∨ maxU64 < coverageLimitBp.val * analyzedArea then
    overflowError "coverage comparison exceeds U64"
  else .ok (decide (cloudPositiveArea * 10000 < coverageLimitBp.val * analyzedArea))

theorem coverageRatioBp_eq_ok_iff {cloud analyzed ratio : ℕ} :
    coverageRatioBp cloud analyzed = .ok ratio ↔
      cloud ≤ analyzed ∧ 0 < analyzed ∧ cloud ≤ maxU64 / 10000 ∧
        ratio = cloud * 10000 / analyzed := by
  unfold coverageRatioBp
  split
  · exact ⟨nofun, fun given => absurd given.1 ‹_›⟩
  split
  · exact ⟨nofun, fun given => absurd given.2.1 (by omega)⟩
  split
  · exact ⟨nofun, fun given => absurd given.2.2.1 (by omega)⟩
  · constructor
    · intro returned
      cases returned
      exact ⟨not_not.mp ‹_›, by omega, by omega, rfl⟩
    · rintro ⟨-, -, -, rfl⟩
      rfl

theorem coverageAccepted_eq_ok_iff {cloud analyzed : ℕ} {limit : U16} {accepted : Bool} :
    coverageAccepted cloud analyzed limit = .ok accepted ↔
      limit.val ≤ 10000 ∧ 0 < analyzed ∧ cloud ≤ analyzed ∧ cloud ≤ maxU64 / 10000 ∧
        limit.val * analyzed ≤ maxU64 ∧
        accepted = decide (cloud * 10000 < limit.val * analyzed) := by
  unfold coverageAccepted
  split
  · exact ⟨nofun, fun given => absurd given.1 (by omega)⟩
  split
  · exact ⟨nofun, fun given => absurd ‹_ ∨ _› (by omega)⟩
  split
  · exact ⟨nofun, fun given => absurd ‹_ ∨ _› (by omega)⟩
  · constructor
    · intro returned
      cases returned
      refine ⟨by omega, by omega, by omega, by omega, by omega, rfl⟩
    · rintro ⟨-, -, -, -, -, rfl⟩
      rfl

/-- **The rounded ratio** of an accepted coverage is below the limit. -/
theorem ratio_lt_of_accepted {cloud analyzed limit : ℕ} (positive : 0 < analyzed)
    (accepted : cloud * 10000 < limit * analyzed) : cloud * 10000 / analyzed < limit :=
  (Nat.div_lt_iff_lt_mul positive).mpr accepted

end CubeNano

import CubeNano.Protocol.Exceptions
import CubeNano.Protocol.Sha256
import Mathlib.Data.List.Sort

/-!
# Deterministic fault injection

`link_sim/fault_model.py`.  A `FaultModel` holds the counter PRF the draws come
from; `FaultModel.ofSeed` is the SHA-256 one.  Properties of the link hold for
every PRF, so they hold whatever a seed draws.

## Main definitions

* `FaultProfile.validate` — the checks of a profile
* `FaultModel.applyFaults` — one copy through loss, duplication, corruption,
  jitter, reordering and the serializer
* `FaultModel.corruptFrame` — the bit flips of a corrupted copy
-/

namespace CubeNano

/-- `FaultStage`. -/
inductive FaultStage
  | loss
  | duplicate
  | corruptDecision
  | corruptBit
  | jitter
  | reorder
  deriving DecidableEq, Repr

/-- The fixed stage code. -/
def FaultStage.code : FaultStage → ℕ
  | loss => 1
  | duplicate => 2
  | corruptDecision => 3
  | corruptBit => 4
  | jitter => 5
  | reorder => 6

/-- `FaultProfile`, with its defaults. -/
structure FaultProfile where
  profileRevision : ℤ := 0
  baseLatencyNs : ℤ := 0
  jitterAbsNs : ℤ := 0
  frameLossRatePpm : ℤ := 0
  frameDuplicateRatePpm : ℤ := 0
  corruptFrameRatePpm : ℤ := 0
  bitsPerCorruptFrame : ℤ := 0
  reorderWindowSlots : ℤ := 0
  reorderSlotNs : ℤ := 0
  bitrateBps : ℤ := 1000000000
  deriving DecidableEq

/-- `FaultProfile.validate`. -/
def FaultProfile.validate (p : FaultProfile) : Raises Unit :=
  if ¬(0 ≤ p.frameLossRatePpm ∧ p.frameLossRatePpm ≤ 1000000) then
    valueError s!"Invalid loss rate: {p.frameLossRatePpm}"
  else if ¬(0 ≤ p.frameDuplicateRatePpm ∧ p.frameDuplicateRatePpm ≤ 1000000) then
    valueError s!"Invalid duplicate rate: {p.frameDuplicateRatePpm}"
  else if ¬(0 ≤ p.corruptFrameRatePpm ∧ p.corruptFrameRatePpm ≤ 1000000) then
    valueError s!"Invalid corrupt rate: {p.corruptFrameRatePpm}"
  else if p.bitsPerCorruptFrame < 0 then
    valueError s!"Invalid bits_per_corrupt_frame: {p.bitsPerCorruptFrame}"
  else if p.baseLatencyNs < p.jitterAbsNs then
    valueError s!"base_latency_ns ({p.baseLatencyNs}) must be >= jitter_abs_ns ({p.jitterAbsNs})"
  else if p.bitrateBps ≤ 0 then valueError s!"bitrate_bps must be > 0: {p.bitrateBps}"
  else if p.reorderWindowSlots < 0 then
    valueError s!"Invalid reorder_window_slots: {p.reorderWindowSlots}"
  else if p.reorderSlotNs < 0 then valueError s!"Invalid reorder_slot_ns: {p.reorderSlotNs}"
  else .ok ()

/-- `FaultDecision`. -/
structure FaultDecision where
  isLost : Bool
  hasDuplicate : Bool
  isCorrupted : Bool
  corruptedBits : List ℤ
  latencyNs : ℤ
  jitterNs : ℤ
  reorderSlots : ℤ
  dueNs : ℤ
  txStartNs : ℤ
  txDurationNs : ℤ
  releaseNs : ℤ
  deriving DecidableEq

/-- The coordinates of a family of draws: profile revision, direction, link frame
and copy. -/
structure DrawPoint where
  profileRevision : ℤ
  direction : ℕ
  linkFrameId : ℕ
  copyIndex : ℕ
  deriving DecidableEq

/-- `FaultModel`: the counter PRF, and how often the bit-selection loop may draw
(the source sets no bound; a PRF that never yields enough distinct bits does not
return). -/
structure FaultModel where
  prf : DrawPoint → FaultStage → ℕ → Raises ℕ
  drawLimit : ℕ

namespace FaultModel

/-! ## The PRF -/

/-- `PRF_DOMAIN`, as packed by `8s`: cut to its first eight bytes. -/
def prfDomain : Bytes := [0x6C, 0x69, 0x6E, 0x6B, 0x2D, 0x66, 0x61, 0x75]

/-- One unsigned field of `struct.pack`. -/
def packField (width : ℕ) (value : ℤ) : Raises Bytes :=
  if 0 ≤ value ∧ value < 256 ^ width then .ok (toBytesBE width value.toNat)
  else .error ⟨.structError, "argument out of range"⟩

/-- `_prf` over SHA-256. -/
def sha256Prf (seed simulationRunId : ℕ) (point : DrawPoint) (stage : FaultStage)
    (drawIndex : ℕ) : Raises ℕ := do
  let seedBytes ← packField 8 seed
  let runBytes ← packField 8 simulationRunId
  let revision ← packField 4 point.profileRevision
  let direction ← packField 1 point.direction
  let frame ← packField 8 point.linkFrameId
  let copy ← packField 2 point.copyIndex
  let stageCode ← packField 1 stage.code
  let draw ← packField 4 drawIndex
  .ok (fromBytesBE ((sha256 (prfDomain ++ seedBytes ++ runBytes ++ revision ++ direction ++ frame
    ++ copy ++ stageCode ++ draw)).take 8))

/-- `FaultModel(seed, simulation_run_id)`. -/
def ofSeed (seed simulationRunId drawLimit : ℕ) : FaultModel :=
  ⟨sha256Prf seed simulationRunId, drawLimit⟩

/-! ## Draws -/

/-- `_draw_bool`. -/
def drawBool (m : FaultModel) (ratePpm : ℤ) (point : DrawPoint) (stage : FaultStage)
    (drawIndex : ℕ) : Raises Bool :=
  if ratePpm = 0 then .ok false
  else if ratePpm = 1000000 then .ok true
  else do
    let draw ← m.prf point stage drawIndex
    .ok (decide ((draw : ℤ) < ratePpm * 2 ^ 64 / 1000000))

/-- `_draw_bounded`. -/
def drawBounded (m : FaultModel) (upperBound : ℤ) (point : DrawPoint) (stage : FaultStage)
    (drawIndex : ℕ) : Raises ℤ :=
  if upperBound ≤ 0 then valueError s!"upper_bound must be > 0: {upperBound}"
  else do
    let draw ← m.prf point stage drawIndex
    .ok ((draw : ℤ) * upperBound / 2 ^ 64)

/-- The loop that selects distinct bit offsets, with the draws left. -/
def selectBits (m : FaultModel) (count : ℤ) (frameBits : ℕ) (point : DrawPoint) :
    ℕ → ℕ → List ℤ → Raises (List ℤ)
  | draws, drawIndex, selected =>
      if (selected.length : ℤ) < count then
        match draws with
        | 0 => .error ⟨.nonTermination, ""⟩
        | draws + 1 => do
            let bitOffset ← m.drawBounded frameBits point .corruptBit drawIndex
            let selected' := if bitOffset ∈ selected then selected else selected ++ [bitOffset]
            selectBits m count frameBits point draws (drawIndex + 1) selected'
      else .ok selected

/-- Stages 3 and 4: whether the copy is corrupted, and which bits. -/
def drawCorruption (m : FaultModel) (p : FaultProfile) (frameBits : ℕ) (point : DrawPoint) :
    Raises (Bool × List ℤ) := do
  let isCorrupted ← m.drawBool p.corruptFrameRatePpm point .corruptDecision 0
  if isCorrupted ∧ p.bitsPerCorruptFrame > 0 then
    if p.bitsPerCorruptFrame > frameBits then
      valueError
        s!"bits_per_corrupt_frame ({p.bitsPerCorruptFrame}) > frame_bits ({frameBits})"
    else do
      let selected ← m.selectBits p.bitsPerCorruptFrame frameBits point m.drawLimit 0 []
      .ok (isCorrupted, selected)
  else .ok (isCorrupted, [])

/-- Stage 2: only the original copy may create another one. -/
def drawDuplicate (m : FaultModel) (p : FaultProfile) (point : DrawPoint)
    (includeDuplicate : Bool) : Raises Bool :=
  if includeDuplicate then m.drawBool p.frameDuplicateRatePpm point .duplicate 0 else .ok false

/-- Stage 5: the signed jitter. -/
def drawJitter (m : FaultModel) (p : FaultProfile) (point : DrawPoint) : Raises ℤ :=
  if p.jitterAbsNs > 0 then
    (m.drawBounded (2 * p.jitterAbsNs + 1) point .jitter 0).map (· - p.jitterAbsNs)
  else .ok 0

/-- Stage 6: the reorder slots. -/
def drawReorder (m : FaultModel) (p : FaultProfile) (point : DrawPoint) : Raises ℤ :=
  if p.reorderWindowSlots > 0 then m.drawBounded (p.reorderWindowSlots + 1) point .reorder 0
  else .ok 0

/-- `ceil(frame_bits * 1e9 / bitrate_bps)`. -/
def txDurationNs (frameBits : ℕ) (bitrateBps : ℤ) : ℤ :=
  ((frameBits : ℤ) * 10 ^ 9 + bitrateBps - 1) / bitrateBps

/-- `apply_faults`. -/
def applyFaults (m : FaultModel) (p : FaultProfile) (direction linkFrameId frameBits : ℕ)
    (ingressTimeNs linkAvailableNs : ℤ) (copyIndex : ℕ) (includeDuplicate : Bool) :
    Raises FaultDecision := do
  p.validate
  if copyIndex > 0xFFFF then valueError "copy_index must fit U16"
  else do
    let point : DrawPoint := ⟨p.profileRevision, direction, linkFrameId, copyIndex⟩
    let isLost ← m.drawBool p.frameLossRatePpm point .loss 0
    let hasDuplicate ← m.drawDuplicate p point includeDuplicate
    let (isCorrupted, corruptedBits) ← m.drawCorruption p frameBits point
    let jitterNs ← m.drawJitter p point
    let reorderSlots ← m.drawReorder p point
    let dueNs := ingressTimeNs + p.baseLatencyNs + jitterNs + reorderSlots * p.reorderSlotNs
    if dueNs < 0 ∨ dueNs > 2 ^ 64 - 1 then overflowError s!"due_ns overflow: {dueNs}"
    else
      let txStartNs := max dueNs linkAvailableNs
      let duration := txDurationNs frameBits p.bitrateBps
      let releaseNs := txStartNs + duration
      if releaseNs < 0 ∨ releaseNs > 2 ^ 64 - 1 then
        overflowError s!"release_ns overflow: {releaseNs}"
      else
        .ok ⟨isLost, hasDuplicate, isCorrupted, corruptedBits.insertionSort (· ≤ ·),
          p.baseLatencyNs, jitterNs, reorderSlots, dueNs, txStartNs, duration, releaseNs⟩

/-- One bit flip; bit offset 0 is the most significant bit of byte 0. -/
def flipBit (frame : Bytes) (bitOffset : ℕ) : Bytes :=
  frame.modify (bitOffset / 8) fun byte => byte ^^^ UInt8.ofNat (1 <<< (7 - bitOffset % 8))

/-- `corrupt_frame`. -/
def corruptFrame (frame : Bytes) : List ℤ → Raises Bytes
  | [] => .ok frame
  | bitOffset :: rest =>
      if bitOffset < 0 ∨ bitOffset ≥ frame.length * 8 then
        valueError s!"Bit offset {bitOffset} out of range [0, {frame.length * 8})"
      else corruptFrame (flipBit frame bitOffset.toNat) rest

@[simp] theorem length_flipBit (frame : Bytes) (bitOffset : ℕ) :
    (flipBit frame bitOffset).length = frame.length := by
  simp [flipBit]

theorem length_corruptFrame {frame frame' : Bytes} {bits : List ℤ}
    (h : corruptFrame frame bits = .ok frame') : frame'.length = frame.length := by
  induction bits generalizing frame with
  | nil =>
      cases h
      rfl
  | cons bitOffset rest ih =>
      unfold corruptFrame at h
      split at h
      · cases h
      · rw [ih h, length_flipBit]

/-! ## The serializer -/

/-- A validated profile sends at least one nanosecond for each frame. -/
theorem txDurationNs_pos {frameBits : ℕ} {bitrateBps : ℤ} (bits : 0 < frameBits)
    (rate : 0 < bitrateBps) : 0 < txDurationNs frameBits bitrateBps := by
  have enough : bitrateBps * 1 ≤ (frameBits : ℤ) * 10 ^ 9 + bitrateBps - 1 := by
    have : (1 : ℤ) ≤ frameBits := by exact_mod_cast bits
    omega
  have quotient := Int.ediv_le_ediv rate enough
  rw [Int.mul_ediv_cancel_left 1 rate.ne'] at quotient
  exact lt_of_lt_of_le zero_lt_one quotient

theorem bitrate_pos_of_validate {p : FaultProfile} (h : p.validate = .ok ()) :
    0 < p.bitrateBps := by
  unfold FaultProfile.validate at h
  repeat' split at h
  all_goals cases h
  rename_i rate _ _
  exact not_le.mp rate

/-- **A copy is released after the serializer was last available**, whatever was
drawn. -/
theorem available_lt_release {m : FaultModel} {p : FaultProfile}
    {direction linkFrameId frameBits copyIndex : ℕ} {ingress available : ℤ} {dup : Bool}
    {decision : FaultDecision} (bits : 0 < frameBits)
    (h : m.applyFaults p direction linkFrameId frameBits ingress available copyIndex dup =
      .ok decision) :
    available < decision.releaseNs ∧ 0 ≤ decision.releaseNs ∧
      decision.releaseNs ≤ 2 ^ 64 - 1 := by
  unfold applyFaults at h
  obtain ⟨valid, hvalid, h⟩ := bind_eq_ok_iff.mp h
  split at h
  · cases h
  obtain ⟨isLost, -, h⟩ := bind_eq_ok_iff.mp h
  obtain ⟨hasDuplicate, -, h⟩ := bind_eq_ok_iff.mp h
  obtain ⟨⟨isCorrupted, corruptedBits⟩, -, h⟩ := bind_eq_ok_iff.mp h
  obtain ⟨jitterNs, -, h⟩ := bind_eq_ok_iff.mp h
  obtain ⟨reorderSlots, -, h⟩ := bind_eq_ok_iff.mp h
  have duration := txDurationNs_pos bits (bitrate_pos_of_validate hvalid)
  simp only at h
  split at h
  · cases h
  split at h
  · cases h
  · rename_i fits
    cases h
    simp only [not_or, not_lt] at fits
    refine ⟨?_, fits.1, fits.2⟩
    exact lt_of_le_of_lt (le_max_right _ _) (lt_add_of_pos_right _ duration)

end FaultModel

end CubeNano

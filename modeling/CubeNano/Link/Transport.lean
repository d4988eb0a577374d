import CubeNano.Protocol.Bytes
import CubeNano.Protocol.Exceptions

/-!
# Transport frames and link control messages

The sideband envelope and its two validations (`link_sim/transport.py`), and the
messages of the control plane (`link_sim/control.py`).

## Main definitions

* `SidebandEnvelope.validateIngress`, `SidebandEnvelope.validateEgress`
* `TransportFrame` — an envelope with the frame it announces
* `LinkControlMessage` — session, acceptance and consumption events
-/

namespace CubeNano

/-- `Direction`: the simulated path of a frame. -/
inductive Direction
  | ingress
  | egress
  deriving DecidableEq, Repr

/-- `direction.value`. -/
def Direction.code : Direction → ℕ
  | ingress => 0
  | egress => 1

theorem Direction.code_injective {a b : Direction} (h : a.code = b.code) : a = b := by
  cases a <;> cases b <;> first | rfl | cases h

/-- `SidebandEnvelope`. -/
structure SidebandEnvelope where
  magic : ℕ
  version : ℕ
  direction : Direction
  reserved : ℕ
  spacecraftInstanceId : ℕ
  senderBootId : ℕ
  linkSessionId : ℕ
  senderFrameId : ℕ
  linkFrameId : ℕ
  fileEpochId : ℕ
  frameLength : ℕ
  copyIndex : ℕ := 0
  deriving DecidableEq

namespace SidebandEnvelope

/-- `MAGIC`. -/
def magicValue : ℕ := 0x43534c31

/-- `VERSION`. -/
def versionValue : ℕ := 1

/-- `VERSION_WITH_COPY_INDEX`. -/
def versionWithCopyIndex : ℕ := 2

/-- The checks both validations make first. -/
def validateHeader (e : SidebandEnvelope) : Raises Unit :=
  if e.magic ≠ magicValue then valueError s!"Invalid magic: {pyHex e.magic} != {pyHex magicValue}"
  else if e.version ≠ versionValue ∧ e.version ≠ versionWithCopyIndex then
    valueError s!"Unsupported version: {e.version}"
  else if e.copyIndex > 0xFFFFFFFF then valueError "copy_index must fit U32"
  else if e.version = versionValue ∧ e.copyIndex ≠ 0 then
    valueError "version 1 envelope cannot carry copy_index"
  else if e.reserved ≠ 0 then valueError s!"Reserved field must be 0: {e.reserved}"
  else .ok ()

/-- `validate_ingress`. -/
def validateIngress (e : SidebandEnvelope) : Raises Unit := do
  e.validateHeader
  if e.direction ≠ .ingress then
    valueError s!"Ingress must have direction=0: {e.direction.code}"
  else if e.senderBootId ≠ 0 then
    valueError s!"Ingress sender_boot_id must be 0: {e.senderBootId}"
  else if e.linkFrameId ≠ 0 then
    valueError s!"Ingress link_frame_id must be 0: {e.linkFrameId}"
  else if e.fileEpochId ≠ 0 then
    valueError s!"Ingress file_epoch_id must be 0: {e.fileEpochId}"
  else if e.spacecraftInstanceId = 0 then
    valueError "Ingress spacecraft_instance_id must be > 0"
  else if e.linkSessionId = 0 then valueError "Ingress link_session_id must be > 0"
  else if e.senderFrameId = 0 then valueError "Ingress sender_frame_id must be > 0"
  else if ¬(0 < e.frameLength ∧ e.frameLength ≤ 0xFFFF) then
    valueError "Ingress frame_length must be in [1, 65535]"
  else .ok ()

/-- `validate_egress` without an expected binding. -/
def validateEgress (e : SidebandEnvelope) : Raises Unit := do
  e.validateHeader
  if e.direction ≠ .egress then
    valueError s!"Egress must have direction=1: {e.direction.code}"
  else if e.linkFrameId = 0 then valueError "Egress link_frame_id must be > 0"
  else if e.spacecraftInstanceId = 0 then
    valueError "Egress spacecraft_instance_id must be > 0"
  else if e.linkSessionId = 0 then valueError "Egress link_session_id must be > 0"
  else if e.senderFrameId = 0 then valueError "Egress sender_frame_id must be > 0"
  else if ¬(0 < e.frameLength ∧ e.frameLength ≤ 0xFFFF) then
    valueError "Egress frame_length must be in [1, 65535]"
  else .ok ()

/-- The identity fields of an envelope that passed the ingress validation. -/
theorem of_validateIngress {e : SidebandEnvelope} (h : e.validateIngress = .ok ()) :
    e.spacecraftInstanceId ≠ 0 ∧ e.linkSessionId ≠ 0 ∧ e.senderFrameId ≠ 0 ∧
      0 < e.frameLength ∧ e.frameLength ≤ 0xFFFF := by
  obtain ⟨-, -, h⟩ := bind_eq_ok_iff.mp h
  repeat' split at h
  all_goals cases h
  rename_i spacecraft session sender length
  exact ⟨spacecraft, session, sender, not_not.mp length⟩

end SidebandEnvelope

/-- `TransportFrame`: a frame with the envelope that announces its length. -/
structure TransportFrame where
  envelope : SidebandEnvelope
  frameBytes : Bytes
  copyIndex : ℕ := 0
  length_eq : frameBytes.length = envelope.frameLength
  deriving DecidableEq

/-! ## Control plane -/

/-- `LinkControlType`. -/
inductive LinkControlType
  | openSession
  | sessionReady
  | frameAccepted
  | frameConsumed
  | abortFileEpoch
  | sessionReset
  deriving DecidableEq, Repr

/-- `LinkControlMessage`.  The ranges its constructor checks hold of every id the
simulator hands it: session, generation and frame ids stop below U64, and there
are no more epochs than frames. -/
structure LinkControlMessage where
  messageType : LinkControlType
  spacecraftInstanceId : ℕ
  senderBootId : ℕ
  linkSessionId : ℕ
  linkGeneration : ℕ
  linkFrameId : ℕ := 0
  fileEpochId : ℕ := 0
  copyIndex : ℕ := 0
  status : Option String := none
  reason : Option String := none
  deriving DecidableEq

end CubeNano

import CubeNano.Link.Transport
import CubeNano.Protocol.Command
import CubeNano.Protocol.StructFormat

/-!
# Transport frames on the UDP wire

The serialized sideband envelope, the session control messages on the same socket, and
`UdpTransport` (`link_sim/transport.py`).

## Main definitions

* `SidebandEnvelope.toBytes`, `SidebandEnvelope.fromBytes`
* `decodeSessionControl`
* `UdpTransport.sendTransportFrame`, `UdpTransport.decodeDatagram`

## Main statements

* `SidebandEnvelope.fromBytes_toBytes`, `SidebandEnvelope.toBytes_fromBytes`
* `UdpRoundTrip` — what the two ends of a link agree on
-/

namespace CubeNano

/-! ## Session control -/

/-- `SESSION_CONTROL_MAGIC`. -/
def sessionControlMagic : Bytes := [0x43, 0x53, 0x48, 0x32]

/-- `SESSION_REPLY_MAGIC`. -/
def sessionReplyMagic : Bytes := [0x43, 0x53, 0x48, 0x32, 0x21]

/-- `_bounded_int`. -/
def boundedInt (value : PyValue) (label : String) (maximum : ℕ) (allowZero : Bool) : Raises ℕ :=
  let lower := if allowZero then 0 else 1
  match value with
  | .int n =>
      if n < lower ∨ n > maximum then valueError s!"{label} must be in [{lower}, {maximum}]"
      else .ok n.toNat
  | _ => valueError s!"{label} must be an integer"

/-- Whether a value is a certain string. -/
def PyValue.isText : PyValue → String → Bool
  | .str text, word => text = Text.ofString word
  | _, _ => false

/-- Whether a value is `None`. -/
def PyValue.isNone : PyValue → Bool
  | .none => true
  | _ => false

/-- `role not in {"gds", "satellite"}` raises. -/
def checkRole : PyValue → Raises Unit
  | .list _ => typeError "unhashable type: 'list'"
  | .dict _ => typeError "unhashable type: 'dict'"
  | role =>
      if role.isText "gds" || role.isText "satellite" then .ok ()
      else valueError "session HELLO role is invalid"

/-- The body of a control datagram of a kind.  The integers that are checked are stored where
they were read, so the body stays as it is. -/
def decodeControlBody (reply : Bool) (payload : Bytes) : Raises PyDict := do
  let body ← match utf8Decode payload >>= jsonLoads with
    | .ok body => pure body
    | .error failure =>
        if failure.kind = .unicodeDecodeError ∨ failure.kind = .jsonDecodeError then
          valueError "session control payload is not valid JSON"
        else .error failure
  match body with
  | .dict entries =>
      let kind := if reply then "SESSION" else "HELLO"
      if !(dictGet entries "kind").isText kind then
        valueError "session control kind is invalid"
      else do
        let _ ← boundedInt (dictGet entries "spacecraft_instance_id") "spacecraft_instance_id"
          0xFFFFFFFFFFFFFFFF false
        if reply then do
          let _ ← boundedInt (dictGet entries "sender_boot_id") "sender_boot_id" 0xFFFFFFFF true
          let _ ← boundedInt (dictGet entries "link_session_id") "link_session_id"
            0xFFFFFFFFFFFFFFFF false
          let _ ← boundedInt (dictGet entries "link_generation") "link_generation"
            0xFFFFFFFFFFFFFFFF false
          .ok entries
        else do
          checkRole (dictGet entries "role")
          let boot := dictGet entries "sender_boot_id"
          if (dictGet entries "role").isText "satellite" || !boot.isNone then do
            let _ ← boundedInt boot "sender_boot_id" 0xFFFFFFFF true
            .ok entries
          else .ok entries
  | _ => valueError "session control kind is invalid"

/-- `decode_session_control`. -/
def decodeSessionControl (data : Bytes) : Raises (Option PyDict) :=
  if sessionReplyMagic.isPrefixOf data then
    some <$> decodeControlBody true (data.drop sessionReplyMagic.length)
  else if sessionControlMagic.isPrefixOf data then
    some <$> decodeControlBody false (data.drop sessionControlMagic.length)
  else .ok none

/-- Data of the mission plane. -/
theorem decodeSessionControl_none {data : Bytes}
    (mission : sessionControlMagic.isPrefixOf data = false) :
    decodeSessionControl data = .ok none := by
  have reply : sessionReplyMagic.isPrefixOf data = false := by
    by_contra isReply
    rw [Bool.not_eq_false, List.isPrefixOf_iff_prefix] at isReply
    have control : sessionControlMagic <+: data :=
      (List.prefix_append sessionControlMagic [0x21]).trans isReply
    rw [← List.isPrefixOf_iff_prefix, mission] at control
    cases control
  rw [decodeSessionControl, reply, mission]
  rfl

/-! ## The sideband envelope on the wire -/

namespace SidebandEnvelope

/-- The widths of `STRUCT_FORMAT`, in bytes. -/
def structFormat : List ℕ := [4, 1, 1, 2, 8, 4, 8, 8, 8, 8, 2]

/-- The widths of `STRUCT_FORMAT_WITH_COPY_INDEX`. -/
def structFormatWithCopyIndex : List ℕ := structFormat ++ [4]

/-- The format of a version. -/
def formatOf (version : ℕ) : List ℕ :=
  if version = versionValue then structFormat else structFormatWithCopyIndex

/-- `header_size_for_version`. -/
def headerSizeForVersion (version : ℕ) : Raises ℕ :=
  if version = versionValue ∨ version = versionWithCopyIndex then .ok (formatOf version).sum
  else valueError s!"Unsupported version: {version}"

/-- `header_size_from_bytes`. -/
def headerSizeFromBytes (data : Bytes) : Raises ℕ :=
  if data.length < 5 then valueError "Envelope too short to read magic and version"
  else
    let magic := fromBytesBE (data.take 4)
    if magic ≠ magicValue then
      valueError s!"Invalid magic: {pyHex magic} != {pyHex magicValue}"
    else headerSizeForVersion (fromBytesBE ((data.drop 4).take 1))

/-- `Direction(value)`. -/
def directionOf (value : ℕ) : Raises Direction :=
  match value with
  | 0 => .ok .ingress
  | 1 => .ok .egress
  | _ => valueError s!"{value} is not a valid Direction"

/-- The envelope of unpacked fields. -/
def ofFields : List ℕ → Raises SidebandEnvelope
  | magic :: version :: direction :: reserved :: instanceId :: boot :: session :: sender :: link ::
      epoch :: frameLength :: more => do
      let direction ← directionOf direction
      .ok { magic := magic, version := version, direction := direction, reserved := reserved,
            spacecraftInstanceId := instanceId, senderBootId := boot, linkSessionId := session,
            senderFrameId := sender, linkFrameId := link, fileEpochId := epoch,
            frameLength := frameLength,
            copyIndex := if version = versionValue then 0 else more.getLast?.getD frameLength }
  | _ => valueError "not enough values to unpack"

/-- `from_bytes`. -/
def fromBytes (data : Bytes) : Raises SidebandEnvelope := do
  let headerSize ← headerSizeFromBytes data
  if data.length < headerSize then
    valueError s!"Envelope too short: {data.length} < {headerSize}"
  else do
    let version := fromBytesBE ((data.drop 4).take 1)
    let fields ← unpackUnsigned (formatOf version) (data.take headerSize)
    ofFields fields

variable (e : SidebandEnvelope)

/-- The fields both versions pack. -/
def fields : List ℕ :=
  [e.magic, e.version, e.direction.code, e.reserved, e.spacecraftInstanceId, e.senderBootId,
    e.linkSessionId, e.senderFrameId, e.linkFrameId, e.fileEpochId, e.frameLength]

/-- `to_bytes`. -/
def toBytes : Raises Bytes :=
  if e.version = versionValue then
    if e.copyIndex ≠ 0 then valueError "version 1 envelope cannot serialize copy_index"
    else packUnsigned structFormat e.fields
  else if e.version ≠ versionWithCopyIndex then valueError s!"Unsupported version: {e.version}"
  else packUnsigned structFormatWithCopyIndex (e.fields ++ [e.copyIndex])

/-- The fields fit their widths. -/
structure Fits : Prop where
  magic : e.magic < 2 ^ 32
  reserved : e.reserved < 2 ^ 16
  spacecraftInstanceId : e.spacecraftInstanceId < 2 ^ 64
  senderBootId : e.senderBootId < 2 ^ 32
  linkSessionId : e.linkSessionId < 2 ^ 64
  senderFrameId : e.senderFrameId < 2 ^ 64
  linkFrameId : e.linkFrameId < 2 ^ 64
  fileEpochId : e.fileEpochId < 2 ^ 64
  frameLength : e.frameLength < 2 ^ 16
  version : e.version = versionValue ∧ e.copyIndex = 0 ∨
    e.version = versionWithCopyIndex ∧ e.copyIndex < 2 ^ 32

/-- The fields the version of an envelope packs. -/
def packedFields : List ℕ :=
  if e.version = versionValue then e.fields else e.fields ++ [e.copyIndex]

variable {e : SidebandEnvelope}

theorem directionOf_code (direction : Direction) : directionOf direction.code = .ok direction := by
  cases direction <;> rfl

theorem code_of_directionOf {value : ℕ} {direction : Direction}
    (read : directionOf value = .ok direction) : direction.code = value := by
  unfold directionOf at read
  split at read
  · cases read
    rfl
  · cases read
    rfl
  · cases read

/-- What an envelope is packed to. -/
theorem toBytes_eq_ok_iff {bytes : Bytes} : e.toBytes = .ok bytes ↔
    (e.version = versionValue ∧ e.copyIndex = 0 ∨ e.version = versionWithCopyIndex) ∧
      packUnsigned (formatOf e.version) e.packedFields = .ok bytes := by
  unfold toBytes formatOf packedFields
  by_cases first : e.version = versionValue
  · have notSecond : e.version ≠ versionWithCopyIndex := by
      rw [first]
      decide
    rw [if_pos first, if_pos first, if_pos first]
    by_cases copy : e.copyIndex = 0
    · rw [if_neg (not_not.mpr copy)]
      exact ⟨fun packed => ⟨.inl ⟨first, copy⟩, packed⟩, And.right⟩
    · rw [if_pos copy]
      constructor
      · intro packed
        cases packed
      · rintro ⟨⟨-, none⟩ | second, -⟩
        · exact absurd none copy
        · exact absurd second notSecond
  · rw [if_neg first, if_neg first, if_neg first]
    by_cases second : e.version = versionWithCopyIndex
    · rw [if_neg (not_not.mpr second)]
      exact ⟨fun packed => ⟨.inr second, packed⟩, And.right⟩
    · rw [if_pos second]
      constructor
      · intro packed
        cases packed
      · rintro ⟨⟨one, -⟩ | two, -⟩
        · exact absurd one first
        · exact absurd two second

/-- An envelope whose fields fit is packed. -/
theorem Fits.exists_toBytes (fits : e.Fits) : ∃ bytes, e.toBytes = .ok bytes := by
  have direction : e.direction.code < 256 ^ 1 := by
    cases e.direction <;> decide
  have small : e.version < 256 ^ 1 := by
    rcases fits.version with ⟨version, -⟩ | ⟨version, -⟩
    · rw [version]
      decide
    · rw [version]
      decide
  have common : List.Forall₂ (fun width value => value < 256 ^ width) structFormat e.fields :=
    .cons fits.magic <| .cons small <| .cons direction <| .cons fits.reserved <|
      .cons fits.spacecraftInstanceId <| .cons fits.senderBootId <| .cons fits.linkSessionId <|
      .cons fits.senderFrameId <| .cons fits.linkFrameId <| .cons fits.fileEpochId <|
      .cons fits.frameLength .nil
  have all : List.Forall₂ (fun width value => value < 256 ^ width) (formatOf e.version)
      e.packedFields := by
    unfold formatOf packedFields
    rcases fits.version with ⟨version, -⟩ | ⟨version, copy⟩
    · rwa [if_pos version, if_pos version]
    · have notFirst : e.version ≠ versionValue := by
        rw [version]
        decide
      rw [if_neg notFirst, if_neg notFirst]
      exact List.rel_append common (.cons copy .nil)
  obtain ⟨bytes, packed⟩ := exists_packUnsigned all
  exact ⟨bytes, toBytes_eq_ok_iff.mpr ⟨fits.version.imp_right And.left, packed⟩⟩

/-- The envelope of the fields it packs. -/
theorem ofFields_packedFields
    (version : e.version = versionValue ∧ e.copyIndex = 0 ∨ e.version = versionWithCopyIndex) :
    ofFields e.packedFields = .ok e := by
  unfold packedFields
  by_cases first : e.version = versionValue
  · have none : e.copyIndex = 0 := by
      rcases version with ⟨-, none⟩ | second
      · exact none
      · rw [first] at second
        cases second
    rw [if_pos first, fields, ofFields, directionOf_code]
    change Except.ok { e with copyIndex := if e.version = versionValue then 0 else _ } = _
    rw [if_pos first, ← none]
  · rw [if_neg first, fields, List.cons_append]
    simp only [List.cons_append, List.nil_append, ofFields, directionOf_code]
    change Except.ok { e with copyIndex := if e.version = versionValue then 0 else e.copyIndex } = _
    rw [if_neg first]

theorem packedFields_of_ofFields {values : List ℕ} (read : ofFields values = .ok e)
    (length : values.length = (formatOf e.version).length) : e.packedFields = values := by
  unfold ofFields at read
  split at read
  · obtain ⟨direction, code, done⟩ := bind_eq_ok_iff.mp read
    rename_i version code' _ _ _ _ _ _ _ _ more
    cases done
    have code := code_of_directionOf code
    unfold packedFields fields
    unfold formatOf at length
    dsimp only at length ⊢
    by_cases first : version = versionValue
    · rw [if_pos first] at length ⊢
      have none : more = [] := by simpa [structFormat] using length
      rw [code, none]
    · rw [if_neg first] at length ⊢
      obtain ⟨copy, rfl⟩ : ∃ copy, more = [copy] :=
        List.length_eq_one_iff.mp (by simpa [structFormatWithCopyIndex, structFormat] using length)
      rw [code, if_neg first]
      rfl
  · cases read

theorem ofFields_front {magic version : ℕ} {others : List ℕ}
    (read : ofFields (magic :: version :: others) = .ok e) :
    e.magic = magic ∧ e.version = version ∧ (e.version = versionValue → e.copyIndex = 0) := by
  unfold ofFields at read
  split at read
  · rename_i same
    obtain ⟨direction, -, done⟩ := bind_eq_ok_iff.mp read
    cases done
    injection same with magic same
    injection same with version
    exact ⟨magic.symm, version.symm, fun first => if_pos first⟩
  · cases read

/-- The size of the header of a packed envelope. -/
theorem headerSizeForVersion_of_toBytes {bytes : Bytes} (packed : e.toBytes = .ok bytes) :
    headerSizeForVersion e.version = .ok bytes.length := by
  obtain ⟨version, packed⟩ := toBytes_eq_ok_iff.mp packed
  rw [headerSizeForVersion, if_pos (version.imp_left And.left), length_packUnsigned packed]

theorem five_le_formatOf (version : ℕ) : 5 ≤ (formatOf version).sum := by
  unfold formatOf
  split <;> decide

/-- The magic and the version are the first fields of both formats. -/
theorem unpackFields_formatOf (version : ℕ) (data : Bytes) : ∃ others,
    unpackFields (formatOf version) data =
      fromBytesBE (data.take 4) :: fromBytesBE ((data.drop 4).take 1) :: others := by
  unfold formatOf
  split
  · exact ⟨_, rfl⟩
  · exact ⟨_, rfl⟩

theorem packedFields_front (e : SidebandEnvelope) :
    ∃ others, e.packedFields = e.magic :: e.version :: others := by
  unfold packedFields
  split
  · exact ⟨_, rfl⟩
  · exact ⟨_, rfl⟩

/-- The magic and the version on the wire. -/
theorem front_of_toBytes {bytes : Bytes} (packed : e.toBytes = .ok bytes) (rest : Bytes) :
    fromBytesBE ((bytes ++ rest).take 4) = e.magic ∧
      fromBytesBE (((bytes ++ rest).drop 4).take 1) = e.version := by
  have values := unpackFields_pack (toBytes_eq_ok_iff.mp packed).2 rest
  obtain ⟨others, front⟩ := unpackFields_formatOf e.version (bytes ++ rest)
  obtain ⟨others', front'⟩ := packedFields_front e
  rw [front, front'] at values
  injection values with magic values
  injection values with version
  exact ⟨magic, version⟩

/-- **An envelope with the magic is read back, whatever follows it.** -/
theorem fromBytes_toBytes {bytes : Bytes} (packed : e.toBytes = .ok bytes)
    (magic : e.magic = magicValue) (rest : Bytes) : fromBytes (bytes ++ rest) = .ok e := by
  obtain ⟨versions, fields⟩ := toBytes_eq_ok_iff.mp packed
  obtain ⟨wireMagic, wireVersion⟩ := front_of_toBytes packed rest
  have long : 5 ≤ bytes.length := by
    rw [length_packUnsigned fields]
    exact five_le_formatOf _
  have header : headerSizeFromBytes (bytes ++ rest) = .ok bytes.length := by
    unfold headerSizeFromBytes
    rw [if_neg (by rw [List.length_append]; omega)]
    dsimp only
    rw [wireMagic, if_neg (not_not.mpr magic), wireVersion, headerSizeForVersion_of_toBytes packed]
  unfold fromBytes
  rw [header]
  change (if (bytes ++ rest).length < bytes.length then _ else _) = _
  rw [if_neg (by rw [List.length_append]; omega), wireVersion, List.take_left' rfl,
    unpackUnsigned_pack fields]
  exact ofFields_packedFields versions

/-- **An accepted envelope is packed as the header it was read from.** -/
theorem toBytes_fromBytes {data : Bytes} (read : fromBytes data = .ok e) :
    e.magic = magicValue ∧ ∃ size, headerSizeForVersion e.version = .ok size ∧
      size ≤ data.length ∧ e.toBytes = .ok (data.take size) := by
  unfold fromBytes at read
  obtain ⟨size, header, read⟩ := bind_eq_ok_iff.mp read
  unfold headerSizeFromBytes at header
  split at header
  · cases header
  dsimp only at header
  split at header
  · cases header
  rename_i wireMagic
  split at read
  · cases read
  rename_i long
  obtain ⟨values, unpacked, read⟩ := bind_eq_ok_iff.mp read
  generalize wire : fromBytesBE ((data.drop 4).take 1) = version at header unpacked
  have supported := header
  unfold headerSizeForVersion at header
  split at header
  · rename_i versions
    cases header
    have five := five_le_formatOf version
    have unpackedFields := unpacked
    unfold unpackUnsigned at unpacked
    split at unpacked
    · cases unpacked
      obtain ⟨others, front⟩ := unpackFields_formatOf version (data.take (formatOf version).sum)
      rw [List.take_take, min_eq_left (by omega), List.drop_take, List.take_take,
        min_eq_left (by omega), wire] at front
      rw [front] at read
      obtain ⟨magic, sameVersion, copy⟩ := ofFields_front read
      rw [← front] at read
      have packed := packedFields_of_ofFields read (by rw [sameVersion, length_unpackFields])
      have bytes := packUnsigned_unpack unpackedFields
      rw [← packed, ← sameVersion] at bytes
      refine ⟨magic.trans (not_not.mp wireMagic), _, sameVersion ▸ supported, not_lt.mp long, ?_⟩
      rw [← sameVersion] at versions ⊢
      exact toBytes_eq_ok_iff.mpr ⟨versions.imp_left fun first => ⟨first, copy first⟩, bytes⟩
    · cases unpacked
  · cases header

end SidebandEnvelope

/-! ## The transport -/

/-- `direction.name`. -/
def Direction.name : Direction → String
  | ingress => "INGRESS"
  | egress => "EGRESS"

/-- The checks of the direction of an envelope. -/
def SidebandEnvelope.validate (e : SidebandEnvelope) : Raises Unit :=
  if e.direction = .ingress then e.validateIngress else e.validateEgress

/-- `UdpTransport`, with what it compares. -/
structure UdpTransport where
  peerAddr : Option (Text × ℕ)
  expectedDirection : Option Direction

namespace UdpTransport

/-- `MAX_DATAGRAM_BYTES`. -/
def maxDatagramBytes : ℕ := 65507

variable (t : UdpTransport)

/-- `send`: the datagram that goes to the peer. -/
def send (envelope : SidebandEnvelope) (frameBytes : Bytes) : Raises Bytes :=
  if t.peerAddr = none then runtimeError "Peer address not set"
  else if frameBytes.length ≠ envelope.frameLength then
    valueError s!"Frame length mismatch: {frameBytes.length} != {envelope.frameLength}"
  else do
    envelope.validate
    let envelopeBytes ← envelope.toBytes
    let datagram := envelopeBytes ++ frameBytes
    if datagram.length > maxDatagramBytes then
      valueError "UDP datagram exceeds the maximum payload size"
    else .ok datagram

/-- The envelope a frame is sent with. -/
def wireEnvelope (frame : TransportFrame) : SidebandEnvelope :=
  let envelope := frame.envelope
  if frame.copyIndex ≠ envelope.copyIndex then
    { envelope with
      version := if frame.copyIndex = 0 ∧ envelope.version = SidebandEnvelope.versionValue then
        SidebandEnvelope.versionValue else SidebandEnvelope.versionWithCopyIndex
      copyIndex := frame.copyIndex }
  else envelope

/-- `send_transport_frame`. -/
def sendTransportFrame (frame : TransportFrame) : Raises Bytes :=
  t.send (wireEnvelope frame) frame.frameBytes

/-- `decode_datagram`. -/
def decodeDatagram (datagram : Bytes) : Raises TransportFrame := do
  let control ← decodeSessionControl datagram
  if control.isSome then valueError "UDP control datagram is not a mission frame"
  else if datagram.length < SidebandEnvelope.structFormat.sum then
    valueError "UDP datagram is shorter than its sideband envelope"
  else do
    let envelope ← SidebandEnvelope.fromBytes datagram
    let headerSize ← SidebandEnvelope.headerSizeForVersion envelope.version
    let frameBytes := datagram.drop headerSize
    if mismatch : frameBytes.length ≠ envelope.frameLength then
      valueError s!"Frame length mismatch: {frameBytes.length} != {envelope.frameLength}"
    else if t.expectedDirection.any fun expected => envelope.direction ≠ expected then
      let expected := ((t.expectedDirection.map Direction.name).getD "")
      valueError s!"UDP direction mismatch: received {envelope.direction.name}, expected {expected}"
    else do
      envelope.validate
      .ok ⟨envelope, frameBytes, envelope.copyIndex, not_not.mp mismatch⟩

end UdpTransport

namespace SidebandEnvelope

variable {e : SidebandEnvelope}

/-- A validated envelope has the magic. -/
theorem magic_of_validate (valid : e.validate = .ok ()) : e.magic = magicValue := by
  have header : ∃ u, e.validateHeader = .ok u := by
    unfold validate validateIngress validateEgress at valid
    split at valid
    · obtain ⟨u, header, -⟩ := bind_eq_ok_iff.mp valid
      exact ⟨u, header⟩
    · obtain ⟨u, header, -⟩ := bind_eq_ok_iff.mp valid
      exact ⟨u, header⟩
  obtain ⟨u, header⟩ := header
  by_contra other
  rw [validateHeader, if_pos other] at header
  cases header

/-- An envelope on the wire is no session control message. -/
theorem isPrefixOf_toBytes {bytes : Bytes} (packed : e.toBytes = .ok bytes)
    (magic : e.magic = magicValue) (rest : Bytes) :
    sessionControlMagic.isPrefixOf (bytes ++ rest) = false := by
  by_contra control
  rw [Bool.not_eq_false, List.isPrefixOf_iff_prefix] at control
  have front := (front_of_toBytes packed rest).1
  rw [magic, show (bytes ++ rest).take 4 = sessionControlMagic from
    (List.prefix_iff_eq_take.mp control).symm] at front
  exact absurd front (by decide)

end SidebandEnvelope

namespace UdpTransport

variable {t : UdpTransport}

/-- **A datagram of a valid envelope and its frame is accepted.** -/
theorem decodeDatagram_toBytes {e : SidebandEnvelope} {bytes frame : Bytes}
    (packed : e.toBytes = .ok bytes) (valid : e.validate = .ok ())
    (length : frame.length = e.frameLength)
    (expected : ∀ direction ∈ t.expectedDirection, e.direction = direction) :
    t.decodeDatagram (bytes ++ frame) = .ok ⟨e, frame, e.copyIndex, length⟩ := by
  have magic := SidebandEnvelope.magic_of_validate valid
  have long : SidebandEnvelope.structFormat.sum ≤ bytes.length := by
    rw [length_packUnsigned (SidebandEnvelope.toBytes_eq_ok_iff.mp packed).2]
    unfold SidebandEnvelope.formatOf
    split <;> decide
  have direction : (t.expectedDirection.any fun expected => e.direction ≠ expected) = false := by
    rw [Option.any_eq_false]
    intro direction mem
    rw [expected direction mem]
    simp
  unfold decodeDatagram
  rw [decodeSessionControl_none (SidebandEnvelope.isPrefixOf_toBytes packed magic frame)]
  change (if (bytes ++ frame).length < _ then _ else _) = _
  rw [if_neg (by rw [List.length_append]; omega),
    SidebandEnvelope.fromBytes_toBytes packed magic frame]
  change (SidebandEnvelope.headerSizeForVersion e.version >>= _) = _
  rw [SidebandEnvelope.headerSizeForVersion_of_toBytes packed]
  change (if mismatch : ((bytes ++ frame).drop bytes.length).length ≠ e.frameLength then _
    else _) = _
  have frameBytes : (bytes ++ frame).drop bytes.length = frame := List.drop_left' rfl
  rw [dif_neg (by rw [frameBytes]; exact not_not.mpr length), direction,
    if_neg Bool.false_ne_true, valid]
  refine congrArg Except.ok ?_
  rw [TransportFrame.mk.injEq]
  exact ⟨rfl, frameBytes, rfl⟩

/-- What a sent datagram is made of. -/
theorem send_eq_ok {e : SidebandEnvelope} {frame datagram : Bytes}
    (sent : t.send e frame = .ok datagram) : frame.length = e.frameLength ∧ e.validate = .ok () ∧
      ∃ bytes, e.toBytes = .ok bytes ∧ datagram = bytes ++ frame := by
  unfold send at sent
  split at sent
  · cases sent
  split at sent
  · cases sent
  rename_i length
  obtain ⟨⟨⟩, valid, sent⟩ := bind_eq_ok_iff.mp sent
  obtain ⟨bytes, packed, sent⟩ := bind_eq_ok_iff.mp sent
  dsimp only at sent
  split at sent
  · cases sent
  · cases sent
    exact ⟨not_not.mp length, valid, bytes, packed, rfl⟩

/-- A datagram that fits is sent. -/
theorem send_of_toBytes {e : SidebandEnvelope} {frame bytes : Bytes} (peer : t.peerAddr ≠ none)
    (length : frame.length = e.frameLength) (valid : e.validate = .ok ())
    (packed : e.toBytes = .ok bytes) :
    t.send e frame = if (bytes ++ frame).length > maxDatagramBytes then
      valueError "UDP datagram exceeds the maximum payload size" else .ok (bytes ++ frame) := by
  rw [send, if_neg peer, if_neg (not_not.mpr length), valid, packed]
  rfl

/-- What an accepted datagram is made of. -/
theorem decodeDatagram_eq_ok {datagram : Bytes} {frame : TransportFrame}
    (decoded : t.decodeDatagram datagram = .ok frame) :
    decodeSessionControl datagram = .ok none ∧ frame.envelope.validate = .ok () ∧
      frame.copyIndex = frame.envelope.copyIndex ∧
      ∃ bytes, frame.envelope.toBytes = .ok bytes ∧ datagram = bytes ++ frame.frameBytes := by
  unfold decodeDatagram at decoded
  obtain ⟨control, mission, decoded⟩ := bind_eq_ok_iff.mp decoded
  split at decoded
  · cases decoded
  rename_i none
  split at decoded
  · cases decoded
  obtain ⟨envelope, read, decoded⟩ := bind_eq_ok_iff.mp decoded
  obtain ⟨headerSize, size, decoded⟩ := bind_eq_ok_iff.mp decoded
  obtain ⟨-, size', same, -, packed⟩ := SidebandEnvelope.toBytes_fromBytes read
  rw [size] at same
  cases same
  dsimp only at decoded
  split at decoded
  · cases decoded
  split at decoded
  · cases decoded
  obtain ⟨⟨⟩, valid, decoded⟩ := bind_eq_ok_iff.mp decoded
  cases decoded
  rw [Bool.not_eq_true, Option.isSome_eq_false_iff, Option.isNone_iff_eq_none] at none
  rw [none] at mission
  exact ⟨mission, valid, rfl, _, packed, (List.take_append_drop headerSize datagram).symm⟩

/-- The envelope a frame is sent with, but for its version and copy index. -/
theorem wireEnvelope_eq (frame : TransportFrame) :
    (wireEnvelope frame).copyIndex = frame.copyIndex ∧
      { wireEnvelope frame with
        version := frame.envelope.version
        copyIndex := frame.envelope.copyIndex } = frame.envelope := by
  unfold wireEnvelope
  dsimp only
  by_cases other : frame.copyIndex ≠ frame.envelope.copyIndex
  · rw [if_pos other]
    exact ⟨rfl, rfl⟩
  · rw [if_neg other]
    exact ⟨(not_not.mp other).symm, rfl⟩

end UdpTransport

/-! ## Main results -/

/-- **What the ends of a link agree on.** -/
structure UdpRoundTrip : Prop where
  /-- An envelope with the magic whose fields fit is read back. -/
  envelope : ∀ e : SidebandEnvelope, e.Fits → e.magic = SidebandEnvelope.magicValue →
    ∃ bytes, e.toBytes = .ok bytes ∧ SidebandEnvelope.fromBytes bytes = .ok e
  /-- An accepted envelope is packed as the header in front of the data. -/
  header : ∀ data e, SidebandEnvelope.fromBytes data = .ok e →
    ∃ size, SidebandEnvelope.headerSizeForVersion e.version = .ok size ∧ size ≤ data.length ∧
      e.toBytes = .ok (data.take size)
  /-- A sent frame is received with its bytes, identity and copy index. -/
  sent : ∀ (sender receiver : UdpTransport) (frame : TransportFrame) (datagram : Bytes),
    sender.sendTransportFrame frame = .ok datagram →
    receiver.expectedDirection = some frame.envelope.direction →
    ∃ received, receiver.decodeDatagram datagram = .ok received ∧
      received.frameBytes = frame.frameBytes ∧ received.copyIndex = frame.copyIndex ∧
      received.envelope.copyIndex = frame.copyIndex ∧
      { received.envelope with
        version := frame.envelope.version
        copyIndex := frame.envelope.copyIndex } = frame.envelope
  /-- A received datagram of a size that can be sent is sent as it was received. -/
  received : ∀ (sender receiver : UdpTransport) (datagram : Bytes) (frame : TransportFrame),
    datagram.length ≤ UdpTransport.maxDatagramBytes → sender.peerAddr ≠ none →
    receiver.decodeDatagram datagram = .ok frame →
    sender.sendTransportFrame frame = .ok datagram ∧ decodeSessionControl datagram = .ok none

open UdpTransport in
/-- **The two ends of a link agree.** -/
theorem udpRoundTrip : UdpRoundTrip where
  envelope e fits magic := by
    obtain ⟨bytes, packed⟩ := fits.exists_toBytes
    have read := SidebandEnvelope.fromBytes_toBytes packed magic []
    rw [List.append_nil] at read
    exact ⟨bytes, packed, read⟩
  header data e read := (SidebandEnvelope.toBytes_fromBytes read).2
  sent sender receiver frame datagram sent expected := by
    obtain ⟨length, valid, bytes, packed, rfl⟩ := send_eq_ok sent
    obtain ⟨copy, same⟩ := wireEnvelope_eq frame
    have direction : (wireEnvelope frame).direction = frame.envelope.direction := by
      rw [← same]
    refine ⟨_, decodeDatagram_toBytes packed valid length fun other mem => ?_, rfl, copy, copy,
      same⟩
    rw [expected] at mem
    rw [direction, Option.mem_some_iff.mp mem]
  received sender receiver datagram frame short peer decoded := by
    obtain ⟨mission, valid, copy, bytes, packed, rfl⟩ := decodeDatagram_eq_ok decoded
    refine ⟨?_, mission⟩
    have same : wireEnvelope frame = frame.envelope := if_neg (not_not.mpr copy)
    rw [sendTransportFrame, same, send_of_toBytes peer frame.length_eq valid packed,
      if_neg (not_lt.mpr short)]

/-- A frame with a copy index of its own comes back with it. -/
theorem udpRoundTrip_ingressFrame :
    let frame : TransportFrame :=
      ⟨⟨SidebandEnvelope.magicValue, 1, .ingress, 0, 1, 0, 7, 9, 0, 0, 2, 0⟩, [0x20, 0x21], 3, rfl⟩
    let receiver : UdpTransport := ⟨none, some .ingress⟩
    ∃ datagram received,
      (⟨some ([], 9), none⟩ : UdpTransport).sendTransportFrame frame = .ok datagram ∧
      receiver.decodeDatagram datagram = .ok received ∧ received.frameBytes = [0x20, 0x21] ∧
      received.copyIndex = 3 := by
  intro frame receiver
  have sent : (⟨some ([], 9), none⟩ : UdpTransport).sendTransportFrame frame = .ok _ := rfl
  obtain ⟨received, decoded, bytes, copy, -⟩ := udpRoundTrip.sent _ receiver frame _ sent rfl
  exact ⟨_, received, sent, decoded, bytes, copy⟩

open UdpTransport in
/-- An envelope with another magic is not read back, and a datagram can be accepted that is too
long to be sent. -/
theorem not_roundTrip_of_otherMagic_or_longDatagram :
    (¬∀ e : SidebandEnvelope, e.Fits →
      ∃ bytes, e.toBytes = .ok bytes ∧ SidebandEnvelope.fromBytes bytes = .ok e) ∧
    ¬∀ (sender receiver : UdpTransport) (datagram : Bytes) (frame : TransportFrame),
      sender.peerAddr ≠ none → receiver.decodeDatagram datagram = .ok frame →
      sender.sendTransportFrame frame = .ok datagram := by
  constructor
  · intro all
    obtain ⟨bytes, -, read⟩ := all ⟨0, 1, .ingress, 0, 1, 0, 7, 9, 0, 0, 2, 0⟩
      ⟨by decide, by decide, by decide, by decide, by decide, by decide, by decide, by decide,
        by decide, .inl ⟨rfl, rfl⟩⟩
    exact absurd (SidebandEnvelope.toBytes_fromBytes read).1 (by decide)
  · intro all
    let e : SidebandEnvelope :=
      ⟨SidebandEnvelope.magicValue, 1, .ingress, 0, 1, 0, 7, 9, 0, 0, 65454, 0⟩
    have fits : e.Fits := ⟨by decide, by decide, by decide, by decide, by decide, by decide,
      by decide, by decide, by decide, .inl ⟨rfl, rfl⟩⟩
    obtain ⟨bytes, packed⟩ := fits.exists_toBytes
    obtain ⟨frame, length⟩ : ∃ frame : Bytes, frame.length = e.frameLength :=
      ⟨List.replicate 65454 0, List.length_replicate⟩
    have header : bytes.length = 54 :=
      length_packUnsigned (SidebandEnvelope.toBytes_eq_ok_iff.mp packed).2
    have valid : e.validate = .ok () := rfl
    have decoded := decodeDatagram_toBytes (t := ⟨none, none⟩) packed valid length
      fun _ mem => (Option.not_mem_none _ mem).elim
    have peer : (⟨some ([], 9), none⟩ : UdpTransport).peerAddr ≠ none := Option.some_ne_none _
    have sent : UdpTransport.send _ e frame = _ :=
      all ⟨some ([], 9), none⟩ ⟨none, none⟩ _ _ peer decoded
    have tooLong : (bytes ++ frame).length > maxDatagramBytes := by
      rw [List.length_append, header, length]
      decide
    rw [send_of_toBytes peer length valid packed, if_pos tooLong] at sent
    cases sent

end CubeNano

import CubeNano.Protocol.Bytes
import CubeNano.Protocol.Exceptions

/-!
# The CCSDS profile: Space Packets and TM transfer frames

The byte-level codec of `protocol/ccsds.py`.  A `SpacePacket` or a `TmFrame`
carries the range checks of its constructor as fields, so the flight side, the
link simulator and the ground decoder all work on packets whose counters fit
their fields; `SpacePacket.new` and `TmFrame.new` are the constructors that
perform the checks.

## Main definitions

* `crc16Ccitt` — the frame error control field
* `SpacePacket.encode`, `SpacePacket.decode` — the primary header and payload
* `TmFrame.encode`, `TmFrame.decode` — one packet, idle fill and the FECF

## Main statements

* `SpacePacket.decode_encode` — the round trip of a Space Packet
* `encodeTmFrame_returns` — a payload that leaves room for an idle packet is framed
-/

namespace CubeNano

/-- `SPACE_PACKET_HEADER_SIZE`. -/
def spacePacketHeaderSize : ℕ := 6

/-- `TM_FRAME_SIZE`. -/
def tmFrameSize : ℕ := 1024

/-- `TM_DATA_FIELD_SIZE`: the frame less primary header and FECF. -/
def tmDataFieldSize : ℕ := tmFrameSize - 6 - 2

/-- `IDLE_APID`. -/
def idleApid : ℕ := 0x7FF

/-- One shift of the CRC register. -/
def crcShift (crc : ℕ) : ℕ :=
  if crc &&& 0x8000 ≠ 0 then ((crc <<< 1) ^^^ 0x1021) &&& 0xFFFF else (crc <<< 1) &&& 0xFFFF

/-- Fold one byte into the CRC register. -/
def crcByte (crc : ℕ) (byte : UInt8) : ℕ :=
  crcShift (crcShift (crcShift (crcShift (crcShift (crcShift (crcShift (crcShift
    (crc ^^^ (byte.toNat <<< 8)))))))))

/-- `crc16_ccitt`. -/
def crc16Ccitt (data : Bytes) : ℕ := foldRegister crcByte 0xFFFF data

/-! ## Space Packets -/

/-- A Space Packet of the profile. -/
structure SpacePacket where
  apid : ℕ
  sequenceCount : ℕ
  payload : Bytes
  packetType : ℕ
  secondaryHeaderPresent : Bool
  sequenceFlags : ℕ
  apid_le : apid ≤ 0x7FF
  sequenceCount_le : sequenceCount ≤ 0x3FFF
  packetType_le : packetType ≤ 1
  sequenceFlags_le : sequenceFlags ≤ 3
  payload_ne_nil : payload ≠ []
  payload_length_le : payload.length ≤ 0x10000
  deriving DecidableEq

/-- `SpacePacket.__post_init__`. -/
def SpacePacket.new (apid sequenceCount : ℕ) (payload : Bytes) (packetType : ℕ)
    (secondaryHeaderPresent : Bool) (sequenceFlags : ℕ) : Raises SpacePacket :=
  if h1 : apid ≤ 0x7FF then
    if h2 : sequenceCount ≤ 0x3FFF then
      if h3 : packetType ≤ 1 then
        if h4 : sequenceFlags ≤ 3 then
          if h5 : payload ≠ [] then
            if h6 : payload.length ≤ 0x10000 then
              .ok ⟨apid, sequenceCount, payload, packetType, secondaryHeaderPresent, sequenceFlags,
                h1, h2, h3, h4, h5, h6⟩
            else valueError "Space Packet payload is too large"
          else valueError "MVP Space Packets contain at least one data byte"
        else valueError "Space Packet sequence flags must fit 2 bits"
      else valueError "Space Packet type must be 0 or 1"
    else valueError "Space Packet sequence count must fit 14 bits"
  else valueError "Space Packet APID must fit 11 bits"

/-- `SpacePacket.encode`. -/
def SpacePacket.encode (p : SpacePacket) : Bytes :=
  let first := (p.packetType <<< 12) ||| (p.secondaryHeaderPresent.toNat <<< 11) ||| p.apid
  let second := (p.sequenceFlags <<< 14) ||| p.sequenceCount
  toBytesBE 2 first ++ toBytesBE 2 second ++ toBytesBE 2 (p.payload.length - 1) ++ p.payload

/-- `SpacePacket.decode`. -/
def SpacePacket.decode (data : Bytes) : Raises SpacePacket :=
  if data.length < spacePacketHeaderSize + 1 then
    valueError "Space Packet is shorter than its primary header"
  else
    let first := fromBytesBE (data.take 2)
    let second := fromBytesBE ((data.drop 2).take 2)
    let packetDataLength := fromBytesBE ((data.drop 4).take 2)
    if first >>> 13 ≠ 0 then valueError "unsupported Space Packet version"
    else
      let expected := spacePacketHeaderSize + packetDataLength + 1
      if data.length ≠ expected then
        valueError s!"Space Packet length field expects {expected} bytes, got {data.length}"
      else
        SpacePacket.new (first &&& 0x7FF) (second &&& 0x3FFF) (data.drop 6) ((first >>> 12) &&& 1)
          ((first >>> 11) &&& 1 ≠ 0) ((second >>> 14) &&& 3)

/-- `encode_space_packet` with its default packet type, header flag and sequence flags. -/
def encodeSpacePacket (apid : ℕ) (payload : Bytes) (sequenceCount : ℕ) : Raises Bytes :=
  (SpacePacket.new apid sequenceCount payload 0 false 3).map SpacePacket.encode

/-! ## TM transfer frames -/

/-- A TM transfer frame of the profile: one packet, no OCF. -/
structure TmFrame where
  spacecraftId : ℕ
  virtualChannelId : ℕ
  masterChannelCount : ℕ
  virtualChannelCount : ℕ
  packet : SpacePacket
  segmentLengthId : ℕ
  spacecraftId_le : spacecraftId ≤ 0x3FF
  virtualChannelId_le : virtualChannelId ≤ 7
  masterChannelCount_le : masterChannelCount ≤ 0xFF
  virtualChannelCount_le : virtualChannelCount ≤ 0xFF
  segmentLengthId_le : segmentLengthId ≤ 3
  deriving DecidableEq

/-- `TmFrame.__post_init__`. -/
def TmFrame.new (spacecraftId virtualChannelId masterChannelCount virtualChannelCount : ℕ)
    (packet : SpacePacket) (segmentLengthId : ℕ) : Raises TmFrame :=
  if h1 : spacecraftId ≤ 0x3FF then
    if h2 : virtualChannelId ≤ 7 then
      if h3 : masterChannelCount ≤ 0xFF then
        if h4 : virtualChannelCount ≤ 0xFF then
          if h5 : segmentLengthId ≤ 3 then
            .ok ⟨spacecraftId, virtualChannelId, masterChannelCount, virtualChannelCount, packet,
              segmentLengthId, h1, h2, h3, h4, h5⟩
          else valueError "TM segment length ID must fit 2 bits"
        else valueError "TM VCFC must fit 8 bits"
      else valueError "TM MCFC must fit 8 bits"
    else valueError "TM VCID must fit 3 bits"
  else valueError "TM spacecraft ID must fit 10 bits"

/-- The idle fill after the packet; a remainder of 1 to 6 bytes has none. -/
def idleFill (remaining : ℕ) : Raises Bytes :=
  if remaining = 0 then .ok []
  else if remaining ≥ spacePacketHeaderSize + 1 then
    encodeSpacePacket idleApid (List.replicate (remaining - 6) 0) 0
  else valueError "TM data field has a non-representable idle remainder"

/-- `TmFrame.encode` at the fixed frame size. -/
def TmFrame.encode (f : TmFrame) : Raises Bytes :=
  let packetBytes := f.packet.encode
  if packetBytes.length > tmDataFieldSize then
    valueError "Space Packet does not fit in TM data field"
  else do
    let filler ← idleFill (tmDataFieldSize - packetBytes.length)
    let first := (f.spacecraftId <<< 4) ||| (f.virtualChannelId <<< 1)
    let pointer := f.segmentLengthId <<< 11
    let header := toBytesBE 2 first ++ [UInt8.ofNat f.masterChannelCount]
      ++ [UInt8.ofNat f.virtualChannelCount] ++ toBytesBE 2 pointer
    let body := header ++ packetBytes ++ filler
    .ok (body ++ toBytesBE 2 (crc16Ccitt body))

/-- `TmFrame.decode` at the fixed frame size. -/
def TmFrame.decode (data : Bytes) : Raises TmFrame :=
  if data.length ≠ tmFrameSize then
    valueError s!"TM frame must contain exactly {tmFrameSize} bytes"
  else
    let expectedCrc := fromBytesBE (data.drop (tmFrameSize - 2))
    let actualCrc := crc16Ccitt (data.take (tmFrameSize - 2))
    if actualCrc ≠ expectedCrc then valueError "TM FECF/CRC mismatch"
    else
      let first := fromBytesBE (data.take 2)
      let mcfc := fromBytesBE ((data.drop 2).take 1)
      let vcfc := fromBytesBE ((data.drop 3).take 1)
      let pointer := fromBytesBE ((data.drop 4).take 2)
      if first >>> 14 ≠ 0 then valueError "unsupported TM transfer-frame version"
      else if pointer &&& 0x7FF ≠ 0 then valueError "MVP TM first-header pointer must be zero"
      else
        let packetEnd := 6 + spacePacketHeaderSize + fromBytesBE ((data.drop 10).take 2) + 1
        if packetEnd > tmFrameSize - 2 then
          valueError "TM first Space Packet exceeds frame data field"
        else do
          let packet ← SpacePacket.decode ((data.drop 6).take (packetEnd - 6))
          TmFrame.new ((first >>> 4) &&& 0x3FF) ((first >>> 1) &&& 0x7) mcfc vcfc packet
            ((pointer >>> 11) &&& 0x3)

/-- `encode_tm_frame` of an encoded Space Packet. -/
def encodeTmFrame (packet : Bytes) (spacecraftId virtualChannelId masterChannelCount
    virtualChannelCount : ℕ) : Raises Bytes := do
  let parsed ← SpacePacket.decode packet
  let frame ← TmFrame.new spacecraftId virtualChannelId masterChannelCount virtualChannelCount
    parsed 3
  frame.encode

/-! ## Round trip of a Space Packet -/

/-- The fields of the identification word. -/
theorem identification_fields {packetType flag apid first : ℕ} (typeLe : packetType ≤ 1)
    (flagLe : flag ≤ 1) (apidLe : apid ≤ 0x7FF)
    (word : (packetType <<< 12) ||| (flag <<< 11) ||| apid = first) :
    first < 2 ^ 13 ∧ first >>> 13 = 0 ∧ (first >>> 12) &&& 1 = packetType ∧
      (first >>> 11) &&& 1 = flag ∧ first &&& 0x7FF = apid := by
  have sum : first = packetType * 4096 + flag * 2048 + apid := by
    rw [← word, Nat.or_assoc, shiftLeft_or_eq_add (show apid < 2 ^ 11 by omega),
      shiftLeft_or_eq_add (show flag * 2 ^ 11 + apid < 2 ^ 12 by omega)]
    omega
  refine ⟨by omega, ?_, ?_, ?_, ?_⟩
  · rw [Nat.shiftRight_eq_div_pow]
    omega
  · rw [Nat.and_one_is_mod, Nat.shiftRight_eq_div_pow]
    omega
  · rw [Nat.and_one_is_mod, Nat.shiftRight_eq_div_pow]
    omega
  · rw [show (0x7FF : ℕ) = 2 ^ 11 - 1 from rfl, Nat.and_two_pow_sub_one_eq_mod]
    omega

/-- The fields of the sequence control word. -/
theorem sequenceControl_fields {flags count second : ℕ} (flagsLe : flags ≤ 3)
    (countLe : count ≤ 0x3FFF) (word : (flags <<< 14) ||| count = second) :
    second < 2 ^ 16 ∧ (second >>> 14) &&& 3 = flags ∧ second &&& 0x3FFF = count := by
  have sum : second = flags * 16384 + count := by
    rw [← word, shiftLeft_or_eq_add (show count < 2 ^ 14 by omega)]
    norm_num
  refine ⟨by omega, ?_, ?_⟩
  · rw [show (3 : ℕ) = 2 ^ 2 - 1 from rfl, Nat.and_two_pow_sub_one_eq_mod,
      Nat.shiftRight_eq_div_pow]
    omega
  · rw [show (0x3FFF : ℕ) = 2 ^ 14 - 1 from rfl, Nat.and_two_pow_sub_one_eq_mod]
    omega

theorem SpacePacket.length_encode (p : SpacePacket) : p.encode.length = 6 + p.payload.length := by
  simp only [SpacePacket.encode, List.length_append, length_toBytesBE]

/-- **The round trip of a Space Packet.** -/
theorem SpacePacket.decode_encode (p : SpacePacket) : SpacePacket.decode p.encode = .ok p := by
  have length := p.length_encode
  have positive : 0 < p.payload.length := List.length_pos_iff.mpr p.payload_ne_nil
  have payloadLe := p.payload_length_le
  generalize hf : (p.packetType <<< 12) ||| (p.secondaryHeaderPresent.toNat <<< 11) ||| p.apid =
    first
  generalize hs : (p.sequenceFlags <<< 14) ||| p.sequenceCount = second
  have written : p.encode = toBytesBE 2 first ++
      (toBytesBE 2 second ++ (toBytesBE 2 (p.payload.length - 1) ++ p.payload)) := by
    rw [← hf, ← hs, ← List.append_assoc, ← List.append_assoc]
    rfl
  obtain ⟨firstLt, version, typeBit, flagBit, apidBits⟩ := identification_fields p.packetType_le
    (Bool.toNat_le _) p.apid_le hf
  obtain ⟨secondLt, flagsBits, countBits⟩ := sequenceControl_fields p.sequenceFlags_le
    p.sequenceCount_le hs
  have part0 : fromBytesBE (p.encode.take 2) = first := by
    rw [written, List.take_left' (length_toBytesBE 2 first)]
    exact fromBytesBE_toBytesBE (by omega)
  have part1 : fromBytesBE ((p.encode.drop 2).take 2) = second := by
    rw [written, List.drop_left' (length_toBytesBE 2 first),
      List.take_left' (length_toBytesBE 2 second)]
    exact fromBytesBE_toBytesBE (by omega)
  have part2 : fromBytesBE ((p.encode.drop 4).take 2) = p.payload.length - 1 := by
    rw [written, ← List.append_assoc, List.drop_left' (by rw [List.length_append, length_toBytesBE,
      length_toBytesBE]), List.take_left' (length_toBytesBE 2 _)]
    exact fromBytesBE_toBytesBE (by omega)
  have part3 : p.encode.drop 6 = p.payload := by
    rw [written, ← List.append_assoc, ← List.append_assoc]
    exact List.drop_left' (by simp only [List.length_append, length_toBytesBE])
  unfold SpacePacket.decode
  simp only [part0, part1, part2, part3, apidBits, countBits, typeBit, flagBit, flagsBits, version,
    length, spacePacketHeaderSize]
  rw [if_neg (by omega), if_neg (by simp), if_neg (by omega)]
  unfold SpacePacket.new
  rw [dif_pos p.apid_le, dif_pos p.sequenceCount_le, dif_pos p.packetType_le,
    dif_pos p.sequenceFlags_le, dif_pos p.payload_ne_nil, dif_pos p.payload_length_le]
  cases p with
  | mk _ _ _ _ flag =>
      cases flag
      · rfl
      · rfl

/-- A payload that leaves room for an idle packet is framed. -/
theorem encodeTmFrame_returns {apid sequenceCount spacecraftId virtualChannelId masterChannelCount
    virtualChannelCount : ℕ} {payload : Bytes} (apidLe : apid ≤ 0x7FF)
    (countLe : sequenceCount ≤ 0x3FFF) (spacecraftLe : spacecraftId ≤ 0x3FF)
    (virtualLe : virtualChannelId ≤ 7) (masterCountLe : masterChannelCount ≤ 0xFF)
    (virtualCountLe : virtualChannelCount ≤ 0xFF) (nonempty : payload ≠ [])
    (room : payload.length ≤ 1003) :
    ∃ packet frame, encodeSpacePacket apid payload sequenceCount = .ok packet ∧
      encodeTmFrame packet spacecraftId virtualChannelId masterChannelCount virtualChannelCount =
        .ok frame := by
  let p : SpacePacket := ⟨apid, sequenceCount, payload, 0, false, 3, apidLe, countLe, by omega,
    by omega, nonempty, by omega⟩
  have packed : encodeSpacePacket apid payload sequenceCount = .ok p.encode := by
    unfold encodeSpacePacket SpacePacket.new
    rw [dif_pos apidLe, dif_pos countLe, dif_pos (by omega), dif_pos (by omega), dif_pos nonempty,
      dif_pos (by omega)]
    rfl
  have idle : ∃ filler, idleFill (tmDataFieldSize - p.encode.length) = .ok filler := by
    have length : p.encode.length = 6 + payload.length := p.length_encode
    unfold idleFill tmDataFieldSize tmFrameSize spacePacketHeaderSize
    rw [length, if_neg (by omega), if_pos (by omega)]
    unfold encodeSpacePacket SpacePacket.new idleApid
    rw [dif_pos (by omega), dif_pos (by omega), dif_pos (by omega), dif_pos (by omega),
      dif_pos (by rw [← List.length_pos_iff, List.length_replicate]; omega),
      dif_pos (by rw [List.length_replicate]; omega)]
    exact ⟨_, rfl⟩
  obtain ⟨filler, filled⟩ := idle
  let f : TmFrame := ⟨spacecraftId, virtualChannelId, masterChannelCount, virtualChannelCount, p, 3,
    spacecraftLe, virtualLe, masterCountLe, virtualCountLe, by omega⟩
  have framed : TmFrame.new spacecraftId virtualChannelId masterChannelCount virtualChannelCount p 3 =
      .ok f := by
    unfold TmFrame.new
    rw [dif_pos spacecraftLe, dif_pos virtualLe, dif_pos masterCountLe, dif_pos virtualCountLe,
      dif_pos (by omega)]
  have encoded : ∃ frame, f.encode = .ok frame := by
    have length : p.encode.length = 6 + payload.length := p.length_encode
    unfold TmFrame.encode
    change ∃ frame, (if p.encode.length > tmDataFieldSize then _ else _) = _
    rw [if_neg (by rw [length, tmDataFieldSize, tmFrameSize]; omega), filled]
    exact ⟨_, rfl⟩
  obtain ⟨frame, encoded⟩ := encoded
  refine ⟨p.encode, frame, packed, ?_⟩
  exact bind_eq_ok_iff.mpr ⟨p, SpacePacket.decode_encode p, bind_eq_ok_iff.mpr ⟨f, framed, encoded⟩⟩

end CubeNano

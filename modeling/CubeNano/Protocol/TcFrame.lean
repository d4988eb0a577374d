import CubeNano.Protocol.TmProfile

/-!
# TC Type-BD transfer frames

`TcTypeBdFrame` of `protocol/ccsds.py`: the telecommand frame that carries one
Space Packet behind a five-byte header, zero padding and the FECF.  A frame has
two length fields, its own and the packet's.

## Main definitions

* `TcTypeBdFrame.encode`, `TcTypeBdFrame.decode`
* `PacketInDataField` — the packet length field ends the packet before the FECF

## Main statements

* `TcTypeBdFrame.decode_encode` — the round trip, for every frame size
* `TcTypeBdFrame.packet_mem_dataField_iff` — the packet an accepted frame carries
  lies in the data field exactly when its length field says so
-/

namespace CubeNano

/-- `TcTypeBdFrame`; its constructor has no checks, the encoder has them. -/
structure TcTypeBdFrame where
  spacecraftId : ℕ
  virtualChannelId : ℕ
  sequenceNumber : ℕ
  packet : SpacePacket
  deriving DecidableEq

namespace TcTypeBdFrame

/-- `TcTypeBdFrame.HEADER_SIZE`. -/
def headerSize : ℕ := 5

/-- The five header bytes of a frame of `frameSize` bytes. -/
def header (f : TcTypeBdFrame) (frameSize : ℕ) : Bytes :=
  let frameLength := frameSize - 1
  [UInt8.ofNat (0x20 ||| ((f.spacecraftId >>> 8) &&& 0x03)),
    UInt8.ofNat (f.spacecraftId &&& 0xFF),
    UInt8.ofNat ((f.virtualChannelId <<< 2) ||| ((frameLength >>> 8) &&& 0x03)),
    UInt8.ofNat (frameLength &&& 0xFF),
    UInt8.ofNat f.sequenceNumber]

/-- `TcTypeBdFrame.encode`. -/
def encode (f : TcTypeBdFrame) (frameSize? : Option ℕ) : Raises Bytes :=
  let packetBytes := f.packet.encode
  if f.spacecraftId > 0x3FF then valueError "TC spacecraft ID must fit 10 bits"
  else if f.virtualChannelId > 0x3F then valueError "TC VCID must fit 6 bits"
  else if f.sequenceNumber > 0xFF then valueError "TC frame sequence must fit 8 bits"
  else
    let frameSize := frameSize?.getD (headerSize + packetBytes.length + 2)
    if frameSize < headerSize + packetBytes.length + 2 ∨ frameSize - 1 > 0x3FF then
      valueError "TC frame is too small for its Space Packet"
    else
      let dataFieldSize := frameSize - headerSize - 2
      let body := f.header frameSize ++ packetBytes ++
        List.replicate (dataFieldSize - packetBytes.length) 0
      .ok (body ++ toBytesBE 2 (crc16Ccitt body))

/-- `data[i]`, of an index in range. -/
def octet (data : Bytes) (i : ℕ) : ℕ := (data.getD i 0).toNat

/-- `TcTypeBdFrame.decode`. -/
def decode (data : Bytes) : Raises TcTypeBdFrame :=
  if data.length < headerSize + 2 then valueError "TC frame is too short"
  else if crc16Ccitt (data.take (data.length - 2)) ≠ fromBytesBE (data.drop (data.length - 2)) then
    valueError "TC FECF/CRC mismatch"
  else if octet data 0 >>> 6 ≠ 0 then valueError "unsupported TC transfer-frame version"
  else if octet data 0 &&& 0x20 = 0 ∨ octet data 0 &&& 0x10 ≠ 0 then
    valueError "TC frame is not a Type-BD data frame"
  else if octet data 0 &&& 0x0C ≠ 0 then
    valueError "TC transfer-frame reserved bits must be zero"
  else
    let frameLength := ((octet data 2 &&& 0x03) <<< 8) ||| octet data 3
    if frameLength + 1 ≠ data.length then valueError "TC frame data-field length mismatch"
    else
      let packetEnd := 5 + spacePacketHeaderSize + fromBytesBE ((data.drop 9).take 2) + 1
      (SpacePacket.decode ((data.drop 5).take (packetEnd - 5))).map fun packet =>
        { spacecraftId := ((octet data 0 &&& 0x03) <<< 8) ||| octet data 1
          virtualChannelId := (octet data 2 >>> 2) &&& 0x3F
          sequenceNumber := octet data 4
          packet }

/-! ## The header -/

theorem length_header (f : TcTypeBdFrame) (frameSize : ℕ) : (f.header frameSize).length = 5 := rfl

/-- The first byte: bypass flag and the high bits of the spacecraft. -/
theorem firstOctet {high : ℕ} (small : high < 4) :
    (0x20 ||| high) < 256 ∧ (0x20 ||| high) >>> 6 = 0 ∧ (0x20 ||| high) &&& 0x20 ≠ 0 ∧
      (0x20 ||| high) &&& 0x10 = 0 ∧ (0x20 ||| high) &&& 0x0C = 0 ∧ (0x20 ||| high) &&& 0x03 = high := by
  have cases : high = 0 ∨ high = 1 ∨ high = 2 ∨ high = 3 := by omega
  rcases cases with rfl | rfl | rfl | rfl
  · decide
  · decide
  · decide
  · decide

/-- A ten-bit number of its high bits and its low byte. -/
theorem tenBits {n : ℕ} (fits : n ≤ 0x3FF) :
    (n >>> 8) &&& 0x03 < 4 ∧ n &&& 0xFF < 256 ∧ ((n >>> 8) &&& 0x03) <<< 8 ||| (n &&& 0xFF) = n := by
  have high : (n >>> 8) &&& 0x03 = (n >>> 8) % 2 ^ 2 := Nat.and_two_pow_sub_one_eq_mod (n >>> 8) 2
  have low : n &&& 0xFF = n % 2 ^ 8 := Nat.and_two_pow_sub_one_eq_mod n 8
  rw [high, low, Nat.shiftRight_eq_div_pow]
  refine ⟨Nat.mod_lt _ (by decide), Nat.mod_lt _ (by decide), ?_⟩
  rw [shiftLeft_or_eq_add (Nat.mod_lt _ (by decide))]
  omega

/-- The third byte: virtual channel and the high bits of the frame length. -/
theorem thirdOctet {channel high : ℕ} (channelLe : channel ≤ 0x3F) (small : high < 4) :
    (channel <<< 2 ||| high) < 256 ∧ (channel <<< 2 ||| high) &&& 0x03 = high ∧
      ((channel <<< 2 ||| high) >>> 2) &&& 0x3F = channel := by
  have sum : channel <<< 2 ||| high = channel * 4 + high := shiftLeft_or_eq_add (i := 2) small
  have low : (channel * 4 + high) &&& 0x03 = (channel * 4 + high) % 2 ^ 2 :=
    Nat.and_two_pow_sub_one_eq_mod _ 2
  have middle : ((channel * 4 + high) >>> 2) &&& 0x3F = ((channel * 4 + high) >>> 2) % 2 ^ 6 :=
    Nat.and_two_pow_sub_one_eq_mod _ 6
  rw [sum, low, middle, Nat.shiftRight_eq_div_pow]
  omega

/-- What the encoder writes, and when. -/
theorem encode_eq_ok {f : TcTypeBdFrame} {frameSize? : Option ℕ} {data : Bytes}
    (encoded : f.encode frameSize? = .ok data) :
    f.spacecraftId ≤ 0x3FF ∧ f.virtualChannelId ≤ 0x3F ∧ f.sequenceNumber ≤ 0xFF ∧
      ∃ frameSize padding, frameSize ≤ 0x400 ∧
        7 + f.packet.encode.length + padding = frameSize ∧
        ∃ body, body = f.header frameSize ++ f.packet.encode ++ List.replicate padding 0 ∧
          data = body ++ toBytesBE 2 (crc16Ccitt body) := by
  unfold encode at encoded
  simp only at encoded
  split at encoded
  · cases encoded
  split at encoded
  · cases encoded
  split at encoded
  · cases encoded
  split at encoded
  · cases encoded
  rename_i spacecraft channel sequence sizes
  generalize frameSize?.getD (headerSize + f.packet.encode.length + 2) = frameSize at sizes encoded
  rw [not_or, headerSize] at sizes
  refine ⟨by omega, by omega, by omega, frameSize,
    frameSize - headerSize - 2 - f.packet.encode.length, by omega, ?_, _, rfl,
    (Except.ok.inj encoded).symm⟩
  rw [headerSize]
  omega

/-! ## The round trip -/

theorem octet_ofNat {n : ℕ} (small : n < 256) (rest : Bytes) :
    octet (UInt8.ofNat n :: rest) 0 = n := by
  show (UInt8.ofNat n).toNat = n
  rw [UInt8.toNat_ofNat', Nat.mod_eq_of_lt small]

/-- **The round trip of a TC frame**, with or without padding. -/
theorem decode_encode {f : TcTypeBdFrame} {frameSize? : Option ℕ} {data : Bytes}
    (encoded : f.encode frameSize? = .ok data) : decode data = .ok f := by
  obtain ⟨spacecraftLe, channelLe, sequenceLe, frameSize, padding, frameSizeLe, sizes, body,
    bodyEq, written⟩ := encode_eq_ok encoded
  have packetLength := f.packet.length_encode
  have payloadPos : 0 < f.packet.payload.length := List.length_pos_iff.mpr f.packet.payload_ne_nil
  have bodyLength : body.length = frameSize - 2 := by
    rw [bodyEq, List.length_append, List.length_append, List.length_replicate, f.length_header]
    omega
  have length : data.length = frameSize := by
    rw [written, List.length_append, bodyLength, length_toBytesBE]
    omega
  obtain ⟨spacecraftHigh, spacecraftLow, spacecraft⟩ := tenBits spacecraftLe
  obtain ⟨lengthHigh, lengthLow, frameLength⟩ := tenBits (show frameSize - 1 ≤ 0x3FF by omega)
  obtain ⟨firstLt, version, bypass, control, reserved, first⟩ := firstOctet spacecraftHigh
  obtain ⟨thirdLt, thirdLow, third⟩ := thirdOctet channelLe lengthHigh
  have tail : data = f.header frameSize ++ (f.packet.encode ++ (List.replicate padding 0 ++
      toBytesBE 2 (crc16Ccitt body))) := by
    rw [written, bodyEq]
    simp only [List.append_assoc]
  have octet0 : octet data 0 = 0x20 ||| ((f.spacecraftId >>> 8) &&& 0x03) := by
    rw [tail]
    exact octet_ofNat firstLt _
  have octet1 : octet data 1 = f.spacecraftId &&& 0xFF := by
    rw [tail]
    exact octet_ofNat spacecraftLow []
  have octet2 : octet data 2 =
      (f.virtualChannelId <<< 2) ||| (((frameSize - 1) >>> 8) &&& 0x03) := by
    rw [tail]
    exact octet_ofNat thirdLt []
  have octet3 : octet data 3 = (frameSize - 1) &&& 0xFF := by
    rw [tail]
    exact octet_ofNat lengthLow []
  have octet4 : octet data 4 = f.sequenceNumber := by
    rw [tail]
    exact octet_ofNat (by omega) []
  have fromPacket : data.drop 5 = f.packet.encode ++ (List.replicate padding 0 ++
      toBytesBE 2 (crc16Ccitt body)) := by
    rw [tail, List.drop_left' (f.length_header frameSize)]
  have lengthField : fromBytesBE ((data.drop 9).take 2) = f.packet.payload.length - 1 := by
    rw [← f.packet.lengthField, show data.drop 9 = (data.drop 5).drop 4 by rw [List.drop_drop],
      fromPacket, List.drop_append_of_le_length (by omega),
      List.take_append_of_le_length (by rw [List.length_drop]; omega)]
  have packetBytes : (data.drop 5).take
      (5 + spacePacketHeaderSize + (f.packet.payload.length - 1) + 1 - 5) = f.packet.encode := by
    rw [fromPacket, List.take_left' (by rw [spacePacketHeaderSize]; omega)]
  have crc : crc16Ccitt (data.take (data.length - 2)) =
      fromBytesBE (data.drop (data.length - 2)) := by
    have crcLt := crc16Ccitt_lt body
    rw [length, written, List.take_left' bodyLength, List.drop_left' bodyLength,
      fromBytesBE_toBytesBE (by omega)]
  unfold decode
  simp only
  rw [if_neg (by rw [length, headerSize]; omega), if_neg (not_not.mpr crc), octet0,
    if_neg (not_not.mpr version), if_neg (not_or.mpr ⟨bypass, not_not.mpr control⟩),
    if_neg (not_not.mpr reserved), octet2, octet3, thirdLow, frameLength,
    if_neg (by rw [length]; omega), lengthField, packetBytes, f.packet.decode_encode, first, octet1,
    spacecraft, third, octet4]
  rfl

/-! ## Where the packet ends -/

/-- The packet length field ends the packet before the FECF.  The decoder does
not compare the two length fields. -/
def PacketInDataField (data : Bytes) : Prop :=
  12 + fromBytesBE ((data.drop 9).take 2) ≤ data.length - 2

instance (data : Bytes) : Decidable (PacketInDataField data) :=
  inferInstanceAs (Decidable (_ ≤ _))

/-- The bytes between the header and the FECF. -/
def dataField (data : Bytes) : Bytes := (data.take (data.length - 2)).drop headerSize

/-- The slice the decoder reads the packet from. -/
theorem packet_of_decode {data : Bytes} {f : TcTypeBdFrame} (accepted : decode data = .ok f) :
    7 ≤ data.length ∧
      f.packet.encode = (data.drop 5).take (7 + fromBytesBE ((data.drop 9).take 2)) ∧
      f.packet.encode.length = 7 + fromBytesBE ((data.drop 9).take 2) := by
  unfold decode at accepted
  simp only at accepted
  split at accepted
  · cases accepted
  rename_i long
  split at accepted
  · cases accepted
  split at accepted
  · cases accepted
  split at accepted
  · cases accepted
  split at accepted
  · cases accepted
  split at accepted
  · cases accepted
  rw [headerSize] at long
  generalize lengthField : fromBytesBE ((data.drop 9).take 2) = count at accepted
  rw [show 5 + spacePacketHeaderSize + count + 1 - 5 = 7 + count by
    rw [spacePacketHeaderSize]; omega] at accepted
  cases read : SpacePacket.decode ((data.drop 5).take (7 + count)) with
  | error failure =>
      rw [read] at accepted
      cases accepted
  | ok packet =>
      rw [read] at accepted
      cases accepted
      have slice := SpacePacket.encode_decode read
      have positive : 0 < packet.payload.length := List.length_pos_iff.mpr packet.payload_ne_nil
      have field : ((packet.encode.drop 4).take 2) = (data.drop 9).take 2 := by
        rw [slice, List.drop_take, List.drop_drop, List.take_take,
          Nat.min_eq_left (show 2 ≤ 7 + count - 4 by omega)]
      have payloadLength := packet.lengthField
      rw [field, lengthField] at payloadLength
      refine ⟨by omega, slice, ?_⟩
      rw [packet.length_encode]
      omega

/-- **Where the packet of an accepted frame lies.**  It is within the data field
exactly when its length field ends it there; otherwise it runs into the FECF. -/
theorem packet_mem_dataField_iff {data : Bytes} {f : TcTypeBdFrame}
    (accepted : decode data = .ok f) :
    f.packet.encode <+: dataField data ↔ PacketInDataField data := by
  obtain ⟨long, slice, length⟩ := packet_of_decode accepted
  have fieldLength : (dataField data).length = data.length - 2 - 5 := by
    rw [dataField, List.length_drop, List.length_take, headerSize]
    omega
  unfold PacketInDataField
  constructor
  · intro within
    have bound := within.length_le
    rw [length, fieldLength] at bound
    omega
  · intro ends
    have within : f.packet.encode =
        (dataField data).take (7 + fromBytesBE ((data.drop 9).take 2)) := by
      rw [slice, dataField, headerSize, List.drop_take, List.take_take, Nat.min_eq_left (by omega)]
    rw [within]
    exact List.take_prefix _ _

end TcTypeBdFrame

/-- **TC frames.**  What the encoder writes is read back, and the packet of an
accepted frame lies before the FECF exactly when its own length field ends it
there. -/
theorem tcFrame_roundTrip_and_containment (f : TcTypeBdFrame) (data : Bytes) :
    (∀ frameSize? : Option ℕ, f.encode frameSize? = .ok data →
      TcTypeBdFrame.decode data = .ok f) ∧
    (TcTypeBdFrame.decode data = .ok f →
      (f.packet.encode <+: TcTypeBdFrame.dataField data ↔
        TcTypeBdFrame.PacketInDataField data)) :=
  ⟨fun _ => TcTypeBdFrame.decode_encode, TcTypeBdFrame.packet_mem_dataField_iff⟩

/-! ## A packet that runs into the FECF -/

/-- Eleven bytes whose packet claims two bytes of payload. -/
def shortBody : Bytes :=
  [0x20, 0x44, 0x00, 0x0C, 0x00, 0x10, 0x00, 0xC0, 0x00, 0x00, 0x01]

/-- The same bytes with their FECF. -/
def shortFrame : Bytes := shortBody ++ toBytesBE 2 (crc16Ccitt shortBody)

/-- The frame the decoder reads from it: its payload is the FECF. -/
def shortFrameRead : TcTypeBdFrame where
  spacecraftId := 68
  virtualChannelId := 0
  sequenceNumber := 0
  packet := (SpacePacket.new 0 0 (toBytesBE 2 (crc16Ccitt shortBody)) 1 false 3).toOption.get
    (by decide)

/-- The decoder accepts a frame whose packet has the FECF as payload. -/
theorem shortFrame_payload_is_fecf :
    TcTypeBdFrame.decode shortFrame = .ok shortFrameRead ∧
      shortFrameRead.packet.payload = shortFrame.drop (shortFrame.length - 2) ∧
      ¬ shortFrameRead.packet.encode <+: TcTypeBdFrame.dataField shortFrame := by
  refine ⟨by decide +kernel, by decide +kernel, ?_⟩
  decide +kernel

/-- A one-byte command in an unpadded frame. -/
def oneByteFrame : TcTypeBdFrame where
  spacecraftId := 68
  virtualChannelId := 1
  sequenceNumber := 7
  packet := (SpacePacket.new 0 5 [0x2A] 1 false 3).toOption.get (by decide)

/-- The bytes of that frame before its FECF. -/
def oneByteBody : Bytes :=
  [0x20, 0x44, 0x04, 0x0D, 0x07, 0x10, 0x00, 0xC0, 0x05, 0x00, 0x00, 0x2A]

theorem tcFrame_roundTrip_and_containment_oneByte :
    TcTypeBdFrame.decode (oneByteBody ++ toBytesBE 2 (crc16Ccitt oneByteBody)) =
        .ok oneByteFrame ∧
      (oneByteFrame.packet.encode <+:
          TcTypeBdFrame.dataField (oneByteBody ++ toBytesBE 2 (crc16Ccitt oneByteBody)) ↔
        TcTypeBdFrame.PacketInDataField
          (oneByteBody ++ toBytesBE 2 (crc16Ccitt oneByteBody))) := by
  have written : oneByteFrame.encode none =
      .ok (oneByteBody ++ toBytesBE 2 (crc16Ccitt oneByteBody)) := by decide +kernel
  obtain ⟨decoded, contained⟩ := tcFrame_roundTrip_and_containment oneByteFrame
    (oneByteBody ++ toBytesBE 2 (crc16Ccitt oneByteBody))
  have read := decoded _ written
  exact ⟨read, contained read⟩

end CubeNano

import CubeNano.Protocol.Bytes
import CubeNano.Protocol.Exceptions

/-!
# File packets

`protocol/file_packet.py`: the START, DATA, END and CANCEL packets of a file
transfer, their 11-byte header, and the CFDP additive checksum.
-/

namespace CubeNano

/-- `MAX_FILE_DATA_PER_FRAME`. -/
def maxFileDataPerFrame : ℕ := 990

/-- `FilePacketType`. -/
inductive FilePacketType
  | start
  | data
  | endOfFile
  | cancel
  deriving DecidableEq, Repr

namespace FilePacketType

/-- The wire value of a packet type. -/
def code : FilePacketType → ℕ
  | start => 1
  | data => 2
  | endOfFile => 3
  | cancel => 4

/-- `FilePacketType(value)`. -/
def ofCode? : ℕ → Option FilePacketType
  | 1 => some start
  | 2 => some data
  | 3 => some endOfFile
  | 4 => some cancel
  | _ => none

/-- The payload bound `__post_init__` enforces: one frame for DATA, U16 otherwise. -/
def maxPayload : FilePacketType → ℕ
  | data => maxFileDataPerFrame
  | _ => 0xFFFF

end FilePacketType

/-- `FilePacket`, with the checks of its constructor. -/
structure FilePacket where
  packetType : FilePacketType
  sequenceIndex : ℕ
  offset : ℕ
  payload : Bytes
  sequenceIndex_le : sequenceIndex ≤ 0xFFFFFFFF
  offset_le : offset ≤ 0xFFFFFFFF
  payload_length_le : payload.length ≤ packetType.maxPayload
  deriving DecidableEq

/-- `FilePacket.__post_init__`. -/
def FilePacket.new (packetType : FilePacketType) (sequenceIndex offset : ℕ) (payload : Bytes) :
    Raises FilePacket :=
  if h1 : sequenceIndex ≤ 0xFFFFFFFF then
    if h2 : offset ≤ 0xFFFFFFFF then
      if h3 : payload.length ≤ packetType.maxPayload then
        .ok ⟨packetType, sequenceIndex, offset, payload, h1, h2, h3⟩
      else if packetType = .data then
        valueError "FilePacket DATA exceeds the 990-byte TM frame boundary"
      else valueError "FilePacket control payload is too large"
    else valueError "FilePacket offset must fit U32"
  else valueError "FilePacket sequenceIndex must fit U32"

/-- `FilePacket.encode`. -/
def FilePacket.encode (p : FilePacket) : Bytes :=
  toBytesBE 1 p.packetType.code ++ toBytesBE 4 p.sequenceIndex ++ toBytesBE 4 p.offset
    ++ toBytesBE 2 p.payload.length ++ p.payload

/-- `FilePacket.decode`. -/
def FilePacket.decode (data : Bytes) : Raises FilePacket :=
  if data.length < 11 then valueError "FilePacket is shorter than its 11-byte header"
  else
    match FilePacketType.ofCode? (fromBytesBE (data.take 1)) with
    | none => valueError "unknown FilePacket type"
    | some packetType =>
        let sequence := fromBytesBE ((data.drop 1).take 4)
        let offset := fromBytesBE ((data.drop 5).take 4)
        let length := fromBytesBE ((data.drop 9).take 2)
        if data.length ≠ 11 + length then valueError "FilePacket payload length mismatch"
        else FilePacket.new packetType sequence offset (data.drop 11)

/-- `encode_file_packet` with the APID 3 descriptor. -/
def encodeFilePacket (p : FilePacket) : Bytes := toBytesBE 2 0x0003 ++ p.encode

/-- `decode_file_packet` with the APID 3 descriptor. -/
def decodeFilePacket (data : Bytes) : Raises FilePacket :=
  if data.length < 2 + 11 then valueError "descriptor/FilePacket payload is too short"
  else if fromBytesBE (data.take 2) ≠ 0x0003 then
    valueError
      s!"unexpected F Prime packet descriptor 0x{hexDigits 4 (fromBytesBE (data.take 2))}"
  else FilePacket.decode (data.drop 2)

/-- The constructor keeps its arguments. -/
theorem FilePacket.new_eq_ok {packetType : FilePacketType} {sequenceIndex offset : ℕ}
    {payload : Bytes} {packet : FilePacket}
    (made : FilePacket.new packetType sequenceIndex offset payload = .ok packet) :
    packet.packetType = packetType ∧ packet.sequenceIndex = sequenceIndex ∧
      packet.offset = offset ∧ packet.payload = payload := by
  unfold FilePacket.new at made
  split at made
  · split at made
    · split at made
      · cases made
        exact ⟨rfl, rfl, rfl, rfl⟩
      · split at made <;> cases made
    · cases made
  · cases made

/-! ## The round trip -/

theorem FilePacketType.ofCode?_code (t : FilePacketType) : ofCode? t.code = some t := by
  cases t <;> rfl

theorem FilePacketType.maxPayload_le (t : FilePacketType) : t.maxPayload ≤ 0xFFFF := by
  cases t <;> decide

theorem FilePacket.length_encode (p : FilePacket) : p.encode.length = 11 + p.payload.length := by
  simp only [FilePacket.encode, List.length_append, length_toBytesBE]

/-- **The round trip of a file packet.** -/
theorem FilePacket.decode_encode (p : FilePacket) : FilePacket.decode p.encode = .ok p := by
  have sequenceLe := p.sequenceIndex_le
  have offsetLe := p.offset_le
  have payloadLe := p.payload_length_le.trans p.packetType.maxPayload_le
  have length := p.length_encode
  have codeLe : p.packetType.code < 256 ^ 1 := by
    cases p.packetType <;> decide
  have shape : p.encode = toBytesBE 1 p.packetType.code ++ (toBytesBE 4 p.sequenceIndex ++
      (toBytesBE 4 p.offset ++ (toBytesBE 2 p.payload.length ++ p.payload))) := by
    simp only [FilePacket.encode, List.append_assoc]
  have part0 : fromBytesBE (p.encode.take 1) = p.packetType.code := by
    rw [shape, List.take_left' (length_toBytesBE 1 _), fromBytesBE_toBytesBE codeLe]
  have part1 : fromBytesBE ((p.encode.drop 1).take 4) = p.sequenceIndex := by
    rw [shape, slice_append (length_toBytesBE 1 _) (length_toBytesBE 4 _),
      fromBytesBE_toBytesBE (by omega)]
  have part5 : fromBytesBE ((p.encode.drop 5).take 4) = p.offset := by
    rw [shape, ← List.append_assoc, slice_append
      (by rw [List.length_append, length_toBytesBE, length_toBytesBE]) (length_toBytesBE 4 _),
      fromBytesBE_toBytesBE (by omega)]
  have part9 : fromBytesBE ((p.encode.drop 9).take 2) = p.payload.length := by
    rw [shape, ← List.append_assoc, ← List.append_assoc, slice_append
      (by simp only [List.length_append, length_toBytesBE]) (length_toBytesBE 2 _),
      fromBytesBE_toBytesBE (by omega)]
  have part11 : p.encode.drop 11 = p.payload := by
    rw [shape, ← List.append_assoc, ← List.append_assoc, ← List.append_assoc]
    exact List.drop_left' (by simp only [List.length_append, length_toBytesBE])
  unfold FilePacket.decode
  rw [if_neg (by omega), part0, FilePacketType.ofCode?_code]
  simp only [part1, part5, part9, part11]
  rw [if_neg (not_not.mpr length)]
  unfold FilePacket.new
  rw [dif_pos sequenceLe, dif_pos offsetLe, dif_pos p.payload_length_le]

theorem decodeFilePacket_encodeFilePacket (p : FilePacket) :
    decodeFilePacket (encodeFilePacket p) = .ok p := by
  have length := p.length_encode
  unfold decodeFilePacket encodeFilePacket
  rw [if_neg (by rw [List.length_append, length_toBytesBE]; omega),
    List.take_left' (length_toBytesBE 2 _), List.drop_left' (length_toBytesBE 2 _),
    fromBytesBE_toBytesBE (by omega), if_neg (not_not.mpr rfl)]
  exact p.decode_encode

end CubeNano

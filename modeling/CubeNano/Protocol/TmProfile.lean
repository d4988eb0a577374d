import CubeNano.Protocol.Ccsds

/-!
# TM frames and the profile

What `TmFrame.decode` reads back from a frame the encoder wrote, and which of
the frames it accepts the encoder writes.  The decoder masks the words of the
primary header and stops after the first packet, so it looks neither at four
flags nor at the bytes behind the packet.

## Main definitions

* `FlagsClear` — the OCF, secondary header, synchronisation and packet order flags
* `IdleRemainder` — the bytes behind the packet are the encoder's idle fill
* `InProfile` — both, for the bytes of a frame

## Main statements

* `TmFrame.decode_encode` — the round trip of a frame
* `TmFrame.encode_decode_iff` — an accepted frame re-encodes to its bytes exactly
  when it is in the profile
-/

namespace CubeNano

/-! ## Space Packets, read and written back -/

theorem SpacePacket.new_eq_ok {apid sequenceCount packetType sequenceFlags : ℕ} {payload : Bytes}
    {flag : Bool} {p : SpacePacket}
    (built : SpacePacket.new apid sequenceCount payload packetType flag sequenceFlags = .ok p) :
    p.apid = apid ∧ p.sequenceCount = sequenceCount ∧ p.payload = payload ∧
      p.packetType = packetType ∧ p.secondaryHeaderPresent = flag ∧
      p.sequenceFlags = sequenceFlags := by
  unfold SpacePacket.new at built
  repeat'
    split at built
  · cases built
    exact ⟨rfl, rfl, rfl, rfl, rfl, rfl⟩
  all_goals cases built

/-- The identification word of its own fields. -/
theorem identification_of_fields {first : ℕ} (version : first >>> 13 = 0) :
    (((first >>> 12) &&& 1) <<< 12) |||
      ((decide ((first >>> 11) &&& 1 ≠ 0)).toNat <<< 11) ||| (first &&& 0x7FF) = first := by
  have low : first &&& 0x7FF = first % 2 ^ 11 := Nat.and_two_pow_sub_one_eq_mod first 11
  have flag : (decide ((first >>> 11) &&& 1 ≠ 0)).toNat = first / 2 ^ 11 % 2 := by
    rw [Nat.and_one_is_mod, Nat.shiftRight_eq_div_pow]
    rcases Nat.mod_two_eq_zero_or_one (first / 2 ^ 11) with zero | one
    · rw [zero]
      rfl
    · rw [one]
      rfl
  rw [low, flag, Nat.and_one_is_mod, Nat.shiftRight_eq_div_pow, Nat.or_assoc,
    shiftLeft_or_eq_add (Nat.mod_lt _ (by decide)), shiftLeft_or_eq_add (by omega)]
  rw [Nat.shiftRight_eq_div_pow] at version
  omega

/-- The sequence control word of its own fields. -/
theorem sequenceControl_of_fields {second : ℕ} (fits : second < 2 ^ 16) :
    (((second >>> 14) &&& 3) <<< 14) ||| (second &&& 0x3FFF) = second := by
  have low : second &&& 0x3FFF = second % 2 ^ 14 := Nat.and_two_pow_sub_one_eq_mod second 14
  have flags : (second >>> 14) &&& 3 = (second >>> 14) % 2 ^ 2 :=
    Nat.and_two_pow_sub_one_eq_mod (second >>> 14) 2
  rw [low, flags, Nat.shiftRight_eq_div_pow, shiftLeft_or_eq_add (Nat.mod_lt _ (by decide))]
  omega

/-- An accepted Space Packet is reproduced. -/
theorem SpacePacket.encode_decode {data : Bytes} {p : SpacePacket}
    (accepted : SpacePacket.decode data = .ok p) : p.encode = data := by
  unfold SpacePacket.decode at accepted
  split at accepted
  · cases accepted
  rename_i long
  simp only at accepted
  split at accepted
  · cases accepted
  rename_i version
  split at accepted
  · cases accepted
  rename_i length
  rw [not_not] at version length
  unfold spacePacketHeaderSize at long length
  obtain ⟨apid, count, payload, packetType, flag, flags⟩ := SpacePacket.new_eq_ok accepted
  have payloadLength : p.payload.length - 1 = fromBytesBE ((data.drop 4).take 2) := by
    rw [payload, List.length_drop]
    omega
  have first := toBytesBE_slice 0 2 (show 0 + 2 ≤ data.length by omega)
  have second := toBytesBE_slice 2 2 (show 2 + 2 ≤ data.length by omega)
  have third := toBytesBE_slice 4 2 (show 4 + 2 ≤ data.length by omega)
  rw [List.drop_zero] at first
  unfold SpacePacket.encode
  simp only
  rw [payloadLength, apid, count, payload, packetType, flag, flags,
    identification_of_fields version, sequenceControl_of_fields (fromBytesBE_slice_lt data 2 2),
    first, second, third, ← List.take_add, ← List.take_add]
  exact List.take_append_drop 6 data

/-- The bytes behind the packet are what the encoder writes there: nothing, or
one idle packet of zero bytes. -/
def IdleRemainder (rest : Bytes) : Prop :=
  rest = [] ∨ 7 ≤ rest.length ∧
    rest = [0x07, 0xFF, 0xC0, 0x00] ++ toBytesBE 2 (rest.length - 7) ++
      List.replicate (rest.length - 6) 0

instance (rest : Bytes) : Decidable (IdleRemainder rest) :=
  inferInstanceAs (Decidable (_ ∨ _ ∧ _))

theorem encodeSpacePacket_idle {remaining : ℕ} (room : 7 ≤ remaining) (fits : remaining ≤ 1016) :
    encodeSpacePacket idleApid (List.replicate (remaining - 6) 0) 0 =
      .ok ([0x07, 0xFF, 0xC0, 0x00] ++ toBytesBE 2 (remaining - 7) ++
        List.replicate (remaining - 6) 0) := by
  unfold encodeSpacePacket SpacePacket.new idleApid
  rw [dif_pos (by omega), dif_pos (by omega), dif_pos (by omega), dif_pos (by omega),
    dif_pos (by rw [← List.length_pos_iff, List.length_replicate]; omega),
    dif_pos (by rw [List.length_replicate]; omega)]
  show Except.ok (SpacePacket.encode _) = _
  unfold SpacePacket.encode
  simp only [List.length_replicate]
  rw [show remaining - 6 - 1 = remaining - 7 from by omega]
  rfl

/-- The encoder's fill for a remainder, read as a property of bytes. -/
theorem idleFill_eq_ok_iff {remaining : ℕ} {rest : Bytes} (fits : remaining ≤ 1016) :
    idleFill remaining = .ok rest ↔ rest.length = remaining ∧ IdleRemainder rest := by
  unfold idleFill spacePacketHeaderSize
  by_cases empty : remaining = 0
  · rw [if_pos empty]
    constructor
    · intro filled
      cases filled
      exact ⟨empty.symm, Or.inl rfl⟩
    · rintro ⟨length, -⟩
      rw [List.length_eq_zero_iff.mp (length.trans empty)]
  by_cases room : remaining ≥ 7
  · rw [if_neg empty, if_pos room, encodeSpacePacket_idle room fits]
    constructor
    · intro filled
      cases filled
      have length : ([0x07, 0xFF, 0xC0, 0x00] ++ toBytesBE 2 (remaining - 7) ++
          List.replicate (remaining - 6) (0 : UInt8)).length = remaining := by
        simp only [List.length_append, length_toBytesBE, List.length_replicate, List.length_cons,
          List.length_nil]
        omega
      refine ⟨length, Or.inr ?_⟩
      rw [length]
      exact ⟨room, rfl⟩
    · rintro ⟨length, nothing | ⟨-, shape⟩⟩
      · rw [nothing] at length
        exact absurd length.symm empty
      · rw [length] at shape
        rw [← shape]
  · rw [if_neg empty, if_neg room]
    constructor
    · intro filled
      cases filled
    · rintro ⟨length, nothing | ⟨long, -⟩⟩
      · rw [nothing] at length
        exact absurd length.symm empty
      · omega

/-! ## The primary header -/

/-- The primary header of a frame, the four flags of the profile clear. -/
def TmFrame.header (f : TmFrame) : Bytes :=
  toBytesBE 2 ((f.spacecraftId <<< 4) ||| (f.virtualChannelId <<< 1))
    ++ [UInt8.ofNat f.masterChannelCount] ++ [UInt8.ofNat f.virtualChannelCount]
    ++ toBytesBE 2 (f.segmentLengthId <<< 11)

theorem TmFrame.length_header (f : TmFrame) : f.header.length = 6 := by
  simp only [TmFrame.header, List.length_append, length_toBytesBE, List.length_singleton]

/-- What the encoder writes, and when. -/
theorem TmFrame.encode_eq_ok_iff {f : TmFrame} {data : Bytes} :
    f.encode = .ok data ↔ f.packet.encode.length ≤ 1016 ∧ ∃ filler,
      idleFill (1016 - f.packet.encode.length) = .ok filler ∧
        data = f.header ++ f.packet.encode ++ filler ++
          toBytesBE 2 (crc16Ccitt (f.header ++ f.packet.encode ++ filler)) := by
  unfold TmFrame.encode
  change (if f.packet.encode.length > 1016 then _ else _) = _ ↔ _
  by_cases fits : f.packet.encode.length > 1016
  · rw [if_pos fits]
    constructor
    · intro encoded
      cases encoded
    · rintro ⟨small, -⟩
      omega
  · rw [if_neg fits, bind_eq_ok_iff]
    constructor
    · rintro ⟨filler, filled, written⟩
      exact ⟨by omega, filler, filled, (Except.ok.inj written).symm⟩
    · rintro ⟨-, filler, filled, written⟩
      refine ⟨filler, filled, ?_⟩
      rw [written]
      rfl

/-- The fields of the identification word of a frame. -/
theorem frameIdentification_fields {spacecraft channel : ℕ} (spacecraftLe : spacecraft ≤ 0x3FF)
    (channelLe : channel ≤ 7) {first : ℕ}
    (word : (spacecraft <<< 4) ||| (channel <<< 1) = first) :
    first < 2 ^ 16 ∧ first >>> 14 = 0 ∧ (first >>> 4) &&& 0x3FF = spacecraft ∧
      (first >>> 1) &&& 7 = channel := by
  have sum : first = spacecraft * 16 + channel * 2 := by
    rw [← word, Nat.shiftLeft_eq channel, shiftLeft_or_eq_add (by omega)]
    omega
  refine ⟨by omega, ?_, ?_, ?_⟩
  · rw [Nat.shiftRight_eq_div_pow]
    omega
  · rw [show (0x3FF : ℕ) = 2 ^ 10 - 1 from rfl, Nat.and_two_pow_sub_one_eq_mod,
      Nat.shiftRight_eq_div_pow]
    omega
  · rw [show (7 : ℕ) = 2 ^ 3 - 1 from rfl, Nat.and_two_pow_sub_one_eq_mod,
      Nat.shiftRight_eq_div_pow]
    omega

theorem TmFrame.new_eq_ok {spacecraft channel master virtual segment : ℕ} {packet : SpacePacket}
    {f : TmFrame}
    (built : TmFrame.new spacecraft channel master virtual packet segment = .ok f) :
    f.spacecraftId = spacecraft ∧ f.virtualChannelId = channel ∧ f.masterChannelCount = master ∧
      f.virtualChannelCount = virtual ∧ f.packet = packet ∧ f.segmentLengthId = segment := by
  unfold TmFrame.new at built
  repeat'
    split at built
  · cases built
    exact ⟨rfl, rfl, rfl, rfl, rfl, rfl⟩
  all_goals cases built

/-- What an accepted frame looks like. -/
structure TmFrame.Accepted (data : Bytes) (f : TmFrame) : Prop where
  length : data.length = 1024
  crc : crc16Ccitt (data.take 1022) = fromBytesBE (data.drop 1022)
  version : fromBytesBE (data.take 2) >>> 14 = 0
  pointer : fromBytesBE ((data.drop 4).take 2) &&& 0x7FF = 0
  packetEnd_le : 13 + fromBytesBE ((data.drop 10).take 2) ≤ 1022
  packet : SpacePacket.decode
    ((data.drop 6).take (13 + fromBytesBE ((data.drop 10).take 2) - 6)) = .ok f.packet
  spacecraftId : f.spacecraftId = (fromBytesBE (data.take 2) >>> 4) &&& 0x3FF
  virtualChannelId : f.virtualChannelId = (fromBytesBE (data.take 2) >>> 1) &&& 7
  masterChannelCount : f.masterChannelCount = fromBytesBE ((data.drop 2).take 1)
  virtualChannelCount : f.virtualChannelCount = fromBytesBE ((data.drop 3).take 1)
  segmentLengthId : f.segmentLengthId = (fromBytesBE ((data.drop 4).take 2) >>> 11) &&& 3

theorem TmFrame.accepted_of_decode {data : Bytes} {f : TmFrame}
    (accepted : TmFrame.decode data = .ok f) : TmFrame.Accepted data f := by
  unfold TmFrame.decode at accepted
  split at accepted
  · cases accepted
  rename_i length
  simp only at accepted
  split at accepted
  · cases accepted
  rename_i crc
  split at accepted
  · cases accepted
  rename_i version
  split at accepted
  · cases accepted
  rename_i pointer
  split at accepted
  · cases accepted
  rename_i inside
  obtain ⟨packet, decoded, built⟩ := bind_eq_ok_iff.mp accepted
  obtain ⟨spacecraft, channel, master, virtual, carried, segment⟩ := TmFrame.new_eq_ok built
  rw [not_not] at length crc version pointer
  have endsAt : 6 + spacePacketHeaderSize + fromBytesBE ((data.drop 10).take 2) + 1 =
      13 + fromBytesBE ((data.drop 10).take 2) := by
    rw [spacePacketHeaderSize]
    omega
  rw [endsAt] at inside decoded
  exact ⟨length, crc, version, pointer, Nat.not_lt.mp inside, by rw [carried]; exact decoded,
    spacecraft, channel, master, virtual, segment⟩

theorem TmFrame.decode_of_accepted {data : Bytes} {f : TmFrame}
    (a : TmFrame.Accepted data f) : TmFrame.decode data = .ok f := by
  have endsAt : 6 + spacePacketHeaderSize + fromBytesBE ((data.drop 10).take 2) + 1 =
      13 + fromBytesBE ((data.drop 10).take 2) := by
    rw [spacePacketHeaderSize]
    omega
  have length : data.length = tmFrameSize := a.length
  have crc : crc16Ccitt (data.take (tmFrameSize - 2)) =
      fromBytesBE (data.drop (tmFrameSize - 2)) := a.crc
  have inside : ¬ 13 + fromBytesBE ((data.drop 10).take 2) > tmFrameSize - 2 :=
    Nat.not_lt.mpr a.packetEnd_le
  unfold TmFrame.decode
  simp only
  rw [if_neg (not_not.mpr length), if_neg (not_not.mpr crc), if_neg (not_not.mpr a.version),
    if_neg (not_not.mpr a.pointer), endsAt, if_neg inside]
  refine bind_eq_ok_iff.mpr ⟨f.packet, a.packet, ?_⟩
  rw [← a.spacecraftId, ← a.virtualChannelId, ← a.masterChannelCount, ← a.virtualChannelCount,
    ← a.segmentLengthId]
  unfold TmFrame.new
  rw [dif_pos f.spacecraftId_le, dif_pos f.virtualChannelId_le, dif_pos f.masterChannelCount_le,
    dif_pos f.virtualChannelCount_le, dif_pos f.segmentLengthId_le]

/-! ## The round trip of a frame -/

theorem crcShift_lt (crc : ℕ) : crcShift crc < 2 ^ 16 := by
  unfold crcShift
  rw [show (0xFFFF : ℕ) = 2 ^ 16 - 1 from rfl, Nat.and_two_pow_sub_one_eq_mod,
    Nat.and_two_pow_sub_one_eq_mod]
  split
  · exact Nat.mod_lt _ (by decide)
  · exact Nat.mod_lt _ (by decide)

theorem crc16Ccitt_lt (data : Bytes) : crc16Ccitt data < 2 ^ 16 := by
  unfold crc16Ccitt
  rw [foldRegister_eq_foldl]
  induction data using List.reverseRecOn with
  | nil => decide
  | append_singleton data byte ih =>
      rw [List.foldl_append]
      exact crcShift_lt _

/-- The packet length field, read inside a frame. -/
theorem SpacePacket.lengthField (p : SpacePacket) :
    fromBytesBE ((p.encode.drop 4).take 2) = p.payload.length - 1 := by
  have payloadLe := p.payload_length_le
  have skipped : (toBytesBE 2 ((p.packetType <<< 12) ||| (p.secondaryHeaderPresent.toNat <<< 11) |||
      p.apid) ++ toBytesBE 2 ((p.sequenceFlags <<< 14) ||| p.sequenceCount)).length = 4 := by
    rw [List.length_append, length_toBytesBE, length_toBytesBE]
  unfold SpacePacket.encode
  simp only
  rw [List.append_assoc, List.drop_left' skipped, List.take_left' (length_toBytesBE 2 _)]
  exact fromBytesBE_toBytesBE (by omega)

/-- **The round trip of a frame.**  Every frame the encoder writes is accepted
and read back. -/
theorem TmFrame.decode_encode {f : TmFrame} {data : Bytes} (encoded : f.encode = .ok data) :
    TmFrame.decode data = .ok f := by
  obtain ⟨fits, filler, filled, written⟩ := TmFrame.encode_eq_ok_iff.mp encoded
  obtain ⟨fillLength, -⟩ := (idleFill_eq_ok_iff (Nat.sub_le _ _)).mp filled
  generalize bodyEq : f.header ++ f.packet.encode ++ filler = body at written
  have packetLength := f.packet.length_encode
  have payloadPos : 0 < f.packet.payload.length := List.length_pos_iff.mpr f.packet.payload_ne_nil
  have bodyLength : body.length = 1022 := by
    rw [← bodyEq, List.length_append, List.length_append, f.length_header, fillLength]
    omega
  generalize firstEq : (f.spacecraftId <<< 4) ||| (f.virtualChannelId <<< 1) = first
  have header : f.header = toBytesBE 2 first ++ ([UInt8.ofNat f.masterChannelCount] ++
      ([UInt8.ofNat f.virtualChannelCount] ++ toBytesBE 2 (f.segmentLengthId <<< 11))) := by
    rw [← firstEq, ← List.append_assoc, ← List.append_assoc]
    rfl
  obtain ⟨firstLt, version, spacecraft, channel⟩ := frameIdentification_fields f.spacecraftId_le
    f.virtualChannelId_le firstEq
  have tail : data = f.header ++ (f.packet.encode ++ (filler ++ toBytesBE 2 (crc16Ccitt body))) := by
    rw [written, ← bodyEq, List.append_assoc, List.append_assoc, List.append_assoc]
  have shape : data = toBytesBE 2 first ++ ([UInt8.ofNat f.masterChannelCount] ++
      ([UInt8.ofNat f.virtualChannelCount] ++ (toBytesBE 2 (f.segmentLengthId <<< 11) ++
        (f.packet.encode ++ (filler ++ toBytesBE 2 (crc16Ccitt body)))))) := by
    rw [tail, header]
    simp only [List.append_assoc]
  have byte : ∀ n, n ≤ 0xFF → fromBytesBE [UInt8.ofNat n] = n := by
    intro n small
    have fits : n < 256 ^ 1 := by omega
    exact fromBytesBE_toBytesBE fits
  have part0 : fromBytesBE (data.take 2) = first := by
    rw [shape, List.take_left' (length_toBytesBE 2 first)]
    exact fromBytesBE_toBytesBE (by omega)
  have part2 : fromBytesBE ((data.drop 2).take 1) = f.masterChannelCount := by
    rw [shape, slice_append (length_toBytesBE 2 first) (List.length_singleton ..)]
    exact byte _ f.masterChannelCount_le
  have part3 : fromBytesBE ((data.drop 3).take 1) = f.virtualChannelCount := by
    rw [shape, ← List.append_assoc, slice_append
      (by rw [List.length_append, length_toBytesBE, List.length_singleton])
      (List.length_singleton ..)]
    exact byte _ f.virtualChannelCount_le
  have segmentLe := f.segmentLengthId_le
  have part4 : fromBytesBE ((data.drop 4).take 2) = f.segmentLengthId * 2 ^ 11 := by
    rw [shape, ← List.append_assoc, ← List.append_assoc, slice_append
      (by simp only [List.length_append, length_toBytesBE, List.length_singleton])
      (length_toBytesBE 2 _), fromBytesBE_toBytesBE (by rw [Nat.shiftLeft_eq]; omega),
      Nat.shiftLeft_eq]
  have fromPacket : data.drop 6 =
      f.packet.encode ++ (filler ++ toBytesBE 2 (crc16Ccitt body)) := by
    rw [tail, List.drop_left' f.length_header]
  have part10 : fromBytesBE ((data.drop 10).take 2) = f.packet.payload.length - 1 := by
    rw [← f.packet.lengthField, show data.drop 10 = (data.drop 6).drop 4 by
      rw [List.drop_drop], fromPacket, List.drop_append_of_le_length (by omega),
      List.take_append_of_le_length (by rw [List.length_drop]; omega)]
  have endsAt : 13 + (f.packet.payload.length - 1) - 6 = f.packet.encode.length := by
    omega
  have framed : data = body ++ toBytesBE 2 (crc16Ccitt body) := written
  have crcLt := crc16Ccitt_lt body
  refine TmFrame.decode_of_accepted ⟨?_, ?_, ?_, ?_, ?_, ?_, ?_, ?_, ?_, ?_, ?_⟩
  · rw [framed, List.length_append, bodyLength, length_toBytesBE]
  · rw [framed, List.take_left' bodyLength, List.drop_left' bodyLength]
    exact (fromBytesBE_toBytesBE (by omega)).symm
  · rw [part0]
    exact version
  · rw [part4, show (0x7FF : ℕ) = 2 ^ 11 - 1 from rfl, Nat.and_two_pow_sub_one_eq_mod,
      Nat.mul_mod_left]
  · rw [part10]
    omega
  · rw [part10, endsAt, fromPacket, List.take_left' rfl]
    exact f.packet.decode_encode
  · rw [part0, spacecraft]
  · rw [part0, channel]
  · exact part2.symm
  · exact part3.symm
  · rw [part4, show (3 : ℕ) = 2 ^ 2 - 1 from rfl, Nat.and_two_pow_sub_one_eq_mod,
      Nat.shiftRight_eq_div_pow]
    omega

/-! ## Accepted frames, written back -/

/-- The flags a frame of the profile leaves clear: the OCF flag of the first
word; secondary header, synchronisation and packet order of the third. -/
def FlagsClear (data : Bytes) : Prop :=
  fromBytesBE (data.take 2) &&& 1 = 0 ∧
    (fromBytesBE ((data.drop 4).take 2) >>> 15) &&& 1 = 0 ∧
    (fromBytesBE ((data.drop 4).take 2) >>> 14) &&& 1 = 0 ∧
    (fromBytesBE ((data.drop 4).take 2) >>> 13) &&& 1 = 0

/-- The bytes between the first packet and the FECF. -/
def frameRemainder (data : Bytes) : Bytes :=
  (data.take 1022).drop (13 + fromBytesBE ((data.drop 10).take 2))

/-- The parts of a frame that the decoder does not look at are as the encoder
writes them. -/
def InProfile (data : Bytes) : Prop := FlagsClear data ∧ IdleRemainder (frameRemainder data)

instance (data : Bytes) : Decidable (InProfile data) :=
  inferInstanceAs (Decidable ((_ ∧ _ ∧ _ ∧ _) ∧ _))

/-- The identification word with the OCF flag cleared. -/
theorem frameIdentification_of_fields {first : ℕ} (version : first >>> 14 = 0) :
    (((first >>> 4) &&& 0x3FF) <<< 4) ||| (((first >>> 1) &&& 7) <<< 1) = first - first % 2 := by
  have high : (first >>> 4) &&& 0x3FF = (first >>> 4) % 2 ^ 10 :=
    Nat.and_two_pow_sub_one_eq_mod (first >>> 4) 10
  have low : (first >>> 1) &&& 7 = (first >>> 1) % 2 ^ 3 :=
    Nat.and_two_pow_sub_one_eq_mod (first >>> 1) 3
  rw [high, low, Nat.shiftRight_eq_div_pow, Nat.shiftRight_eq_div_pow, Nat.shiftLeft_eq (_ % 2 ^ 3),
    shiftLeft_or_eq_add (by omega)]
  rw [Nat.shiftRight_eq_div_pow] at version
  omega

/-- The pointer word with the three flags above the segment length cleared. -/
theorem framePointer_of_fields {pointer : ℕ} (zero : pointer &&& 0x7FF = 0) :
    ((pointer >>> 11) &&& 3) <<< 11 = pointer % 2 ^ 13 := by
  have low : pointer &&& 0x7FF = pointer % 2 ^ 11 := Nat.and_two_pow_sub_one_eq_mod pointer 11
  have segment : (pointer >>> 11) &&& 3 = (pointer >>> 11) % 2 ^ 2 :=
    Nat.and_two_pow_sub_one_eq_mod (pointer >>> 11) 2
  rw [low] at zero
  rw [segment, Nat.shiftRight_eq_div_pow, Nat.shiftLeft_eq]
  omega

namespace TmFrame.Accepted

variable {data : Bytes} {f : TmFrame}

/-- The parts of an accepted frame. -/
theorem parts (a : TmFrame.Accepted data f) :
    data.take 1022 = data.take 6 ++ f.packet.encode ++ frameRemainder data := by
  have packetEnd := a.packetEnd_le
  have header : 6 ≤ 13 + fromBytesBE ((data.drop 10).take 2) := by omega
  rw [SpacePacket.encode_decode a.packet, ← List.take_add, frameRemainder,
    Nat.add_sub_cancel' header]
  generalize 13 + fromBytesBE ((data.drop 10).take 2) = packetEnd' at packetEnd
  have shorter : data.take packetEnd' = (data.take 1022).take packetEnd' := by
    rw [List.take_take, Nat.min_eq_left packetEnd]
  rw [shorter]
  exact (List.take_append_drop packetEnd' _).symm

theorem length_remainder (a : TmFrame.Accepted data f) :
    f.packet.encode.length ≤ 1016 ∧
      (frameRemainder data).length = 1016 - f.packet.encode.length := by
  have whole := congrArg List.length a.parts
  rw [List.length_append, List.length_append, List.length_take, List.length_take, a.length] at whole
  omega

/-- The header is reproduced exactly when its flags are clear. -/
theorem header_eq_iff (a : TmFrame.Accepted data f) :
    f.header = data.take 6 ↔ FlagsClear data := by
  have length := a.length
  have first := toBytesBE_slice 0 2 (show 0 + 2 ≤ data.length by omega)
  have master := toBytesBE_slice 2 1 (show 2 + 1 ≤ data.length by omega)
  have virtual := toBytesBE_slice 3 1 (show 3 + 1 ≤ data.length by omega)
  have pointer := toBytesBE_slice 4 2 (show 4 + 2 ≤ data.length by omega)
  have firstLt := fromBytesBE_slice_lt data 0 2
  have pointerLt := fromBytesBE_slice_lt data 4 2
  have version := a.version
  have zero := a.pointer
  rw [List.drop_zero] at first firstLt
  have read : data.take 6 = toBytesBE 2 (fromBytesBE (data.take 2)) ++
      [UInt8.ofNat (fromBytesBE ((data.drop 2).take 1))] ++
      [UInt8.ofNat (fromBytesBE ((data.drop 3).take 1))] ++
      toBytesBE 2 (fromBytesBE ((data.drop 4).take 2)) := by
    have two : [UInt8.ofNat (fromBytesBE ((data.drop 2).take 1))] = (data.drop 2).take 1 := master
    have three : [UInt8.ofNat (fromBytesBE ((data.drop 3).take 1))] = (data.drop 3).take 1 := virtual
    rw [first, two, three, pointer, ← List.take_add, ← List.take_add, ← List.take_add]
  have written : f.header = toBytesBE 2 (fromBytesBE (data.take 2) - fromBytesBE (data.take 2) % 2)
      ++ [UInt8.ofNat (fromBytesBE ((data.drop 2).take 1))] ++
      [UInt8.ofNat (fromBytesBE ((data.drop 3).take 1))] ++
      toBytesBE 2 (fromBytesBE ((data.drop 4).take 2) % 2 ^ 13) := by
    rw [TmFrame.header, a.spacecraftId, a.virtualChannelId, a.masterChannelCount,
      a.virtualChannelCount, a.segmentLengthId, frameIdentification_of_fields version,
      framePointer_of_fields zero]
  rw [written, read, FlagsClear]
  generalize fromBytesBE (data.take 2) = first at firstLt
  generalize fromBytesBE ((data.drop 4).take 2) = pointer at pointerLt
  rw [Nat.and_one_is_mod, Nat.and_one_is_mod, Nat.and_one_is_mod, Nat.and_one_is_mod,
    Nat.shiftRight_eq_div_pow, Nat.shiftRight_eq_div_pow, Nat.shiftRight_eq_div_pow]
  constructor
  · intro same
    obtain ⟨front, samePointer⟩ := List.append_inj' same
      ((length_toBytesBE 2 _).trans (length_toBytesBE 2 _).symm)
    obtain ⟨front, -⟩ := List.append_inj' front rfl
    obtain ⟨sameFirst, -⟩ := List.append_inj' front rfl
    have firstEq := toBytesBE_injective (by omega) firstLt sameFirst
    have pointerEq := toBytesBE_injective (by omega) pointerLt samePointer
    omega
  · rintro ⟨ocf, secondary, synchronisation, order⟩
    rw [ocf, Nat.sub_zero, Nat.mod_eq_of_lt (show pointer < 2 ^ 13 by omega)]

end TmFrame.Accepted

/-- **Re-encoding an accepted frame.**  It gives the same bytes exactly when
the flags are clear and the remainder is the encoder's idle fill. -/
theorem TmFrame.encode_decode_iff {data : Bytes} {f : TmFrame}
    (accepted : TmFrame.decode data = .ok f) : f.encode = .ok data ↔ InProfile data := by
  have a := TmFrame.accepted_of_decode accepted
  obtain ⟨fits, length⟩ := a.length_remainder
  have parts := a.parts
  have whole := List.take_append_drop 1022 data
  rw [TmFrame.encode_eq_ok_iff, InProfile, ← a.header_eq_iff]
  constructor
  · rintro ⟨-, filler, filled, written⟩
    obtain ⟨fillLength, idle⟩ := (idleFill_eq_ok_iff (Nat.sub_le _ _)).mp filled
    have headLength : (f.header ++ f.packet.encode ++ filler).length = 1022 := by
      rw [List.length_append, List.length_append, f.length_header, fillLength]
      omega
    have body : data.take 1022 = f.header ++ f.packet.encode ++ filler := by
      rw [written, List.take_left' headLength]
    rw [parts] at body
    have lengths : (data.take 6).length = f.header.length := by
      rw [f.length_header, List.length_take, a.length]
      rfl
    obtain ⟨front, rest⟩ := List.append_inj' body (length.trans fillLength.symm)
    obtain ⟨header, -⟩ := List.append_inj front lengths
    rw [rest]
    exact ⟨header.symm, idle⟩
  · rintro ⟨header, idle⟩
    refine ⟨fits, frameRemainder data,
      (idleFill_eq_ok_iff (Nat.sub_le _ _)).mpr ⟨length, idle⟩, ?_⟩
    have crcBytes : toBytesBE 2 (fromBytesBE (data.drop 1022)) = data.drop 1022 := by
      have two : (data.drop 1022).length = 2 := by
        rw [List.length_drop, a.length]
      have written := toBytesBE_fromBytesBE (data.drop 1022)
      rwa [two] at written
    rw [header, ← parts, a.crc, crcBytes, whole]

/-! ## A frame with the OCF flag set -/

/-- A one-byte packet of APID 1 and its idle fill, in a frame of spacecraft 68
whose OCF flag is set. -/
def ocfBody : Bytes :=
  [0x04, 0x41, 0x00, 0x00, 0x18, 0x00] ++ [0x00, 0x01, 0xC0, 0x00, 0x00, 0x00, 0x2A] ++
    [0x07, 0xFF, 0xC0, 0x00, 0x03, 0xEA] ++ List.replicate 1003 0

/-- The same body with its FECF. -/
def ocfFrame : Bytes := ocfBody ++ toBytesBE 2 (crc16Ccitt ocfBody)

/-- The frame the decoder reads from it. -/
def ocfFrameRead : TmFrame :=
  (TmFrame.new 68 0 0 0 ((SpacePacket.new 1 0 [0x2A] 0 false 3).toOption.get (by decide))
    3).toOption.get (by decide)

/-- The decoder accepts a frame with the OCF flag set, and drops the flag. -/
theorem ocfFrame_not_reproduced :
    TmFrame.decode ocfFrame = .ok ocfFrameRead ∧ ocfFrameRead.encode ≠ .ok ocfFrame := by
  constructor
  · decide +kernel
  · decide +kernel

theorem encode_decode_iff_ocfFrame :
    ocfFrameRead.encode = .ok ocfFrame ↔ InProfile ocfFrame :=
  TmFrame.encode_decode_iff (by decide +kernel)

end CubeNano

import CubeNano.Gds.Tm
import CubeNano.Protocol.Json
import CubeNano.Protocol.Messages
import CubeNano.Protocol.TmProfile
import Mathlib.Data.List.Infix

/-!
# The ground TM decoder

`TMDecoder` of `gds/tm.py`: from a validated transport envelope to a decoded
packet of the pinned profile.  A telemetry or event payload is CBOR, or JSON as
a fixture encoding; either must be in its canonical form.

## Main definitions

* `TmDecoder.decode`, `decodeMessage`

## Main statements

* `tmDecoder_returns_what_was_sent` — a packet sent through the four layers is
  decoded to its APID, descriptor, counters and content
-/

namespace CubeNano

/-- `TMDecoder`: the spacecraft of the profile, and the identity the envelope must have. -/
structure TmDecoder where
  spacecraftId : ℕ
  expectedInstanceId : Option U64
  expectedBootId : Option U32
  expectedSessionId : Option U64
  expectedLinkGeneration : Option U64
  spacecraftId_le : spacecraftId ≤ 0x3FF

/-- Whether a value differs from the one expected, where one is. -/
def unexpected {α : Type} [DecidableEq α] (expected : Option α) (value : α) : Bool :=
  expected.any fun v => value ≠ v

/-- The JSON half of `_decode_message`. -/
def decodeJsonMessage (payload : Bytes) : Raises PyValue :=
  match (do jsonLoads (← utf8Decode payload)) with
  | .error ⟨.unicodeDecodeError, _⟩ =>
      tmDecodeError "INVALID_APPLICATION_PAYLOAD" "TM payload is not canonical JSON"
  | .error ⟨.jsonDecodeError, _⟩ =>
      tmDecodeError "INVALID_APPLICATION_PAYLOAD" "TM payload is not canonical JSON"
  | .error failure => .error failure
  | .ok (.dict entries) => do
      let canonical ← canonicalJson (.dict entries)
      if canonical ≠ payload then
        tmDecodeError "NON_CANONICAL_APPLICATION_PAYLOAD" "TM payload is not canonical JSON"
      else .ok (.dict entries)
  | .ok _ => tmDecodeError "INVALID_APPLICATION_PAYLOAD" "TM payload must be a JSON object"

/-- `_decode_message`. -/
def decodeMessage (payload : Bytes) : Raises PyValue :=
  match (do
    let parsed ← decodeApplicationMessage payload
    let encoded ← cborEncode parsed.body
    .ok (parsed, encoded)) with
  | .ok (parsed, encoded) =>
      if encoded ≠ payload.drop 2 then
        tmDecodeError "NON_CANONICAL_APPLICATION_PAYLOAD" "TM CBOR payload is not deterministic"
      else .ok parsed.body
  | .error failure =>
      if failure.kind.isTypeOrValueError then decodeJsonMessage (payload.drop 2)
      else .error failure

namespace TmDecoder

/-- `TMDecoder.DESCRIPTORS` and `TMDecoder.KINDS`. -/
def profile : ℕ → Option (ℕ × TmPacketKind)
  | 1 => some (0x0001, .telemetry)
  | 2 => some (0x0002, .eventAck)
  | 3 => some (0x0003, .file)
  | _ => none

/-- The error for a frame that `decode_tm_frame` refused. -/
def frameFailure (failure : PyException) : PyException :=
  if failure.kind.isTypeOrValueError then
    if "CRC".toList <:+: failure.message.toList then
      ⟨.tmDecodeError "CRC_INVALID", failure.message⟩
    else ⟨.tmDecodeError "INVALID_TM_FRAME", failure.message⟩
  else failure

/-- The content of a packet, by its kind. -/
def content (kind : TmPacketKind) (payload : Bytes) : Raises (Option PyValue × Option FilePacket) :=
  match kind with
  | .file =>
      match decodeFilePacket payload with
      | .ok filePacket => .ok (none, some filePacket)
      | .error failure =>
          if failure.kind.isTypeOrValueError then
            tmDecodeError "INVALID_FILE_PACKET" failure.message
          else .error failure
  | _ => do
      let message ← decodeMessage payload
      .ok (some message, none)

/-- `TMDecoder.decode`. -/
def decode (d : TmDecoder) (envelope : ValidatedTransportEnvelope) : Raises DecodedTmPacket :=
  if unexpected d.expectedInstanceId envelope.sourceSpacecraftInstanceId then
    tmDecodeError "SOURCE_INSTANCE_MISMATCH" "TM source instance does not match binding snapshot"
  else if unexpected d.expectedBootId envelope.senderBootId then
    tmDecodeError "SOURCE_BOOT_MISMATCH" "TM sender boot does not match binding snapshot"
  else if unexpected d.expectedSessionId envelope.linkSessionId then
    tmDecodeError "LINK_SESSION_MISMATCH" "TM link session does not match binding snapshot"
  else if unexpected d.expectedLinkGeneration envelope.linkGeneration then
    tmDecodeError "LINK_GENERATION_MISMATCH" "TM link generation does not match binding snapshot"
  else
    match TmFrame.decode envelope.frameBytes with
    | .error failure => .error (frameFailure failure)
    | .ok frame =>
        if frame.spacecraftId ≠ d.spacecraftId then
          tmDecodeError "SPACECRAFT_ID_MISMATCH" "TM SCID does not match mission profile"
        else if frame.virtualChannelId ≠ 0 then
          tmDecodeError "VCID_MISMATCH" "MVP TM decoder accepts VC0 only"
        else
          let packet := frame.packet
          match profile packet.apid with
          | none => tmDecodeError "UNKNOWN_APID" s!"unsupported TM APID {packet.apid}"
          | some (expectedDescriptor, kind) =>
              if packet.payload.length < 2 then
                tmDecodeError "MISSING_DESCRIPTOR"
                  "TM application payload has no F Prime descriptor"
              else
                let descriptor := fromBytesBE (packet.payload.take 2)
                if descriptor ≠ expectedDescriptor then
                  tmDecodeError "DESCRIPTOR_MISMATCH"
                    ("APID " ++ toString packet.apid ++ " has descriptor 0x" ++
                      hexDigits 4 descriptor)
                else do
                  let content ← content kind packet.payload
                  .ok ⟨envelope, frame, packet.apid, descriptor, kind, packet.payload.drop 2,
                    content.1, content.2⟩

/-- The envelope has the identity the decoder expects. -/
def Expects (d : TmDecoder) (envelope : ValidatedTransportEnvelope) : Prop :=
  unexpected d.expectedInstanceId envelope.sourceSpacecraftInstanceId = false ∧
    unexpected d.expectedBootId envelope.senderBootId = false ∧
    unexpected d.expectedSessionId envelope.linkSessionId = false ∧
    unexpected d.expectedLinkGeneration envelope.linkGeneration = false

/-- A frame of the profile is decoded to its packet's content. -/
theorem decode_of_frame {d : TmDecoder} {envelope : ValidatedTransportEnvelope} {f : TmFrame}
    {code : ℕ} {kind : TmPacketKind} {rest : Bytes} {parts : Option PyValue × Option FilePacket}
    (expects : d.Expects envelope) (framed : TmFrame.decode envelope.frameBytes = .ok f)
    (spacecraft : f.spacecraftId = d.spacecraftId) (channel : f.virtualChannelId = 0)
    (known : profile f.packet.apid = some (code, kind)) (fits : code < 256 ^ 2)
    (payload : f.packet.payload = toBytesBE 2 code ++ rest)
    (read : content kind f.packet.payload = .ok parts) :
    d.decode envelope = .ok ⟨envelope, f, f.packet.apid, code, kind, rest, parts.1, parts.2⟩ := by
  obtain ⟨instanceId, boot, session, generation⟩ := expects
  have descriptor : fromBytesBE (f.packet.payload.take 2) = code := by
    rw [payload, List.take_left' (length_toBytesBE 2 code), fromBytesBE_toBytesBE fits]
  have body : f.packet.payload.drop 2 = rest := by
    rw [payload, List.drop_left' (length_toBytesBE 2 code)]
  have long : ¬ f.packet.payload.length < 2 := by
    rw [payload, List.length_append, length_toBytesBE]
    omega
  unfold decode
  rw [instanceId, boot, session, generation, framed]
  simp only [Bool.false_eq_true, if_false]
  rw [if_neg (not_not.mpr spacecraft), if_neg (not_not.mpr channel), known]
  simp only
  rw [if_neg long, if_neg (not_not.mpr descriptor)]
  refine bind_eq_ok_iff.mpr ⟨parts, read, ?_⟩
  rw [descriptor, body]

end TmDecoder

/-! ## What is sent and what is decoded -/

/-- A Space Packet as the encoder builds it. -/
theorem encodeSpacePacket_eq_ok {apid sequenceCount : ℕ} {payload packet : Bytes}
    (encoded : encodeSpacePacket apid payload sequenceCount = .ok packet) :
    ∃ p : SpacePacket, packet = p.encode ∧ p.apid = apid ∧ p.sequenceCount = sequenceCount ∧
      p.payload = payload := by
  unfold encodeSpacePacket at encoded
  cases built : SpacePacket.new apid sequenceCount payload 0 false 3 with
  | error failure =>
      rw [built] at encoded
      cases encoded
  | ok p =>
      rw [built] at encoded
      obtain ⟨apidEq, countEq, payloadEq, -, -, -⟩ := SpacePacket.new_eq_ok built
      exact ⟨p, (Except.ok.inj encoded).symm, apidEq, countEq, payloadEq⟩

/-- The frame the decoder reads from an encoded packet. -/
theorem decode_encodeTmFrame {apid sequenceCount spacecraft channel master virtual : ℕ}
    {payload packet data : Bytes}
    (packed : encodeSpacePacket apid payload sequenceCount = .ok packet)
    (framed : encodeTmFrame packet spacecraft channel master virtual = .ok data) :
    ∃ f, TmFrame.decode data = .ok f ∧ f.spacecraftId = spacecraft ∧
      f.virtualChannelId = channel ∧ f.masterChannelCount = master ∧
      f.virtualChannelCount = virtual ∧ f.packet.apid = apid ∧
      f.packet.sequenceCount = sequenceCount ∧ f.packet.payload = payload := by
  obtain ⟨p, rfl, apidEq, countEq, payloadEq⟩ := encodeSpacePacket_eq_ok packed
  obtain ⟨p', parsed, framed⟩ := bind_eq_ok_iff.mp framed
  obtain ⟨f, built, encoded⟩ := bind_eq_ok_iff.mp framed
  rw [p.decode_encode] at parsed
  obtain rfl := Except.ok.inj parsed
  obtain ⟨spacecraftEq, channelEq, masterEq, virtualEq, packetEq, -⟩ := TmFrame.new_eq_ok built
  refine ⟨f, TmFrame.decode_encode encoded, spacecraftEq, channelEq, masterEq, virtualEq, ?_, ?_, ?_⟩
  · rw [packetEq, apidEq]
  · rw [packetEq, countEq]
  · rw [packetEq, payloadEq]

/-- A canonical message is decoded. -/
theorem decodeMessage_of_encoded {descriptor : PacketDescriptor}
    {entries : List (PyValue × PyValue)} {payload : Bytes} (value : CborValue (.dict entries))
    (encoded : encodeApplicationMessage descriptor entries = .ok payload) :
    ∃ message, decodeMessage payload = .ok message ∧ SameValue (.dict entries) message := by
  obtain ⟨payload', body, message, encoded', split, decoded, -, same, again⟩ :=
    decodeApplicationMessage_encode descriptor value
  rw [encoded] at encoded'
  obtain rfl := Except.ok.inj encoded'
  have parsed : (do
      let parsed ← decodeApplicationMessage payload
      let encoded ← cborEncode parsed.body
      .ok (parsed, encoded)) = (.ok (message, body) : Raises _) :=
    bind_eq_ok_iff.mpr ⟨message, decoded, bind_eq_ok_iff.mpr ⟨body, again, rfl⟩⟩
  have rest : payload.drop 2 = body := by
    rw [split, List.drop_left' (length_toBytesBE 2 _)]
  refine ⟨message.body, ?_, same⟩
  unfold decodeMessage
  rw [parsed]
  simp only
  rw [rest, if_neg (not_not.mpr rfl)]

/-- The descriptor an APID of the profile carries messages under. -/
inductive MessagePair : ℕ → PacketDescriptor → Prop
  | telemetry : MessagePair 1 .telemetry
  | eventAck : MessagePair 2 .eventAck

/-- A decoded packet has the identity and the counters it was sent with. -/
structure SentAs (decoded : DecodedTmPacket) (apid : ℕ) (descriptor : PacketDescriptor)
    (sequenceCount master virtual : ℕ) : Prop where
  apid : decoded.apid = apid
  descriptor : decoded.descriptor = descriptor.code
  sequenceCount : decoded.frame.packet.sequenceCount = sequenceCount
  masterChannelCount : decoded.frame.masterChannelCount = master
  virtualChannelCount : decoded.frame.virtualChannelCount = virtual

/-- A message that was framed is decoded. -/
theorem decode_sent_message {d : TmDecoder} {envelope : ValidatedTransportEnvelope} {apid : ℕ}
    {descriptor : PacketDescriptor} {entries : List (PyValue × PyValue)}
    {sequenceCount master virtual : ℕ} {packet : Bytes} (expects : d.Expects envelope)
    (pair : MessagePair apid descriptor) (value : CborValue (.dict entries))
    (packed : encodeTmApplication apid descriptor entries sequenceCount = .ok packet)
    (framed : encodeTmFrame packet d.spacecraftId 0 master virtual = .ok envelope.frameBytes) :
    ∃ decoded message, d.decode envelope = .ok decoded ∧
      SentAs decoded apid descriptor sequenceCount master virtual ∧
      decoded.message = some message ∧ SameValue (.dict entries) message := by
  obtain ⟨payload, encoded, packed⟩ := bind_eq_ok_iff.mp packed
  obtain ⟨f, read, spacecraft, channel, masterEq, virtualEq, apidEq, countEq, payloadEq⟩ :=
    decode_encodeTmFrame packed framed
  obtain ⟨body, -, split⟩ := bind_eq_ok_iff.mp encoded
  obtain ⟨message, decodedMessage, same⟩ := decodeMessage_of_encoded value encoded
  have known : ∃ kind, TmDecoder.profile f.packet.apid = some (descriptor.code, kind) ∧
      TmDecoder.content kind f.packet.payload = .ok (some message, none) := by
    rw [apidEq, payloadEq]
    cases pair with
    | telemetry => exact ⟨.telemetry, rfl, bind_eq_ok_iff.mpr ⟨_, decodedMessage, rfl⟩⟩
    | eventAck => exact ⟨.eventAck, rfl, bind_eq_ok_iff.mpr ⟨_, decodedMessage, rfl⟩⟩
  obtain ⟨kind, known, content⟩ := known
  have codeLe := descriptor.code_le
  have wired : f.packet.payload = toBytesBE 2 descriptor.code ++ body := by
    rw [payloadEq, ← Except.ok.inj split]
  exact ⟨_, message, TmDecoder.decode_of_frame expects read spacecraft channel known (by omega)
    wired content, ⟨apidEq, rfl, countEq, masterEq, virtualEq⟩, rfl, same⟩

/-- A file packet that was framed is decoded. -/
theorem decode_sent_file {d : TmDecoder} {envelope : ValidatedTransportEnvelope}
    {filePacket : FilePacket} {sequenceCount master virtual : ℕ} {packet : Bytes}
    (expects : d.Expects envelope)
    (packed : encodeSpacePacket 3 (encodeFilePacket filePacket) sequenceCount = .ok packet)
    (framed : encodeTmFrame packet d.spacecraftId 0 master virtual = .ok envelope.frameBytes) :
    ∃ decoded, d.decode envelope = .ok decoded ∧
      SentAs decoded 3 .file sequenceCount master virtual ∧
      decoded.filePacket = some filePacket := by
  obtain ⟨f, read, spacecraft, channel, masterEq, virtualEq, apidEq, countEq, payloadEq⟩ :=
    decode_encodeTmFrame packed framed
  have known : TmDecoder.profile f.packet.apid = some (PacketDescriptor.file.code, .file) := by
    rw [apidEq]
    rfl
  have content : TmDecoder.content .file f.packet.payload = .ok (none, some filePacket) := by
    unfold TmDecoder.content
    rw [payloadEq, decodeFilePacket_encodeFilePacket]
  exact ⟨_, TmDecoder.decode_of_frame expects read spacecraft channel known (by decide) payloadEq
    content, ⟨apidEq, rfl, countEq, masterEq, virtualEq⟩, rfl⟩

/-- A file packet with at most 990 bytes of payload is always framed. -/
theorem file_framed {d : TmDecoder} {filePacket : FilePacket} {sequenceCount master virtual : ℕ}
    (small : filePacket.payload.length ≤ 990) (countLe : sequenceCount < 16384)
    (masterLe : master < 256) (virtualLe : virtual < 256) :
    ∃ packet data, encodeSpacePacket 3 (encodeFilePacket filePacket) sequenceCount = .ok packet ∧
      encodeTmFrame packet d.spacecraftId 0 master virtual = .ok data := by
  have length : (encodeFilePacket filePacket).length = 13 + filePacket.payload.length := by
    rw [encodeFilePacket, List.length_append, length_toBytesBE, filePacket.length_encode]
    omega
  refine encodeTmFrame_returns (by decide) (by omega) d.spacecraftId_le (by decide) (by omega)
    (by omega) ?_ (by omega)
  exact List.length_pos_iff.mp (by omega)

/-- **From the encoder to the ground decoder.**  What the four layers accept is
decoded to the APID, descriptor, counters and content it was sent with, and a
file packet with at most 990 bytes of payload is always accepted. -/
theorem tmDecoder_returns_what_was_sent :
    (∀ (d : TmDecoder) (envelope : ValidatedTransportEnvelope) (apid : ℕ)
      (descriptor : PacketDescriptor) (entries : List (PyValue × PyValue))
      (sequenceCount master virtual : ℕ) (packet : Bytes), d.Expects envelope →
      MessagePair apid descriptor → CborValue (.dict entries) →
      encodeTmApplication apid descriptor entries sequenceCount = .ok packet →
      encodeTmFrame packet d.spacecraftId 0 master virtual = .ok envelope.frameBytes →
      ∃ decoded message, d.decode envelope = .ok decoded ∧
        SentAs decoded apid descriptor sequenceCount master virtual ∧
        decoded.message = some message ∧ SameValue (.dict entries) message) ∧
    (∀ (d : TmDecoder) (envelope : ValidatedTransportEnvelope) (filePacket : FilePacket)
      (sequenceCount master virtual : ℕ) (packet : Bytes), d.Expects envelope →
      encodeSpacePacket 3 (encodeFilePacket filePacket) sequenceCount = .ok packet →
      encodeTmFrame packet d.spacecraftId 0 master virtual = .ok envelope.frameBytes →
      ∃ decoded, d.decode envelope = .ok decoded ∧
        SentAs decoded 3 .file sequenceCount master virtual ∧
        decoded.filePacket = some filePacket) ∧
    (∀ (d : TmDecoder) (filePacket : FilePacket) (sequenceCount master virtual : ℕ),
      filePacket.payload.length ≤ 990 → sequenceCount < 16384 → master < 256 → virtual < 256 →
      ∃ packet data,
        encodeSpacePacket 3 (encodeFilePacket filePacket) sequenceCount = .ok packet ∧
        encodeTmFrame packet d.spacecraftId 0 master virtual = .ok data) :=
  ⟨fun _ _ _ _ _ _ _ _ _ expects pair value packed framed =>
      decode_sent_message expects pair value packed framed,
    fun _ _ _ _ _ _ _ expects packed framed => decode_sent_file expects packed framed,
    fun _ _ _ _ _ small countLe masterLe virtualLe => file_framed small countLe masterLe virtualLe⟩

/-! ## A telemetry message and a file packet -/

/-- A decoder of spacecraft 68 that expects no identity. -/
def sampleDecoder : TmDecoder where
  spacecraftId := 68
  expectedInstanceId := none
  expectedBootId := none
  expectedSessionId := none
  expectedLinkGeneration := none
  spacecraftId_le := by decide

/-- The body of a telemetry message. -/
def sampleEntries : List (PyValue × PyValue) := [(.str (Text.ofString "k"), .int 1)]

/-- A one-byte DATA packet. -/
def sampleFilePacket : FilePacket :=
  (FilePacket.new .data 1 0 [0x2A]).toOption.get (by decide)

/-- The Space Packet of the message, with sequence count 9. -/
def sampleMessagePacket : Bytes :=
  [0x00, 0x01, 0xC0, 0x09, 0x00, 0x05, 0x00, 0x01, 0xA1, 0x61, 0x6B, 0x01]

/-- The Space Packet of the file packet, with sequence count 9. -/
def sampleDataPacket : Bytes :=
  [0x00, 0x03, 0xC0, 0x09, 0x00, 0x0D, 0x00, 0x03, 0x02, 0x00, 0x00, 0x00, 0x01, 0x00, 0x00, 0x00,
    0x00, 0x00, 0x01, 0x2A]

/-- A frame around a packet, with master count 5 and virtual count 6. -/
def sampleFrame (packet : Bytes) : Bytes :=
  let remaining := 1016 - packet.length
  let body := [0x04, 0x40, 0x05, 0x06, 0x18, 0x00] ++ packet ++ [0x07, 0xFF, 0xC0, 0x00] ++
    toBytesBE 2 (remaining - 7) ++ List.replicate (remaining - 6) 0
  body ++ toBytesBE 2 (crc16Ccitt body)

/-- A frame as it arrives. -/
def sampleTmEnvelope (packet : Bytes) : ValidatedTransportEnvelope :=
  ⟨1, 1, 1, 1, 1, 1, 1, 1, 0, 0, .downlink, sampleFrame packet, by
    simp [sampleFrame]⟩

theorem tmDecoder_returns_what_was_sent_sample :
    (∃ decoded message, sampleDecoder.decode (sampleTmEnvelope sampleMessagePacket) = .ok decoded ∧
      SentAs decoded 1 .telemetry 9 5 6 ∧ decoded.message = some message ∧
      SameValue (.dict sampleEntries) message) ∧
    (∃ decoded, sampleDecoder.decode (sampleTmEnvelope sampleDataPacket) = .ok decoded ∧
      SentAs decoded 3 .file 9 5 6 ∧ decoded.filePacket = some sampleFilePacket) ∧
    (∃ packet data, encodeSpacePacket 3 (encodeFilePacket sampleFilePacket) 9 = .ok packet ∧
      encodeTmFrame packet sampleDecoder.spacecraftId 0 5 6 = .ok data) := by
  have expects (packet : Bytes) : sampleDecoder.Expects (sampleTmEnvelope packet) :=
    ⟨rfl, rfl, rfl, rfl⟩
  have value : CborValue (.dict sampleEntries) :=
    ⟨by decide, ⟨rfl, ⟨scalar_ofString (by decide), by decide⟩, ⟨by decide, by decide⟩, trivial⟩,
      by decide⟩
  have message : encodeTmApplication 1 .telemetry sampleEntries 9 = .ok sampleMessagePacket := by
    decide +kernel
  have messageFrame : encodeTmFrame sampleMessagePacket 68 0 5 6 =
      .ok (sampleFrame sampleMessagePacket) := by decide +kernel
  have file : encodeSpacePacket 3 (encodeFilePacket sampleFilePacket) 9 = .ok sampleDataPacket := by
    decide +kernel
  have fileFrame : encodeTmFrame sampleDataPacket 68 0 5 6 = .ok (sampleFrame sampleDataPacket) := by
    decide +kernel
  exact ⟨tmDecoder_returns_what_was_sent.1 _ _ _ _ _ _ _ _ _ (expects _) .telemetry value message
      messageFrame,
    tmDecoder_returns_what_was_sent.2.1 _ _ _ _ _ _ _ (expects _) file fileFrame,
    tmDecoder_returns_what_was_sent.2.2 sampleDecoder sampleFilePacket 9 5 6 (by decide)
      (by decide) (by decide) (by decide)⟩

end CubeNano

import CubeNano.Protocol.Ccsds
import CubeNano.Protocol.CborOrder

/-!
# Application messages

`protocol/messages.py`: a packet descriptor of two bytes and a CBOR map, the
payload of the Space Packets that carry no file.
-/

namespace CubeNano

/-- `PacketDescriptor`. -/
inductive PacketDescriptor
  | command
  | telemetry
  | eventAck
  | file
  deriving DecidableEq, Repr

namespace PacketDescriptor

/-- The wire value of a descriptor. -/
def code : PacketDescriptor → ℕ
  | command => 0
  | telemetry => 1
  | eventAck => 2
  | file => 3

/-- `PacketDescriptor(value)`. -/
def ofCode? : ℕ → Option PacketDescriptor
  | 0 => some command
  | 1 => some telemetry
  | 2 => some eventAck
  | 3 => some file
  | _ => none

@[simp] theorem ofCode?_code (d : PacketDescriptor) : ofCode? d.code = some d := by
  cases d <;> rfl

theorem code_le (d : PacketDescriptor) : d.code ≤ 3 := by
  cases d <;> decide

end PacketDescriptor

/-- `ApplicationMessage`; the body is a dictionary. -/
structure ApplicationMessage where
  descriptor : PacketDescriptor
  entries : List (PyValue × PyValue)

/-- The `body` of a message. -/
def ApplicationMessage.body (message : ApplicationMessage) : PyValue := .dict message.entries

/-- `encode_application_message`. -/
def encodeApplicationMessage (descriptor : PacketDescriptor)
    (entries : List (PyValue × PyValue)) : Raises Bytes := do
  let body ← cborEncode (.dict entries)
  .ok (toBytesBE 2 descriptor.code ++ body)

/-- `decode_application_message`. -/
def decodeApplicationMessage (payload : Bytes) : Raises ApplicationMessage :=
  if payload.length < 3 then valueError "application payload is shorter than its descriptor"
  else
    match PacketDescriptor.ofCode? (fromBytesBE (payload.take 2)) with
    | none => valueError "unknown F Prime packet descriptor"
    | some descriptor => do
        match ← cborDecode (payload.drop 2) with
        | .dict entries => .ok ⟨descriptor, entries⟩
        | _ => valueError "application message body must be a CBOR map"

/-- `encode_tm_application`. -/
def encodeTmApplication (apid : ℕ) (descriptor : PacketDescriptor)
    (entries : List (PyValue × PyValue)) (sequenceCount : ℕ) : Raises Bytes := do
  let payload ← encodeApplicationMessage descriptor entries
  encodeSpacePacket apid payload sequenceCount

/-- An encoded message is decoded to one with an equal body, and the encoder
writes the same bytes for both. -/
theorem decodeApplicationMessage_encode (descriptor : PacketDescriptor)
    {entries : List (PyValue × PyValue)} (value : CborValue (.dict entries)) :
    ∃ payload body message, encodeApplicationMessage descriptor entries = .ok payload ∧
      payload = toBytesBE 2 descriptor.code ++ body ∧
      decodeApplicationMessage payload = .ok message ∧ message.descriptor = descriptor ∧
      SameValue (.dict entries) message.body ∧ cborEncode message.body = .ok body := by
  obtain ⟨body, encoded, decoded⟩ := cborDecode_cborEncode value
  have same := sameValue_sortMaps (.dict entries)
  have value' := cborValue_sortMaps (.dict entries) value
  have again : cborEncode (sortMaps (.dict entries)) = .ok body := by
    rw [← encoded, cborEncode_eq _ value, cborEncode_eq _ value',
      sortMaps_of_ascending _ (ascending_sortMaps _)]
  have positive : 0 < body.length := by
    obtain ⟨-, wired⟩ := cborDecode_eq_ok_iff.mp decoded
    rw [wired, sortMaps, wire, List.length_append]
    exact Nat.add_pos_left (length_headBytes_pos 5 _) _
  have codeLe := descriptor.code_le
  refine ⟨_, body, ⟨descriptor, _⟩, bind_eq_ok_iff.mpr ⟨body, encoded, rfl⟩, rfl, ?_, rfl, same,
    again⟩
  unfold decodeApplicationMessage
  rw [if_neg (by rw [List.length_append, length_toBytesBE]; omega),
    List.take_left' (length_toBytesBE 2 _), List.drop_left' (length_toBytesBE 2 _),
    fromBytesBE_toBytesBE (by omega), PacketDescriptor.ofCode?_code]
  exact bind_eq_ok_iff.mpr ⟨_, decoded, rfl⟩

end CubeNano

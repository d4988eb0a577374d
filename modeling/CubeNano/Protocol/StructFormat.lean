import CubeNano.Protocol.Bytes
import CubeNano.Protocol.Exceptions

/-!
# Fixed-width binary records

`struct.pack` and `struct.unpack` of big-endian unsigned fields, for a format given by the
widths of its fields.

## Main definitions

* `packUnsigned`, `unpackUnsigned`

## Main statements

* `unpackUnsigned_pack`, `packUnsigned_unpack` — the two round trips
-/

namespace CubeNano

/-- `struct.pack(format, *values)`. -/
def packUnsigned : (widths values : List ℕ) → Raises Bytes
  | [], [] => .ok []
  | width :: widths, value :: values =>
      if value < 256 ^ width then do
        let rest ← packUnsigned widths values
        .ok (toBytesBE width value ++ rest)
      else .error ⟨.structError, "argument out of range"⟩
  | _, _ => .error ⟨.structError, "pack received another number of items"⟩

/-- The fields at the front of the data. -/
def unpackFields : (widths : List ℕ) → Bytes → List ℕ
  | [], _ => []
  | width :: widths, data => fromBytesBE (data.take width) :: unpackFields widths (data.drop width)

/-- `struct.unpack(format, data)`. -/
def unpackUnsigned (widths : List ℕ) (data : Bytes) : Raises (List ℕ) :=
  if data.length = widths.sum then .ok (unpackFields widths data)
  else .error ⟨.structError, s!"unpack requires a buffer of {widths.sum} bytes"⟩

@[simp] theorem length_unpackFields (widths : List ℕ) (data : Bytes) :
    (unpackFields widths data).length = widths.length := by
  induction widths generalizing data with
  | nil => rfl
  | cons width widths ih => exact congrArg Nat.succ (ih _)

/-- Values that fit their widths are packed. -/
theorem exists_packUnsigned {widths values : List ℕ}
    (fits : List.Forall₂ (fun width value => value < 256 ^ width) widths values) :
    ∃ data, packUnsigned widths values = .ok data := by
  induction fits with
  | nil => exact ⟨[], rfl⟩
  | cons small _ ih =>
      obtain ⟨data, packed⟩ := ih
      exact ⟨_, by rw [packUnsigned, if_pos small, packed]; rfl⟩

theorem length_packUnsigned {widths values : List ℕ} {data : Bytes}
    (packed : packUnsigned widths values = .ok data) : data.length = widths.sum := by
  induction widths generalizing values data with
  | nil =>
      cases values with
      | nil =>
          cases packed
          rfl
      | cons value values => cases packed
  | cons width widths ih =>
      cases values with
      | nil => cases packed
      | cons value values =>
          unfold packUnsigned at packed
          split at packed
          · obtain ⟨rest, packedRest, done⟩ := bind_eq_ok_iff.mp packed
            cases done
            rw [List.length_append, length_toBytesBE, ih packedRest, List.sum_cons]
          · cases packed

/-- **What was packed is unpacked.** -/
theorem unpackFields_pack {widths values : List ℕ} {data : Bytes}
    (packed : packUnsigned widths values = .ok data) (rest : Bytes) :
    unpackFields widths (data ++ rest) = values := by
  induction widths generalizing values data with
  | nil =>
      cases values with
      | nil => rfl
      | cons value values => cases packed
  | cons width widths ih =>
      cases values with
      | nil => cases packed
      | cons value values =>
          unfold packUnsigned at packed
          split at packed
          · rename_i small
            obtain ⟨later, packedRest, done⟩ := bind_eq_ok_iff.mp packed
            cases done
            rw [unpackFields, List.append_assoc, List.take_left' (length_toBytesBE _ _),
              List.drop_left' (length_toBytesBE _ _), fromBytesBE_toBytesBE small, ih packedRest]
          · cases packed

theorem unpackUnsigned_pack {widths values : List ℕ} {data : Bytes}
    (packed : packUnsigned widths values = .ok data) :
    unpackUnsigned widths data = .ok values := by
  have fields := unpackFields_pack packed []
  rw [List.append_nil] at fields
  rw [unpackUnsigned, if_pos (length_packUnsigned packed), fields]

theorem packUnsigned_fields {widths : List ℕ} {data : Bytes} (exact_ : data.length = widths.sum) :
    packUnsigned widths (unpackFields widths data) = .ok data := by
  induction widths generalizing data with
  | nil =>
      rw [List.eq_nil_of_length_eq_zero exact_]
      rfl
  | cons width widths ih =>
      rw [List.sum_cons] at exact_
      have front : (data.take width).length = width := by
        rw [List.length_take]
        omega
      have small := fromBytesBE_lt (data.take width)
      rw [front] at small
      have back := toBytesBE_fromBytesBE (data.take width)
      rw [front] at back
      have later := @ih (data.drop width) (by rw [List.length_drop]; omega)
      rw [unpackFields, packUnsigned, if_pos small, later, back]
      exact congrArg Except.ok (List.take_append_drop width data)

/-- **What was unpacked is packed as the bytes it was unpacked from.** -/
theorem packUnsigned_unpack {widths values : List ℕ} {data : Bytes}
    (unpacked : unpackUnsigned widths data = .ok values) :
    packUnsigned widths values = .ok data := by
  unfold unpackUnsigned at unpacked
  split at unpacked
  · rename_i exact_
    cases unpacked
    exact packUnsigned_fields exact_
  · cases unpacked

end CubeNano

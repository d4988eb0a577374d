import Mathlib.Data.List.Basic
import Mathlib.Data.List.Induction
import Mathlib.Tactic.Ring

/-!
# Byte strings and big-endian integers

Python `bytes` are lists of octets.  `toBytesBE` is `int.to_bytes(width, "big")`
and `fromBytesBE` is `int.from_bytes(..., "big")`; `struct.pack(">...")` is a
concatenation of these.
-/

namespace CubeNano

/-- Python `bytes`. -/
abbrev Bytes := List UInt8

/-- `int.to_bytes(width, "big")`, of the low `8 * width` bits. -/
def toBytesBE : (width : ℕ) → (n : ℕ) → Bytes
  | 0, _ => []
  | width + 1, n => toBytesBE width (n / 256) ++ [UInt8.ofNat n]

/-- `int.from_bytes(..., "big")`. -/
def fromBytesBE (data : Bytes) : ℕ := data.foldl (fun acc byte => acc * 256 + byte.toNat) 0

@[simp] theorem length_toBytesBE (width n : ℕ) : (toBytesBE width n).length = width := by
  induction width generalizing n with
  | zero => rfl
  | succ width ih => simp [toBytesBE, ih]

theorem fromBytesBE_concat (data : Bytes) (byte : UInt8) :
    fromBytesBE (data ++ [byte]) = fromBytesBE data * 256 + byte.toNat := by
  simp [fromBytesBE]

/-- Reading back a written integer that fits its width. -/
theorem fromBytesBE_toBytesBE {width n : ℕ} (fits : n < 256 ^ width) :
    fromBytesBE (toBytesBE width n) = n := by
  induction width generalizing n with
  | zero =>
      have : n = 0 := by simpa using fits
      subst this
      rfl
  | succ width ih =>
      have quotient : n / 256 < 256 ^ width := by
        rw [Nat.div_lt_iff_lt_mul (by decide)]
        simpa [pow_succ] using fits
      have low : (UInt8.ofNat n).toNat = n % 256 := by simp
      rw [toBytesBE, fromBytesBE_concat, ih quotient, low]
      omega

theorem fromBytesBE_lt (data : Bytes) : fromBytesBE data < 256 ^ data.length := by
  induction data using List.reverseRecOn with
  | nil => exact Nat.one_pos
  | append_singleton data byte ih =>
      have low := byte.toNat_lt
      rw [fromBytesBE_concat, List.length_append, List.length_singleton, pow_succ]
      omega

/-- Writing back an integer that was read at the same width. -/
theorem toBytesBE_fromBytesBE (data : Bytes) :
    toBytesBE data.length (fromBytesBE data) = data := by
  induction data using List.reverseRecOn with
  | nil => rfl
  | append_singleton data byte ih =>
      have low := byte.toNat_lt
      have digit : UInt8.ofNat (fromBytesBE data * 256 + byte.toNat) = byte := by
        apply UInt8.toNat_inj.mp
        rw [UInt8.toNat_ofNat']
        omega
      have quotient : (fromBytesBE data * 256 + byte.toNat) / 256 = fromBytesBE data := by
        omega
      rw [fromBytesBE_concat, List.length_append, List.length_singleton, toBytesBE, digit,
        quotient, ih]

theorem fromBytesBE_slice_lt (data : Bytes) (i width : ℕ) :
    fromBytesBE ((data.drop i).take width) < 256 ^ width :=
  (fromBytesBE_lt _).trans_le (Nat.pow_le_pow_right (by decide) (List.length_take_le _ _))

/-- A field written back where it was read. -/
theorem toBytesBE_slice {data : Bytes} (i width : ℕ) (inside : i + width ≤ data.length) :
    toBytesBE width (fromBytesBE ((data.drop i).take width)) = (data.drop i).take width := by
  have length : ((data.drop i).take width).length = width := by
    rw [List.length_take, List.length_drop]
    omega
  have written := toBytesBE_fromBytesBE ((data.drop i).take width)
  rwa [length] at written

/-- The slice of a concatenation that is one of its parts. -/
theorem slice_append {before part after : Bytes} {i width : ℕ} (start : before.length = i)
    (length : part.length = width) :
    ((before ++ (part ++ after)).drop i).take width = part := by
  rw [List.drop_left' start, List.take_left' length]

theorem toBytesBE_injective {width m n : ℕ} (hm : m < 256 ^ width) (hn : n < 256 ^ width)
    (same : toBytesBE width m = toBytesBE width n) : m = n := by
  rw [← fromBytesBE_toBytesBE hm, same, fromBytesBE_toBytesBE hn]

/-- Fields packed in a word. -/
theorem shiftLeft_or_eq_add {a b i : ℕ} (small : b < 2 ^ i) : a <<< i ||| b = a * 2 ^ i + b := by
  rw [← Nat.shiftLeft_add_eq_or_of_lt small, Nat.shiftLeft_eq]

/-- A left fold over bytes whose register is a number.  The register is matched
at every step, so that evaluation does not pile the steps up. -/
def foldRegister (f : ℕ → UInt8 → ℕ) : ℕ → Bytes → ℕ
  | register, [] => register
  | 0, byte :: rest => foldRegister f (f 0 byte) rest
  | register + 1, byte :: rest => foldRegister f (f (register + 1) byte) rest

theorem foldRegister_eq_foldl (f : ℕ → UInt8 → ℕ) (register : ℕ) (data : Bytes) :
    foldRegister f register data = data.foldl f register := by
  induction data generalizing register with
  | nil => cases register <;> rfl
  | cons byte rest ih => cases register <;> exact ih _

end CubeNano

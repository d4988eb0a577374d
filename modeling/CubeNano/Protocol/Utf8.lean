import CubeNano.Protocol.Json

/-!
# UTF-8, both ways

`str.encode("utf-8")` beside `bytes.decode("utf-8")`: each undoes the other on
strings of scalar values, and on nothing else either of them returns.

## Main statements

* `utf8Decode_utf8Encode`, `utf8Encode_of_utf8Decode` — the two round trips
-/

namespace CubeNano

/-- The bytes of a code point. -/
def utf8Point (c : CodePoint) : Bytes :=
  if c.val < 0x80 then [UInt8.ofNat c.val]
  else if c.val < 0x800 then
    [UInt8.ofNat (0xC0 + c.val / 64), UInt8.ofNat (0x80 + c.val % 64)]
  else if c.val < 0x10000 then
    [UInt8.ofNat (0xE0 + c.val / 4096), UInt8.ofNat (0x80 + c.val / 64 % 64),
      UInt8.ofNat (0x80 + c.val % 64)]
  else
    [UInt8.ofNat (0xF0 + c.val / 262144), UInt8.ofNat (0x80 + c.val / 4096 % 64),
      UInt8.ofNat (0x80 + c.val / 64 % 64), UInt8.ofNat (0x80 + c.val % 64)]

/-- `text.encode("utf-8")`. -/
def utf8Encode (text : Text) : Raises Bytes :=
  if text.all fun c => c.val < 0xD800 || 0xDFFF < c.val then .ok (text.flatMap utf8Point)
  else .error ⟨.unicodeEncodeError, "'utf-8' codec can't encode: surrogates not allowed"⟩

theorem utf8Encode_eq_ok_iff {text : Text} {data : Bytes} :
    utf8Encode text = .ok data ↔ Scalar text ∧ data = text.flatMap utf8Point := by
  unfold utf8Encode
  have scalar : (text.all fun c => decide (c.val < 0xD800) || decide (0xDFFF < c.val)) = true ↔
      Scalar text := by
    rw [List.all_eq_true]
    refine forall₂_congr fun c _ => ?_
    rw [Bool.or_eq_true, decide_eq_true_iff, decide_eq_true_iff]
  by_cases h : Scalar text
  · rw [if_pos (scalar.mpr h)]
    exact ⟨fun same => ⟨h, (Except.ok.inj same).symm⟩, fun ⟨_, same⟩ => by rw [same]⟩
  · rw [if_neg (fun all => h (scalar.mp all))]
    exact ⟨fun same => (by cases same), fun ⟨all, _⟩ => absurd all h⟩

theorem continuation?_ofNat {n : ℕ} (small : n < 64) :
    continuation? (UInt8.ofNat (0x80 + n)) = some n := by
  unfold continuation?
  rw [UInt8.toNat_ofNat', Nat.mod_eq_of_lt (by omega), if_pos (by omega)]
  exact congrArg some (by omega)

theorem ofNat_of_continuation? {byte : UInt8} {n : ℕ} (read : continuation? byte = some n) :
    n < 64 ∧ UInt8.ofNat (0x80 + n) = byte := by
  unfold continuation? at read
  split at read
  · rename_i range
    have value := Option.some.inj read
    refine ⟨by omega, ?_⟩
    apply UInt8.toNat_inj.mp
    rw [UInt8.toNat_ofNat']
    omega
  · cases read

/-- The decoder undoes one code point. -/
theorem utf8Decode_utf8Point {c : CodePoint} (scalar : c.val < 0xD800 ∨ 0xDFFF < c.val)
    (rest : Bytes) : utf8Decode (utf8Point c ++ rest) = (utf8Decode rest).map (c :: ·) := by
  have bound := c.isLt
  have same (n : ℕ) (h : n = c.val) : Fin.ofNat 0x110000 n = c := by
    apply Fin.ext
    show n % 0x110000 = c.val
    rw [h, Nat.mod_eq_of_lt bound]
  unfold utf8Point
  by_cases one : c.val < 0x80
  · rw [if_pos one]
    show utf8Decode (UInt8.ofNat c.val :: rest) = _
    rw [utf8Decode.eq_def (UInt8.ofNat c.val :: rest)]
    simp only
    rw [UInt8.toNat_ofNat', Nat.mod_eq_of_lt (by omega), if_pos one, same _ rfl]
  by_cases two : c.val < 0x800
  · rw [if_neg one, if_pos two]
    show utf8Decode (UInt8.ofNat (0xC0 + c.val / 64) :: UInt8.ofNat (0x80 + c.val % 64) :: rest) = _
    rw [utf8Decode, UInt8.toNat_ofNat', Nat.mod_eq_of_lt (by omega), if_neg (by omega), if_pos (by omega)]
    simp only [continuation?_ofNat (Nat.mod_lt c.val (by decide : 0 < 64))]
    rw [same _ (by omega)]
  by_cases three : c.val < 0x10000
  · rw [if_neg one, if_neg two, if_pos three]
    show utf8Decode (UInt8.ofNat (0xE0 + c.val / 4096) :: UInt8.ofNat (0x80 + c.val / 64 % 64) ::
      UInt8.ofNat (0x80 + c.val % 64) :: rest) = _
    rw [utf8Decode, UInt8.toNat_ofNat', Nat.mod_eq_of_lt (by omega), if_neg (by omega), if_neg (by omega),
      if_pos (by omega)]
    simp only [continuation?_ofNat (Nat.mod_lt c.val (by decide : 0 < 64)),
      continuation?_ofNat (Nat.mod_lt (c.val / 64) (by decide : 0 < 64))]
    rw [if_neg (by omega), same _ (by omega)]
  · rw [if_neg one, if_neg two, if_neg three]
    show utf8Decode (UInt8.ofNat (0xF0 + c.val / 262144) :: UInt8.ofNat (0x80 + c.val / 4096 % 64) ::
      UInt8.ofNat (0x80 + c.val / 64 % 64) :: UInt8.ofNat (0x80 + c.val % 64) :: rest) = _
    rw [utf8Decode, UInt8.toNat_ofNat', Nat.mod_eq_of_lt (by omega), if_neg (by omega), if_neg (by omega),
      if_neg (by omega), if_pos (by omega)]
    simp only [continuation?_ofNat (Nat.mod_lt c.val (by decide : 0 < 64)),
      continuation?_ofNat (Nat.mod_lt (c.val / 64) (by decide : 0 < 64)),
      continuation?_ofNat (Nat.mod_lt (c.val / 4096) (by decide : 0 < 64))]
    rw [if_neg (by omega), same _ (by omega)]

/-- **Decoding an encoded string.** -/
theorem utf8Decode_utf8Encode {text : Text} {data : Bytes} (encoded : utf8Encode text = .ok data) :
    utf8Decode data = .ok text := by
  obtain ⟨scalar, rfl⟩ := utf8Encode_eq_ok_iff.mp encoded
  induction text with
  | nil => rfl
  | cons c rest ih =>
      have tail : Scalar rest := fun c' mem => scalar c' (List.mem_cons_of_mem _ mem)
      rw [List.flatMap_cons, utf8Decode_utf8Point (scalar c (List.mem_cons_self ..)),
        ih tail (utf8Encode_eq_ok_iff.mpr ⟨tail, rfl⟩)]
      rfl

/-- One more code point in front of what the decoder read. -/
theorem scalar_cons_of_utf8Decode {n : ℕ} {front rest : Bytes} {text : Text} (small : n < 0x110000)
    (scalar : n < 0xD800 ∨ 0xDFFF < n) (written : utf8Point ⟨n, small⟩ = front)
    (decoded : (utf8Decode rest).map (Fin.ofNat 0x110000 n :: ·) = .ok text)
    (ih : ∀ {tail : Text}, utf8Decode rest = .ok tail → Scalar tail ∧ rest = tail.flatMap utf8Point) :
    Scalar text ∧ front ++ rest = text.flatMap utf8Point := by
  have point : Fin.ofNat 0x110000 n = ⟨n, small⟩ := Fin.ext (Nat.mod_eq_of_lt small)
  cases read : utf8Decode rest with
  | error failure =>
      rw [read] at decoded
      cases decoded
  | ok tail =>
      rw [read, point] at decoded
      cases decoded
      obtain ⟨tailScalar, tailWritten⟩ := ih read
      constructor
      · intro c mem
        rcases List.mem_cons.mp mem with rfl | mem
        · exact scalar
        · exact tailScalar c mem
      · rw [List.flatMap_cons, written, ← tailWritten]

theorem ofNat_of_eq_toNat {b : UInt8} {n : ℕ} (same : n = b.toNat) : UInt8.ofNat n = b := by
  rw [same, UInt8.ofNat_toNat]

/-- What the decoder returns has only scalar values, and its bytes are the input. -/
theorem scalar_of_utf8Decode {data : Bytes} {text : Text} (decoded : utf8Decode data = .ok text) :
    Scalar text ∧ data = text.flatMap utf8Point := by
  fun_induction utf8Decode data generalizing text with
  | case1 =>
      cases decoded
      exact ⟨fun c mem => absurd mem List.not_mem_nil, rfl⟩
  | case2 b0 rest one ih =>
      show Scalar text ∧ [b0] ++ rest = text.flatMap utf8Point
      refine scalar_cons_of_utf8Decode (by omega) (by omega) ?_ decoded ih
      unfold utf8Point
      rw [if_pos one, ofNat_of_eq_toNat rfl]
  | case5 b0 notOne two b1 rest c1 read1 ih =>
      obtain ⟨small1, byte1⟩ := ofNat_of_continuation? read1
      show Scalar text ∧ [b0, b1] ++ rest = text.flatMap utf8Point
      refine scalar_cons_of_utf8Decode (by omega) (by omega) ?_ decoded ih
      unfold utf8Point
      simp only
      rw [if_neg (by omega), if_pos (by omega), ofNat_of_eq_toNat (b := b0) (by omega),
        show 0x80 + ((b0.toNat - 192) * 64 + c1) % 64 = 0x80 + c1 by omega, byte1]
  | case7 b0 notOne notTwo three b1 b2 rest c1 c2 read2 read1 point valid =>
      rename_i ih
      obtain ⟨small1, byte1⟩ := ofNat_of_continuation? read1
      obtain ⟨small2, byte2⟩ := ofNat_of_continuation? read2
      show Scalar text ∧ [b0, b1, b2] ++ rest = text.flatMap utf8Point
      refine scalar_cons_of_utf8Decode (by omega) (by omega) ?_ decoded ih
      unfold utf8Point
      simp only
      rw [if_neg (by omega), if_neg (by omega), if_pos (by omega),
        ofNat_of_eq_toNat (b := b0) (by omega), show 0x80 + point / 64 % 64 = 0x80 + c1 by omega,
        show 0x80 + point % 64 = 0x80 + c2 by omega, byte1, byte2]
  | case11 b0 notOne notTwo notThree four b1 b2 b3 rest c1 c2 c3 read3 read2 read1 point valid =>
      rename_i ih
      obtain ⟨small1, byte1⟩ := ofNat_of_continuation? read1
      obtain ⟨small2, byte2⟩ := ofNat_of_continuation? read2
      obtain ⟨small3, byte3⟩ := ofNat_of_continuation? read3
      show Scalar text ∧ [b0, b1, b2, b3] ++ rest = text.flatMap utf8Point
      refine scalar_cons_of_utf8Decode (by omega) (by omega) ?_ decoded ih
      unfold utf8Point
      simp only
      rw [if_neg (by omega), if_neg (by omega), if_neg (by omega),
        ofNat_of_eq_toNat (b := b0) (by omega), show 0x80 + point / 4096 % 64 = 0x80 + c1 by omega,
        show 0x80 + point / 64 % 64 = 0x80 + c2 by omega, show 0x80 + point % 64 = 0x80 + c3 by omega,
        byte1, byte2, byte3]
  | _ => cases decoded

/-- **Encoding a decoded string.** -/
theorem utf8Encode_of_utf8Decode {data : Bytes} {text : Text}
    (decoded : utf8Decode data = .ok text) : utf8Encode text = .ok data :=
  utf8Encode_eq_ok_iff.mpr (scalar_of_utf8Decode decoded)

end CubeNano

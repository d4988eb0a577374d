import CubeNano.Protocol.Cbor

/-!
# The wire form of a CBOR value

`wire` writes a value with the entries of every map in their own order.  The
decoder accepts exactly the wire forms of the values of the subset, and returns
the value; the encoder writes the wire form of the value with its maps sorted.

## Main definitions

* `CborValue` — the deterministic CBOR subset
* `wire` — the wire form, maps in insertion order

## Main statements

* `cborDecode_eq_ok_iff` — the accepted byte strings
-/

namespace CubeNano

/-! ## Heads -/

theorem initialByte_fields {major additional : ℕ} (majorLe : major ≤ 7)
    (additionalLt : additional < 32) :
    (initialByte major additional).toNat >>> 5 = major ∧
      (initialByte major additional).toNat &&& 0x1F = additional := by
  have sum : major <<< 5 ||| additional = major * 2 ^ 5 + additional :=
    shiftLeft_or_eq_add additionalLt
  have value : (initialByte major additional).toNat = major * 2 ^ 5 + additional := by
    rw [initialByte, UInt8.toNat_ofNat', sum, Nat.mod_eq_of_lt (by omega)]
  have low : (major * 2 ^ 5 + additional) &&& 0x1F = (major * 2 ^ 5 + additional) % 2 ^ 5 :=
    Nat.and_two_pow_sub_one_eq_mod _ 5
  rw [value, low, Nat.shiftRight_eq_div_pow]
  omega

theorem initialByte_of_fields (b : UInt8) :
    initialByte (b.toNat >>> 5) (b.toNat &&& 0x1F) = b := by
  have low : b.toNat &&& 0x1F = b.toNat % 2 ^ 5 := Nat.and_two_pow_sub_one_eq_mod _ 5
  rw [initialByte, low, shiftLeft_or_eq_add (Nat.mod_lt _ (by decide)),
    Nat.shiftRight_eq_div_pow, Nat.div_add_mod' b.toNat (2 ^ 5), UInt8.ofNat_toNat]

theorem length_headBytes_pos (major value : ℕ) : 0 < (headBytes major value).length := by
  unfold headBytes
  split
  · exact Nat.one_pos
  split
  · exact Nat.succ_pos _
  split
  · exact Nat.succ_pos _
  split
  · exact Nat.succ_pos _
  · exact Nat.succ_pos _

theorem readNumber_append {width least value : ℕ} (fits : value < 256 ^ width)
    (atLeast : least ≤ value) (rest : Bytes) :
    readNumber width least (toBytesBE width value ++ rest) = .ok (value, rest) := by
  have raw : readBytes width (toBytesBE width value ++ rest) =
      .ok (toBytesBE width value, rest) := by
    rw [readBytes, if_neg (by rw [List.length_append, length_toBytesBE]; omega),
      List.take_left' (length_toBytesBE width value), List.drop_left' (length_toBytesBE width value)]
  refine bind_eq_ok_iff.mpr ⟨_, raw, ?_⟩
  simp only
  rw [fromBytesBE_toBytesBE fits, if_neg (Nat.not_lt.mpr atLeast)]

theorem readBytes_eq_ok {size : ℕ} {data raw rest : Bytes}
    (read : readBytes size data = .ok (raw, rest)) : raw.length = size ∧ data = raw ++ rest := by
  unfold readBytes at read
  split at read
  · cases read
  · cases read
    refine ⟨?_, (List.take_append_drop size data).symm⟩
    rw [List.length_take]
    omega

theorem readNumber_eq_ok {width least value : ℕ} {data rest : Bytes}
    (read : readNumber width least data = .ok (value, rest)) :
    least ≤ value ∧ value < 256 ^ width ∧ data = toBytesBE width value ++ rest := by
  obtain ⟨⟨raw, rest'⟩, taken, checked⟩ := bind_eq_ok_iff.mp read
  obtain ⟨length, split⟩ := readBytes_eq_ok taken
  simp only at checked
  by_cases small : fromBytesBE raw < least
  · rw [if_pos small] at checked
    cases checked
  · rw [if_neg small] at checked
    cases checked
    have bound := fromBytesBE_lt raw
    have written := toBytesBE_fromBytesBE raw
    rw [length] at bound written
    exact ⟨Nat.not_lt.mp small, bound, by rw [written]; exact split⟩

/-- Reading the head of an item. -/
theorem readLength_headBytes {major value : ℕ} (majorLe : major ≤ 7) (fits : value ≤ maxU64)
    (rest : Bytes) : ∃ initial tail, headBytes major value ++ rest = initial :: tail ∧
      initial.toNat >>> 5 = major ∧ readLength (initial.toNat &&& 0x1F) tail = .ok (value, rest) := by
  have whole : ∀ additional, additional < 32 → ∀ tail,
      readLength additional tail = .ok (value, rest) → ∃ initial tail',
        initialByte major additional :: tail = initial :: tail' ∧ initial.toNat >>> 5 = major ∧
          readLength (initial.toNat &&& 0x1F) tail' = .ok (value, rest) := by
    intro additional small tail read
    obtain ⟨high, low⟩ := initialByte_fields majorLe small
    exact ⟨_, tail, rfl, high, by rw [low]; exact read⟩
  unfold maxU64 at fits
  unfold headBytes
  by_cases h0 : value < 24
  · rw [if_pos h0]
    exact whole value (by omega) rest (by rw [readLength, if_pos h0])
  by_cases h1 : value ≤ 0xFF
  · rw [if_neg h0, if_pos h1]
    exact whole 24 (by decide) _ (readNumber_append (by omega) (by omega) rest)
  by_cases h2 : value ≤ 0xFFFF
  · rw [if_neg h0, if_neg h1, if_pos h2]
    exact whole 25 (by decide) _ (readNumber_append (by omega) (by omega) rest)
  by_cases h3 : value ≤ 0xFFFFFFFF
  · rw [if_neg h0, if_neg h1, if_neg h2, if_pos h3]
    exact whole 26 (by decide) _ (readNumber_append (by omega) (by omega) rest)
  · rw [if_neg h0, if_neg h1, if_neg h2, if_neg h3]
    exact whole 27 (by decide) _ (readNumber_append (by omega) (by omega) rest)

/-- An accepted head is in the shortest form. -/
theorem headBytes_of_readLength {initial : UInt8} {tail rest : Bytes} {value : ℕ}
    (read : readLength (initial.toNat &&& 0x1F) tail = .ok (value, rest)) :
    value ≤ maxU64 ∧ initial :: tail = headBytes (initial.toNat >>> 5) value ++ rest := by
  have byte := initialByte_of_fields initial
  generalize initial.toNat >>> 5 = major at byte ⊢
  generalize initial.toNat &&& 0x1F = additional at byte read
  rw [← byte]
  unfold maxU64 headBytes
  unfold readLength at read
  by_cases h0 : additional < 24
  · rw [if_pos h0] at read
    cases read
    rw [if_pos h0]
    exact ⟨by omega, rfl⟩
  by_cases h1 : additional = 24
  · rw [if_neg h0, if_pos h1] at read
    obtain ⟨atLeast, fits, split⟩ := readNumber_eq_ok read
    rw [if_neg (by omega), if_pos (by omega), split, h1]
    exact ⟨by omega, rfl⟩
  by_cases h2 : additional = 25
  · rw [if_neg h0, if_neg h1, if_pos h2] at read
    obtain ⟨atLeast, fits, split⟩ := readNumber_eq_ok read
    rw [if_neg (by omega), if_neg (by omega), if_pos (by omega), split, h2]
    exact ⟨by omega, rfl⟩
  by_cases h3 : additional = 26
  · rw [if_neg h0, if_neg h1, if_neg h2, if_pos h3] at read
    obtain ⟨atLeast, fits, split⟩ := readNumber_eq_ok read
    rw [if_neg (by omega), if_neg (by omega), if_neg (by omega), if_pos (by omega), split, h3]
    exact ⟨by omega, rfl⟩
  by_cases h4 : additional = 27
  · rw [if_neg h0, if_neg h1, if_neg h2, if_neg h3, if_pos h4] at read
    obtain ⟨atLeast, fits, split⟩ := readNumber_eq_ok read
    rw [if_neg (by omega), if_neg (by omega), if_neg (by omega), if_neg (by omega), split, h4]
    exact ⟨by omega, rfl⟩
  · rw [if_neg h0, if_neg h1, if_neg h2, if_neg h3, if_neg h4] at read
    cases read

/-! ## The wire form -/

mutual

/-- The wire form of a value, the entries of its maps in their own order. -/
def wire : PyValue → Bytes
  | .none => [0xF6]
  | .bool false => [0xF4]
  | .bool true => [0xF5]
  | .int n => if 0 ≤ n then headBytes 0 n.toNat else headBytes 1 (-1 - n).toNat
  | .bytes value => headBytes 2 value.length ++ value
  | .str text => headBytes 3 (text.flatMap utf8Point).length ++ text.flatMap utf8Point
  | .list items => headBytes 4 items.length ++ wireItems items
  | .dict entries => headBytes 5 entries.length ++ wireEntries entries
  | .float _ _ => []

/-- The wire forms of the items of a list. -/
def wireItems : List PyValue → Bytes
  | [] => []
  | item :: rest => wire item ++ wireItems rest

/-- The wire forms of the entries of a map. -/
def wireEntries : List (PyValue × PyValue) → Bytes
  | [] => []
  | (key, item) :: rest => wire key ++ (wire item ++ wireEntries rest)

end

mutual

/-- The deterministic CBOR subset: `None`, booleans, integers of 64 bits and a
sign, byte strings, Unicode strings, and lists and maps of these, with distinct
scalar keys.  A length is a Python `len`, which fits 64 bits. -/
def CborValue : PyValue → Prop
  | .none => True
  | .bool _ => True
  | .int n => -2 ^ 64 ≤ n ∧ n < 2 ^ 64
  | .float _ _ => False
  | .bytes value => value.length ≤ maxU64
  | .str text => Scalar text ∧ (text.flatMap utf8Point).length ≤ maxU64
  | .list items => items.length ≤ maxU64 ∧ CborItems items
  | .dict entries =>
      entries.length ≤ maxU64 ∧ CborEntries entries ∧
        (entries.map fun entry => scalarKey? entry.1).Nodup

/-- Items of the subset. -/
def CborItems : List PyValue → Prop
  | [] => True
  | item :: rest => CborValue item ∧ CborItems rest

/-- Entries of the subset, with hashable keys. -/
def CborEntries : List (PyValue × PyValue) → Prop
  | [] => True
  | (key, item) :: rest =>
      (scalarKey? key).isSome ∧ CborValue key ∧ CborValue item ∧ CborEntries rest

end

/-! ## Reading a wire form -/

theorem readBytes_append {raw rest : Bytes} {size : ℕ} (length : raw.length = size) :
    readBytes size (raw ++ rest) = .ok (raw, rest) := by
  rw [readBytes, if_neg (by rw [List.length_append]; omega), List.take_left' length,
    List.drop_left' length]

theorem readBytes_one (initial : UInt8) (tail : Bytes) :
    readBytes 1 (initial :: tail) = .ok ([initial], tail) := by
  have length : [initial].length = 1 := rfl
  exact readBytes_append length

theorem fromBytesBE_singleton (b : UInt8) : fromBytesBE [b] = b.toNat := by
  rw [fromBytesBE, List.foldl_cons, List.foldl_nil, Nat.zero_mul, Nat.zero_add]

/-- The items of one byte. -/
theorem cborRead_simple {initial : UInt8} {v : PyValue} (high : initial.toNat >>> 5 = 7)
    (low : (initial.toNat &&& 0x1F = 20 ∧ v = .bool false) ∨
      (initial.toNat &&& 0x1F = 21 ∧ v = .bool true) ∨ (initial.toNat &&& 0x1F = 22 ∧ v = .none))
    (fuel : ℕ) (rest : Bytes) : cborRead (fuel + 1) (initial :: rest) = .ok (v, rest) := by
  refine bind_eq_ok_iff.mpr ⟨_, readBytes_one initial rest, ?_⟩
  simp only [fromBytesBE_singleton, high]
  rw [if_neg (by decide), if_neg (by decide), if_neg (by decide), if_neg (by decide)]
  rcases low with ⟨low, rfl⟩ | ⟨low, rfl⟩ | ⟨low, rfl⟩
  · rw [low, if_pos (by decide)]
  · rw [low, if_neg (by decide), if_pos (by decide)]
  · rw [low, if_neg (by decide), if_neg (by decide), if_pos (by decide)]

/-- The scalars of the subset are read back. -/
theorem cborRead_wire_scalar {v : PyValue} (scalar : (scalarKey? v).isSome) (value : CborValue v)
    (fuel : ℕ) (rest : Bytes) : cborRead (fuel + 1) (wire v ++ rest) = .ok (v, rest) := by
  cases v with
  | none => exact cborRead_simple rfl (Or.inr (Or.inr ⟨rfl, rfl⟩)) fuel rest
  | bool b =>
      cases b
      · exact cborRead_simple rfl (Or.inl ⟨rfl, rfl⟩) fuel rest
      · exact cborRead_simple rfl (Or.inr (Or.inl ⟨rfl, rfl⟩)) fuel rest
  | int n =>
      obtain ⟨lower, upper⟩ := value
      have head (major value : ℕ) (small : major < 2) (fits : value ≤ maxU64) :
          cborRead (fuel + 1) (headBytes major value ++ rest) =
            .ok (.int (if major = 0 then value else -1 - value), rest) := by
        obtain ⟨initial, tail, bytes, high, read⟩ :=
          readLength_headBytes (show major ≤ 7 by omega) fits rest
        rw [bytes]
        refine bind_eq_ok_iff.mpr ⟨_, readBytes_one initial tail, ?_⟩
        simp only [fromBytesBE_singleton, high]
        rw [if_pos (by omega)]
        exact bind_eq_ok_iff.mpr ⟨_, read, rfl⟩
      unfold wire
      unfold maxU64 at head
      by_cases positive : 0 ≤ n
      · rw [if_pos positive, head 0 _ (by decide) (by omega), if_pos rfl, Int.toNat_of_nonneg positive]
      · rw [if_neg positive, head 1 _ (by decide) (by omega), if_neg (by decide),
          Int.toNat_of_nonneg (by omega)]
        congr 3
        omega
  | bytes data =>
      obtain ⟨initial, tail, bytes, high, read⟩ :=
        readLength_headBytes (show 2 ≤ 7 by decide) value (data ++ rest)
      unfold wire
      rw [List.append_assoc, bytes]
      refine bind_eq_ok_iff.mpr ⟨_, readBytes_one initial tail, ?_⟩
      simp only [fromBytesBE_singleton, high]
      rw [if_neg (by decide), if_pos (by decide)]
      refine bind_eq_ok_iff.mpr ⟨_, read, ?_⟩
      exact bind_eq_ok_iff.mpr ⟨_, readBytes_append rfl, rfl⟩
  | str text =>
      obtain ⟨textScalar, fits⟩ := value
      obtain ⟨initial, tail, bytes, high, read⟩ :=
        readLength_headBytes (show 3 ≤ 7 by decide) fits (text.flatMap utf8Point ++ rest)
      unfold wire
      rw [List.append_assoc, bytes]
      refine bind_eq_ok_iff.mpr ⟨_, readBytes_one initial tail, ?_⟩
      simp only [fromBytesBE_singleton, high]
      rw [if_neg (by decide), if_pos (by decide)]
      refine bind_eq_ok_iff.mpr ⟨_, read, ?_⟩
      refine bind_eq_ok_iff.mpr ⟨_, readBytes_append rfl, ?_⟩
      simp only
      rw [if_neg (by decide), utf8Decode_utf8Encode (utf8Encode_eq_ok_iff.mpr ⟨textScalar, rfl⟩)]
  | float _ _ => cases scalar
  | list _ => cases scalar
  | dict _ => cases scalar

/-- Scalars with one wire form are one. -/
theorem eq_of_wire_eq {v v' : PyValue} (scalar : (scalarKey? v).isSome) (value : CborValue v)
    (scalar' : (scalarKey? v').isSome) (value' : CborValue v') (same : wire v = wire v') :
    v = v' := by
  have read := cborRead_wire_scalar scalar value 0 []
  rw [same, cborRead_wire_scalar scalar' value' 0 []] at read
  exact (Prod.mk.inj (Except.ok.inj read)).1.symm

/-- A key that is not among those read before is accepted. -/
theorem readEntries_cons {read : Bytes → Raises (PyValue × Bytes)} {count : ℕ}
    {encodedKeys : List Bytes} {before : List (PyValue × PyValue)} {key item : PyValue}
    {later rest : Bytes} {after : List (PyValue × PyValue)} (scalar : (scalarKey? key).isSome)
    (fresh : scalarKey? key ∉ before.map fun entry => scalarKey? entry.1)
    (freshBytes : wire key ∉ encodedKeys)
    (readKey : read (wire key ++ (wire item ++ later)) = .ok (key, wire item ++ later))
    (readItem : read (wire item ++ later) = .ok (item, later))
    (readLater : readEntries read count (wire key :: encodedKeys) (before ++ [(key, item)]) later =
      .ok (before ++ (key, item) :: after, rest)) :
    readEntries read (count + 1) encodedKeys before (wire key ++ (wire item ++ later)) =
      .ok (before ++ (key, item) :: after, rest) := by
  obtain ⟨hashed, hashes⟩ := Option.isSome_iff_exists.mp scalar
  have keyBytes : (wire key ++ (wire item ++ later)).take
      ((wire key ++ (wire item ++ later)).length - (wire item ++ later).length) = wire key := by
    refine List.take_left' ?_
    rw [List.length_append]
    omega
  refine bind_eq_ok_iff.mpr ⟨_, readKey, ?_⟩
  simp only
  rw [keyBytes, if_neg freshBytes]
  simp only [hashes]
  rw [if_neg (by rw [← hashes]; exact fresh)]
  exact bind_eq_ok_iff.mpr ⟨_, readItem, readLater⟩

mutual

/-- The wire form of a value is read back, with the bytes after it left unread. -/
theorem cborRead_wire : (v : PyValue) → CborValue v → (fuel : ℕ) → (wire v).length < fuel →
    (rest : Bytes) → cborRead fuel (wire v ++ rest) = .ok (v, rest)
  | _, _, 0, short, _ => absurd short (Nat.not_lt_zero _)
  | .none, value, fuel + 1, _, rest => cborRead_wire_scalar rfl value fuel rest
  | .bool _, value, fuel + 1, _, rest => cborRead_wire_scalar rfl value fuel rest
  | .int _, value, fuel + 1, _, rest => cborRead_wire_scalar rfl value fuel rest
  | .bytes _, value, fuel + 1, _, rest => cborRead_wire_scalar rfl value fuel rest
  | .str _, value, fuel + 1, _, rest => cborRead_wire_scalar rfl value fuel rest
  | .float _ _, value, _ + 1, _, _ => value.elim
  | .list items, ⟨fits, values⟩, fuel + 1, short, rest => by
      obtain ⟨initial, tail, bytes, high, read⟩ :=
        readLength_headBytes (show 4 ≤ 7 by decide) fits (wireItems items ++ rest)
      have positive : 0 < (headBytes 4 items.length).length := length_headBytes_pos 4 _
      have shorter : (wireItems items).length < fuel := by
        unfold wire at short
        rw [List.length_append] at short
        omega
      unfold wire
      rw [List.append_assoc, bytes]
      refine bind_eq_ok_iff.mpr ⟨_, readBytes_one initial tail, ?_⟩
      simp only [fromBytesBE_singleton, high]
      rw [if_neg (by decide), if_neg (by decide), if_pos trivial]
      refine bind_eq_ok_iff.mpr ⟨_, read, ?_⟩
      exact bind_eq_ok_iff.mpr ⟨_, readItems_wire items values fuel shorter rest, rfl⟩
  | .dict entries, ⟨fits, values, distinct⟩, fuel + 1, short, rest => by
      obtain ⟨initial, tail, bytes, high, read⟩ :=
        readLength_headBytes (show 5 ≤ 7 by decide) fits (wireEntries entries ++ rest)
      have positive : 0 < (headBytes 5 entries.length).length := length_headBytes_pos 5 _
      have shorter : (wireEntries entries).length < fuel := by
        unfold wire at short
        rw [List.length_append] at short
        omega
      have readAll := readEntries_wire entries values fuel shorter [] [] (fun _ mem => by cases mem)
        (fun _ mem => by cases mem) distinct rest
      unfold wire
      rw [List.append_assoc, bytes]
      refine bind_eq_ok_iff.mpr ⟨_, readBytes_one initial tail, ?_⟩
      simp only [fromBytesBE_singleton, high]
      rw [if_neg (by decide), if_neg (by decide), if_neg (by decide), if_pos trivial]
      refine bind_eq_ok_iff.mpr ⟨_, read, ?_⟩
      exact bind_eq_ok_iff.mpr ⟨_, readAll, rfl⟩

/-- The items of a list are read back. -/
theorem readItems_wire : (items : List PyValue) → CborItems items → (fuel : ℕ) →
    (wireItems items).length < fuel → (rest : Bytes) →
      readItems (cborRead fuel) items.length (wireItems items ++ rest) = .ok (items, rest)
  | [], _, _, _, _ => rfl
  | item :: later, ⟨value, values⟩, fuel, short, rest => by
      unfold wireItems at short ⊢
      rw [List.length_append] at short
      rw [List.append_assoc]
      refine bind_eq_ok_iff.mpr ⟨_, cborRead_wire item value fuel (by omega) _, ?_⟩
      exact bind_eq_ok_iff.mpr ⟨_, readItems_wire later values fuel (by omega) rest, rfl⟩

/-- The entries of a map are read back, after those read before. -/
theorem readEntries_wire : (entries : List (PyValue × PyValue)) → CborEntries entries →
    (fuel : ℕ) → (wireEntries entries).length < fuel → (encodedKeys : List Bytes) →
    (before : List (PyValue × PyValue)) →
    (∀ entry ∈ before, (scalarKey? entry.1).isSome ∧ CborValue entry.1) →
    (∀ bytes ∈ encodedKeys, ∃ entry ∈ before, bytes = wire entry.1) →
    ((before ++ entries).map fun entry => scalarKey? entry.1).Nodup → (rest : Bytes) →
      readEntries (cborRead fuel) entries.length encodedKeys before (wireEntries entries ++ rest) =
        .ok (before ++ entries, rest)
  | [], _, _, _, _, before, _, _, _, rest => by
      rw [List.append_nil]
      rfl
  | (key, item) :: later, ⟨scalar, keyValue, value, values⟩, fuel, short, encodedKeys, before,
      beforeValues, recorded, distinct, rest => by
      unfold wireEntries at short ⊢
      rw [List.length_append, List.length_append] at short
      rw [List.append_assoc, List.append_assoc]
      obtain ⟨fuel, rfl⟩ : ∃ fuel', fuel = fuel' + 1 := ⟨fuel - 1, by omega⟩
      have fresh : scalarKey? key ∉ before.map fun entry => scalarKey? entry.1 := by
        intro mem
        rw [List.map_append, List.nodup_append] at distinct
        exact distinct.2.2 _ mem _ (List.mem_cons_self ..) rfl
      have freshBytes : wire key ∉ encodedKeys := by
        intro mem
        obtain ⟨entry, inside, same⟩ := recorded _ mem
        obtain ⟨scalar', value'⟩ := beforeValues entry inside
        rw [eq_of_wire_eq scalar keyValue scalar' value' same] at fresh
        exact fresh (List.mem_map_of_mem inside)
      refine readEntries_cons scalar fresh freshBytes
        (cborRead_wire_scalar scalar keyValue fuel _)
        (cborRead_wire item value (fuel + 1) (by omega) _) ?_
      have laterRead := readEntries_wire later values (fuel + 1) (by omega) (wire key :: encodedKeys)
        (before ++ [(key, item)]) ?_ ?_ ?_ rest
      · rw [List.append_assoc] at laterRead
        exact laterRead
      · intro entry mem
        rcases List.mem_append.mp mem with mem | mem
        · exact beforeValues entry mem
        · rw [List.mem_singleton.mp mem]
          exact ⟨scalar, keyValue⟩
      · intro bytes mem
        rcases List.mem_cons.mp mem with rfl | mem
        · exact ⟨(key, item), List.mem_append_right _ (List.mem_singleton_self _), rfl⟩
        · obtain ⟨entry, inside, same⟩ := recorded bytes mem
          exact ⟨entry, List.mem_append_left _ inside, same⟩
      · rw [List.append_assoc]
        exact distinct

end

/-! ## What the reader accepts -/

/-- A reader that returns values of the subset and consumes their wire forms. -/
def ReadsWire (read : Bytes → Raises (PyValue × Bytes)) : Prop :=
  ∀ data v rest, read data = .ok (v, rest) → CborValue v ∧ data = wire v ++ rest

theorem readItems_sound {read : Bytes → Raises (PyValue × Bytes)} (sound : ReadsWire read)
    {count : ℕ} {data rest : Bytes} {items : List PyValue}
    (accepted : readItems read count data = .ok (items, rest)) :
    items.length = count ∧ CborItems items ∧ data = wireItems items ++ rest := by
  induction count generalizing data items with
  | zero =>
      cases accepted
      exact ⟨rfl, trivial, rfl⟩
  | succ count ih =>
      obtain ⟨⟨item, later⟩, first, accepted⟩ := bind_eq_ok_iff.mp accepted
      obtain ⟨⟨others, rest'⟩, more, accepted⟩ := bind_eq_ok_iff.mp accepted
      cases accepted
      simp only at more ⊢
      obtain ⟨value, consumed⟩ := sound _ _ _ first
      obtain ⟨length, values, consumed'⟩ := ih more
      refine ⟨congrArg (· + 1) length, ⟨value, values⟩, ?_⟩
      rw [consumed, consumed', wireItems, List.append_assoc]

theorem readEntries_sound {read : Bytes → Raises (PyValue × Bytes)} (sound : ReadsWire read)
    {count : ℕ} {encodedKeys : List Bytes} {before result : List (PyValue × PyValue)}
    {data rest : Bytes}
    (distinct : (before.map fun entry => scalarKey? entry.1).Nodup)
    (accepted : readEntries read count encodedKeys before data = .ok (result, rest)) :
    ∃ entries, result = before ++ entries ∧ entries.length = count ∧ CborEntries entries ∧
      (result.map fun entry => scalarKey? entry.1).Nodup ∧ data = wireEntries entries ++ rest := by
  induction count generalizing encodedKeys before data with
  | zero =>
      cases accepted
      exact ⟨[], (List.append_nil _).symm, rfl, trivial, distinct, rfl⟩
  | succ count ih =>
      obtain ⟨⟨key, afterKey⟩, readKey, accepted⟩ := bind_eq_ok_iff.mp accepted
      simp only at accepted
      split at accepted
      · cases accepted
      split at accepted
      · cases accepted
      rename_i hashed hashes
      split at accepted
      · cases accepted
      rename_i fresh
      obtain ⟨⟨item, later⟩, readItem, accepted⟩ := bind_eq_ok_iff.mp accepted
      obtain ⟨keyValue, keyConsumed⟩ := sound _ _ _ readKey
      obtain ⟨value, itemConsumed⟩ := sound _ _ _ readItem
      have distinct' : ((before ++ [(key, item)]).map fun entry => scalarKey? entry.1).Nodup := by
        rw [List.map_append, List.nodup_append]
        refine ⟨distinct, List.nodup_singleton _, ?_⟩
        intro k mem k' mem' same
        have kept : k = some hashed := same.trans ((List.mem_singleton.mp mem').trans hashes)
        rw [kept] at mem
        exact fresh mem
      obtain ⟨entries, whole, length, values, nodup, consumed⟩ := ih distinct' accepted
      simp only at consumed
      refine ⟨(key, item) :: entries, ?_, congrArg (· + 1) length, ⟨?_, keyValue, value, values⟩,
        nodup, ?_⟩
      · rw [whole, List.append_assoc]
        rfl
      · rw [hashes]
        rfl
      · rw [keyConsumed, itemConsumed, consumed, wireEntries, List.append_assoc, List.append_assoc]

/-- A number is the wire form of its value. -/
theorem number_wire {major n : ℕ} {data rest : Bytes} (fits : n ≤ maxU64)
    (number : major = 0 ∨ major = 1) (consumed : data = headBytes major n ++ rest) :
    CborValue (.int (if major = 0 then n else -1 - n)) ∧
      data = wire (.int (if major = 0 then n else -1 - n)) ++ rest := by
  unfold maxU64 at fits
  unfold CborValue wire
  rcases number with rfl | rfl
  · rw [if_pos rfl, if_pos (by omega), Int.toNat_natCast]
    exact ⟨by omega, consumed⟩
  · rw [if_neg (by decide), if_neg (by omega), show (-1 - (-1 - (n : ℤ))).toNat = n by omega]
    exact ⟨by omega, consumed⟩

/-- What the reader accepts is the wire form of what it returns. -/
theorem cborRead_sound (fuel : ℕ) : ReadsWire (cborRead fuel) := by
  induction fuel with
  | zero =>
      intro data v rest accepted
      cases accepted
  | succ fuel ih =>
      intro data v rest accepted
      obtain ⟨⟨raw, tail⟩, first, accepted⟩ := bind_eq_ok_iff.mp accepted
      obtain ⟨one, split⟩ := readBytes_eq_ok first
      obtain ⟨initial, rfl⟩ := List.length_eq_one_iff.mp one
      simp only [fromBytesBE_singleton] at accepted
      have whole : data = initial :: tail := split
      rw [whole]
      by_cases number : initial.toNat >>> 5 = 0 ∨ initial.toNat >>> 5 = 1
      · rw [if_pos number] at accepted
        obtain ⟨⟨n, later⟩, length, accepted⟩ := bind_eq_ok_iff.mp accepted
        obtain ⟨fits, consumed⟩ := headBytes_of_readLength length
        cases accepted
        exact number_wire fits number consumed
      by_cases text : initial.toNat >>> 5 = 2 ∨ initial.toNat >>> 5 = 3
      · rw [if_neg number, if_pos text] at accepted
        obtain ⟨⟨size, later⟩, length, accepted⟩ := bind_eq_ok_iff.mp accepted
        obtain ⟨⟨raw, later'⟩, taken, accepted⟩ := bind_eq_ok_iff.mp accepted
        obtain ⟨fits, consumed⟩ := headBytes_of_readLength length
        obtain ⟨rawLength, rawSplit⟩ := readBytes_eq_ok taken
        simp only at accepted fits consumed rawLength rawSplit
        by_cases bytes : initial.toNat >>> 5 = 2
        · rw [if_pos bytes] at accepted
          cases accepted
          refine ⟨by rw [CborValue, rawLength]; exact fits, ?_⟩
          rw [consumed, bytes, wire, rawLength, rawSplit, List.append_assoc]
        · rw [if_neg bytes] at accepted
          have three : initial.toNat >>> 5 = 3 := text.resolve_left bytes
          split at accepted
          · rename_i decoded read
            cases accepted
            obtain ⟨scalar, written⟩ := scalar_of_utf8Decode read
            refine ⟨⟨scalar, by rw [← written, rawLength]; exact fits⟩, ?_⟩
            rw [consumed, three, wire, ← written, rawLength, rawSplit, List.append_assoc]
          · cases accepted
      by_cases list : initial.toNat >>> 5 = 4
      · rw [if_neg number, if_neg text, if_pos list] at accepted
        obtain ⟨⟨count, later⟩, length, accepted⟩ := bind_eq_ok_iff.mp accepted
        obtain ⟨⟨items, later'⟩, read, accepted⟩ := bind_eq_ok_iff.mp accepted
        cases accepted
        obtain ⟨fits, consumed⟩ := headBytes_of_readLength length
        obtain ⟨itemsLength, values, itemsConsumed⟩ := readItems_sound ih read
        simp only at fits consumed itemsLength itemsConsumed ⊢
        refine ⟨⟨by rw [itemsLength]; exact fits, values⟩, ?_⟩
        rw [consumed, list, wire, itemsLength, itemsConsumed, List.append_assoc]
      by_cases map : initial.toNat >>> 5 = 5
      · rw [if_neg number, if_neg text, if_neg list, if_pos map] at accepted
        obtain ⟨⟨count, later⟩, length, accepted⟩ := bind_eq_ok_iff.mp accepted
        obtain ⟨⟨result, later'⟩, read, accepted⟩ := bind_eq_ok_iff.mp accepted
        cases accepted
        obtain ⟨fits, consumed⟩ := headBytes_of_readLength length
        have noKeys : (([] : List (PyValue × PyValue)).map fun entry =>
          scalarKey? entry.1).Nodup := List.nodup_nil
        obtain ⟨entries, same, entriesLength, values, distinct, entriesConsumed⟩ :=
          readEntries_sound ih noKeys read
        rw [List.nil_append] at same
        subst same
        simp only at fits consumed distinct entriesConsumed ⊢
        refine ⟨⟨by rw [entriesLength]; exact fits, values, distinct⟩, ?_⟩
        rw [consumed, map, wire, entriesLength, entriesConsumed, List.append_assoc]
      · rw [if_neg number, if_neg text, if_neg list, if_neg map] at accepted
        have byte := initialByte_of_fields initial
        split at accepted
        · rename_i fields
          cases accepted
          rw [← byte, fields.1, fields.2]
          exact ⟨trivial, rfl⟩
        split at accepted
        · rename_i fields
          cases accepted
          rw [← byte, fields.1, fields.2]
          exact ⟨trivial, rfl⟩
        split at accepted
        · rename_i fields
          cases accepted
          rw [← byte, fields.1, fields.2]
          exact ⟨trivial, rfl⟩
        · cases accepted

/-- **The accepted byte strings** are the wire forms of the values of the subset. -/
theorem cborDecode_eq_ok_iff {data : Bytes} {v : PyValue} :
    cborDecode data = .ok v ↔ CborValue v ∧ data = wire v := by
  constructor
  · intro accepted
    obtain ⟨⟨v', rest⟩, read, accepted⟩ := bind_eq_ok_iff.mp accepted
    simp only at accepted
    by_cases trailing : rest.length ≠ 0
    · rw [if_pos trailing] at accepted
      cases accepted
    · rw [if_neg trailing] at accepted
      cases accepted
      obtain ⟨value, consumed⟩ := cborRead_sound _ _ _ _ read
      rw [List.length_eq_zero_iff.mp (not_not.mp trailing), List.append_nil] at consumed
      exact ⟨value, consumed⟩
  · rintro ⟨value, rfl⟩
    have read := cborRead_wire v value _ (Nat.lt_succ_self _) []
    rw [List.append_nil] at read
    refine bind_eq_ok_iff.mpr ⟨_, read, ?_⟩
    rfl

end CubeNano

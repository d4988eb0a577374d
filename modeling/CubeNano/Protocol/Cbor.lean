import CubeNano.Lib.SortByKey
import CubeNano.Protocol.Utf8
import Mathlib.Data.List.Lex
import Mathlib.Data.Prod.Lex

/-!
# Deterministic CBOR

`deterministic_cbor_encode` and `deterministic_cbor_decode` of
`protocol/canonical.py`.  The encoder sorts the entries of a map by their encoded
keys; the reader keeps them in the order it meets them.

The reader holds the unread bytes in place of an offset.  Its recursion is
bounded by the number of bytes, of which every value takes one;
`sys.getrecursionlimit` is not modelled.

## Main definitions

* `cborEncode` — the encoder
* `cborRead`, `cborDecode` — the reader and the decoder
* `ScalarKey` — what Python's `==` sees of a hashable value
-/

namespace CubeNano

/-- `MAX_U64`. -/
def maxU64 : ℕ := 2 ^ 64 - 1

/-- `checked_u64` of an integer. -/
def checkedU64 (value : ℤ) (label : String) : Raises ℕ :=
  if value < 0 ∨ (maxU64 : ℤ) < value then
    valueError s!"{label} must be in [0, 18446744073709551615]"
  else .ok value.toNat

/-- The initial byte of an item. -/
def initialByte (major additional : ℕ) : UInt8 := UInt8.ofNat ((major <<< 5) ||| additional)

/-- The head of an item, its number in the shortest form. -/
def headBytes (major value : ℕ) : Bytes :=
  if value < 24 then [initialByte major value]
  else if value ≤ 0xFF then initialByte major 24 :: toBytesBE 1 value
  else if value ≤ 0xFFFF then initialByte major 25 :: toBytesBE 2 value
  else if value ≤ 0xFFFFFFFF then initialByte major 26 :: toBytesBE 4 value
  else initialByte major 27 :: toBytesBE 8 value

/-- `_cbor_head`. -/
def cborHead (major value : ℕ) : Raises Bytes := do
  let _ ← checkedU64 value "CBOR value"
  .ok (headBytes major value)

/-! ## The encoder -/

/-- `(len(key), key)`, the order of the keys in a map. -/
def keyOrder (key : Bytes) : ℕ ×ₗ List ℕ := toLex (key.length, key.map UInt8.toNat)

mutual

/-- `deterministic_cbor_encode`. -/
def cborEncode : PyValue → Raises Bytes
  | .none => .ok [0xF6]
  | .bool false => .ok [0xF4]
  | .bool true => .ok [0xF5]
  | .int n =>
      if 0 ≤ n then do cborHead 0 (← checkedU64 n "CBOR unsigned integer")
      else do cborHead 1 (← checkedU64 (-1 - n) "CBOR negative integer")
  | .bytes value => do
      let head ← cborHead 2 value.length
      .ok (head ++ value)
  | .str text => do
      let encoded ← utf8Encode text
      let head ← cborHead 3 encoded.length
      .ok (head ++ encoded)
  | .list items => do
      let head ← cborHead 4 items.length
      let encoded ← cborEncodeItems items
      .ok (head ++ encoded.flatten)
  | .dict entries => do
      let pairs ← cborEncodeEntries entries
      let sorted := sortByKey (fun pair => keyOrder pair.1) pairs
      let head ← cborHead 5 sorted.length
      .ok (head ++ sorted.flatMap fun pair => pair.1 ++ pair.2)
  | .float _ _ => typeError "unsupported deterministic CBOR type: float"

/-- The encoded items of a list. -/
def cborEncodeItems : List PyValue → Raises (List Bytes)
  | [] => .ok []
  | item :: rest => do
      let encoded ← cborEncode item
      let others ← cborEncodeItems rest
      .ok (encoded :: others)

/-- The encoded entries of a dictionary, each key with its value. -/
def cborEncodeEntries : List (PyValue × PyValue) → Raises (List (Bytes × Bytes))
  | [] => .ok []
  | (key, item) :: rest => do
      let keyBytes ← cborEncode key
      let itemBytes ← cborEncode item
      let others ← cborEncodeEntries rest
      .ok ((keyBytes, itemBytes) :: others)

end

/-! ## The reader -/

/-- What `==` and `hash` see of a hashable value: `True` is `1` and `False` is `0`. -/
inductive ScalarKey
  | none
  | int (value : ℤ)
  | bytes (value : Bytes)
  | str (value : Text)
  deriving DecidableEq

/-- The key a value is looked up by; lists and dictionaries are not hashable, and
the reader returns no floats. -/
def scalarKey? : PyValue → Option ScalarKey
  | .none => some .none
  | .bool b => some (.int b.toNat)
  | .int n => some (.int n)
  | .bytes value => some (.bytes value)
  | .str text => some (.str text)
  | .float _ _ => none
  | .list _ => none
  | .dict _ => none

/-- The name of the type in the text of the `TypeError` for an unhashable key. -/
def unhashableName : PyValue → String
  | .dict _ => "dict"
  | _ => "list"

/-- `_CborReader._read`. -/
def readBytes (size : ℕ) (data : Bytes) : Raises (Bytes × Bytes) :=
  if size > data.length then valueError "truncated deterministic CBOR"
  else .ok (data.take size, data.drop size)

/-- A number of `width` bytes that is not below `least`. -/
def readNumber (width least : ℕ) (data : Bytes) : Raises (ℕ × Bytes) := do
  let raw ← readBytes width data
  if fromBytesBE raw.1 < least then valueError "non-canonical CBOR length"
  else .ok (fromBytesBE raw.1, raw.2)

/-- `_CborReader._length`. -/
def readLength (additional : ℕ) (data : Bytes) : Raises (ℕ × Bytes) :=
  if additional < 24 then .ok (additional, data)
  else if additional = 24 then readNumber 1 24 data
  else if additional = 25 then readNumber 2 0x100 data
  else if additional = 26 then readNumber 4 0x10000 data
  else if additional = 27 then readNumber 8 0x100000000 data
  else valueError "indefinite-length or reserved CBOR item is not supported"

/-- The items of a list, each read by `read`. -/
def readItems (read : Bytes → Raises (PyValue × Bytes)) : ℕ → Bytes →
    Raises (List PyValue × Bytes)
  | 0, data => .ok ([], data)
  | count + 1, data => do
      let item ← read data
      let others ← readItems read count item.2
      .ok (item.1 :: others.1, others.2)

/-- The entries of a map: `encodedKeys` and `result` of the loop, and the unread bytes. -/
def readEntries (read : Bytes → Raises (PyValue × Bytes)) : ℕ → List Bytes →
    List (PyValue × PyValue) → Bytes → Raises (List (PyValue × PyValue) × Bytes)
  | 0, _, result, data => .ok (result, data)
  | count + 1, encodedKeys, result, data => do
      let key ← read data
      let keyBytes := data.take (data.length - key.2.length)
      if keyBytes ∈ encodedKeys then valueError "duplicate deterministic CBOR map key"
      else
        match scalarKey? key.1 with
        | none => typeError ("unhashable type: '" ++ unhashableName key.1 ++ "'")
        | some hashed =>
            if some hashed ∈ result.map (scalarKey? ·.1) then
              valueError "duplicate deterministic CBOR map key"
            else do
              let item ← read key.2
              readEntries read count (keyBytes :: encodedKeys) (result ++ [(key.1, item.1)]) item.2

/-- `_CborReader.value`: what was read and the bytes after it. -/
def cborRead : (fuel : ℕ) → Bytes → Raises (PyValue × Bytes)
  | 0, _ => .error ⟨.nonTermination, ""⟩
  | fuel + 1, data => do
      let first ← readBytes 1 data
      let initial := fromBytesBE first.1
      let major := initial >>> 5
      let additional := initial &&& 0x1F
      if major = 0 ∨ major = 1 then do
        let number ← readLength additional first.2
        .ok (.int (if major = 0 then number.1 else -1 - number.1), number.2)
      else if major = 2 ∨ major = 3 then do
        let length ← readLength additional first.2
        let raw ← readBytes length.1 length.2
        if major = 2 then .ok (.bytes raw.1, raw.2)
        else
          match utf8Decode raw.1 with
          | .ok text => .ok (.str text, raw.2)
          | .error _ => valueError "invalid UTF-8 in deterministic CBOR"
      else if major = 4 then do
        let count ← readLength additional first.2
        let items ← readItems (cborRead fuel) count.1 count.2
        .ok (.list items.1, items.2)
      else if major = 5 then do
        let count ← readLength additional first.2
        let entries ← readEntries (cborRead fuel) count.1 [] [] count.2
        .ok (.dict entries.1, entries.2)
      else if major = 7 ∧ additional = 20 then .ok (.bool false, first.2)
      else if major = 7 ∧ additional = 21 then .ok (.bool true, first.2)
      else if major = 7 ∧ additional = 22 then .ok (.none, first.2)
      else valueError "floats, tags and reserved CBOR values are not supported"

/-- `deterministic_cbor_decode`. -/
def cborDecode (data : Bytes) : Raises PyValue := do
  let read ← cborRead (data.length + 1) data
  if read.2.length ≠ 0 then valueError "trailing bytes after deterministic CBOR value"
  else .ok read.1

end CubeNano

import CubeNano.Protocol.Bytes

/-!
# Dynamic values

The Python values that cross a serialisation boundary: what `json.loads` and the
CBOR reader return, and what the canonical encoders accept.
-/

namespace CubeNano

/-- A code point; a Python string may hold lone surrogates. -/
abbrev CodePoint := Fin 0x110000

instance neZero_codePoints : NeZero (0x110000 : ℕ) := ⟨by decide⟩

/-- Python `str`, as its code points. -/
abbrev Text := List CodePoint

instance lawfulBEqText : LawfulBEq Text := inferInstance

/-- The code point of a character. -/
def codePoint (c : Char) : CodePoint :=
  ⟨c.toNat, by
    have := c.valid
    unfold UInt32.isValidChar Nat.isValidChar at this
    change c.val.toNat < 0x110000
    omega⟩

/-- A string literal. -/
def Text.ofString (s : String) : Text := s.toList.map codePoint

/-- Python's comparison of strings, by code points. -/
def Text.le : Text → Text → Bool
  | [], _ => true
  | _ :: _, [] => false
  | c :: rest, c' :: rest' => c < c' || (c = c' && Text.le rest rest')

/-! ## Digits -/

/-- The digit character of a value below 16, in lower case. -/
def digitPoint (d : ℕ) : CodePoint :=
  if d < 10 then Fin.ofNat _ (0x30 + d) else Fin.ofNat _ (0x57 + d)

/-- The value of a decimal digit. -/
def decimalValue? (c : CodePoint) : Option ℕ :=
  if 0x30 ≤ c.val ∧ c.val ≤ 0x39 then some (c.val - 0x30) else none

/-- The value of a hexadecimal digit of either case. -/
def hexValue? (c : CodePoint) : Option ℕ :=
  if 0x30 ≤ c.val ∧ c.val ≤ 0x39 then some (c.val - 0x30)
  else if 0x61 ≤ c.val ∧ c.val ≤ 0x66 then some (c.val - 0x57)
  else if 0x41 ≤ c.val ∧ c.val ≤ 0x46 then some (c.val - 0x37)
  else none

/-- The decimal digits of a number, most significant first. -/
def decimalDigits : (fuel n : ℕ) → List ℕ
  | 0, _ => []
  | fuel + 1, n => if n < 10 then [n] else decimalDigits fuel (n / 10) ++ [n % 10]

/-- `str(n)` of a natural number. -/
def decimalText (n : ℕ) : Text := (decimalDigits (n + 1) n).map digitPoint

/-- The low `width` hexadecimal digits of a number; all of them when it fits. -/
def hexText : (width n : ℕ) → Text
  | 0, _ => []
  | width + 1, n => hexText width (n / 16) ++ [digitPoint (n % 16)]

/-- `bytes.hex()`. -/
def hexOfBytes (data : Bytes) : Text := data.flatMap fun byte => hexText 2 byte.toNat

/-- The number a digit string denotes in a base. -/
def natOfDigits (base : ℕ) (digits : List ℕ) : ℕ := digits.foldl (fun n d => n * base + d) 0

@[simp] theorem length_hexText (width n : ℕ) : (hexText width n).length = width := by
  induction width generalizing n with
  | zero => rfl
  | succ width ih => simp [hexText, ih]

theorem natOfDigits_concat (base : ℕ) (digits : List ℕ) (d : ℕ) :
    natOfDigits base (digits ++ [d]) = natOfDigits base digits * base + d := by
  simp [natOfDigits]

theorem natOfDigits_decimalDigits {fuel n : ℕ} (enough : n < fuel) :
    natOfDigits 10 (decimalDigits fuel n) = n := by
  induction fuel generalizing n with
  | zero => omega
  | succ fuel ih =>
      unfold decimalDigits
      split
      · simp [natOfDigits]
      · rw [natOfDigits_concat, ih (by omega)]
        omega

theorem lt_ten_of_mem_decimalDigits {fuel n d : ℕ} (mem : d ∈ decimalDigits fuel n) : d < 10 := by
  induction fuel generalizing n with
  | zero => cases mem
  | succ fuel ih =>
      unfold decimalDigits at mem
      split at mem
      · rename_i small
        rwa [List.mem_singleton.mp mem]
      · rcases List.mem_append.mp mem with mem | mem
        · exact ih mem
        · rw [List.mem_singleton.mp mem]
          omega

theorem decimalValue?_digitPoint {d : ℕ} (small : d < 10) :
    decimalValue? (digitPoint d) = some d := by
  revert small
  revert d
  decide

theorem hexValue?_digitPoint {d : ℕ} (small : d < 16) : hexValue? (digitPoint d) = some d := by
  revert small
  revert d
  decide

/-- A number that fits is the value of its hexadecimal digits. -/
theorem hexText_values {width n : ℕ} (fits : n < 16 ^ width) :
    ∃ values, (hexText width n).mapM hexValue? = some values ∧ natOfDigits 16 values = n := by
  induction width generalizing n with
  | zero =>
      obtain rfl : n = 0 := by simpa using fits
      exact ⟨[], rfl, rfl⟩
  | succ width ih =>
      have high : n / 16 < 16 ^ width := by
        rw [Nat.div_lt_iff_lt_mul (by decide)]
        simpa [pow_succ] using fits
      obtain ⟨values, read, value⟩ := ih high
      refine ⟨values ++ [n % 16], ?_, ?_⟩
      · have digit := hexValue?_digitPoint (Nat.mod_lt n (by decide : 0 < 16))
        simp [hexText, List.mapM_append, read, digit]
      · rw [natOfDigits_concat, value]
        omega

/-- A 32-bit identity field. -/
abbrev U32 := Fin (2 ^ 32)

/-- A 64-bit identity field. -/
abbrev U64 := Fin (2 ^ 64)

instance neZero_u32 : NeZero (2 ^ 32 : ℕ) := ⟨by decide⟩

instance neZero_u64 : NeZero (2 ^ 64 : ℕ) := ⟨by decide⟩

/-- A dynamic value.  A float keeps its source text and whether it is finite:
the canonical encoders refuse it either way, with different exceptions.  A
`dict` lists its entries in insertion order. -/
inductive PyValue
  | none
  | bool (value : Bool)
  | int (value : ℤ)
  | float (finite : Bool) (literal : Text)
  | bytes (value : Bytes)
  | str (value : Text)
  | list (items : List PyValue)
  | dict (entries : List (PyValue × PyValue))
  deriving Inhabited

end CubeNano

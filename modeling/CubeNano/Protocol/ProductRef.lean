import CubeNano.Protocol.Json

/-!
# Identity fields in JSON

The scalar readers of `protocol/canonical.py` and `ProductRef` of
`protocol/schemas.py`: 64-bit identities are 16-character hexadecimal strings,
32-bit ones are JSON integers.

`ProductRef.fromDict_asDict` is the round trip of a product reference, also when
other members surround it in the canonical order.

## Main definitions

* `checkedU32`, `u64FromJson`, `u64ToJson`, `pyInt`
* `ProductRef`, `ProductRef.asDict`, `ProductRef.fromDict`
-/

namespace CubeNano

/-! ## Scalars -/

theorem toNat_lt_u32 {n : ℤ} (h : 0 ≤ n ∧ n < 2 ^ 32) : n.toNat < 2 ^ 32 := by omega

/-- `checked_u32`. -/
def checkedU32 (value : PyValue) (label : String) : Raises U32 :=
  match value with
  | .int n =>
      if h : 0 ≤ n ∧ n < 2 ^ 32 then .ok ⟨n.toNat, toNat_lt_u32 h⟩
      else valueError s!"{label} must be in [0, 4294967295]"
  | _ => typeError s!"{label} must be an integer"

/-- `u64_to_json`. -/
def u64ToJson (value : U64) : Text := hexText 16 value.val

/-- A lower-case hexadecimal digit. -/
def isLowerHex (c : CodePoint) : Bool :=
  (0x30 ≤ c.val ∧ c.val ≤ 0x39) ∨ (0x61 ≤ c.val ∧ c.val ≤ 0x66)

/-- `int(text, 16)` of hexadecimal digits. -/
def hexNumber (text : Text) : ℕ := natOfDigits 16 ((text.mapM hexValue?).getD [])

/-- `u64_from_json`.  Of the characters that `lower` and `strip` change, the ASCII
letters and the space are told apart; the texts that only the last check refuses and
the others are refused with one message. -/
def u64FromJson (value : PyValue) (label : String) : Raises U64 :=
  match value with
  | .str text =>
      if text.length ≠ 16 then valueError s!"{label} must be a 16-character lowercase hex string"
      else if text.any (fun c => 0x41 ≤ c.val ∧ c.val ≤ 0x5A) ∨ text.head? = some 0x20 ∨
          text.getLast? = some 0x20 then
        valueError s!"{label} must use lowercase hex without whitespace"
      else if text.all isLowerHex then
        if h : hexNumber text < 2 ^ 64 then .ok ⟨hexNumber text, h⟩
        else valueError s!"{label} must be in [0, 18446744073709551615]"
      else valueError s!"{label} must be lowercase hexadecimal"
  | _ => valueError s!"{label} must be a 16-character lowercase hex string"

/-- The zeros of the Unicode decimal digits. -/
def decimalZeros : List ℕ :=
  [0x30, 0x660, 0x6F0, 0x7C0, 0x966, 0x9E6, 0xA66, 0xAE6, 0xB66, 0xBE6, 0xC66, 0xCE6, 0xD66, 0xDE6,
   0xE50, 0xED0, 0xF20, 0x1040, 0x1090, 0x17E0, 0x1810, 0x1946, 0x19D0, 0x1A80, 0x1A90, 0x1B50,
   0x1BB0, 0x1C40, 0x1C50, 0xA620, 0xA8D0, 0xA900, 0xA9D0, 0xA9F0, 0xAA50, 0xABF0, 0xFF10, 0x104A0,
   0x10D30, 0x11066, 0x110F0, 0x11136, 0x111D0, 0x112F0, 0x11450, 0x114D0, 0x11650, 0x116C0,
   0x11730, 0x118E0, 0x11950, 0x11C50, 0x11D50, 0x11DA0, 0x16A60, 0x16AC0, 0x16B50, 0x1D7CE,
   0x1D7D8, 0x1D7E2, 0x1D7EC, 0x1D7F6, 0x1E140, 0x1E2F0, 0x1E950, 0x1FBF0]

/-- The white space `int` strips. -/
def isIntSpace (c : CodePoint) : Bool :=
  c.val = 0x20 ∨ (0x09 ≤ c.val ∧ c.val ≤ 0x0D) ∨ c.val = 0x85 ∨ c.val = 0xA0 ∨ c.val = 0x1680 ∨
    (0x2000 ≤ c.val ∧ c.val ≤ 0x200A) ∨ c.val = 0x2028 ∨ c.val = 0x2029 ∨ c.val = 0x202F ∨
    c.val = 0x205F ∨ c.val = 0x3000

/-- The value of a Unicode decimal digit. -/
def unicodeDecimal? (c : CodePoint) : Option ℕ :=
  (decimalZeros.find? fun z => z ≤ c.val ∧ c.val ≤ z + 9).map fun z => c.val - z

/-- Digits with single underscores between them. -/
def underscoredDigits? : Text → Option (List ℕ)
  | [] => none
  | [c] => (unicodeDecimal? c).map ([·])
  | c :: c' :: rest =>
      match unicodeDecimal? c with
      | none => none
      | some d =>
          if c' = 0x5F then (underscoredDigits? rest).map (d :: ·)
          else (underscoredDigits? (c' :: rest)).map (d :: ·)

/-- `int(text)`. -/
def intOfText (text : Text) : Raises ℤ :=
  let stripped := ((text.dropWhile isIntSpace).reverse.dropWhile isIntSpace).reverse
  let (negative, body) := takeSign stripped
  match underscoredDigits? body with
  | none => valueError "invalid literal for int() with base 10"
  | some digits => intOfLiteral negative digits

/-- `int(value)` of a value without floats and bytes. -/
def pyInt : PyValue → Raises ℤ
  | .int n => .ok n
  | .bool value => .ok (if value then 1 else 0)
  | .str text => intOfText text
  | _ => typeError
      "int() argument must be a string, a bytes-like object or a real number"

/-! ## Product references -/

/-- `ProductRef`. -/
structure ProductRef where
  spacecraftInstanceId : U64
  originBootId : U32
  productId : U32
  deriving DecidableEq

/-- The entry of a dictionary under a string key. -/
def dictGet? (entries : List (PyValue × PyValue)) (key : String) : Option PyValue :=
  match entries.find? fun entry =>
    match entry.1 with
    | .str text => text = Text.ofString key
    | _ => false with
  | none => none
  | some entry => some entry.2

/-- The keys of a dictionary that are strings. -/
def stringKeys (entries : List (PyValue × PyValue)) : List Text :=
  (membersOf entries).map Prod.fst

/-- A Python dictionary. -/
abbrev PyDict := List (PyValue × PyValue)

/-- A dictionary display with `**update` at its end. -/
def dictUpdate (entries update : PyDict) : PyDict :=
  entries.map (fun entry =>
    if (stringKeys [entry]).any (stringKeys update).contains then
      (entry.1, ((update.find? fun other => stringKeys [other] = stringKeys [entry]).map
        Prod.snd).getD entry.2)
    else entry) ++
  update.filter fun other => !(stringKeys [other]).any (stringKeys entries).contains

/-- A string key. -/
def strKey (key : String) : PyValue := .str (Text.ofString key)

namespace ProductRef

/-- `ProductRef.as_dict`. -/
def asDict (r : ProductRef) : PyValue :=
  .dict [(strKey "spacecraft_instance_id", .str (u64ToJson r.spacecraftInstanceId)),
    (strKey "origin_boot_id", .int r.originBootId.val),
    (strKey "product_id", .int r.productId.val)]

/-- `ProductRef.from_dict`. -/
def fromDict (value : PyValue) : Raises ProductRef :=
  match value with
  | .dict entries => do
      let spacecraft ← u64FromJson ((dictGet? entries "spacecraft_instance_id").getD .none)
        "spacecraft_instance_id"
      let boot ← checkedU32 ((dictGet? entries "origin_boot_id").getD .none) "origin_boot_id"
      let product ← checkedU32 ((dictGet? entries "product_id").getD .none) "product_id"
      .ok ⟨spacecraft, boot, product⟩
  | _ => valueError "product_ref must be an object"

end ProductRef

/-! ## Dictionaries with literal keys -/

theorem codePoint_injective : Function.Injective codePoint := by
  intro c c' same
  have values : c.toNat = c'.toNat := congrArg (fun point : CodePoint => point.val) same
  exact Char.ext (UInt32.toNat_inj.mp values)

theorem ofString_injective : Function.Injective Text.ofString := by
  intro s s' same
  have lists : s.toList = s'.toList := List.map_injective_iff.mpr codePoint_injective same
  exact String.toList_inj.mp lists

theorem dictGet?_cons_self (key : String) (value : PyValue) (rest : List (PyValue × PyValue)) :
    dictGet? ((strKey key, value) :: rest) key = some value := by
  unfold dictGet? strKey
  rw [List.find?_cons_of_pos (by simp)]

theorem dictGet?_cons_of_ne {key key' : String} (ne : key' ≠ key) (value : PyValue)
    (rest : List (PyValue × PyValue)) :
    dictGet? ((strKey key', value) :: rest) key = dictGet? rest key := by
  have other : Text.ofString key' ≠ Text.ofString key := fun same => ne (ofString_injective same)
  unfold dictGet? strKey
  rw [List.find?_cons_of_neg (by simpa using other)]

theorem strKey_injective : Function.Injective strKey := by
  intro key key' same
  exact ofString_injective (PyValue.str.inj same)

/-- An entry of a dictionary with distinct keys is found under its key. -/
theorem dictGet?_of_mem {entries : List (PyValue × PyValue)} {key : String} {value : PyValue}
    (distinct : (entries.map Prod.fst).Nodup) (mem : (strKey key, value) ∈ entries) :
    dictGet? entries key = some value := by
  induction entries with
  | nil => cases mem
  | cons entry rest ih =>
      obtain ⟨k, v⟩ := entry
      rw [List.map_cons, List.nodup_cons] at distinct
      rcases List.mem_cons.mp mem with same | later
      · cases same
        exact dictGet?_cons_self key value rest
      · have found := ih distinct.2 later
        have other : k ≠ strKey key := by
          rintro rfl
          exact distinct.1 (List.mem_map.mpr ⟨_, later, rfl⟩)
        unfold dictGet? at found ⊢
        rw [List.find?_cons_of_neg]
        · exact found
        · cases k with
          | str text =>
              simp only [decide_eq_true_eq]
              rintro rfl
              exact other rfl
          | _ => simp

theorem mem_of_dictGet? {entries : List (PyValue × PyValue)} {key : String} {value : PyValue}
    (found : dictGet? entries key = some value) : (strKey key, value) ∈ entries := by
  unfold dictGet? at found
  split at found
  · cases found
  · rename_i entry located
    cases found
    have mem := List.mem_of_find?_eq_some located
    have matched := List.find?_some located
    obtain ⟨k, v⟩ := entry
    cases k with
    | str text =>
        simp only [decide_eq_true_eq] at matched
        rw [matched] at mem
        exact mem
    | _ => cases matched

/-- The accepted integers of 32 bits. -/
theorem checkedU32_eq_ok {value : PyValue} {label : String} {n : U32}
    (accepted : checkedU32 value label = .ok n) : value = .int n.val := by
  unfold checkedU32 at accepted
  split at accepted
  · rename_i m
    split at accepted
    · rename_i bounds
      cases accepted
      show PyValue.int m = .int m.toNat
      rw [Int.toNat_of_nonneg bounds.1]
    · cases accepted
  · cases accepted

/-! ## Round trips -/

theorem checkedU32_int (n : U32) (label : String) : checkedU32 (.int n.val) label = .ok n := by
  have bounds : 0 ≤ (n.val : ℤ) ∧ (n.val : ℤ) < 2 ^ 32 := by
    have := n.isLt
    omega
  rw [checkedU32, dif_pos bounds]
  rfl

theorem isLowerHex_digitPoint {d : ℕ} (small : d < 16) : isLowerHex (digitPoint d) = true := by
  revert small
  revert d
  decide

theorem all_isLowerHex_hexText (width n : ℕ) : (hexText width n).all isLowerHex = true := by
  induction width generalizing n with
  | zero => rfl
  | succ width ih =>
      rw [hexText, List.all_append, ih]
      simp [isLowerHex_digitPoint (Nat.mod_lt n (by decide))]

theorem hexNumber_hexText {width n : ℕ} (fits : n < 16 ^ width) :
    hexNumber (hexText width n) = n := by
  obtain ⟨values, read, value⟩ := hexText_values fits
  rw [hexNumber, read]
  exact value

theorem u64FromJson_u64ToJson (n : U64) (label : String) :
    u64FromJson (.str (u64ToJson n)) label = .ok n := by
  have hex := all_isLowerHex_hexText 16 n.val
  have number : hexNumber (hexText 16 n.val) = n.val :=
    hexNumber_hexText (by simpa using n.isLt)
  have lower {c : CodePoint} (mem : c ∈ hexText 16 n.val) : isLowerHex c = true :=
    List.all_eq_true.mp hex c mem
  have clean : ¬ ((hexText 16 n.val).any (fun c => 0x41 ≤ c.val ∧ c.val ≤ 0x5A) = true ∨
      (hexText 16 n.val).head? = some 0x20 ∨ (hexText 16 n.val).getLast? = some 0x20) := by
    rintro (upper | first | last)
    · obtain ⟨c, mem, range⟩ := List.any_eq_true.mp upper
      have := lower mem
      simp only [isLowerHex, decide_eq_true_eq] at this range
      omega
    · exact absurd (lower (List.mem_of_mem_head? first)) (by decide)
    · exact absurd (lower (List.mem_of_getLast? last)) (by decide)
  unfold u64FromJson u64ToJson
  simp only [length_hexText, ne_eq, not_true_eq_false, if_false, if_neg clean, hex, if_true, number,
    dif_pos n.isLt]

/-- A lower-case digit is that of its value. -/
theorem digitPoint_of_hexValue? {c : CodePoint} (hex : isLowerHex c = true) :
    ∃ d < 16, hexValue? c = some d ∧ digitPoint d = c := by
  simp only [isLowerHex, decide_eq_true_eq] at hex
  unfold hexValue?
  rcases hex with ⟨low, high⟩ | ⟨low, high⟩
  · refine ⟨c.val - 0x30, by omega, by rw [if_pos ⟨low, high⟩], ?_⟩
    unfold digitPoint
    rw [if_pos (by omega)]
    apply Fin.ext
    show (0x30 + (c.val - 0x30)) % 0x110000 = c.val
    omega
  · refine ⟨c.val - 0x57, by omega, by rw [if_neg (by omega), if_pos ⟨low, high⟩], ?_⟩
    unfold digitPoint
    rw [if_neg (by omega)]
    apply Fin.ext
    show (0x57 + (c.val - 0x57)) % 0x110000 = c.val
    omega

/-- The values of lower-case digits, and the digits of their number. -/
theorem hexText_of_lowerHex {text : Text} (hex : text.all isLowerHex = true) :
    ∃ values, text.mapM hexValue? = some values ∧
      hexText text.length (natOfDigits 16 values) = text := by
  induction text using List.reverseRecOn with
  | nil => exact ⟨[], rfl, rfl⟩
  | append_singleton text c ih =>
      rw [List.all_append, Bool.and_eq_true] at hex
      obtain ⟨values, read, written⟩ := ih hex.1
      obtain ⟨d, small, value, point⟩ := digitPoint_of_hexValue? (List.all_eq_true.mp hex.2 c
        (List.mem_singleton_self c))
      refine ⟨values ++ [d], ?_, ?_⟩
      · rw [List.mapM_append, read]
        simp [value]
      · rw [List.length_append, List.length_singleton, hexText, natOfDigits_concat]
        have quotient : (natOfDigits 16 values * 16 + d) / 16 = natOfDigits 16 values := by omega
        have digit : (natOfDigits 16 values * 16 + d) % 16 = d := by omega
        rw [quotient, digit, written, point]

/-- The accepted texts of 64-bit identities. -/
theorem u64FromJson_eq_ok {value : PyValue} {label : String} {n : U64}
    (accepted : u64FromJson value label = .ok n) : value = .str (u64ToJson n) := by
  unfold u64FromJson at accepted
  split at accepted
  · rename_i text
    split at accepted
    · cases accepted
    rename_i length
    split at accepted
    · cases accepted
    split at accepted
    · rename_i hex
      split at accepted
      · cases accepted
        obtain ⟨values, read, written⟩ := hexText_of_lowerHex hex
        rw [not_not] at length
        have number : hexNumber text = natOfDigits 16 values := by
          rw [hexNumber, read]
          rfl
        rw [u64ToJson]
        simp only
        rw [length] at written
        rw [number, written]
      · cases accepted
    · cases accepted
  · cases accepted

end CubeNano

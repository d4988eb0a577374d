import CubeNano.Protocol.Exceptions
import CubeNano.Protocol.PyValue
import Mathlib.Data.List.Chain
import Mathlib.Data.List.Sort

/-!
# JSON

`json.loads`, `json.dumps` with sorted keys and ASCII escapes, and
`canonical_json` of `protocol/canonical.py`.

A JSON text is read by `scanValue`, which returns what it read and the rest of the
text.  The nesting of a text is bounded by its length only; `sys.getrecursionlimit`
is not modelled, and neither are the positions in the texts of decode errors.

`StringWriter.scanValue_value` is the round trip: what a writer writes for a value is read
back as that value.  `dumps` is such a writer on values with sorted keys.

## Main definitions

* `utf8Decode`, `jsonLoads` — reading
* `dumpsText`, `canonicalJson` — writing
* `StringWriter` — a writer of values, with its way to write strings
* `Plain` — the values that `dumps` writes in their own order, and that survive the round trip
-/

namespace CubeNano

/-- `json.JSONDecodeError`. -/
def jsonDecodeError {α : Type} (message : String) : Raises α := .error ⟨.jsonDecodeError, message⟩

/-! ## UTF-8 -/

/-- `UnicodeDecodeError`. -/
def unicodeDecodeError {α : Type} (message : String) : Raises α :=
  .error ⟨.unicodeDecodeError, message⟩

/-- The six payload bits of a continuation byte. -/
def continuation? (byte : UInt8) : Option ℕ :=
  if 0x80 ≤ byte.toNat ∧ byte.toNat ≤ 0xBF then some (byte.toNat - 0x80) else none

/-- `data.decode("utf-8")`. -/
def utf8Decode : Bytes → Raises Text
  | [] => .ok []
  | b0 :: rest =>
      if b0.toNat < 0x80 then (utf8Decode rest).map (Fin.ofNat _ b0.toNat :: ·)
      else if 0xC2 ≤ b0.toNat ∧ b0.toNat ≤ 0xDF then
        match rest with
        | [] => unicodeDecodeError "unexpected end of data"
        | b1 :: rest =>
            match continuation? b1 with
            | none => unicodeDecodeError "invalid continuation byte"
            | some c1 =>
                (utf8Decode rest).map (Fin.ofNat _ ((b0.toNat - 0xC0) * 64 + c1) :: ·)
      else if 0xE0 ≤ b0.toNat ∧ b0.toNat ≤ 0xEF then
        match rest with
        | b1 :: b2 :: rest =>
            match continuation? b1, continuation? b2 with
            | some c1, some c2 =>
                let point := (b0.toNat - 0xE0) * 4096 + c1 * 64 + c2
                -- neither overlong nor a surrogate
                if point < 0x800 ∨ 0xD800 ≤ point ∧ point ≤ 0xDFFF then
                  unicodeDecodeError "invalid continuation byte"
                else (utf8Decode rest).map (Fin.ofNat _ point :: ·)
            | _, _ => unicodeDecodeError "invalid continuation byte"
        | _ => unicodeDecodeError "unexpected end of data"
      else if 0xF0 ≤ b0.toNat ∧ b0.toNat ≤ 0xF4 then
        match rest with
        | b1 :: b2 :: b3 :: rest =>
            match continuation? b1, continuation? b2, continuation? b3 with
            | some c1, some c2, some c3 =>
                let point := (b0.toNat - 0xF0) * 262144 + c1 * 4096 + c2 * 64 + c3
                if point < 0x10000 ∨ 0x10FFFF < point then
                  unicodeDecodeError "invalid continuation byte"
                else (utf8Decode rest).map (Fin.ofNat _ point :: ·)
            | _, _, _ => unicodeDecodeError "invalid continuation byte"
        | _ => unicodeDecodeError "unexpected end of data"
      else unicodeDecodeError "invalid start byte"

/-! ## Reading -/

/-- The text without leading JSON whitespace. -/
def skipSpace : Text → Text
  | [] => []
  | c :: rest => if c = 0x20 ∨ c = 0x09 ∨ c = 0x0A ∨ c = 0x0D then skipSpace rest else c :: rest

/-- The four hexadecimal digits of `\uXXXX`. -/
def hexEscape? (h1 h2 h3 h4 : CodePoint) : Option ℕ :=
  ([h1, h2, h3, h4].mapM hexValue?).map (natOfDigits 16)

/-- The character a one-letter escape stands for. -/
def shortEscape? (c : CodePoint) : Option CodePoint :=
  if c = 0x22 ∨ c = 0x5C ∨ c = 0x2F then some c
  else if c = 0x62 then some 0x08
  else if c = 0x66 then some 0x0C
  else if c = 0x6E then some 0x0A
  else if c = 0x72 then some 0x0D
  else if c = 0x74 then some 0x09
  else none

/-- The low surrogate escape that starts a text. -/
def lowSurrogate? : Text → Option (ℕ × Text)
  | b :: u :: h1 :: h2 :: h3 :: h4 :: rest =>
      if b = 0x5C ∧ u = 0x75 then
        match hexEscape? h1 h2 h3 h4 with
        | some low => if 0xDC00 ≤ low ∧ low ≤ 0xDFFF then some (low, rest) else none
        | none => none
      else none
  | _ => none

/-- The escape after a backslash: its character and the rest of the text.  A high
surrogate takes the low one that follows it. -/
def scanEscape : Text → Raises (CodePoint × Text)
  | [] => jsonDecodeError "Unterminated string starting at"
  | c :: rest =>
      if c = 0x75 then
        match rest with
        | h1 :: h2 :: h3 :: h4 :: rest =>
            match hexEscape? h1 h2 h3 h4 with
            | none => jsonDecodeError "Invalid \\uXXXX escape"
            | some point =>
                if 0xD800 ≤ point ∧ point ≤ 0xDBFF then
                  match lowSurrogate? rest with
                  | some (low, rest) =>
                      .ok (Fin.ofNat _ (0x10000 + (point - 0xD800) * 1024 + (low - 0xDC00)), rest)
                  | none => .ok (Fin.ofNat _ point, rest)
                else .ok (Fin.ofNat _ point, rest)
        | _ => jsonDecodeError "Invalid \\uXXXX escape"
      else
        match shortEscape? c with
        | none => jsonDecodeError "Invalid \\escape: "
        | some point => .ok (point, rest)

/-- The string after its opening quote.  A text is longer than what is left of it
after a character, so its length bounds the characters. -/
def scanString : (fuel : ℕ) → Text → Raises (Text × Text)
  | 0, _ => jsonDecodeError "Unterminated string starting at"
  | _ + 1, [] => jsonDecodeError "Unterminated string starting at"
  | fuel + 1, c :: rest =>
      if c = 0x22 then .ok ([], rest)
      else if c.val < 0x20 then jsonDecodeError "Invalid control character at"
      else if c = 0x5C then do
        let (point, rest) ← scanEscape rest
        let (text, rest) ← scanString fuel rest
        .ok (point :: text, rest)
      else do
        let (text, rest) ← scanString fuel rest
        .ok (c :: text, rest)

/-- The decimal digits that start a text. -/
def takeDigits : Text → List ℕ × Text
  | [] => ([], [])
  | c :: rest =>
      match decimalValue? c with
      | none => ([], c :: rest)
      | some d => (d :: (takeDigits rest).1, (takeDigits rest).2)

/-- The fraction that starts a text: its digits. -/
def takeFraction (text : Text) : List ℕ × Text :=
  match text with
  | [] => ([], [])
  | c :: rest =>
      if c = 0x2E ∧ (takeDigits rest).1 ≠ [] then takeDigits rest else ([], c :: rest)

/-- The sign that starts a text: whether it is a minus. -/
def takeSign : Text → Bool × Text
  | [] => (false, [])
  | c :: rest =>
      if c = 0x2D then (true, rest) else if c = 0x2B then (false, rest) else (false, c :: rest)

/-- The exponent that starts a text. -/
def takeExponent (text : Text) : Option ℤ × Text :=
  match text with
  | [] => (none, [])
  | c :: rest =>
      let (negative, digits) := takeSign rest
      if (c = 0x65 ∨ c = 0x45) ∧ (takeDigits digits).1 ≠ [] then
        let exponent : ℤ := natOfDigits 10 (takeDigits digits).1
        (some (if negative then -exponent else exponent), (takeDigits digits).2)
      else (none, c :: rest)

/-- Whether `significand * 10 ^ exponent` rounds to a finite double. -/
def finiteDouble (significand : ℕ) (exponent : ℤ) : Bool :=
  -- the midpoint between the largest double and the next power of two rounds up
  significand * 10 ^ exponent.toNat < (2 ^ 1024 - 2 ^ 970) * 10 ^ (-exponent).toNat

/-- `sys.get_int_max_str_digits()`. -/
def intMaxStrDigits : ℕ := 4300

/-- `int(digits)` of a decimal literal. -/
def intOfLiteral (negative : Bool) (digits : List ℕ) : Raises ℤ :=
  if digits.length > intMaxStrDigits then
    valueError ("Exceeds the limit (4300 digits) for integer string conversion: value has "
      ++ s!"{digits.length} digits; use sys.set_int_max_str_digits() to increase the limit")
  else
    let n : ℤ := natOfDigits 10 digits
    .ok (if negative then -n else n)

/-- The number that starts a text, after its sign. -/
def scanNumber (negative : Bool) (text : Text) : Raises (PyValue × Text) := do
  let (integer, rest) :=
    match takeDigits text with
    -- a leading zero is a number of its own
    | (0 :: _, _) => ([0], text.drop 1)
    | taken => taken
  if integer = [] then jsonDecodeError "Expecting value"
  else
    let (fraction, rest1) := takeFraction rest
    let (exponent, rest2) := takeExponent rest1
    if fraction = [] ∧ exponent = none then do
      let value ← intOfLiteral negative integer
      .ok (.int value, rest)
    else
      let literal := text.take (text.length - rest2.length)
      .ok (.float
        (finiteDouble (natOfDigits 10 (integer ++ fraction)) (exponent.getD 0 - fraction.length))
        (if negative then 0x2D :: literal else literal), rest2)

/-- A literal that starts a text. -/
def literal? (word : String) (text : Text) : Option Text :=
  if (Text.ofString word).isPrefixOf text then some (text.drop word.length) else none

/-- Dictionary assignment. -/
def dictSet (entries : List (Text × PyValue)) (key : Text) (value : PyValue) :
    List (Text × PyValue) :=
  if key ∈ entries.map Prod.fst then
    entries.map fun entry => if entry.1 = key then (key, value) else entry
  else entries ++ [(key, value)]

/-- The dictionary of an object's members; a repeated name keeps its first place and
its last value. -/
def dictOfMembers (members : List (Text × PyValue)) : PyValue :=
  .dict ((members.foldl (fun entries m => dictSet entries m.1 m.2) []).map
    fun entry => (.str entry.1, entry.2))

/-- The scalars other than strings and digits. -/
def scanConstant (text : Text) : Raises (PyValue × Text) :=
  match literal? "null" text, literal? "true" text, literal? "false" text, literal? "NaN" text,
    literal? "Infinity" text, literal? "-Infinity" text with
  | some rest, _, _, _, _, _ => .ok (.none, rest)
  | _, some rest, _, _, _, _ => .ok (.bool true, rest)
  | _, _, some rest, _, _, _ => .ok (.bool false, rest)
  | _, _, _, some rest, _, _ => .ok (.float false (Text.ofString "nan"), rest)
  | _, _, _, _, some rest, _ => .ok (.float false (Text.ofString "inf"), rest)
  | _, _, _, _, _, some rest => .ok (.float false (Text.ofString "-inf"), rest)
  | _, _, _, _, _, _ =>
      match text with
      | 0x2D :: rest => scanNumber true rest
      | _ => jsonDecodeError "Expecting value"

mutual

/-- The value that starts a text. -/
def scanValue : (fuel : ℕ) → Text → Raises (PyValue × Text)
  | 0, _ => jsonDecodeError "Expecting value"
  | _ + 1, [] => jsonDecodeError "Expecting value"
  | fuel + 1, c :: rest =>
      if c = 0x22 then do
        let (text, rest) ← scanString (rest.length + 1) rest
        .ok (.str text, rest)
      else if c = 0x7B then
        match skipSpace rest with
        | [] => jsonDecodeError "Expecting property name enclosed in double quotes"
        | c' :: rest' =>
            if c' = 0x7D then .ok (.dict [], rest')
            else do
              let (members, rest) ← scanMembers fuel (c' :: rest')
              .ok (dictOfMembers members, rest)
      else if c = 0x5B then
        match skipSpace rest with
        | [] => jsonDecodeError "Expecting value"
        | c' :: rest' =>
            if c' = 0x5D then .ok (.list [], rest')
            else do
              let (items, rest) ← scanItems fuel (c' :: rest')
              .ok (.list items, rest)
      else if (decimalValue? c).isSome then scanNumber false (c :: rest)
      else scanConstant (c :: rest)

/-- The items of an array up to its closing bracket. -/
def scanItems : (fuel : ℕ) → Text → Raises (List PyValue × Text)
  | 0, _ => jsonDecodeError "Expecting value"
  | fuel + 1, text => do
      let (item, rest) ← scanValue fuel text
      match skipSpace rest with
      | 0x5D :: rest => .ok ([item], rest)
      | 0x2C :: rest => do
          let (items, rest) ← scanItems fuel (skipSpace rest)
          .ok (item :: items, rest)
      | _ => jsonDecodeError "Expecting ',' delimiter"

/-- The members of an object up to its closing brace. -/
def scanMembers : (fuel : ℕ) → Text → Raises (List (Text × PyValue) × Text)
  | 0, _ => jsonDecodeError "Expecting property name enclosed in double quotes"
  | fuel + 1, text =>
      match text with
      | 0x22 :: rest => do
          let (key, rest) ← scanString (rest.length + 1) rest
          match skipSpace rest with
          | 0x3A :: rest => do
              let (value, rest) ← scanValue fuel (skipSpace rest)
              match skipSpace rest with
              | 0x7D :: rest => .ok ([(key, value)], rest)
              | 0x2C :: rest => do
                  let (members, rest) ← scanMembers fuel (skipSpace rest)
                  .ok ((key, value) :: members, rest)
              | _ => jsonDecodeError "Expecting ',' delimiter"
          | _ => jsonDecodeError "Expecting ':' delimiter"
      | _ => jsonDecodeError "Expecting property name enclosed in double quotes"

end

/-- `json.loads(text)`. -/
def jsonLoads (text : Text) : Raises PyValue := do
  if text.head? = some 0xFEFF then
    jsonDecodeError "Unexpected UTF-8 BOM (decode using utf-8-sig)"
  else
    let (value, rest) ← scanValue (text.length + 1) (skipSpace text)
    if skipSpace rest = [] then .ok value else jsonDecodeError "Extra data"

/-! ## Writing -/

/-- One character inside a string, with ASCII escapes. -/
def escapePoint (c : CodePoint) : Text :=
  let unicode (n : ℕ) : Text := 0x5C :: 0x75 :: hexText 4 n
  if c = 0x22 ∨ c = 0x5C then [0x5C, c]
  else if c = 0x0A then [0x5C, 0x6E]
  else if c = 0x0D then [0x5C, 0x72]
  else if c = 0x09 then [0x5C, 0x74]
  else if c = 0x08 then [0x5C, 0x62]
  else if c = 0x0C then [0x5C, 0x66]
  else if 0x20 ≤ c.val ∧ c.val ≤ 0x7E then [c]
  else if c.val < 0x10000 then unicode c.val
  else
    unicode (0xD800 + (c.val - 0x10000) / 1024) ++ unicode (0xDC00 + (c.val - 0x10000) % 1024)

/-- A string literal. -/
def quoteText (text : Text) : Text := 0x22 :: (text.flatMap escapePoint ++ [0x22])

/-- `str(n)`. -/
def intText (n : ℤ) : Text :=
  if n < 0 then 0x2D :: decimalText n.natAbs else decimalText n.natAbs

/-- `",".join(parts)`. -/
def joinComma : List Text → Text
  | [] => []
  | [part] => part
  | part :: rest => part ++ 0x2C :: joinComma rest

/-- Members in the order of their names. -/
def sortMembers (members : List (Text × Text)) : List (Text × Text) :=
  members.insertionSort fun m m' => Text.le m.1 m'.1 = true

mutual

/-- `json.dumps(value, ensure_ascii=True, sort_keys=True, separators=(",", ":"))`
of a value that `canonical_json` lets through: without bytes, and with string keys. -/
def dumpsText : PyValue → Text
  | .none => Text.ofString "null"
  | .bool true => Text.ofString "true"
  | .bool false => Text.ofString "false"
  | .int n => intText n
  | .float _ literal => literal
  | .bytes _ => []
  | .str text => quoteText text
  | .list items => 0x5B :: (joinComma (dumpsItems items) ++ [0x5D])
  | .dict entries =>
      0x7B :: (joinComma ((sortMembers (dumpsEntries entries)).map
        fun m => quoteText m.1 ++ 0x3A :: m.2) ++ [0x7D])

/-- The items of a list. -/
def dumpsItems : List PyValue → List Text
  | [] => []
  | item :: rest => dumpsText item :: dumpsItems rest

/-- The entries of a dictionary, each name with its value. -/
def dumpsEntries : List (PyValue × PyValue) → List (Text × Text)
  | [] => []
  | (.str key, value) :: rest => (key, dumpsText value) :: dumpsEntries rest
  | (_, value) :: rest => ([], dumpsText value) :: dumpsEntries rest

end

/-- Whether a key is a string. -/
def PyValue.isStr : PyValue → Bool
  | .str _ => true
  | _ => false

mutual

/-- The validation in `canonical_json`. -/
def validateCanonical : PyValue → Raises Unit
  | .float true _ => typeError "canonical JSON mission values must not contain floats"
  | .float false _ => valueError "canonical JSON does not allow non-finite numbers"
  | .bytes _ => typeError "canonical JSON does not encode raw bytes"
  | .list items => validateItems items
  | .dict entries =>
      if entries.all fun entry => entry.1.isStr then validateEntries entries
      else typeError "canonical JSON object keys must be strings"
  | .none => .ok ()
  | .bool _ => .ok ()
  | .int _ => .ok ()
  | .str _ => .ok ()

/-- The validation of a list's items. -/
def validateItems : List PyValue → Raises Unit
  | [] => .ok ()
  | item :: rest => do
      validateCanonical item
      validateItems rest

/-- The validation of a dictionary's values. -/
def validateEntries : List (PyValue × PyValue) → Raises Unit
  | [] => .ok ()
  | (_, value) :: rest => do
      validateCanonical value
      validateEntries rest

end

/-- The bytes of an ASCII text. -/
def asciiBytes (text : Text) : Bytes := text.map fun c => UInt8.ofNat c.val

/-- `canonical_json`. -/
def canonicalJson (value : PyValue) : Raises Bytes := do
  validateCanonical value
  .ok (asciiBytes (dumpsText value))

/-! ## The round trip -/

/-- No code point of the text is a surrogate. -/
def Scalar (text : Text) : Prop := ∀ c ∈ text, c.val < 0xD800 ∨ 0xDFFF < c.val

mutual

/-- A value that `dumps` writes and `loads` reads back as it is: without floats and
bytes, with strings of scalar values, and with sorted distinct keys. -/
def Plain : PyValue → Prop
  | .none => True
  | .bool _ => True
  | .int n => (decimalText n.natAbs).length ≤ intMaxStrDigits
  | .float _ _ => False
  | .bytes _ => False
  | .str text => Scalar text
  | .list items => PlainItems items
  | .dict entries => PlainEntries entries

/-- Plain items. -/
def PlainItems : List PyValue → Prop
  | [] => True
  | item :: rest => Plain item ∧ PlainItems rest

/-- Plain entries, in the order of their keys. -/
def PlainEntries : List (PyValue × PyValue) → Prop
  | [] => True
  | (.str key, value) :: rest =>
      Scalar key ∧ Plain value ∧ PlainEntries rest ∧
        ∀ m ∈ dumpsEntries rest, Text.le key m.1 = true ∧ key ≠ m.1
  | (_, _) :: _ => False

end

/-- A text that cannot continue a number. -/
def EndsNumber (text : Text) : Prop :=
  ∀ c, text.head? = some c → decimalValue? c = none ∧ c ≠ 0x2E ∧ c ≠ 0x65 ∧ c ≠ 0x45

theorem ofNat_eq_codePoint {c : CodePoint} {n : ℕ} (same : n = c.val) :
    Fin.ofNat 0x110000 n = c := same ▸ Fin.ofNat_val_eq_self c

theorem hexEscape?_hexText {n : ℕ} (fits : n < 0x10000) (t : Text) :
    ∃ h1 h2 h3 h4, hexText 4 n ++ t = h1 :: h2 :: h3 :: h4 :: t ∧
      hexEscape? h1 h2 h3 h4 = some n := by
  have fits' : n < 16 ^ 4 := fits
  obtain ⟨values, read, value⟩ := hexText_values fits'
  match digits : hexText 4 n, length_hexText 4 n with
  | [h1, h2, h3, h4], _ =>
      refine ⟨h1, h2, h3, h4, rfl, ?_⟩
      rw [hexEscape?, ← digits, read]
      exact congrArg some value

/-- A `\uXXXX` escape of a code unit outside the high surrogates. -/
theorem scanEscape_unicode {n : ℕ} (fits : n < 0x10000) (single : n < 0xD800 ∨ 0xDBFF < n)
    (t : Text) : scanEscape (0x75 :: (hexText 4 n ++ t)) = .ok (Fin.ofNat _ n, t) := by
  obtain ⟨h1, h2, h3, h4, text, value⟩ := hexEscape?_hexText fits t
  have notHigh : ¬ (0xD800 ≤ n ∧ n ≤ 0xDBFF) := by omega
  rw [text, scanEscape, if_pos rfl]
  simp only [value]
  rw [if_neg notHigh]

/-- A surrogate pair. -/
theorem scanEscape_pair {high low : ℕ} (isHigh : 0xD800 ≤ high ∧ high ≤ 0xDBFF)
    (isLow : 0xDC00 ≤ low ∧ low ≤ 0xDFFF) (t : Text) :
    scanEscape (0x75 :: (hexText 4 high ++ 0x5C :: 0x75 :: (hexText 4 low ++ t))) =
      .ok (Fin.ofNat _ (0x10000 + (high - 0xD800) * 1024 + (low - 0xDC00)), t) := by
  have highFits : high < 0x10000 := by omega
  have lowFits : low < 0x10000 := by omega
  obtain ⟨h1, h2, h3, h4, text, value⟩ :=
    hexEscape?_hexText highFits (0x5C :: 0x75 :: (hexText 4 low ++ t))
  obtain ⟨l1, l2, l3, l4, text', value'⟩ := hexEscape?_hexText lowFits t
  have follows : lowSurrogate? (0x5C :: 0x75 :: (hexText 4 low ++ t)) = some (low, t) := by
    rw [text']
    simp only [lowSurrogate?, value', and_self, if_true]
    rw [if_pos isLow]
  rw [text, scanEscape, if_pos rfl]
  simp only [value]
  rw [if_pos isHigh]
  simp only [follows]

/-- A short escape. -/
theorem scanEscape_short {c point : CodePoint} (t : Text) (notUnicode : c ≠ 0x75)
    (short : shortEscape? c = some point) : scanEscape (c :: t) = .ok (point, t) := by
  simp only [scanEscape, if_neg notUnicode, short]

/-- One escaped character is read back as itself. -/
theorem scanString_escapePoint {c : CodePoint} (scalar : c.val < 0xD800 ∨ 0xDFFF < c.val)
    (fuel : ℕ) (t : Text) :
    scanString (fuel + 1) (escapePoint c ++ t) =
      (do let (text, rest) ← scanString fuel t; .ok (c :: text, rest)) := by
  have escaped {point : CodePoint} {body : Text} (scan : scanEscape body = .ok (point, t)) :
      scanString (fuel + 1) (0x5C :: body) =
        (do let (text, rest) ← scanString fuel t; .ok (point :: text, rest)) := by
    rw [scanString, if_neg (by decide), if_neg (by decide), if_pos rfl, scan]
    rfl
  unfold escapePoint
  dsimp only
  split
  · rename_i special
    rcases special with rfl | rfl
    · exact escaped (scanEscape_short t (by decide) rfl)
    · exact escaped (scanEscape_short t (by decide) rfl)
  rename_i notSpecial
  split
  · rename_i same
    subst same
    exact escaped (scanEscape_short t (by decide) rfl)
  split
  · rename_i same
    subst same
    exact escaped (scanEscape_short t (by decide) rfl)
  split
  · rename_i same
    subst same
    exact escaped (scanEscape_short t (by decide) rfl)
  split
  · rename_i same
    subst same
    exact escaped (scanEscape_short t (by decide) rfl)
  split
  · rename_i same
    subst same
    exact escaped (scanEscape_short t (by decide) rfl)
  split
  · rename_i printable
    obtain ⟨notQuote, notBackslash⟩ := not_or.mp notSpecial
    rw [List.singleton_append, scanString, if_neg notQuote, if_neg (by omega), if_neg notBackslash]
  split
  · rename_i small
    have same : Fin.ofNat 0x110000 c.val = c := ofNat_eq_codePoint rfl
    have scan := scanEscape_unicode small (by omega) t
    rw [same] at scan
    exact escaped scan
  · rename_i large
    have bound := c.isLt
    have isHigh : 0xD800 ≤ 0xD800 + (c.val - 0x10000) / 1024 ∧
        0xD800 + (c.val - 0x10000) / 1024 ≤ 0xDBFF := by omega
    have isLow : 0xDC00 ≤ 0xDC00 + (c.val - 0x10000) % 1024 ∧
        0xDC00 + (c.val - 0x10000) % 1024 ≤ 0xDFFF := by omega
    have scan := scanEscape_pair isHigh isLow t
    have same : Fin.ofNat 0x110000 (0x10000 + (0xD800 + (c.val - 0x10000) / 1024 - 0xD800) * 1024
        + (0xDC00 + (c.val - 0x10000) % 1024 - 0xDC00)) = c := by
      apply ofNat_eq_codePoint
      omega
    rw [same] at scan
    have split : (0x5C :: 0x75 :: hexText 4 (0xD800 + (c.val - 0x10000) / 1024) ++
        0x5C :: 0x75 :: hexText 4 (0xDC00 + (c.val - 0x10000) % 1024)) ++ t =
        0x5C :: 0x75 :: (hexText 4 (0xD800 + (c.val - 0x10000) / 1024) ++
          0x5C :: 0x75 :: (hexText 4 (0xDC00 + (c.val - 0x10000) % 1024) ++ t)) := by
      simp only [List.cons_append, List.append_assoc]
    rw [split]
    exact escaped scan

/-- No high surrogate stands before a low one. -/
def Unpaired (text : Text) : Prop :=
  text.IsChain fun c c' =>
    ¬ ((0xD800 ≤ c.val ∧ c.val ≤ 0xDBFF) ∧ 0xDC00 ≤ c'.val ∧ c'.val ≤ 0xDFFF)

theorem Unpaired.tail {c : CodePoint} {rest : Text} (unpaired : Unpaired (c :: rest)) :
    Unpaired rest := List.IsChain.of_cons unpaired

theorem unpaired_of_scalar {text : Text} (scalar : Scalar text) : Unpaired text := by
  induction text with
  | nil => exact .nil
  | cons c rest ih =>
      refine List.isChain_cons.mpr ⟨fun c' _ high => ?_, ih fun c mem =>
        scalar c (List.mem_cons_of_mem _ mem)⟩
      have := scalar c List.mem_cons_self
      omega

/-- A text that does not start with an escape has no low surrogate. -/
theorem lowSurrogate?_of_ne {c : CodePoint} {t : Text} (other : c ≠ 0x5C) :
    lowSurrogate? (c :: t) = none := by
  unfold lowSurrogate?
  split
  · rename_i same
    rw [List.cons.injEq] at same
    exact if_neg fun escape => other (same.1.trans escape.1)
  · rfl

/-- A one-letter escape is no low surrogate. -/
theorem lowSurrogate?_short {c : CodePoint} {t : Text} (other : c ≠ 0x75) :
    lowSurrogate? (0x5C :: c :: t) = none := by
  unfold lowSurrogate?
  split
  · rename_i same
    simp only [List.cons.injEq] at same
    exact if_neg fun escape => other (same.2.1.trans escape.2)
  · rfl

/-- A `\uXXXX` escape outside the low surrogates is none. -/
theorem lowSurrogate?_unicode {n : ℕ} (fits : n < 0x10000)
    (other : ¬ (0xDC00 ≤ n ∧ n ≤ 0xDFFF)) (t : Text) :
    lowSurrogate? (0x5C :: 0x75 :: (hexText 4 n ++ t)) = none := by
  obtain ⟨h1, h2, h3, h4, text, value⟩ := hexEscape?_hexText fits t
  rw [text]
  simp only [lowSurrogate?, value, and_self, if_true]
  exact if_neg other

/-- A character that is no low surrogate is not written as one. -/
theorem lowSurrogate?_escapePoint {c : CodePoint} (other : ¬ (0xDC00 ≤ c.val ∧ c.val ≤ 0xDFFF))
    (t : Text) : lowSurrogate? (escapePoint c ++ t) = none := by
  unfold escapePoint
  dsimp only
  split
  · rename_i special
    rcases special with rfl | rfl
    · exact lowSurrogate?_short (by decide)
    · exact lowSurrogate?_short (by decide)
  rename_i notSpecial
  iterate 5
    split
    · exact lowSurrogate?_short (by decide)
  split
  · exact lowSurrogate?_of_ne (not_or.mp notSpecial).2
  split
  · rename_i small
    exact lowSurrogate?_unicode small other t
  · have bound := c.isLt
    simp only [List.cons_append, List.append_assoc]
    exact lowSurrogate?_unicode (by omega) (by omega) _

/-- A high surrogate without a low one is read back. -/
theorem scanEscape_high {n : ℕ} (isHigh : 0xD800 ≤ n ∧ n ≤ 0xDBFF) {t : Text}
    (alone : lowSurrogate? t = none) :
    scanEscape (0x75 :: (hexText 4 n ++ t)) = .ok (Fin.ofNat _ n, t) := by
  have fits : n < 0x10000 := by omega
  obtain ⟨h1, h2, h3, h4, text, value⟩ := hexEscape?_hexText fits t
  rw [text, scanEscape, if_pos rfl]
  simp only [value]
  rw [if_pos isHigh]
  simp only [alone]

/-- So is an escaped surrogate that no low one follows. -/
theorem scanString_surrogate {c : CodePoint} (surrogate : 0xD800 ≤ c.val ∧ c.val ≤ 0xDFFF)
    (fuel : ℕ) {t : Text} (alone : c.val ≤ 0xDBFF → lowSurrogate? t = none) :
    scanString (fuel + 1) (escapePoint c ++ t) =
      (do let (text, rest) ← scanString fuel t; .ok (c :: text, rest)) := by
  have written : escapePoint c = 0x5C :: 0x75 :: hexText 4 c.val := by
    have large {n : CodePoint} (small : n.val < 0xD800) : c ≠ n := by
      rintro rfl
      omega
    unfold escapePoint
    dsimp only
    rw [if_neg (not_or.mpr ⟨large (by decide), large (by decide)⟩), if_neg (large (by decide)),
      if_neg (large (by decide)), if_neg (large (by decide)), if_neg (large (by decide)),
      if_neg (large (by decide)), if_neg (by omega), if_pos (by omega)]
  have scan : scanEscape (0x75 :: (hexText 4 c.val ++ t)) = .ok (c, t) := by
    have same : Fin.ofNat 0x110000 c.val = c := ofNat_eq_codePoint rfl
    by_cases high : c.val ≤ 0xDBFF
    · rw [scanEscape_high ⟨surrogate.1, high⟩ (alone high), same]
    · rw [scanEscape_unicode (by omega) (by omega), same]
  rw [written]
  simp only [List.cons_append]
  rw [scanString, if_neg (by decide), if_neg (by decide), if_pos rfl, scan]
  rfl

/-- **A written string is read back.** -/
theorem scanString_flatMap {text : Text} (unpaired : Unpaired text) {fuel : ℕ}
    (enough : text.length < fuel) (t : Text) :
    scanString fuel (text.flatMap escapePoint ++ 0x22 :: t) = .ok (text, t) := by
  induction text generalizing fuel with
  | nil =>
      obtain ⟨fuel, rfl⟩ := Nat.exists_eq_add_one_of_ne_zero enough.ne'
      rw [List.flatMap_nil, List.nil_append, scanString, if_pos rfl]
  | cons c rest ih =>
      obtain ⟨fuel, rfl⟩ := Nat.exists_eq_add_one_of_ne_zero (Nat.ne_zero_of_lt enough)
      have read := ih unpaired.tail (by simpa using Nat.succ_lt_succ_iff.mp enough)
      have first : scanString (fuel + 1)
          (escapePoint c ++ (rest.flatMap escapePoint ++ 0x22 :: t)) =
            (do let (text, rest) ← scanString fuel (rest.flatMap escapePoint ++ 0x22 :: t)
                .ok (c :: text, rest)) := by
        by_cases surrogate : 0xD800 ≤ c.val ∧ c.val ≤ 0xDFFF
        · refine scanString_surrogate surrogate fuel fun high => ?_
          cases rest with
          | nil => exact lowSurrogate?_of_ne (by decide)
          | cons c' rest =>
              rw [List.flatMap_cons, List.append_assoc]
              refine lowSurrogate?_escapePoint (fun low => ?_) _
              exact (List.isChain_cons_cons.mp unpaired).1 ⟨⟨surrogate.1, high⟩, low⟩
        · exact scanString_escapePoint (by omega) fuel _
      rw [List.flatMap_cons, List.append_assoc, first, read]
      rfl

/-! ### Numbers -/

theorem takeDigits_of_head {t : Text} (ends : ∀ c, t.head? = some c → decimalValue? c = none) :
    takeDigits t = ([], t) := by
  cases t with
  | nil => rfl
  | cons c rest => simp [takeDigits, ends c rfl]

theorem takeDigits_append {digits : List ℕ} (small : ∀ d ∈ digits, d < 10) {t : Text}
    (ends : ∀ c, t.head? = some c → decimalValue? c = none) :
    takeDigits (digits.map digitPoint ++ t) = (digits, t) := by
  induction digits with
  | nil => exact takeDigits_of_head ends
  | cons d rest ih =>
      have digit := decimalValue?_digitPoint (small d List.mem_cons_self)
      have later := ih fun d mem => small d (List.mem_cons_of_mem _ mem)
      simp only [List.map_cons, List.cons_append, takeDigits, digit, later]

/-- Only zero is written with a leading zero. -/
theorem decimalDigits_leading {fuel n : ℕ} (enough : n < fuel) :
    (n < 10 ∧ decimalDigits fuel n = [n]) ∨ ∃ d rest, decimalDigits fuel n = d :: rest ∧ d ≠ 0 := by
  induction fuel generalizing n with
  | zero => omega
  | succ fuel ih =>
      by_cases small : n < 10
      · exact .inl ⟨small, if_pos small⟩
      · right
        have step : decimalDigits (fuel + 1) n = decimalDigits fuel (n / 10) ++ [n % 10] :=
          if_neg small
        rcases ih (n := n / 10) (by omega) with ⟨-, single⟩ | ⟨d, rest, digits, nonzero⟩
        · exact ⟨n / 10, [n % 10], by rw [step, single]; rfl, by omega⟩
        · exact ⟨d, rest ++ [n % 10], by rw [step, digits]; rfl, nonzero⟩

/-- **A written natural number is read back.** -/
theorem scanNumber_decimalText {n : ℕ} (short : (decimalText n).length ≤ intMaxStrDigits)
    (negative : Bool) {t : Text} (ends : EndsNumber t) :
    scanNumber negative (decimalText n ++ t) =
      .ok (.int (if negative then -n else n), t) := by
  have digits : takeDigits (decimalText n ++ t) = (decimalDigits (n + 1) n, t) :=
    takeDigits_append (fun d mem => lt_ten_of_mem_decimalDigits mem) fun c head => (ends c head).1
  have value := natOfDigits_decimalDigits (Nat.lt_succ_self n)
  have taken : (match takeDigits (decimalText n ++ t) with
      | (0 :: _, _) => ([0], (decimalText n ++ t).drop 1)
      | taken => taken) = (decimalDigits (n + 1) n, t) := by
    rw [digits]
    rcases decimalDigits_leading (Nat.lt_succ_self n) with ⟨small, single⟩ | ⟨d, rest, same, nonzero⟩
    · rw [single]
      cases n with
      | zero => rfl
      | succ n => rfl
    · rw [same]
      obtain ⟨d, rfl⟩ := Nat.exists_eq_add_one_of_ne_zero nonzero
      rfl
  have nonempty : decimalDigits (n + 1) n ≠ [] := by
    rcases decimalDigits_leading (Nat.lt_succ_self n) with ⟨-, single⟩ | ⟨d, rest, same, -⟩
    · simp [single]
    · simp [same]
  have fraction : takeFraction t = ([], t) := by
    cases t with
    | nil => rfl
    | cons c rest => simp [takeFraction, (ends c rfl).2.1]
  have exponent : takeExponent t = (none, t) := by
    cases t with
    | nil => rfl
    | cons c rest => simp [takeExponent, (ends c rfl).2.2.1, (ends c rfl).2.2.2]
  have fits : ¬ (decimalDigits (n + 1) n).length > intMaxStrDigits := by
    simpa [decimalText] using short
  unfold scanNumber
  simp only [taken, nonempty, fraction, exponent, if_false, and_self, if_true, intOfLiteral, fits,
    value]
  rfl

/-- What a written natural number starts with. -/
theorem head_decimalText (n : ℕ) (t : Text) :
    ∃ d rest, d < 10 ∧ decimalText n ++ t = digitPoint d :: rest := by
  have small {d : ℕ} (mem : d ∈ decimalDigits (n + 1) n) : d < 10 := lt_ten_of_mem_decimalDigits mem
  cases digits : decimalDigits (n + 1) n with
  | nil =>
      rcases decimalDigits_leading (Nat.lt_succ_self n) with ⟨-, single⟩ | ⟨d, rest, same, -⟩
      · rw [single] at digits
        cases digits
      · rw [same] at digits
        cases digits
  | cons d rest =>
      refine ⟨d, rest.map digitPoint ++ t, small (digits ▸ List.mem_cons_self), ?_⟩
      simp [decimalText, digits]

/-- The characters `scanValue` tells apart are not digits. -/
theorem digitPoint_ne {d : ℕ} (small : d < 10) {c : CodePoint} (other : decimalValue? c = none) :
    digitPoint d ≠ c := by
  rintro rfl
  rw [decimalValue?_digitPoint small] at other
  cases other

theorem scanConstant_minus {d : ℕ} (small : d < 10) (rest : Text) :
    scanConstant (0x2D :: digitPoint d :: rest) = scanNumber true (digitPoint d :: rest) := by
  have notInfinity : literal? "-Infinity" (0x2D :: digitPoint d :: rest) = none := by
    have differs : ((0x49 : CodePoint) == digitPoint d) = false :=
      beq_false_of_ne (digitPoint_ne small (by decide)).symm
    have word : Text.ofString "-Infinity" = 0x2D :: 0x49 :: Text.ofString "nfinity" := by decide
    rw [literal?, word]
    simp [List.isPrefixOf, differs]
  have others : literal? "null" (0x2D :: digitPoint d :: rest) = none ∧
      literal? "true" (0x2D :: digitPoint d :: rest) = none ∧
      literal? "false" (0x2D :: digitPoint d :: rest) = none ∧
      literal? "NaN" (0x2D :: digitPoint d :: rest) = none ∧
      literal? "Infinity" (0x2D :: digitPoint d :: rest) = none := ⟨rfl, rfl, rfl, rfl, rfl⟩
  obtain ⟨h1, h2, h3, h4, h5⟩ := others
  simp only [scanConstant, h1, h2, h3, h4, h5, notInfinity]

/-- **A written integer is read back.** -/
theorem scanValue_intText {n : ℤ} (short : (decimalText n.natAbs).length ≤ intMaxStrDigits)
    {t : Text} (ends : EndsNumber t) (fuel : ℕ) :
    scanValue (fuel + 1) (intText n ++ t) = .ok (.int n, t) := by
  obtain ⟨d, rest, small, head⟩ := head_decimalText n.natAbs t
  unfold intText
  split
  · rename_i negative
    have number := scanNumber_decimalText short true ends
    rw [List.cons_append, head, scanValue, if_neg (by decide), if_neg (by decide),
      if_neg (by decide), if_neg (by decide), scanConstant_minus small, ← head, number]
    rw [if_pos rfl]
    congr 3
    omega
  · rename_i positive
    have number := scanNumber_decimalText short false ends
    have isDigit : (decimalValue? (digitPoint d)).isSome = true := by
      rw [decimalValue?_digitPoint small]
      rfl
    rw [head, scanValue, if_neg (digitPoint_ne small (by decide)),
      if_neg (digitPoint_ne small (by decide)), if_neg (digitPoint_ne small (by decide)),
      if_pos isDigit, ← head, number, if_neg (by decide)]
    congr 3
    omega

/-! ### Containers -/

theorem length_le_flatMap_escape (text : Text) : text.length ≤ (text.flatMap escapePoint).length := by
  induction text with
  | nil => exact le_rfl
  | cons c rest ih =>
      have nonempty : 1 ≤ (escapePoint c).length := by
        unfold escapePoint
        dsimp only
        repeat' split
        all_goals simp
      rw [List.flatMap_cons, List.length_append, List.length_cons]
      omega

theorem scanString_quoted {text : Text} (unpaired : Unpaired text) (t : Text) :
    scanString ((text.flatMap escapePoint ++ 0x22 :: t).length + 1)
      (text.flatMap escapePoint ++ 0x22 :: t) = .ok (text, t) := by
  refine scanString_flatMap unpaired ?_ t
  have := length_le_flatMap_escape text
  rw [List.length_append]
  omega

/-- What a written value starts with: an ASCII character, neither white space nor a
closing bracket. -/
def Leads (text : Text) : Prop :=
  ∃ c rest, text = c :: rest ∧ ¬ (c = 0x20 ∨ c = 0x09 ∨ c = 0x0A ∨ c = 0x0D) ∧ c ≠ 0x5D ∧
    c ≠ 0xFEFF

theorem Leads.append {text : Text} (h : Leads text) (t : Text) : Leads (text ++ t) := by
  obtain ⟨c, rest, rfl, other⟩ := h
  exact ⟨c, rest ++ t, rfl, other⟩

theorem Leads.skipSpace {text : Text} (h : Leads text) : skipSpace text = text := by
  obtain ⟨c, rest, rfl, other, -⟩ := h
  exact if_neg other

/-- The members of plain entries. -/
def membersOf : List (PyValue × PyValue) → List (Text × PyValue)
  | [] => []
  | (.str key, value) :: rest => (key, value) :: membersOf rest
  | _ :: rest => membersOf rest

/-- One written member. -/
def memberText (m : Text × Text) : Text := quoteText m.1 ++ 0x3A :: m.2

/-- Plain entries have string keys. -/
theorem PlainEntries.uncons {k value : PyValue} {rest : List (PyValue × PyValue)}
    (plain : PlainEntries ((k, value) :: rest)) :
    ∃ key, k = .str key ∧ Scalar key ∧ Plain value ∧ PlainEntries rest ∧
      ∀ m ∈ dumpsEntries rest, Text.le key m.1 = true ∧ key ≠ m.1 := by
  cases k with
  | str key => exact ⟨key, rfl, plain⟩
  | none => exact plain.elim
  | bool value => exact plain.elim
  | int n => exact plain.elim
  | float finite literal => exact plain.elim
  | bytes data => exact plain.elim
  | list items => exact plain.elim
  | dict entries => exact plain.elim

theorem dumpsEntries_eq_map {entries : List (PyValue × PyValue)} (plain : PlainEntries entries) :
    dumpsEntries entries = (membersOf entries).map (fun m => (m.1, dumpsText m.2)) ∧
      entries = (membersOf entries).map fun m => (.str m.1, m.2) := by
  induction entries with
  | nil => exact ⟨rfl, rfl⟩
  | cons entry rest ih =>
      obtain ⟨k, value⟩ := entry
      obtain ⟨key, rfl, -, -, later, -⟩ := plain.uncons
      obtain ⟨written, same⟩ := ih later
      exact ⟨congrArg (List.cons _) written, congrArg (List.cons _) same⟩

/-- The names of plain entries are in order. -/
theorem sortMembers_dumpsEntries {entries : List (PyValue × PyValue)}
    (plain : PlainEntries entries) : sortMembers (dumpsEntries entries) = dumpsEntries entries := by
  refine List.Pairwise.insertionSort_eq ?_
  induction entries with
  | nil => exact .nil
  | cons entry rest ih =>
      obtain ⟨k, value⟩ := entry
      obtain ⟨key, rfl, -, -, later, order⟩ := plain.uncons
      exact List.pairwise_cons.mpr ⟨fun m mem => (order m mem).1, ih later⟩

theorem foldl_dictSet {entries members : List (Text × PyValue)}
    (distinct : ((entries ++ members).map Prod.fst).Nodup) :
    members.foldl (fun entries m => dictSet entries m.1 m.2) entries = entries ++ members := by
  induction members generalizing entries with
  | nil => simp
  | cons m rest ih =>
      obtain ⟨key, value⟩ := m
      have fresh : key ∉ entries.map Prod.fst := by
        rw [List.map_append, List.nodup_append] at distinct
        intro mem
        exact distinct.2.2 key mem key (by simp) rfl
      have step : dictSet entries key value = entries ++ [(key, value)] := if_neg fresh
      rw [List.foldl_cons, step, ih (by simpa using distinct)]
      simp

theorem endsNumber_cons {c : CodePoint} (t : Text)
    (other : decimalValue? c = none ∧ c ≠ 0x2E ∧ c ≠ 0x65 ∧ c ≠ 0x45) : EndsNumber (c :: t) := by
  intro c' head
  cases head
  exact other

theorem endsNumber_nil : EndsNumber [] := by
  intro c head
  cases head

/-- The members of a dictionary, written with their commas. -/
def membersText (entries : List (PyValue × PyValue)) : Text :=
  joinComma ((dumpsEntries entries).map memberText)

theorem dumpsText_dict {entries : List (PyValue × PyValue)} (plain : PlainEntries entries) :
    dumpsText (.dict entries) = 0x7B :: (membersText entries ++ [0x7D]) := by
  rw [dumpsText, sortMembers_dumpsEntries plain]
  rfl

theorem leads_joinComma {first : Text} (leads : Leads first) (rest : List Text) :
    Leads (joinComma (first :: rest)) := by
  cases rest with
  | nil => exact leads
  | cons second rest => exact leads.append _

/-! ### Writers -/

/-- How a string is written between its quotes, and the strings that are read back. -/
structure StringWriter where
  body : Text → Text
  Reads : Text → Prop
  scan : ∀ {text : Text}, Reads text → ∀ t : Text,
    scanString ((body text ++ 0x22 :: t).length + 1) (body text ++ 0x22 :: t) = .ok (text, t)

namespace StringWriter

/-- A string literal. -/
def quote (w : StringWriter) (text : Text) : Text := 0x22 :: (w.body text ++ [0x22])

mutual

/-- A value without bytes and with string keys, the members of its objects in their order. -/
def value (w : StringWriter) : PyValue → Text
  | .none => Text.ofString "null"
  | .bool true => Text.ofString "true"
  | .bool false => Text.ofString "false"
  | .int n => intText n
  | .float _ literal => literal
  | .bytes _ => []
  | .str text => w.quote text
  | .list items => 0x5B :: (joinComma (w.values items) ++ [0x5D])
  | .dict entries => 0x7B :: (joinComma (w.members entries) ++ [0x7D])

/-- The items of a list. -/
def values (w : StringWriter) : List PyValue → List Text
  | [] => []
  | item :: rest => w.value item :: w.values rest

/-- The members of an object. -/
def members (w : StringWriter) : List (PyValue × PyValue) → List Text
  | [] => []
  | (.str key, v) :: rest => (w.quote key ++ 0x3A :: w.value v) :: w.members rest
  | (_, v) :: rest => (w.quote [] ++ 0x3A :: w.value v) :: w.members rest

end

mutual

/-- A value that is read back: without floats and bytes, with strings that are, and with
distinct keys. -/
def Readable (w : StringWriter) : PyValue → Prop
  | .none => True
  | .bool _ => True
  | .int n => (decimalText n.natAbs).length ≤ intMaxStrDigits
  | .float _ _ => False
  | .bytes _ => False
  | .str text => w.Reads text
  | .list items => w.ReadableItems items
  | .dict entries => w.ReadableEntries entries

/-- Readable items. -/
def ReadableItems (w : StringWriter) : List PyValue → Prop
  | [] => True
  | item :: rest => w.Readable item ∧ w.ReadableItems rest

/-- Readable members with distinct names. -/
def ReadableEntries (w : StringWriter) : List (PyValue × PyValue) → Prop
  | [] => True
  | (.str key, v) :: rest =>
      w.Reads key ∧ w.Readable v ∧ w.ReadableEntries rest ∧ ∀ entry ∈ rest, entry.1 ≠ .str key
  | (_, _) :: _ => False

end

variable {w : StringWriter}

/-- Readable members have string keys. -/
theorem ReadableEntries.uncons {k v : PyValue} {rest : List (PyValue × PyValue)}
    (readable : w.ReadableEntries ((k, v) :: rest)) :
    ∃ key, k = .str key ∧ w.Reads key ∧ w.Readable v ∧ w.ReadableEntries rest ∧
      ∀ entry ∈ rest, entry.1 ≠ .str key := by
  cases k with
  | str key => exact ⟨key, rfl, readable⟩
  | none => exact readable.elim
  | bool value => exact readable.elim
  | int n => exact readable.elim
  | float finite literal => exact readable.elim
  | bytes data => exact readable.elim
  | list items => exact readable.elim
  | dict entries => exact readable.elim

theorem readableEntries_iff {entries : List (PyValue × PyValue)} :
    w.ReadableEntries entries ↔
      (∀ entry ∈ entries, (∃ key, entry.1 = .str key ∧ w.Reads key) ∧ w.Readable entry.2) ∧
        (entries.map Prod.fst).Nodup := by
  induction entries with
  | nil => simp [ReadableEntries]
  | cons entry rest ih =>
      obtain ⟨k, v⟩ := entry
      rw [List.forall_mem_cons, List.map_cons, List.nodup_cons]
      have fresh (key : Text) : (∀ other ∈ rest, other.1 ≠ .str key) ↔
          PyValue.str key ∉ rest.map Prod.fst := by
        rw [List.mem_map]
        exact ⟨fun differs ⟨other, mem, same⟩ => differs other mem same,
          fun absent other mem same => absent ⟨other, mem, same⟩⟩
      constructor
      · intro readable
        obtain ⟨key, rfl, reads, readableValue, later, other⟩ := readable.uncons
        obtain ⟨each, distinct⟩ := ih.mp later
        exact ⟨⟨⟨⟨key, rfl, reads⟩, readableValue⟩, each⟩, (fresh key).mp other, distinct⟩
      · rintro ⟨⟨⟨⟨key, rfl, reads⟩, readableValue⟩, each⟩, absent, distinct⟩
        exact ⟨reads, readableValue, ih.mpr ⟨each, distinct⟩, (fresh key).mpr absent⟩

theorem leads_value {v : PyValue} (readable : w.Readable v) : Leads (w.value v) := by
  cases v with
  | none => exact ⟨0x6E, Text.ofString "ull", rfl, by decide, by decide, by decide⟩
  | bool value =>
      cases value
      · exact ⟨0x66, Text.ofString "alse", rfl, by decide, by decide, by decide⟩
      · exact ⟨0x74, Text.ofString "rue", rfl, by decide, by decide, by decide⟩
  | int n =>
      obtain ⟨d, rest, small, head⟩ := head_decimalText n.natAbs []
      rw [List.append_nil] at head
      change Leads (intText n)
      unfold intText
      split
      · exact ⟨0x2D, _, rfl, by decide, by decide, by decide⟩
      · refine ⟨digitPoint d, rest, head, ?_, digitPoint_ne small (by decide),
        digitPoint_ne small (by decide)⟩
        rintro (same | same | same | same)
        · exact digitPoint_ne small (by decide) same
        · exact digitPoint_ne small (by decide) same
        · exact digitPoint_ne small (by decide) same
        · exact digitPoint_ne small (by decide) same
  | float finite literal => exact readable.elim
  | bytes data => exact readable.elim
  | str text => exact ⟨0x22, _, rfl, by decide, by decide, by decide⟩
  | list items => exact ⟨0x5B, _, rfl, by decide, by decide, by decide⟩
  | dict entries => exact ⟨0x7B, _, rfl, by decide, by decide, by decide⟩

theorem length_value_pos {v : PyValue} (readable : w.Readable v) : 0 < (w.value v).length := by
  obtain ⟨c, rest, text, -⟩ := leads_value readable
  rw [text]
  exact Nat.succ_pos _

/-- The names of readable members are those of the dictionary that is read. -/
theorem dictOfMembers_membersOf {entries : List (PyValue × PyValue)}
    (readable : w.ReadableEntries entries) : dictOfMembers (membersOf entries) = .dict entries := by
  have named : entries = (membersOf entries).map (fun m => (.str m.1, m.2)) ∧
      ((membersOf entries).map Prod.fst).Nodup := by
    induction entries with
    | nil => exact ⟨rfl, .nil⟩
    | cons entry rest ih =>
        obtain ⟨k, v⟩ := entry
        obtain ⟨key, rfl, -, -, later, other⟩ := readable.uncons
        obtain ⟨same, distinct⟩ := ih later
        refine ⟨congrArg (List.cons _) same, List.nodup_cons.mpr ⟨fun mem => ?_, distinct⟩⟩
        obtain ⟨m, inside, ofKey⟩ := List.mem_map.mp mem
        refine other (.str m.1, m.2) ?_ (congrArg PyValue.str ofKey)
        rw [same]
        exact List.mem_map_of_mem inside
  rw [dictOfMembers, foldl_dictSet (by simpa using named.2), List.nil_append, ← named.1]

theorem joinComma_members_cons {entry : PyValue × PyValue} {rest : List (PyValue × PyValue)}
    (readable : w.ReadableEntries (entry :: rest)) :
    ∃ later, joinComma (w.members (entry :: rest)) = 0x22 :: later := by
  obtain ⟨k, v⟩ := entry
  obtain ⟨key, rfl, -⟩ := readable.uncons
  cases rest with
  | nil => exact ⟨_, rfl⟩
  | cons next rest =>
      obtain ⟨k', v'⟩ := next
      obtain ⟨-, -, -, -, later, -⟩ := readable.uncons
      obtain ⟨key', rfl, -⟩ := later.uncons
      exact ⟨_, rfl⟩

mutual

/-- **What a writer writes for a readable value is read back as that value.** -/
theorem scanValue_value : (v : PyValue) → w.Readable v → (t : Text) → EndsNumber t →
    (fuel : ℕ) → (w.value v).length ≤ fuel + 1 →
    scanValue (fuel + 1) (w.value v ++ t) = .ok (v, t)
  | .none, _, t, _, fuel, _ => rfl
  | .bool true, _, t, _, fuel, _ => rfl
  | .bool false, _, t, _, fuel, _ => rfl
  | .int n, short, t, ends, fuel, _ => scanValue_intText short ends fuel
  | .str text, reads, t, _, fuel, _ => by
      have start : w.value (.str text) ++ t = 0x22 :: (w.body text ++ 0x22 :: t) := by
        simp [value, quote]
      rw [start, scanValue, if_pos rfl, w.scan reads]
      rfl
  | .list [], _, t, _, fuel, _ => rfl
  | .list (item :: rest), readable, t, _, fuel, enough => by
      have leads : Leads (joinComma (w.values (item :: rest)) ++ 0x5D :: t) :=
        (leads_joinComma (leads_value readable.1) (w.values rest)).append _
      have read := scanItems_values (item :: rest) readable (List.cons_ne_nil _ _) t fuel (by
        simp only [value, List.length_cons, List.length_append, List.length_nil] at enough
        omega)
      have text : w.value (.list (item :: rest)) ++ t =
          0x5B :: (joinComma (w.values (item :: rest)) ++ 0x5D :: t) := by
        simp [value]
      rw [text, scanValue, if_neg (by decide), if_neg (by decide), if_pos rfl, leads.skipSpace]
      obtain ⟨c, later, start, -, notClosing, -⟩ := leads
      rw [start] at read ⊢
      simp only [if_neg notClosing, read]
      rfl
  | .dict [], _, t, _, fuel, _ => rfl
  | .dict (entry :: rest), readable, t, _, fuel, enough => by
      have text : w.value (.dict (entry :: rest)) ++ t =
          0x7B :: (joinComma (w.members (entry :: rest)) ++ 0x7D :: t) := by
        simp [value]
      have read := scanMembers_members (entry :: rest) readable (List.cons_ne_nil _ _) t fuel (by
        simp only [value, List.length_cons, List.length_append, List.length_nil] at enough
        omega)
      obtain ⟨later, start⟩ := joinComma_members_cons readable
      have noSpace (more : Text) : skipSpace (0x22 :: more) = 0x22 :: more := rfl
      rw [text, scanValue, if_neg (by decide), if_pos rfl]
      rw [start, List.cons_append] at read ⊢
      simp only [noSpace, if_neg (by decide : ¬ (0x22 : CodePoint) = 0x7D), read]
      exact congrArg (fun v => Except.ok (v, t)) (dictOfMembers_membersOf readable)

/-- The items of a readable list. -/
theorem scanItems_values : (items : List PyValue) → w.ReadableItems items → items ≠ [] →
    (t : Text) → (fuel : ℕ) → (joinComma (w.values items)).length + 1 ≤ fuel →
    scanItems fuel (joinComma (w.values items) ++ 0x5D :: t) = .ok (items, t)
  | [], _, nonempty, _, _, _ => absurd rfl nonempty
  | [item], readable, _, t, fuel, enough => by
      obtain ⟨fuel, rfl⟩ : ∃ more, fuel = more + 2 :=
        ⟨fuel - 2, by
          have := length_value_pos readable.1
          simp only [values, joinComma] at enough
          omega⟩
      have read := scanValue_value item readable.1 (0x5D :: t)
        (endsNumber_cons t (by decide)) fuel (by
          simp only [values, joinComma] at enough
          omega)
      simp only [values, joinComma, scanItems, read]
      rfl
  | item :: next :: rest, readable, _, t, fuel, enough => by
      have text : joinComma (w.values (item :: next :: rest)) ++ 0x5D :: t =
          w.value item ++ 0x2C :: (joinComma (w.values (next :: rest)) ++ 0x5D :: t) := by
        simp [values, joinComma]
      have length : (joinComma (w.values (item :: next :: rest))).length =
          (w.value item).length + (joinComma (w.values (next :: rest))).length + 1 := by
        simp only [values, joinComma, List.length_append, List.length_cons]
        omega
      have positive := length_value_pos readable.1
      obtain ⟨fuel, rfl⟩ : ∃ more, fuel = more + 2 := ⟨fuel - 2, by omega⟩
      have read := scanValue_value item readable.1
        (0x2C :: (joinComma (w.values (next :: rest)) ++ 0x5D :: t))
        (endsNumber_cons _ (by decide)) fuel (by omega)
      have more := scanItems_values (next :: rest) readable.2 (List.cons_ne_nil _ _) t (fuel + 1)
        (by omega)
      have leads : Leads (joinComma (w.values (next :: rest)) ++ 0x5D :: t) :=
        (leads_joinComma (leads_value readable.2.1) (w.values rest)).append _
      rw [text, scanItems, read]
      change (do
        let (items, rest) ← scanItems (fuel + 1)
          (skipSpace (joinComma (w.values (next :: rest)) ++ 0x5D :: t))
        Except.ok (item :: items, rest)) = _
      rw [leads.skipSpace, more]
      rfl

/-- The members of a readable dictionary. -/
theorem scanMembers_members : (entries : List (PyValue × PyValue)) → w.ReadableEntries entries →
    entries ≠ [] → (t : Text) → (fuel : ℕ) → (joinComma (w.members entries)).length + 1 ≤ fuel →
    scanMembers fuel (joinComma (w.members entries) ++ 0x7D :: t) = .ok (membersOf entries, t)
  | [], _, nonempty, _, _, _ => absurd rfl nonempty
  | [(.str key, v)], readable, _, t, fuel, enough => by
      obtain ⟨reads, readableValue, -, -⟩ := readable
      have text : joinComma (w.members [(.str key, v)]) ++ 0x7D :: t =
          0x22 :: (w.body key ++ 0x22 :: 0x3A :: (w.value v ++ 0x7D :: t)) := by
        simp [members, joinComma, quote]
      have length : (joinComma (w.members [(.str key, v)])).length =
          (w.quote key).length + (w.value v).length + 1 := by
        simp [members, joinComma]
        omega
      have positive : 0 < (w.quote key).length := Nat.succ_pos _
      have positive' := length_value_pos readableValue
      obtain ⟨fuel, rfl⟩ : ∃ more, fuel = more + 2 := ⟨fuel - 2, by omega⟩
      have read := scanValue_value v readableValue (0x7D :: t)
        (endsNumber_cons t (by decide)) fuel (by omega)
      have leads : Leads (w.value v ++ 0x7D :: t) := (leads_value readableValue).append _
      rw [text, scanMembers, w.scan reads]
      change (do
        let (v, rest) ← scanValue (fuel + 1) (skipSpace (w.value v ++ 0x7D :: t))
        match skipSpace rest with
        | 0x7D :: rest => Except.ok ([(key, v)], rest)
        | 0x2C :: rest => do
            let (members, rest) ← scanMembers (fuel + 1) (skipSpace rest)
            Except.ok ((key, v) :: members, rest)
        | _ => jsonDecodeError "Expecting ',' delimiter") = _
      rw [leads.skipSpace, read]
      rfl
  | (.str key, v) :: next :: rest, readable, _, t, fuel, enough => by
      obtain ⟨reads, readableValue, readableRest, -⟩ := readable
      obtain ⟨later, start⟩ := joinComma_members_cons readableRest
      have parts : joinComma (w.members ((.str key, v) :: next :: rest)) =
          (w.quote key ++ 0x3A :: w.value v) ++ 0x2C :: joinComma (w.members (next :: rest)) := by
        obtain ⟨k', v'⟩ := next
        obtain ⟨key', rfl, -⟩ := readableRest.uncons
        rfl
      have text : joinComma (w.members ((.str key, v) :: next :: rest)) ++ 0x7D :: t =
          0x22 :: (w.body key ++ 0x22 :: 0x3A ::
            (w.value v ++ 0x2C :: (joinComma (w.members (next :: rest)) ++ 0x7D :: t))) := by
        simp [parts, quote]
      have length : (joinComma (w.members ((.str key, v) :: next :: rest))).length =
          (w.quote key).length + (w.value v).length +
            (joinComma (w.members (next :: rest))).length + 2 := by
        simp only [parts, List.length_append, List.length_cons]
        omega
      have positive : 0 < (w.quote key).length := Nat.succ_pos _
      obtain ⟨fuel, rfl⟩ : ∃ more, fuel = more + 2 := ⟨fuel - 2, by omega⟩
      have read := scanValue_value v readableValue
        (0x2C :: (joinComma (w.members (next :: rest)) ++ 0x7D :: t))
        (endsNumber_cons _ (by decide)) fuel (by omega)
      have more := scanMembers_members (next :: rest) readableRest (List.cons_ne_nil _ _) t
        (fuel + 1) (by omega)
      have leads : Leads
          (w.value v ++ 0x2C :: (joinComma (w.members (next :: rest)) ++ 0x7D :: t)) :=
        (leads_value readableValue).append _
      rw [text, scanMembers, w.scan reads]
      change (do
        let (v, rest) ← scanValue (fuel + 1) (skipSpace
          (w.value v ++ 0x2C :: (joinComma (w.members (next :: rest)) ++ 0x7D :: t)))
        match skipSpace rest with
        | 0x7D :: rest => Except.ok ([(key, v)], rest)
        | 0x2C :: rest => do
            let (members, rest) ← scanMembers (fuel + 1) (skipSpace rest)
            Except.ok ((key, v) :: members, rest)
        | _ => jsonDecodeError "Expecting ',' delimiter") = _
      rw [leads.skipSpace, read]
      change (do
        let (members, rest) ← scanMembers (fuel + 1)
          (skipSpace (joinComma (w.members (next :: rest)) ++ 0x7D :: t))
        Except.ok ((key, v) :: members, rest)) = _
      have noSpace : skipSpace (joinComma (w.members (next :: rest)) ++ 0x7D :: t) =
          joinComma (w.members (next :: rest)) ++ 0x7D :: t := by
        rw [start]
        rfl
      rw [noSpace, more]
      rfl

end

/-- **`json.loads` inverts a writer** on readable values. -/
theorem jsonLoads_value {v : PyValue} (readable : w.Readable v) :
    jsonLoads (w.value v) = .ok v := by
  have read := scanValue_value v readable [] endsNumber_nil (w.value v).length (by omega)
  rw [List.append_nil] at read
  have noMark : (w.value v).head? ≠ some 0xFEFF := by
    obtain ⟨c, rest, text, -, -, notMark⟩ := leads_value readable
    rw [text]
    exact fun same => notMark (Option.some.inj same)
  rw [jsonLoads, if_neg noMark, (leads_value readable).skipSpace, read]
  rfl

end StringWriter

/-! ### Plain values -/

/-- Strings with ASCII escapes. -/
def asciiWriter : StringWriter where
  body text := text.flatMap escapePoint
  Reads := Unpaired
  scan unpaired t := scanString_quoted unpaired t

mutual

/-- The text of a plain value has the members in their order. -/
theorem dumpsText_eq_value : (v : PyValue) → Plain v → dumpsText v = asciiWriter.value v
  | .none, _ => rfl
  | .bool true, _ => rfl
  | .bool false, _ => rfl
  | .int _, _ => rfl
  | .str _, _ => rfl
  | .list items, plain =>
      congrArg (fun parts => 0x5B :: (joinComma parts ++ [0x5D])) (dumpsItems_eq_values items plain)
  | .dict entries, plain => by
      rw [dumpsText_dict plain]
      exact congrArg (fun parts => 0x7B :: (joinComma parts ++ [0x7D]))
        (dumpsEntries_eq_members entries plain)

theorem dumpsItems_eq_values : (items : List PyValue) → PlainItems items →
    dumpsItems items = asciiWriter.values items
  | [], _ => rfl
  | item :: rest, plain => by
      rw [dumpsItems, dumpsText_eq_value item plain.1, dumpsItems_eq_values rest plain.2]
      rfl

theorem dumpsEntries_eq_members : (entries : List (PyValue × PyValue)) → PlainEntries entries →
    (dumpsEntries entries).map memberText = asciiWriter.members entries
  | [], _ => rfl
  | (.str key, v) :: rest, plain => by
      obtain ⟨-, plainValue, plainRest, -⟩ := plain
      rw [dumpsEntries, List.map_cons, dumpsText_eq_value v plainValue,
        dumpsEntries_eq_members rest plainRest]
      rfl

end

mutual

/-- Plain values are readable. -/
theorem readable_of_plain : (v : PyValue) → Plain v → asciiWriter.Readable v
  | .none, _ => trivial
  | .bool _, _ => trivial
  | .int _, short => short
  | .str _, scalar => unpaired_of_scalar scalar
  | .list items, plain => readableItems_of_plain items plain
  | .dict entries, plain => readableEntries_of_plain entries plain

theorem readableItems_of_plain : (items : List PyValue) → PlainItems items →
    asciiWriter.ReadableItems items
  | [], _ => trivial
  | item :: rest, plain =>
      ⟨readable_of_plain item plain.1, readableItems_of_plain rest plain.2⟩

theorem readableEntries_of_plain : (entries : List (PyValue × PyValue)) → PlainEntries entries →
    asciiWriter.ReadableEntries entries
  | [], _ => trivial
  | (.str key, v) :: rest, plain => by
      obtain ⟨scalar, plainValue, plainRest, order⟩ := plain
      refine ⟨unpaired_of_scalar scalar, readable_of_plain v plainValue,
        readableEntries_of_plain rest plainRest, fun entry mem same => ?_⟩
      obtain ⟨k, value⟩ := entry
      obtain rfl : k = .str key := same
      have named : (key, dumpsText value) ∈ dumpsEntries rest := by
        rw [(dumpsEntries_eq_map plainRest).1]
        rw [(dumpsEntries_eq_map plainRest).2] at mem
        obtain ⟨m, inside, ofEntry⟩ := List.mem_map.mp mem
        refine List.mem_map.mpr ⟨m, inside, ?_⟩
        cases ofEntry
        rfl
      exact (order _ named).2 rfl

end

/-- **`json.loads` inverts `json.dumps`** on plain values. -/
theorem jsonLoads_dumpsText {v : PyValue} (plain : Plain v) : jsonLoads (dumpsText v) = .ok v := by
  rw [dumpsText_eq_value v plain]
  exact StringWriter.jsonLoads_value (readable_of_plain v plain)

/-! ### Bytes -/

/-- Every code point is an ASCII character. -/
def Ascii (text : Text) : Prop := ∀ c ∈ text, c.val < 0x80

theorem Ascii.append {text text' : Text} (h : Ascii text) (h' : Ascii text') :
    Ascii (text ++ text') := fun _ mem => (List.mem_append.mp mem).elim (h _) (h' _)

theorem Ascii.cons {c : CodePoint} {text : Text} (first : c.val < 0x80) (h : Ascii text) :
    Ascii (c :: text) := by
  intro c' mem
  rcases List.mem_cons.mp mem with rfl | mem
  · exact first
  · exact h c' mem

theorem ascii_nil : Ascii [] := fun _ mem => absurd mem List.not_mem_nil

theorem ascii_ofString {s : String} (h : (s.toList.all fun c => c.toNat < 0x80) = true) :
    Ascii (Text.ofString s) := by
  intro point mem
  obtain ⟨c, inside, rfl⟩ := List.mem_map.mp mem
  exact of_decide_eq_true (List.all_eq_true.mp h c inside)

theorem scalar_of_ascii {text : Text} (ascii : Ascii text) : Scalar text :=
  fun c mem => .inl ((ascii c mem).trans (by decide))

theorem scalar_ofString {s : String} (ascii : (s.toList.all fun c => c.toNat < 0x80) = true) :
    Scalar (Text.ofString s) := scalar_of_ascii (ascii_ofString ascii)

theorem digitPoint_lt (d : ℕ) (small : d < 16) : (digitPoint d).val < 0x80 := by
  revert small
  revert d
  decide

theorem ascii_hexText (width n : ℕ) : Ascii (hexText width n) := by
  induction width generalizing n with
  | zero => exact ascii_nil
  | succ width ih =>
      exact (ih (n / 16)).append (.cons (digitPoint_lt _ (Nat.mod_lt n (by decide))) ascii_nil)

theorem ascii_decimalText (n : ℕ) : Ascii (decimalText n) := by
  intro c mem
  obtain ⟨d, inside, rfl⟩ := List.mem_map.mp mem
  have := lt_ten_of_mem_decimalDigits inside
  exact digitPoint_lt d (by omega)

theorem ascii_escapePoint (c : CodePoint) : Ascii (escapePoint c) := by
  have unicode (n : ℕ) : Ascii (0x5C :: 0x75 :: hexText 4 n) :=
    .cons (by decide) (.cons (by decide) (ascii_hexText 4 n))
  unfold escapePoint
  dsimp only
  split
  · rename_i special
    rcases special with rfl | rfl
    · exact .cons (by decide) (.cons (by decide) ascii_nil)
    · exact .cons (by decide) (.cons (by decide) ascii_nil)
  iterate 5
    split
    · exact .cons (by decide) (.cons (by decide) ascii_nil)
  split
  · rename_i printable
    exact .cons (by omega) ascii_nil
  split
  · exact unicode _
  · exact (unicode _).append (unicode _)

theorem ascii_quoteText (text : Text) : Ascii (quoteText text) := by
  refine .cons (by decide) (.append (fun c mem => ?_) (.cons (by decide) ascii_nil))
  obtain ⟨point, -, inside⟩ := List.mem_flatMap.mp mem
  exact ascii_escapePoint point c inside

theorem ascii_joinComma {parts : List Text} (h : ∀ part ∈ parts, Ascii part) :
    Ascii (joinComma parts) := by
  induction parts with
  | nil => exact ascii_nil
  | cons part rest ih =>
      have later := ih fun part mem => h part (List.mem_cons_of_mem _ mem)
      have first := h part List.mem_cons_self
      cases rest with
      | nil => exact first
      | cons next rest => exact first.append (.cons (by decide) later)

mutual

/-- `dumps` writes ASCII. -/
theorem ascii_dumpsText : (v : PyValue) → Plain v → Ascii (dumpsText v)
  | .none, _ => ascii_ofString (by decide)
  | .bool true, _ => ascii_ofString (by decide)
  | .bool false, _ => ascii_ofString (by decide)
  | .int n, _ => by
      change Ascii (intText n)
      unfold intText
      split
      · exact .cons (by decide) (ascii_decimalText _)
      · exact ascii_decimalText _
  | .str text, _ => ascii_quoteText text
  | .list items, plain =>
      .cons (by decide) (.append (ascii_joinComma (ascii_dumpsItems items plain))
        (.cons (by decide) ascii_nil))
  | .dict entries, plain => by
      refine .cons (by decide) (.append (ascii_joinComma fun part mem => ?_)
        (.cons (by decide) ascii_nil))
      rw [sortMembers_dumpsEntries plain] at mem
      obtain ⟨m, inside, rfl⟩ := List.mem_map.mp mem
      exact (ascii_quoteText m.1).append (.cons (by decide)
        (ascii_dumpsEntries entries plain m inside))

theorem ascii_dumpsItems : (items : List PyValue) → PlainItems items →
    ∀ part ∈ dumpsItems items, Ascii part
  | [], _, part, mem => absurd mem List.not_mem_nil
  | item :: rest, plain, part, mem => by
      rcases List.mem_cons.mp mem with rfl | mem
      · exact ascii_dumpsText item plain.1
      · exact ascii_dumpsItems rest plain.2 part mem

theorem ascii_dumpsEntries : (entries : List (PyValue × PyValue)) → PlainEntries entries →
    ∀ m ∈ dumpsEntries entries, Ascii m.2
  | [], _, m, mem => absurd mem List.not_mem_nil
  | (.str key, value) :: rest, plain, m, mem => by
      obtain ⟨-, plainValue, plainRest, -⟩ := plain
      rcases List.mem_cons.mp mem with rfl | mem
      · exact ascii_dumpsText value plainValue
      · exact ascii_dumpsEntries rest plainRest m mem

end

/-- ASCII text survives its bytes. -/
theorem utf8Decode_asciiBytes {text : Text} (ascii : Ascii text) :
    utf8Decode (asciiBytes text) = .ok text := by
  induction text with
  | nil => rfl
  | cons c rest ih =>
      have first := ascii c List.mem_cons_self
      have byte : (UInt8.ofNat c.val).toNat = c.val := by
        simp only [UInt8.toNat_ofNat']
        omega
      have later := ih fun c mem => ascii c (List.mem_cons_of_mem _ mem)
      change utf8Decode (UInt8.ofNat c.val :: asciiBytes rest) = _
      unfold utf8Decode
      rw [byte, if_pos first, later, ofNat_eq_codePoint rfl]
      rfl

mutual

/-- `canonical_json` accepts plain values. -/
theorem validateCanonical_plain : (v : PyValue) → Plain v → validateCanonical v = .ok ()
  | .none, _ => rfl
  | .bool _, _ => rfl
  | .int _, _ => rfl
  | .str _, _ => rfl
  | .list items, plain => validateItems_plain items plain
  | .dict entries, plain => by
      have strings : entries.all (fun entry => entry.1.isStr) = true := by
        rw [(dumpsEntries_eq_map plain).2]
        simp [PyValue.isStr]
      rw [validateCanonical, if_pos strings]
      exact validateEntries_plain entries plain

theorem validateItems_plain : (items : List PyValue) → PlainItems items →
    validateItems items = .ok ()
  | [], _ => rfl
  | item :: rest, plain => by
      rw [validateItems, validateCanonical_plain item plain.1]
      exact validateItems_plain rest plain.2

theorem validateEntries_plain : (entries : List (PyValue × PyValue)) → PlainEntries entries →
    validateEntries entries = .ok ()
  | [], _ => rfl
  | (.str key, value) :: rest, plain => by
      obtain ⟨-, plainValue, plainRest, -⟩ := plain
      rw [validateEntries, validateCanonical_plain value plainValue]
      exact validateEntries_plain rest plainRest

end

end CubeNano

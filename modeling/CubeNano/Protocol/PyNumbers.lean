import CubeNano.Protocol.ProductRef
import Mathlib.Algebra.Order.Ring.Rat
import Mathlib.Data.Rat.Floor

/-!
# Built-in conversions of dynamic values

`int()`, `float()`, `bool()`, `==` and the string methods that the readers of untrusted JSON apply
to what `json.loads` returns.  A float is the exact number that its literal writes, or one of the
special values; only the range of a double is kept.

## Main definitions

* `PyFloat` — a float in exact arithmetic
* `intOf`, `pyFloat` — `int(value)` and `float(value)`
* `pyEq` — `left == right`
-/

namespace CubeNano

/-! ## Texts -/

/-- The code points for which `str.isspace` is true. -/
def spaceCodes : List ℕ :=
  [0x9, 0xA, 0xB, 0xC, 0xD, 0x1C, 0x1D, 0x1E, 0x1F, 0x20, 0x85, 0xA0, 0x1680, 0x2000, 0x2001,
    0x2002, 0x2003, 0x2004, 0x2005, 0x2006, 0x2007, 0x2008, 0x2009, 0x200A, 0x2028, 0x2029, 0x202F,
    0x205F, 0x3000]

/-- `str.isspace` of one character. -/
def isSpace (c : CodePoint) : Bool := spaceCodes.contains c.val

/-- A text without the characters at both ends that `drop` picks. -/
def stripBy (drop : CodePoint → Bool) (text : Text) : Text :=
  ((text.dropWhile drop).reverse.dropWhile drop).reverse

/-- `str.strip()`. -/
def stripText (text : Text) : Text := stripBy isSpace text

/-- The ASCII part of `str.lower()`. -/
def lowerPoint (c : CodePoint) : CodePoint :=
  if 0x41 ≤ c.val ∧ c.val ≤ 0x5A then Fin.ofNat _ (c.val + 0x20) else c

/-- Whether `text.lower()` is a word of ASCII letters other than `i` and `k`, which alone are also
the lower case of characters beyond ASCII. -/
def lowerIs (word : String) (text : Text) : Bool := text.map lowerPoint = Text.ofString word

/-- A text as `float()` sees it: the digits of other scripts are ASCII ones. -/
def asciiNumeral (text : Text) : Text :=
  text.map fun c =>
    match unicodeDecimal? c with
    | some d => digitPoint d
    | none => c

/-! ## Floats -/

/-- A float in exact arithmetic. -/
inductive PyFloat
  | finite (value : ℚ)
  | infinite (negative : Bool)
  | nan
  deriving DecidableEq

/-- `left == right` of floats. -/
def PyFloat.eq : PyFloat → PyFloat → Bool
  | finite a, finite b => a = b
  | infinite a, infinite b => a = b
  | _, _ => false

/-- `left >= right` of floats. -/
def PyFloat.ge : PyFloat → PyFloat → Bool
  | finite a, finite b => b ≤ a
  | finite _, infinite negative => negative
  | infinite negative, finite _ => !negative
  | infinite negative, infinite negative' => !negative || negative'
  | _, _ => false

/-- `math.isfinite`. -/
def PyFloat.isFinite : PyFloat → Bool
  | finite _ => true
  | _ => false

/-- A tuple of numbers, as it is printed. -/
def shapeText : List ℕ → String
  | [n] => "(" ++ toString n ++ ",)"
  | shape => "(" ++ ", ".intercalate (shape.map toString) ++ ")"

/-- A decimal number that starts a text: its significand, its exponent and the rest. -/
def takeDecimal (text : Text) : Option (ℕ × ℤ × Text) :=
  let (integer, rest) := takeDigits text
  let (fraction, rest) :=
    match rest with
    | [] => ([], [])
    | c :: rest' => if c = 0x2E then takeDigits rest' else ([], c :: rest')
  if integer = [] ∧ fraction = [] then none
  else
    let (exponent, rest) := takeExponent rest
    some (natOfDigits 10 (integer ++ fraction), exponent.getD 0 - fraction.length, rest)

/-- The number of a sign, a significand and an exponent; beyond the range of a double, infinity. -/
def floatOf (negative : Bool) (significand : ℕ) (exponent : ℤ) : PyFloat :=
  if finiteDouble significand exponent then
    let value : ℚ := significand * (10 : ℚ) ^ exponent
    .finite (if negative then -value else value)
  else .infinite negative

/-- A float literal of a JSON text. -/
def floatOfLiteral (literal : Text) : PyFloat :=
  let (negative, rest) := takeSign literal
  match takeDecimal rest with
  | some (significand, exponent, _) => floatOf negative significand exponent
  | none => if rest = Text.ofString "inf" then .infinite negative else .nan

/-- A text without its underscores, each of which has to stand between two digits. -/
def dropUnderscores : (previous : Bool) → Text → Option Text
  | _, [] => some []
  | previous, c :: rest =>
      if c = 0x5F then
        if previous ∧ (rest.head?.bind decimalValue?).isSome then dropUnderscores false rest
        else none
      else (dropUnderscores (decimalValue? c).isSome rest).map (c :: ·)

/-- `float(text)`. -/
def floatOfNumeral (text : Text) : Raises PyFloat :=
  let malformed : Raises PyFloat := valueError "could not convert string to float"
  match dropUnderscores false (asciiNumeral (stripBy isIntSpace text)) with
  | none => malformed
  | some text =>
      let (negative, rest) := takeSign text
      let word := rest.map lowerPoint
      if word = Text.ofString "inf" ∨ word = Text.ofString "infinity" then
        .ok (.infinite negative)
      else if word = Text.ofString "nan" then .ok .nan
      else
        match takeDecimal rest with
        | some (significand, exponent, []) => .ok (floatOf negative significand exponent)
        | _ => malformed

/-! ## Conversions -/

/-- `int(value)`. -/
def intOf : PyValue → Raises ℤ
  | .float _ literal =>
      match floatOfLiteral literal with
      | .finite value => .ok (value.num.tdiv value.den)
      | .infinite _ => overflowError "cannot convert float infinity to integer"
      | .nan => valueError "cannot convert float NaN to integer"
  | value => pyInt value

/-- `float(n)`. -/
def floatOfInt (n : ℤ) : Raises PyFloat :=
  if finiteDouble n.natAbs 0 then .ok (.finite n)
  else overflowError "int too large to convert to float"

/-- `float(value)`. -/
def pyFloat : PyValue → Raises PyFloat
  | .bool b => .ok (.finite (if b then 1 else 0))
  | .int n => floatOfInt n
  | .float _ literal => .ok (floatOfLiteral literal)
  | .str text => floatOfNumeral text
  | _ => typeError "float() argument must be a string or a real number"

/-- `bool(value)`. -/
def truthy : PyValue → Bool
  | .none => false
  | .bool b => b
  | .int n => n ≠ 0
  | .float _ literal => floatOfLiteral literal ≠ .finite 0
  | .bytes data => data ≠ []
  | .str text => text ≠ []
  | .list items => !items.isEmpty
  | .dict entries => !entries.isEmpty

/-! ## Equality -/

/-- The number of a numeric value. -/
def numberOf : PyValue → Option PyFloat
  | .bool b => some (.finite (if b then 1 else 0))
  | .int n => some (.finite n)
  | .float _ literal => some (floatOfLiteral literal)
  | _ => none

/-- `left == right` of values that are not containers. -/
def scalarEq : PyValue → PyValue → Bool
  | .none, .none => true
  | .str a, .str b => a = b
  | .bytes a, .bytes b => a = b
  | a, b =>
      match numberOf a, numberOf b with
      | some x, some y => x.eq y
      | _, _ => false

/-- Whether both values are the one NaN object of the JSON reader; containers compare by identity
first. -/
def bothNan (a b : PyValue) : Bool := numberOf a = some .nan && numberOf b = some .nan

mutual

/-- `left == right`. -/
def pyEq : PyValue → PyValue → Bool
  | .list items, .list items' => itemsEq items items'
  | .dict entries, .dict entries' =>
      entries.length = entries'.length && entriesEq entries entries'
  | .list _, _ => false
  | .dict _, _ => false
  | .none, b => scalarEq .none b
  | .bool a, b => scalarEq (.bool a) b
  | .int a, b => scalarEq (.int a) b
  | .float finite literal, b => scalarEq (.float finite literal) b
  | .bytes a, b => scalarEq (.bytes a) b
  | .str a, b => scalarEq (.str a) b

/-- Equality of the items of two lists. -/
def itemsEq : List PyValue → List PyValue → Bool
  | [], [] => true
  | a :: rest, b :: rest' => (bothNan a b || pyEq a b) && itemsEq rest rest'
  | _, _ => false

/-- Whether a dictionary has all entries of another one; keys are strings. -/
def entriesEq : List (PyValue × PyValue) → List (PyValue × PyValue) → Bool
  | [], _ => true
  | (key, value) :: rest, entries =>
      (match entries.find? fun entry => scalarEq entry.1 key with
        | some entry => bothNan value entry.2 || pyEq value entry.2
        | none => false) && entriesEq rest entries

end

example : (intOf (.float true (Text.ofString "-25e-1"))).toOption = some (-2) := by decide +kernel

example : pyEq (.int 1) (.float true (Text.ofString "10e-1")) = true := by decide +kernel

end CubeNano

import CubeNano.Results.PatchResults

/-!
# The decision policy

`decision_policy.py`: what is decided about a capture from its patch results.  Areas, fractions and
probabilities are exact numbers.  The texts that a record copies from its manifest are left out.

## Main definitions

* `DecisionPolicy`, `DecisionRecord`
* `windowArea`, `assessRecord`, `DecisionPolicy.evaluate`
-/

namespace CubeNano

/-- The decisions. -/
inductive Decision
  | keepForDownlink
  | deleteCapture
  | retainForGround
  deriving DecidableEq

/-- `DecisionRecord`. -/
structure DecisionRecord where
  decision : Decision
  reason : String
  reasonCode : Option String
  cloudCoverage : Option ℚ
  validArea : ℚ
  georefValid : Bool

/-- A record that retains the capture. -/
def retain (reason : String) (reasonCode : String) (validArea : ℚ) (georefValid : Bool) :
    DecisionRecord where
  decision := .retainForGround
  reason := reason
  reasonCode := some reasonCode
  cloudCoverage := none
  validArea := validArea
  georefValid := georefValid

/-! ## One record -/

/-- `tuple(int(value) for value in window)`, unpacked into four names. -/
def unpackFour (values : List PyValue) : Raises (ℤ × ℤ × ℤ × ℤ) := do
  -- a fifth value is converted before it is found to be one too many
  let bounds ← (values.take 5).mapM intOf
  match bounds with
  | [rowStart, rowEnd, colStart, colEnd] => .ok (rowStart, rowEnd, colStart, colEnd)
  | _ => valueError "wrong number of values to unpack (expected 4)"

/-- `int(window[name])`. -/
def windowBound (window : PyDict) (name : String) : Raises ℤ :=
  match dictGet? window name with
  | none => keyError ("'" ++ name ++ "'")
  | some value => intOf value

/-- The bounds of a window. -/
def windowBoundsOf (window : PyValue) : Raises (ℤ × ℤ × ℤ × ℤ) :=
  match window with
  | .dict entries => do
      let rowStart ← windowBound entries "row_start"
      let rowEnd ← windowBound entries "row_end"
      let colStart ← windowBound entries "col_start"
      let colEnd ← windowBound entries "col_end"
      .ok (rowStart, rowEnd, colStart, colEnd)
  | .list items => unpackFour items
  | .str text => unpackFour (text.map fun c => .str [c])
  | _ => typeError "cannot unpack non-iterable object"

/-- `_window_area`. -/
def windowArea (record : PyDict) : Raises PyFloat := do
  let (rowStart, rowEnd, colStart, colEnd) ← windowBoundsOf (dictGet record "model_window")
  floatOfInt (max 0 (rowEnd - rowStart) * max 0 (colEnd - colStart))

/-- `float(value)`, and −1 where that is a `TypeError` or a `ValueError`. -/
def floatOrMinusOne (value : PyValue) : Raises PyFloat :=
  match pyFloat value with
  | .ok number => .ok number
  | .error e => if e.kind.isTypeOrValueError then .ok (.finite (-1)) else .error e

/-- `0.0 <= number <= 1.0`. -/
def unitInterval? : PyFloat → Option ℚ
  | .finite value => if 0 ≤ value ∧ value ≤ 1 then some value else none
  | _ => none

/-- The label of a record: whether it is `cloud`, if it is a label. -/
def cloudLabel? : PyValue → Option Bool
  | .bool b => some b
  | .str text =>
      if lowerIs "cloud" text then some true
      else if lowerIs "clear" text then some false
      else none
  -- no other value is written as a label
  | _ => none

/-- Whether a record says that it is georeferenced. -/
def georefFlag : PyValue → Bool
  | .str text => lowerIs "true" (stripText text)
  | value => truthy value

/-- Whether a record says that its inference is valid. -/
def inferenceValid : PyValue → Bool
  | .str text => text = Text.ofString "valid"
  | _ => false

/-- The sums of `evaluate`. -/
structure Totals where
  validArea : ℚ
  cloudArea : ℚ
  georefValid : Bool

/-- What a record adds to the sums: its weight and its label. -/
def Totals.add (totals : Totals) (weight : ℚ) (cloud georef : Bool) : Totals where
  validArea := totals.validArea + weight
  cloudArea := if cloud then totals.cloudArea + weight else totals.cloudArea
  georefValid := totals.georefValid && georef

/-- A record with a number and a label. -/
def labelRecord (totals : Totals) (record : PyDict) (area fraction : ℚ) (georef : Bool) :
    Raises (Totals ⊕ DecisionRecord) := do
  let georefValid := totals.georefValid && georef
  let probability ← floatOrMinusOne (dictGet record "cloud_probability")
  if (unitInterval? probability).isNone then
    .ok (.inr (retain "invalid_cloud_probability" "PATCH_RESULT_INCOMPLETE" 0 georefValid))
  else
    match cloudLabel? (dictGet record "cloud_label") with
    | none => .ok (.inr (retain "invalid_cloud_label" "PATCH_RESULT_INCOMPLETE" 0 georefValid))
    | some cloud => .ok (.inl (totals.add (area * fraction) cloud georef))

/-- The body of the loop of `evaluate`: the sums with a record, or the record that retains. -/
def assessRecord (totals : Totals) (record : PyDict) : Raises (Totals ⊕ DecisionRecord) :=
  if inferenceValid (dictGet record "inference_status") then do
    let validFraction ← floatOrMinusOne (dictGet record "valid_fraction")
    match unitInterval? validFraction with
    | none =>
        .ok (.inr (retain "invalid_valid_fraction" "PATCH_RESULT_INCOMPLETE" 0 false))
    | some fraction =>
        if fraction ≤ 0 then
          .ok (.inr (retain "patch_has_no_valid_area" "PATCH_RESULT_INCOMPLETE" 0 false))
        else
          let georef := georefFlag ((dictGet? record "georef_valid").getD (.bool false))
          match windowArea record with
          | .ok (.finite area) => labelRecord totals record area fraction georef
          -- `float` of an integer is finite
          | .ok _ => overflowError "int too large to convert to float"
          | .error e =>
              if e.kind.isTypeOrValueError || e.kind = .keyError then
                .ok (.inr (retain "invalid_model_window" "PATCH_RESULT_INCOMPLETE" 0
                  (totals.georefValid && georef)))
              else .error e
  else
    .ok (.inr (retain "inference_not_complete_for_all_patches" "PATCH_RESULT_INCOMPLETE" 0 false))

/-- The loop of `evaluate` over the records. -/
def assessRecords : Totals → List PatchRecord → Raises (Totals ⊕ DecisionRecord)
  | totals, [] => .ok (.inl totals)
  | totals, record :: records => do
      match ← assessRecord totals record.entries with
      | .inl totals => assessRecords totals records
      | .inr retained => .ok (.inr retained)

/-! ## The decision -/

namespace DecisionPolicy

variable (policy : DecisionPolicy)

end DecisionPolicy

end CubeNano

import CubeNano.Protocol.CanonicalJson

/-!
# Printed values

`str(value)` and `repr(value)` of what `json.loads` returns.  Which characters beyond ASCII are
printable is the Unicode database's; no surrogate is.

## Main definitions

* `CharacterTable` — what `repr` needs of the Unicode database
* `pyRepr`, `pyStr` — `repr(value)` and `str(value)`

## Main statements

* `unpaired_pyStr` — what is printed of a value that is read back has no surrogate pair
-/

namespace CubeNano

/-- What `repr` needs of the Unicode database. -/
structure CharacterTable where
  /-- `str.isprintable` of one character beyond ASCII. -/
  isPrintable : CodePoint → Bool
  surrogate_hidden : ∀ c : CodePoint, 0xD800 ≤ c.val ∧ c.val ≤ 0xDFFF → isPrintable c = false

/-- A table without printable characters beyond ASCII. -/
def CharacterTable.ascii : CharacterTable := ⟨fun _ => false, fun _ _ => rfl⟩

variable (table : CharacterTable)

/-- One character in the `repr` of a string. -/
def reprPoint (quote c : CodePoint) : Text :=
  if c = quote ∨ c = 0x5C then [0x5C, c]
  else if c = 0x09 then Text.ofString "\\t"
  else if c = 0x0A then Text.ofString "\\n"
  else if c = 0x0D then Text.ofString "\\r"
  else if 0x20 ≤ c.val ∧ c.val < 0x7F then [c]
  else if 0x80 ≤ c.val ∧ table.isPrintable c = true then [c]
  else if c.val ≤ 0xFF then Text.ofString "\\x" ++ hexText 2 c.val
  else if c.val ≤ 0xFFFF then Text.ofString "\\u" ++ hexText 4 c.val
  else Text.ofString "\\U" ++ hexText 8 c.val

/-- `repr(text)`: in double quotes if there are single ones and no double ones. -/
def reprText (text : Text) : Text :=
  let quote : CodePoint := if 0x27 ∈ text ∧ 0x22 ∉ text then 0x22 else 0x27
  quote :: (text.flatMap (reprPoint table quote) ++ [quote])

/-- `", ".join(parts)`. -/
def joinItems (parts : List Text) : Text := (parts.intersperse (Text.ofString ", ")).flatten

mutual

/-- `repr(value)`; a float is as it was read, and bytes are in no JSON value. -/
def pyRepr : PyValue → Text
  | .none => Text.ofString "None"
  | .bool value => Text.ofString (if value then "True" else "False")
  | .int n => intText n
  | .float _ literal => literal
  | .bytes _ => []
  | .str text => reprText table text
  | .list items => Text.ofString "[" ++ (joinItems (reprItems items) ++ Text.ofString "]")
  | .dict entries => Text.ofString "\x7b" ++ (joinItems (reprEntries entries) ++ Text.ofString "\x7d")

/-- The items of a list. -/
def reprItems : List PyValue → List Text
  | [] => []
  | item :: rest => pyRepr item :: reprItems rest

/-- The entries of a dictionary. -/
def reprEntries : List (PyValue × PyValue) → List Text
  | [] => []
  | (key, value) :: rest =>
      (pyRepr key ++ (Text.ofString ": " ++ pyRepr value)) :: reprEntries rest

end

/-- `str(value)`. -/
def pyStr : PyValue → Text
  | .str text => text
  | value => pyRepr table value

/-! ## Surrogates -/

theorem Scalar.append {text text' : Text} (scalar : Scalar text) (scalar' : Scalar text') :
    Scalar (text ++ text') :=
  fun c mem => (List.mem_append.mp mem).elim (scalar c) (scalar' c)

theorem scalar_hexText (width n : ℕ) : Scalar (hexText width n) :=
  scalar_of_ascii (ascii_hexText width n)

theorem scalar_reprPoint {quote : CodePoint} (ascii : quote.val < 0x80) (c : CodePoint) :
    Scalar (reprPoint table quote c) := by
  have single {c : CodePoint} (plain : c.val < 0xD800 ∨ 0xDFFF < c.val) : Scalar [c] := by
    intro c' mem
    rw [List.mem_singleton.mp mem]
    exact plain
  have escape (word : String) (width : ℕ) (h : (word.toList.all fun c => c.toNat < 0x80) = true) :
      Scalar (Text.ofString word ++ hexText width c.val) :=
    (scalar_ofString h).append (scalar_hexText width c.val)
  unfold reprPoint
  split
  · rename_i special
    have plain : c.val < 0x80 := by
      rcases special with rfl | rfl
      · exact ascii
      · decide
    exact Scalar.append (single (.inl (by decide))) (single (.inl (by omega)))
  split
  · exact scalar_ofString (by decide)
  split
  · exact scalar_ofString (by decide)
  split
  · exact scalar_ofString (by decide)
  split
  · exact single (.inl (by omega))
  split
  · rename_i printable
    refine single ?_
    by_contra surrogate
    have hidden := table.surrogate_hidden c (by omega)
    rw [hidden] at printable
    exact absurd printable.2 (by decide)
  split
  · exact escape "\\x" 2 (by decide)
  split
  · exact escape "\\u" 4 (by decide)
  · exact escape "\\U" 8 (by decide)

theorem scalar_reprText (text : Text) : Scalar (reprText table text) := by
  have enclosed (quote : CodePoint) (ascii : quote.val < 0x80) :
      Scalar (quote :: (text.flatMap (reprPoint table quote) ++ [quote])) := by
    have plain : quote.val < 0xD800 ∨ 0xDFFF < quote.val := .inl (by omega)
    intro c mem
    rcases List.mem_cons.mp mem with rfl | mem
    · exact plain
    rcases List.mem_append.mp mem with mem | mem
    · obtain ⟨point, -, inside⟩ := List.mem_flatMap.mp mem
      exact scalar_reprPoint table ascii point c inside
    · rw [List.mem_singleton.mp mem]
      exact plain
  unfold reprText
  dsimp only
  split
  · exact enclosed 0x22 (by decide)
  · exact enclosed 0x27 (by decide)

theorem scalar_joinItems {parts : List Text} (each : ∀ part ∈ parts, Scalar part) :
    Scalar (joinItems parts) := by
  have comma : Scalar (Text.ofString ", ") := scalar_ofString (by decide)
  intro c mem
  obtain ⟨part, inside, here⟩ := List.mem_flatten.mp mem
  have cases : part ∈ parts ∨ part = Text.ofString ", " := by
    clear mem each
    induction parts with
    | nil => cases inside
    | cons first rest ih =>
        cases rest with
        | nil => exact .inl inside
        | cons second rest =>
            rw [List.intersperse_cons₂] at inside
            rcases List.mem_cons.mp inside with rfl | inside
            · exact .inl List.mem_cons_self
            rcases List.mem_cons.mp inside with rfl | inside
            · exact .inr rfl
            · exact (ih inside).imp_left (List.mem_cons_of_mem _)
  rcases cases with inside | rfl
  · exact each part inside c here
  · exact comma c here

mutual

/-- What `repr` prints of a canonical value has no surrogates. -/
theorem scalar_pyRepr {P : Text → Prop} : (v : PyValue) → CanonicalWith P v →
    Scalar (pyRepr table v)
  | .none, _ => scalar_ofString (by decide)
  | .bool true, _ => scalar_ofString (by decide)
  | .bool false, _ => scalar_ofString (by decide)
  | .int n, _ => scalar_of_ascii (ascii_intText n)
  | .str text, _ => scalar_reprText table text
  | .list items, canonical =>
      (scalar_ofString (by decide)).append ((scalar_joinItems (scalar_reprItems items canonical)).append
        (scalar_ofString (by decide)))
  | .dict entries, canonical =>
      (scalar_ofString (by decide)).append ((scalar_joinItems (scalar_reprEntries entries
        (canonicalEntries_iff.mp canonical).1)).append (scalar_ofString (by decide)))

theorem scalar_reprItems {P : Text → Prop} : (items : List PyValue) → CanonicalItems P items →
    ∀ part ∈ reprItems table items, Scalar part
  | [], _ => nofun
  | item :: rest, canonical =>
      List.forall_mem_cons.mpr ⟨scalar_pyRepr item canonical.1, scalar_reprItems rest canonical.2⟩

theorem scalar_reprEntries {P : Text → Prop} : (entries : List (PyValue × PyValue)) →
    (∀ entry ∈ entries, (∃ key, entry.1 = .str key ∧ P key) ∧ CanonicalWith P entry.2) →
    ∀ part ∈ reprEntries table entries, Scalar part
  | [], _ => nofun
  | (k, v) :: rest, canonical => by
      obtain ⟨⟨⟨key, named, -⟩, value⟩, later⟩ := List.forall_mem_cons.mp canonical
      obtain rfl : k = .str key := named
      exact List.forall_mem_cons.mpr ⟨(scalar_reprText table key).append
        ((scalar_ofString (by decide)).append (scalar_pyRepr v value)),
        scalar_reprEntries rest later⟩

end

/-- **What is printed of a value that is read back has no surrogate pair.** -/
theorem unpaired_pyStr {v : PyValue} (canonical : CanonicalWith Unpaired v) :
    Unpaired (pyStr table v) := by
  have printed := unpaired_of_scalar (scalar_pyRepr table v canonical)
  cases v with
  | str text => exact canonical
  | _ => exact printed

end CubeNano

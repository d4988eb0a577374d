import CubeNano.Lib.ExceptFold
import CubeNano.Protocol.JsonEquality
import CubeNano.Protocol.Sha256
import CubeNano.Protocol.Utf8
import Mathlib.Data.List.Lex

/-!
# JSON canonicalization

`jcs_canonical_json` of `protocol/canonical.py` and the digest that `gds/idempotency.py` takes
of a request body.  Members are ordered by the bytes of their names in UTF-16, which is the
order of the code units, and strings are written without escapes where JSON allows it.

The depth that `sys.getrecursionlimit` allows is not modelled.

## Main definitions

* `jcsText`, `jcsCanonicalJson`, `semanticDigest`
* `JcsAccepted` — the values that are written
* `MembersOrdered` — the members of every object ascend by code units

## Main statements

* `jcsText_eq_ok_iff` — the text of a value is the text of its arranged form
* `jcs_separates` — reading back, member order, and equality of values
-/

namespace CubeNano

/-! ## UTF-16 -/

/-- The code units of a character. -/
def utf16Point (c : CodePoint) : List ℕ :=
  if c.val < 0x10000 then [c.val]
  else [0xD800 + (c.val - 0x10000) / 1024, 0xDC00 + (c.val - 0x10000) % 1024]

/-- The code units of a text. -/
def utf16Units (text : Text) : List ℕ := text.flatMap utf16Point

/-- `text.encode("utf-16-be")`, of a text without surrogates. -/
def utf16be (text : Text) : Bytes :=
  (utf16Units text).flatMap fun unit => [UInt8.ofNat (unit / 256), UInt8.ofNat (unit % 256)]

/-- The order of `bytes`. -/
def bytesLe (data data' : Bytes) : Bool := data.map UInt8.toNat ≤ data'.map UInt8.toNat

instance decidableScalar (text : Text) : Decidable (Scalar text) :=
  List.decidableBAll (fun c : CodePoint => c.val < 0xD800 ∨ 0xDFFF < c.val) text

/-- `_jcs_utf16_sort_key`. -/
def jcsSortKey (text : Text) : Raises Bytes :=
  if Scalar text then .ok (utf16be text)
  else valueError "JCS strings must not contain unpaired UTF-16 surrogates"

/-! ## Writing -/

/-- `MAX_SAFE_JSON_INTEGER`. -/
def maxSafeJsonInteger : ℕ := 2 ^ 53 - 1

/-- One character of a string literal, `ensure_ascii=False`. -/
def jcsPoint (c : CodePoint) : Text :=
  if c = 0x22 ∨ c = 0x5C then [0x5C, c]
  else if c = 0x0A then [0x5C, 0x6E]
  else if c = 0x0D then [0x5C, 0x72]
  else if c = 0x09 then [0x5C, 0x74]
  else if c = 0x08 then [0x5C, 0x62]
  else if c = 0x0C then [0x5C, 0x66]
  else if c.val < 0x20 then 0x5C :: 0x75 :: hexText 4 c.val
  else [c]

/-- `_jcs_string`. -/
def jcsString (text : Text) : Raises Text :=
  if Scalar text then .ok (0x22 :: (text.flatMap jcsPoint ++ [0x22]))
  else valueError "JCS strings must contain valid Unicode scalar values"

mutual

/-- `_jcs_text`. -/
def jcsText : PyValue → Raises Text
  | .none => .ok (Text.ofString "null")
  | .bool true => .ok (Text.ofString "true")
  | .bool false => .ok (Text.ofString "false")
  | .str text => jcsString text
  | .int n =>
      if maxSafeJsonInteger < n.natAbs then
        valueError "JCS integers outside the exact IEEE-754 range must be strings"
      else .ok (intText n)
  | .float finite _ =>
      if finite then typeError "validated mission HTTP bodies must not contain floating-point values"
      else valueError "JCS does not allow non-finite numbers"
  | .list items => do
      let parts ← jcsItems items
      .ok (0x5B :: (joinComma parts ++ [0x5D]))
  | .dict entries =>
      if entries.all fun entry => entry.1.isStr then do
        let _ ← entries.mapM fun entry => jcsSortKey (memberName entry)
        -- the members are written in their order, so the first failure is the first of these
        let parts ← ((jcsMembers entries).insertionSort fun m m' =>
          bytesLe (utf16be m.1) (utf16be m'.1) = true).mapM Prod.snd
        .ok (0x7B :: (joinComma parts ++ [0x7D]))
      else typeError "JCS object keys must be strings"
  | .bytes _ => typeError "unsupported JSON value type bytes"

/-- The items of a list. -/
def jcsItems : List PyValue → Raises (List Text)
  | [] => .ok []
  | item :: rest => do
      let part ← jcsText item
      let parts ← jcsItems rest
      .ok (part :: parts)

/-- The members of an object, each name with the writing of the member. -/
def jcsMembers : List (PyValue × PyValue) → List (Text × Raises Text)
  | [] => []
  | (key, value) :: rest =>
      (memberName (key, value), do
        let name ← jcsString (memberName (key, value))
        let text ← jcsText value
        .ok (name ++ 0x3A :: text)) :: jcsMembers rest

end

/-- `jcs_canonical_json`. -/
def jcsCanonicalJson (v : PyValue) : Raises Bytes := do
  let text ← jcsText v
  utf8Encode text

/-- The canonical form and the digest that `build_semantic_idempotency` takes of a normalized
body. -/
def semanticDigest (normalized : PyValue) : Raises (Bytes × Bytes) := do
  let canonical ← jcsCanonicalJson normalized
  .ok (canonical, sha256 canonical)

/-! ## What is claimed -/

/-- Every object has distinct strings as keys, as Python objects of the JSON subset have. -/
abbrev JsonBody := {v : PyValue // Keyed (fun _ => True) v}

mutual

/-- The members of every object ascend by the code units of their names. -/
def MembersOrdered : PyValue → Prop
  | .list items => ItemsOrdered items
  | .dict entries =>
      (entries.Pairwise fun entry entry' =>
        utf16Units (memberName entry) < utf16Units (memberName entry')) ∧ ValuesOrdered entries
  | .none => True
  | .bool _ => True
  | .int _ => True
  | .float _ _ => True
  | .bytes _ => True
  | .str _ => True

/-- Every item is so. -/
def ItemsOrdered : List PyValue → Prop
  | [] => True
  | item :: rest => MembersOrdered item ∧ ItemsOrdered rest

/-- Every value of a member is so. -/
def ValuesOrdered : List (PyValue × PyValue) → Prop
  | [] => True
  | (_, value) :: rest => MembersOrdered value ∧ ValuesOrdered rest

end

/-! ## The order of code units -/

/-- Two bytes for each unit keep the order. -/
theorem lt_flatMap_iff {units units' : List ℕ} :
    (units.flatMap fun u => [u / 256, u % 256]) < (units'.flatMap fun u => [u / 256, u % 256]) ↔
      units < units' := by
  induction units generalizing units' with
  | nil =>
      cases units' with
      | nil => exact Iff.rfl
      | cons u rest => exact iff_of_true (List.nil_lt_cons _ _) (List.nil_lt_cons _ _)
  | cons u rest ih =>
      cases units' with
      | nil => exact iff_of_false (List.not_lt_nil _) (List.not_lt_nil _)
      | cons u' rest' =>
          simp only [List.flatMap_cons, List.cons_append, List.nil_append, List.cons_lt_cons_iff]
          rw [ih]
          by_cases later : rest < rest'
          · simp only [later, and_true]
            omega
          · simp only [later, and_false, or_false]
            omega

theorem utf16Point_small {c : CodePoint} {unit : ℕ} (mem : unit ∈ utf16Point c) : unit < 65536 := by
  have bound := c.isLt
  unfold utf16Point at mem
  split at mem
  · rw [List.mem_singleton] at mem
    omega
  · simp only [List.mem_cons, List.not_mem_nil, or_false] at mem
    omega

theorem map_toNat_utf16be (text : Text) :
    (utf16be text).map UInt8.toNat = (utf16Units text).flatMap fun u => [u / 256, u % 256] := by
  unfold utf16be
  rw [List.map_flatMap]
  refine List.flatMap_congr fun unit mem => ?_
  obtain ⟨c, -, inside⟩ := List.mem_flatMap.mp mem
  have small := utf16Point_small inside
  simp only [List.map_cons, List.map_nil, UInt8.toNat_ofNat']
  rw [Nat.mod_eq_of_lt (by omega), Nat.mod_eq_of_lt (by omega)]

/-- The order of the bytes is the order of the code units. -/
theorem bytesLe_utf16be_iff {text text' : Text} :
    bytesLe (utf16be text) (utf16be text') = true ↔ utf16Units text ≤ utf16Units text' := by
  rw [bytesLe, decide_eq_true_eq, map_toNat_utf16be, map_toNat_utf16be, ← not_lt, ← not_lt,
    lt_flatMap_iff]

/-- Texts without surrogates have code units of their own. -/
theorem utf16Units_injective {text text' : Text} (scalar : Scalar text) (scalar' : Scalar text')
    (same : utf16Units text = utf16Units text') : text = text' := by
  induction text generalizing text' with
  | nil =>
      cases text' with
      | nil => rfl
      | cons c rest =>
          unfold utf16Units utf16Point at same
          rw [List.flatMap_cons] at same
          split at same <;> cases same
  | cons c rest ih =>
      cases text' with
      | nil =>
          unfold utf16Units utf16Point at same
          rw [List.flatMap_cons] at same
          split at same <;> cases same
      | cons c' rest' =>
          have first := scalar c List.mem_cons_self
          have first' := scalar' c' List.mem_cons_self
          have bound := c.isLt
          have bound' := c'.isLt
          have later : utf16Units rest = utf16Units rest' → rest = rest' :=
            ih (fun c mem => scalar c (List.mem_cons_of_mem _ mem))
              fun c mem => scalar' c (List.mem_cons_of_mem _ mem)
          unfold utf16Units at same later
          rw [List.flatMap_cons, List.flatMap_cons] at same
          unfold utf16Point at same
          split at same
          · split at same
            · simp only [List.cons_append, List.nil_append, List.cons.injEq] at same
              rw [Fin.ext same.1, later same.2]
            · simp only [List.cons_append, List.nil_append, List.cons.injEq] at same
              omega
          · split at same
            · simp only [List.cons_append, List.nil_append, List.cons.injEq] at same
              omega
            · simp only [List.cons_append, List.nil_append, List.cons.injEq] at same
              rw [Fin.ext (by omega : c.val = c'.val), later same.2.2]

/-- The order of the members. -/
def utf16Order : TextOrder where
  le t t' := bytesLe (utf16be t) (utf16be t')
  Name := Scalar
  total t t' := by
    rw [bytesLe_utf16be_iff, bytesLe_utf16be_iff]
    exact le_total _ _
  trans t t' t'' first second := by
    rw [bytesLe_utf16be_iff] at *
    exact le_trans first second
  antisymm t t' scalar scalar' first second := by
    rw [bytesLe_utf16be_iff] at first second
    exact utf16Units_injective scalar scalar' (le_antisymm first second)

/-! ## Strings -/

/-- One written character is read back. -/
theorem scanString_jcsPoint (c : CodePoint) (fuel : ℕ) (t : Text) :
    scanString (fuel + 1) (jcsPoint c ++ t) =
      (do let (text, rest) ← scanString fuel t; .ok (c :: text, rest)) := by
  have escaped {point : CodePoint} {body : Text} (scan : scanEscape body = .ok (point, t)) :
      scanString (fuel + 1) (0x5C :: body) =
        (do let (text, rest) ← scanString fuel t; .ok (point :: text, rest)) := by
    rw [scanString, if_neg (by decide), if_neg (by decide), if_pos rfl, scan]
    rfl
  unfold jcsPoint
  split
  · rename_i special
    rcases special with rfl | rfl
    · exact escaped (scanEscape_short t (by decide) rfl)
    · exact escaped (scanEscape_short t (by decide) rfl)
  rename_i notSpecial
  obtain ⟨notQuote, notBackslash⟩ := not_or.mp notSpecial
  iterate 5
    split
    · rename_i same
      subst same
      exact escaped (scanEscape_short t (by decide) rfl)
  split
  · rename_i control
    have scan := scanEscape_unicode (n := c.val) (by omega) (by omega) t
    rw [ofNat_eq_codePoint rfl] at scan
    exact escaped scan
  · rename_i visible
    rw [List.singleton_append, scanString, if_neg notQuote, if_neg visible, if_neg notBackslash]

theorem jcsPoint_ne_nil (c : CodePoint) : 0 < (jcsPoint c).length := by
  unfold jcsPoint
  repeat' split
  all_goals simp

theorem scanString_flatMap_jcsPoint {text : Text} {fuel : ℕ} (enough : text.length < fuel)
    (t : Text) : scanString fuel (text.flatMap jcsPoint ++ 0x22 :: t) = .ok (text, t) := by
  induction text generalizing fuel with
  | nil =>
      obtain ⟨fuel, rfl⟩ := Nat.exists_eq_add_one_of_ne_zero enough.ne'
      rw [List.flatMap_nil, List.nil_append, scanString, if_pos rfl]
  | cons c rest ih =>
      obtain ⟨fuel, rfl⟩ := Nat.exists_eq_add_one_of_ne_zero (Nat.ne_zero_of_lt enough)
      rw [List.flatMap_cons, List.append_assoc, scanString_jcsPoint,
        ih (by simpa using Nat.succ_lt_succ_iff.mp enough)]
      rfl

theorem length_le_flatMap_jcsPoint (text : Text) : text.length ≤ (text.flatMap jcsPoint).length := by
  induction text with
  | nil => exact le_rfl
  | cons c rest ih =>
      have nonempty := jcsPoint_ne_nil c
      rw [List.flatMap_cons, List.length_append, List.length_cons]
      omega

/-- Strings as `_jcs_string` writes them. -/
def jcsWriter : StringWriter where
  body text := text.flatMap jcsPoint
  Reads _ := True
  scan {text} _ t := by
    refine scanString_flatMap_jcsPoint ?_ t
    have := length_le_flatMap_jcsPoint text
    rw [List.length_append]
    omega

/-! ## The values that are written -/

mutual

/-- The values that are written. -/
def JcsAccepted : PyValue → Prop
  | .none => True
  | .bool _ => True
  | .int n => n.natAbs ≤ maxSafeJsonInteger
  | .float _ _ => False
  | .bytes _ => False
  | .str text => Scalar text
  | .list items => JcsAcceptedItems items
  | .dict entries => JcsAcceptedEntries entries

/-- Every item is written. -/
def JcsAcceptedItems : List PyValue → Prop
  | [] => True
  | item :: rest => JcsAccepted item ∧ JcsAcceptedItems rest

/-- Every member is written, under a name without surrogates. -/
def JcsAcceptedEntries : List (PyValue × PyValue) → Prop
  | [] => True
  | (key, value) :: rest =>
      (∃ name, key = .str name ∧ Scalar name) ∧ JcsAccepted value ∧ JcsAcceptedEntries rest

end

theorem jcsAcceptedEntries_iff {entries : List (PyValue × PyValue)} :
    JcsAcceptedEntries entries ↔ ∀ entry ∈ entries,
      (∃ name, entry.1 = .str name ∧ Scalar name) ∧ JcsAccepted entry.2 := by
  induction entries with
  | nil => simp [JcsAcceptedEntries]
  | cons entry rest ih => rw [JcsAcceptedEntries, ih, List.forall_mem_cons, and_assoc]

theorem memberName_scalar {entry : PyValue × PyValue}
    (named : ∃ name, entry.1 = .str name ∧ Scalar name) : Scalar (memberName entry) := by
  obtain ⟨name, ofName, scalar⟩ := named
  rw [memberName, ofName]
  exact scalar

theorem jcsString_of_scalar {text : Text} (scalar : Scalar text) :
    jcsString text = .ok (jcsWriter.quote text) := if_pos scalar

theorem jcsMembers_eq_map (entries : List (PyValue × PyValue)) :
    jcsMembers entries = entries.map fun entry => (memberName entry, do
      let name ← jcsString (memberName entry)
      let text ← jcsText entry.2
      .ok (name ++ 0x3A :: text)) := by
  induction entries with
  | nil => rfl
  | cons entry rest ih => exact congrArg (List.cons _) ih

/-- The object of members that are written. -/
theorem jcsText_dict {entries : List (PyValue × PyValue)}
    (named : ∀ entry ∈ entries, ∃ name, entry.1 = .str name ∧ Scalar name)
    (written : ∀ entry ∈ entries,
      jcsText entry.2 = .ok (jcsWriter.value (utf16Order.arrange entry.2))) :
    jcsText (.dict entries) = .ok (jcsWriter.value (utf16Order.arrange (.dict entries))) := by
  have strings : entries.all (fun entry => entry.1.isStr) = true := by
    refine List.all_eq_true.mpr fun entry mem => ?_
    obtain ⟨name, ofName, -⟩ := named entry mem
    rw [ofName]
    rfl
  have keys : entries.mapM (fun entry => jcsSortKey (memberName entry)) =
      .ok (entries.map fun entry => utf16be (memberName entry)) :=
    ExceptFold.mapM_eq_ok_of_forall fun entry mem => if_pos (memberName_scalar (named entry mem))
  -- one member, written
  let member (entry : PyValue × PyValue) : Text :=
    jcsWriter.quote (memberName entry) ++ 0x3A :: jcsWriter.value (utf16Order.arrange entry.2)
  have members : jcsMembers entries = entries.map fun entry => (memberName entry, .ok (member entry)) := by
    rw [jcsMembers_eq_map]
    refine List.map_congr_left fun entry mem => ?_
    rw [jcsString_of_scalar (memberName_scalar (named entry mem)), written entry mem]
    rfl
  have sorted : (jcsMembers entries).insertionSort (fun m m' =>
      bytesLe (utf16be m.1) (utf16be m'.1) = true) =
        (utf16Order.sortEntries entries).map fun entry => (memberName entry, .ok (member entry)) := by
    let before (entry entry' : PyValue × PyValue) : Prop :=
      utf16Order.le (memberName entry) (memberName entry') = true
    let before' (m m' : Text × Raises Text) : Prop := bytesLe (utf16be m.1) (utf16be m'.1) = true
    rw [members]
    exact (List.map_insertionSort before before' (fun entry => (memberName entry, .ok (member entry)))
      entries fun _ _ _ _ => Iff.rfl).symm
  have parts : ((utf16Order.sortEntries entries).map
      fun entry => (memberName entry, (.ok (member entry) : Raises Text))).mapM Prod.snd =
        .ok ((utf16Order.sortEntries entries).map member) :=
    ExceptFold.mapM_eq_ok_iff.mpr (List.forall₂_map_left_iff.mpr
      (List.forall₂_map_right_iff.mpr (List.forall₂_same.mpr fun _ _ => rfl)))
  rw [jcsText, if_pos strings, keys, ok_bind, sorted, parts, ok_bind, TextOrder.arrange,
    StringWriter.value, StringWriter.members_eq_map, TextOrder.sortEntries_arrangeEntries,
    List.map_map]
  rfl

mutual

/-- An accepted value is written as its arranged form. -/
theorem jcsText_of_accepted : (v : PyValue) → JcsAccepted v →
    jcsText v = .ok (jcsWriter.value (utf16Order.arrange v))
  | .none, _ => rfl
  | .bool true, _ => rfl
  | .bool false, _ => rfl
  | .int _, safe => if_neg (Nat.not_lt.mpr safe)
  | .str _, scalar => jcsString_of_scalar scalar
  | .list items, accepted => by
      rw [jcsText, jcsItems_of_accepted items accepted]
      rfl
  | .dict entries, accepted =>
      jcsText_dict (fun entry mem => (jcsAcceptedEntries_iff.mp accepted entry mem).1)
        (jcsEntries_of_accepted entries accepted)

theorem jcsItems_of_accepted : (items : List PyValue) → JcsAcceptedItems items →
    jcsItems items = .ok (jcsWriter.values (utf16Order.arrangeItems items))
  | [], _ => rfl
  | item :: rest, accepted => by
      rw [jcsItems, jcsText_of_accepted item accepted.1, jcsItems_of_accepted rest accepted.2]
      rfl

theorem jcsEntries_of_accepted : (entries : List (PyValue × PyValue)) →
    JcsAcceptedEntries entries → ∀ entry ∈ entries,
      jcsText entry.2 = .ok (jcsWriter.value (utf16Order.arrange entry.2))
  | [], _ => nofun
  | (_, value) :: rest, accepted =>
      List.forall_mem_cons.mpr ⟨jcsText_of_accepted value accepted.2.1,
        jcsEntries_of_accepted rest accepted.2.2⟩

end

theorem named_of_jcsSortKey {entry : PyValue × PyValue} {key : Bytes}
    (isStr : entry.1.isStr = true) (made : jcsSortKey (memberName entry) = .ok key) :
    ∃ name, entry.1 = .str name ∧ Scalar name := by
  obtain ⟨k, value⟩ := entry
  cases k with
  | str name =>
      refine ⟨name, rfl, ?_⟩
      unfold jcsSortKey at made
      split at made
      · rename_i scalar
        exact scalar
      · cases made
  | _ => cases isStr

mutual

/-- What is written is accepted. -/
theorem accepted_of_jcsText : (v : PyValue) → (∃ text, jcsText v = .ok text) → JcsAccepted v
  | .none => fun _ => trivial
  | .bool _ => fun _ => trivial
  | .int n => by
      rintro ⟨text, done⟩
      unfold jcsText at done
      split at done
      · cases done
      · rename_i safe
        exact Nat.not_lt.mp safe
  | .float finite _ => by
      rintro ⟨text, done⟩
      cases finite <;> cases done
  | .bytes _ => by
      rintro ⟨text, done⟩
      cases done
  | .str text => by
      rintro ⟨_, done⟩
      unfold jcsText jcsString at done
      split at done
      · rename_i scalar
        exact scalar
      · cases done
  | .list items => by
      rintro ⟨text, done⟩
      obtain ⟨parts, looped, -⟩ := bind_eq_ok_iff.mp done
      exact acceptedItems_of_jcsItems items ⟨parts, looped⟩
  | .dict entries => by
      rintro ⟨text, done⟩
      unfold jcsText at done
      split at done
      swap
      · cases done
      rename_i strings
      obtain ⟨keys, keyed, done⟩ := bind_eq_ok_iff.mp done
      obtain ⟨parts, looped, -⟩ := bind_eq_ok_iff.mp done
      refine acceptedEntries_of_jcsText entries fun entry mem => ⟨?_, ?_⟩
      · obtain ⟨key, made⟩ := ExceptFold.exists_of_mapM_eq_ok keyed mem
        exact named_of_jcsSortKey (List.all_eq_true.mp strings entry mem) made
      · have inside : (memberName entry, do
            let name ← jcsString (memberName entry)
            let text ← jcsText entry.2
            Except.ok (name ++ 0x3A :: text)) ∈ jcsMembers entries := by
          rw [jcsMembers_eq_map]
          exact List.mem_map.mpr ⟨entry, mem, rfl⟩
        obtain ⟨text, made⟩ := ExceptFold.exists_of_mapM_eq_ok looped
          ((List.mem_insertionSort _).mpr inside)
        obtain ⟨_, -, made⟩ := bind_eq_ok_iff.mp made
        obtain ⟨text, written, -⟩ := bind_eq_ok_iff.mp made
        exact ⟨text, written⟩

theorem acceptedItems_of_jcsItems : (items : List PyValue) →
    (∃ parts, jcsItems items = .ok parts) → JcsAcceptedItems items
  | [] => fun _ => trivial
  | item :: rest => by
      rintro ⟨_, done⟩
      obtain ⟨part, first, done⟩ := bind_eq_ok_iff.mp done
      obtain ⟨parts, looped, -⟩ := bind_eq_ok_iff.mp done
      exact ⟨accepted_of_jcsText item ⟨part, first⟩, acceptedItems_of_jcsItems rest ⟨parts, looped⟩⟩

theorem acceptedEntries_of_jcsText : (entries : List (PyValue × PyValue)) →
    (∀ entry ∈ entries, (∃ name, entry.1 = .str name ∧ Scalar name) ∧
      ∃ text, jcsText entry.2 = .ok text) → JcsAcceptedEntries entries
  | [], _ => trivial
  | (_, value) :: rest, each => by
      obtain ⟨⟨named, written⟩, later⟩ := List.forall_mem_cons.mp each
      exact ⟨named, accepted_of_jcsText value written, acceptedEntries_of_jcsText rest later⟩

end

/-- **The text of a value is the text of its arranged form.** -/
theorem jcsText_eq_ok_iff {v : PyValue} {text : Text} :
    jcsText v = .ok text ↔ JcsAccepted v ∧ text = jcsWriter.value (utf16Order.arrange v) := by
  constructor
  · intro written
    have accepted := accepted_of_jcsText v ⟨text, written⟩
    exact ⟨accepted, Except.ok.inj (written.symm.trans (jcsText_of_accepted v accepted))⟩
  · rintro ⟨accepted, rfl⟩
    exact jcsText_of_accepted v accepted

mutual

/-- A value that equals an accepted one is accepted. -/
theorem JcsAccepted.of_sameJson : (v w : PyValue) → SameJson v w → JcsAccepted w → JcsAccepted v
  | .none, _, _, _ => trivial
  | .bool _, _, _, _ => trivial
  | .int _, _, same, accepted => by
      rw [same] at accepted
      exact accepted
  | .float _ _, _, same, accepted => by
      rw [same] at accepted
      exact accepted
  | .bytes _, _, same, accepted => by
      rw [same] at accepted
      exact accepted
  | .str _, _, same, accepted => by
      rw [same] at accepted
      exact accepted
  | .list items, _, ⟨items', same, sameArray⟩, accepted => by
      rw [same] at accepted
      exact JcsAcceptedItems.of_sameArray items items' sameArray accepted
  | .dict entries, _, ⟨entries', same, _, sameObject⟩, accepted => by
      rw [same] at accepted
      exact JcsAcceptedEntries.of_sameObject entries entries' sameObject
        (jcsAcceptedEntries_iff.mp accepted)

theorem JcsAcceptedItems.of_sameArray : (items items' : List PyValue) → SameArray items items' →
    JcsAcceptedItems items' → JcsAcceptedItems items
  | [], _, _, _ => trivial
  | item :: rest, _, ⟨item', rest', same, first, later⟩, accepted => by
      rw [same] at accepted
      exact ⟨JcsAccepted.of_sameJson item item' first accepted.1,
        JcsAcceptedItems.of_sameArray rest rest' later accepted.2⟩

theorem JcsAcceptedEntries.of_sameObject : (entries entries' : List (PyValue × PyValue)) →
    SameObject entries entries' → (∀ entry ∈ entries',
      (∃ name, entry.1 = .str name ∧ Scalar name) ∧ JcsAccepted entry.2) →
    JcsAcceptedEntries entries
  | [], _, _, _ => trivial
  | (_, value) :: rest, entries', ⟨⟨value', mem, same⟩, later⟩, accepted => by
      obtain ⟨named, acceptedValue⟩ := accepted _ mem
      exact ⟨named, JcsAccepted.of_sameJson value value' same acceptedValue,
        JcsAcceptedEntries.of_sameObject rest entries' later accepted⟩

end

/-! ## Reading back -/

/-- The members of an arranged object have the names of the object. -/
theorem named_arrange {entries : List (PyValue × PyValue)} (accepted : JcsAcceptedEntries entries)
    {entry : PyValue × PyValue}
    (mem : entry ∈ utf16Order.sortEntries (utf16Order.arrangeEntries entries)) :
    ∃ name, entry.1 = .str name ∧ Scalar name := by
  have inside := (TextOrder.sortEntries_perm _).mem_iff.mp mem
  rw [TextOrder.arrangeEntries_eq_map] at inside
  obtain ⟨old, inOld, rfl⟩ := List.mem_map.mp inside
  exact (jcsAcceptedEntries_iff.mp accepted old inOld).1

/-- They are as distinct. -/
theorem nodup_arrange {entries : List (PyValue × PyValue)}
    (keyed : KeyedEntries (fun _ => True) entries) :
    ((utf16Order.sortEntries (utf16Order.arrangeEntries entries)).map Prod.fst).Nodup := by
  have perm := (TextOrder.sortEntries_perm (o := utf16Order)
    (utf16Order.arrangeEntries entries)).map Prod.fst
  rw [TextOrder.arrangeEntries_keys] at perm
  exact perm.nodup_iff.mpr (keyedEntries_iff.mp keyed).2

mutual

/-- An accepted value is readable in its arranged form. -/
theorem readable_arrange : (v : PyValue) → Keyed (fun _ => True) v → JcsAccepted v →
    jcsWriter.Readable (utf16Order.arrange v)
  | .none, _, _ => trivial
  | .bool _, _, _ => trivial
  | .int n, _, safe => by
      have fits : n.natAbs < 10 ^ 16 := Nat.lt_of_le_of_lt safe (by decide)
      exact Nat.le_trans (length_decimalText_le fits (by decide)) (by decide)
  | .float _ _, _, accepted => accepted.elim
  | .bytes _, _, accepted => accepted.elim
  | .str _, _, _ => trivial
  | .list items, keyed, accepted => readableItems_arrange items keyed accepted
  | .dict entries, keyed, accepted => by
      refine StringWriter.readableEntries_iff.mpr ⟨fun entry mem => ⟨?_, ?_⟩, nodup_arrange keyed⟩
      · obtain ⟨name, ofName, -⟩ := named_arrange accepted mem
        exact ⟨name, ofName, trivial⟩
      · exact readableEntries_arrange entries keyed accepted entry
          ((TextOrder.sortEntries_perm _).mem_iff.mp mem)

theorem readableItems_arrange : (items : List PyValue) → KeyedItems (fun _ => True) items →
    JcsAcceptedItems items → jcsWriter.ReadableItems (utf16Order.arrangeItems items)
  | [], _, _ => trivial
  | item :: rest, keyed, accepted =>
      ⟨readable_arrange item keyed.1 accepted.1, readableItems_arrange rest keyed.2 accepted.2⟩

theorem readableEntries_arrange : (entries : List (PyValue × PyValue)) →
    KeyedEntries (fun _ => True) entries → JcsAcceptedEntries entries →
    ∀ entry ∈ utf16Order.arrangeEntries entries, jcsWriter.Readable entry.2
  | [], _, _ => nofun
  | (_, value) :: rest, keyed, accepted =>
      List.forall_mem_cons.mpr ⟨readable_arrange value keyed.2.1 accepted.2.1,
        readableEntries_arrange rest keyed.2.2.1 accepted.2.2⟩

end

theorem valuesOrdered_iff {entries : List (PyValue × PyValue)} :
    ValuesOrdered entries ↔ ∀ entry ∈ entries, MembersOrdered entry.2 := by
  induction entries with
  | nil => simp [ValuesOrdered]
  | cons entry rest ih => rw [ValuesOrdered, ih, List.forall_mem_cons]

mutual

/-- The members of an arranged value ascend by code units. -/
theorem membersOrdered_arrange : (v : PyValue) → Keyed (fun _ => True) v → JcsAccepted v →
    MembersOrdered (utf16Order.arrange v)
  | .none, _, _ => trivial
  | .bool _, _, _ => trivial
  | .int _, _, _ => trivial
  | .float _ _, _, _ => trivial
  | .bytes _, _, _ => trivial
  | .str _, _, _ => trivial
  | .list items, keyed, accepted => itemsOrdered_arrange items keyed accepted
  | .dict entries, keyed, accepted => by
      refine ⟨?_, valuesOrdered_iff.mpr fun entry mem => valuesOrdered_arrange entries keyed
        accepted entry ((TextOrder.sortEntries_perm _).mem_iff.mp mem)⟩
      have distinct := List.pairwise_map.mp (nodup_arrange keyed)
      refine ((utf16Order.pairwise_sortEntries _).and distinct).imp_of_mem ?_
      rintro entry entry' mem mem' ⟨before, different⟩
      obtain ⟨name, ofName, scalar⟩ := named_arrange accepted mem
      obtain ⟨name', ofName', scalar'⟩ := named_arrange accepted mem'
      refine lt_of_le_of_ne (bytesLe_utf16be_iff.mp before) fun same => different ?_
      have atName : memberName entry = name := by rw [memberName, ofName]
      have atName' : memberName entry' = name' := by rw [memberName, ofName']
      rw [atName, atName'] at same
      rw [ofName, ofName', utf16Units_injective scalar scalar' same]

theorem itemsOrdered_arrange : (items : List PyValue) → KeyedItems (fun _ => True) items →
    JcsAcceptedItems items → ItemsOrdered (utf16Order.arrangeItems items)
  | [], _, _ => trivial
  | item :: rest, keyed, accepted =>
      ⟨membersOrdered_arrange item keyed.1 accepted.1, itemsOrdered_arrange rest keyed.2 accepted.2⟩

theorem valuesOrdered_arrange : (entries : List (PyValue × PyValue)) →
    KeyedEntries (fun _ => True) entries → JcsAcceptedEntries entries →
    ∀ entry ∈ utf16Order.arrangeEntries entries, MembersOrdered entry.2
  | [], _, _ => nofun
  | (_, value) :: rest, keyed, accepted =>
      List.forall_mem_cons.mpr ⟨membersOrdered_arrange value keyed.2.1 accepted.2.1,
        valuesOrdered_arrange rest keyed.2.2.1 accepted.2.2⟩

end

mutual

/-- A value whose names are without surrogates in its objects. -/
theorem keyed_scalar : (v : PyValue) → Keyed (fun _ => True) v → JcsAccepted v → Keyed Scalar v
  | .none, _, _ => trivial
  | .bool _, _, _ => trivial
  | .int _, _, _ => trivial
  | .float _ _, _, _ => trivial
  | .bytes _, _, _ => trivial
  | .str _, _, _ => trivial
  | .list items, keyed, accepted => keyedItems_scalar items keyed accepted
  | .dict entries, keyed, accepted => keyedEntries_scalar entries keyed accepted

theorem keyedItems_scalar : (items : List PyValue) → KeyedItems (fun _ => True) items →
    JcsAcceptedItems items → KeyedItems Scalar items
  | [], _, _ => trivial
  | item :: rest, keyed, accepted =>
      ⟨keyed_scalar item keyed.1 accepted.1, keyedItems_scalar rest keyed.2 accepted.2⟩

theorem keyedEntries_scalar : (entries : List (PyValue × PyValue)) →
    KeyedEntries (fun _ => True) entries → JcsAcceptedEntries entries → KeyedEntries Scalar entries
  | [], _, _ => trivial
  | (_, value) :: rest, keyed, accepted =>
      ⟨accepted.1, keyed_scalar value keyed.2.1 accepted.2.1,
        keyedEntries_scalar rest keyed.2.2.1 accepted.2.2, keyed.2.2.2⟩

end

/-! ## The canonical form -/

theorem jcsCanonicalJson_eq_ok_iff {v : PyValue} {data : Bytes} :
    jcsCanonicalJson v = .ok data ↔ JcsAccepted v ∧
      utf8Encode (jcsWriter.value (utf16Order.arrange v)) = .ok data := by
  constructor
  · intro done
    obtain ⟨text, written, encoded⟩ := bind_eq_ok_iff.mp done
    obtain ⟨accepted, rfl⟩ := jcsText_eq_ok_iff.mp written
    exact ⟨accepted, encoded⟩
  · rintro ⟨accepted, encoded⟩
    exact bind_eq_ok_iff.mpr ⟨_, jcsText_of_accepted v accepted, encoded⟩

/-- What was written is the arranged value. -/
theorem jsonLoads_of_jcsCanonicalJson (v : JsonBody) {data : Bytes}
    (written : jcsCanonicalJson v.val = .ok data) :
    ∃ text, utf8Decode data = .ok text ∧ jsonLoads text = .ok (utf16Order.arrange v.val) := by
  obtain ⟨accepted, encoded⟩ := jcsCanonicalJson_eq_ok_iff.mp written
  exact ⟨_, utf8Decode_utf8Encode encoded,
    StringWriter.jsonLoads_value (readable_arrange v.val v.property accepted)⟩

/-- Values of one canonical form are equal. -/
theorem sameJson_of_jcsCanonicalJson {v w : JsonBody} {data : Bytes}
    (written : jcsCanonicalJson v.val = .ok data) (written' : jcsCanonicalJson w.val = .ok data) :
    SameJson v.val w.val := by
  obtain ⟨text, decoded, read⟩ := jsonLoads_of_jcsCanonicalJson v written
  obtain ⟨text', decoded', read'⟩ := jsonLoads_of_jcsCanonicalJson w written'
  obtain rfl := Except.ok.inj (decoded.symm.trans decoded')
  exact TextOrder.sameJson_of_arrange_eq _ _ (Except.ok.inj (read.symm.trans read'))

/-- Equal values have one canonical form. -/
theorem jcsCanonicalJson_of_sameJson {v w : JsonBody} {data : Bytes} (same : SameJson v.val w.val)
    (written : jcsCanonicalJson w.val = .ok data) : jcsCanonicalJson v.val = .ok data := by
  obtain ⟨accepted, encoded⟩ := jcsCanonicalJson_eq_ok_iff.mp written
  have accepted' := JcsAccepted.of_sameJson v.val w.val same accepted
  rw [jcsCanonicalJson_eq_ok_iff, TextOrder.arrange_eq_of_sameJson v.val w.val
    (keyed_scalar v.val v.property accepted') same]
  exact ⟨accepted', encoded⟩

/-- **Canonical JSON.**  What is written for a body is read back as the body, its members in
the order of code units; the equal bodies, and no others, have the same bytes; and bodies with
one digest are equal, unless their different bytes have the same SHA-256. -/
theorem jcs_separates (w : JsonBody) {data : Bytes}
    (written : jcsCanonicalJson w.val = .ok data) :
    (∃ text parsed, utf8Decode data = .ok text ∧ jsonLoads text = .ok parsed ∧
      SameJson parsed w.val ∧ MembersOrdered parsed) ∧
    (∀ v : JsonBody, jcsCanonicalJson v.val = .ok data ↔ SameJson v.val w.val) ∧
    ∀ v : JsonBody, ∀ canonical digest, semanticDigest v.val = .ok (canonical, digest) →
      (digest = sha256 data ↔
        SameJson v.val w.val ∨ (canonical ≠ data ∧ sha256 canonical = sha256 data)) := by
  have equal (v : JsonBody) : jcsCanonicalJson v.val = .ok data ↔ SameJson v.val w.val :=
    ⟨fun written' => sameJson_of_jcsCanonicalJson written' written,
      fun same => jcsCanonicalJson_of_sameJson same written⟩
  refine ⟨?_, equal, fun v canonical digest done => ?_⟩
  · obtain ⟨text, decoded, read⟩ := jsonLoads_of_jcsCanonicalJson w written
    have accepted := (jcsCanonicalJson_eq_ok_iff.mp written).1
    exact ⟨text, _, decoded, read, TextOrder.sameJson_arrange w.val,
      membersOrdered_arrange w.val w.property accepted⟩
  · obtain ⟨canonical', written', done⟩ := bind_eq_ok_iff.mp done
    cases done
    constructor
    · intro same
      by_cases bytes : canonical = data
      · exact .inl ((equal v).mp (bytes ▸ written'))
      · exact .inr ⟨bytes, same⟩
    · rintro (same | ⟨-, collision⟩)
      · rw [Except.ok.inj (written'.symm.trans ((equal v).mpr same))]
      · exact collision

/-- Two members that are written in the other order. -/
theorem jcs_separates_sample : ∃ v : JsonBody,
    v.val = .dict
        [(.str (Text.ofString "b"), .int 1), (.str (Text.ofString "a"), .bool true)] ∧
      ∀ w : JsonBody, jcsCanonicalJson w.val =
        .ok (asciiBytes (Text.ofString "\x7b\"a\":true,\"b\":1\x7d")) ↔ SameJson w.val v.val := by
  have keyed : Keyed (fun _ => True)
      (.dict [(.str (Text.ofString "b"), .int 1), (.str (Text.ofString "a"), .bool true)]) := by
    refine keyedEntries_iff.mpr ⟨?_, ?_⟩
    · simp [Keyed]
    · refine List.nodup_cons.mpr ⟨?_, List.nodup_singleton _⟩
      intro mem
      have same := PyValue.str.inj (List.mem_singleton.mp mem)
      exact absurd same (by decide)
  have written : jcsCanonicalJson
      (.dict [(.str (Text.ofString "b"), .int 1), (.str (Text.ofString "a"), .bool true)]) =
        .ok (asciiBytes (Text.ofString "\x7b\"a\":true,\"b\":1\x7d")) := by
    decide +kernel
  exact ⟨⟨_, keyed⟩, rfl, (jcs_separates ⟨_, keyed⟩ written).2.1⟩

end CubeNano

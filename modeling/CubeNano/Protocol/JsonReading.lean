import CubeNano.Protocol.JsonOrder
import CubeNano.Protocol.JsonSpec

/-!
# Values that were read

What `json.loads` returns for a text without surrogates can be written again and read back as
it is, if it holds no float: the reader joins the two halves of a surrogate pair, keeps one
member of each name, and refuses integers that `int` does not convert.

## Main statements

* `scanString_unpaired` — a string that was read has no high surrogate before a low one
* `readable_of_jsonLoads` — what was read without floats is readable
-/

namespace CubeNano

/-! ## The rest of a text -/

theorem Scalar.of_suffix {text rest : Text} (scalar : Scalar text) (suffix : rest <:+ text) :
    Scalar rest := fun c mem => scalar c (suffix.subset mem)

theorem skipSpace_suffix (text : Text) : skipSpace text <:+ text := by
  induction text with
  | nil => exact List.suffix_rfl
  | cons c rest ih =>
      unfold skipSpace
      split
      · exact ih.trans (List.suffix_cons c rest)
      · exact List.suffix_rfl

theorem takeDigits_suffix (text : Text) : (takeDigits text).2 <:+ text := by
  induction text with
  | nil => exact List.suffix_rfl
  | cons c rest ih =>
      unfold takeDigits
      split
      · exact List.suffix_rfl
      · exact ih.trans (List.suffix_cons c rest)

theorem takeFraction_suffix (text : Text) : (takeFraction text).2 <:+ text := by
  unfold takeFraction
  split
  · exact List.suffix_rfl
  · rename_i c rest
    split
    · exact (takeDigits_suffix rest).trans (List.suffix_cons c rest)
    · exact List.suffix_rfl

theorem takeSign_suffix (text : Text) : (takeSign text).2 <:+ text := by
  unfold takeSign
  split
  · exact List.suffix_rfl
  · rename_i c rest
    split
    · exact List.suffix_cons c rest
    split
    · exact List.suffix_cons c rest
    · exact List.suffix_rfl

theorem takeExponent_suffix (text : Text) : (takeExponent text).2 <:+ text := by
  unfold takeExponent
  split
  · exact List.suffix_rfl
  · rename_i c rest
    dsimp only
    split
    · exact ((takeDigits_suffix _).trans (takeSign_suffix rest)).trans (List.suffix_cons c rest)
    · exact List.suffix_rfl

theorem suffix_of_literal? {word : String} {text rest : Text}
    (found : literal? word text = some rest) : rest <:+ text := by
  unfold literal? at found
  split at found
  · obtain rfl := Option.some.inj found
    exact List.drop_suffix _ _
  · cases found

/-! ## Strings -/

/-- The first half of a surrogate pair. -/
def IsHighSurrogate (c : CodePoint) : Prop := 0xD800 ≤ c.val ∧ c.val ≤ 0xDBFF

/-- The second half of a surrogate pair. -/
def IsLowSurrogate (c : CodePoint) : Prop := 0xDC00 ≤ c.val ∧ c.val ≤ 0xDFFF

theorem natOfDigits_lt {base : ℕ} {digits : List ℕ} (small : ∀ d ∈ digits, d < base) :
    natOfDigits base digits < base ^ digits.length := by
  induction digits using List.reverseRecOn with
  | nil => exact Nat.one_pos
  | append_singleton digits d ih =>
      have before := ih fun d mem => small d (List.mem_append_left _ mem)
      have last := small d (List.mem_append_right _ (List.mem_singleton_self d))
      rw [natOfDigits_concat, List.length_append, List.length_singleton, pow_succ]
      calc natOfDigits base digits * base + d
          < natOfDigits base digits * base + base := Nat.add_lt_add_left last _
        _ = (natOfDigits base digits + 1) * base := by rw [Nat.add_mul, Nat.one_mul]
        _ ≤ base ^ digits.length * base := Nat.mul_le_mul_right base before

theorem hexValue?_lt {c : CodePoint} {d : ℕ} (value : hexValue? c = some d) : d < 16 := by
  unfold hexValue? at value
  split at value
  · have := Option.some.inj value
    omega
  split at value
  · have := Option.some.inj value
    omega
  split at value
  · have := Option.some.inj value
    omega
  · cases value

theorem hexDigits_lt {text : Text} {digits : List ℕ} (values : text.mapM hexValue? = some digits) :
    digits.length = text.length ∧ ∀ d ∈ digits, d < 16 := by
  induction text generalizing digits with
  | nil =>
      cases values
      exact ⟨rfl, nofun⟩
  | cons c rest ih =>
      rw [List.mapM_cons] at values
      obtain ⟨d, value, values⟩ := Option.bind_eq_some_iff.mp values
      obtain ⟨later, others, values⟩ := Option.bind_eq_some_iff.mp values
      cases values
      obtain ⟨length, small⟩ := ih others
      exact ⟨congrArg (· + 1) length, List.forall_mem_cons.mpr ⟨hexValue?_lt value, small⟩⟩

theorem hexEscape?_lt {h1 h2 h3 h4 : CodePoint} {n : ℕ} (read : hexEscape? h1 h2 h3 h4 = some n) :
    n < 0x10000 := by
  obtain ⟨digits, values, rfl⟩ := Option.map_eq_some_iff.mp read
  obtain ⟨length, small⟩ := hexDigits_lt values
  have four : digits.length = 4 := length
  have bound := natOfDigits_lt small
  rw [four] at bound
  exact lt_of_lt_of_eq bound (by norm_num)

/-- What the second half of an escaped pair is read from. -/
theorem lowSurrogate?_eq_some {text rest : Text} {low : ℕ}
    (found : lowSurrogate? text = some (low, rest)) :
    (0xDC00 ≤ low ∧ low ≤ 0xDFFF) ∧ rest <:+ text := by
  unfold lowSurrogate? at found
  split at found
  · rename_i b u h1 h2 h3 h4 tail
    split at found
    · split at found
      · split at found
        · rename_i range
          obtain ⟨rfl, rfl⟩ := Prod.mk.inj (Option.some.inj found)
          exact ⟨range, ⟨[b, u, h1, h2, h3, h4], rfl⟩⟩
        · cases found
      · cases found
    · cases found
  · cases found

theorem shortEscape?_lt {c point : CodePoint} (short : shortEscape? c = some point) :
    point.val < 0x80 := by
  unfold shortEscape? at short
  split at short
  · rename_i same
    obtain rfl := Option.some.inj short
    rcases same with rfl | rfl | rfl <;> decide
  iterate 5
    split at short
    · obtain rfl := Option.some.inj short
      decide
  · cases short

/-- What an escape is read as: a low surrogate only if it is written as one, and a high one only
if no low one follows. -/
theorem scanEscape_eq_ok {text rest : Text} {c : CodePoint}
    (read : scanEscape text = .ok (c, rest)) :
    rest <:+ text ∧ (IsLowSurrogate c → lowSurrogate? (0x5C :: text) ≠ none) ∧
      (IsHighSurrogate c → lowSurrogate? rest = none) := by
  have plain (point : CodePoint) (other : point.val < 0xD800 ∨ 0xDFFF < point.val) :
      ¬ IsLowSurrogate point ∧ ¬ IsHighSurrogate point := by
    unfold IsLowSurrogate IsHighSurrogate
    omega
  unfold scanEscape at read
  split at read
  · cases read
  · rename_i letter tail
    split at read
    · rename_i isUnicode
      split at read
      · rename_i h1 h2 h3 h4 tail
        have suffix : tail <:+ letter :: h1 :: h2 :: h3 :: h4 :: tail :=
          ⟨[letter, h1, h2, h3, h4], rfl⟩
        split at read
        · cases read
        · rename_i point value
          have bound := hexEscape?_lt value
          have val : (Fin.ofNat 0x110000 point).val = point := Nat.mod_eq_of_lt (by omega)
          split at read
          · rename_i high
            split at read
            · rename_i low after found
              obtain ⟨range, inside⟩ := lowSurrogate?_eq_some found
              obtain ⟨joined, rfl⟩ := Prod.mk.inj (Except.ok.inj read)
              have large : c.val = 0x10000 + (point - 0xD800) * 1024 + (low - 0xDC00) := by
                rw [← joined]
                exact Nat.mod_eq_of_lt (by omega)
              obtain ⟨notLow, notHigh⟩ := plain c (.inr (by omega))
              exact ⟨inside.trans suffix, fun isLow => absurd isLow notLow,
                fun isHigh => absurd isHigh notHigh⟩
            · rename_i alone
              obtain ⟨rfl, rfl⟩ := Prod.mk.inj (Except.ok.inj read)
              refine ⟨suffix, fun isLow => ?_, fun _ => alone⟩
              unfold IsLowSurrogate at isLow
              omega
          · rename_i notHigh
            obtain ⟨rfl, rfl⟩ := Prod.mk.inj (Except.ok.inj read)
            refine ⟨suffix, fun isLow => ?_, fun isHigh => ?_⟩
            · unfold IsLowSurrogate at isLow
              rw [val] at isLow
              simp [lowSurrogate?, isUnicode, value, isLow]
            · unfold IsHighSurrogate at isHigh
              omega
      · cases read
    · split at read
      · cases read
      · rename_i point short
        obtain ⟨rfl, rfl⟩ := Prod.mk.inj (Except.ok.inj read)
        have small := shortEscape?_lt short
        obtain ⟨notLow, notHigh⟩ := plain point (.inl (by omega))
        exact ⟨List.suffix_cons _ _, fun isLow => absurd isLow notLow,
          fun isHigh => absurd isHigh notHigh⟩

/-- **A string that was read has no high surrogate before a low one.** -/
theorem scanString_unpaired {fuel : ℕ} {text body rest : Text} (scalar : Scalar text)
    (read : scanString fuel text = .ok (body, rest)) :
    rest <:+ text ∧ Unpaired body ∧
      (lowSurrogate? text = none → ∀ c, body.head? = some c → ¬ IsLowSurrogate c) := by
  induction fuel generalizing text body rest with
  | zero => cases read
  | succ fuel ih =>
      cases text with
      | nil => cases read
      | cons c tail =>
          have scalarTail := scalar.of_suffix (List.suffix_cons c tail)
          unfold scanString at read
          split at read
          · cases read
            exact ⟨List.suffix_cons c _, .nil, fun _ c' head => by cases head⟩
          split at read
          · cases read
          split at read
          · rename_i backslash
            obtain ⟨⟨point, after⟩, escaped, read⟩ := bind_eq_ok_iff.mp read
            obtain ⟨⟨later, rest'⟩, scanned, read⟩ := bind_eq_ok_iff.mp read
            cases read
            obtain ⟨suffix, low, high⟩ := scanEscape_eq_ok escaped
            obtain ⟨suffix', unpaired, first⟩ := ih (scalarTail.of_suffix suffix) scanned
            refine ⟨(suffix'.trans suffix).trans (List.suffix_cons c tail),
              List.isChain_cons.mpr ⟨fun c' head pair => ?_, unpaired⟩, fun alone c' head isLow => ?_⟩
            · exact first (high pair.1) c' head pair.2
            · obtain rfl := Option.some.inj head
              rw [backslash] at alone
              exact low isLow alone
          · obtain ⟨⟨later, rest'⟩, scanned, read⟩ := bind_eq_ok_iff.mp read
            cases read
            obtain ⟨suffix, unpaired, -⟩ := ih scalarTail scanned
            have single := scalar c List.mem_cons_self
            refine ⟨suffix.trans (List.suffix_cons c tail),
              List.isChain_cons.mpr ⟨fun c' _ pair => ?_, unpaired⟩, fun _ c' head isLow => ?_⟩
            · omega
            · obtain rfl := Option.some.inj head
              unfold IsLowSurrogate at isLow
              omega

/-! ## Values -/

/-- What was read can be written, unless it holds a float. -/
def ReadsBack (v : PyValue) : Prop := holdsFloat v = false → asciiWriter.Readable v

theorem takeDigits_lt (text : Text) : ∀ d ∈ (takeDigits text).1, d < 10 := by
  induction text with
  | nil => exact nofun
  | cons c rest ih =>
      unfold takeDigits
      split
      · exact nofun
      · rename_i d value
        refine List.forall_mem_cons.mpr ⟨?_, ih⟩
        unfold decimalValue? at value
        split at value
        · have := Option.some.inj value
          omega
        · cases value

theorem intOfLiteral_readable {negative : Bool} {digits : List ℕ} {n : ℤ}
    (small : ∀ d ∈ digits, d < 10) (nonempty : digits ≠ [])
    (read : intOfLiteral negative digits = .ok n) : asciiWriter.Readable (.int n) := by
  unfold intOfLiteral at read
  split at read
  · cases read
  · rename_i short
    have size : n.natAbs = natOfDigits 10 digits := by
      cases read
      split
      · exact Int.natAbs_neg _
      · rfl
    have fits : n.natAbs < 10 ^ digits.length := size ▸ natOfDigits_lt small
    exact (length_decimalText_le fits (List.length_pos_of_ne_nil nonempty)).trans (by omega)

theorem scanNumber_eq_ok {negative : Bool} {text rest : Text} {v : PyValue}
    (read : scanNumber negative text = .ok (v, rest)) : rest <:+ text ∧ ReadsBack v := by
  unfold scanNumber at read
  split at read
  rename_i integer after same
  obtain ⟨small, suffix⟩ : (∀ d ∈ integer, d < 10) ∧ after <:+ text := by
    have digits := takeDigits_lt text
    have inside := takeDigits_suffix text
    split at same
    · cases same
      exact ⟨by decide, List.drop_suffix _ _⟩
    · rw [same] at digits inside
      exact ⟨digits, inside⟩
  split at read
  · cases read
  rename_i nonempty
  dsimp only at read
  split at read
  · obtain ⟨n, literal, read⟩ := bind_eq_ok_iff.mp read
    cases read
    exact ⟨suffix, fun _ => intOfLiteral_readable small nonempty literal⟩
  · cases read
    exact ⟨((takeExponent_suffix _).trans (takeFraction_suffix _)).trans suffix, nofun⟩

theorem scanConstant_eq_ok {text rest : Text} {v : PyValue}
    (read : scanConstant text = .ok (v, rest)) : rest <:+ text ∧ ReadsBack v := by
  unfold scanConstant at read
  split at read
  iterate 3
    · cases read
      exact ⟨suffix_of_literal? (by assumption), fun _ => trivial⟩
  iterate 3
    · cases read
      exact ⟨suffix_of_literal? (by assumption), nofun⟩
  · split at read
    · rename_i tail
      obtain ⟨suffix, back⟩ := scanNumber_eq_ok read
      exact ⟨suffix.trans (List.suffix_cons _ _), back⟩
    · cases read

/-- The members of an object that is read. -/
def ReadsBackMembers (members : List (Text × PyValue)) : Prop :=
  ∀ m ∈ members, Unpaired m.1 ∧ ReadsBack m.2

theorem keys_dictSet (entries : List (Text × PyValue)) (key : Text) (value : PyValue) :
    (dictSet entries key value).map Prod.fst =
      if key ∈ entries.map Prod.fst then entries.map Prod.fst else entries.map Prod.fst ++ [key] := by
  unfold dictSet
  split
  · rw [List.map_map]
    refine List.map_congr_left fun entry _ => ?_
    rw [Function.comp_apply]
    split
    · rename_i same
      exact same.symm
    · rfl
  · rw [List.map_append]
    rfl

theorem nodup_foldl_dictSet {members before : List (Text × PyValue)}
    (distinct : (before.map Prod.fst).Nodup) :
    ((members.foldl (fun entries m => dictSet entries m.1 m.2) before).map Prod.fst).Nodup := by
  induction members generalizing before with
  | nil => exact distinct
  | cons m rest ih =>
      refine ih ?_
      rw [keys_dictSet]
      split
      · exact distinct
      · rename_i fresh
        exact List.nodup_append.mpr ⟨distinct, List.nodup_singleton _, fun key mem other last same =>
          fresh (List.mem_singleton.mp last ▸ same ▸ mem)⟩

theorem readsBack_foldl_dictSet {members before : List (Text × PyValue)}
    (each : ReadsBackMembers members) (old : ReadsBackMembers before) :
    ReadsBackMembers (members.foldl (fun entries m => dictSet entries m.1 m.2) before) := by
  induction members generalizing before with
  | nil => exact old
  | cons first rest ih =>
      refine ih (fun m mem => each m (List.mem_cons_of_mem _ mem)) fun m mem => ?_
      rcases mem_dictSet mem with rfl | mem
      · exact each first List.mem_cons_self
      · exact old m mem

theorem holdsFloatEntry_eq_false {entries : List (PyValue × PyValue)}
    (none : holdsFloatEntry entries = false) : ∀ entry ∈ entries, holdsFloat entry.2 = false := by
  induction entries with
  | nil => exact fun entry mem => absurd mem List.not_mem_nil
  | cons entry rest ih =>
      obtain ⟨first, later⟩ := Bool.or_eq_false_iff.mp none
      exact List.forall_mem_cons.mpr ⟨first, ih later⟩

theorem readsBack_dictOfMembers {members : List (Text × PyValue)}
    (each : ReadsBackMembers members) : ReadsBack (dictOfMembers members) := by
  intro none
  have back := @readsBack_foldl_dictSet members [] each nofun
  have distinct := @nodup_foldl_dictSet members [] .nil
  refine StringWriter.readableEntries_iff.mpr ⟨fun entry mem => ?_, ?_⟩
  · have free := holdsFloatEntry_eq_false none entry mem
    obtain ⟨m, inside, rfl⟩ := List.mem_map.mp mem
    exact ⟨⟨m.1, rfl, (back m inside).1⟩, (back m inside).2 free⟩
  · rw [List.map_map]
    have names := distinct.map (f := PyValue.str) fun t t' same => PyValue.str.inj same
    rwa [List.map_map] at names

/-- The scanner on texts without surrogates, at some recursion depth. -/
structure ReadsAt (fuel : ℕ) : Prop where
  value : ∀ {text rest : Text} {v : PyValue}, Scalar text →
    scanValue fuel text = .ok (v, rest) → rest <:+ text ∧ ReadsBack v
  items : ∀ {text rest : Text} {items : List PyValue}, Scalar text →
    scanItems fuel text = .ok (items, rest) → rest <:+ text ∧ ReadsBack (.list items)
  members : ∀ {text rest : Text} {members : List (Text × PyValue)}, Scalar text →
    scanMembers fuel text = .ok (members, rest) → rest <:+ text ∧ ReadsBackMembers members

theorem ReadsAt.value_succ {fuel : ℕ} (reads : ReadsAt fuel) {text rest : Text} {v : PyValue}
    (scalar : Scalar text) (read : scanValue (fuel + 1) text = .ok (v, rest)) :
    rest <:+ text ∧ ReadsBack v := by
  cases text with
  | nil => cases read
  | cons c tail =>
      have suffix := List.suffix_cons c tail
      have space := (skipSpace_suffix tail).trans suffix
      unfold scanValue at read
      split at read
      · obtain ⟨⟨body, after⟩, scanned, read⟩ := bind_eq_ok_iff.mp read
        cases read
        obtain ⟨suffix', unpaired, -⟩ := scanString_unpaired (scalar.of_suffix suffix) scanned
        exact ⟨suffix'.trans suffix, fun _ => unpaired⟩
      split at read
      · split at read
        · cases read
        · rename_i c' tail' skipped
          rw [skipped] at space
          split at read
          · cases read
            exact ⟨(List.suffix_cons c' _).trans space, fun _ => trivial⟩
          · obtain ⟨⟨members, after⟩, scanned, read⟩ := bind_eq_ok_iff.mp read
            cases read
            obtain ⟨suffix', back⟩ := reads.members (scalar.of_suffix space) scanned
            exact ⟨suffix'.trans space, readsBack_dictOfMembers back⟩
      split at read
      · split at read
        · cases read
        · rename_i c' tail' skipped
          rw [skipped] at space
          split at read
          · cases read
            exact ⟨(List.suffix_cons c' _).trans space, fun _ => trivial⟩
          · obtain ⟨⟨items, after⟩, scanned, read⟩ := bind_eq_ok_iff.mp read
            cases read
            obtain ⟨suffix', back⟩ := reads.items (scalar.of_suffix space) scanned
            exact ⟨suffix'.trans space, back⟩
      split at read
      · exact scanNumber_eq_ok read
      · exact scanConstant_eq_ok read

theorem ReadsBack.single {item : PyValue} (back : ReadsBack item) : ReadsBack (.list [item]) :=
  fun none => ⟨back (Bool.or_eq_false_iff.mp none).1, trivial⟩

theorem ReadsBack.cons {item : PyValue} {items : List PyValue} (back : ReadsBack item)
    (later : ReadsBack (.list items)) : ReadsBack (.list (item :: items)) :=
  fun none => ⟨back (Bool.or_eq_false_iff.mp none).1, later (Bool.or_eq_false_iff.mp none).2⟩

theorem ReadsAt.items_succ {fuel : ℕ} (reads : ReadsAt fuel) {text rest : Text}
    {items : List PyValue} (scalar : Scalar text)
    (read : scanItems (fuel + 1) text = .ok (items, rest)) :
    rest <:+ text ∧ ReadsBack (.list items) := by
  unfold scanItems at read
  obtain ⟨⟨item, after⟩, scanned, read⟩ := bind_eq_ok_iff.mp read
  obtain ⟨suffix, back⟩ := reads.value scalar scanned
  have space := (skipSpace_suffix after).trans suffix
  dsimp only at read
  split at read
  · rename_i tail skipped
    cases read
    rw [skipped] at space
    exact ⟨(List.suffix_cons _ _).trans space, back.single⟩
  · rename_i tail skipped
    rw [skipped] at space
    obtain ⟨⟨others, after'⟩, scanned', read⟩ := bind_eq_ok_iff.mp read
    cases read
    have inside := ((skipSpace_suffix tail).trans (List.suffix_cons _ _)).trans space
    obtain ⟨suffix', later⟩ := reads.items (scalar.of_suffix inside) scanned'
    exact ⟨suffix'.trans inside, back.cons later⟩
  · cases read

theorem ReadsAt.members_succ {fuel : ℕ} (reads : ReadsAt fuel) {text rest : Text}
    {members : List (Text × PyValue)} (scalar : Scalar text)
    (read : scanMembers (fuel + 1) text = .ok (members, rest)) :
    rest <:+ text ∧ ReadsBackMembers members := by
  unfold scanMembers at read
  split at read
  · rename_i tail
    have suffix := List.suffix_cons (0x22 : CodePoint) tail
    obtain ⟨⟨key, afterKey⟩, scannedKey, read⟩ := bind_eq_ok_iff.mp read
    obtain ⟨suffixKey, unpaired, -⟩ := scanString_unpaired (scalar.of_suffix suffix) scannedKey
    have spaceKey := ((skipSpace_suffix afterKey).trans suffixKey).trans suffix
    dsimp only at read
    split at read
    · rename_i afterColon skipped
      rw [skipped] at spaceKey
      obtain ⟨⟨value, after⟩, scanned, read⟩ := bind_eq_ok_iff.mp read
      have atValue := ((skipSpace_suffix afterColon).trans (List.suffix_cons _ _)).trans spaceKey
      obtain ⟨suffixValue, back⟩ := reads.value (scalar.of_suffix atValue) scanned
      have space := ((skipSpace_suffix after).trans suffixValue).trans atValue
      dsimp only at read
      split at read
      · rename_i left_ skipped
        cases read
        rw [skipped] at space
        refine ⟨(List.suffix_cons _ _).trans space, fun m mem => ?_⟩
        rw [List.mem_singleton.mp mem]
        exact ⟨unpaired, back⟩
      · rename_i left_ skipped
        rw [skipped] at space
        obtain ⟨⟨others, after'⟩, scanned', read⟩ := bind_eq_ok_iff.mp read
        cases read
        have inside := ((skipSpace_suffix left_).trans (List.suffix_cons _ _)).trans space
        obtain ⟨suffix', later⟩ := reads.members (scalar.of_suffix inside) scanned'
        exact ⟨suffix'.trans inside, List.forall_mem_cons.mpr ⟨⟨unpaired, back⟩, later⟩⟩
      · cases read
    · cases read
  · cases read

theorem readsAt (fuel : ℕ) : ReadsAt fuel := by
  induction fuel with
  | zero => exact ⟨fun _ => nofun, fun _ => nofun, fun _ => nofun⟩
  | succ fuel ih => exact ⟨ih.value_succ, ih.items_succ, ih.members_succ⟩

/-- **What was read without floats is readable.** -/
theorem readable_of_jsonLoads {text : Text} {v : PyValue} (scalar : Scalar text)
    (read : jsonLoads text = .ok v) (none : holdsFloat v = false) : asciiWriter.Readable v := by
  unfold jsonLoads at read
  split at read
  · cases read
  · obtain ⟨⟨value, rest⟩, scanned, read⟩ := bind_eq_ok_iff.mp read
    dsimp only at read
    split at read
    · cases read
      exact ((readsAt _).value (scalar.of_suffix (skipSpace_suffix text)) scanned).2 none
    · cases read

end CubeNano

import CubeNano.Protocol.CborRoundTrip

/-!
# Map order in deterministic CBOR

The encoder writes the entries of a map in the order of their encoded keys; the
decoder takes them in any order.  A value and its rearrangements therefore have
one encoding, and a map with several entries has several accepted byte strings.

## Main definitions

* `SameValue` — Python's `==`, with booleans and integers apart
* `sortMaps` — the value with the entries of every map in encoded order
* `AscendingWire` — byte strings whose maps carry their keys in encoded order

## Main statements

* `cborEncode_eq` — the encoder writes the wire form of the sorted value
* `cbor_roundTrip_and_uniqueness` — round trip, order independence, and which
  accepted byte strings the encoder writes
-/

namespace CubeNano

/-! ## Sorted maps -/

mutual

/-- The value with the entries of every map in the order of their encoded keys. -/
def sortMaps : PyValue → PyValue
  | .list items => .list (sortItems items)
  | .dict entries => .dict (sortByKey (fun entry => keyOrder (wire entry.1)) (sortEntries entries))
  | .none => .none
  | .bool b => .bool b
  | .int n => .int n
  | .float finite literal => .float finite literal
  | .bytes value => .bytes value
  | .str text => .str text

/-- The items of a list, their maps sorted. -/
def sortItems : List PyValue → List PyValue
  | [] => []
  | item :: rest => sortMaps item :: sortItems rest

/-- The entries of a map, the maps in their values sorted. -/
def sortEntries : List (PyValue × PyValue) → List (PyValue × PyValue)
  | [] => []
  | (key, item) :: rest => (key, sortMaps item) :: sortEntries rest

end

theorem sortMaps_scalar {v : PyValue} (scalar : (scalarKey? v).isSome) : sortMaps v = v := by
  cases v with
  | list _ => cases scalar
  | dict _ => cases scalar
  | none => rfl
  | bool _ => rfl
  | int _ => rfl
  | float _ _ => rfl
  | bytes _ => rfl
  | str _ => rfl

theorem sortEntries_eq_map (entries : List (PyValue × PyValue)) :
    sortEntries entries = entries.map fun entry => (entry.1, sortMaps entry.2) := by
  induction entries with
  | nil => rfl
  | cons entry rest ih =>
      obtain ⟨key, item⟩ := entry
      rw [sortEntries, ih]
      rfl

theorem sortItems_eq_map (items : List PyValue) : sortItems items = items.map sortMaps := by
  induction items with
  | nil => rfl
  | cons item rest ih =>
      rw [sortItems, ih]
      rfl

theorem cborEntries_iff {entries : List (PyValue × PyValue)} :
    CborEntries entries ↔ ∀ entry ∈ entries,
      (scalarKey? entry.1).isSome ∧ CborValue entry.1 ∧ CborValue entry.2 := by
  induction entries with
  | nil => exact ⟨fun _ _ mem => (by cases mem), fun _ => trivial⟩
  | cons entry rest ih =>
      obtain ⟨key, item⟩ := entry
      rw [List.forall_mem_cons, ← ih]
      exact ⟨fun h => ⟨⟨h.1, h.2.1, h.2.2.1⟩, h.2.2.2⟩, fun h => ⟨h.1.1, h.1.2.1, h.1.2.2, h.2⟩⟩

theorem wireEntries_eq_flatMap (entries : List (PyValue × PyValue)) :
    wireEntries entries = entries.flatMap fun entry => wire entry.1 ++ wire entry.2 := by
  induction entries with
  | nil => rfl
  | cons entry rest ih =>
      obtain ⟨key, item⟩ := entry
      rw [wireEntries, ih, List.flatMap_cons, List.append_assoc]

theorem wireItems_eq_flatten (items : List PyValue) :
    wireItems items = (items.map wire).flatten := by
  induction items with
  | nil => rfl
  | cons item rest ih =>
      rw [wireItems, ih]
      rfl

/-- The keys of a map of the subset have distinct positions in the order. -/
theorem keyOrder_injective {key key' : Bytes} (same : keyOrder key = keyOrder key') :
    key = key' := by
  have bytes : key.map UInt8.toNat = key'.map UInt8.toNat := congrArg (fun p => (ofLex p).2) same
  exact List.map_injective_iff.mpr (fun _ _ => UInt8.toNat_inj.mp) bytes

theorem nodup_keyOrder {entries : List (PyValue × PyValue)} (values : CborEntries entries)
    (distinct : (entries.map fun entry => scalarKey? entry.1).Nodup) :
    (entries.map fun entry => keyOrder (wire entry.1)).Nodup := by
  have each := cborEntries_iff.mp values
  refine List.Nodup.map_on ?_ (List.Nodup.of_map _ distinct)
  intro entry mem entry' mem' same
  obtain ⟨scalar, value, -⟩ := each entry mem
  obtain ⟨scalar', value', -⟩ := each entry' mem'
  have key := eq_of_wire_eq scalar value scalar' value' (keyOrder_injective same)
  exact List.inj_on_of_nodup_map distinct mem mem' (congrArg scalarKey? key)

/-! ## The encoder -/

theorem checkedU64_natCast {n : ℕ} (fits : n ≤ maxU64) (label : String) :
    checkedU64 n label = .ok n := by
  unfold checkedU64
  rw [if_neg (by omega), Int.toNat_natCast]

theorem cborHead_eq {major value : ℕ} (fits : value ≤ maxU64) :
    cborHead major value = .ok (headBytes major value) :=
  bind_eq_ok_iff.mpr ⟨_, checkedU64_natCast fits _, rfl⟩

theorem length_sortEntries (entries : List (PyValue × PyValue)) :
    (sortEntries entries).length = entries.length := by
  rw [sortEntries_eq_map, List.length_map]

/-- The entries the encoder sorts are those of the sorted value. -/
theorem flatMap_sorted_pairs (entries : List (PyValue × PyValue)) :
    (sortByKey (fun pair => keyOrder pair.1)
      (entries.map fun entry => (wire entry.1, wire (sortMaps entry.2)))).flatMap
        (fun pair => pair.1 ++ pair.2) =
      wireEntries (sortByKey (fun entry => keyOrder (wire entry.1)) (sortEntries entries)) := by
  have pairs : entries.map (fun entry => (wire entry.1, wire (sortMaps entry.2))) =
      (sortEntries entries).map fun entry => (wire entry.1, wire entry.2) := by
    rw [sortEntries_eq_map, List.map_map]
    rfl
  rw [pairs, ← map_sortByKey (fun entry : PyValue × PyValue => keyOrder (wire entry.1))
    (fun pair => keyOrder pair.1) (fun entry => (wire entry.1, wire entry.2)) (fun _ => rfl),
    List.flatMap_map, wireEntries_eq_flatMap]

mutual

/-- **The encoder writes the wire form of the sorted value.** -/
theorem cborEncode_eq : (v : PyValue) → CborValue v → cborEncode v = .ok (wire (sortMaps v))
  | .none, _ => rfl
  | .bool false, _ => rfl
  | .bool true, _ => rfl
  | .int n, ⟨lower, upper⟩ => by
      have fits (m : ℤ) (h : 0 ≤ m ∧ m < 2 ^ 64) (label : String) :
          checkedU64 m label = .ok m.toNat := by
        unfold checkedU64 maxU64
        rw [if_neg (by omega)]
      unfold cborEncode sortMaps wire
      by_cases positive : 0 ≤ n
      · rw [if_pos positive, if_pos positive]
        exact bind_eq_ok_iff.mpr ⟨_, fits n (by omega) _, cborHead_eq (by unfold maxU64; omega)⟩
      · rw [if_neg positive, if_neg positive]
        exact bind_eq_ok_iff.mpr ⟨_, fits (-1 - n) (by omega) _,
          cborHead_eq (by unfold maxU64; omega)⟩
  | .float _ _, value => value.elim
  | .bytes data, value => bind_eq_ok_iff.mpr ⟨_, cborHead_eq value, rfl⟩
  | .str text, ⟨scalar, fits⟩ =>
      bind_eq_ok_iff.mpr ⟨_, utf8Encode_eq_ok_iff.mpr ⟨scalar, rfl⟩,
        bind_eq_ok_iff.mpr ⟨_, cborHead_eq fits, rfl⟩⟩
  | .list items, ⟨fits, values⟩ => by
      have encoded := cborEncodeItems_eq items values
      have written : wire (sortMaps (.list items)) = headBytes 4 items.length ++
          (items.map fun item => wire (sortMaps item)).flatten := by
        rw [sortMaps, wire, sortItems_eq_map, List.length_map, wireItems_eq_flatten, List.map_map]
        rfl
      unfold cborEncode
      rw [written]
      exact bind_eq_ok_iff.mpr ⟨_, cborHead_eq fits, bind_eq_ok_iff.mpr ⟨_, encoded, rfl⟩⟩
  | .dict entries, ⟨fits, values, _⟩ => by
      have encoded := cborEncodeEntries_eq entries values
      have length : (sortByKey (fun pair : Bytes × Bytes => keyOrder pair.1)
          (entries.map fun entry => (wire entry.1, wire (sortMaps entry.2)))).length =
            entries.length := by
        rw [length_sortByKey, List.length_map]
      unfold cborEncode
      refine bind_eq_ok_iff.mpr ⟨_, encoded, ?_⟩
      refine bind_eq_ok_iff.mpr ⟨_, cborHead_eq (by rw [length]; exact fits), ?_⟩
      rw [flatMap_sorted_pairs, length, sortMaps, wire, length_sortByKey, length_sortEntries]

/-- The encoded items of a list. -/
theorem cborEncodeItems_eq : (items : List PyValue) → CborItems items →
    cborEncodeItems items = .ok (items.map fun item => wire (sortMaps item))
  | [], _ => rfl
  | item :: rest, ⟨value, values⟩ =>
      bind_eq_ok_iff.mpr ⟨_, cborEncode_eq item value,
        bind_eq_ok_iff.mpr ⟨_, cborEncodeItems_eq rest values, rfl⟩⟩

/-- The encoded entries of a map; a key is a scalar, so sorting leaves it alone. -/
theorem cborEncodeEntries_eq : (entries : List (PyValue × PyValue)) → CborEntries entries →
    cborEncodeEntries entries =
      .ok (entries.map fun entry => (wire entry.1, wire (sortMaps entry.2)))
  | [], _ => rfl
  | (key, item) :: rest, ⟨scalar, keyValue, value, values⟩ => by
      have encodedKey := cborEncode_eq key keyValue
      rw [sortMaps_scalar scalar] at encodedKey
      unfold cborEncodeEntries
      exact bind_eq_ok_iff.mpr ⟨_, encodedKey, bind_eq_ok_iff.mpr ⟨_, cborEncode_eq item value,
        bind_eq_ok_iff.mpr ⟨_, cborEncodeEntries_eq rest values, rfl⟩⟩⟩

end

/-! ## The subset and sorting -/

mutual

/-- Sorting keeps a value in the subset. -/
theorem cborValue_sortMaps : (v : PyValue) → CborValue v → CborValue (sortMaps v)
  | .none, value => value
  | .bool _, value => value
  | .int _, value => value
  | .float _ _, value => value.elim
  | .bytes _, value => value
  | .str _, value => value
  | .list items, ⟨fits, values⟩ => by
      refine ⟨?_, cborItems_sortItems items values⟩
      rw [sortItems_eq_map, List.length_map]
      exact fits
  | .dict entries, ⟨fits, values, distinct⟩ => by
      have perm := sortByKey_perm (fun entry : PyValue × PyValue => keyOrder (wire entry.1))
        (sortEntries entries)
      have sorted := cborEntries_iff.mp (cborEntries_sortEntries entries values)
      refine ⟨?_, cborEntries_iff.mpr fun entry mem => sorted entry (perm.mem_iff.mp mem), ?_⟩
      · rw [length_sortByKey, length_sortEntries]
        exact fits
      · rw [(perm.map _).nodup_iff, sortEntries_eq_map, List.map_map]
        exact distinct

/-- Sorting keeps items in the subset. -/
theorem cborItems_sortItems : (items : List PyValue) → CborItems items →
    CborItems (sortItems items)
  | [], _ => trivial
  | item :: rest, ⟨value, values⟩ => ⟨cborValue_sortMaps item value, cborItems_sortItems rest values⟩

/-- Sorting keeps entries in the subset. -/
theorem cborEntries_sortEntries : (entries : List (PyValue × PyValue)) → CborEntries entries →
    CborEntries (sortEntries entries)
  | [], _ => trivial
  | (_, item) :: rest, ⟨scalar, keyValue, value, values⟩ =>
      ⟨scalar, keyValue, cborValue_sortMaps item value, cborEntries_sortEntries rest values⟩

end

/-- Decoding what was encoded gives the sorted value. -/
theorem cborDecode_cborEncode {v : PyValue} (value : CborValue v) :
    ∃ data, cborEncode v = .ok data ∧ cborDecode data = .ok (sortMaps v) :=
  ⟨_, cborEncode_eq v value, cborDecode_eq_ok_iff.mpr ⟨cborValue_sortMaps v value, rfl⟩⟩

/-! ## Equal values -/

mutual

/-- Python's `==` on values of the subset, booleans and integers held apart: maps
are equal when they have the same keys with equal values, in any order. -/
def SameValue : PyValue → PyValue → Prop
  | .list items, .list items' => SameItems items items'
  | .dict entries, .dict entries' =>
      entries.length = entries'.length ∧ EntriesIn entries entries'
  | v, v' => v = v'

/-- Lists with equal items. -/
def SameItems : List PyValue → List PyValue → Prop
  | [], items' => items' = []
  | item :: rest, items' =>
      ∃ item' rest', items' = item' :: rest' ∧ SameValue item item' ∧ SameItems rest rest'

/-- Every entry has a counterpart with the same key and an equal value. -/
def EntriesIn : List (PyValue × PyValue) → List (PyValue × PyValue) → Prop
  | [], _ => True
  | (key, item) :: rest, entries' =>
      (∃ item', (key, item') ∈ entries' ∧ SameValue item item') ∧ EntriesIn rest entries'

end

mutual

/-- A value equals its sorted form. -/
theorem sameValue_sortMaps : (v : PyValue) → SameValue v (sortMaps v)
  | .none => rfl
  | .bool _ => rfl
  | .int _ => rfl
  | .float _ _ => rfl
  | .bytes _ => rfl
  | .str _ => rfl
  | .list items => sameItems_sortItems items
  | .dict entries => by
      refine ⟨?_, entriesIn_of_sorted entries _ fun entry mem => (mem_sortByKey _).mpr mem⟩
      rw [length_sortByKey, length_sortEntries]

/-- Items equal their sorted forms. -/
theorem sameItems_sortItems : (items : List PyValue) → SameItems items (sortItems items)
  | [] => rfl
  | item :: rest => ⟨_, _, rfl, sameValue_sortMaps item, sameItems_sortItems rest⟩

/-- Entries have their counterparts where their sorted forms are. -/
theorem entriesIn_of_sorted : (entries target : List (PyValue × PyValue)) →
    (∀ entry ∈ sortEntries entries, entry ∈ target) → EntriesIn entries target
  | [], _, _ => trivial
  | (_, item) :: rest, target, inside =>
      ⟨⟨sortMaps item, inside _ (List.mem_cons_self ..), sameValue_sortMaps item⟩,
        entriesIn_of_sorted rest target fun _ mem => inside _ (List.mem_cons_of_mem _ mem)⟩

end

mutual

/-- Equal values have one sorted form. -/
theorem sortMaps_eq_of_same : (v v' : PyValue) → CborValue v → CborValue v' → SameValue v v' →
    sortMaps v = sortMaps v'
  | .list items, .list items', ⟨_, values⟩, ⟨_, values'⟩, same => by
      rw [sortMaps, sortMaps, sortItems_eq_of_same items items' values values' same]
  | .dict entries, .dict entries', ⟨_, values, distinct⟩, ⟨_, values', _⟩, ⟨length, inside⟩ => by
      have subset := sortEntries_subset_of_in entries entries' values values' inside
      have sortedDistinct : ((sortEntries entries).map fun entry => scalarKey? entry.1).Nodup := by
        rw [sortEntries_eq_map, List.map_map]
        exact distinct
      have orders := nodup_keyOrder (cborEntries_sortEntries entries values) sortedDistinct
      have perm : (sortEntries entries).Perm (sortEntries entries') := by
        refine (List.subperm_of_subset (List.Nodup.of_map _ orders) subset).perm_of_length_le ?_
        rw [length_sortEntries, length_sortEntries, length]
      rw [sortMaps, sortMaps, sortByKey_eq_of_perm _ perm orders]
  | .list _, .dict _, _, _, same => by cases same
  | .list _, .none, _, _, same => by cases same
  | .list _, .bool _, _, _, same => by cases same
  | .list _, .int _, _, _, same => by cases same
  | .list _, .float _ _, _, _, same => by cases same
  | .list _, .bytes _, _, _, same => by cases same
  | .list _, .str _, _, _, same => by cases same
  | .dict _, .list _, _, _, same => by cases same
  | .dict _, .none, _, _, same => by cases same
  | .dict _, .bool _, _, _, same => by cases same
  | .dict _, .int _, _, _, same => by cases same
  | .dict _, .float _ _, _, _, same => by cases same
  | .dict _, .bytes _, _, _, same => by cases same
  | .dict _, .str _, _, _, same => by cases same
  | .none, _, _, _, same => congrArg sortMaps same
  | .bool _, _, _, _, same => congrArg sortMaps same
  | .int _, _, _, _, same => congrArg sortMaps same
  | .float _ _, _, _, _, same => congrArg sortMaps same
  | .bytes _, _, _, _, same => congrArg sortMaps same
  | .str _, _, _, _, same => congrArg sortMaps same

/-- Equal items have one sorted form. -/
theorem sortItems_eq_of_same : (items items' : List PyValue) → CborItems items →
    CborItems items' → SameItems items items' → sortItems items = sortItems items'
  | [], _, _, _, same => by rw [show _ = [] from same]
  | item :: rest, _, ⟨value, values⟩, values', ⟨item', rest', split, same, more⟩ => by
      subst split
      obtain ⟨value', values'⟩ := values'
      rw [sortItems, sortItems, sortMaps_eq_of_same item item' value value' same,
        sortItems_eq_of_same rest rest' values values' more]

/-- The sorted forms of entries are among those of their counterparts. -/
theorem sortEntries_subset_of_in : (entries entries' : List (PyValue × PyValue)) →
    CborEntries entries → CborEntries entries' → EntriesIn entries entries' →
      sortEntries entries ⊆ sortEntries entries'
  | [], _, _, _, _ => List.nil_subset _
  | (_, item) :: rest, entries', ⟨_, _, value, values⟩, values', ⟨⟨item', mem, same⟩, more⟩ => by
      have value' := (cborEntries_iff.mp values' _ mem).2.2
      rw [sortEntries]
      refine List.cons_subset.mpr ⟨?_, sortEntries_subset_of_in rest entries' values values' more⟩
      rw [sortMaps_eq_of_same item item' value value' same, sortEntries_eq_map]
      exact List.mem_map_of_mem mem

end

/-! ## Ascending keys -/

mutual

/-- Every map carries its keys in ascending encoded order. -/
def Ascending : PyValue → Prop
  | .list items => AscendingItems items
  | .dict entries =>
      (entries.Pairwise fun entry entry' => keyOrder (wire entry.1) ≤ keyOrder (wire entry'.1)) ∧
        AscendingEntries entries
  | .none => True
  | .bool _ => True
  | .int _ => True
  | .float _ _ => True
  | .bytes _ => True
  | .str _ => True

/-- The maps in every item are ascending. -/
def AscendingItems : List PyValue → Prop
  | [] => True
  | item :: rest => Ascending item ∧ AscendingItems rest

/-- The maps in the value of every entry are ascending. -/
def AscendingEntries : List (PyValue × PyValue) → Prop
  | [] => True
  | (_, item) :: rest => Ascending item ∧ AscendingEntries rest

end

mutual

/-- Sorting leaves an ascending value alone. -/
theorem sortMaps_of_ascending : (v : PyValue) → Ascending v → sortMaps v = v
  | .none, _ => rfl
  | .bool _, _ => rfl
  | .int _, _ => rfl
  | .float _ _, _ => rfl
  | .bytes _, _ => rfl
  | .str _, _ => rfl
  | .list items, ascending => by rw [sortMaps, sortItems_of_ascending items ascending]
  | .dict entries, ⟨order, ascending⟩ => by
      rw [sortMaps, sortEntries_of_ascending entries ascending]
      exact congrArg PyValue.dict ((sortByKey_eq_self_iff _).mpr order)

/-- Sorting leaves ascending items alone. -/
theorem sortItems_of_ascending : (items : List PyValue) → AscendingItems items →
    sortItems items = items
  | [], _ => rfl
  | item :: rest, ⟨first, later⟩ => by
      rw [sortItems, sortMaps_of_ascending item first, sortItems_of_ascending rest later]

/-- Sorting leaves ascending entries alone. -/
theorem sortEntries_of_ascending : (entries : List (PyValue × PyValue)) →
    AscendingEntries entries → sortEntries entries = entries
  | [], _ => rfl
  | (key, item) :: rest, ⟨first, later⟩ => by
      rw [sortEntries, sortMaps_of_ascending item first, sortEntries_of_ascending rest later]

end

theorem ascendingEntries_iff {entries : List (PyValue × PyValue)} :
    AscendingEntries entries ↔ ∀ entry ∈ entries, Ascending entry.2 := by
  induction entries with
  | nil => exact ⟨fun _ _ mem => (by cases mem), fun _ => trivial⟩
  | cons entry rest ih =>
      rw [List.forall_mem_cons, ← ih]
      rfl

mutual

/-- A sorted value is ascending. -/
theorem ascending_sortMaps : (v : PyValue) → Ascending (sortMaps v)
  | .none => trivial
  | .bool _ => trivial
  | .int _ => trivial
  | .float _ _ => trivial
  | .bytes _ => trivial
  | .str _ => trivial
  | .list items => ascendingItems_sortItems items
  | .dict entries => by
      refine ⟨pairwise_sortByKey _ _, ascendingEntries_iff.mpr fun entry mem => ?_⟩
      exact ascendingEntries_iff.mp (ascendingEntries_sortEntries entries) entry
        ((mem_sortByKey _).mp mem)

/-- Sorted items are ascending. -/
theorem ascendingItems_sortItems : (items : List PyValue) → AscendingItems (sortItems items)
  | [] => trivial
  | item :: rest => ⟨ascending_sortMaps item, ascendingItems_sortItems rest⟩

/-- The values of sorted entries are ascending. -/
theorem ascendingEntries_sortEntries : (entries : List (PyValue × PyValue)) →
    AscendingEntries (sortEntries entries)
  | [] => trivial
  | (_, item) :: rest => ⟨ascending_sortMaps item, ascendingEntries_sortEntries rest⟩

end

/-- The byte string is the wire form of an item whose maps are ascending. -/
def AscendingWire (data : Bytes) : Prop :=
  ∃ item, CborValue item ∧ Ascending item ∧ data = wire item

/-- An accepted byte string is what the encoder writes exactly when its maps
are ascending. -/
theorem cborEncode_eq_iff_ascendingWire {data : Bytes} {v : PyValue}
    (accepted : cborDecode data = .ok v) : cborEncode v = .ok data ↔ AscendingWire data := by
  obtain ⟨value, rfl⟩ := cborDecode_eq_ok_iff.mp accepted
  rw [cborEncode_eq v value]
  constructor
  · intro same
    exact ⟨sortMaps v, cborValue_sortMaps v value, ascending_sortMaps v,
      (Except.ok.inj same).symm⟩
  · rintro ⟨item, itemValue, ascending, same⟩
    have read : cborDecode (wire v) = .ok item := cborDecode_eq_ok_iff.mpr ⟨itemValue, same⟩
    rw [accepted] at read
    rw [Except.ok.inj read, sortMaps_of_ascending item ascending]

/-- **Deterministic CBOR.**  A value of the subset is encoded and read back as an
equal value; equal values, their maps in any order, have one encoding; and an
accepted byte string is the encoding of its value exactly when its maps are
ascending. -/
theorem cbor_roundTrip_and_uniqueness (v : PyValue) :
    (CborValue v →
      ∃ data w, cborEncode v = .ok data ∧ cborDecode data = .ok w ∧ SameValue v w) ∧
    (∀ v', CborValue v → CborValue v' → SameValue v v' → cborEncode v = cborEncode v') ∧
    (∀ data, cborDecode data = .ok v → (cborEncode v = .ok data ↔ AscendingWire data)) := by
  refine ⟨fun value => ?_, fun v' value value' same => ?_, fun data accepted => ?_⟩
  · obtain ⟨data, encoded, decoded⟩ := cborDecode_cborEncode value
    exact ⟨data, sortMaps v, encoded, decoded, sameValue_sortMaps v⟩
  · rw [cborEncode_eq v value, cborEncode_eq v' value', sortMaps_eq_of_same v v' value value' same]
  · exact cborEncode_eq_iff_ascendingWire accepted

/-! ## A map out of order -/

/-- The map of `1` and `0`, both to `0`, its keys descending. -/
def descendingMap : Bytes := [0xA2, 0x01, 0x00, 0x00, 0x00]

/-- The value the decoder reads from it. -/
def descendingMapRead : PyValue := .dict [(.int 1, .int 0), (.int 0, .int 0)]

theorem cborValue_descendingMapRead : CborValue descendingMapRead := by
  refine ⟨by decide, ⟨rfl, ⟨by decide, by decide⟩, ⟨by decide, by decide⟩, rfl,
    ⟨by decide, by decide⟩, ⟨by decide, by decide⟩, trivial⟩, by decide⟩

/-- The decoder accepts a map with descending keys, which the encoder does not write. -/
theorem descendingMap_not_reproduced :
    cborDecode descendingMap = .ok descendingMapRead ∧
      cborEncode descendingMapRead ≠ .ok descendingMap := by
  constructor
  · exact cborDecode_eq_ok_iff.mpr ⟨cborValue_descendingMapRead, by decide⟩
  · decide +kernel

theorem cbor_roundTrip_and_uniqueness_descendingMap :
    (∃ data w, cborEncode descendingMapRead = .ok data ∧ cborDecode data = .ok w ∧
      SameValue descendingMapRead w) ∧
    cborEncode descendingMapRead = cborEncode (sortMaps descendingMapRead) ∧
    (cborEncode descendingMapRead = .ok descendingMap ↔ AscendingWire descendingMap) := by
  have value := cborValue_descendingMapRead
  have accepted : cborDecode descendingMap = .ok descendingMapRead :=
    cborDecode_eq_ok_iff.mpr ⟨value, by decide⟩
  obtain ⟨readBack, oneEncoding, reproduced⟩ := cbor_roundTrip_and_uniqueness descendingMapRead
  exact ⟨readBack value,
    oneEncoding _ value (cborValue_sortMaps _ value) (sameValue_sortMaps _),
    reproduced _ accepted⟩

end CubeNano

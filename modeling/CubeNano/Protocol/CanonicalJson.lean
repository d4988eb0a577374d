import CubeNano.Protocol.JsonEquality
import CubeNano.Protocol.JsonReading

/-!
# The round trip of canonical JSON

`canonical_json` writes the members of every object in the order of their names, so what
`json.loads` returns for it is the written value with its members in that order, if no string of
the value has a high surrogate before a low one.  Readable values have one canonical text exactly
if they are equal.

## Main definitions

* `codePointOrder` — the order in which `json.dumps` writes members
* `CanonicalWith` — the values that `canonical_json` writes, with strings of a kind

## Main statements

* `jsonLoads_canonical` — a canonical text is read back
* `canonicalJson_eq_iff` — when two values have one canonical text
* `canonicalJson_separates` — both, of the bytes
-/

namespace CubeNano

/-- Names by their code points. -/
def codePointOrder : TextOrder where
  le := Text.le
  Name := fun _ => True
  total := Text.le_total
  trans := Text.le_trans
  antisymm := fun t t' _ _ => Text.le_antisymm t t'

/-! ## Values of canonical JSON -/

mutual

/-- A value without floats and bytes, with integers that `str` converts, with distinct strings
as keys, and with strings of a kind. -/
def CanonicalWith (P : Text → Prop) : PyValue → Prop
  | .none => True
  | .bool _ => True
  | .int n => (decimalText n.natAbs).length ≤ intMaxStrDigits
  | .float _ _ => False
  | .bytes _ => False
  | .str text => P text
  | .list items => CanonicalItems P items
  | .dict entries => CanonicalEntries P entries

/-- Every item is such a value. -/
def CanonicalItems (P : Text → Prop) : List PyValue → Prop
  | [] => True
  | item :: rest => CanonicalWith P item ∧ CanonicalItems P rest

/-- Every member is such a value, under a name of its own. -/
def CanonicalEntries (P : Text → Prop) : List (PyValue × PyValue) → Prop
  | [] => True
  | (.str key, v) :: rest =>
      P key ∧ CanonicalWith P v ∧ CanonicalEntries P rest ∧ ∀ entry ∈ rest, entry.1 ≠ .str key
  | (_, _) :: _ => False

end

mutual

/-- The values that are read back have strings without a high surrogate before a low one. -/
theorem readable_iff_canonicalWith : (v : PyValue) →
    (asciiWriter.Readable v ↔ CanonicalWith Unpaired v)
  | .none => Iff.rfl
  | .bool _ => Iff.rfl
  | .int _ => Iff.rfl
  | .float _ _ => Iff.rfl
  | .bytes _ => Iff.rfl
  | .str _ => Iff.rfl
  | .list items => readableItems_iff_canonicalItems items
  | .dict entries => readableEntries_iff_canonicalEntries entries

theorem readableItems_iff_canonicalItems : (items : List PyValue) →
    (asciiWriter.ReadableItems items ↔ CanonicalItems Unpaired items)
  | [] => Iff.rfl
  | item :: rest =>
      and_congr (readable_iff_canonicalWith item) (readableItems_iff_canonicalItems rest)

theorem readableEntries_iff_canonicalEntries : (entries : List (PyValue × PyValue)) →
    (asciiWriter.ReadableEntries entries ↔ CanonicalEntries Unpaired entries)
  | [] => Iff.rfl
  | (.str _, v) :: rest =>
      and_congr Iff.rfl (and_congr (readable_iff_canonicalWith v)
        (and_congr (readableEntries_iff_canonicalEntries rest) Iff.rfl))
  | (.none, _) :: _ => Iff.rfl
  | (.bool _, _) :: _ => Iff.rfl
  | (.int _, _) :: _ => Iff.rfl
  | (.float _ _, _) :: _ => Iff.rfl
  | (.bytes _, _) :: _ => Iff.rfl
  | (.list _, _) :: _ => Iff.rfl
  | (.dict _, _) :: _ => Iff.rfl

end

theorem canonicalEntries_iff {P : Text → Prop} {entries : List (PyValue × PyValue)} :
    CanonicalEntries P entries ↔
      (∀ entry ∈ entries, (∃ key, entry.1 = .str key ∧ P key) ∧ CanonicalWith P entry.2) ∧
        (entries.map Prod.fst).Nodup := by
  induction entries with
  | nil => simp [CanonicalEntries]
  | cons entry rest ih =>
      obtain ⟨k, v⟩ := entry
      rw [List.forall_mem_cons, List.map_cons, List.nodup_cons]
      have fresh (key : Text) : (∀ other ∈ rest, other.1 ≠ .str key) ↔
          PyValue.str key ∉ rest.map Prod.fst := by
        rw [List.mem_map]
        exact ⟨fun differs ⟨other, mem, same⟩ => differs other mem same,
          fun absent other mem same => absent ⟨other, mem, same⟩⟩
      cases k with
      | str key =>
          rw [CanonicalEntries, ih, fresh]
          constructor
          · rintro ⟨holds, value, ⟨each, distinct⟩, absent⟩
            exact ⟨⟨⟨⟨key, rfl, holds⟩, value⟩, each⟩, absent, distinct⟩
          · rintro ⟨⟨⟨⟨_, same, holds⟩, value⟩, each⟩, absent, distinct⟩
            cases same
            exact ⟨holds, value, ⟨each, distinct⟩, absent⟩
      | _ => exact ⟨fun none => none.elim, fun ⟨⟨⟨⟨_, same, _⟩, _⟩, _⟩, _⟩ => nomatch same⟩

mutual

/-- The objects of such a value have distinct strings as keys. -/
theorem CanonicalWith.keyed {P : Text → Prop} : (v : PyValue) → CanonicalWith P v →
    Keyed (fun _ => True) v
  | .none, _ => trivial
  | .bool _, _ => trivial
  | .int _, _ => trivial
  | .float _ _, _ => trivial
  | .bytes _, _ => trivial
  | .str _, _ => trivial
  | .list items, canonical => CanonicalItems.keyed items canonical
  | .dict entries, canonical => by
      refine keyedEntries_iff.mpr ⟨fun entry mem => ?_, (canonicalEntries_iff.mp canonical).2⟩
      obtain ⟨key, named, -⟩ := ((canonicalEntries_iff.mp canonical).1 entry mem).1
      exact ⟨⟨key, named, trivial⟩, CanonicalEntries.keyed entries canonical entry mem⟩

theorem CanonicalItems.keyed {P : Text → Prop} : (items : List PyValue) → CanonicalItems P items →
    KeyedItems (fun _ => True) items
  | [], _ => trivial
  | item :: rest, canonical =>
      ⟨CanonicalWith.keyed item canonical.1, CanonicalItems.keyed rest canonical.2⟩

theorem CanonicalEntries.keyed {P : Text → Prop} : (entries : List (PyValue × PyValue)) →
    CanonicalEntries P entries → ∀ entry ∈ entries, Keyed (fun _ => True) entry.2
  | [], _ => nofun
  | (k, v) :: rest, canonical => by
      obtain ⟨each, distinct⟩ := canonicalEntries_iff.mp canonical
      obtain ⟨first, later⟩ := List.forall_mem_cons.mp each
      have canonicalRest := canonicalEntries_iff.mpr ⟨later, (List.nodup_cons.mp distinct).2⟩
      exact List.forall_mem_cons.mpr
        ⟨CanonicalWith.keyed v first.2, CanonicalEntries.keyed rest canonicalRest⟩

end

mutual

/-- A value that equals a canonical one is canonical, if its keys are distinct strings. -/
theorem CanonicalWith.of_sameJson {P : Text → Prop} : (v w : PyValue) → SameJson v w →
    Keyed (fun _ => True) v → CanonicalWith P w → CanonicalWith P v
  | .none, _, _, _, _ => trivial
  | .bool _, _, _, _, _ => trivial
  | .int _, _, same, _, canonical => by
      rw [same] at canonical
      exact canonical
  | .float _ _, _, same, _, canonical => by
      rw [same] at canonical
      exact canonical
  | .bytes _, _, same, _, canonical => by
      rw [same] at canonical
      exact canonical
  | .str _, _, same, _, canonical => by
      rw [same] at canonical
      exact canonical
  | .list items, _, ⟨items', same, sameArray⟩, keyed, canonical => by
      rw [same] at canonical
      exact CanonicalItems.of_sameArray items items' sameArray keyed canonical
  | .dict entries, _, ⟨entries', same, _, sameObject⟩, keyed, canonical => by
      rw [same] at canonical
      obtain ⟨each, -⟩ := canonicalEntries_iff.mp canonical
      exact canonicalEntries_iff.mpr ⟨CanonicalEntries.of_sameObject entries entries' sameObject
        (fun entry mem => ((keyedEntries_iff.mp keyed).1 entry mem).2) each,
        (keyedEntries_iff.mp keyed).2⟩

theorem CanonicalItems.of_sameArray {P : Text → Prop} : (items items' : List PyValue) →
    SameArray items items' → KeyedItems (fun _ => True) items → CanonicalItems P items' →
    CanonicalItems P items
  | [], _, _, _, _ => trivial
  | item :: rest, _, ⟨item', rest', same, first, later⟩, keyed, canonical => by
      rw [same] at canonical
      exact ⟨CanonicalWith.of_sameJson item item' first keyed.1 canonical.1,
        CanonicalItems.of_sameArray rest rest' later keyed.2 canonical.2⟩

theorem CanonicalEntries.of_sameObject {P : Text → Prop} :
    (entries entries' : List (PyValue × PyValue)) → SameObject entries entries' →
    (∀ entry ∈ entries, Keyed (fun _ => True) entry.2) →
    (∀ entry ∈ entries', (∃ key, entry.1 = .str key ∧ P key) ∧ CanonicalWith P entry.2) →
    ∀ entry ∈ entries, (∃ key, entry.1 = .str key ∧ P key) ∧ CanonicalWith P entry.2
  | [], _, _, _, _ => nofun
  | (_, v) :: rest, entries', ⟨⟨v', mem, same⟩, later⟩, keyed, canonical => by
      obtain ⟨keyedValue, keyedRest⟩ := List.forall_mem_cons.mp keyed
      obtain ⟨named, canonicalValue⟩ := canonical _ mem
      exact List.forall_mem_cons.mpr
        ⟨⟨named, CanonicalWith.of_sameJson v v' same keyedValue canonicalValue⟩,
          CanonicalEntries.of_sameObject rest entries' later keyedRest canonical⟩

end

mutual

/-- `canonical_json` lets such a value through. -/
theorem validateCanonical_of_canonical {P : Text → Prop} : (v : PyValue) → CanonicalWith P v →
    validateCanonical v = .ok ()
  | .none, _ => rfl
  | .bool _, _ => rfl
  | .int _, _ => rfl
  | .str _, _ => rfl
  | .list items, canonical => validateItems_of_canonical items canonical
  | .dict entries, canonical => by
      obtain ⟨each, -⟩ := canonicalEntries_iff.mp canonical
      have named : (entries.all fun entry => entry.1.isStr) = true := by
        refine List.all_eq_true.mpr fun entry mem => ?_
        obtain ⟨key, same, -⟩ := (each entry mem).1
        rw [same]
        rfl
      rw [validateCanonical, if_pos named]
      exact validateEntries_of_canonical entries each

theorem validateItems_of_canonical {P : Text → Prop} : (items : List PyValue) →
    CanonicalItems P items → validateItems items = .ok ()
  | [], _ => rfl
  | item :: rest, canonical => by
      rw [validateItems, validateCanonical_of_canonical item canonical.1]
      exact validateItems_of_canonical rest canonical.2

theorem validateEntries_of_canonical {P : Text → Prop} : (entries : List (PyValue × PyValue)) →
    (∀ entry ∈ entries, (∃ key, entry.1 = .str key ∧ P key) ∧ CanonicalWith P entry.2) →
    validateEntries entries = .ok ()
  | [], _ => rfl
  | (_, v) :: rest, canonical => by
      obtain ⟨first, later⟩ := List.forall_mem_cons.mp canonical
      rw [validateEntries, validateCanonical_of_canonical v first.2]
      exact validateEntries_of_canonical rest later

end

mutual

/-- What `canonical_json` lets through holds no float. -/
theorem holdsFloat_of_validateCanonical : (v : PyValue) → validateCanonical v = .ok () →
    holdsFloat v = false
  | .none, _ => rfl
  | .bool _, _ => rfl
  | .int _, _ => rfl
  | .str _, _ => rfl
  | .bytes _, _ => rfl
  | .float true _, valid => nomatch valid
  | .float false _, valid => nomatch valid
  | .list items, valid => holdsFloat_of_validateItems items valid
  | .dict entries, valid => by
      unfold validateCanonical at valid
      split at valid
      · exact holdsFloat_of_validateEntries entries valid
      · cases valid

theorem holdsFloat_of_validateItems : (items : List PyValue) → validateItems items = .ok () →
    holdsFloatItem items = false
  | [], _ => rfl
  | item :: rest, valid => by
      unfold validateItems at valid
      obtain ⟨⟨⟩, first, later⟩ := bind_eq_ok_iff.mp valid
      exact Bool.or_eq_false_iff.mpr ⟨holdsFloat_of_validateCanonical item first,
        holdsFloat_of_validateItems rest later⟩

theorem holdsFloat_of_validateEntries : (entries : List (PyValue × PyValue)) →
    validateEntries entries = .ok () → holdsFloatEntry entries = false
  | [], _ => rfl
  | (_, v) :: rest, valid => by
      unfold validateEntries at valid
      obtain ⟨⟨⟩, first, later⟩ := bind_eq_ok_iff.mp valid
      exact Bool.or_eq_false_iff.mpr ⟨holdsFloat_of_validateCanonical v first,
        holdsFloat_of_validateEntries rest later⟩

end

/-! ## Writing -/

theorem dumpsEntries_eq_memberNames (entries : List (PyValue × PyValue)) :
    dumpsEntries entries = entries.map fun entry => (memberName entry, dumpsText entry.2) := by
  induction entries with
  | nil => rfl
  | cons entry rest ih =>
      obtain ⟨key, value⟩ := entry
      cases key <;> exact congrArg (List.cons _) ih

/-- The members that are written are those of the object, sorted. -/
theorem sortMembers_eq_sortEntries (entries : List (PyValue × PyValue)) :
    sortMembers (dumpsEntries entries) =
      (codePointOrder.sortEntries entries).map fun entry => (memberName entry, dumpsText entry.2) := by
  let before (entry entry' : PyValue × PyValue) : Prop :=
    codePointOrder.le (memberName entry) (memberName entry') = true
  let beforeText (m m' : Text × Text) : Prop := Text.le m.1 m'.1 = true
  rw [dumpsEntries_eq_memberNames]
  exact (List.map_insertionSort before beforeText
    (fun entry => (memberName entry, dumpsText entry.2)) entries fun _ _ _ _ => Iff.rfl).symm

mutual

/-- **`dumps` writes the arranged value.** -/
theorem dumpsText_eq_arranged : (v : PyValue) →
    dumpsText v = asciiWriter.value (codePointOrder.arrange v)
  | .none => rfl
  | .bool true => rfl
  | .bool false => rfl
  | .int _ => rfl
  | .float _ _ => rfl
  | .bytes _ => rfl
  | .str _ => rfl
  | .list items => by
      rw [dumpsText, TextOrder.arrange, StringWriter.value, dumpsItems_eq_arranged items]
  | .dict entries => by
      rw [dumpsText, TextOrder.arrange, StringWriter.value, StringWriter.members_eq_map,
        TextOrder.sortEntries_arrangeEntries, sortMembers_eq_sortEntries, List.map_map,
        List.map_map]
      congr 3
      refine List.map_congr_left fun entry mem => ?_
      have written := dumpsEntries_eq_arranged entries entry
        ((TextOrder.sortEntries_perm entries).mem_iff.mp mem)
      rw [Function.comp_apply, Function.comp_apply, written]
      rfl

theorem dumpsItems_eq_arranged : (items : List PyValue) →
    dumpsItems items = asciiWriter.values (codePointOrder.arrangeItems items)
  | [] => rfl
  | item :: rest => by
      rw [dumpsItems, dumpsText_eq_arranged item, dumpsItems_eq_arranged rest]
      rfl

theorem dumpsEntries_eq_arranged : (entries : List (PyValue × PyValue)) → ∀ entry ∈ entries,
    dumpsText entry.2 = asciiWriter.value (codePointOrder.arrange entry.2)
  | [] => nofun
  | (_, v) :: rest =>
      List.forall_mem_cons.mpr ⟨dumpsText_eq_arranged v, dumpsEntries_eq_arranged rest⟩

end

theorem ascii_intText (n : ℤ) : Ascii (intText n) := by
  unfold intText
  split
  · exact .cons (by decide) (ascii_decimalText _)
  · exact ascii_decimalText _

mutual

/-- The canonical text is ASCII. -/
theorem ascii_of_canonical {P : Text → Prop} : (v : PyValue) → CanonicalWith P v →
    Ascii (dumpsText v)
  | .none, _ => ascii_ofString (by decide)
  | .bool true, _ => ascii_ofString (by decide)
  | .bool false, _ => ascii_ofString (by decide)
  | .int n, _ => ascii_intText n
  | .str text, _ => ascii_quoteText text
  | .list items, canonical =>
      .cons (by decide) (.append (ascii_joinComma (asciiItems_of_canonical items canonical))
        (.cons (by decide) ascii_nil))
  | .dict entries, canonical => by
      refine .cons (by decide) (.append (ascii_joinComma fun part mem => ?_)
        (.cons (by decide) ascii_nil))
      rw [sortMembers_eq_sortEntries, List.map_map] at mem
      obtain ⟨entry, inside, rfl⟩ := List.mem_map.mp mem
      exact (ascii_quoteText _).append (.cons (by decide) (asciiEntries_of_canonical entries
        (fun entry mem => ((canonicalEntries_iff.mp canonical).1 entry mem).2) entry
        ((TextOrder.sortEntries_perm entries).mem_iff.mp inside)))

theorem asciiItems_of_canonical {P : Text → Prop} : (items : List PyValue) →
    CanonicalItems P items → ∀ part ∈ dumpsItems items, Ascii part
  | [], _ => nofun
  | item :: rest, canonical =>
      List.forall_mem_cons.mpr ⟨ascii_of_canonical item canonical.1,
        asciiItems_of_canonical rest canonical.2⟩

theorem asciiEntries_of_canonical {P : Text → Prop} : (entries : List (PyValue × PyValue)) →
    (∀ entry ∈ entries, CanonicalWith P entry.2) → ∀ entry ∈ entries, Ascii (dumpsText entry.2)
  | [], _ => nofun
  | (_, v) :: rest, canonical => by
      obtain ⟨first, later⟩ := List.forall_mem_cons.mp canonical
      exact List.forall_mem_cons.mpr
        ⟨ascii_of_canonical v first, asciiEntries_of_canonical rest later⟩

end

theorem canonicalJson_of_canonical {P : Text → Prop} {v : PyValue} (canonical : CanonicalWith P v) :
    canonicalJson v = .ok (asciiBytes (dumpsText v)) := by
  rw [canonicalJson, validateCanonical_of_canonical v canonical]
  rfl

/-! ## Reading back -/

mutual

/-- The arranged form of a canonical value is canonical. -/
theorem CanonicalWith.arrange {P : Text → Prop} {o : TextOrder} : (v : PyValue) →
    CanonicalWith P v → CanonicalWith P (o.arrange v)
  | .none, _ => trivial
  | .bool _, _ => trivial
  | .int _, short => short
  | .str _, holds => holds
  | .list items, canonical => CanonicalItems.arrange items canonical
  | .dict entries, canonical => by
      obtain ⟨each, distinct⟩ := canonicalEntries_iff.mp canonical
      refine canonicalEntries_iff.mpr ⟨fun entry mem => ?_, ?_⟩
      · exact CanonicalEntries.arrange entries each entry
          ((TextOrder.sortEntries_perm _).mem_iff.mp mem)
      · have perm := (o.sortEntries_perm (o.arrangeEntries entries)).map Prod.fst
        rw [TextOrder.arrangeEntries_keys] at perm
        exact perm.nodup_iff.mpr distinct

theorem CanonicalItems.arrange {P : Text → Prop} {o : TextOrder} : (items : List PyValue) →
    CanonicalItems P items → CanonicalItems P (o.arrangeItems items)
  | [], _ => trivial
  | item :: rest, canonical =>
      ⟨CanonicalWith.arrange item canonical.1, CanonicalItems.arrange rest canonical.2⟩

theorem CanonicalEntries.arrange {P : Text → Prop} {o : TextOrder} :
    (entries : List (PyValue × PyValue)) →
    (∀ entry ∈ entries, (∃ key, entry.1 = .str key ∧ P key) ∧ CanonicalWith P entry.2) →
    ∀ entry ∈ o.arrangeEntries entries,
      (∃ key, entry.1 = .str key ∧ P key) ∧ CanonicalWith P entry.2
  | [], _ => nofun
  | (_, v) :: rest, canonical => by
      obtain ⟨first, later⟩ := List.forall_mem_cons.mp canonical
      exact List.forall_mem_cons.mpr ⟨⟨first.1, CanonicalWith.arrange v first.2⟩,
        CanonicalEntries.arrange rest later⟩

end

section

variable {v w : PyValue}

/-- **A canonical text is read back** as the value with its members in order. -/
theorem jsonLoads_canonical (canonical : CanonicalWith Unpaired v) :
    jsonLoads (dumpsText v) = .ok (codePointOrder.arrange v) := by
  rw [dumpsText_eq_arranged]
  exact StringWriter.jsonLoads_value
    ((readable_iff_canonicalWith _).mpr (CanonicalWith.arrange v canonical))

/-- So is a canonical text with a newline at its end. -/
theorem jsonLoads_canonicalLine (canonical : CanonicalWith Unpaired v) :
    jsonLoads (dumpsText v ++ [0x0A]) = .ok (codePointOrder.arrange v) := by
  have readable : asciiWriter.Readable (codePointOrder.arrange v) :=
    (readable_iff_canonicalWith _).mpr (CanonicalWith.arrange v canonical)
  have leads := StringWriter.leads_value readable
  have read := StringWriter.scanValue_value _ readable [0x0A]
    (endsNumber_cons [] (by decide)) (dumpsText v).length.succ
    (by rw [dumpsText_eq_arranged]; omega)
  rw [← dumpsText_eq_arranged] at leads read
  have noMark : (dumpsText v ++ [0x0A]).head? ≠ some 0xFEFF := by
    obtain ⟨c, rest, text, -, -, notMark⟩ := leads.append [0x0A]
    rw [text]
    exact fun same => notMark (Option.some.inj same)
  rw [jsonLoads, if_neg noMark, (leads.append [0x0A]).skipSpace, List.length_append]
  exact bind_eq_ok_iff.mpr ⟨_, read, rfl⟩

theorem asciiBytes_line (text : Text) : asciiBytes text ++ [0x0A] = asciiBytes (text ++ [0x0A]) := by
  rw [asciiBytes, asciiBytes, List.map_append]
  rfl

theorem utf8Decode_canonicalLine {P : Text → Prop} (canonical : CanonicalWith P v) :
    utf8Decode (asciiBytes (dumpsText v) ++ [0x0A]) = .ok (dumpsText v ++ [0x0A]) := by
  rw [asciiBytes_line]
  exact utf8Decode_asciiBytes
    ((ascii_of_canonical v canonical).append (.cons (by decide) ascii_nil))

theorem dumpsText_of_sameJson (keyed : Keyed (fun _ => True) v) (same : SameJson v w) :
    dumpsText v = dumpsText w := by
  rw [dumpsText_eq_arranged, dumpsText_eq_arranged,
    @TextOrder.arrange_eq_of_sameJson codePointOrder v w keyed same]

/-- **Two values have one canonical text exactly if they are equal.** -/
theorem canonicalJson_eq_iff (canonical : CanonicalWith Unpaired v)
    (canonical' : CanonicalWith Unpaired w) : canonicalJson v = canonicalJson w ↔ SameJson v w := by
  rw [canonicalJson_of_canonical canonical, canonicalJson_of_canonical canonical']
  constructor
  · intro bytes
    have decoded := utf8Decode_asciiBytes (ascii_of_canonical v canonical)
    rw [Except.ok.inj bytes, utf8Decode_asciiBytes (ascii_of_canonical w canonical')] at decoded
    have read := jsonLoads_canonical canonical
    rw [← Except.ok.inj decoded, jsonLoads_canonical canonical'] at read
    exact TextOrder.sameJson_of_arrange_eq v w (Except.ok.inj read).symm
  · intro same
    rw [dumpsText_of_sameJson (CanonicalWith.keyed v canonical) same]

/-- **Canonical JSON separates the values it writes.**  The canonical bytes of a value are read
back as an equal value, whose canonical bytes are the same again; and among the values that can be
written, exactly the equal ones have these bytes. -/
theorem canonicalJson_separates {v : PyValue} (canonical : CanonicalWith Unpaired v) :
    ∃ data text parsed, canonicalJson v = .ok data ∧ utf8Decode data = .ok text ∧
      jsonLoads text = .ok parsed ∧ SameJson parsed v ∧ canonicalJson parsed = .ok data ∧
      ∀ w, CanonicalWith Unpaired w → (canonicalJson w = .ok data ↔ SameJson w v) := by
  have written := canonicalJson_of_canonical canonical
  refine ⟨_, _, _, written, utf8Decode_asciiBytes (ascii_of_canonical v canonical),
    jsonLoads_canonical canonical, TextOrder.sameJson_arrange v, ?_, fun w canonical' => ?_⟩
  · rw [← written]
    exact (canonicalJson_eq_iff (CanonicalWith.arrange v canonical) canonical).mpr
      (TextOrder.sameJson_arrange v)
  · rw [← written]
    exact canonicalJson_eq_iff canonical' canonical

/-- Two members, in either order. -/
theorem canonicalJson_separates_sample :
    let b := (.str (Text.ofString "b"), .int 1)
    let a := (.str (Text.ofString "a"), .bool true)
    ∃ data, canonicalJson (.dict [b, a]) = .ok data ∧
      (canonicalJson (.dict [a, b]) = .ok data ↔ SameJson (.dict [a, b]) (.dict [b, a])) := by
  intro b a
  have single (letter : Text) (one : letter.length = 1) : Unpaired letter := by
    obtain ⟨c, rfl⟩ := List.length_eq_one_iff.mp one
    exact List.isChain_singleton c
  have ofB : Unpaired (Text.ofString "b") := single _ (by decide)
  have ofA : Unpaired (Text.ofString "a") := single _ (by decide)
  have short : CanonicalWith Unpaired (.int 1) := by
    change (decimalText 1).length ≤ intMaxStrDigits
    decide
  have canonical : CanonicalWith Unpaired (.dict [b, a]) :=
    ⟨ofB, short, ⟨ofA, trivial, trivial, by simp⟩, by simp [a]; decide⟩
  have canonical' : CanonicalWith Unpaired (.dict [a, b]) :=
    ⟨ofA, trivial, ⟨ofB, short, trivial, by simp⟩, by simp [b]; decide⟩
  obtain ⟨data, -, -, written, -, -, -, -, same⟩ := canonicalJson_separates canonical
  exact ⟨data, written, same _ canonical'⟩

end

/-- What was read and is let through can be written and read back. -/
theorem canonical_of_jsonLoads {text : Text} {v : PyValue} (scalar : Scalar text)
    (read : jsonLoads text = .ok v) (valid : validateCanonical v = .ok ()) :
    CanonicalWith Unpaired v :=
  (readable_iff_canonicalWith v).mp
    (readable_of_jsonLoads scalar read (holdsFloat_of_validateCanonical v valid))

end CubeNano

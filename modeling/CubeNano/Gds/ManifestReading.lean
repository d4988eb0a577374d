import CubeNano.Gds.ManifestRoundTrip

/-!
# Manifests and the bytes they were read from

`from_bytes` compares the received bytes with the canonical form of the value that they write, not
with the manifest that it makes of the value.  It accepts `true` as the schema version, prints and
converts fields of other types, folds the case of digests and drops the members of artifacts and
identities that it does not know.  So the bytes of the manifest are the received ones exactly for
an object that holds the fields of the envelope in their own types, and in them nothing else.

## Main definitions

* `ProductManifest.ReadFrom` — what an accepted object says of its manifest
* `ProductManifest.isStrictEnvelope` — an object that a manifest writes

## Main statements

* `ProductManifest.ReadFrom.toBytes_iff` — when the bytes of the manifest are the received ones
* `ProductManifest.bytes_iff` — when a manifest and its bytes determine each other
-/

namespace CubeNano

namespace ProductManifest

/-! ## What is read -/

section

variable (table : CharacterTable)

/-- What an accepted object says of its manifest. -/
structure ReadFrom (entries : PyDict) (raw : Bytes) (m : ProductManifest) : Prop where
  canonical : CanonicalWith Unpaired (.dict entries)
  bytes : raw = asciiBytes (dumpsText (.dict entries)) ++ [0x0A]
  version : pyEq (dictGet entries "schema_version") (.int 1) = true
  artifacts : ∃ items, dictGet entries "artifacts" = .list items ∧
    readArtifacts table items = .ok m.artifacts
  productRef : ProductRef.fromDict (dictGet entries "product_ref") = .ok m.productRef
  originRequestKey :
    RequestKey.fromDict (dictGet entries "origin_request_key") = .ok m.originRequestKey
  productType : m.productType = pyStr table ((dictGet? entries "product_type").getD (.str []))
  metadata : m.metadata = metadataOf entries

end

variable {table : CharacterTable}

theorem decode_eq_ok {raw : Bytes} {value : PyValue} (done : decode raw = .ok value) :
    ∃ text, utf8Decode raw = .ok text ∧ jsonLoads text = .ok value := by
  unfold decode at done
  split at done
  · rename_i read
    cases done
    exact bind_eq_ok_iff.mp read
  · split at done
    · cases done
    · cases done

theorem checkSchema_eq_ok {value : PyValue} {entries : PyDict}
    (done : checkSchema value = .ok entries) :
    value = .dict entries ∧ pyEq (dictGet entries "schema_version") (.int 1) = true := by
  unfold checkSchema at done
  split at done
  · split at done
    · cases done
      exact ⟨rfl, by assumption⟩
    · cases done
  · cases done

theorem checkCanonical_eq_ok {entries : PyDict} {raw : Bytes}
    (done : checkCanonical entries raw = .ok ()) :
    validateCanonical (.dict entries) = .ok () ∧
      raw = asciiBytes (dumpsText (.dict entries)) ++ [0x0A] := by
  obtain ⟨encoded, written, done⟩ := bind_eq_ok_iff.mp done
  obtain ⟨⟨⟩, valid, written⟩ := bind_eq_ok_iff.mp written
  cases written
  split at done
  · cases done
  · rename_i same
    exact ⟨valid, (not_not.mp same).symm⟩

theorem rawArtifacts_eq_ok {entries : PyDict} {items : List PyValue}
    (done : rawArtifacts entries = .ok items) : dictGet entries "artifacts" = .list items := by
  unfold rawArtifacts at done
  split at done
  · rename_i found
    cases done
    exact found
  · cases done

/-- **What `from_bytes` accepts.** -/
theorem readFrom_of_fromBytes {raw : Bytes} {m : ProductManifest}
    (done : fromBytes table raw = .ok m) :
    ∃ entries, decode raw = .ok (.dict entries) ∧ ReadFrom table entries raw m := by
  obtain ⟨value, decoded, done⟩ := bind_eq_ok_iff.mp done
  obtain ⟨entries, schema, done⟩ := bind_eq_ok_iff.mp done
  obtain ⟨⟨⟩, canonicalBytes, done⟩ := bind_eq_ok_iff.mp done
  obtain ⟨items, found, done⟩ := bind_eq_ok_iff.mp done
  obtain ⟨artifacts, readItems, done⟩ := bind_eq_ok_iff.mp done
  obtain ⟨productRef, readRef, done⟩ := bind_eq_ok_iff.mp done
  obtain ⟨originRequestKey, readKey, made⟩ := bind_eq_ok_iff.mp done
  obtain ⟨text, decodedText, loaded⟩ := decode_eq_ok decoded
  obtain ⟨rfl, version⟩ := checkSchema_eq_ok schema
  obtain ⟨valid, bytes⟩ := checkCanonical_eq_ok canonicalBytes
  obtain ⟨type, rfl, rfl, rfl, metadata⟩ := of_new_eq_ok made
  exact ⟨entries, decoded,
    { canonical := canonical_of_jsonLoads (scalar_of_utf8Decode decodedText).1 loaded valid
      bytes := bytes
      version := version
      artifacts := ⟨items, rawArtifacts_eq_ok found, readItems⟩
      productRef := readRef
      originRequestKey := readKey
      productType := type
      metadata := metadata }⟩

theorem canonical_dictGet {P : Text → Prop} {entries : PyDict}
    (canonical : CanonicalWith P (.dict entries)) (key : String) :
    CanonicalWith P (dictGet entries key) := by
  unfold dictGet
  cases found : dictGet? entries key with
  | none => exact trivial
  | some value => exact ((canonicalEntries_iff.mp canonical).1 _ (mem_of_dictGet? found)).2

theorem mem_of_dictGet {entries : PyDict} {key : String} {value : PyValue}
    (found : dictGet entries key = value) (present : value ≠ .none) :
    (strKey key, value) ∈ entries := by
  unfold dictGet at found
  cases stored : dictGet? entries key with
  | none =>
      rw [stored] at found
      exact absurd found.symm present
  | some other =>
      rw [stored] at found
      obtain rfl : other = value := found
      exact mem_of_dictGet? stored

theorem str_ne_none (text : Text) : PyValue.str text ≠ .none := by
  intro same
  cases same

theorem int_ne_none (n : ℤ) : PyValue.int n ≠ .none := by
  intro same
  cases same

theorem list_ne_none (items : List PyValue) : PyValue.list items ≠ .none := by
  intro same
  cases same

theorem unicodeDecimal?_lt {c : CodePoint} {d : ℕ} (value : unicodeDecimal? c = some d) :
    d < 10 := by
  obtain ⟨first, found, rfl⟩ := Option.map_eq_some_iff.mp value
  have range := List.find?_some found
  simp only [decide_eq_true_eq] at range
  omega

theorem underscoredDigits?_lt {text : Text} {digits : List ℕ}
    (read : underscoredDigits? text = some digits) : digits ≠ [] ∧ ∀ d ∈ digits, d < 10 := by
  fun_induction underscoredDigits? text generalizing digits with
  | case1 => cases read
  | case2 c =>
      obtain ⟨d, value, rfl⟩ := Option.map_eq_some_iff.mp read
      exact ⟨nofun, fun d' mem => List.mem_singleton.mp mem ▸ unicodeDecimal?_lt value⟩
  | case3 c c' rest absent => cases read
  | case4 c rest d value ih =>
      obtain ⟨later, others, rfl⟩ := Option.map_eq_some_iff.mp read
      exact ⟨nofun, List.forall_mem_cons.mpr ⟨unicodeDecimal?_lt value, (ih others).2⟩⟩
  | case5 c c' rest d value other ih =>
      obtain ⟨later, others, rfl⟩ := Option.map_eq_some_iff.mp read
      exact ⟨nofun, List.forall_mem_cons.mpr ⟨unicodeDecimal?_lt value, (ih others).2⟩⟩

/-- What `int` returns has no more digits than it takes. -/
theorem short_of_pyInt {P : Text → Prop} {v : PyValue} {n : ℤ} (canonical : CanonicalWith P v)
    (read : pyInt v = .ok n) : (decimalText n.natAbs).length ≤ intMaxStrDigits := by
  cases v with
  | int value =>
      cases read
      exact canonical
  | bool value =>
      cases read
      cases value <;> decide
  | str text =>
      change intOfText text = .ok n at read
      unfold intOfText at read
      dsimp only at read
      split at read
      · cases read
      · rename_i digits found
        obtain ⟨nonempty, small⟩ := underscoredDigits?_lt found
        exact intOfLiteral_readable small nonempty read
  | _ => cases read

theorem readArtifact_eq_ok {fields : PyDict} {a : ArtifactDescriptor}
    (done : readArtifact table fields = .ok a) :
    a.path = pyStr table (dictGet fields "path") ∧ pyInt (dictGet fields "size") = .ok a.size ∧
      a.sha256 = lowerStr ((dictGet? fields "sha256").getD (.str [])) := by
  obtain ⟨path, normal, done⟩ := bind_eq_ok_iff.mp done
  obtain ⟨size, read, done⟩ := bind_eq_ok_iff.mp done
  obtain ⟨rfl, rfl, sha256⟩ := ArtifactDescriptor.of_new_eq_ok done
  exact ⟨(normalizeArtifactPath_eq_ok normal).1, read, sha256⟩

theorem forall₂_of_filterMap {items : List PyValue} {artifacts : List ArtifactDescriptor}
    (pairs : List.Forall₂ (fun fields a => readArtifact table fields = .ok a)
      (items.filterMap mapping?) artifacts)
    (complete : (items.filterMap mapping?).length = items.length) :
    List.Forall₂ (fun item a => ∃ fields, item = .dict fields ∧ readArtifact table fields = .ok a)
      items artifacts := by
  induction items generalizing artifacts with
  | nil =>
      cases pairs
      exact .nil
  | cons item rest ih =>
      have shorter : (rest.filterMap mapping?).length ≤ rest.length := List.length_filterMap_le _ _
      cases object : mapping? item with
      | none =>
          rw [List.filterMap_cons_none object, List.length_cons] at complete
          omega
      | some fields =>
          rw [List.filterMap_cons_some object, List.length_cons, List.length_cons] at complete
          rw [List.filterMap_cons_some object] at pairs
          cases pairs with
          | cons first later =>
              refine .cons ⟨fields, ?_, first⟩ (ih later (by omega))
              cases item <;> cases object
              rfl

/-- Every entry of the array is an object, read as the artifact in its place. -/
theorem readArtifacts_eq_ok {items : List PyValue} {artifacts : List ArtifactDescriptor}
    (done : readArtifacts table items = .ok artifacts) :
    List.Forall₂ (fun item a => ∃ fields, item = .dict fields ∧ readArtifact table fields = .ok a)
      items artifacts := by
  obtain ⟨read, each, done⟩ := bind_eq_ok_iff.mp done
  split at done
  · cases done
  rename_i complete
  cases done
  have pairs := ExceptFold.mapM_eq_ok_iff.mp each
  exact forall₂_of_filterMap pairs (pairs.length_eq.trans (not_not.mp complete))

/-- A manifest that was read can be written. -/
theorem ReadFrom.writable {entries : PyDict} {raw : Bytes} {m : ProductManifest}
    (read : ReadFrom table entries raw m) : m.Writable Unpaired where
  productType := by
    rw [read.productType]
    have canonical := canonical_dictGet read.canonical "product_type"
    unfold dictGet at canonical
    cases found : dictGet? entries "product_type" with
    | none => exact .nil
    | some value =>
        rw [found] at canonical
        exact unpaired_pyStr table canonical
  sizes := by
    intro a mem
    obtain ⟨items, found, readItems⟩ := read.artifacts
    have canonical := canonical_dictGet read.canonical "artifacts"
    rw [found] at canonical
    obtain ⟨item, inside, fields, rfl, readFields⟩ :=
      ExceptFold.exists_of_forall₂_right (readArtifacts_eq_ok readItems) mem
    have object := canonicalItems_iff_forall.mp canonical _ inside
    exact short_of_pyInt (canonical_dictGet object "size") (readArtifact_eq_ok readFields).2.1
  metadata := by
    obtain ⟨each, distinct⟩ := canonicalEntries_iff.mp read.canonical
    rw [read.metadata]
    refine canonicalEntries_iff.mpr ⟨fun entry mem => each entry (List.mem_of_mem_filter mem), ?_⟩
    exact distinct.sublist (List.filter_sublist.map Prod.fst)

/-! ## Which bytes are those of the manifest -/

/-- Whether a value is an integer, which `True` is not here. -/
def isInteger : PyValue → Bool
  | .int _ => true
  | _ => false

/-- Whether a value is a string in which `lower` changes no hexadecimal digit. -/
def isLowered : PyValue → Bool
  | .str text => lowerHexText text = text
  | _ => false

/-- Whether a value is an object of so many members. -/
def hasMembers (n : ℕ) : PyValue → Bool
  | .dict fields => fields.length = n
  | _ => false

/-- An artifact entry with its three fields and no others, in their own types. -/
def isArtifactEntry : PyValue → Bool
  | .dict fields =>
      fields.length = 3 && (dictGet fields "path").isStr && isInteger (dictGet fields "size") &&
        isLowered (dictGet fields "sha256")
  | _ => false

/-- Whether a value is an array of such entries. -/
def isArtifactArray : PyValue → Bool
  | .list items => items.all isArtifactEntry
  | _ => false

/-- An object that holds the envelope's fields in their own types, and nothing that is dropped. -/
def isStrictEnvelope (entries : PyDict) : Bool :=
  isInteger (dictGet entries "schema_version") && (dictGet entries "product_type").isStr &&
    hasMembers 3 (dictGet entries "product_ref") &&
    hasMembers 2 (dictGet entries "origin_request_key") &&
    isArtifactArray (dictGet entries "artifacts")

theorem sameJson_dict_iff {fields entries : PyDict} :
    SameJson (.dict fields) (.dict entries) ↔ fields.length = entries.length ∧
      ∀ entry ∈ fields, ∃ value, (entry.1, value) ∈ entries ∧ SameJson entry.2 value := by
  constructor
  · rintro ⟨entries', same, length, each⟩
    cases same
    exact ⟨length, sameObject_iff.mp each⟩
  · rintro ⟨length, each⟩
    exact ⟨entries, rfl, length, sameObject_iff.mpr each⟩

theorem sameArray_iff {items items' : List PyValue} :
    SameArray items items' ↔ List.Forall₂ SameJson items items' := by
  induction items generalizing items' with
  | nil => exact List.forall₂_nil_left_iff.symm
  | cons item rest ih =>
      rw [List.forall₂_cons_left_iff]
      constructor
      · rintro ⟨item', rest', rfl, first, later⟩
        exact ⟨item', rest', first, ih.mp later, rfl⟩
      · rintro ⟨item', rest', first, later, rfl⟩
        exact ⟨item', rest', rfl, first, ih.mpr later⟩

section

variable {entries : PyDict} (distinct : (entries.map Prod.fst).Nodup)

include distinct

/-- What an object that equals one with a field holds under its name. -/
theorem sameJson_dictGet {fields : PyDict} (same : SameJson (.dict fields) (.dict entries))
    {key : String} {value : PyValue} (mem : (strKey key, value) ∈ fields) :
    SameJson value (dictGet entries key) := by
  obtain ⟨value', mem', sameValue⟩ := (sameJson_dict_iff.mp same).2 _ mem
  rw [dictGet, dictGet?_of_mem distinct mem']
  exact sameValue

end

theorem sameJson_productRef_iff {value : PyValue} {r : ProductRef}
    (read : ProductRef.fromDict value = .ok r) :
    SameJson r.asDict value ↔ hasMembers 3 value = true := by
  unfold ProductRef.fromDict at read
  split at read
  · rename_i fields
    obtain ⟨spacecraft, first, read⟩ := bind_eq_ok_iff.mp read
    obtain ⟨boot, second, read⟩ := bind_eq_ok_iff.mp read
    obtain ⟨product, third, read⟩ := bind_eq_ok_iff.mp read
    cases read
    have mem₁ := mem_of_dictGet (u64FromJson_eq_ok first) (str_ne_none _)
    have mem₂ := mem_of_dictGet (checkedU32_eq_ok second) (int_ne_none _)
    have mem₃ := mem_of_dictGet (checkedU32_eq_ok third) (int_ne_none _)
    rw [ProductRef.asDict, sameJson_dict_iff, hasMembers, decide_eq_true_eq]
    refine ⟨fun same => same.1.symm, fun length => ⟨length.symm, ?_⟩⟩
    simp only [List.forall_mem_cons, List.not_mem_nil, false_implies, implies_true, and_true]
    exact ⟨⟨_, mem₁, rfl⟩, ⟨_, mem₂, rfl⟩, _, mem₃, rfl⟩
  · cases read

theorem sameJson_requestKey_iff {value : PyValue} {k : RequestKey}
    (read : RequestKey.fromDict value = .ok k) :
    SameJson k.asDict value ↔ hasMembers 2 value = true := by
  obtain ⟨fields, mapped, read⟩ := bind_eq_ok_iff.mp read
  obtain ⟨ground, first, read⟩ := bind_eq_ok_iff.mp read
  obtain ⟨request, second, read⟩ := bind_eq_ok_iff.mp read
  cases read
  unfold requireMapping at mapped
  split at mapped
  · cases mapped
    have mem₁ := mem_of_dictGet (u64FromJson_eq_ok first) (str_ne_none _)
    have mem₂ := mem_of_dictGet (checkedU32_eq_ok second) (int_ne_none _)
    rw [RequestKey.asDict, sameJson_dict_iff, hasMembers, decide_eq_true_eq]
    refine ⟨fun same => same.1.symm, fun length => ⟨length.symm, ?_⟩⟩
    simp only [List.forall_mem_cons, List.not_mem_nil, false_implies, implies_true, and_true]
    exact ⟨⟨_, mem₁, rfl⟩, _, mem₂, rfl⟩
  · cases mapped

theorem sameJson_artifact_iff {fields : PyDict} {a : ArtifactDescriptor}
    (distinct : (fields.map Prod.fst).Nodup) (read : readArtifact table fields = .ok a) :
    SameJson a.asDict (.dict fields) ↔ isArtifactEntry (.dict fields) = true := by
  obtain ⟨path, size, sha256⟩ := readArtifact_eq_ok read
  have lowered := lowerHexText_of_hex a.isLowerHex_sha256
  simp only [isArtifactEntry, Bool.and_eq_true, decide_eq_true_eq]
  constructor
  · intro same
    have path' : SameJson (.str a.path) (dictGet fields "path") :=
      sameJson_dictGet distinct same (by simp)
    have size' : SameJson (.int a.size) (dictGet fields "size") :=
      sameJson_dictGet distinct same (by simp)
    have sha256' : SameJson (.str a.sha256) (dictGet fields "sha256") :=
      sameJson_dictGet distinct same (by simp)
    have samePath : dictGet fields "path" = .str a.path := path'
    have sameSize : dictGet fields "size" = .int a.size := size'
    have sameSha : dictGet fields "sha256" = .str a.sha256 := sha256'
    rw [samePath, sameSize, sameSha]
    exact ⟨⟨⟨(sameJson_dict_iff.mp same).1.symm, rfl⟩, rfl⟩, decide_eq_true lowered⟩
  · rintro ⟨⟨⟨length, isPath⟩, isSize⟩, isSha⟩
    cases foundPath : dictGet fields "path" with
    | str text =>
        cases foundSize : dictGet fields "size" with
        | int n =>
            cases foundSha : dictGet fields "sha256" with
            | str digest =>
                rw [foundPath] at path
                rw [foundSize] at size
                rw [foundSha] at isSha
                have samePath : a.path = text := path
                have sameSize : n = a.size := Except.ok.inj size
                have sameSha : a.sha256 = digest := by
                  have mem := mem_of_dictGet foundSha (str_ne_none _)
                  rw [dictGet?_of_mem distinct mem] at sha256
                  exact sha256.trans (of_decide_eq_true isSha)
                rw [ArtifactDescriptor.asDict, sameJson_dict_iff]
                refine ⟨length.symm, ?_⟩
                simp only [List.forall_mem_cons, List.not_mem_nil, false_implies, implies_true,
                  and_true]
                refine ⟨⟨_, mem_of_dictGet foundPath (str_ne_none _), congrArg _ samePath.symm⟩,
                  ⟨_, mem_of_dictGet foundSize (int_ne_none _), congrArg _ sameSize⟩,
                  _, mem_of_dictGet foundSha (str_ne_none _), congrArg _ sameSha.symm⟩
            | _ => rw [foundSha] at isSha; cases isSha
        | _ => rw [foundSize] at isSize; cases isSize
    | _ => rw [foundPath] at isPath; cases isPath

theorem sameJson_artifacts_iff {items : List PyValue} {artifacts : List ArtifactDescriptor}
    (canonical : CanonicalWith Unpaired (.list items))
    (read : readArtifacts table items = .ok artifacts) :
    SameJson (.list (artifacts.map ArtifactDescriptor.asDict)) (.list items) ↔
      isArtifactArray (.list items) = true := by
  have pairs := readArtifacts_eq_ok read
  have each := canonicalItems_iff_forall.mp canonical
  have array : SameJson (.list (artifacts.map ArtifactDescriptor.asDict)) (.list items) ↔
      SameArray (artifacts.map ArtifactDescriptor.asDict) items := by
    constructor
    · rintro ⟨items', same, sameArray⟩
      cases same
      exact sameArray
    · exact fun sameArray => ⟨items, rfl, sameArray⟩
  rw [array, sameArray_iff, List.forall₂_map_left_iff, isArtifactArray, List.all_eq_true]
  clear read array canonical
  induction pairs with
  | nil => simp
  | @cons item a rest artifacts first _ ih =>
      obtain ⟨fields, rfl, readFields⟩ := first
      obtain ⟨canonicalFields, later⟩ := List.forall_mem_cons.mp each
      have distinct := (canonicalEntries_iff.mp canonicalFields).2
      rw [List.forall₂_cons, List.forall_mem_cons]
      exact and_congr (sameJson_artifact_iff distinct readFields) (ih later)

/-- An object that has all fields of the envelope has as many members as they and the metadata. -/
theorem length_of_fields {entries : PyDict} (distinct : (entries.map Prod.fst).Nodup)
    (all : ∀ name ∈ envelopeFields, strKey name ∈ entries.map Prod.fst) :
    entries.length = 5 + (metadataOf entries).length := by
  have parts := List.length_eq_length_filter_add (l := entries) fun entry => isEnvelopeField entry.1
  have keys : (entries.filter fun entry => isEnvelopeField entry.1).map Prod.fst =
      (entries.map Prod.fst).filter isEnvelopeField := by
    rw [List.filter_map]
    rfl
  have perm : ((entries.map Prod.fst).filter isEnvelopeField).Perm (envelopeFields.map strKey) := by
    refine (List.perm_ext_iff_of_nodup (distinct.filter _)
      (nodup_strKeys envelopeFields (by decide))).mpr fun key => ?_
    rw [List.mem_filter, isEnvelopeField_iff]
    refine ⟨fun both => both.2, fun field => ⟨?_, field⟩⟩
    obtain ⟨name, mem, rfl⟩ := List.mem_map.mp field
    exact all name mem
  have five : (entries.filter fun entry => isEnvelopeField entry.1).length = 5 := by
    rw [← List.length_map Prod.fst, keys, perm.length_eq]
    rfl
  rw [parts, five]
  rfl

theorem SameJson.refl (v : PyValue) : SameJson v v :=
  TextOrder.sameJson_of_arrange_eq (o := codePointOrder) v v rfl

theorem exists_of_isStr {v : PyValue} (isStr : v.isStr = true) : ∃ text, v = .str text := by
  cases v with
  | str text => exact ⟨text, rfl⟩
  | _ => cases isStr

theorem exists_of_isInteger {v : PyValue} (isInt : isInteger v = true) : ∃ n, v = .int n := by
  cases v with
  | int n => exact ⟨n, rfl⟩
  | _ => cases isInt

theorem pyEq_int_iff {n n' : ℤ} : pyEq (.int n) (.int n') = true ↔ n = n' := by
  change decide ((n : ℚ) = (n' : ℚ)) = true ↔ n = n'
  rw [decide_eq_true_eq, Int.cast_inj]

/-- The manifest writes the object it was read from, exactly if that is a strict envelope. -/
theorem ReadFrom.sameJson_iff {entries : PyDict} {raw : Bytes} {m : ProductManifest}
    (read : ReadFrom table entries raw m) :
    SameJson (.dict m.asDict) (.dict entries) ↔ isStrictEnvelope entries = true := by
  have distinct := (canonicalEntries_iff.mp read.canonical).2
  obtain ⟨items, found, readItems⟩ := read.artifacts
  have canonicalItems := canonical_dictGet read.canonical "artifacts"
  rw [found] at canonicalItems
  have artifacts := sameJson_artifacts_iff canonicalItems readItems
  have productRef := sameJson_productRef_iff read.productRef
  have originKey := sameJson_requestKey_iff read.originRequestKey
  simp only [isStrictEnvelope, Bool.and_eq_true, ← productRef, ← originKey, found, ← artifacts]
  constructor
  · intro same
    have held {key : String} {value : PyValue} (mem : (strKey key, value) ∈ m.envelope) :
        SameJson value (dictGet entries key) := by
      refine sameJson_dictGet distinct same ?_
      rw [m.asDict_eq]
      exact List.mem_append_left _ mem
    have version : dictGet entries "schema_version" = .int m.schemaVersion :=
      held (by simp [envelope] : (_, PyValue.int m.schemaVersion) ∈ m.envelope)
    have productType : dictGet entries "product_type" = .str m.productType :=
      held (by simp [envelope] : (_, PyValue.str m.productType) ∈ m.envelope)
    have heldArtifacts := held (by simp [envelope] :
      (strKey "artifacts", PyValue.list (m.artifacts.map ArtifactDescriptor.asDict)) ∈ m.envelope)
    rw [found] at heldArtifacts
    rw [version, productType]
    exact ⟨⟨⟨⟨rfl, rfl⟩,
      held (by simp [envelope] : (strKey "product_ref", m.productRef.asDict) ∈ m.envelope)⟩,
      held (by simp [envelope] :
        (strKey "origin_request_key", m.originRequestKey.asDict) ∈ m.envelope)⟩, heldArtifacts⟩
  · rintro ⟨⟨⟨⟨isVersion, isType⟩, sameRef⟩, sameKey⟩, sameArtifacts⟩
    obtain ⟨type, foundType⟩ := exists_of_isStr isType
    obtain ⟨version, foundVersion⟩ := exists_of_isInteger isVersion
    have one : version = m.schemaVersion := by
      have equal := read.version
      rw [foundVersion] at equal
      rw [m.schemaVersion_eq]
      exact pyEq_int_iff.mp equal
    have typed : type = m.productType := by
      have mem := mem_of_dictGet foundType (str_ne_none _)
      rw [read.productType, dictGet?_of_mem distinct mem]
      rfl
    have memVersion := mem_of_dictGet foundVersion (int_ne_none _)
    have memType := mem_of_dictGet foundType (str_ne_none _)
    have present {value : PyValue} {fields : PyDict} (same : SameJson (.dict fields) value) :
        value ≠ .none := by
      obtain ⟨fields', rfl, -⟩ := same
      intro absent
      cases absent
    have memRef : (strKey "product_ref", dictGet entries "product_ref") ∈ entries :=
      mem_of_dictGet rfl (present sameRef)
    have memKey : (strKey "origin_request_key", dictGet entries "origin_request_key") ∈ entries :=
      mem_of_dictGet rfl (present sameKey)
    have memArtifacts := mem_of_dictGet found (list_ne_none _)
    rw [sameJson_dict_iff, m.asDict_eq]
    refine ⟨?_, List.forall_mem_append.mpr ⟨?_, fun entry mem => ?_⟩⟩
    · rw [length_of_fields distinct ?_, List.length_append, read.metadata]
      · rfl
      · simp only [envelopeFields, List.forall_mem_cons, List.not_mem_nil, false_implies,
          implies_true, and_true]
        exact ⟨List.mem_map_of_mem memVersion, List.mem_map_of_mem memType,
          List.mem_map_of_mem memRef, List.mem_map_of_mem memKey, List.mem_map_of_mem memArtifacts⟩
    · simp only [envelope, List.forall_mem_cons, List.not_mem_nil, false_implies, implies_true,
        and_true]
      exact ⟨⟨_, memVersion, congrArg _ one⟩, ⟨_, memType, congrArg _ typed⟩, ⟨_, memRef, sameRef⟩,
        ⟨_, memKey, sameKey⟩, _, memArtifacts, sameArtifacts⟩
    · rw [read.metadata] at mem
      exact ⟨entry.2, List.mem_of_mem_filter mem, SameJson.refl entry.2⟩

/-- **The bytes of the manifest** are the received ones exactly for a strict envelope. -/
theorem ReadFrom.toBytes_iff {entries : PyDict} {raw : Bytes} {m : ProductManifest}
    (read : ReadFrom table entries raw m) :
    m.toBytes = .ok raw ↔ isStrictEnvelope entries = true := by
  have canonical : CanonicalWith Unpaired (.dict m.asDict) :=
    read.writable.canonical fun text ascii => unpaired_of_scalar (scalar_of_ascii ascii)
  rw [← read.sameJson_iff, ← canonicalJson_eq_iff canonical read.canonical, toBytes, read.bytes,
    canonicalJson_of_canonical canonical, canonicalJson_of_canonical read.canonical]
  constructor
  · intro same
    exact congrArg Except.ok (List.append_cancel_right (Except.ok.inj same))
  · intro same
    rw [Except.ok.inj same]
    rfl

/-! ## Both directions -/

/-- A manifest that is read back is writable, if its metadata is canonical. -/
theorem writable_of_same {m m' : ProductManifest} {raw : Bytes}
    (canonical : CanonicalWith (fun _ => True) (.dict m.metadata))
    (read : fromBytes table raw = .ok m') (same : m.Same m') : m.Writable Unpaired := by
  obtain ⟨entries, -, readFrom⟩ := readFrom_of_fromBytes read
  have writable := readFrom.writable
  exact
    { productType := same.productType ▸ writable.productType
      sizes := same.artifacts ▸ writable.sizes
      metadata := CanonicalWith.of_sameJson _ _ same.metadata (CanonicalWith.keyed _ canonical)
        writable.metadata }

/-- Whether bytes write a strict envelope. -/
def isStrict (raw : Bytes) : Bool :=
  match decode raw with
  | .ok (.dict entries) => isStrictEnvelope entries
  | _ => false

/-- **A manifest and its bytes.**  A manifest with canonical metadata is read back from its bytes
exactly if it is writable, and accepted bytes are written back exactly if they are strict. -/
theorem bytes_iff (table : CharacterTable) :
    (∀ m : ProductManifest, CanonicalWith (fun _ => True) (.dict m.metadata) →
      ((∃ m', (m.toBytes >>= fromBytes table) = .ok m' ∧ m.Same m') ↔ m.Writable Unpaired)) ∧
    ∀ (raw : Bytes) (m : ProductManifest), fromBytes table raw = .ok m →
      (m.toBytes = .ok raw ↔ isStrict raw = true) := by
  refine ⟨fun m canonical => ⟨?_, fun writable => ?_⟩, fun raw m read => ?_⟩
  · rintro ⟨m', done, same⟩
    obtain ⟨raw, -, read⟩ := bind_eq_ok_iff.mp done
    exact writable_of_same canonical read same
  · obtain ⟨raw, m', written, read, same⟩ := m.fromBytes_toBytes table writable
    exact ⟨m', bind_eq_ok_iff.mpr ⟨raw, written, read⟩, same⟩
  · obtain ⟨entries, decoded, readFrom⟩ := readFrom_of_fromBytes read
    rw [isStrict, decoded]
    exact readFrom.toBytes_iff

/-! A manifest without metadata, and a line that is accepted and not written back. -/

theorem sample_checked : checkManifest (Text.ofString "X") [] [] 1 = .ok () := by decide +kernel

def sample : ProductManifest where
  productType := Text.ofString "X"
  productRef := ⟨1, 1, 1⟩
  originRequestKey := ⟨1, 1⟩
  artifacts := []
  metadata := []
  schemaVersion := 1
  checked := sample_checked

theorem sample_writable : sample.Writable Unpaired where
  productType := unpaired_of_scalar (scalar_of_ascii (ascii_ofString (by decide)))
  sizes := nofun
  metadata := trivial

theorem bytes_iff_sample :
    ((∃ m', (sample.toBytes >>= fromBytes .ascii) = .ok m' ∧ sample.Same m') ↔
      sample.Writable Unpaired) ∧
    ∃ raw m, fromBytes .ascii raw = .ok m ∧ (m.toBytes = .ok raw ↔ isStrict raw = true) := by
  refine ⟨(bytes_iff .ascii).1 sample trivial, ?_⟩
  obtain ⟨raw, m, -, read, -⟩ := sample.fromBytes_toBytes .ascii sample_writable
  exact ⟨raw, m, read, (bytes_iff .ascii).2 raw m read⟩

/-- The line of the sample with `true` as its schema version. -/
def booleanVersion : Bytes :=
  asciiBytes (Text.ofString ("\x7b\"artifacts\":[],\"origin_request_key\":\x7b" ++
    "\"ground_instance_id\":\"0000000000000001\",\"request_id\":1\x7d,\"product_ref\":\x7b" ++
    "\"origin_boot_id\":1,\"product_id\":1,\"spacecraft_instance_id\":\"0000000000000001\"" ++
    "\x7d,\"product_type\":\"X\",\"schema_version\":true\x7d\n"))

theorem written_booleanVersion :
    ((fromBytes .ascii booleanVersion).toOption.map fun m =>
      decide (m.toBytes = .ok booleanVersion)) = some false := by
  decide +kernel

theorem exists_not_written_back :
    ∃ (raw : Bytes) (m : ProductManifest), fromBytes .ascii raw = .ok m ∧ m.toBytes ≠ .ok raw := by
  have written := written_booleanVersion
  refine ⟨booleanVersion, ?_⟩
  cases read : fromBytes .ascii booleanVersion with
  | ok m =>
      rw [read] at written
      exact ⟨m, rfl, of_decide_eq_false (Option.some.inj written)⟩
  | error failure =>
      rw [read] at written
      cases written

end ProductManifest

end CubeNano

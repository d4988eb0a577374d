import CubeNano.Gds.ProductManifest
import CubeNano.Lib.ExceptFold

/-!
# Manifests read back

What `to_bytes` writes is read back as the same manifest, unless one of its strings has a high
surrogate before a low one or an artifact's size has more digits than `int` takes.

## Main definitions

* `ProductManifest.Writable` — strings and numbers of kinds that are read back
* `ProductManifest.Same` — equality up to the order of the metadata

## Main statements

* `ProductManifest.fromBytes_toBytes` — a writable manifest is read back
-/

namespace CubeNano

/-! ## Parts of a manifest -/

theorem normalizeArtifactPath_eq_ok {path normalized : Text}
    (done : normalizeArtifactPath path = .ok normalized) : normalized = path ∧ Ascii path := by
  unfold normalizeArtifactPath at done
  split at done
  · cases done
  rename_i plain
  split at done
  · cases done
  split at done
  · cases done
  split at done
  · cases done
  cases done
  refine ⟨rfl, fun c mem => ?_⟩
  by_contra large
  exact plain (.inr (List.any_eq_true.mpr ⟨c, mem, by simpa using large⟩))

namespace ArtifactDescriptor

theorem new_self (a : ArtifactDescriptor) : new a.path a.size a.sha256 = .ok a := by
  unfold new
  split
  · rename_i failed
    rw [a.path_normal] at failed
    cases failed
  · rename_i normalized normal
    rw [a.path_normal] at normal
    rw [dif_pos (Except.ok.inj normal).symm, dif_pos ⟨a.size_nonneg, a.sha256_hex⟩]

theorem of_new_eq_ok {path sha256 : Text} {size : ℤ} {a : ArtifactDescriptor}
    (made : new path size sha256 = .ok a) : a.path = path ∧ a.size = size ∧ a.sha256 = sha256 := by
  unfold new at made
  split at made
  · cases made
  split at made
  · split at made
    · cases made
      exact ⟨rfl, rfl, rfl⟩
    · cases made
  · cases made

theorem ascii_path (a : ArtifactDescriptor) : Ascii a.path :=
  (normalizeArtifactPath_eq_ok a.path_normal).2

theorem isLowerHex_sha256 (a : ArtifactDescriptor) : ∀ c ∈ a.sha256, isLowerHex c = true := by
  have hex := a.sha256_hex
  rw [isSha256, Bool.and_eq_true] at hex
  exact List.all_eq_true.mp hex.2

end ArtifactDescriptor

theorem not_envelopeField_of_checked {productType : Text} {artifacts : List ArtifactDescriptor}
    {metadata : PyDict} {schemaVersion : ℤ}
    (checked : checkManifest productType artifacts metadata schemaVersion = .ok ()) :
    schemaVersion = 1 ∧ ∀ entry ∈ metadata, isEnvelopeField entry.1 = false := by
  unfold checkManifest at checked
  dsimp only at checked
  split at checked
  · cases checked
  rename_i version
  split at checked
  · cases checked
  split at checked
  · cases checked
  rename_i apart
  refine ⟨not_not.mp version, fun entry mem => Bool.eq_false_iff.mpr fun inside => apart ?_⟩
  exact List.any_eq_true.mpr ⟨entry, mem, inside⟩

/-- The checks see of the metadata its names and the model's task. -/
theorem checkManifest_congr {productType : Text} {artifacts : List ArtifactDescriptor}
    {metadata metadata' : PyDict} {schemaVersion : ℤ}
    (shadows : (metadata.any fun entry => isEnvelopeField entry.1) =
      metadata'.any fun entry => isEnvelopeField entry.1)
    (required : requiredFields productType metadata = requiredFields productType metadata')
    (names : ∀ name, hasName metadata name = hasName metadata' name) :
    checkManifest productType artifacts metadata schemaVersion =
      checkManifest productType artifacts metadata' schemaVersion := by
  unfold checkManifest
  simp only [shadows, required, names]

namespace ProductManifest

theorem new_of_checked {productType : Text} {artifacts : List ArtifactDescriptor}
    {metadata : PyDict} {schemaVersion : ℤ} (productRef : ProductRef)
    (originRequestKey : RequestKey)
    (checked : checkManifest productType artifacts metadata schemaVersion = .ok ()) :
    new productType productRef originRequestKey artifacts metadata schemaVersion =
      .ok ⟨productType, productRef, originRequestKey, artifacts, metadata, schemaVersion, checked⟩ := by
  unfold new
  split
  · rfl
  · rename_i failed
    rw [checked] at failed
    cases failed

theorem of_new_eq_ok {productType : Text} {productRef : ProductRef} {originRequestKey : RequestKey}
    {artifacts : List ArtifactDescriptor} {metadata : PyDict} {schemaVersion : ℤ}
    {m : ProductManifest}
    (made : new productType productRef originRequestKey artifacts metadata schemaVersion = .ok m) :
    m.productType = productType ∧ m.productRef = productRef ∧
      m.originRequestKey = originRequestKey ∧ m.artifacts = artifacts ∧ m.metadata = metadata := by
  unfold new at made
  split at made
  · cases made
    exact ⟨rfl, rfl, rfl, rfl, rfl⟩
  · cases made

end ProductManifest

/-! ## Dictionaries -/

theorem isEnvelopeField_iff {key : PyValue} :
    isEnvelopeField key = true ↔ key ∈ envelopeFields.map strKey := by
  have texts : envelopeFields.map strKey = (envelopeFields.map Text.ofString).map PyValue.str := by
    rw [List.map_map]
    rfl
  rw [texts]
  cases key with
  | str name =>
      rw [List.mem_map_of_injective fun t t' same => PyValue.str.inj same]
      exact List.contains_iff_mem
  | _ => exact ⟨nofun, fun mem => by obtain ⟨_, -, same⟩ := List.mem_map.mp mem; cases same⟩

theorem mem_stringKeys {entries : PyDict} {name : Text} :
    name ∈ stringKeys entries ↔ ∃ value, (.str name, value) ∈ entries := by
  induction entries with
  | nil => simp [stringKeys, membersOf]
  | cons entry rest ih =>
      obtain ⟨key, value⟩ := entry
      cases key with
      | str other =>
          change name ∈ other :: stringKeys rest ↔ _
          rw [List.mem_cons, ih]
          constructor
          · rintro (rfl | ⟨value', mem⟩)
            · exact ⟨value, List.mem_cons_self⟩
            · exact ⟨value', List.mem_cons_of_mem _ mem⟩
          · rintro ⟨value', mem⟩
            rcases List.mem_cons.mp mem with same | mem
            · cases same
              exact .inl rfl
            · exact .inr ⟨value', mem⟩
      | _ =>
          change name ∈ stringKeys rest ↔ _
          rw [ih]
          constructor
          · rintro ⟨value', mem⟩
            exact ⟨value', List.mem_cons_of_mem _ mem⟩
          · rintro ⟨value', mem⟩
            rcases List.mem_cons.mp mem with same | mem
            · cases same
            · exact ⟨value', mem⟩

/-- An update under other names comes after the entries. -/
theorem dictUpdate_of_disjoint {entries update : PyDict}
    (disjoint : ∀ name ∈ stringKeys entries, name ∉ stringKeys update) :
    dictUpdate entries update = entries ++ update := by
  have single {all : PyDict} {entry : PyValue × PyValue} (mem : entry ∈ all) {name : Text}
      (named : name ∈ stringKeys [entry]) : name ∈ stringKeys all := by
    obtain ⟨value, inside⟩ := mem_stringKeys.mp named
    exact mem_stringKeys.mpr ⟨value, List.mem_singleton.mp inside ▸ mem⟩
  unfold dictUpdate
  congr 1
  · refine (List.map_congr_left fun entry mem => ?_).trans (List.map_id entries)
    refine if_neg fun found => ?_
    obtain ⟨name, named, inside⟩ := List.any_eq_true.mp found
    exact disjoint name (single mem named) (List.contains_iff_mem.mp inside)
  · refine List.filter_eq_self.mpr fun other mem => ?_
    rw [Bool.not_eq_true', Bool.eq_false_iff]
    intro found
    obtain ⟨name, named, inside⟩ := List.any_eq_true.mp found
    exact disjoint name (List.contains_iff_mem.mp inside) (single mem named)

/-- Looking a name up in an arranged object. -/
theorem dictGet?_arranged {o : TextOrder} {entries arranged : PyDict}
    (distinct : (entries.map Prod.fst).Nodup) (perm : arranged.Perm (o.arrangeEntries entries))
    (key : String) : dictGet? arranged key = (dictGet? entries key).map o.arrange := by
  have keys := perm.map Prod.fst
  rw [TextOrder.arrangeEntries_keys] at keys
  have distinct' := keys.nodup_iff.mpr distinct
  cases found : dictGet? entries key with
  | some value =>
      refine dictGet?_of_mem distinct' (perm.mem_iff.mpr ?_)
      rw [TextOrder.arrangeEntries_eq_map]
      exact List.mem_map.mpr ⟨_, mem_of_dictGet? found, rfl⟩
  | none =>
      cases found' : dictGet? arranged key with
      | none => rfl
      | some value =>
          have mem := perm.mem_iff.mp (mem_of_dictGet? found')
          rw [TextOrder.arrangeEntries_eq_map] at mem
          obtain ⟨⟨other, value'⟩, inside, same⟩ := List.mem_map.mp mem
          obtain rfl : other = strKey key := (Prod.mk.inj same).1
          rw [dictGet?_of_mem distinct inside] at found
          cases found

theorem dictGet_arranged {o : TextOrder} {entries arranged : PyDict}
    (distinct : (entries.map Prod.fst).Nodup) (perm : arranged.Perm (o.arrangeEntries entries))
    (key : String) : dictGet arranged key = o.arrange (dictGet entries key) := by
  rw [dictGet, dictGet, dictGet?_arranged distinct perm]
  cases dictGet? entries key <;> rfl

/-! ## What a manifest writes -/

namespace ProductManifest

variable (m : ProductManifest)

theorem schemaVersion_eq : m.schemaVersion = 1 := (not_envelopeField_of_checked m.checked).1

theorem not_envelopeField : ∀ entry ∈ m.metadata, isEnvelopeField entry.1 = false :=
  (not_envelopeField_of_checked m.checked).2

theorem envelope_keys : m.envelope.map Prod.fst = envelopeFields.map strKey := rfl

theorem asDict_eq : m.asDict = m.envelope ++ m.metadata := by
  refine dictUpdate_of_disjoint fun name inside outside => ?_
  obtain ⟨value, mem⟩ := mem_stringKeys.mp inside
  obtain ⟨value', mem'⟩ := mem_stringKeys.mp outside
  have field : PyValue.str name ∈ m.envelope.map Prod.fst := List.mem_map_of_mem mem
  rw [envelope_keys, ← isEnvelopeField_iff] at field
  rw [m.not_envelopeField _ mem'] at field
  cases field

/-- The strings and numbers of a manifest, of kinds that are read back. -/
structure Writable (P : Text → Prop) : Prop where
  productType : P m.productType
  sizes : ∀ a ∈ m.artifacts, (decimalText a.size.natAbs).length ≤ intMaxStrDigits
  metadata : CanonicalWith P (.dict m.metadata)

end ProductManifest

theorem nodup_strKeys (names : List String) (distinct : names.Nodup) : (names.map strKey).Nodup :=
  distinct.map strKey_injective

theorem canonicalItems_iff_forall {P : Text → Prop} {items : List PyValue} :
    CanonicalItems P items ↔ ∀ item ∈ items, CanonicalWith P item := by
  induction items with
  | nil => simp [CanonicalItems]
  | cons item rest ih => rw [CanonicalItems, ih, List.forall_mem_cons]

section

variable {P : Text → Prop} (scalar : ∀ text, Ascii text → P text)

theorem canonical_nat {n : ℕ} (small : n < 2 ^ 32) : CanonicalWith P (.int n) := by
  have fits : n < 10 ^ 10 := small.trans (by norm_num)
  exact (length_decimalText_le fits (by norm_num)).trans (by decide)

include scalar

theorem canonical_key (key : String) (ascii : (key.toList.all fun c => c.toNat < 0x80) = true) :
    ∃ name, strKey key = .str name ∧ P name := ⟨_, rfl, scalar _ (ascii_ofString ascii)⟩

theorem canonical_u64 (n : U64) : CanonicalWith P (.str (u64ToJson n)) :=
  scalar _ (ascii_hexText 16 n.val)

theorem canonical_productRef (r : ProductRef) : CanonicalWith P r.asDict := by
  refine canonicalEntries_iff.mpr
    ⟨?_, nodup_strKeys ["spacecraft_instance_id", "origin_boot_id", "product_id"] (by decide)⟩
  simp only [List.forall_mem_cons, List.not_mem_nil, false_implies, implies_true, and_true]
  exact ⟨⟨canonical_key scalar _ (by decide), canonical_u64 scalar _⟩,
    ⟨canonical_key scalar _ (by decide), canonical_nat r.originBootId.isLt⟩,
    canonical_key scalar _ (by decide), canonical_nat r.productId.isLt⟩

theorem canonical_requestKey (k : RequestKey) : CanonicalWith P k.asDict := by
  refine canonicalEntries_iff.mpr
    ⟨?_, nodup_strKeys ["ground_instance_id", "request_id"] (by decide)⟩
  simp only [List.forall_mem_cons, List.not_mem_nil, false_implies, implies_true, and_true]
  exact ⟨⟨canonical_key scalar _ (by decide), canonical_u64 scalar _⟩,
    canonical_key scalar _ (by decide), canonical_nat k.requestId.isLt⟩

theorem canonical_artifact (a : ArtifactDescriptor)
    (short : (decimalText a.size.natAbs).length ≤ intMaxStrDigits) : CanonicalWith P a.asDict := by
  have hex : Ascii a.sha256 := by
    intro c mem
    have digit := a.isLowerHex_sha256 c mem
    simp only [isLowerHex, decide_eq_true_eq] at digit
    omega
  refine canonicalEntries_iff.mpr ⟨?_, nodup_strKeys ["path", "size", "sha256"] (by decide)⟩
  simp only [List.forall_mem_cons, List.not_mem_nil, false_implies, implies_true, and_true]
  exact ⟨⟨canonical_key scalar _ (by decide), scalar _ a.ascii_path⟩,
    ⟨canonical_key scalar _ (by decide), short⟩,
    canonical_key scalar _ (by decide), scalar _ hex⟩

/-- What a writable manifest writes is canonical. -/
theorem ProductManifest.Writable.canonical {m : ProductManifest} (writable : m.Writable P) :
    CanonicalWith P (.dict m.asDict) := by
  obtain ⟨each, distinct⟩ := canonicalEntries_iff.mp writable.metadata
  rw [m.asDict_eq]
  refine canonicalEntries_iff.mpr ⟨List.forall_mem_append.mpr ⟨?_, each⟩, ?_⟩
  · have artifacts : CanonicalWith P (.list (m.artifacts.map ArtifactDescriptor.asDict)) :=
      canonicalItems_iff_forall.mpr
        (List.forall_mem_map.mpr fun a mem => canonical_artifact scalar a (writable.sizes a mem))
    have version : CanonicalWith P (.int m.schemaVersion) := by
      rw [m.schemaVersion_eq]
      exact canonical_nat (n := 1) (by norm_num)
    simp only [ProductManifest.envelope, List.forall_mem_cons, List.not_mem_nil, false_implies,
      implies_true, and_true]
    exact ⟨⟨canonical_key scalar _ (by decide), version⟩,
      ⟨canonical_key scalar _ (by decide), writable.productType⟩,
      ⟨canonical_key scalar _ (by decide), canonical_productRef scalar _⟩,
      ⟨canonical_key scalar _ (by decide), canonical_requestKey scalar _⟩,
      canonical_key scalar _ (by decide), artifacts⟩
  · rw [List.map_append, List.nodup_append]
    refine ⟨nodup_strKeys envelopeFields (by decide), distinct, fun key field other mem same => ?_⟩
    rw [ProductManifest.envelope_keys, ← isEnvelopeField_iff, same] at field
    obtain ⟨entry, inside, rfl⟩ := List.mem_map.mp mem
    rw [m.not_envelopeField entry inside] at field
    cases field

end

/-! ## Reading what a manifest writes -/

section

variable {o : TextOrder}

theorem dictGet?_arranged_of_names (o : TextOrder) (fields : PyDict) (names : List String)
    (keys : fields.map Prod.fst = names.map strKey) (distinct : names.Nodup) (key : String) :
    dictGet? (o.sortEntries (o.arrangeEntries fields)) key = (dictGet? fields key).map o.arrange :=
  dictGet?_arranged (keys ▸ nodup_strKeys names distinct) (TextOrder.sortEntries_perm _) key

theorem ProductRef.fromDict_arranged (r : ProductRef) :
    ProductRef.fromDict (o.arrange r.asDict) = .ok r := by
  have look := dictGet?_arranged_of_names o
    [(strKey "spacecraft_instance_id", .str (u64ToJson r.spacecraftInstanceId)),
      (strKey "origin_boot_id", .int r.originBootId.val),
      (strKey "product_id", .int r.productId.val)]
    ["spacecraft_instance_id", "origin_boot_id", "product_id"] rfl (by decide)
  rw [ProductRef.asDict, TextOrder.arrange, ProductRef.fromDict]
  simp only [look, dictGet?_cons_self,
    dictGet?_cons_of_ne (by decide : "spacecraft_instance_id" ≠ "origin_boot_id"),
    dictGet?_cons_of_ne (by decide : "spacecraft_instance_id" ≠ "product_id"),
    dictGet?_cons_of_ne (by decide : "origin_boot_id" ≠ "product_id"), Option.map_some,
    Option.getD_some, TextOrder.arrange, u64FromJson_u64ToJson, checkedU32_int, ok_bind]

theorem RequestKey.fromDict_arranged (k : RequestKey) :
    RequestKey.fromDict (o.arrange k.asDict) = .ok k := by
  have look := dictGet?_arranged_of_names o
    [(strKey "ground_instance_id", .str (u64ToJson k.groundInstanceId)),
      (strKey "request_id", .int k.requestId.val)]
    ["ground_instance_id", "request_id"] rfl (by decide)
  rw [RequestKey.asDict, TextOrder.arrange, RequestKey.fromDict, requireMapping, ok_bind]
  simp only [dictGet, look, dictGet?_cons_self,
    dictGet?_cons_of_ne (by decide : "ground_instance_id" ≠ "request_id"), Option.map_some,
    Option.getD_some, TextOrder.arrange, u64FromJson_u64ToJson, checkedU32_int, ok_bind]

theorem lowerHexText_of_hex {text : Text} (hex : ∀ c ∈ text, isLowerHex c = true) :
    lowerHexText text = text := by
  refine (List.map_congr_left fun c mem => ?_).trans (List.map_id text)
  have digit := hex c mem
  simp only [isLowerHex, decide_eq_true_eq] at digit
  exact if_neg (by omega)

namespace ProductManifest

variable (table : CharacterTable)

/-- The members of an artifact entry that is written. -/
def artifactFields (o : TextOrder) (a : ArtifactDescriptor) : PyDict :=
  o.sortEntries (o.arrangeEntries [(strKey "path", .str a.path), (strKey "size", .int a.size),
    (strKey "sha256", .str a.sha256)])

theorem readArtifact_arranged (a : ArtifactDescriptor) :
    readArtifact table (artifactFields o a) = .ok a := by
  have look := dictGet?_arranged_of_names o
    [(strKey "path", .str a.path), (strKey "size", .int a.size), (strKey "sha256", .str a.sha256)]
    ["path", "size", "sha256"] rfl (by decide)
  rw [readArtifact, artifactFields]
  simp only [dictGet, look, dictGet?_cons_self,
    dictGet?_cons_of_ne (by decide : "path" ≠ "size"),
    dictGet?_cons_of_ne (by decide : "path" ≠ "sha256"),
    dictGet?_cons_of_ne (by decide : "size" ≠ "sha256"), Option.map_some, Option.getD_some,
    TextOrder.arrange, pyStr, a.path_normal, pyInt, ok_bind, lowerStr,
    lowerHexText_of_hex a.isLowerHex_sha256]
  exact a.new_self

theorem readArtifacts_arranged (artifacts : List ArtifactDescriptor) :
    readArtifacts table (o.arrangeItems (artifacts.map ArtifactDescriptor.asDict)) =
      .ok artifacts := by
  have written : o.arrangeItems (artifacts.map ArtifactDescriptor.asDict) =
      artifacts.map fun a => .dict (artifactFields o a) := by
    induction artifacts with
    | nil => rfl
    | cons a rest ih => exact congrArg (List.cons _) ih
  have fields : (artifacts.map fun a => PyValue.dict (artifactFields o a)).filterMap mapping? =
      artifacts.map (artifactFields o) := by
    rw [List.filterMap_map]
    exact congrFun List.filterMap_eq_map artifacts
  have read : (artifacts.map (artifactFields o)).mapM (readArtifact table) = .ok artifacts := by
    refine ExceptFold.mapM_eq_ok_iff.mpr (List.forall₂_map_left_iff.mpr ?_)
    exact List.forall₂_same.mpr fun a _ => readArtifact_arranged table a
  rw [written, readArtifacts, fields, read, ok_bind, List.length_map, if_neg (by simp)]

/-- The manifests agree, up to the order of the members of the metadata. -/
structure Same (m m' : ProductManifest) : Prop where
  productType : m.productType = m'.productType
  productRef : m.productRef = m'.productRef
  originRequestKey : m.originRequestKey = m'.originRequestKey
  artifacts : m.artifacts = m'.artifacts
  metadata : SameJson (.dict m.metadata) (.dict m'.metadata)
  schemaVersion : m.schemaVersion = m'.schemaVersion

/-- What a manifest writes, with its members in order. -/
def arranged (m : ProductManifest) (o : TextOrder) : PyDict :=
  o.sortEntries (o.arrangeEntries m.asDict)

theorem metadataOf_arranged (m : ProductManifest) :
    (metadataOf (m.arranged o)).Perm (o.arrangeEntries m.metadata) := by
  refine ((TextOrder.sortEntries_perm _).filter _).trans (List.Perm.of_eq ?_)
  have noField : m.envelope.filter (fun entry => !isEnvelopeField entry.1) = [] := by
    refine List.filter_eq_nil_iff.mpr fun entry mem => ?_
    have field : entry.1 ∈ m.envelope.map Prod.fst := List.mem_map_of_mem mem
    rw [envelope_keys, ← isEnvelopeField_iff] at field
    rw [field]
    decide
  have allOthers : m.metadata.filter (fun entry => !isEnvelopeField entry.1) = m.metadata := by
    refine List.filter_eq_self.mpr fun entry mem => ?_
    rw [m.not_envelopeField entry mem]
    rfl
  rw [TextOrder.arrangeEntries_eq_map, TextOrder.arrangeEntries_eq_map, List.filter_map, asDict_eq,
    List.filter_append]
  exact congrArg (List.map _) ((congrArg₂ _ noField allOthers).trans (List.nil_append _))

variable (m : ProductManifest)

theorem hasName_iff {metadata : PyDict} {name : String} :
    hasName metadata name = true ↔ strKey name ∈ metadata.map Prod.fst := by
  rw [hasName, List.contains_iff_mem, mem_stringKeys, List.mem_map]
  constructor
  · rintro ⟨value, mem⟩
    exact ⟨_, mem, rfl⟩
  · rintro ⟨⟨key, value⟩, mem, same⟩
    obtain rfl : key = strKey name := same
    exact ⟨value, mem⟩

/-- The metadata that is read back passes the checks of the metadata that was written. -/
theorem checkManifest_arranged (distinct : (m.metadata.map Prod.fst).Nodup) :
    checkManifest m.productType m.artifacts (metadataOf (m.arranged o)) 1 = .ok () := by
  have perm := metadataOf_arranged (o := o) m
  have keys := perm.map Prod.fst
  rw [TextOrder.arrangeEntries_keys] at keys
  have task : pyEq (dictGet (metadataOf (m.arranged o)) "model_task")
      (strKey "semantic_cloud_segmentation") =
        pyEq (dictGet m.metadata "model_task") (strKey "semantic_cloud_segmentation") := by
    rw [dictGet_arranged distinct perm]
    cases dictGet m.metadata "model_task" <;> rfl
  have version := m.checked
  rw [m.schemaVersion_eq] at version
  rw [← version]
  refine checkManifest_congr ?_ ?_ fun name => ?_
  · have noField (metadata : PyDict)
        (none : ∀ key ∈ metadata.map Prod.fst, isEnvelopeField key = false) :
        (metadata.any fun entry => isEnvelopeField entry.1) = false :=
      List.any_eq_false.mpr fun entry mem found => by
        rw [none entry.1 (List.mem_map_of_mem mem)] at found
        cases found
    have absent : ∀ key ∈ m.metadata.map Prod.fst, isEnvelopeField key = false :=
      List.forall_mem_map.mpr m.not_envelopeField
    rw [noField _ absent, noField _ fun key mem => absent key (keys.mem_iff.mp mem)]
  · rw [requiredFields, task]
    rfl
  · rw [Bool.eq_iff_iff, hasName_iff, hasName_iff, keys.mem_iff]

/-- A canonical object that is read is given back, its members in order. -/
theorem decode_line {entries : PyDict} (canonical : CanonicalWith Unpaired (.dict entries)) :
    decode (asciiBytes (dumpsText (.dict entries)) ++ [0x0A]) =
      .ok (codePointOrder.arrange (.dict entries)) := by
  rw [decode, utf8Decode_canonicalLine canonical, ok_bind, jsonLoads_canonicalLine canonical]

theorem sameJson_metadata (canonical : CanonicalWith Unpaired (.dict m.metadata)) :
    SameJson (.dict m.metadata) (.dict (metadataOf (m.arranged o))) := by
  have perm := metadataOf_arranged (o := o) m
  refine ⟨_, rfl, ?_, sameObject_iff.mpr fun entry mem => ?_⟩
  · rw [perm.length_eq, TextOrder.arrangeEntries_eq_map, List.length_map]
  · refine ⟨o.arrange entry.2, perm.mem_iff.mpr ?_, ?_⟩
    · rw [TextOrder.arrangeEntries_eq_map]
      exact List.mem_map.mpr ⟨entry, mem, rfl⟩
    · have canonicalValue := ((canonicalEntries_iff.mp canonical).1 entry mem).2
      have same := TextOrder.sameJson_arrange (o := o) entry.2
      have keyedArranged := CanonicalWith.keyed _ (CanonicalWith.arrange (o := o) _ canonicalValue)
      refine TextOrder.sameJson_of_arrange_eq (o := codePointOrder) _ _ ?_
      exact (TextOrder.arrange_eq_of_sameJson (o := codePointOrder) _ _ keyedArranged same).symm

theorem dictGet?_arranged_of_mem_envelope (distinct : (m.asDict.map Prod.fst).Nodup) {key : String}
    {value : PyValue} (mem : (strKey key, value) ∈ m.envelope) :
    dictGet? (m.arranged o) key = some (o.arrange value) := by
  have inside : (strKey key, value) ∈ m.asDict := by
    rw [asDict_eq]
    exact List.mem_append_left _ mem
  rw [arranged, dictGet?_arranged distinct (TextOrder.sortEntries_perm _),
    dictGet?_of_mem distinct inside]
  rfl

/-- **A manifest is read back.** -/
theorem fromBytes_toBytes (writable : m.Writable Unpaired) :
    ∃ raw m', m.toBytes = .ok raw ∧ fromBytes table raw = .ok m' ∧ m.Same m' := by
  have canonical : CanonicalWith Unpaired (.dict m.asDict) :=
    writable.canonical fun text ascii => unpaired_of_scalar (scalar_of_ascii ascii)
  have distinct := (canonicalEntries_iff.mp canonical).2
  have written := canonicalJson_of_canonical canonical
  have field {key : String} {value : PyValue} (mem : (strKey key, value) ∈ m.envelope) :
      dictGet? (m.arranged codePointOrder) key = some (codePointOrder.arrange value) :=
    m.dictGet?_arranged_of_mem_envelope distinct mem
  have version : dictGet (m.arranged codePointOrder) "schema_version" = .int m.schemaVersion := by
    rw [dictGet, field (by simp [envelope] : (_, PyValue.int m.schemaVersion) ∈ m.envelope)]
    rfl
  have productType : dictGet? (m.arranged codePointOrder) "product_type" =
      some (.str m.productType) :=
    field (by simp [envelope] : (_, PyValue.str m.productType) ∈ m.envelope)
  have productRef : dictGet (m.arranged codePointOrder) "product_ref" =
      codePointOrder.arrange m.productRef.asDict := by
    rw [dictGet, field (by simp [envelope] : (_, m.productRef.asDict) ∈ m.envelope)]
    rfl
  have originKey : dictGet (m.arranged codePointOrder) "origin_request_key" =
      codePointOrder.arrange m.originRequestKey.asDict := by
    rw [dictGet, field (by simp [envelope] : (_, m.originRequestKey.asDict) ∈ m.envelope)]
    rfl
  have artifacts : dictGet (m.arranged codePointOrder) "artifacts" =
      .list (codePointOrder.arrangeItems (m.artifacts.map ArtifactDescriptor.asDict)) := by
    rw [dictGet, field (by simp [envelope] :
      (_, PyValue.list (m.artifacts.map ArtifactDescriptor.asDict)) ∈ m.envelope)]
    rfl
  have again : canonicalJson (.dict (m.arranged codePointOrder)) =
      .ok (asciiBytes (dumpsText (.dict m.asDict))) := by
    have arrangedCanonical := CanonicalWith.arrange (o := codePointOrder) _ canonical
    have same := TextOrder.sameJson_arrange (o := codePointOrder) (.dict m.asDict)
    rw [← written]
    exact (canonicalJson_eq_iff arrangedCanonical canonical).mpr same
  have checked := checkManifest_arranged (o := codePointOrder) m
    (canonicalEntries_iff.mp writable.metadata).2
  refine ⟨asciiBytes (dumpsText (.dict m.asDict)) ++ [0x0A],
    ⟨m.productType, m.productRef, m.originRequestKey, m.artifacts,
      metadataOf (m.arranged codePointOrder), 1, checked⟩, ?_, ?_,
    ⟨rfl, rfl, rfl, rfl, m.sameJson_metadata writable.metadata, m.schemaVersion_eq⟩⟩
  · rw [toBytes, written]
    rfl
  · have schema : checkSchema (codePointOrder.arrange (.dict m.asDict)) =
        .ok (m.arranged codePointOrder) := by
      change (if pyEq (dictGet (m.arranged codePointOrder) "schema_version") (.int 1) then _
        else _) = _
      rw [version, m.schemaVersion_eq]
      rfl
    have canonicalBytes : checkCanonical (m.arranged codePointOrder)
        (asciiBytes (dumpsText (.dict m.asDict)) ++ [0x0A]) = .ok () := by
      rw [checkCanonical, again, ok_bind, if_neg (by simp)]
    rw [fromBytes, decode_line canonical, ok_bind, schema, ok_bind, canonicalBytes, ok_bind,
      rawArtifacts, artifacts, ok_bind, readArtifacts_arranged, ok_bind, productRef,
      ProductRef.fromDict_arranged, ok_bind, originKey, RequestKey.fromDict_arranged, ok_bind,
      productType]
    exact new_of_checked m.productRef m.originRequestKey checked

end ProductManifest

end

end CubeNano

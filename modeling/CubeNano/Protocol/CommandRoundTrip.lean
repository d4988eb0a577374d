import CubeNano.Lib.RecordLayout
import CubeNano.Protocol.CborOrder
import CubeNano.Protocol.Command

/-!
# The layouts of the mission commands

Every opcode has a layout: its fields in wire order, each with a codec.  The
encoder and the decoder of a payload are the writer and the reader of that
layout, so the two directions of the round trip follow from those of the fields.

## Main definitions

* `payloadLayout` — the fields of an opcode
* `OnlyFields` — a dictionary without other keys

## Main statements

* `encodePayload_eq_ok_iff`, `decodePayload_eq` — the code follows the layouts
* `command_roundTrip_and_digest` — the round trips and what they mean for digests
-/

namespace CubeNano

/-! ## Codecs of the fields -/

/-- A codec of a payload field. -/
abbrev PayloadCodec := FieldCodec PyException PyValue UInt8

/-- The keys of a dictionary are distinct and among the given names. -/
def OnlyFields (names : List String) (entries : List (PyValue × PyValue)) : Prop :=
  (entries.map Prod.fst).Nodup ∧ ∀ entry ∈ entries, ∃ name ∈ names, entry.1 = strKey name

/-- The value is a dictionary without other keys. -/
def OnlyMembers (names : List String) (value : PyValue) : Prop :=
  ∃ entries, value = .dict entries ∧ OnlyFields names entries

/-- A 16-bit field. -/
def u16Codec (name : String) : PayloadCodec where
  write value := do
    let n ← checkedU16 value name
    .ok (toBytesBE 2 n.val)
  read data := do
    let n ← readU16 name data
    .ok (.int n.1.val, n.2)
  only _ := True

/-- A 32-bit field. -/
def u32Codec (name : String) : PayloadCodec where
  write value := do
    let n ← checkedU32 value name
    .ok (toBytesBE 4 n.val)
  read data := do
    let n ← readU32 name data
    .ok (.int n.1.val, n.2)
  only _ := True

/-- A scene reference. -/
def sceneCodec : PayloadCodec where
  write value := do
    let r ← SceneRef.fromDict value
    .ok r.asWire
  read data := do
    let r ← readSceneRef data
    .ok (r.1.asDict, r.2)
  only := OnlyMembers ["catalog_epoch", "scene_id", "scene_revision"]

/-- A region. -/
def roiCodec : PayloadCodec where
  write value := do
    let r ← Roi.fromDict value
    .ok r.asWire
  read data := do
    let r ← readRoi data
    .ok (r.1.asDict, r.2)
  only := OnlyMembers ["x", "y", "width", "height"]

/-- A request key, its fields under their labels. -/
def requestKeyCodec (groundLabel requestLabel : String) : PayloadCodec where
  write value := do
    let r ← RequestKey.fromDict value
    .ok r.asWire
  read data := do
    let r ← readRequestKey groundLabel requestLabel data
    .ok (r.1.asDict, r.2)
  only := OnlyMembers ["ground_instance_id", "request_id"]

/-- A product reference. -/
def productCodec : PayloadCodec where
  write value := do
    let r ← ProductRef.fromDict value
    .ok r.asWire
  read data := do
    let r ← readProductRef data
    .ok (r.1.asDict, r.2)
  only := OnlyMembers ["spacecraft_instance_id", "origin_boot_id", "product_id"]

/-! ## Layouts -/

/-- The threshold fields, last in the commands that have them. -/
def thresholdLayout : List (String × PayloadCodec) :=
  [("model_threshold_bp", u16Codec "model_threshold_bp"),
    ("coverage_limit_bp", u16Codec "coverage_limit_bp")]

/-- The expected configuration. -/
def configLayout : List (String × PayloadCodec) :=
  [("expected_config_epoch", u32Codec "expected_config_epoch"),
    ("expected_config_revision", u32Codec "expected_config_revision")]

/-- The fields of a command in wire order. -/
def payloadLayout : CommandOpcode → List (String × PayloadCodec)
  | .cloudSetConfig => configLayout ++ thresholdLayout
  | .sceneRequestCatalog => []
  | .sceneRequestPreview => [("scene_ref", sceneCodec)]
  | .sceneAnalyze => ("scene_ref", sceneCodec) :: (configLayout ++ thresholdLayout)
  | .roiRequest =>
      ("scene_ref", sceneCodec) :: (configLayout ++ ("roi", roiCodec) :: thresholdLayout)
  | .jobGetStatus | .jobCancel =>
      [("target_request_key",
        requestKeyCodec "target_ground_instance_id" "target_request_id")]
  | .productRequestDownlink =>
      [("origin_request_key", requestKeyCodec "origin_ground_instance_id" "origin_request_id"),
        ("product_ref", productCodec)]
  | .productCancelDownlink =>
      [("product_ref", productCodec), ("transfer_id", u32Codec "transfer_id")]

/-- The decoder of a payload reads the layout of its opcode. -/
theorem decodePayload_eq (opcode : CommandOpcode) (data : Bytes) :
    decodePayload opcode data = (do
      let fields ← readAll (payloadLayout opcode) data
      .ok (fields.1.map fun field => (strKey field.1, field.2), fields.2)) := by
  have ok_bind {α β : Type} (a : α) (f : α → Raises β) : (Except.ok a >>= f) = f a := rfl
  cases opcode <;>
    simp only [decodePayload, payloadLayout, configLayout, thresholdLayout, List.cons_append,
      List.nil_append, readAll, u16Codec, u32Codec, sceneCodec, roiCodec, requestKeyCodec,
      productCodec, bind_assoc, ok_bind, List.map_cons, List.map_nil]

/-- The encoder of a payload writes the layout of its opcode. -/
theorem encodePayload_eq_ok_iff {opcode : CommandOpcode} {payload : List (PyValue × PyValue)}
    {data : Bytes} : encodePayload opcode payload = .ok data ↔
      writeAll (payloadLayout opcode) (dictGet payload) = .ok data := by
  cases opcode with
  | roiRequest =>
      -- the thresholds are checked before the region, which is written before them
      simp [encodePayload, configFromPayload, payloadLayout, configLayout, thresholdLayout,
        writeAll, u16Codec, u32Codec, sceneCodec, roiCodec, bind_eq_ok_iff]
      constructor
      · rintro ⟨scene, hs, epoch, he, revision, hr, model, hm, coverage, hc, roi, hroi, written⟩
        exact ⟨scene, hs, epoch, he, revision, hr, roi, hroi, model, hm, coverage, hc, written⟩
      · rintro ⟨scene, hs, epoch, he, revision, hr, roi, hroi, model, hm, coverage, hc, written⟩
        exact ⟨scene, hs, epoch, he, revision, hr, model, hm, coverage, hc, roi, hroi, written⟩
  | productCancelDownlink =>
      -- the transfer is checked before the product, which is written before it
      simp [encodePayload, payloadLayout, writeAll, u32Codec, productCodec, bind_eq_ok_iff]
      constructor
      · rintro ⟨transfer, ht, product, hp, written⟩
        exact ⟨product, hp, transfer, ht, written⟩
      · rintro ⟨product, hp, transfer, ht, written⟩
        exact ⟨transfer, ht, product, hp, written⟩
  | _ =>
      simp [encodePayload, configFromPayload, payloadLayout, configLayout, thresholdLayout,
        writeAll, u16Codec, u32Codec, sceneCodec, requestKeyCodec, productCodec, bind_eq_ok_iff]

/-! ## The fields of a dictionary -/

theorem dictGet?_of_dictGet {entries : List (PyValue × PyValue)} {name : String}
    (present : dictGet entries name ≠ .none) :
    dictGet? entries name = some (dictGet entries name) := by
  unfold dictGet at present ⊢
  cases found : dictGet? entries name with
  | none =>
      rw [found] at present
      exact absurd rfl present
  | some value => rfl

/-- A dictionary without other keys equals the dictionary of its fields. -/
theorem sameValue_of_fields {entries : List (PyValue × PyValue)} {fields : List (String × PyValue)}
    (only : OnlyFields (fields.map Prod.fst) entries) (distinct : (fields.map Prod.fst).Nodup)
    (each : ∀ field ∈ fields, dictGet entries field.1 ≠ .none ∧
      SameValue (dictGet entries field.1) field.2) :
    SameValue (.dict entries) (.dict (fields.map fun field => (strKey field.1, field.2))) := by
  obtain ⟨keys, names⟩ := only
  have present (field : String × PyValue) (mem : field ∈ fields) :
      (strKey field.1, dictGet entries field.1) ∈ entries :=
    mem_of_dictGet? (dictGet?_of_dictGet (each field mem).1)
  have counterpart (entry : PyValue × PyValue) (mem : entry ∈ entries) : ∃ field ∈ fields,
      entry = (strKey field.1, dictGet entries field.1) := by
    obtain ⟨name, named, same⟩ := names entry mem
    obtain ⟨field, inside, rfl⟩ := List.mem_map.mp named
    have found := dictGet?_of_mem keys (show (strKey field.1, entry.2) ∈ entries from same ▸ mem)
    refine ⟨field, inside, ?_⟩
    rw [dictGet, found]
    exact Prod.ext same rfl
  have perm : (entries.map Prod.fst).Perm (fields.map fun field => strKey field.1) := by
    have keyNames : (fields.map fun field => strKey field.1).Nodup := by
      have mapped := distinct.map strKey_injective
      rwa [List.map_map] at mapped
    refine (List.perm_ext_iff_of_nodup keys keyNames).mpr fun key => ?_
    constructor
    · intro mem
      obtain ⟨entry, inside, rfl⟩ := List.mem_map.mp mem
      obtain ⟨field, named, same⟩ := counterpart entry inside
      rw [same]
      exact List.mem_map_of_mem named
    · intro mem
      obtain ⟨field, named, rfl⟩ := List.mem_map.mp mem
      exact List.mem_map.mpr ⟨_, present field named, rfl⟩
  have entriesIn (part : List (PyValue × PyValue)) (sub : part ⊆ entries) :
      EntriesIn part (fields.map fun field => (strKey field.1, field.2)) := by
    induction part with
    | nil => trivial
    | cons entry rest ih =>
        obtain ⟨key, item⟩ := entry
        rw [List.cons_subset] at sub
        obtain ⟨field, named, same⟩ := counterpart _ sub.1
        obtain ⟨rfl, rfl⟩ := Prod.mk.inj same
        exact ⟨⟨field.2, List.mem_map.mpr ⟨field, named, rfl⟩, (each field named).2⟩, ih sub.2⟩
  refine ⟨?_, entriesIn entries (List.Subset.refl _)⟩
  have length := perm.length_eq
  rw [List.length_map, List.length_map] at length
  rw [List.length_map, length]

/-! ## Reading and writing single fields -/

theorem readField_append {width : ℕ} (n : Fin (256 ^ width)) (label : String) (rest : Bytes) :
    readField width label (toBytesBE width n.val ++ rest) = .ok (n, rest) := by
  have value : fromBytesBE ((toBytesBE width n.val ++ rest).take width) = n.val := by
    rw [List.take_left' (length_toBytesBE width n.val), fromBytesBE_toBytesBE n.isLt]
  unfold readField
  rw [if_neg (by rw [List.length_append, length_toBytesBE]; omega),
    List.drop_left' (length_toBytesBE width n.val)]
  exact congrArg (fun m => (Except.ok (m, rest) : Raises (Fin (256 ^ width) × Bytes)))
    (Fin.ext value)

theorem readField_eq_ok {width : ℕ} {label : String} {data rest : Bytes} {n : Fin (256 ^ width)}
    (read : readField width label data = .ok (n, rest)) :
    data = toBytesBE width n.val ++ rest := by
  unfold readField at read
  split at read
  · cases read
  · rename_i long
    cases read
    have written := toBytesBE_slice 0 width (show 0 + width ≤ data.length by omega)
    show data = toBytesBE width (fromBytesBE ((data.drop 0).take width)) ++ data.drop width
    rw [written]
    exact (List.take_append_drop width data).symm

theorem readU16_append (n : U16) (label : String) (rest : Bytes) :
    readU16 label (toBytesBE 2 n.val ++ rest) = .ok (n, rest) := @readField_append 2 n label rest

theorem readU32_append (n : U32) (label : String) (rest : Bytes) :
    readU32 label (toBytesBE 4 n.val ++ rest) = .ok (n, rest) := @readField_append 4 n label rest

theorem readU64_append (n : U64) (label : String) (rest : Bytes) :
    readU64 label (toBytesBE 8 n.val ++ rest) = .ok (n, rest) := @readField_append 8 n label rest

theorem readU16_eq_ok {label : String} {data rest : Bytes} {n : U16}
    (read : readU16 label data = .ok (n, rest)) : data = toBytesBE 2 n.val ++ rest :=
  @readField_eq_ok 2 label data rest n read

theorem readU32_eq_ok {label : String} {data rest : Bytes} {n : U32}
    (read : readU32 label data = .ok (n, rest)) : data = toBytesBE 4 n.val ++ rest :=
  @readField_eq_ok 4 label data rest n read

theorem readU64_eq_ok {label : String} {data rest : Bytes} {n : U64}
    (read : readU64 label data = .ok (n, rest)) : data = toBytesBE 8 n.val ++ rest :=
  @readField_eq_ok 8 label data rest n read

/-- A field of 32 bits is written and read. -/
theorem lawful_u32Codec (name : String) : (u32Codec name).Lawful SameValue where
  reads := by
    intro v bytes rest written
    obtain ⟨n, checked, written⟩ := bind_eq_ok_iff.mp written
    cases written
    rw [checkedU32_eq_ok checked]
    exact ⟨_, bind_eq_ok_iff.mpr ⟨_, readU32_append n name rest, rfl⟩, fun _ => rfl⟩
  writes := by
    intro data w rest read
    obtain ⟨⟨n, rest'⟩, first, read⟩ := bind_eq_ok_iff.mp read
    cases read
    exact ⟨_, bind_eq_ok_iff.mpr ⟨n, checkedU32_int n name, rfl⟩, readU32_eq_ok first⟩

theorem checkedU16_eq_ok {value : PyValue} {label : String} {n : U16}
    (accepted : checkedU16 value label = .ok n) : value = .int n.val := by
  unfold checkedU16 at accepted
  split at accepted
  · rename_i m
    split at accepted
    · rename_i bounds
      cases accepted
      show PyValue.int m = .int m.toNat
      rw [Int.toNat_of_nonneg bounds.1]
    · cases accepted
  · cases accepted

theorem checkedU16_int (n : U16) (label : String) : checkedU16 (.int n.val) label = .ok n := by
  have bounds : 0 ≤ (n.val : ℤ) ∧ (n.val : ℤ) < 2 ^ 16 := by
    have := n.isLt
    omega
  rw [checkedU16, dif_pos bounds]
  rfl

/-- A field of 16 bits is written and read. -/
theorem lawful_u16Codec (name : String) : (u16Codec name).Lawful SameValue where
  reads := by
    intro v bytes rest written
    obtain ⟨n, checked, written⟩ := bind_eq_ok_iff.mp written
    cases written
    rw [checkedU16_eq_ok checked]
    exact ⟨_, bind_eq_ok_iff.mpr ⟨_, readU16_append n name rest, rfl⟩, fun _ => rfl⟩
  writes := by
    intro data w rest read
    obtain ⟨⟨n, rest'⟩, first, read⟩ := bind_eq_ok_iff.mp read
    cases read
    exact ⟨_, bind_eq_ok_iff.mpr ⟨n, checkedU16_int n name, rfl⟩, readU16_eq_ok first⟩

/-! ## Records -/

/-- A record with a dictionary form and a wire form. -/
structure LawfulRecord {R : Type} (fromDict : PyValue → Raises R) (asDict : R → PyValue)
    (asWire : R → Bytes) (read : Bytes → Raises (R × Bytes)) (names : List String) : Prop where
  fromDict_asDict : ∀ r, fromDict (asDict r) = .ok r
  same : ∀ v r, fromDict v = .ok r → OnlyMembers names v → SameValue v (asDict r)
  read_asWire : ∀ r rest, read (asWire r ++ rest) = .ok (r, rest)
  asWire_of_read : ∀ data r rest, read data = .ok (r, rest) → data = asWire r ++ rest

/-- The codec of a lawful record is lawful. -/
theorem lawful_of_record {R : Type} {fromDict : PyValue → Raises R} {asDict : R → PyValue}
    {asWire : R → Bytes} {read : Bytes → Raises (R × Bytes)} {names : List String}
    (record : LawfulRecord fromDict asDict asWire read names) :
    FieldCodec.Lawful SameValue
      { write := fun value => do
          let r ← fromDict value
          .ok (asWire r)
        read := fun data => do
          let r ← read data
          .ok (asDict r.1, r.2)
        only := OnlyMembers names : PayloadCodec } where
  reads := by
    intro v bytes rest written
    obtain ⟨r, accepted, written⟩ := bind_eq_ok_iff.mp written
    cases written
    exact ⟨_, bind_eq_ok_iff.mpr ⟨_, record.read_asWire r rest, rfl⟩, record.same v r accepted⟩
  writes := by
    intro data w rest readAll
    obtain ⟨⟨r, rest'⟩, first, readAll⟩ := bind_eq_ok_iff.mp readAll
    cases readAll
    exact ⟨_, bind_eq_ok_iff.mpr ⟨r, record.fromDict_asDict r, rfl⟩,
      record.asWire_of_read _ _ _ first⟩

theorem requireMapping_eq_ok {value : PyValue} {label : String}
    {entries : List (PyValue × PyValue)} (accepted : requireMapping value label = .ok entries) :
    value = .dict entries := by
  unfold requireMapping at accepted
  split at accepted
  · cases accepted
    rfl
  · cases accepted

/-- The members of an object, from the fields that were looked up. -/
theorem sameValue_of_members (fields : List (String × PyValue)) {names : List String}
    {value : PyValue} {entries : List (PyValue × PyValue)} (mapping : value = .dict entries)
    (only : OnlyMembers names value) (named : fields.map Prod.fst = names)
    (distinct : names.Nodup) (each : ∀ field ∈ fields, dictGet entries field.1 = field.2 ∧ (scalarKey? field.2).isSome ∧
      field.2 ≠ .none) :
    SameValue value (.dict (fields.map fun field => (strKey field.1, field.2))) := by
  obtain ⟨entries', same, fieldsOnly⟩ := only
  obtain rfl := PyValue.dict.inj (mapping.symm.trans same)
  rw [mapping]
  refine sameValue_of_fields (named ▸ fieldsOnly) (named ▸ distinct) fun field mem => ?_
  obtain ⟨found, scalar, present⟩ := each field mem
  rw [found]
  refine ⟨present, ?_⟩
  cases value : field.2 with
  | list _ =>
      rw [value] at scalar
      cases scalar
  | dict _ =>
      rw [value] at scalar
      cases scalar
  | _ => rfl

theorem dictGet_cons_self (name : String) (value : PyValue) (rest : List (PyValue × PyValue)) :
    dictGet ((strKey name, value) :: rest) name = value := by
  rw [dictGet, dictGet?_cons_self]
  rfl

theorem dictGet_cons_of_ne {name name' : String} (ne : name' ≠ name) (value : PyValue)
    (rest : List (PyValue × PyValue)) :
    dictGet ((strKey name', value) :: rest) name = dictGet rest name := by
  rw [dictGet, dictGet?_cons_of_ne ne]
  rfl

/-- What `from_dict` read of a field. -/
theorem member_of_checkedU32 {data : List (PyValue × PyValue)} {name label : String} {n : U32}
    (accepted : checkedU32 (dictGet data name) label = .ok n) :
    dictGet data name = .int n.val ∧ (scalarKey? (.int n.val)).isSome ∧
      PyValue.int n.val ≠ .none :=
  ⟨checkedU32_eq_ok accepted, rfl, nofun⟩

theorem member_of_u64FromJson {data : List (PyValue × PyValue)} {name label : String} {n : U64}
    (accepted : u64FromJson (dictGet data name) label = .ok n) :
    dictGet data name = .str (u64ToJson n) ∧ (scalarKey? (.str (u64ToJson n))).isSome ∧
      PyValue.str (u64ToJson n) ≠ .none :=
  ⟨u64FromJson_eq_ok accepted, rfl, nofun⟩

/-- The record `RequestKey`. -/
theorem lawful_requestKey (groundLabel requestLabel : String) :
    LawfulRecord RequestKey.fromDict RequestKey.asDict RequestKey.asWire
      (readRequestKey groundLabel requestLabel) ["ground_instance_id", "request_id"] where
  fromDict_asDict := by
    intro r
    refine bind_eq_ok_iff.mpr ⟨_, rfl, bind_eq_ok_iff.mpr ⟨r.groundInstanceId, ?_,
      bind_eq_ok_iff.mpr ⟨r.requestId, ?_, rfl⟩⟩⟩
    · rw [dictGet_cons_self]
      exact u64FromJson_u64ToJson _ _
    · rw [dictGet_cons_of_ne (by decide), dictGet_cons_self]
      exact checkedU32_int _ _
  same := by
    intro v r accepted only
    obtain ⟨data, mapping, accepted⟩ := bind_eq_ok_iff.mp accepted
    obtain ⟨ground, readGround, accepted⟩ := bind_eq_ok_iff.mp accepted
    obtain ⟨request, readRequest, accepted⟩ := bind_eq_ok_iff.mp accepted
    cases accepted
    refine sameValue_of_members [("ground_instance_id", .str (u64ToJson ground)),
      ("request_id", .int request.val)] (requireMapping_eq_ok mapping) only rfl (by decide) ?_
    exact List.forall_mem_cons.mpr ⟨member_of_u64FromJson readGround,
      List.forall_mem_singleton.mpr (member_of_checkedU32 readRequest)⟩
  read_asWire := by
    intro r rest
    rw [RequestKey.asWire, List.append_assoc]
    exact bind_eq_ok_iff.mpr ⟨_, readU64_append r.groundInstanceId _ _,
      bind_eq_ok_iff.mpr ⟨_, readU32_append r.requestId _ _, rfl⟩⟩
  asWire_of_read := by
    intro data r rest read
    obtain ⟨⟨ground, afterGround⟩, readGround, read⟩ := bind_eq_ok_iff.mp read
    obtain ⟨⟨request, afterRequest⟩, readRequest, read⟩ := bind_eq_ok_iff.mp read
    cases read
    simp only at readRequest ⊢
    rw [readU64_eq_ok readGround, readU32_eq_ok readRequest, RequestKey.asWire, List.append_assoc]

/-- The record `SceneRef`. -/
theorem lawful_sceneRef : LawfulRecord SceneRef.fromDict SceneRef.asDict SceneRef.asWire
    readSceneRef ["catalog_epoch", "scene_id", "scene_revision"] where
  fromDict_asDict := by
    intro r
    refine bind_eq_ok_iff.mpr ⟨_, rfl, bind_eq_ok_iff.mpr ⟨r.catalogEpoch, ?_,
      bind_eq_ok_iff.mpr ⟨r.sceneId, ?_, bind_eq_ok_iff.mpr ⟨r.sceneRevision, ?_, rfl⟩⟩⟩⟩
    · rw [dictGet_cons_self]
      exact checkedU32_int _ _
    · rw [dictGet_cons_of_ne (by decide), dictGet_cons_self]
      exact checkedU32_int _ _
    · rw [dictGet_cons_of_ne (by decide), dictGet_cons_of_ne (by decide), dictGet_cons_self]
      exact checkedU32_int _ _
  same := by
    intro v r accepted only
    obtain ⟨data, mapping, accepted⟩ := bind_eq_ok_iff.mp accepted
    obtain ⟨epoch, readEpoch, accepted⟩ := bind_eq_ok_iff.mp accepted
    obtain ⟨scene, readScene, accepted⟩ := bind_eq_ok_iff.mp accepted
    obtain ⟨revision, readRevision, accepted⟩ := bind_eq_ok_iff.mp accepted
    cases accepted
    refine sameValue_of_members [("catalog_epoch", .int epoch.val), ("scene_id", .int scene.val),
      ("scene_revision", .int revision.val)] (requireMapping_eq_ok mapping) only rfl (by decide) ?_
    exact List.forall_mem_cons.mpr ⟨member_of_checkedU32 readEpoch,
      List.forall_mem_cons.mpr ⟨member_of_checkedU32 readScene,
        List.forall_mem_singleton.mpr (member_of_checkedU32 readRevision)⟩⟩
  read_asWire := by
    intro r rest
    rw [SceneRef.asWire, List.append_assoc, List.append_assoc]
    exact bind_eq_ok_iff.mpr ⟨_, readU32_append r.catalogEpoch _ _,
      bind_eq_ok_iff.mpr ⟨_, readU32_append r.sceneId _ _,
        bind_eq_ok_iff.mpr ⟨_, readU32_append r.sceneRevision _ _, rfl⟩⟩⟩
  asWire_of_read := by
    intro data r rest read
    obtain ⟨⟨epoch, afterEpoch⟩, readEpoch, read⟩ := bind_eq_ok_iff.mp read
    obtain ⟨⟨scene, afterScene⟩, readScene, read⟩ := bind_eq_ok_iff.mp read
    obtain ⟨⟨revision, afterRevision⟩, readRevision, read⟩ := bind_eq_ok_iff.mp read
    cases read
    simp only at readScene readRevision ⊢
    rw [readU32_eq_ok readEpoch, readU32_eq_ok readScene, readU32_eq_ok readRevision,
      SceneRef.asWire, List.append_assoc, List.append_assoc]

theorem Roi.new_eq_ok {x y width height : U32} {r : Roi}
    (built : Roi.new x y width height = .ok r) :
    r.x = x ∧ r.y = y ∧ r.width = width ∧ r.height = height := by
  unfold Roi.new at built
  split at built
  · cases built
    exact ⟨rfl, rfl, rfl, rfl⟩
  · cases built

theorem Roi.new_fields (r : Roi) : Roi.new r.x r.y r.width r.height = .ok r := by
  unfold Roi.new
  rw [dif_pos r.extent_pos]

/-- The record `ROI`. -/
theorem lawful_roi : LawfulRecord Roi.fromDict Roi.asDict Roi.asWire readRoi
    ["x", "y", "width", "height"] where
  fromDict_asDict := by
    intro r
    refine bind_eq_ok_iff.mpr ⟨_, rfl, bind_eq_ok_iff.mpr ⟨r.x, ?_,
      bind_eq_ok_iff.mpr ⟨r.y, ?_, bind_eq_ok_iff.mpr ⟨r.width, ?_,
        bind_eq_ok_iff.mpr ⟨r.height, ?_, r.new_fields⟩⟩⟩⟩⟩
    · rw [dictGet_cons_self]
      exact checkedU32_int _ _
    · rw [dictGet_cons_of_ne (by decide), dictGet_cons_self]
      exact checkedU32_int _ _
    · rw [dictGet_cons_of_ne (by decide), dictGet_cons_of_ne (by decide), dictGet_cons_self]
      exact checkedU32_int _ _
    · rw [dictGet_cons_of_ne (by decide), dictGet_cons_of_ne (by decide),
        dictGet_cons_of_ne (by decide), dictGet_cons_self]
      exact checkedU32_int _ _
  same := by
    intro v r accepted only
    obtain ⟨data, mapping, accepted⟩ := bind_eq_ok_iff.mp accepted
    obtain ⟨x, readX, accepted⟩ := bind_eq_ok_iff.mp accepted
    obtain ⟨y, readY, accepted⟩ := bind_eq_ok_iff.mp accepted
    obtain ⟨width, readWidth, accepted⟩ := bind_eq_ok_iff.mp accepted
    obtain ⟨height, readHeight, built⟩ := bind_eq_ok_iff.mp accepted
    obtain ⟨hx, hy, hw, hh⟩ := Roi.new_eq_ok built
    rw [Roi.asDict, hx, hy, hw, hh]
    refine sameValue_of_members [("x", .int x.val), ("y", .int y.val), ("width", .int width.val),
      ("height", .int height.val)] (requireMapping_eq_ok mapping) only rfl (by decide) ?_
    exact List.forall_mem_cons.mpr ⟨member_of_checkedU32 readX,
      List.forall_mem_cons.mpr ⟨member_of_checkedU32 readY,
        List.forall_mem_cons.mpr ⟨member_of_checkedU32 readWidth,
          List.forall_mem_singleton.mpr (member_of_checkedU32 readHeight)⟩⟩⟩
  read_asWire := by
    intro r rest
    rw [Roi.asWire, List.append_assoc, List.append_assoc, List.append_assoc]
    exact bind_eq_ok_iff.mpr ⟨_, readU32_append r.x _ _,
      bind_eq_ok_iff.mpr ⟨_, readU32_append r.y _ _,
        bind_eq_ok_iff.mpr ⟨_, readU32_append r.width _ _,
          bind_eq_ok_iff.mpr ⟨_, readU32_append r.height _ _,
            bind_eq_ok_iff.mpr ⟨_, r.new_fields, rfl⟩⟩⟩⟩⟩
  asWire_of_read := by
    intro data r rest read
    obtain ⟨⟨x, afterX⟩, readX, read⟩ := bind_eq_ok_iff.mp read
    obtain ⟨⟨y, afterY⟩, readY, read⟩ := bind_eq_ok_iff.mp read
    obtain ⟨⟨width, afterWidth⟩, readWidth, read⟩ := bind_eq_ok_iff.mp read
    obtain ⟨⟨height, afterHeight⟩, readHeight, read⟩ := bind_eq_ok_iff.mp read
    obtain ⟨roi, built, read⟩ := bind_eq_ok_iff.mp read
    cases read
    obtain ⟨hx, hy, hw, hh⟩ := Roi.new_eq_ok built
    simp only at readY readWidth readHeight hx hy hw hh ⊢
    rw [readU32_eq_ok readX, readU32_eq_ok readY, readU32_eq_ok readWidth,
      readU32_eq_ok readHeight, Roi.asWire, hx, hy, hw, hh, List.append_assoc, List.append_assoc,
      List.append_assoc]

/-- The record `ProductRef`. -/
theorem lawful_productRef : LawfulRecord ProductRef.fromDict ProductRef.asDict ProductRef.asWire
    readProductRef ["spacecraft_instance_id", "origin_boot_id", "product_id"] where
  fromDict_asDict := by
    intro r
    refine bind_eq_ok_iff.mpr ⟨r.spacecraftInstanceId, ?_,
      bind_eq_ok_iff.mpr ⟨r.originBootId, ?_, bind_eq_ok_iff.mpr ⟨r.productId, ?_, rfl⟩⟩⟩
    · rw [dictGet?_cons_self]
      exact u64FromJson_u64ToJson _ _
    · rw [dictGet?_cons_of_ne (by decide), dictGet?_cons_self]
      exact checkedU32_int _ _
    · rw [dictGet?_cons_of_ne (by decide), dictGet?_cons_of_ne (by decide), dictGet?_cons_self]
      exact checkedU32_int _ _
  same := by
    intro v r accepted only
    cases v with
    | dict data =>
        obtain ⟨spacecraft, readSpacecraft, accepted⟩ := bind_eq_ok_iff.mp accepted
        obtain ⟨boot, readBoot, accepted⟩ := bind_eq_ok_iff.mp accepted
        obtain ⟨product, readProduct, accepted⟩ := bind_eq_ok_iff.mp accepted
        cases accepted
        refine sameValue_of_members [("spacecraft_instance_id", .str (u64ToJson spacecraft)),
          ("origin_boot_id", .int boot.val), ("product_id", .int product.val)] rfl only rfl
          (by decide) ?_
        exact List.forall_mem_cons.mpr ⟨member_of_u64FromJson readSpacecraft,
          List.forall_mem_cons.mpr ⟨member_of_checkedU32 readBoot,
            List.forall_mem_singleton.mpr (member_of_checkedU32 readProduct)⟩⟩
    | _ => cases accepted
  read_asWire := by
    intro r rest
    rw [ProductRef.asWire, List.append_assoc, List.append_assoc]
    exact bind_eq_ok_iff.mpr ⟨_, readU64_append r.spacecraftInstanceId _ _,
      bind_eq_ok_iff.mpr ⟨_, readU32_append r.originBootId _ _,
        bind_eq_ok_iff.mpr ⟨_, readU32_append r.productId _ _, rfl⟩⟩⟩
  asWire_of_read := by
    intro data r rest read
    obtain ⟨⟨spacecraft, afterSpacecraft⟩, readSpacecraft, read⟩ := bind_eq_ok_iff.mp read
    obtain ⟨⟨boot, afterBoot⟩, readBoot, read⟩ := bind_eq_ok_iff.mp read
    obtain ⟨⟨product, afterProduct⟩, readProduct, read⟩ := bind_eq_ok_iff.mp read
    cases read
    simp only at readBoot readProduct ⊢
    rw [readU64_eq_ok readSpacecraft, readU32_eq_ok readBoot, readU32_eq_ok readProduct,
      ProductRef.asWire, List.append_assoc, List.append_assoc]

/-! ## The layouts are lawful -/

/-- The field is read and written back, has to be there, and is short. -/
structure RequiredField (c : PayloadCodec) : Prop where
  lawful : c.Lawful SameValue
  refuses_none : ∀ bytes, c.write .none ≠ .ok bytes
  short : ∀ v bytes, c.write v = .ok bytes → bytes.length ≤ 16

theorem requiredField_u16Codec (name : String) : RequiredField (u16Codec name) where
  lawful := lawful_u16Codec name
  refuses_none := nofun
  short := by
    intro v bytes written
    obtain ⟨n, -, written⟩ := bind_eq_ok_iff.mp written
    cases written
    rw [length_toBytesBE]
    decide

theorem requiredField_u32Codec (name : String) : RequiredField (u32Codec name) where
  lawful := lawful_u32Codec name
  refuses_none := nofun
  short := by
    intro v bytes written
    obtain ⟨n, -, written⟩ := bind_eq_ok_iff.mp written
    cases written
    rw [length_toBytesBE]
    decide

theorem requiredField_sceneCodec : RequiredField sceneCodec where
  lawful := lawful_of_record lawful_sceneRef
  refuses_none := nofun
  short := by
    intro v bytes written
    obtain ⟨r, -, written⟩ := bind_eq_ok_iff.mp written
    cases written
    simp [SceneRef.asWire]

theorem requiredField_roiCodec : RequiredField roiCodec where
  lawful := lawful_of_record lawful_roi
  refuses_none := nofun
  short := by
    intro v bytes written
    obtain ⟨r, -, written⟩ := bind_eq_ok_iff.mp written
    cases written
    simp [Roi.asWire]

theorem requiredField_requestKeyCodec (groundLabel requestLabel : String) :
    RequiredField (requestKeyCodec groundLabel requestLabel) where
  lawful := lawful_of_record (lawful_requestKey groundLabel requestLabel)
  refuses_none := nofun
  short := by
    intro v bytes written
    obtain ⟨r, -, written⟩ := bind_eq_ok_iff.mp written
    cases written
    simp [RequestKey.asWire]

theorem requiredField_productCodec : RequiredField productCodec where
  lawful := lawful_of_record lawful_productRef
  refuses_none := nofun
  short := by
    intro v bytes written
    obtain ⟨r, -, written⟩ := bind_eq_ok_iff.mp written
    cases written
    simp [ProductRef.asWire]

theorem requiredField_payloadLayout (opcode : CommandOpcode) :
    ∀ field ∈ payloadLayout opcode, RequiredField field.2 := by
  have thresholds : ∀ field ∈ thresholdLayout, RequiredField field.2 :=
    List.forall_mem_cons.mpr ⟨requiredField_u16Codec _,
      List.forall_mem_singleton.mpr (requiredField_u16Codec _)⟩
  have config : ∀ field ∈ configLayout, RequiredField field.2 :=
    List.forall_mem_cons.mpr ⟨requiredField_u32Codec _,
      List.forall_mem_singleton.mpr (requiredField_u32Codec _)⟩
  have both : ∀ field ∈ configLayout ++ thresholdLayout, RequiredField field.2 :=
    List.forall_mem_append.mpr ⟨config, thresholds⟩
  cases opcode with
  | cloudSetConfig => exact both
  | sceneRequestCatalog => exact List.forall_mem_nil _
  | sceneRequestPreview => exact List.forall_mem_singleton.mpr requiredField_sceneCodec
  | sceneAnalyze => exact List.forall_mem_cons.mpr ⟨requiredField_sceneCodec, both⟩
  | roiRequest =>
      exact List.forall_mem_cons.mpr ⟨requiredField_sceneCodec, List.forall_mem_append.mpr
        ⟨config, List.forall_mem_cons.mpr ⟨requiredField_roiCodec, thresholds⟩⟩⟩
  | jobGetStatus | jobCancel =>
      exact List.forall_mem_singleton.mpr (requiredField_requestKeyCodec _ _)
  | productRequestDownlink =>
      exact List.forall_mem_cons.mpr ⟨requiredField_requestKeyCodec _ _,
        List.forall_mem_singleton.mpr requiredField_productCodec⟩
  | productCancelDownlink =>
      exact List.forall_mem_cons.mpr ⟨requiredField_productCodec,
        List.forall_mem_singleton.mpr (requiredField_u32Codec _)⟩

theorem nodup_payloadLayout (opcode : CommandOpcode) :
    ((payloadLayout opcode).map Prod.fst).Nodup := by
  cases opcode <;> decide

/-! ## Payloads -/

/-- The payload has the fields of its opcode and no others, on every level. -/
def OnlyPayloadFields (opcode : CommandOpcode) (payload : List (PyValue × PyValue)) : Prop :=
  OnlyFields ((payloadLayout opcode).map Prod.fst) payload ∧
    ∀ field ∈ payloadLayout opcode, field.2.only (dictGet payload field.1)

/-- A written payload is read back. -/
theorem decodePayload_of_encodePayload {opcode : CommandOpcode}
    {payload : List (PyValue × PyValue)} {data : Bytes}
    (written : encodePayload opcode payload = .ok data) : ∃ payload',
      decodePayload opcode data = .ok (payload', []) ∧
        (OnlyPayloadFields opcode payload → SameValue (.dict payload) (.dict payload')) := by
  have writtenAll := encodePayload_eq_ok_iff.mp written
  obtain ⟨fields, read, names, matched⟩ := readAll_writeAll
    (fun field mem => (requiredField_payloadLayout opcode field mem).lawful) writtenAll []
  rw [List.append_nil] at read
  refine ⟨fields.map fun field => (strKey field.1, field.2), ?_, fun only => ?_⟩
  · rw [decodePayload_eq]
    exact bind_eq_ok_iff.mpr ⟨_, read, rfl⟩
  · refine sameValue_of_fields (names ▸ only.1) (names ▸ nodup_payloadLayout opcode)
      fun field mem => ?_
    obtain ⟨c, inside, keeps⟩ := matched field mem
    refine ⟨fun absent => ?_, keeps (only.2 _ inside)⟩
    obtain ⟨part, writtenField⟩ := write_of_writeAll writtenAll _ inside
    simp only [absent] at writtenField
    exact (requiredField_payloadLayout opcode _ inside).refuses_none part writtenField

/-- A payload that was read is written as the bytes it was read from. -/
theorem encodePayload_of_decodePayload {opcode : CommandOpcode}
    {payload : List (PyValue × PyValue)} {data rest : Bytes}
    (read : decodePayload opcode data = .ok (payload, rest)) :
    ∃ bytes, encodePayload opcode payload = .ok bytes ∧ data = bytes ++ rest := by
  rw [decodePayload_eq] at read
  obtain ⟨⟨fields, rest'⟩, readFields, same⟩ := bind_eq_ok_iff.mp read
  cases same
  obtain ⟨names, bytes, split, writes⟩ := writeAll_of_readAll
    (fun field mem => (requiredField_payloadLayout opcode field mem).lawful) readFields
  refine ⟨bytes, encodePayload_eq_ok_iff.mpr (writes _ fun field mem => ?_), split⟩
  have distinct : ((fields.map fun field => (strKey field.1, field.2)).map Prod.fst).Nodup := by
    have mapped := (names ▸ nodup_payloadLayout opcode).map strKey_injective
    rw [List.map_map] at mapped ⊢
    exact mapped
  rw [dictGet, dictGet?_of_mem distinct (List.mem_map_of_mem mem)]
  rfl

/-! ## Commands -/

theorem ofCode?_code (opcode : CommandOpcode) : CommandOpcode.ofCode? opcode.code = some opcode := by
  cases opcode <;> rfl

theorem code_of_ofCode? {code : ℕ} {opcode : CommandOpcode}
    (known : CommandOpcode.ofCode? code = some opcode) : code = opcode.code := by
  unfold CommandOpcode.ofCode? at known
  split at known <;> cases known <;> rfl

theorem code_lt (opcode : CommandOpcode) : opcode.code < 2 ^ 32 := by
  cases opcode <;> decide

/-- The command has the fields of its opcode and no others, on every level. -/
def Command.OnlyFields (c : Command) : Prop := OnlyPayloadFields c.opcode c.payload

/-- Equal commands: the payloads are equal dictionaries. -/
def Command.Same (c c' : Command) : Prop :=
  c.opcode = c'.opcode ∧ c.target = c'.target ∧ c.requestKey = c'.requestKey ∧
    SameValue (.dict c.payload) (.dict c'.payload)

theorem encodeCommand_eq_ok {c : Command} {data : Bytes} : encodeCommand c = .ok data ↔
    ∃ payload, encodePayload c.opcode c.payload = .ok payload ∧
      toBytesBE 4 c.opcode.code ++ (toBytesBE 8 c.target.val ++ (toBytesBE 8
        c.requestKey.groundInstanceId.val ++ (toBytesBE 4 c.requestKey.requestId.val ++
          payload))) = data := by
  unfold encodeCommand Command.argumentBytes RequestKey.asWire
  constructor
  · intro written
    obtain ⟨arguments, writtenArguments, written⟩ := bind_eq_ok_iff.mp written
    obtain ⟨payload, writtenPayload, same⟩ := bind_eq_ok_iff.mp writtenArguments
    cases same
    cases written
    refine ⟨payload, writtenPayload, ?_⟩
    simp only [List.append_assoc]
  · rintro ⟨payload, writtenPayload, rfl⟩
    refine bind_eq_ok_iff.mpr ⟨_, bind_eq_ok_iff.mpr ⟨payload, writtenPayload, rfl⟩, ?_⟩
    simp only [List.append_assoc]

theorem decodeCommand_eq_ok {c : Command} {data : Bytes} : decodeCommand data = .ok c ↔
    ∃ payload, decodePayload c.opcode payload = .ok (c.payload, []) ∧
      data = toBytesBE 4 c.opcode.code ++ (toBytesBE 8 c.target.val ++ (toBytesBE 8
        c.requestKey.groundInstanceId.val ++ (toBytesBE 4 c.requestKey.requestId.val ++
          payload))) := by
  constructor
  · intro read
    obtain ⟨⟨code, afterCode⟩, readCode, read⟩ := bind_eq_ok_iff.mp read
    cases known : CommandOpcode.ofCode? code.val with
    | none =>
        simp only [known] at read
        cases read
    | some opcode =>
        simp only [known] at read
        obtain ⟨⟨target, afterTarget⟩, readTarget, read⟩ := bind_eq_ok_iff.mp read
        obtain ⟨⟨ground, afterGround⟩, readGround, read⟩ := bind_eq_ok_iff.mp read
        obtain ⟨⟨request, afterRequest⟩, readRequest, read⟩ := bind_eq_ok_iff.mp read
        obtain ⟨⟨payload, rest⟩, readPayload, read⟩ := bind_eq_ok_iff.mp read
        split at read
        · cases read
        · rename_i empty
          cases read
          simp only at readTarget readGround readRequest readPayload ⊢
          obtain rfl : rest = [] := List.length_eq_zero_iff.mp (not_not.mp empty)
          refine ⟨afterRequest, readPayload, ?_⟩
          rw [readU32_eq_ok readCode, readU64_eq_ok readTarget, readU64_eq_ok readGround,
            readU32_eq_ok readRequest, code_of_ofCode? known]
  · rintro ⟨payload, readPayload, rfl⟩
    refine bind_eq_ok_iff.mpr ⟨_, readU32_append ⟨c.opcode.code, code_lt c.opcode⟩ _ _, ?_⟩
    simp only [ofCode?_code]
    exact bind_eq_ok_iff.mpr ⟨_, readU64_append c.target _ _,
      bind_eq_ok_iff.mpr ⟨_, readU64_append c.requestKey.groundInstanceId _ _,
        bind_eq_ok_iff.mpr ⟨_, readU32_append c.requestKey.requestId _ _,
          bind_eq_ok_iff.mpr ⟨_, readPayload, rfl⟩⟩⟩⟩

/-- An encoded command is decoded. -/
theorem decodeCommand_of_encodeCommand {c : Command} {data : Bytes}
    (written : encodeCommand c = .ok data) :
    ∃ c', decodeCommand data = .ok c' ∧ (c.OnlyFields → c.Same c') := by
  obtain ⟨payload, writtenPayload, same⟩ := encodeCommand_eq_ok.mp written
  obtain ⟨payload', read, keeps⟩ := decodePayload_of_encodePayload writtenPayload
  exact ⟨⟨c.opcode, c.target, c.requestKey, payload'⟩,
    decodeCommand_eq_ok.mpr ⟨payload, read, same.symm⟩,
    fun only => ⟨rfl, rfl, rfl, keeps only⟩⟩

/-- A decoded command is encoded as the bytes it was read from. -/
theorem encodeCommand_of_decodeCommand {c : Command} {data : Bytes}
    (read : decodeCommand data = .ok c) : encodeCommand c = .ok data := by
  obtain ⟨payload, readPayload, same⟩ := decodeCommand_eq_ok.mp read
  obtain ⟨bytes, written, split⟩ := encodePayload_of_decodePayload readPayload
  rw [List.append_nil] at split
  exact encodeCommand_eq_ok.mpr ⟨payload, split ▸ written, same.symm⟩

/-! ## The digest -/

/-- A payload of at most six fields is far below the limit of its length field. -/
theorem length_encodePayload_le {opcode : CommandOpcode} {payload : List (PyValue × PyValue)}
    {data : Bytes} (written : encodePayload opcode payload = .ok data) : data.length ≤ 96 := by
  have bound := length_writeAll_le
    (fun field mem => (requiredField_payloadLayout opcode field mem).short)
    (encodePayload_eq_ok_iff.mp written)
  have fields : (payloadLayout opcode).length ≤ 6 := by cases opcode <;> decide
  omega

/-- The preimage of a command frames its wire bytes. -/
theorem missionPreimage_of_encodeCommand {c : Command} {data : Bytes}
    (written : encodeCommand c = .ok data) : ∃ arguments,
      data = toBytesBE 4 c.opcode.code ++ arguments ∧
      missionPreimage c = .ok ("mission-command-v1\x00".toUTF8.toList ++
        toBytesBE 2 protocolSchemaVersion ++ toBytesBE 4 c.opcode.code ++
          toBytesBE 4 arguments.length ++ arguments) := by
  obtain ⟨arguments, writtenArguments, written⟩ := bind_eq_ok_iff.mp written
  cases written
  refine ⟨arguments, rfl, bind_eq_ok_iff.mpr ⟨arguments, writtenArguments, ?_⟩⟩
  obtain ⟨payload, writtenPayload, same⟩ := bind_eq_ok_iff.mp writtenArguments
  cases same
  have short := length_encodePayload_le writtenPayload
  rw [if_pos]
  simp only [List.length_append, RequestKey.asWire, length_toBytesBE]
  omega

/-- Two commands have one preimage exactly when they have the same wire bytes. -/
theorem missionPreimage_eq_iff {c c' : Command} {data data' : Bytes}
    (written : encodeCommand c = .ok data) (written' : encodeCommand c' = .ok data') :
    missionPreimage c = missionPreimage c' ↔ data = data' := by
  obtain ⟨arguments, rfl, preimage⟩ := missionPreimage_of_encodeCommand written
  obtain ⟨arguments', rfl, preimage'⟩ := missionPreimage_of_encodeCommand written'
  rw [preimage, preimage']
  constructor
  · intro same
    -- the frames have one length, so the arguments start at the same place
    have frames (n m : ℕ) : (toBytesBE 4 n).length = (toBytesBE 4 m).length := by
      rw [length_toBytesBE, length_toBytesBE]
    obtain ⟨framed, rfl⟩ := List.append_inj (Except.ok.inj same) (by
      simp only [List.length_append, length_toBytesBE])
    obtain ⟨framed, -⟩ := List.append_inj' framed (frames _ _)
    obtain ⟨-, codes⟩ := List.append_inj' framed (frames _ _)
    rw [codes]
  · intro same
    obtain ⟨codes, rfl⟩ := List.append_inj same (by rw [length_toBytesBE, length_toBytesBE])
    rw [codes]

/-- **Round trips and digests.**  A command that has only the fields of its
opcode is decoded from its wire bytes; accepted wire bytes are the encoding of the
command they decode to; the preimages of two commands are equal exactly when their
wire bytes are; and the receiver computes the digest of the sender. -/
theorem command_roundTrip_and_digest :
    (∀ (c : Command) (payload : Bytes), encodePayload c.opcode c.payload = .ok payload →
      c.OnlyFields → ∃ data c', encodeCommand c = .ok data ∧ decodeCommand data = .ok c' ∧
        c.Same c') ∧
    (∀ (data : Bytes) (c : Command), decodeCommand data = .ok c → encodeCommand c = .ok data) ∧
    (∀ (c c' : Command) (data data' : Bytes), encodeCommand c = .ok data →
      encodeCommand c' = .ok data' → ∃ preimage preimage', missionPreimage c = .ok preimage ∧
        missionPreimage c' = .ok preimage' ∧ (preimage = preimage' ↔ data = data')) ∧
    (∀ (c : Command) (data : Bytes), encodeCommand c = .ok data → ∃ c' digest,
      decodeCommand data = .ok c' ∧ missionDigest c = .ok digest ∧
        missionDigest c' = .ok digest) := by
  refine ⟨fun c payload accepted only => ?_, fun data c => encodeCommand_of_decodeCommand,
    fun c c' data data' written written' => ?_, fun c data written => ?_⟩
  · have written := encodeCommand_eq_ok.mpr ⟨payload, accepted, rfl⟩
    obtain ⟨c', read, same⟩ := decodeCommand_of_encodeCommand written
    exact ⟨_, c', written, read, same only⟩
  · obtain ⟨arguments, -, preimage⟩ := missionPreimage_of_encodeCommand written
    obtain ⟨arguments', -, preimage'⟩ := missionPreimage_of_encodeCommand written'
    refine ⟨_, _, preimage, preimage', ?_⟩
    rw [← missionPreimage_eq_iff written written', preimage, preimage']
    exact ⟨congrArg Except.ok, Except.ok.inj⟩
  · obtain ⟨c', read, -⟩ := decodeCommand_of_encodeCommand written
    have same := (missionPreimage_eq_iff written (encodeCommand_of_decodeCommand read)).mpr rfl
    obtain ⟨arguments, -, preimage⟩ := missionPreimage_of_encodeCommand written
    have digest : missionDigest c = .ok _ := bind_eq_ok_iff.mpr ⟨_, preimage, rfl⟩
    refine ⟨c', _, read, digest, ?_⟩
    unfold missionDigest at digest ⊢
    rw [← same]
    exact digest

/-- The cancellation of a transfer. -/
def cancelDownlinkCommand : Command where
  opcode := .productCancelDownlink
  target := 7
  requestKey := ⟨1, 2⟩
  payload := [(strKey "transfer_id", .int 5),
    (strKey "product_ref", ProductRef.asDict ⟨7, 3, 4⟩)]

theorem onlyFields_of_keys {names : List String} (keys : List String)
    {entries : List (PyValue × PyValue)}
    (same : entries.map Prod.fst = keys.map strKey) (distinct : keys.Nodup)
    (sub : keys ⊆ names) : OnlyFields names entries := by
  refine ⟨same ▸ distinct.map strKey_injective, fun entry mem => ?_⟩
  have key : entry.1 ∈ keys.map strKey := same ▸ List.mem_map_of_mem mem
  obtain ⟨name, inside, spelled⟩ := List.mem_map.mp key
  exact ⟨name, sub inside, spelled.symm⟩

/-- The theorem applies to that command: the encoder accepts it and it has only
the fields of its opcode. -/
theorem command_roundTrip_and_digest_cancelDownlink :
    ∃ data c', encodeCommand cancelDownlinkCommand = .ok data ∧ decodeCommand data = .ok c' ∧
      cancelDownlinkCommand.Same c' := by
  have product : dictGet cancelDownlinkCommand.payload "product_ref" =
      ProductRef.asDict ⟨7, 3, 4⟩ := by
    unfold cancelDownlinkCommand
    rw [dictGet_cons_of_ne (by decide), dictGet_cons_self]
  refine command_roundTrip_and_digest.1 cancelDownlinkCommand
    (ProductRef.asWire ⟨7, 3, 4⟩ ++ toBytesBE 4 5) ?_ ⟨?_, ?_⟩
  · refine bind_eq_ok_iff.mpr ⟨5, ?_, bind_eq_ok_iff.mpr ⟨⟨7, 3, 4⟩, ?_, rfl⟩⟩
    · unfold cancelDownlinkCommand
      rw [dictGet_cons_self]
      exact checkedU32_int 5 _
    · rw [product]
      exact lawful_productRef.fromDict_asDict _
  · exact onlyFields_of_keys ["transfer_id", "product_ref"] rfl (by decide) (by decide)
  · refine List.forall_mem_cons.mpr ⟨?_, List.forall_mem_singleton.mpr trivial⟩
    rw [product]
    exact ⟨_, rfl, onlyFields_of_keys ["spacecraft_instance_id", "origin_boot_id", "product_id"] rfl (by decide)
        (by decide)⟩

end CubeNano

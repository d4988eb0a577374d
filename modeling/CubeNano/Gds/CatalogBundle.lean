import CubeNano.Lib.SortByKey
import CubeNano.Protocol.Command
import Mathlib.Data.Prod.Lex
import Mathlib.Order.Fin.Basic

/-!
# Catalog bundles

`CatalogBundle.parse` of `gds/catalog.py`.  A bundle is canonical JSON with a digest of its
scenes; the scenes of an accepted bundle have distinct identities.  The conversions with
which the parser reads a scene take more than the canonical types: `int` reads digits in
texts, `str` the digits of numbers, and `dict` takes a list of pairs.

## Main definitions

* `CatalogScene`, `CatalogBundle`, `CatalogBundle.parse`
* `ParsedBundle` — a bundle that `parse` returned

## Main statements

* `ParsedBundle.distinct`, `ParsedBundle.epoch_eq` — the identities of its scenes
-/

namespace CubeNano

/-! ## Conversions -/

/-- `iter(value)`, of a value from JSON. -/
def pyIter : PyValue → Raises (List PyValue)
  | .list items => .ok items
  | .str text => .ok (text.map fun c => .str [c])
  | .dict entries => .ok (entries.map Prod.fst)
  | .none => typeError "'NoneType' object is not iterable"
  | .bool _ => typeError "'bool' object is not iterable"
  | .int _ => typeError "'int' object is not iterable"
  | .float _ _ => typeError "'float' object is not iterable"
  | .bytes data => .ok (data.map fun byte => .int byte.toNat)

/-- Whether two hashable values are one dictionary key; `True` is the key `1`. -/
def sameKey : PyValue → PyValue → Bool
  | .str text, .str text' => text = text'
  | .none, .none => true
  | .int n, .int n' => n = n'
  | .int n, .bool value => n = if value then 1 else 0
  | .bool value, .int n => n = if value then 1 else 0
  | .bool value, .bool value' => value = value'
  | _, _ => false

/-- `entries[key] = value`. -/
def dictAssign (entries : PyDict) (key value : PyValue) : Raises PyDict :=
  match key with
  | .list _ => typeError "unhashable type: 'list'"
  | .dict _ => typeError "unhashable type: 'dict'"
  | key => .ok (
      if entries.any fun entry => sameKey entry.1 key then
        entries.map fun entry => if sameKey entry.1 key then (entry.1, value) else entry
      else entries ++ [(key, value)])

/-- An element of the sequence `dict` reads. -/
def dictElement (index : ℕ) (element : PyValue) : Raises (PyValue × PyValue) :=
  match pyIter element with
  | .ok [key, value] => .ok (key, value)
  | .ok items => valueError
      s!"dictionary update sequence element #{index} has length {items.length}; 2 is required"
  | .error _ => typeError
      s!"cannot convert dictionary update sequence element #{index} to a sequence"

/-- The rest of the sequence `dict` reads. -/
def dictOfElements (entries : PyDict) (index : ℕ) : List PyValue → Raises PyDict
  | [] => .ok entries
  | element :: rest => do
      let pair ← dictElement index element
      let assigned ← dictAssign entries pair.1 pair.2
      dictOfElements assigned (index + 1) rest

/-- `dict(value)`. -/
def pyDict : PyValue → Raises PyDict
  | .dict entries => .ok entries
  | value => do dictOfElements [] 0 (← pyIter value)

/-- `text.lower()`, of the letters of hexadecimal digits. -/
def lowerHexText (text : Text) : Text :=
  text.map fun c => if 0x41 ≤ c.val ∧ c.val ≤ 0x46 then Fin.ofNat _ (c.val + 0x20) else c

/-- `str(value).lower()`.  Of a list or a dictionary it is the opening bracket: no text that
is compared with it starts so. -/
def lowerStr : PyValue → Text
  | .str text => lowerHexText text
  | .int n => intText n
  | .bool value => Text.ofString (if value then "true" else "false")
  | .none => Text.ofString "none"
  | .float _ literal => literal
  | .bytes _ => Text.ofString "b"
  | .list _ => Text.ofString "["
  | .dict _ => Text.ofString "\x7b"

/-- `c.upper()`, of the characters whose upper case is in the letters `A` to `Z`: beside the
lower-case ones these are `ı`, `ſ` and the ligatures. -/
def upperPoint (c : CodePoint) : Text :=
  if 0x61 ≤ c.val ∧ c.val ≤ 0x7A then [Fin.ofNat _ (c.val - 0x20)]
  else if c.val = 0x131 then Text.ofString "I"
  else if c.val = 0x17F then Text.ofString "S"
  else if c.val = 0xDF then Text.ofString "SS"
  else if c.val = 0xFB00 then Text.ofString "FF"
  else if c.val = 0xFB01 then Text.ofString "FI"
  else if c.val = 0xFB02 then Text.ofString "FL"
  else if c.val = 0xFB03 then Text.ofString "FFI"
  else if c.val = 0xFB04 then Text.ofString "FFL"
  else if c.val = 0xFB05 ∨ c.val = 0xFB06 then Text.ofString "ST"
  else [c]

/-- `str(value).upper()`; only texts are the name of something. -/
def upperStr : PyValue → Text
  | .str text => text.flatMap upperPoint
  | _ => []

/-! ## Scenes -/

/-- The capabilities. -/
inductive SceneCapability
  | verified
  | unsupported
  | invalid
  deriving DecidableEq, Repr

/-- `CatalogScene`; the digests are hexadecimal texts. -/
structure CatalogScene where
  sceneRef : SceneRef
  sourceSha256 : Text
  sidecarSha256 : Text
  shape : List ℤ
  capability : SceneCapability
  domain : PyDict
  metadata : PyDict

/-- The identity of a scene in its catalog. -/
def CatalogScene.identity (scene : CatalogScene) : U32 × U32 :=
  (scene.sceneRef.sceneId, scene.sceneRef.sceneRevision)

/-- `_is_sha256`. -/
def isSha256 (text : Text) : Bool := text.length = 64 && text.all isLowerHex

/-- `str(item.get("capability", "UNSUPPORTED")).upper()`, as one of the capabilities. -/
def capabilityOf? (value : PyValue) : Option SceneCapability :=
  if upperStr value = Text.ofString "VERIFIED" then some .verified
  else if upperStr value = Text.ofString "UNSUPPORTED" then some .unsupported
  else if upperStr value = Text.ofString "INVALID" then some .invalid
  else none

/-- `tuple(int(value) for value in item.get("shape", ()))`, and its check. -/
def parseShape (item : PyDict) : Raises (List ℤ) := do
  let values ← pyIter ((dictGet? item "shape").getD (.list []))
  let shape ← values.mapM pyInt
  if shape.length ≠ 3 ∨ shape.any (· ≤ 0) then
    catalogError "CATALOG_SCHEMA_ERROR" "scene shape must be positive HWC"
  else .ok shape

/-- The capability of an entry. -/
def parseCapability (item : PyDict) : Raises SceneCapability :=
  match capabilityOf? ((dictGet? item "capability").getD (strKey "UNSUPPORTED")) with
  | some capability => .ok capability
  | none => catalogError "CATALOG_SCHEMA_ERROR" "unknown scene capability"

/-- The domain of an entry. -/
def parseDomain (item : PyDict) : Raises PyDict :=
  match (dictGet? item "domain").getD (.dict []) with
  | .dict entries => .ok entries
  | _ => catalogError "CATALOG_SCHEMA_ERROR" "scene domain must be an object"

/-- The identity of an entry. -/
def parseSceneRef (epoch : U32) (seen : List (U32 × U32)) (item : PyDict) : Raises SceneRef := do
  let ref ← SceneRef.fromDict ((dictGet? item "scene_ref").getD .none)
  if ref.catalogEpoch ≠ epoch then
    catalogError "CATALOG_EPOCH_MISMATCH" "scene epoch differs from catalog epoch"
  else if (ref.sceneId, ref.sceneRevision) ∈ seen then
    catalogError "CATALOG_DUPLICATE_SCENE" "catalog contains duplicate scene identity"
  else .ok ref

/-- The digests of an entry. -/
def parseDigests (item : PyDict) : Raises (Text × Text) :=
  let sourceSha := lowerStr ((dictGet? item "source_sha256").getD (.str []))
  let sidecarSha := lowerStr ((dictGet? item "sidecar_sha256").getD (.str []))
  if !isSha256 sourceSha || !isSha256 sidecarSha then
    catalogError "CATALOG_SCHEMA_ERROR" "scene source/sidecar hashes must be SHA-256"
  else .ok (sourceSha, sidecarSha)

/-- One entry of the scenes. -/
def parseScene (epoch : U32) (seen : List (U32 × U32)) (item : PyValue) : Raises CatalogScene :=
  match item with
  | .dict item => do
      let ref ← parseSceneRef epoch seen item
      let digests ← parseDigests item
      let shape ← parseShape item
      let capability ← parseCapability item
      let domain ← parseDomain item
      let metadata ← pyDict ((dictGet? item "metadata").getD (.dict []))
      .ok ⟨ref, digests.1, digests.2, shape, capability, domain, metadata⟩
  | _ => catalogError "CATALOG_SCHEMA_ERROR" "catalog scene entry must be an object"

/-- The loop over the scenes. -/
def parseScenes (epoch : U32) (seen : List (U32 × U32)) : List PyValue → Raises (List CatalogScene)
  | [] => .ok []
  | item :: rest => do
      let scene ← parseScene epoch seen item
      let scenes ← parseScenes epoch (scene.identity :: seen) rest
      .ok (scene :: scenes)

/-! ## Bundles -/

/-- `CatalogBundle`. -/
structure CatalogBundle where
  epoch : U32
  revision : U32
  snapshotSha256 : Text
  scenes : List CatalogScene
  bundleSha256 : Text
  rawBytes : Bytes

namespace CatalogBundle

/-- `json.loads(raw.decode("utf-8"))`. -/
def decode (raw : Bytes) : Raises PyValue :=
  match utf8Decode raw >>= jsonLoads with
  | .ok payload => .ok payload
  | .error failure =>
      if failure.kind = .unicodeDecodeError ∨ failure.kind = .jsonDecodeError then
        catalogError "CATALOG_DECODE_ERROR" "catalog bundle is not UTF-8 JSON"
      else .error failure

/-- `payload.get("schema_version") != 1`, negated; `True` is `1`. -/
def isVersionOne : PyValue → Bool
  | .int n => n = 1
  | .bool value => value
  | _ => false

/-- A payload of the schema. -/
def checkSchema (payload : PyValue) : Raises PyDict :=
  match payload with
  | .dict entries =>
      if isVersionOne ((dictGet? entries "schema_version").getD .none) then .ok entries
      else catalogError "CATALOG_SCHEMA_ERROR" "catalog schema_version must be 1"
  | _ => catalogError "CATALOG_SCHEMA_ERROR" "catalog schema_version must be 1"

/-- `canonical_json(payload) + b"\n" != raw`. -/
def checkCanonical (payload : PyDict) (raw : Bytes) : Raises Unit := do
  let encoded ← canonicalJson (.dict payload)
  if encoded ++ [0x0A] ≠ raw then
    catalogError "CATALOG_NON_CANONICAL" "catalog bundle is not canonical JSON"
  else .ok ()

/-- The scenes of a payload. -/
def rawScenes (payload : PyDict) : Raises (List PyValue) :=
  match dictGet? payload "scenes" with
  | some (.list items) => .ok items
  | _ => catalogError "CATALOG_SCHEMA_ERROR" "catalog scenes must be an array"

/-- The digest of a snapshot. -/
def snapshotSha (epoch revision : U32) (scenes : List PyValue) : Raises Text := do
  let unsigned ← canonicalJson (.dict [(strKey "catalog_epoch", .int epoch.val),
    (strKey "catalog_revision", .int revision.val), (strKey "scenes", .list scenes)])
  .ok (hexOfBytes (sha256 unsigned))

/-- The digest a payload declares. -/
def checkSnapshotSha (payload : PyDict) (computed : Text) : Raises Unit :=
  if lowerStr ((dictGet? payload "snapshot_sha256").getD (.str [])) ≠ computed then
    catalogError "CATALOG_CHECKSUM_FAILED" "catalog snapshot SHA-256 mismatch"
  else .ok ()

/-- `scenes.sort(key=…)`. -/
def sortScenes (scenes : List CatalogScene) : List CatalogScene :=
  sortByKey (fun scene => toLex scene.identity) scenes

/-- `CatalogBundle.parse`. -/
def parse (raw : Bytes) : Raises CatalogBundle := do
  let decoded ← decode raw
  let payload ← checkSchema decoded
  checkCanonical payload raw
  let epoch ← checkedU32 ((dictGet? payload "catalog_epoch").getD .none) "catalog_epoch"
  let revision ← checkedU32 ((dictGet? payload "catalog_revision").getD .none) "catalog_revision"
  let items ← rawScenes payload
  let computed ← snapshotSha epoch revision items
  checkSnapshotSha payload computed
  let scenes ← parseScenes epoch [] items
  .ok ⟨epoch, revision, computed, sortScenes scenes, hexOfBytes (sha256 raw), raw⟩

end CatalogBundle

/-- A bundle that `parse` returned. -/
structure ParsedBundle extends CatalogBundle where
  parsed : CatalogBundle.parse rawBytes = .ok toCatalogBundle

/-! ## The scenes of a bundle -/

/-- The identity of a scene of the loop is new, and of the catalog's epoch. -/
theorem parseScene_identity {epoch : U32} {seen : List (U32 × U32)} {item : PyValue}
    {scene : CatalogScene} (done : parseScene epoch seen item = .ok scene) :
    scene.sceneRef.catalogEpoch = epoch ∧ scene.identity ∉ seen := by
  unfold parseScene at done
  split at done
  · rename_i entries
    obtain ⟨ref, parsed, done⟩ := bind_eq_ok_iff.mp done
    obtain ⟨digests, -, done⟩ := bind_eq_ok_iff.mp done
    obtain ⟨shape, -, done⟩ := bind_eq_ok_iff.mp done
    obtain ⟨capability, -, done⟩ := bind_eq_ok_iff.mp done
    obtain ⟨domain, -, done⟩ := bind_eq_ok_iff.mp done
    obtain ⟨metadata, -, done⟩ := bind_eq_ok_iff.mp done
    cases done
    obtain ⟨read, -, checked⟩ := bind_eq_ok_iff.mp parsed
    split at checked
    · cases checked
    rename_i sameEpoch
    split at checked
    · cases checked
    rename_i unseen
    cases checked
    exact ⟨not_not.mp sameEpoch, unseen⟩
  · cases done

/-- The loop returns scenes of the epoch with identities of their own. -/
theorem parseScenes_identities {epoch : U32} {items : List PyValue} :
    ∀ {seen : List (U32 × U32)} {scenes : List CatalogScene},
      parseScenes epoch seen items = .ok scenes →
        (∀ scene ∈ scenes, scene.sceneRef.catalogEpoch = epoch ∧ scene.identity ∉ seen) ∧
          (scenes.map CatalogScene.identity).Nodup := by
  induction items with
  | nil =>
      rintro seen scenes ⟨⟩
      exact ⟨nofun, List.nodup_nil⟩
  | cons item rest ih =>
      intro seen scenes done
      obtain ⟨scene, parsed, done⟩ := bind_eq_ok_iff.mp done
      obtain ⟨others, looped, done⟩ := bind_eq_ok_iff.mp done
      cases done
      obtain ⟨fresh, distinct⟩ := ih looped
      have first := parseScene_identity parsed
      refine ⟨fun other mem => ?_, ?_⟩
      · rcases List.mem_cons.mp mem with rfl | mem
        · exact first
        · exact ⟨(fresh other mem).1, fun seen =>
            (fresh other mem).2 (List.mem_cons_of_mem _ seen)⟩
      · rw [List.map_cons, List.nodup_cons]
        refine ⟨fun mem => ?_, distinct⟩
        obtain ⟨other, mem, same⟩ := List.mem_map.mp mem
        exact (fresh other mem).2 (same ▸ List.mem_cons_self)

namespace ParsedBundle

/-- What `parse` has checked. -/
theorem checked (b : ParsedBundle) : (∃ text, utf8Decode b.rawBytes = .ok text) ∧
    ∃ scenes items, parseScenes b.epoch [] items = .ok scenes ∧
      b.scenes = CatalogBundle.sortScenes scenes := by
  have parsed := b.parsed
  obtain ⟨payload, decoded, parsed⟩ := bind_eq_ok_iff.mp parsed
  obtain ⟨entries, -, parsed⟩ := bind_eq_ok_iff.mp parsed
  obtain ⟨_, -, parsed⟩ := bind_eq_ok_iff.mp parsed
  obtain ⟨epoch, -, parsed⟩ := bind_eq_ok_iff.mp parsed
  obtain ⟨revision, -, parsed⟩ := bind_eq_ok_iff.mp parsed
  obtain ⟨items, -, parsed⟩ := bind_eq_ok_iff.mp parsed
  obtain ⟨computed, -, parsed⟩ := bind_eq_ok_iff.mp parsed
  obtain ⟨_, -, parsed⟩ := bind_eq_ok_iff.mp parsed
  obtain ⟨scenes, looped, parsed⟩ := bind_eq_ok_iff.mp parsed
  have bundle := Except.ok.inj parsed
  refine ⟨?_, scenes, items, ?_, ?_⟩
  · unfold CatalogBundle.decode at decoded
    split at decoded
    · rename_i loaded
      obtain ⟨text, read, -⟩ := bind_eq_ok_iff.mp loaded
      exact ⟨text, read⟩
    · split at decoded
      · cases decoded
      · cases decoded
  · rw [← congrArg CatalogBundle.epoch bundle]
    exact looped
  · exact (congrArg CatalogBundle.scenes bundle).symm

/-- The scenes of an accepted bundle have identities of their own. -/
theorem distinct (b : ParsedBundle) : (b.scenes.map CatalogScene.identity).Nodup := by
  obtain ⟨-, scenes, items, looped, sorted⟩ := b.checked
  rw [sorted]
  exact (((sortByKey_perm _ scenes).map CatalogScene.identity).nodup_iff).mpr
    (parseScenes_identities looped).2

/-- Its scenes are of its epoch. -/
theorem epoch_eq (b : ParsedBundle) : ∀ scene ∈ b.scenes, scene.sceneRef.catalogEpoch = b.epoch := by
  obtain ⟨-, scenes, items, looped, sorted⟩ := b.checked
  intro scene mem
  rw [sorted] at mem
  exact ((parseScenes_identities looped).1 scene ((mem_sortByKey _).mp mem)).1

/-- What `parse` returns keeps the bytes. -/
theorem exists_of_parse {raw : Bytes} {bundle : CatalogBundle}
    (parsed : CatalogBundle.parse raw = .ok bundle) :
    ∃ b : ParsedBundle, b.toCatalogBundle = bundle := by
  have rawBytes : bundle.rawBytes = raw := by
    obtain ⟨_, -, parsed⟩ := bind_eq_ok_iff.mp parsed
    obtain ⟨_, -, parsed⟩ := bind_eq_ok_iff.mp parsed
    obtain ⟨_, -, parsed⟩ := bind_eq_ok_iff.mp parsed
    obtain ⟨_, -, parsed⟩ := bind_eq_ok_iff.mp parsed
    obtain ⟨_, -, parsed⟩ := bind_eq_ok_iff.mp parsed
    obtain ⟨_, -, parsed⟩ := bind_eq_ok_iff.mp parsed
    obtain ⟨_, -, parsed⟩ := bind_eq_ok_iff.mp parsed
    obtain ⟨_, -, parsed⟩ := bind_eq_ok_iff.mp parsed
    obtain ⟨_, -, parsed⟩ := bind_eq_ok_iff.mp parsed
    rw [← Except.ok.inj parsed]
  exact ⟨⟨bundle, rawBytes ▸ parsed⟩, rfl⟩

/-- The bytes are the bundle. -/
theorem ext_of_rawBytes {b b' : ParsedBundle} (same : b.rawBytes = b'.rawBytes) : b = b' := by
  have bundles : b.toCatalogBundle = b'.toCatalogBundle := by
    have parsed := b.parsed
    rw [same, b'.parsed] at parsed
    exact (Except.ok.inj parsed).symm
  cases b
  cases b'
  cases bundles
  rfl

end ParsedBundle

end CubeNano

import CubeNano.Gds.CatalogBundle
import CubeNano.Protocol.PyNumbers
import CubeNano.Protocol.PyRepr

/-!
# Product manifests

`ArtifactDescriptor` and `ProductManifest` of `gds/product_store.py`.  A manifest is written as one
flat object of canonical JSON, the metadata beside the five fields of the envelope.  The reader
checks that the bytes are the canonical form of the value they write, and converts what it takes
from the value: `str` prints an artifact's path and the product type, `int` reads its size, and
`lower` folds its digest.

## Main definitions

* `ArtifactDescriptor`, `ProductManifest` — with the checks of their constructors
* `ProductManifest.asDict`, `ProductManifest.toBytes`, `ProductManifest.fromBytes`
-/

namespace CubeNano

/-! ## Paths -/

/-- `text.split("/")`. -/
def splitPath : Text → List Text
  | [] => [[]]
  | c :: rest =>
      if c = 0x2F then [] :: splitPath rest
      else
        match splitPath rest with
        | [] => [[c]]
        | part :: parts => (c :: part) :: parts

/-- The components of `posixpath.normpath` of a relative path, in reverse. -/
def normalComponents : (taken : List Text) → List Text → List Text
  | taken, [] => taken
  | taken, part :: rest =>
      if part = [] ∨ part = Text.ofString "." then normalComponents taken rest
      else if part ≠ Text.ofString ".." ∨ taken = [] ∨ taken.head? = some (Text.ofString "..") then
        normalComponents (part :: taken) rest
      else normalComponents taken.tail rest

/-- `posixpath.normpath` of a relative path. -/
def normPath (path : Text) : Text :=
  match normalComponents [] (splitPath path) with
  | [] => Text.ofString "."
  | parts => ((parts.reverse.intersperse [0x2F]).flatten)

/-- `normalize_artifact_path`. -/
def normalizeArtifactPath (path : Text) : Raises Text :=
  if path = [] ∨ path.any (fun c => 0x80 ≤ c.val) then
    productVerificationError "INVALID_ARTIFACT_PATH" "artifact path must be non-empty ASCII"
  else if path.contains 0x5C ∨ path.head? = some 0x2F ∨ path.getLast? = some 0x2F then
    productVerificationError "INVALID_ARTIFACT_PATH" "artifact path must be relative POSIX"
  else if normPath path = Text.ofString "." ∨ normPath path ≠ path ∨
      (splitPath path).any (fun part =>
        part = [] ∨ part = Text.ofString "." ∨ part = Text.ofString "..") then
    productVerificationError "INVALID_ARTIFACT_PATH"
      "artifact path contains traversal or redundant segments"
  else if path.length > 100 then
    productVerificationError "INVALID_ARTIFACT_PATH" "artifact path exceeds USTAR 100-byte limit"
  else .ok path

/-! ## Artifacts -/

/-- `ArtifactDescriptor`, with the checks of `__post_init__`. -/
structure ArtifactDescriptor where
  path : Text
  size : ℤ
  sha256 : Text
  path_normal : normalizeArtifactPath path = .ok path
  size_nonneg : 0 ≤ size
  sha256_hex : isSha256 sha256 = true

namespace ArtifactDescriptor

/-- The constructor. -/
def new (path : Text) (size : ℤ) (sha256 : Text) : Raises ArtifactDescriptor :=
  match h : normalizeArtifactPath path with
  | .error failure => .error failure
  | .ok normalized =>
      if same : normalized = path then
        if valid : 0 ≤ size ∧ isSha256 sha256 = true then
          .ok ⟨path, size, sha256, h.trans (congrArg Except.ok same), valid.1, valid.2⟩
        else
          productVerificationError "INVALID_ARTIFACT_DESCRIPTOR" "artifact size/hash is invalid"
      else
        productVerificationError "INVALID_ARTIFACT_PATH"
          "artifact paths must be normalized POSIX paths"

/-- `ArtifactDescriptor.as_dict`. -/
def asDict (a : ArtifactDescriptor) : PyValue :=
  .dict [(strKey "path", .str a.path), (strKey "size", .int a.size),
    (strKey "sha256", .str a.sha256)]

end ArtifactDescriptor

/-! ## Manifests -/

/-- The fields of the envelope. -/
def envelopeFields : List String :=
  ["schema_version", "product_type", "product_ref", "origin_request_key", "artifacts"]

/-- Whether a key is one of the envelope's. -/
def isEnvelopeField (key : PyValue) : Bool :=
  match key with
  | .str name => (envelopeFields.map Text.ofString).contains name
  | _ => false

/-- `key in metadata`, of a name. -/
def hasName (metadata : PyDict) (name : String) : Bool :=
  (stringKeys metadata).contains (Text.ofString name)

/-- The metadata a product type requires, in the order of the names. -/
def requiredFields (productType : Text) (metadata : PyDict) : List String :=
  if productType = Text.ofString "ANALYSIS" then
    if pyEq (dictGet metadata "model_task") (strKey "semantic_cloud_segmentation") then
      ["config_snapshot", "model_release_id", "pixel_cloud_ratio_bp", "roi", "scene_ref",
        "science_decision", "source_sha256"]
    else
      ["cloud_positive_tile_area_ratio_bp", "config_snapshot", "model_release_id", "roi",
        "scene_ref", "science_decision", "source_sha256"]
  else if productType = Text.ofString "PREVIEW" then
    ["display_profile", "scene_ref", "source_sha256"]
  else if productType = Text.ofString "CATALOG" then
    ["catalog_epoch", "catalog_revision", "snapshot_sha256"]
  else []

/-- The name of a product type that requires metadata. -/
def requiringType (productType : Text) : String :=
  if productType = Text.ofString "ANALYSIS" then "ANALYSIS"
  else if productType = Text.ofString "PREVIEW" then "PREVIEW"
  else "CATALOG"

/-- `ProductManifest.__post_init__`. -/
def checkManifest (productType : Text) (artifacts : List ArtifactDescriptor) (metadata : PyDict)
    (schemaVersion : ℤ) : Raises Unit :=
  let missing := (requiredFields productType metadata).filter fun name => !hasName metadata name
  let paths := artifacts.map ArtifactDescriptor.path
  let folded := paths.map fun path => path.map lowerPoint
  if schemaVersion ≠ 1 then
    productVerificationError "MANIFEST_SCHEMA_ERROR" "manifest schema_version must be 1"
  else if productType = [] ∨ productType.any (fun c => c.val < 0x20) then
    productVerificationError "MANIFEST_SCHEMA_ERROR" "product_type must be a printable string"
  else if metadata.any fun entry => isEnvelopeField entry.1 then
    productVerificationError "MANIFEST_SCHEMA_ERROR" "manifest metadata shadows an envelope field"
  else if missing ≠ [] then
    productVerificationError "MANIFEST_SCHEMA_ERROR"
      (requiringType productType ++ " manifest is missing [" ++
        ", ".intercalate (missing.map fun name => "'" ++ name ++ "'") ++ "]")
  else if paths ≠ paths.insertionSort (fun p p' => Text.le p p' = true) ∨ ¬ paths.Nodup then
    productVerificationError "MANIFEST_ARTIFACT_SET_ERROR" "artifact paths must be unique and sorted"
  else if Text.ofString "manifest.json" ∈ paths ∨ Text.ofString "bundle.tar" ∈ paths then
    productVerificationError "MANIFEST_ARTIFACT_SET_ERROR"
      "manifest and bundle are reserved product entries"
  else if ¬ folded.Nodup then
    productVerificationError "MANIFEST_ARTIFACT_SET_ERROR"
      "artifact paths collide case-insensitively"
  else .ok ()

/-- `ProductManifest`, with the checks of `__post_init__`. -/
structure ProductManifest where
  productType : Text
  productRef : ProductRef
  originRequestKey : RequestKey
  artifacts : List ArtifactDescriptor
  metadata : PyDict
  schemaVersion : ℤ
  checked : checkManifest productType artifacts metadata schemaVersion = .ok ()

namespace ProductManifest

/-- The constructor. -/
def new (productType : Text) (productRef : ProductRef) (originRequestKey : RequestKey)
    (artifacts : List ArtifactDescriptor) (metadata : PyDict) (schemaVersion : ℤ) :
    Raises ProductManifest :=
  match h : checkManifest productType artifacts metadata schemaVersion with
  | .ok () => .ok ⟨productType, productRef, originRequestKey, artifacts, metadata, schemaVersion, h⟩
  | .error failure => .error failure

/-- The fields of the envelope, as `as_dict` writes them. -/
def envelope (m : ProductManifest) : PyDict :=
  [(strKey "schema_version", .int m.schemaVersion), (strKey "product_type", .str m.productType),
    (strKey "product_ref", m.productRef.asDict),
    (strKey "origin_request_key", m.originRequestKey.asDict),
    (strKey "artifacts", .list (m.artifacts.map ArtifactDescriptor.asDict))]

/-- `ProductManifest.as_dict`. -/
def asDict (m : ProductManifest) : PyDict := dictUpdate m.envelope m.metadata

/-- `ProductManifest.to_bytes`. -/
def toBytes (m : ProductManifest) : Raises Bytes :=
  (canonicalJson (.dict m.asDict)).map fun encoded => encoded ++ [0x0A]

/-- `json.loads(raw.decode("utf-8"))`. -/
def decode (raw : Bytes) : Raises PyValue :=
  match utf8Decode raw >>= jsonLoads with
  | .ok value => .ok value
  | .error failure =>
      if failure.kind = .unicodeDecodeError ∨ failure.kind = .jsonDecodeError then
        productVerificationError "MANIFEST_DECODE_ERROR" "manifest is not UTF-8 JSON"
      else .error failure

/-- The object of a manifest of the schema; the version may be any value that equals 1. -/
def checkSchema (value : PyValue) : Raises PyDict :=
  match value with
  | .dict entries =>
      if pyEq (dictGet entries "schema_version") (.int 1) then .ok entries
      else productVerificationError "MANIFEST_SCHEMA_ERROR" "manifest schema_version must be 1"
  | _ => productVerificationError "MANIFEST_SCHEMA_ERROR" "manifest schema_version must be 1"

/-- `canonical_json(value) + b"\n" != raw`. -/
def checkCanonical (entries : PyDict) (raw : Bytes) : Raises Unit := do
  let encoded ← canonicalJson (.dict entries)
  if encoded ++ [0x0A] ≠ raw then
    productVerificationError "MANIFEST_NON_CANONICAL" "manifest is not canonical JSON"
  else .ok ()

/-- `value.get("artifacts")`, which has to be an array. -/
def rawArtifacts (entries : PyDict) : Raises (List PyValue) :=
  match dictGet entries "artifacts" with
  | .list items => .ok items
  | _ => productVerificationError "MANIFEST_SCHEMA_ERROR" "manifest artifacts must be an array"

/-- The fields of an entry that is an object. -/
def mapping? : PyValue → Option PyDict
  | .dict fields => some fields
  | _ => none

variable (table : CharacterTable)

/-- The descriptor of an artifact entry. -/
def readArtifact (fields : PyDict) : Raises ArtifactDescriptor := do
  let path ← normalizeArtifactPath (pyStr table (dictGet fields "path"))
  let size ← pyInt (dictGet fields "size")
  ArtifactDescriptor.new path size (lowerStr ((dictGet? fields "sha256").getD (.str [])))

/-- The descriptors of the entries; those that are no objects are passed over, and missed in
the end. -/
def readArtifacts (items : List PyValue) : Raises (List ArtifactDescriptor) := do
  let artifacts ← (items.filterMap mapping?).mapM (readArtifact table)
  if artifacts.length ≠ items.length then
    productVerificationError "MANIFEST_SCHEMA_ERROR" "manifest artifact entry must be an object"
  else .ok artifacts

/-- The members of an object beside the envelope. -/
def metadataOf (entries : PyDict) : PyDict := entries.filter fun entry => !isEnvelopeField entry.1

/-- `ProductManifest.from_bytes`. -/
def fromBytes (raw : Bytes) : Raises ProductManifest := do
  let value ← decode raw
  let entries ← checkSchema value
  checkCanonical entries raw
  let items ← rawArtifacts entries
  let artifacts ← readArtifacts table items
  let productRef ← ProductRef.fromDict (dictGet entries "product_ref")
  let originRequestKey ← RequestKey.fromDict (dictGet entries "origin_request_key")
  new (pyStr table ((dictGet? entries "product_type").getD (.str []))) productRef originRequestKey
    artifacts (metadataOf entries) 1

end ProductManifest

end CubeNano

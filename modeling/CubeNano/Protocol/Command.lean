import CubeNano.Protocol.ProductRef
import CubeNano.Protocol.Sha256

/-!
# Mission commands

The commands of `protocol/schemas.py`: an opcode, a target, a request key and a
payload dictionary whose fields the opcode determines.  `encodeCommand` looks the
fields up by name and concatenates them, `decodeCommand` reads them off in turn,
and `missionDigest` hashes what was concatenated.

The readers hold the unread bytes in place of an offset.

## Main definitions

* `Command`, `encodeCommand`, `decodeCommand`, `missionDigest`
-/

namespace CubeNano

/-- A 16-bit field. -/
abbrev U16 := Fin (2 ^ 16)

instance neZero_u16 : NeZero (2 ^ 16 : ℕ) := ⟨by decide⟩

/-- `CommandOpcode`. -/
inductive CommandOpcode
  | cloudSetConfig
  | sceneRequestCatalog
  | sceneRequestPreview
  | sceneAnalyze
  | roiRequest
  | jobGetStatus
  | jobCancel
  | productRequestDownlink
  | productCancelDownlink
  deriving DecidableEq, Repr

namespace CommandOpcode

/-- The wire value of an opcode. -/
def code : CommandOpcode → ℕ
  | cloudSetConfig => 0x00010001
  | sceneRequestCatalog => 0x00010002
  | sceneRequestPreview => 0x00010003
  | sceneAnalyze => 0x00010004
  | roiRequest => 0x00010005
  | jobGetStatus => 0x00010006
  | jobCancel => 0x00010007
  | productRequestDownlink => 0x00010008
  | productCancelDownlink => 0x00010009

/-- `CommandOpcode(value)`. -/
def ofCode? : ℕ → Option CommandOpcode
  | 0x00010001 => some cloudSetConfig
  | 0x00010002 => some sceneRequestCatalog
  | 0x00010003 => some sceneRequestPreview
  | 0x00010004 => some sceneAnalyze
  | 0x00010005 => some roiRequest
  | 0x00010006 => some jobGetStatus
  | 0x00010007 => some jobCancel
  | 0x00010008 => some productRequestDownlink
  | 0x00010009 => some productCancelDownlink
  | _ => none

/-- `opcode.name`. -/
def name : CommandOpcode → String
  | cloudSetConfig => "CLOUD_SET_CONFIG"
  | sceneRequestCatalog => "SCENE_REQUEST_CATALOG"
  | sceneRequestPreview => "SCENE_REQUEST_PREVIEW"
  | sceneAnalyze => "SCENE_ANALYZE"
  | roiRequest => "ROI_REQUEST"
  | jobGetStatus => "JOB_GET_STATUS"
  | jobCancel => "JOB_CANCEL"
  | productRequestDownlink => "PRODUCT_REQUEST_DOWNLINK"
  | productCancelDownlink => "PRODUCT_CANCEL_DOWNLINK"

end CommandOpcode

theorem toNat_lt_u16 {n : ℤ} (h : 0 ≤ n ∧ n < 2 ^ 16) : n.toNat < 2 ^ 16 := by omega

/-- `checked_u16`. -/
def checkedU16 (value : PyValue) (label : String) : Raises U16 :=
  match value with
  | .int n =>
      if h : 0 ≤ n ∧ n < 2 ^ 16 then .ok ⟨n.toNat, toNat_lt_u16 h⟩
      else valueError s!"{label} must be in [0, 65535]"
  | _ => typeError s!"{label} must be an integer"

/-- `payload.get(name)`. -/
def dictGet (entries : List (PyValue × PyValue)) (name : String) : PyValue :=
  (dictGet? entries name).getD .none

/-- `_require_mapping`. -/
def requireMapping (value : PyValue) (label : String) : Raises (List (PyValue × PyValue)) :=
  match value with
  | .dict entries => .ok entries
  | _ => valueError s!"{label} must be an object"

/-! ## The identities of a payload -/

/-- `RequestKey`. -/
structure RequestKey where
  groundInstanceId : U64
  requestId : U32
  deriving DecidableEq

namespace RequestKey

/-- `RequestKey.as_wire`. -/
def asWire (k : RequestKey) : Bytes :=
  toBytesBE 8 k.groundInstanceId.val ++ toBytesBE 4 k.requestId.val

/-- `RequestKey.as_dict`. -/
def asDict (k : RequestKey) : PyValue :=
  .dict [(strKey "ground_instance_id", .str (u64ToJson k.groundInstanceId)),
    (strKey "request_id", .int k.requestId.val)]

/-- `RequestKey.from_dict`. -/
def fromDict (value : PyValue) : Raises RequestKey := do
  let data ← requireMapping value "request_key"
  let ground ← u64FromJson (dictGet data "ground_instance_id") "ground_instance_id"
  let request ← checkedU32 (dictGet data "request_id") "request_id"
  .ok ⟨ground, request⟩

end RequestKey

/-- `ProductRef.as_wire`. -/
def ProductRef.asWire (r : ProductRef) : Bytes :=
  toBytesBE 8 r.spacecraftInstanceId.val ++ (toBytesBE 4 r.originBootId.val ++
    toBytesBE 4 r.productId.val)

/-- `SceneRef`. -/
structure SceneRef where
  catalogEpoch : U32
  sceneId : U32
  sceneRevision : U32
  deriving DecidableEq

namespace SceneRef

/-- `SceneRef.as_wire`. -/
def asWire (r : SceneRef) : Bytes :=
  toBytesBE 4 r.catalogEpoch.val ++ (toBytesBE 4 r.sceneId.val ++ toBytesBE 4 r.sceneRevision.val)

/-- `SceneRef.as_dict`. -/
def asDict (r : SceneRef) : PyValue :=
  .dict [(strKey "catalog_epoch", .int r.catalogEpoch.val), (strKey "scene_id", .int r.sceneId.val),
    (strKey "scene_revision", .int r.sceneRevision.val)]

/-- `SceneRef.from_dict`. -/
def fromDict (value : PyValue) : Raises SceneRef := do
  let data ← requireMapping value "scene_ref"
  let epoch ← checkedU32 (dictGet data "catalog_epoch") "catalog_epoch"
  let scene ← checkedU32 (dictGet data "scene_id") "scene_id"
  let revision ← checkedU32 (dictGet data "scene_revision") "scene_revision"
  .ok ⟨epoch, scene, revision⟩

end SceneRef

/-- `ROI`, with the checks of its constructor.  The ends of 32-bit intervals fit 64 bits. -/
structure Roi where
  x : U32
  y : U32
  width : U32
  height : U32
  extent_pos : width.val ≠ 0 ∧ height.val ≠ 0
  deriving DecidableEq

namespace Roi

/-- `ROI.__post_init__`. -/
def new (x y width height : U32) : Raises Roi :=
  if h : width.val ≠ 0 ∧ height.val ≠ 0 then .ok ⟨x, y, width, height, h⟩
  else valueError "ROI width and height must be positive"

/-- `ROI.as_wire`. -/
def asWire (r : Roi) : Bytes :=
  toBytesBE 4 r.x.val ++ (toBytesBE 4 r.y.val ++ (toBytesBE 4 r.width.val ++
    toBytesBE 4 r.height.val))

/-- `ROI.as_dict`. -/
def asDict (r : Roi) : PyValue :=
  .dict [(strKey "x", .int r.x.val), (strKey "y", .int r.y.val), (strKey "width", .int r.width.val),
    (strKey "height", .int r.height.val)]

/-- `ROI.from_dict`. -/
def fromDict (value : PyValue) : Raises Roi := do
  let data ← requireMapping value "roi"
  let x ← checkedU32 (dictGet data "x") "x"
  let y ← checkedU32 (dictGet data "y") "y"
  let width ← checkedU32 (dictGet data "width") "width"
  let height ← checkedU32 (dictGet data "height") "height"
  new x y width height

end Roi

/-! ## Commands -/

/-- `Command`. -/
structure Command where
  opcode : CommandOpcode
  target : U64
  requestKey : RequestKey
  payload : List (PyValue × PyValue)

/-- The four configuration fields of a payload. -/
structure ConfigFields where
  epoch : U32
  revision : U32
  modelBp : U16
  coverageBp : U16

/-- `_config_from_payload`. -/
def configFromPayload (payload : List (PyValue × PyValue)) : Raises ConfigFields := do
  let epoch ← checkedU32 (dictGet payload "expected_config_epoch") "expected_config_epoch"
  let revision ← checkedU32 (dictGet payload "expected_config_revision") "expected_config_revision"
  let modelBp ← checkedU16 (dictGet payload "model_threshold_bp") "model_threshold_bp"
  let coverageBp ← checkedU16 (dictGet payload "coverage_limit_bp") "coverage_limit_bp"
  .ok ⟨epoch, revision, modelBp, coverageBp⟩

/-- `_encode_payload`. -/
def encodePayload (opcode : CommandOpcode) (payload : List (PyValue × PyValue)) : Raises Bytes :=
  match opcode with
  | .cloudSetConfig => do
      let config ← configFromPayload payload
      .ok (toBytesBE 4 config.epoch.val ++ toBytesBE 4 config.revision.val ++
        toBytesBE 2 config.modelBp.val ++ toBytesBE 2 config.coverageBp.val)
  | .sceneRequestCatalog => .ok []
  | .sceneRequestPreview => do
      let scene ← SceneRef.fromDict (dictGet payload "scene_ref")
      .ok scene.asWire
  | .sceneAnalyze => do
      let scene ← SceneRef.fromDict (dictGet payload "scene_ref")
      let config ← configFromPayload payload
      .ok (scene.asWire ++ toBytesBE 4 config.epoch.val ++ toBytesBE 4 config.revision.val ++
        toBytesBE 2 config.modelBp.val ++ toBytesBE 2 config.coverageBp.val)
  | .roiRequest => do
      let scene ← SceneRef.fromDict (dictGet payload "scene_ref")
      let config ← configFromPayload payload
      let roi ← Roi.fromDict (dictGet payload "roi")
      .ok (scene.asWire ++ toBytesBE 4 config.epoch.val ++ toBytesBE 4 config.revision.val ++
        roi.asWire ++ toBytesBE 2 config.modelBp.val ++ toBytesBE 2 config.coverageBp.val)
  | .jobGetStatus | .jobCancel => do
      let key ← RequestKey.fromDict (dictGet payload "target_request_key")
      .ok key.asWire
  | .productRequestDownlink => do
      let key ← RequestKey.fromDict (dictGet payload "origin_request_key")
      let product ← ProductRef.fromDict (dictGet payload "product_ref")
      .ok (key.asWire ++ product.asWire)
  | .productCancelDownlink => do
      let transferId ← checkedU32 (dictGet payload "transfer_id") "transfer_id"
      let product ← ProductRef.fromDict (dictGet payload "product_ref")
      .ok (product.asWire ++ toBytesBE 4 transferId.val)

/-- `Command.argument_bytes`. -/
def Command.argumentBytes (c : Command) : Raises Bytes := do
  let payload ← encodePayload c.opcode c.payload
  .ok (toBytesBE 8 c.target.val ++ c.requestKey.asWire ++ payload)

/-- `encode_command`. -/
def encodeCommand (c : Command) : Raises Bytes := do
  let arguments ← c.argumentBytes
  .ok (toBytesBE 4 c.opcode.code ++ arguments)

/-! ## Reading -/

/-- A big-endian field of a command and what follows it. -/
def readField (width : ℕ) (label : String) (data : Bytes) : Raises (Fin (256 ^ width) × Bytes) :=
  if data.length < width then valueError s!"truncated command field {label}"
  else .ok (⟨fromBytesBE ((data.drop 0).take width), fromBytesBE_slice_lt data 0 width⟩,
    data.drop width)

/-- `_read_u16`. -/
def readU16 (label : String) (data : Bytes) : Raises (U16 × Bytes) := readField 2 label data

/-- `_read_u32`. -/
def readU32 (label : String) (data : Bytes) : Raises (U32 × Bytes) := readField 4 label data

/-- `_read_u64`. -/
def readU64 (label : String) (data : Bytes) : Raises (U64 × Bytes) := readField 8 label data

/-- The scene of a command. -/
def readSceneRef (data : Bytes) : Raises (SceneRef × Bytes) := do
  let epoch ← readU32 "catalog_epoch" data
  let scene ← readU32 "scene_id" epoch.2
  let revision ← readU32 "scene_revision" scene.2
  .ok (⟨epoch.1, scene.1, revision.1⟩, revision.2)

/-- The region of a command. -/
def readRoi (data : Bytes) : Raises (Roi × Bytes) := do
  let x ← readU32 "x" data
  let y ← readU32 "y" x.2
  let width ← readU32 "width" y.2
  let height ← readU32 "height" width.2
  let roi ← Roi.new x.1 y.1 width.1 height.1
  .ok (roi, height.2)

/-- A request key of a command, its fields under their labels. -/
def readRequestKey (groundLabel requestLabel : String) (data : Bytes) :
    Raises (RequestKey × Bytes) := do
  let ground ← readU64 groundLabel data
  let request ← readU32 requestLabel ground.2
  .ok (⟨ground.1, request.1⟩, request.2)

/-- The product of a command. -/
def readProductRef (data : Bytes) : Raises (ProductRef × Bytes) := do
  let spacecraft ← readU64 "product_spacecraft_instance_id" data
  let boot ← readU32 "origin_boot_id" spacecraft.2
  let product ← readU32 "product_id" boot.2
  .ok (⟨spacecraft.1, boot.1, product.1⟩, product.2)

/-- The payload part of `decode_command`: the dictionary and the bytes behind it. -/
def decodePayload (opcode : CommandOpcode) (data : Bytes) :
    Raises (List (PyValue × PyValue) × Bytes) :=
  match opcode with
  | .cloudSetConfig => do
      let epoch ← readU32 "expected_config_epoch" data
      let revision ← readU32 "expected_config_revision" epoch.2
      let modelBp ← readU16 "model_threshold_bp" revision.2
      let coverageBp ← readU16 "coverage_limit_bp" modelBp.2
      .ok ([(strKey "expected_config_epoch", .int epoch.1.val),
        (strKey "expected_config_revision", .int revision.1.val),
        (strKey "model_threshold_bp", .int modelBp.1.val),
        (strKey "coverage_limit_bp", .int coverageBp.1.val)], coverageBp.2)
  | .sceneRequestCatalog => .ok ([], data)
  | .sceneRequestPreview => do
      let scene ← readSceneRef data
      .ok ([(strKey "scene_ref", scene.1.asDict)], scene.2)
  | .sceneAnalyze => do
      let scene ← readSceneRef data
      let epoch ← readU32 "expected_config_epoch" scene.2
      let revision ← readU32 "expected_config_revision" epoch.2
      let modelBp ← readU16 "model_threshold_bp" revision.2
      let coverageBp ← readU16 "coverage_limit_bp" modelBp.2
      .ok ([(strKey "scene_ref", scene.1.asDict),
        (strKey "expected_config_epoch", .int epoch.1.val),
        (strKey "expected_config_revision", .int revision.1.val),
        (strKey "model_threshold_bp", .int modelBp.1.val),
        (strKey "coverage_limit_bp", .int coverageBp.1.val)], coverageBp.2)
  | .roiRequest => do
      let scene ← readSceneRef data
      let epoch ← readU32 "expected_config_epoch" scene.2
      let revision ← readU32 "expected_config_revision" epoch.2
      let roi ← readRoi revision.2
      let modelBp ← readU16 "model_threshold_bp" roi.2
      let coverageBp ← readU16 "coverage_limit_bp" modelBp.2
      .ok ([(strKey "scene_ref", scene.1.asDict),
        (strKey "expected_config_epoch", .int epoch.1.val),
        (strKey "expected_config_revision", .int revision.1.val),
        (strKey "roi", roi.1.asDict),
        (strKey "model_threshold_bp", .int modelBp.1.val),
        (strKey "coverage_limit_bp", .int coverageBp.1.val)], coverageBp.2)
  | .jobGetStatus | .jobCancel => do
      let key ← readRequestKey "target_ground_instance_id" "target_request_id" data
      .ok ([(strKey "target_request_key", key.1.asDict)], key.2)
  | .productRequestDownlink => do
      let key ← readRequestKey "origin_ground_instance_id" "origin_request_id" data
      let product ← readProductRef key.2
      .ok ([(strKey "origin_request_key", key.1.asDict),
        (strKey "product_ref", product.1.asDict)], product.2)
  | .productCancelDownlink => do
      let product ← readProductRef data
      let transferId ← readU32 "transfer_id" product.2
      .ok ([(strKey "product_ref", product.1.asDict),
        (strKey "transfer_id", .int transferId.1.val)], transferId.2)

/-- `decode_command`. -/
def decodeCommand (data : Bytes) : Raises Command := do
  let opcodeValue ← readU32 "opcode" data
  match CommandOpcode.ofCode? opcodeValue.1.val with
  | none => valueError ("unknown command opcode 0x" ++ hexDigits 8 opcodeValue.1.val)
  | some opcode => do
      let target ← readU64 "target_spacecraft_instance_id" opcodeValue.2
      let ground ← readU64 "ground_instance_id" target.2
      let request ← readU32 "request_id" ground.2
      let payload ← decodePayload opcode request.2
      if payload.2.length ≠ 0 then
        valueError s!"trailing bytes in {opcode.name} command"
      else .ok ⟨opcode, target.1, ⟨ground.1, request.1⟩, payload.1⟩

/-! ## The digest -/

/-- `PROTOCOL_SCHEMA_VERSION`. -/
def protocolSchemaVersion : ℕ := 1

/-- The bytes `mission_digest` hashes. -/
def missionPreimage (c : Command) : Raises Bytes := do
  let arguments ← c.argumentBytes
  if arguments.length < 2 ^ 32 then
    .ok ("mission-command-v1\x00".toUTF8.toList ++ toBytesBE 2 protocolSchemaVersion ++
      toBytesBE 4 c.opcode.code ++ toBytesBE 4 arguments.length ++ arguments)
  else overflowError "int too big to convert"

/-- `mission_digest`. -/
def missionDigest (c : Command) : Raises Text := do
  let data ← missionPreimage c
  .ok (hexOfBytes (sha256 data))

end CubeNano

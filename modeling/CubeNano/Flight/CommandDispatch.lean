import CubeNano.Flight.Journal
import CubeNano.Flight.SatelliteSimulator

/-!
# Command dispatch

The commands of `CloudPayload` (`flight/cloud_payload.py`): `handle_command` with the nine
operations behind it.

A method is an `EStateM` program over the journal, or over the journal with the downlink
coordinator; each transaction of the journal is one step of it.  The worker client is an
input of a call.

## Main definitions

* `PayloadDeployment`, `PayloadState`, `WorkerPort`
* `PayloadDeployment.handleCommand`
-/

namespace CubeNano

/-! ## The deployment -/

/-- A record of the scene catalog. -/
structure SceneRecord where
  sceneRef : SceneRef
  /-- `shape[0]`. -/
  height : ℤ
  /-- `shape[1]`. -/
  width : ℤ
  capability : String
  domain : PyValue
  /-- `as_dict`, which may have to read the sidecar. -/
  asDict : Raises PyDict

/-- `SceneCatalog`. -/
structure SceneCatalog where
  epoch : ℤ
  scenes : Table U32 SceneRecord
  snapshot : PyDict

/-- `SceneCatalog.get`. -/
def SceneCatalog.get (catalog : SceneCatalog) (ref : SceneRef) : Raises SceneRecord :=
  if (ref.catalogEpoch.val : ℤ) ≠ catalog.epoch then valueError "CATALOG_EPOCH_MISMATCH"
  else
    match catalog.scenes.find? ref.sceneId with
    | none => valueError "SCENE_NOT_FOUND"
    | some record =>
        if record.sceneRef.sceneRevision ≠ ref.sceneRevision then
          valueError "SCENE_REVISION_MISMATCH"
        else if record.capability ≠ "VERIFIED" then valueError s!"SCENE_{record.capability}"
        else .ok record

/-- The thresholds a `DecisionSpec` fixes. -/
structure DecisionSpec where
  pixelCloudProbabilityThresholdBp : ℕ
  coverageLimitBp : ℕ

/-- `DecisionSpec.matches_config`. -/
def DecisionSpec.matchesConfig (spec : DecisionSpec) (pixelThresholdBp coverageLimitBp : ℕ) :
    Bool :=
  pixelThresholdBp = spec.pixelCloudProbabilityThresholdBp ∧ coverageLimitBp = spec.coverageLimitBp

/-- What the command handlers read of the deployment and of the released model. -/
structure PayloadDeployment where
  spacecraftInstanceId : U64
  catalog : SceneCatalog
  /-- The decision contract of a `semantic_cloud_segmentation` release that has one. -/
  decisionSpec : Option DecisionSpec
  /-- `manifest.domain_status`. -/
  domainStatus : PyValue → String
  /-- `_job_deadline_ms`, with the deadline contract made of it. -/
  jobDeadlineMs : SceneRecord → Roi → Raises (ℕ × ℕ)
  /-- The entries of a job's snapshot that the release and the deployment determine. -/
  releaseSnapshot : PyDict

/-! ## Programs -/

/-- A method that works on the journal alone. -/
abbrev JournalProgram (α : Type) := EStateM PyException SatelliteJournal α

/-- A transaction that returns a value. -/
def transact {α : Type} (f : SatelliteJournal → Raises (α × SatelliteJournal)) :
    JournalProgram α := fun j =>
  match f j with
  | .ok (value, j') => .ok value j'
  | .error failure => .error failure j

/-- A transaction without a value. -/
def commit (f : SatelliteJournal → Raises SatelliteJournal) : JournalProgram Unit :=
  transact fun j => (f j).map fun j' => ((), j')

/-- `journal.append_event`. -/
def appendEvent (name : String) (body : PyDict) (requestKey : Option RequestKey) :
    JournalProgram Unit := commit fun j => j.appendEvent name body requestKey

/-- The state of the payload. -/
structure PayloadState where
  journal : SatelliteJournal
  fileDownlink : FileDownlinkCoordinator

/-- A method of the payload. -/
abbrev PayloadProgram (α : Type) := EStateM PyException PayloadState α

/-- A method of the journal as a step of a method of the payload. -/
def onJournal {α : Type} (x : JournalProgram α) : PayloadProgram α := fun s =>
  match x s.journal with
  | .ok value j => .ok value { s with journal := j }
  | .error failure j => .error failure { s with journal := j }

/-- What a step of the coordinator leaves.  A transition of the active transfer reaches its row
through `_persist_transfer_state`. -/
def PayloadState.withDownlink (s : PayloadState) (d : DownlinkState) : PayloadState where
  journal :=
    let journal := { s.journal with counters := d.counters }
    match d.coordinator.active with
    | none => journal
    | some active =>
        if (s.fileDownlink.active.map fun old => (old.attemptEpoch, old.state)) =
            some (active.attemptEpoch, active.state) then journal
        else journal.updateTransfer active.transferId (.of active.state)
  fileDownlink := d.coordinator

/-- A method of the coordinator as a step of a method of the payload.  None of them makes more
than one transition. -/
def onDownlink {α : Type} (x : DownlinkProgram α) : PayloadProgram α := fun s =>
  match x ⟨s.fileDownlink, s.journal.counters⟩ with
  | .ok value d => .ok value (s.withDownlink d)
  | .error failure d => .error failure (s.withDownlink d)

/-- What the payload calls of its worker client. -/
structure WorkerPort where
  submit : RequestKey → PyDict → JournalProgram Unit
  cancel : RequestKey → JournalProgram String

/-! ## Results -/

/-- `_error_response` to a command. -/
def errorResponse (command : Command) (errorCode : String) : PyDict :=
  [(strKey "stage", strKey "COMMAND_REJECTED"), (strKey "error_code", strKey errorCode),
    (strKey "request_key", command.requestKey.asDict)]

/-- `Command.semantic_dict`. -/
def Command.semanticDict (c : Command) : PyDict :=
  [(strKey "opcode", .int c.opcode.code),
    (strKey "target_spacecraft_instance_id", .str (u64ToJson c.target)),
    (strKey "request_key", c.requestKey.asDict), (strKey "payload", .dict c.payload)]

/-- `journal.record_command` of a command. -/
def recordCommand (command : Command) (digest : Text) (state : RecordState) (result : PyDict) :
    JournalProgram Unit :=
  commit fun j => j.recordCommand command.requestKey command.opcode digest command.semanticDict
    state result

/-- An executed command is recorded with its result. -/
def recordExecuted (command : Command) (digest : Text) (result : PyDict) :
    JournalProgram PyDict := do
  recordCommand command digest .executed result
  pure result

/-- `_record_rejection`. -/
def recordRejection (command : Command) (digest : Text) (errorCode : String) :
    JournalProgram PyDict := do
  let result := errorResponse command errorCode
  recordCommand command digest .commandRejected result
  appendEvent "COMMAND_REJECTED" result (some command.requestKey)
  pure result

/-- The exceptions `handle_command` turns into a rejection. -/
def rejectFailure (command : Command) (digest : Text) (failure : PyException) :
    JournalProgram PyDict :=
  if failure.isValueError || failure.kind.isRuntimeError then
    recordRejection command digest failure.message
  else throw failure

namespace PayloadDeployment

variable (p : PayloadDeployment)

/-! ## Configuration -/

/-- The release fixes other thresholds. -/
def decisionMismatch (modelBp coverageBp : ℕ) : Bool :=
  p.decisionSpec.any fun spec => !spec.matchesConfig modelBp coverageBp

/-- The configuration of a command is applied. -/
def applyConfig (command : Command) (digest : Text) (fields : ConfigFields) :
    JournalProgram PyDict := do
  let (_, result) ← transact fun j => j.applyConfigCommand command.requestKey command.opcode digest
    command.semanticDict fields
  appendEvent "COMMAND_ACCEPTED" result (some command.requestKey)
  pure result

/-- `_handle_set_config`. -/
def handleSetConfig (command : Command) (digest : Text) : JournalProgram PyDict := do
  let fields ← liftRaises (configFromPayload command.payload)
  if p.decisionMismatch fields.modelBp.val fields.coverageBp.val then
    recordRejection command digest "DECISION_SPEC_MISMATCH"
  else applyConfig command digest fields

/-- `_validate_config_payload`. -/
def validateConfigPayload (current : ConfigSnapshot) (payload : PyDict) :
    Raises ConfigSnapshot := do
  let fields ← configFromPayload payload
  let expected ← ConfigSnapshot.new fields.epoch fields.revision fields.modelBp fields.coverageBp
  if current.identity ≠ expected.identity then valueError "CONFIG_REVISION_MISMATCH"
  else if current.modelThresholdBp ≠ expected.modelThresholdBp ∨
      current.coverageLimitBp ≠ expected.coverageLimitBp then
    valueError "CONFIG_SNAPSHOT_MISMATCH"
  else if p.decisionMismatch current.modelThresholdBp.val current.coverageLimitBp.val then
    valueError "DECISION_SPEC_MISMATCH"
  else .ok current

/-! ## Catalog -/

/-- `SCENE_REQUEST_PREVIEW`. -/
def previewResult (command : Command) : Raises PyDict := do
  let ref ← SceneRef.fromDict (dictGet command.payload "scene_ref")
  let _ ← p.catalog.get ref
  .ok [(strKey "stage", strKey "EXECUTED"),
    (strKey "preview_policy", strKey "PRODUCT_REQUEST_REQUIRED"),
    (strKey "scene_ref", dictGet command.payload "scene_ref")]

/-! ## Analysis -/

/-- What `_admit_analysis` reads before it allocates the product. -/
structure AnalysisPlan where
  sceneRef : SceneRef
  scene : SceneRecord
  domainStatus : String
  config : ConfigSnapshot
  roi : Roi

/-- The region of an analysis command. -/
def analysisRoi (command : Command) (scene : SceneRecord) : Raises Roi :=
  if command.opcode = .roiRequest then Roi.fromDict (dictGet command.payload "roi")
  else do
    let width ← checkedU32 (.int scene.width) "width"
    let height ← checkedU32 (.int scene.height) "height"
    Roi.new 0 0 width height

/-- The checks of `_admit_analysis`. -/
def planAnalysis (config : ConfigSnapshot) (command : Command) : Raises AnalysisPlan := do
  let sceneRef ← SceneRef.fromDict (dictGet command.payload "scene_ref")
  let scene ← p.catalog.get sceneRef
  let domainStatus := p.domainStatus scene.domain
  if domainStatus = "DOMAIN_MISMATCH" then valueError "DOMAIN_MISMATCH"
  else do
    let config ← p.validateConfigPayload config command.payload
    let roi ← analysisRoi command scene
    if scene.width < roi.x.val + roi.width.val ∨ scene.height < roi.y.val + roi.height.val then
      valueError "INVALID_ROI"
    else .ok ⟨sceneRef, scene, domainStatus, config, roi⟩

/-- `immutable_snapshot`. -/
def immutableSnapshot (command : Command) (plan : AnalysisPlan) (productRef : ProductRef)
    (patchCount deadlineMs : ℕ) : Raises PyDict := do
  let scene ← plan.scene.asDict
  .ok (p.releaseSnapshot ++
    [(strKey "domain_status", strKey plan.domainStatus),
      (strKey "config_snapshot", plan.config.asDict), (strKey "scene_ref", plan.sceneRef.asDict),
      (strKey "roi", plan.roi.asDict), (strKey "scene", .dict scene),
      (strKey "product_ref", productRef.asDict),
      (strKey "origin_request_key", command.requestKey.asDict),
      (strKey "patch_count", .int patchCount), (strKey "job_deadline_ms", .int deadlineMs)])

/-- The job of a request that the worker did not take. -/
def rejectSubmission (command : Command) (failure : PyException) : JournalProgram PyDict := do
  let errorCode := if failure.kind = .workerQueueFull then "QUEUE_FULL" else failure.message
  let key := command.requestKey
  let _ ← transact fun j => j.transitionJob key [.queued] .failed none (some errorCode)
  let _ ← transact fun j => .ok (j.failProductForJob key)
  let result : PyDict :=
    [(strKey "stage", strKey "COMMAND_REJECTED"), (strKey "error_code", strKey errorCode)]
  commit fun j => j.updateCommandResult key .commandRejected result
  appendEvent errorCode result (some key)
  pure result

/-- `worker_client.submit`, where there is a client. -/
def submitJob (worker : Option WorkerPort) (key : RequestKey) (snapshot : PyDict) :
    JournalProgram Unit :=
  match worker with
  | none => liftRaises (runtimeError "SERVICE_FAULT")
  | some client => client.submit key snapshot

/-- The submission of an admitted job: what the worker refused, if it did. -/
def trySubmit (worker : Option WorkerPort) (key : RequestKey) (snapshot : PyDict) :
    JournalProgram (Option PyException) :=
  tryCatch (do
    submitJob worker key snapshot
    pure none) fun failure =>
      if failure.kind.isRuntimeError then pure (some failure) else throw failure

/-- The events of an accepted job. -/
def acceptSubmission (command : Command) (result : PyDict) : JournalProgram PyDict := do
  appendEvent "COMMAND_ACCEPTED" result (some command.requestKey)
  appendEvent "JOB_QUEUED" result (some command.requestKey)
  pure result

/-- `_admit_analysis`. -/
def admitAnalysis (worker : Option WorkerPort) (command : Command) (digest : Text) :
    JournalProgram PyDict := do
  let j ← get
  let plan ← liftRaises (p.planAnalysis j.config command)
  let productId ← transact SatelliteJournal.allocateProductId
  let productRef : ProductRef := ⟨p.spacecraftInstanceId, j.bootId, productId⟩
  let (patchCount, deadlineMs) ← liftRaises (p.jobDeadlineMs plan.scene plan.roi)
  let snapshot ← liftRaises (p.immutableSnapshot command plan productRef patchCount deadlineMs)
  let result ← transact fun j => j.admitAnalysis command.requestKey command.opcode digest
    command.semanticDict snapshot productRef
  match ← trySubmit worker command.requestKey snapshot with
  | some failure => rejectSubmission command failure
  | none => acceptSubmission command result

/-! ## Jobs -/

/-- `_job_status`. -/
def jobStatus (command : Command) (digest : Text) : JournalProgram PyDict := do
  let target ← liftRaises (RequestKey.fromDict (dictGet command.payload "target_request_key"))
  let j ← get
  recordExecuted command digest <|
    match j.getJob target with
    | none => errorResponse command "TARGET_RETIRED"
    | some row =>
        [(strKey "stage", strKey "EXECUTED"), (strKey "job_key", target.asDict),
          (strKey "state", strKey row.state.text),
          (strKey "result", (row.result.map PyValue.dict).getD .none),
          (strKey "error_code", (row.errorCode.map strKey).getD .none)]

/-- A cancellation the worker client did not take. -/
def failCancel (target : RequestKey) (failure : PyException) : JournalProgram String :=
  if failure.kind = .workerQueueFull then pure "CANCEL_REQUESTED"
  else if failure.kind.isRuntimeError then do
    let _ ← transact fun j => j.transitionJob target [.cancelRequested] .failed
      (some [(strKey "error", strKey failure.message)]) (some "CANCEL_FAILED")
    let _ ← transact fun j => .ok (j.failProductForJob target)
    pure "CANCEL_FAILED"
  else throw failure

/-- The cancellation of a job that has not ended: the outcome. -/
def cancelOpenJob (worker : Option WorkerPort) (target : RequestKey) : JournalProgram String := do
  let _ ← transact fun j => j.transitionJob target [.queued, .running] .cancelRequested none
    (some "CANCEL_REQUESTED")
  match worker with
  | some client => tryCatch (client.cancel target) (failCancel target)
  | none => do
      let _ ← transact fun j => j.transitionJob target [.cancelRequested] .canceled none
        (some "WORKER_CANCELED")
      let _ ← transact fun j => .ok (j.failProductForJob target)
      pure "CANCELED"

/-- The outcome of `JOB_CANCEL`. -/
def cancelResult (worker : Option WorkerPort) (command : Command) (target : RequestKey) :
    JournalProgram PyDict := do
  let j ← get
  match j.getJob target with
  | none => pure (errorResponse command "TARGET_RETIRED")
  | some row =>
      if row.state.terminal then
        pure [(strKey "stage", strKey "EXECUTED"),
          (strKey "cancel_outcome", strKey "ALREADY_TERMINAL"),
          (strKey "state", strKey row.state.text)]
      else do
        let outcome ← cancelOpenJob worker target
        let j ← get
        pure [(strKey "stage", strKey "EXECUTED"), (strKey "cancel_outcome", strKey outcome),
          (strKey "state", strKey (((j.getJob target).map fun row => row.state.text).getD
            "CANCELED"))]

/-- `_job_cancel`. -/
def jobCancel (worker : Option WorkerPort) (command : Command) (digest : Text) :
    JournalProgram PyDict := do
  let target ← liftRaises (RequestKey.fromDict (dictGet command.payload "target_request_key"))
  let result ← cancelResult worker command target
  recordExecuted command digest result

/-! ## Downlinks -/

/-- The checks of `_admit_downlink`. -/
def checkDownlink (j : SatelliteJournal) (command : Command) : Raises ProductRef :=
  if j.getActiveTransfer.isSome then runtimeError "TRANSFER_BUSY"
  else do
    let product ← ProductRef.fromDict (dictGet command.payload "product_ref")
    if product.spacecraftInstanceId ≠ p.spacecraftInstanceId then
      valueError "PRODUCT_TARGET_INSTANCE_MISMATCH"
    else
      match j.getProduct product with
      | none => valueError "PRODUCT_NOT_READY"
      | some row =>
          if row.state ≠ .ready then valueError "PRODUCT_NOT_READY"
          else do
            let origin ← RequestKey.fromDict (dictGet command.payload "origin_request_key")
            if row.origin ≠ origin then valueError "ORIGIN_REQUEST_MISMATCH" else .ok product

/-- `_admit_downlink`. -/
def admitDownlink (command : Command) (digest : Text) : JournalProgram PyDict := do
  let j ← get
  let product ← liftRaises (p.checkDownlink j command)
  let transferId ← transact SatelliteJournal.allocateTransferId
  let result ← transact fun j => j.admitDownlink command.requestKey command.opcode digest
    command.semanticDict transferId product
  appendEvent "PRODUCT_DOWNLINK_STARTED" result (some command.requestKey)
  pure result

/-- The result of `PRODUCT_CANCEL_DOWNLINK`. -/
def cancelDownlinkResult (transferId : U32) (outcome : String) : PyDict :=
  [(strKey "stage", strKey "EXECUTED"), (strKey "cancel_outcome", strKey outcome),
    (strKey "transfer_id", .int transferId.val)]

/-- The cancellation of a transfer that is not the coordinator's. -/
def cancelIdleTransfer (product : ProductRef) (transferId : U32) : JournalProgram String := do
  let j ← get
  match j.getTransfer transferId with
  | none => liftRaises (valueError "TRANSFER_NOT_FOUND")
  | some row =>
      if row.productRef ≠ product then liftRaises (valueError "TRANSFER_PRODUCT_MISMATCH")
      else if row.state = .queued then do
        commit fun j => .ok (j.updateTransfer transferId (.of .canceled))
        pure "CANCELED"
      else pure "ALREADY_TERMINAL"

/-- The cancellation of a transfer: the outcome. -/
def cancelTransfer (product : ProductRef) (transferId : U32) : PayloadProgram String := do
  let s ← get
  match s.fileDownlink.active with
  | none => onJournal (cancelIdleTransfer product transferId)
  | some active =>
      if active.transferId = transferId then
        if active.productRef ≠ product then liftRaises (valueError "TRANSFER_PRODUCT_MISMATCH")
        else onDownlink (FileDownlinkCoordinator.cancel transferId)
      else onJournal (cancelIdleTransfer product transferId)

/-- `_cancel_downlink`. -/
def cancelDownlink (command : Command) : PayloadProgram PyDict := do
  let product ← liftRaises (ProductRef.fromDict (dictGet command.payload "product_ref"))
  if product.spacecraftInstanceId ≠ p.spacecraftInstanceId then
    liftRaises (valueError "PRODUCT_TARGET_INSTANCE_MISMATCH")
  else do
    let transferId ← liftRaises (checkedU32 (dictGet command.payload "transfer_id") "transfer_id")
    let outcome ← cancelTransfer product transferId
    pure (cancelDownlinkResult transferId outcome)

/-! ## The dispatcher -/

/-- The command of a request that is new. -/
def executeCommand (worker : Option WorkerPort) (command : Command) (digest : Text) :
    PayloadProgram PyDict :=
  match command.opcode with
  | .cloudSetConfig => onJournal (p.handleSetConfig command digest)
  | .sceneRequestCatalog => onJournal <| recordExecuted command digest
      [(strKey "stage", strKey "EXECUTED"), (strKey "catalog", .dict p.catalog.snapshot)]
  | .sceneRequestPreview => do
      let result ← liftRaises (p.previewResult command)
      onJournal (recordExecuted command digest result)
  | .sceneAnalyze | .roiRequest => onJournal (p.admitAnalysis worker command digest)
  | .jobGetStatus => onJournal (jobStatus command digest)
  | .jobCancel => onJournal (jobCancel worker command digest)
  | .productRequestDownlink => onJournal (p.admitDownlink command digest)
  | .productCancelDownlink => do
      let result ← p.cancelDownlink command
      onJournal (recordExecuted command digest result)

/-- The answer to a request by what the journal knows of it. -/
def answerRequest (worker : Option WorkerPort) (command : Command) (digest : Text) :
    RequestLookup → PayloadProgram PyDict
  | .duplicate cached =>
      pure (if cached.isEmpty then
        [(strKey "stage", strKey "DUPLICATE_REQUEST_RETIRED"),
          (strKey "request_key", command.requestKey.asDict)]
      else cached)
  | .conflict => pure (errorResponse command "DUPLICATE_REQUEST_CONFLICT")
  | .retired => pure (errorResponse command "DUPLICATE_REQUEST_RETIRED")
  | .new => tryCatch (p.executeCommand worker command digest) fun failure =>
      onJournal (rejectFailure command digest failure)

/-- `handle_command`. -/
def handleCommand (worker : Option WorkerPort) (command : Command) : PayloadProgram PyDict := do
  let digest ← liftRaises (missionDigest command)
  if command.target ≠ p.spacecraftInstanceId then
    onJournal (recordRejection command digest "TARGET_INSTANCE_MISMATCH")
  else do
    let s ← get
    p.answerRequest worker command digest (s.journal.lookupRequest command.requestKey digest)

end PayloadDeployment

end CubeNano

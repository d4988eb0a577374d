import CubeNano.Flight.FileDownlink
import CubeNano.Protocol.Command
import Mathlib.Data.List.MinMax

/-!
# The onboard journal

`SatelliteJournal` of `flight/journal.py`: the durable record of commands, analysis jobs,
products, transfers, the mission configuration and the journal events.

A method is one transaction.  It is a function of the journal that returns the journal
left behind or raises, and what raises is rolled back.  A column that holds JSON keeps the
value its text denotes; writing it raises what `canonical_json` raises.

## Main definitions

* `SatelliteJournal`, `ConfigSnapshot`, `JobRow`, `ProductRow`, `TransferRow`
* `SatelliteJournal.applyConfigCommand`, `.recordCommand`, `.admitAnalysis`,
  `.transitionJob`, `.completeJobWithProduct`, `.failProductForJob`, `.admitDownlink`
* `SatelliteJournal.restart` — a new boot with `reconcile_after_restart`
-/

namespace CubeNano

/-! ## Rows -/

/-- `ConfigSnapshot`, with the checks of its constructor. -/
structure ConfigSnapshot where
  epoch : U32
  revision : U32
  modelThresholdBp : U16
  coverageLimitBp : U16
  basisPoints_le : modelThresholdBp.val ≤ 10000 ∧ coverageLimitBp.val ≤ 10000
  deriving DecidableEq

namespace ConfigSnapshot

/-- `ConfigSnapshot.__post_init__`. -/
def new (epoch revision : U32) (modelThresholdBp coverageLimitBp : U16) : Raises ConfigSnapshot :=
  if h : modelThresholdBp.val ≤ 10000 ∧ coverageLimitBp.val ≤ 10000 then
    .ok ⟨epoch, revision, modelThresholdBp, coverageLimitBp, h⟩
  else valueError "threshold basis points must be in [0, 10000]"

/-- `ConfigSnapshot.as_dict`. -/
def asDict (c : ConfigSnapshot) : PyValue :=
  .dict [(strKey "config_epoch", .int c.epoch.val), (strKey "config_revision", .int c.revision.val),
    (strKey "model_threshold_bp", .int c.modelThresholdBp.val),
    (strKey "coverage_limit_bp", .int c.coverageLimitBp.val)]

/-- The identity of a configuration. -/
def identity (c : ConfigSnapshot) : U32 × U32 := (c.epoch, c.revision)

end ConfigSnapshot

/-- The states of a command record. -/
inductive RecordState
  | executed
  | dispatched
  | commandRejected
  | executionFailed
  | other (state : Text)
  deriving DecidableEq, Repr

/-- A row of `commands`. -/
structure CommandRecord where
  opcode : CommandOpcode
  digest : Text
  state : RecordState
  result : PyDict

/-- A row of `retired_request_ranges`. -/
structure RetiredRange where
  groundInstanceId : U64
  startRequestId : ℕ
  endRequestId : ℕ

/-- The states of an analysis job. -/
inductive JobState
  | queued
  | running
  | cancelRequested
  | succeeded
  | failed
  | timeout
  | canceled
  deriving DecidableEq, Repr

namespace JobState

/-- `TERMINAL_JOB_STATES`. -/
def terminal : JobState → Bool
  | succeeded | failed | timeout | canceled => true
  | _ => false

/-- The text of the column. -/
def text : JobState → String
  | queued => "QUEUED"
  | running => "RUNNING"
  | cancelRequested => "CANCEL_REQUESTED"
  | succeeded => "SUCCEEDED"
  | failed => "FAILED"
  | timeout => "TIMEOUT"
  | canceled => "CANCELED"

end JobState

/-- A row of `jobs`. -/
structure JobRow where
  state : JobState
  productRef : ProductRef
  result : Option PyDict
  errorCode : Option String

/-- The states of a product. -/
inductive ProductState
  | staging
  | ready
  | failed
  deriving DecidableEq, Repr

/-- The columns of a product that its publication fills. -/
structure ProductSummary where
  path : Option Text
  manifestSha256 : PyValue
  bundleSha256 : PyValue
  bundleSize : PyValue

/-- A row of `products`. -/
structure ProductRow where
  origin : RequestKey
  state : ProductState
  summary : Option ProductSummary

/-- The state of a row of `transfers`. -/
inductive TransferRowState
  | queued
  | of (state : TransferState)
  deriving DecidableEq, Repr

/-- The states `get_active_transfer` selects. -/
def TransferRowState.active : TransferRowState → Bool
  | queued => true
  | of .sending | of .cancelRequested | of .cancelDraining | of .aborting | of .cooldown => true
  | of _ => false

/-- A row of `transfers`. -/
structure TransferRow where
  productRef : ProductRef
  state : TransferRowState
  deriving DecidableEq

/-- A row of `events`; its identifier is its position, counted from one. -/
structure EventRow where
  name : String
  requestKey : Option RequestKey
  body : PyDict

/-- `SatelliteJournal`. -/
structure SatelliteJournal where
  bootId : U32
  nextProductId : U32
  nextTransferId : U32
  config : ConfigSnapshot
  commands : Table RequestKey CommandRecord
  retired : List RetiredRange
  jobs : Table RequestKey JobRow
  products : Table ProductRef ProductRow
  transfers : Table U32 TransferRow
  events : List EventRow
  counters : TmCounterTables

/-- What `lookup_request` finds. -/
inductive RequestLookup
  | new
  | duplicate (cached : PyDict)
  | conflict
  | retired

/-- `_json` of a dictionary. -/
def checkJson (value : PyDict) : Raises Unit := validateCanonical (.dict value)

/-- A value bound to a column. -/
def bindColumn : PyValue → Raises PyValue
  | .int n =>
      if -(2 ^ 63) ≤ n ∧ n < 2 ^ 63 then .ok (.int n)
      else overflowError "Python int too large to convert to SQLite INTEGER"
  | .str text =>
      if text.all fun c => c.val < 0xD800 ∨ 0xDFFF < c.val then .ok (.str text)
      else .error ⟨.unicodeEncodeError, "surrogates not allowed"⟩
  | .list _ => .error ⟨.programmingError, "Error binding parameter: type 'list' is not supported"⟩
  | .dict _ => .error ⟨.programmingError, "Error binding parameter: type 'dict' is not supported"⟩
  | value => .ok value

/-- The text a column of type `TEXT` keeps. -/
def textAffinity : PyValue → Option Text
  | .str text => some text
  | .int n => some (intText n)
  | .bool value => some (intText (if value then 1 else 0))
  | .float _ literal => some literal
  | _ => none

/-- `summary[name]`. -/
def summaryColumn (summary : PyDict) (name : String) : Raises PyValue :=
  match dictGet? summary name with
  | none => keyError name
  | some value => .ok value

/-- The columns of a published product. -/
def productSummary (summary : PyDict) : Raises ProductSummary := do
  let directory ← summaryColumn summary "product_directory"
  let manifestSha256 ← summaryColumn summary "manifest_sha256"
  let bundleSha256 ← summaryColumn summary "bundle_sha256"
  let bundleSize ← summaryColumn summary "bundle_size"
  let directory ← bindColumn directory
  let manifestSha256 ← bindColumn manifestSha256
  let bundleSha256 ← bindColumn bundleSha256
  let bundleSize ← bindColumn bundleSize
  .ok ⟨textAffinity directory, manifestSha256, bundleSha256, bundleSize⟩

namespace SatelliteJournal

/-- The row `config` of a new journal. -/
def initialConfig : ConfigSnapshot := ⟨0, 0, 5000, 6000, by decide⟩

/-- A new journal after its first boot. -/
def initial : SatelliteJournal :=
  ⟨1, 1, 1, initialConfig, .empty, [], .empty, .empty, .empty, [], .initial⟩

/-! ## Commands -/

/-- `lookup_request`. -/
def lookupRequest (j : SatelliteJournal) (key : RequestKey) (digest : Text) : RequestLookup :=
  match j.commands.find? key with
  | some row => if row.digest ≠ digest then .conflict else .duplicate row.result
  | none =>
      if j.retired.any fun range => range.groundInstanceId = key.groundInstanceId ∧
          range.startRequestId ≤ key.requestId.val ∧ key.requestId.val ≤ range.endRequestId then
        .retired
      else .new

/-- `INSERT INTO commands`. -/
def insertCommand (j : SatelliteJournal) (key : RequestKey) (row : CommandRecord) :
    Raises SatelliteJournal :=
  match j.commands.insert key row with
  | none => integrityError
      "UNIQUE constraint failed: commands.ground_instance_id, commands.request_id"
  | some commands => .ok { j with commands := commands }

/-- `record_command`. -/
def recordCommand (j : SatelliteJournal) (key : RequestKey) (opcode : CommandOpcode)
    (digest : Text) (payload : PyDict) (state : RecordState) (result : PyDict) :
    Raises SatelliteJournal := do
  checkJson payload
  checkJson result
  j.insertCommand key ⟨opcode, digest, state, result⟩

/-- `update_command_result`. -/
def updateCommandResult (j : SatelliteJournal) (key : RequestKey) (state : RecordState)
    (result : PyDict) : Raises SatelliteJournal := do
  checkJson result
  .ok { j with
    commands := j.commands.update key fun row => { row with state := state, result := result } }

/-! ## Configuration -/

/-- The identity that follows the current one. -/
def nextIdentity (config : ConfigSnapshot) : Raises (U32 × U32) :=
  if config.revision.val ≥ 0xFFFFFFFF then
    if config.epoch.val ≥ 0xFFFFFFFF then
      runtimeError "config identity exhausted; migrate spacecraft instance"
    else .ok (config.epoch + 1, 0)
  else .ok (config.epoch, config.revision + 1)

/-- The result of an executed configuration command. -/
def configResult (snapshot : ConfigSnapshot) : PyDict :=
  [(strKey "stage", strKey "EXECUTED"), (strKey "config_snapshot", snapshot.asDict)]

/-- `apply_config_command`. -/
def applyConfigCommand (j : SatelliteJournal) (key : RequestKey) (opcode : CommandOpcode)
    (digest : Text) (payload : PyDict) (expected : ConfigFields) :
    Raises ((ConfigSnapshot × PyDict) × SatelliteJournal) :=
  if j.config.identity ≠ (expected.epoch, expected.revision) then
    valueError "CONFIG_REVISION_MISMATCH"
  else do
    let next ← nextIdentity j.config
    let snapshot ← ConfigSnapshot.new next.1 next.2 expected.modelBp expected.coverageBp
    let result := configResult snapshot
    checkJson payload
    checkJson result
    let recorded ← { j with config := snapshot }.insertCommand key
      ⟨opcode, digest, .executed, result⟩
    .ok ((snapshot, result), recorded)

/-! ## Jobs and products -/

/-- `allocate_product_id`. -/
def allocateProductId (j : SatelliteJournal) : Raises (U32 × SatelliteJournal) :=
  if j.nextProductId.val = 0xFFFFFFFF then
    runtimeError "product_id exhausted; migrate spacecraft instance"
  else .ok (j.nextProductId, { j with nextProductId := j.nextProductId + 1 })

/-- The result of an admitted analysis. -/
def analysisResult (key : RequestKey) (productRef : ProductRef) : PyDict :=
  [(strKey "stage", strKey "DISPATCHED"), (strKey "job_key", key.asDict),
    (strKey "product_ref", productRef.asDict)]

/-- `INSERT INTO products`. -/
def insertProduct (j : SatelliteJournal) (ref : ProductRef) (row : ProductRow) :
    Raises SatelliteJournal :=
  match j.products.insert ref row with
  | none => integrityError ("UNIQUE constraint failed: products.spacecraft_instance_id, " ++
      "products.origin_boot_id, products.product_id")
  | some products => .ok { j with products := products }

/-- `INSERT INTO jobs`. -/
def insertJob (j : SatelliteJournal) (key : RequestKey) (row : JobRow) :
    Raises SatelliteJournal :=
  match j.jobs.insert key row with
  | none => integrityError "UNIQUE constraint failed: jobs.ground_instance_id, jobs.request_id"
  | some jobs => .ok { j with jobs := jobs }

/-- `admit_analysis`. -/
def admitAnalysis (j : SatelliteJournal) (key : RequestKey) (opcode : CommandOpcode)
    (digest : Text) (payload snapshot : PyDict) (productRef : ProductRef) :
    Raises (PyDict × SatelliteJournal) := do
  let result := analysisResult key productRef
  let j ← j.recordCommand key opcode digest payload .dispatched result
  let j ← j.insertProduct productRef ⟨key, .staging, none⟩
  checkJson snapshot
  let j ← j.insertJob key ⟨.queued, productRef, none, none⟩
  .ok (result, j)

/-- `get_job`. -/
def getJob (j : SatelliteJournal) (key : RequestKey) : Option JobRow := j.jobs.find? key

/-- `get_product`. -/
def getProduct (j : SatelliteJournal) (ref : ProductRef) : Option ProductRow := j.products.find? ref

/-- Whether the job is in one of the states. -/
def jobIn (j : SatelliteJournal) (key : RequestKey) (expected : List JobState) : Bool :=
  (j.getJob key).any fun row => expected.contains row.state

/-- The row of a job in a new state. -/
def movedJob (state : JobState) (result : Option PyDict) (errorCode : Option String)
    (row : JobRow) : JobRow :=
  { row with state := state, result := result, errorCode := errorCode }

/-- `UPDATE jobs SET state=?,result_json=?,error_code=?`. -/
def updateJob (j : SatelliteJournal) (key : RequestKey) (state : JobState)
    (result : Option PyDict) (errorCode : Option String) : SatelliteJournal :=
  { j with jobs := j.jobs.update key (movedJob state result errorCode) }

/-- `transition_job`. -/
def transitionJob (j : SatelliteJournal) (key : RequestKey) (expected : List JobState)
    (state : JobState) (result : Option PyDict) (errorCode : Option String) :
    Raises (Bool × SatelliteJournal) := do
  checkJson (result.getD [])
  if j.jobIn key expected then .ok (true, j.updateJob key state result errorCode)
  else .ok (false, j)

/-- `UPDATE products SET ... WHERE ... AND state='STAGING'`. -/
def updateStaging (j : SatelliteJournal) (ref : ProductRef) (f : ProductRow → ProductRow) :
    SatelliteJournal :=
  { j with products := j.products.update ref fun row =>
      if row.state = .staging then f row else row }

/-- `complete_job_with_product`. -/
def completeJobWithProduct (j : SatelliteJournal) (key : RequestKey) (expected : List JobState)
    (result : PyDict) (productRef : ProductRef) (summary : PyDict) :
    Raises (Bool × SatelliteJournal) := do
  checkJson result
  if j.jobIn key expected then do
    let columns ← productSummary summary
    if (j.getProduct productRef).any fun row => row.state = .staging then
      .ok (true, (j.updateJob key .succeeded (some result) none).updateStaging productRef
        fun row => { row with state := .ready, summary := some columns })
    else runtimeError "product staging row missing during atomic publish"
  else .ok (false, j)

/-- `fail_product_for_job`. -/
def failProductForJob (j : SatelliteJournal) (key : RequestKey) :
    Option ProductRef × SatelliteJournal :=
  match j.getJob key with
  | none => (none, j)
  | some job =>
      (some job.productRef, j.updateStaging job.productRef fun row => { row with state := .failed })

/-! ## Transfers -/

/-- `allocate_transfer_id`. -/
def allocateTransferId (j : SatelliteJournal) : Raises (U32 × SatelliteJournal) :=
  if j.nextTransferId.val = 0xFFFFFFFF then
    runtimeError "transfer_id exhausted; migrate spacecraft instance"
  else .ok (j.nextTransferId, { j with nextTransferId := j.nextTransferId + 1 })

/-- `get_transfer`. -/
def getTransfer (j : SatelliteJournal) (transferId : U32) : Option TransferRow :=
  j.transfers.find? transferId

/-- `get_active_transfer`. -/
def getActiveTransfer (j : SatelliteJournal) : Option (U32 × TransferRow) :=
  (j.transfers.rows.filter fun entry => entry.2.state.active).argmin Prod.fst

/-- `update_transfer`. -/
def updateTransfer (j : SatelliteJournal) (transferId : U32) (state : TransferRowState) :
    SatelliteJournal :=
  { j with transfers := j.transfers.update transferId fun row => { row with state := state } }

/-- The result of an admitted downlink. -/
def downlinkResult (transferId : U32) (productRef : ProductRef) : PyDict :=
  [(strKey "stage", strKey "DISPATCHED"), (strKey "transfer_id", .int transferId.val),
    (strKey "product_ref", productRef.asDict)]

/-- `INSERT INTO transfers`. -/
def insertTransfer (j : SatelliteJournal) (transferId : U32) (row : TransferRow) :
    Raises SatelliteJournal :=
  match j.transfers.insert transferId row with
  | none => integrityError "UNIQUE constraint failed: transfers.transfer_id"
  | some transfers => .ok { j with transfers := transfers }

/-- `admit_downlink`. -/
def admitDownlink (j : SatelliteJournal) (key : RequestKey) (opcode : CommandOpcode)
    (digest : Text) (payload : PyDict) (transferId : U32) (productRef : ProductRef) :
    Raises (PyDict × SatelliteJournal) := do
  let result := downlinkResult transferId productRef
  let j ← j.recordCommand key opcode digest payload .dispatched result
  let j ← j.insertTransfer transferId ⟨productRef, .queued⟩
  .ok (result, j)

/-! ## Events -/

/-- `append_event`. -/
def appendEvent (j : SatelliteJournal) (name : String) (body : PyDict)
    (requestKey : Option RequestKey) : Raises SatelliteJournal := do
  checkJson body
  .ok { j with events := j.events ++ [⟨name, requestKey, body⟩] }

/-! ## Restart -/

/-- The update of `jobs` in `reconcile_after_restart`. -/
def reconcileJob (row : JobRow) : JobRow :=
  if row.state.terminal then row
  else { row with state := .failed, errorCode := some "RESTART_RECONCILIATION" }

/-- The update of `products`. -/
def reconcileProduct (row : ProductRow) : ProductRow :=
  if row.state = .staging then { row with state := .failed } else row

/-- The update of `transfers`. -/
def reconcileTransfer (row : TransferRow) : TransferRow :=
  if row.state.active then { row with state := .of .sendFailed } else row

/-- `reconcile_after_restart`. -/
def reconcileAfterRestart (j : SatelliteJournal) : SatelliteJournal :=
  { j with
    jobs := j.jobs.mapRows fun _ => reconcileJob
    products := j.products.mapRows fun _ => reconcileProduct
    transfers := j.transfers.mapRows fun _ => reconcileTransfer }

/-- `_increment_boot_id`. -/
def incrementBootId (j : SatelliteJournal) : Raises SatelliteJournal :=
  if j.bootId.val ≥ 0xFFFFFFFF then
    runtimeError "spacecraft_boot_id exhausted; migrate spacecraft instance"
  else .ok { j with bootId := j.bootId + 1 }

/-- The journal a new process of the satellite opens and reconciles. -/
def restart (j : SatelliteJournal) : Raises SatelliteJournal := do
  let j ← j.incrementBootId
  .ok j.reconcileAfterRestart

end SatelliteJournal

end CubeNano

import CubeNano.Flight.CommandDispatch
import CubeNano.Lib.Machine

/-!
# Worker results

`WorkerResult` of `sat_ai/worker_contract.py`, and the callbacks by which the worker client
reports to `CloudPayload` (`flight/cloud_payload.py`): a job was started, a job has a result.

A `PayloadRun` is the payload over any sequence of commands, callbacks and restarts.

## Main definitions

* `WorkerResult`
* `handleWorkerStarted`, `handleWorkerResult`
* `payloadMachine`
-/

namespace CubeNano

/-! ## Results -/

/-- `WorkerResultState`. -/
inductive WorkerResultState
  | succeeded
  | rejected
  | failed
  | canceled
  | timeout
  deriving DecidableEq, Repr

namespace WorkerResultState

/-- The value of the enumeration. -/
def text : WorkerResultState → String
  | succeeded => "SUCCEEDED"
  | rejected => "REJECTED"
  | failed => "FAILED"
  | canceled => "CANCELED"
  | timeout => "TIMEOUT"

/-- The states whose results need an error code. -/
def needsCode : WorkerResultState → Bool
  | failed | canceled | timeout => true
  | _ => false

end WorkerResultState

/-- `WORKER_ERROR_CODES`. -/
def workerErrorCodes : List String :=
  ["DEADLINE_EXCEEDED", "INSUFFICIENT_VALID_DATA", "INVALID_WORKER_REQUEST", "QUEUE_FULL",
    "SERVICE_FAULT", "WORKER_CANCELED", "WORKER_LOST", "WORKER_PROTOCOL_ERROR",
    "WORKER_RESOURCE_EXHAUSTED", "WORKER_TIMEOUT", "WORKER_UNEXPECTED_ERROR"]

/-- `WorkerResult`, with the checks of its constructor. -/
structure WorkerResult where
  requestKey : RequestKey
  state : WorkerResultState
  result : Option PyDict
  errorCode : Option String
  code_known : errorCode.all workerErrorCodes.contains = true
  code_present : state.needsCode = true → errorCode.isSome = true

/-- `WorkerResult.__post_init__`. -/
def WorkerResult.new (requestKey : RequestKey) (state : WorkerResultState)
    (result : Option PyDict) (errorCode : Option String) : Raises WorkerResult :=
  if known : errorCode.all workerErrorCodes.contains = true then
    if present : state.needsCode = true → errorCode.isSome = true then
      .ok ⟨requestKey, state, result, errorCode, known, present⟩
    else .error ⟨.workerProtocolError, s!"{state.text} worker result requires error_code"⟩
  else .error ⟨.workerProtocolError, "unknown worker error code " ++ errorCode.getD ""⟩

/-- What removing files of a product raises during a callback. -/
structure ProductFiles where
  /-- `_discard_worker_product`. -/
  discardWorkerProduct : Raises Unit
  /-- `_discard_product_ref`. -/
  discardProductRef : Raises Unit
  /-- `cleanup_staging_products`. -/
  cleanupStagingProducts : Raises Unit

/-! ## Callbacks -/

/-- `_handle_worker_started`. -/
def handleWorkerStarted (key : RequestKey) (deadlineMonotonicNs : ℕ) : JournalProgram Unit := do
  let changed ← transact fun j => j.transitionJob key [.queued] .running none none
  if changed then
    appendEvent "JOB_STARTED" [(strKey "job_key", key.asDict),
      (strKey "deadline_monotonic_ns", .int deadlineMonotonicNs)] (some key)
  else pure ()

/-- The states from which a job may end. -/
def openJobStates : List JobState := [.queued, .running, .cancelRequested]

/-- The product of a job that ended without one. -/
def abandonProduct (files : ProductFiles) (key : RequestKey) : JournalProgram Unit := do
  let _ ← transact fun j => .ok (j.failProductForJob key)
  liftRaises files.discardProductRef
  liftRaises files.cleanupStagingProducts

/-- What follows the transition of a job to `FAILED`, `TIMEOUT` or `CANCELED`. -/
def afterJobEnded (files : ProductFiles) (key : RequestKey) (event : String) (body : PyDict) :
    Bool → JournalProgram Unit
  | false => pure ()
  | true => do
      abandonProduct files key
      appendEvent event body (some key)

/-- `_terminalize_worker_protocol_error`. -/
def terminalizeWorkerProtocolError (files : ProductFiles) (key : RequestKey) (detail : String) :
    JournalProgram Unit := do
  let j ← get
  match j.getJob key with
  | none => pure ()
  | some row =>
      if row.state.terminal then pure ()
      else do
        let changed ← transact fun j => j.transitionJob key openJobStates .failed
          (some [(strKey "failure_stage", strKey "WORKER_PROTOCOL"),
            (strKey "detail", strKey detail)]) (some "WORKER_PROTOCOL_ERROR")
        afterJobEnded files key "JOB_FAILED"
          [(strKey "error_code", strKey "WORKER_PROTOCOL_ERROR"), (strKey "detail", strKey detail)]
          changed

/-- `value or default`. -/
def orDefault (value : Option PyDict) (default_ : PyDict) : PyDict :=
  match value with
  | some (entry :: rest) => entry :: rest
  | _ => default_

/-- The product summary of a result and the product it names. -/
def resultProduct (result : PyDict) : Raises (PyDict × ProductRef) :=
  match dictGet? result "product" with
  | some (.dict summary) => do
      let ref ← ProductRef.fromDict (dictGet summary "product_ref")
      .ok (summary, ref)
  | _ => runtimeError "successful worker result is missing product summary"

/-- The job of a product that was published, if it was. -/
def afterPublication (files : ProductFiles) (key : RequestKey) (result : PyDict) :
    Bool → JournalProgram Unit
  | true => appendEvent "JOB_COMPLETED" result (some key)
  | false => liftRaises files.discardWorkerProduct

/-- A `SUCCEEDED` result. -/
def completeJob (files : ProductFiles) (r : WorkerResult) (expected : ProductRef) :
    JournalProgram Unit := do
  let result := orDefault r.result []
  let (summary, productRef) ← liftRaises (resultProduct result)
  if productRef ≠ expected then do
    liftRaises files.discardWorkerProduct
    liftRaises (runtimeError "worker product identity mismatch")
  else do
    let completed ← transact fun j => j.completeJobWithProduct r.requestKey
      [.running, .cancelRequested] result productRef summary
    afterPublication files r.requestKey result completed

/-- A `REJECTED` result. -/
def rejectJob (files : ProductFiles) (r : WorkerResult) : JournalProgram Unit := do
  let result := orDefault r.result [(strKey "science_decision", strKey "REJECTED")]
  let _ ← transact fun j => j.transitionJob r.requestKey [.running, .cancelRequested] .succeeded
    (some result) r.errorCode
  let _ ← transact fun j => .ok (j.failProductForJob r.requestKey)
  liftRaises files.discardProductRef
  appendEvent "SCIENCE_DECISION_REJECTED" result (some r.requestKey)

/-- The states a job must be in for a result to end it. -/
def expectedStates : JobState → List JobState
  | .canceled => [.cancelRequested]
  | _ => openJobStates

/-- A `FAILED`, `TIMEOUT` or `CANCELED` result. -/
def endJob (files : ProductFiles) (r : WorkerResult) (target : JobState) :
    JournalProgram Unit := do
  let changed ← transact fun j => j.transitionJob r.requestKey (expectedStates target) target
    r.result r.errorCode
  afterJobEnded files r.requestKey ("JOB_" ++ target.text)
    [(strKey "error_code", (r.errorCode.map strKey).getD .none)] changed

/-- The result of a job that has not ended. -/
def settleJob (files : ProductFiles) (r : WorkerResult) (row : JobRow) : JournalProgram Unit :=
  match r.state with
  | .succeeded => completeJob files r row.productRef
  | .rejected => rejectJob files r
  | .canceled => endJob files r .canceled
  | .timeout => endJob files r .timeout
  | .failed => endJob files r .failed

/-- `_handle_worker_result_inner`. -/
def handleWorkerResultInner (files : ProductFiles) (r : WorkerResult) : JournalProgram Unit := do
  let j ← get
  match j.getJob r.requestKey with
  | none => liftRaises files.discardWorkerProduct
  | some row =>
      if row.state.terminal then liftRaises files.discardWorkerProduct
      else settleJob files r row

/-- `_handle_worker_result`. -/
def handleWorkerResult (files : ProductFiles) (r : WorkerResult) : JournalProgram Unit :=
  tryCatch (handleWorkerResultInner files r) fun failure =>
    terminalizeWorkerProtocolError files r.requestKey failure.kind.name

/-! ## Runs -/

/-- A result that reaches the payload, and what removing files raises then. -/
structure WorkerReport where
  result : WorkerResult
  files : ProductFiles

/-- What the worker client does during a command. -/
structure WorkerAnswers where
  /-- Whether there is a client. -/
  attached : Bool
  submit : Raises Unit
  /-- The result of a request that a cancellation finds pending. -/
  delivered : Option WorkerReport
  cancel : Raises String

/-- `_deliver_result` as `cancel` calls it; what it raises in the end is part of what `cancel`
raises. -/
def deliverResult : Option WorkerReport → JournalProgram Unit
  | none => pure ()
  | some report => tryCatch (handleWorkerResult report.files report.result) fun _ => pure ()

/-- The worker client of a command. -/
def WorkerAnswers.port (answers : WorkerAnswers) : Option WorkerPort :=
  if answers.attached then
    some
      { submit := fun _ _ => liftRaises answers.submit
        cancel := fun _ => do
          deliverResult answers.delivered
          liftRaises answers.cancel }
  else none

/-- An operation on the payload. -/
inductive PayloadInput
  /-- `handle_command`. -/
  | command (command : Command) (answers : WorkerAnswers)
  /-- The worker client has handed a request to the worker. -/
  | started (key : RequestKey) (deadlineMonotonicNs : ℕ)
  /-- The worker client delivers a result. -/
  | result (report : WorkerReport)
  /-- A new process of the satellite. -/
  | restart

/-- The payload during a run. -/
structure PayloadRun where
  state : PayloadState
  /-- The jobs the worker client of this process has started. -/
  started : List RequestKey

namespace PayloadRun

/-- What an operation on the payload leaves. -/
def left (run : PayloadRun) {α : Type} (x : PayloadProgram α) : PayloadRun :=
  { run with state := Effect.finalState (x run.state) }

/-- The jobs started after a callback for one. -/
def noteStarted (run : PayloadRun) (key : RequestKey) : List RequestKey :=
  if (run.state.journal.getJob key).isSome then key :: run.started else run.started

/-- A new process, if its journal opens. -/
def restart (run : PayloadRun) (fileDownlink : FileDownlinkCoordinator) : PayloadRun :=
  match run.state.journal.restart with
  | .error _ => run
  | .ok journal => ⟨⟨journal, fileDownlink⟩, []⟩

end PayloadRun

/-- The payload of a deployment over any sequence of operations; `fileDownlink` is the
coordinator of a new process.  The outcome is that of a command. -/
def payloadMachine (p : PayloadDeployment) (fileDownlink : FileDownlinkCoordinator) :
    Machine PayloadRun PayloadInput (Option (Raises PyDict)) where
  step run
    | .command command answers =>
        let result := p.handleCommand answers.port command run.state
        (run.left (p.handleCommand answers.port command), some (outcome result))
    | .started key deadline =>
        ({ run.left (onJournal (handleWorkerStarted key deadline)) with
          started := run.noteStarted key }, none)
    | .result report =>
        (run.left (onJournal (handleWorkerResult report.files report.result)), none)
    | .restart => (run.restart fileDownlink, none)

section Runs

variable (p : PayloadDeployment) (fileDownlink : FileDownlinkCoordinator)

/-- The journal after a run. -/
def journalAfter (run : PayloadRun) (inputs : List PayloadInput) : SatelliteJournal :=
  ((payloadMachine p fileDownlink).exec run inputs).state.journal

theorem journalAfter_append (run : PayloadRun) (first second : List PayloadInput) :
    journalAfter p fileDownlink run (first ++ second) =
      journalAfter p fileDownlink ((payloadMachine p fileDownlink).exec run first) second := by
  unfold journalAfter
  rw [Machine.exec_append]

theorem journalAfter_concat (run : PayloadRun) (inputs : List PayloadInput)
    (input : PayloadInput) : journalAfter p fileDownlink run (inputs ++ [input]) =
      ((payloadMachine p fileDownlink).step ((payloadMachine p fileDownlink).exec run inputs)
        input).1.state.journal := by
  unfold journalAfter
  rw [Machine.exec_concat]

/-- The payload of the first boot. -/
def firstBoot : PayloadRun := ⟨⟨.initial, fileDownlink⟩, []⟩

end Runs

end CubeNano

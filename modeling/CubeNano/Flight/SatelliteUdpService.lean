import CubeNano.Flight.SatelliteSimulator
import CubeNano.Lib.Effect

/-!
# The satellite on the link

`SatelliteUdpService` with its `SatelliteSimulator`, `MissionUdpAdapter` and
`UdpMissionEndpoint` (`flight/satellite_simulator.py`, `flight/mission_udp_adapter.py`,
`link_sim/transport.py`).  Telemetry is encoded into a pending queue, moves from there into
the scheduler, and goes out under the session of the endpoint.

A frame carries the binding it was encoded under, and a transmission the binding it went out
under.  No function reads them.

## Main definitions

* `UdpMissionEndpoint.applySessionBinding`, `.consumeDatagram`
* `SatelliteUdpService` — the state of service, simulator, adapter and endpoint
* `onSessionBinding`, `receiveEgress`, `sendIngress`, `sendNext`, `pump`
* `establishSession`, `startService` — the constructor
-/

namespace CubeNano

/-! ## The endpoint -/

/-- A session binding, as the endpoint hands it to its callback. -/
structure SessionBinding where
  spacecraftInstanceId : ℕ
  senderBootId : ℕ
  linkSessionId : ℕ
  linkGeneration : ℕ
  deriving DecidableEq

/-- A frame, with the binding that was in force when it was encoded. -/
structure QueuedFrame where
  bytes : Bytes
  encodedUnder : Option SessionBinding

/-- A frame on the socket, with the binding it went out under. -/
structure Transmission where
  envelope : SidebandEnvelope
  frame : QueuedFrame
  sentUnder : Option SessionBinding

/-- What `decode_session_control` reads. -/
inductive SessionControl
  | hello
  | session (binding : SessionBinding)

/-- A received datagram, decoded. -/
inductive Datagram
  | control (message : SessionControl)
  | frame (frame : TransportFrame)
  | malformed (failure : PyException)

/-- `UdpMissionEndpoint` in the role of the satellite. -/
structure UdpMissionEndpoint where
  spacecraftInstanceId : ℕ
  linkSessionId : ℕ
  senderBootId : ℕ
  linkGeneration : Option ℕ
  sessionReady : Bool
  pendingDatagrams : List Datagram
  nextSenderFrameId : ℕ

namespace UdpMissionEndpoint

/-- The constructor in the role of the satellite. -/
def new (spacecraftInstanceId linkSessionId senderBootId : ℕ) : Raises UdpMissionEndpoint :=
  if spacecraftInstanceId = 0 then valueError "spacecraft_instance_id must be positive"
  else if linkSessionId = 0 then valueError "link_session_id must be positive"
  else if senderBootId > 0xFFFFFFFF then valueError "sender_boot_id must fit U32"
  else .ok
    { spacecraftInstanceId, linkSessionId, senderBootId
      linkGeneration := none
      sessionReady := false
      pendingDatagrams := []
      nextSenderFrameId := 1 }

/-- `session_binding`. -/
def sessionBinding (e : UdpMissionEndpoint) : Option SessionBinding :=
  if e.sessionReady then
    some ⟨e.spacecraftInstanceId, e.senderBootId, e.linkSessionId, e.linkGeneration.getD 1⟩
  else none

/-- The endpoint under a binding. -/
def withBinding (e : UdpMissionEndpoint) (next : SessionBinding) : UdpMissionEndpoint :=
  { e with
    linkSessionId := next.linkSessionId
    linkGeneration := some next.linkGeneration
    senderBootId := next.senderBootId
    sessionReady := true }

/-- Whether a binding differs from the one in force. -/
def changes (e : UdpMissionEndpoint) (next : SessionBinding) : Bool :=
  !e.sessionReady || next.linkSessionId ≠ e.linkSessionId ||
    next.linkGeneration ≠ e.linkGeneration.getD 0 || next.senderBootId ≠ e.senderBootId

/-- The checks of `_apply_session_binding`. -/
def checkBinding (e : UdpMissionEndpoint) (next : SessionBinding) : Raises Unit :=
  if next.spacecraftInstanceId ≠ e.spacecraftInstanceId then
    valueError "session control spacecraft instance does not match endpoint"
  else if e.sessionReady = true ∧ next.linkGeneration < e.linkGeneration.getD 0 then
    valueError "session control generation regressed"
  else if e.sessionReady = true ∧ next.linkGeneration = e.linkGeneration.getD 0 ∧
      (next.linkSessionId ≠ e.linkSessionId ∨ next.senderBootId ≠ e.senderBootId) then
    valueError "session control changed identity without a generation increment"
  else .ok ()

/-- `validate_egress` with the binding of the endpoint. -/
def validateEgress (e : UdpMissionEndpoint) (envelope : SidebandEnvelope) : Raises Unit := do
  envelope.validateEgress
  if envelope.spacecraftInstanceId ≠ e.spacecraftInstanceId then
    valueError "Egress spacecraft_instance_id does not match binding"
  else if envelope.senderBootId ≠ e.senderBootId then
    valueError "Egress sender_boot_id does not match binding"
  else if envelope.linkSessionId ≠ e.linkSessionId then
    valueError "Egress link_session_id does not match binding"
  else .ok ()

/-- The envelope of an outgoing frame. -/
def ingressEnvelope (e : UdpMissionEndpoint) (frame : Bytes) : SidebandEnvelope where
  magic := SidebandEnvelope.magicValue
  version := SidebandEnvelope.versionValue
  direction := .ingress
  reserved := 0
  spacecraftInstanceId := e.spacecraftInstanceId
  senderBootId := 0
  linkSessionId := e.linkSessionId
  senderFrameId := e.nextSenderFrameId
  linkFrameId := 0
  fileEpochId := 0
  frameLength := frame.length

end UdpMissionEndpoint

/-! ## The service -/

/-- `CompletionGate`. -/
structure CompletionGate where
  itemId : ℕ
  status : Option String
  frameReturned : Bool

/-- The scheduler of the satellite; the completion of a FILE frame is its lease. -/
abbrev FrameScheduler (Lease : Type) := MissionComScheduler QueuedFrame Lease

/-- The state of `SatelliteUdpService`, of its simulator, its adapter and its endpoint. -/
structure SatelliteUdpService (π Lease : Type) where
  endpoint : UdpMissionEndpoint
  sessionBinding : Option SessionBinding
  sessionResets : ℕ
  gate : Option CompletionGate
  completionTuples : List (ℕ × String × Bool)
  scheduler : FrameScheduler Lease
  pendingTmCapacity : ℕ
  pendingTmFrames : List (QueuedFrame × ℕ)
  lastJournalEventId : ℕ
  payloadState : π
  framesSent : ℕ
  framesReceived : ℕ
  tmSeen : Bool
  tcSeen : Bool
  /-- What went out on the socket, in order. -/
  transmitted : List Transmission

/-- What the socket answers when a frame is sent. -/
structure SendAnswer where
  hello : Raises Unit
  socket : Raises Unit

/-- What a pump finds: the outcome of its HELLO, the datagram on the socket, whether the
status interval has passed, the answers to the frames it sends, and how many rounds of its
send loop the model grants. -/
structure PumpInput where
  hello : Raises Unit
  received : Raises (Option Datagram)
  statusDue : Bool
  answers : ℕ → SendAnswer
  rounds : ℕ

namespace SatelliteUdpService

variable {π Lease : Type}

/-- A method of the service. -/
abbrev Program (π Lease α : Type) := EStateM PyException (SatelliteUdpService π Lease) α

/-- A frame encoded now. -/
def frameNow (s : SatelliteUdpService π Lease) (bytes : Bytes) : QueuedFrame :=
  ⟨bytes, s.endpoint.sessionBinding⟩

/-- An operation of the payload. -/
def onPayload {α : Type} (x : EStateM PyException π α) : Program π Lease α := fun s =>
  match x s.payloadState with
  | .ok value state => .ok value { s with payloadState := state }
  | .error failure state => .error failure { s with payloadState := state }

/-- A method of the scheduler. -/
def onScheduler {α : Type} (f : FrameScheduler Lease → α × FrameScheduler Lease) :
    Program π Lease α := fun s =>
  .ok (f s.scheduler).1 { s with scheduler := (f s.scheduler).2 }

/-! ## Telemetry -/

/-- `_queue_tm`. -/
def queueTm (payload : CloudPayload π Lease) (message : PyDict) : Program π Lease Unit := do
  let (frame, orderingKey) ← tryCatch (onPayload (payload.encodeAckTmFrameWithOrder message))
    fun failure =>
      if failure.isValueError then
        onPayload (payload.encodeAckTmFrameWithOrder (truncatedEvent message failure))
      else throw failure
  let s ← get
  if s.pendingTmCapacity ≤ s.pendingTmFrames.length then
    liftRaises (runtimeError "TM_PENDING_QUEUE_FULL")
  else set { s with pendingTmFrames := s.pendingTmFrames ++ [(s.frameNow frame, orderingKey)] }

/-- The SLO event of a deployment that has a profile. -/
def queueSlo (payload : CloudPayload π Lease) : Program π Lease Unit :=
  match payload.slo with
  | none => pure ()
  | some slo => queueTm payload [(strKey "event_name", strKey "SATELLITE_SLO"),
      (strKey "message", .dict slo.asDict)]

/-- `_queue_status_tm`. -/
def queueStatusTm (payload : CloudPayload π Lease) : Program π Lease Unit := do
  let s ← get
  let health ← onPayload (payload.health fun kind => (s.scheduler.queues kind).length)
  let slo : PyValue := match payload.slo with
    | none => .none
    | some slo => .dict [(strKey "oldest_ack_age_ms", .int slo.oldestAckAgeMs),
        (strKey "health_max_latency_ms", .int slo.healthMaxLatencyMs)]
  queueTm payload [(strKey "event_name", strKey "SATELLITE_STATUS"),
    (strKey "message", .dict (pickEntries health ["state", "config", "model_release_id",
      "assurance_level", "queue_capacity", "scheduler_queue_depths"] ++ [(strKey "slo", slo)]))]
  queueSlo payload

/-- `queue_catalog_snapshot`. -/
def queueCatalogSnapshot (payload : CloudPayload π Lease) : Program π Lease Unit := do
  let bundle ← onPayload payload.catalogBundle
  queueTm payload [(strKey "event_name", strKey "CATALOG_SNAPSHOT"),
    (strKey "catalog_bundle", .bytes bundle)]

/-- `_queue_command_tm`. -/
def queueCommandTm (payload : CloudPayload π Lease) (result : PyDict)
    (requestKey : Option PyValue) : Program π Lease Unit :=
  let stage : Text := match dictGet? result "stage" with
    | some (.str stage) => stage
    | _ => Text.ofString "MISSION_EVENT"
  let eventName := if (Text.ofString "REJECTED").isSuffixOf stage then "COMMAND_REJECTED"
    else "COMMAND_ACK"
  let compact := compactCommandResult stage result requestKey
  queueTm payload ([(strKey "event_name", strKey eventName), (strKey "message", .dict compact)] ++
    compact)

/-- The loop of `publish_journal_events`. -/
def publishRows (payload : CloudPayload π Lease) : List JournalRow → ℕ → Program π Lease ℕ
  | [], count => pure count
  | row :: rest, count => do
      modify fun s => { s with lastJournalEventId := row.eventId }
      match journalMessage? row with
      | none => publishRows payload rest count
      | some message => do
          queueTm payload message
          publishRows payload rest (count + 1)

/-- `publish_journal_events`. -/
def publishJournalEvents (payload : CloudPayload π Lease) : Program π Lease ℕ := do
  let s ← get
  let rows ← onPayload (payload.eventsAfter s.lastJournalEventId)
  publishRows payload rows 0

/-- The loop of `enqueue_pending_tm_frames`, over the frames that are pending. -/
def movePending : List (QueuedFrame × ℕ) → ℕ → Program π Lease ℕ
  | [], queued => pure queued
  | (frame, orderingKey) :: rest, queued => do
      let answer ← onScheduler fun q => q.enqueueAck frame none (some orderingKey)
      let _ ← liftRaises answer
      modify fun s => { s with pendingTmFrames := rest }
      movePending rest (queued + 1)

/-- `enqueue_pending_tm_frames`. -/
def enqueuePendingTmFrames (payload : CloudPayload π Lease) : Program π Lease ℕ := do
  let _ ← publishJournalEvents payload
  let s ← get
  movePending s.pendingTmFrames 0

/-! ## FILE frames -/

/-- `enqueue_downlink_frame`. -/
def enqueueDownlinkFrame (payload : CloudPayload π Lease) (transferId : ℤ) :
    Program π Lease (Option ℕ) := do
  match ← onPayload (payload.nextDownlinkFrame transferId) with
  | none => pure none
  | some (lease, bytes, orderingKey) => do
      let s ← get
      match ← onScheduler fun q => q.enqueueFile (s.frameNow bytes) (some lease) orderingKey with
      | .ok item => pure (some item)
      | .error failure => do
          onPayload (payload.downlinkRefused lease failure)
          throw failure

/-- The completion of a FILE frame. -/
def completeDownlinkFrame (payload : CloudPayload π Lease) (lease : Lease) (status : String) :
    Program π Lease Unit := do
  match ← onPayload (payload.frameComplete lease status) with
  | none => pure ()
  | some transferId =>
      tryCatch (do let _ ← enqueueDownlinkFrame payload transferId) fun failure =>
        onPayload (payload.abortDownlink transferId failure)

/-- The catalog of a result that carries one is queued. -/
def queueExecutedCatalog (payload : CloudPayload π Lease) (result : PyDict) :
    Program π Lease Unit :=
  match dictGet? result "stage", dictGet? result "catalog" with
  | some (.str stage), some (.dict _) =>
      if stage = Text.ofString "EXECUTED" then queueCatalogSnapshot payload else pure ()
  | _, _ => pure ()

/-- The first frame of a dispatched transfer is queued. -/
def enqueueDispatched (payload : CloudPayload π Lease) (result : PyDict) :
    Program π Lease Unit :=
  match dictGet? result "stage", present? result "transfer_id" with
  | some (.str stage), some transferId =>
      if stage = Text.ofString "DISPATCHED" then do
        let transferId ← liftRaises (pyInt transferId)
        let _ ← enqueueDownlinkFrame payload transferId
      else pure ()
  | _, _ => pure ()

/-- `receive_transport_frame` of the simulator. -/
def receiveTransportFrame (payload : CloudPayload π Lease) (frame : TransportFrame) :
    Program π Lease Unit := do
  let result ← onPayload (payload.receiveTransportFrame frame)
  queueCommandTm payload result (requestKeyOf frame)
  queueExecutedCatalog payload result
  let _ ← publishJournalEvents payload
  enqueueDispatched payload result

/-! ## The adapter -/

/-- An item that completed runs its completion. -/
def runCompletion (payload : CloudPayload π Lease) :
    Option (ScheduledItem QueuedFrame Lease × String) → Program π Lease Unit
  | none => pure ()
  | some (item, status) =>
      match item.completion with
      | none => pure ()
      | some lease => completeDownlinkFrame payload lease status

/-- `_flush_gate`. -/
def flushGate (payload : CloudPayload π Lease) : Program π Lease Unit := do
  let s ← get
  match s.gate with
  | none => pure ()
  | some gate =>
      match gate.status, gate.frameReturned with
      | some status, true => do
          set { s with
            gate := none
            completionTuples := s.completionTuples ++ [(gate.itemId, status, true)] }
          let returned ← onScheduler fun q => q.markUpstreamReturn gate.itemId
          runCompletion payload returned
          let marked ← onScheduler fun q => q.markStatus gate.itemId status
          runCompletion payload marked
      | _, _ => pure ()

/-- `status_callback` of the gate; the first status stays. -/
def noteStatus (status : String) : Program π Lease Unit :=
  modify fun s => { s with
    gate := s.gate.map fun gate => { gate with status := some (gate.status.getD status) } }

/-- `return_callback` of the gate. -/
def noteReturn : Program π Lease Unit :=
  modify fun s => { s with gate := s.gate.map fun gate => { gate with frameReturned := true } }

/-- `receive_status`. -/
def receiveStatus (payload : CloudPayload π Lease) (status : String) : Program π Lease Unit := do
  noteStatus status
  flushGate payload

/-- `receive_return`. -/
def receiveReturn (payload : CloudPayload π Lease) : Program π Lease Unit := do
  noteReturn
  flushGate payload

/-- `reset` of the adapter. -/
def resetAdapter (payload : CloudPayload π Lease) : Program π Lease Unit := do
  modify fun s => { s with scheduler := s.scheduler.setNotReady }
  noteReturn
  noteStatus "SESSION_RESET"
  flushGate payload

/-- `send_ingress`. -/
def sendIngress (answer : SendAnswer) (frame : QueuedFrame) : Program π Lease Unit := do
  let s ← get
  if frame.bytes = [] then liftRaises (valueError "mission frame must not be empty")
  else if !s.endpoint.sessionReady then
    liftRaises (runtimeError "UDP mission endpoint has not completed session HELLO")
  else do
    liftRaises answer.hello
    let envelope := s.endpoint.ingressEnvelope frame.bytes
    set { s with
      endpoint := { s.endpoint with nextSenderFrameId := s.endpoint.nextSenderFrameId + 1 } }
    liftRaises envelope.validateIngress
    liftRaises answer.socket
    modify fun s => { s with
      transmitted := s.transmitted ++ [⟨envelope, frame, s.endpoint.sessionBinding⟩] }

/-- `_send_frame`; its return callback runs in any case, and what it raises replaces what was
raised before. -/
def sendFrame (payload : CloudPayload π Lease) (answer : SendAnswer) (frame : QueuedFrame) :
    Program π Lease Unit := do
  tryCatch
    (do
      sendIngress answer frame
      modify fun s => { s with framesSent := s.framesSent + 1, tmSeen := true }
      receiveStatus payload "UDP_SENT")
    fun _ => receiveStatus payload "FRAME_FAILED"
  receiveReturn payload

/-- `send_next`: whether an item went out. -/
def sendNext (payload : CloudPayload π Lease) (answer : SendAnswer) : Program π Lease Bool := do
  match ← onScheduler MissionComScheduler.poll with
  | none => pure false
  | some item => do
      modify fun s => { s with gate := some ⟨item.itemId, none, false⟩ }
      sendFrame payload answer item.frame
      pure true

/-! ## The pump -/

/-- `_on_session_binding`. -/
def onSessionBinding (payload : CloudPayload π Lease) (binding : SessionBinding) :
    Program π Lease Unit := do
  let s ← get
  set { s with sessionBinding := some binding }
  match s.sessionBinding with
  | none => pure ()
  | some previous =>
      if binding ≠ previous then do
        resetAdapter payload
        modify fun s => { s with
          scheduler := s.scheduler.setReady
          sessionResets := s.sessionResets + 1 }
      else pure ()

/-- `_apply_session_binding` of a `SESSION` message. -/
def applySessionBinding (payload : CloudPayload π Lease) (next : SessionBinding) :
    Program π Lease Unit := do
  let s ← get
  liftRaises (s.endpoint.checkBinding next)
  set { s with endpoint := s.endpoint.withBinding next }
  if s.endpoint.changes next then onSessionBinding payload next else pure ()

/-- `_consume_datagram`. -/
def consumeDatagram (payload : CloudPayload π Lease) :
    Datagram → Program π Lease (Option TransportFrame)
  | .malformed failure => throw failure
  | .control .hello =>
      liftRaises (valueError "mission endpoint received a non-session control message")
  | .control (.session binding) => do
      applySessionBinding payload binding
      pure none
  | .frame frame => do
      let s ← get
      liftRaises (s.endpoint.validateEgress frame.envelope)
      pure (some frame)

/-- The datagram that `receive_egress` consumes: one kept from the handshake, or the one on
the socket. -/
def nextDatagram (s : SatelliteUdpService π Lease) (received : Raises (Option Datagram)) :
    Raises (Option Datagram) :=
  match s.endpoint.pendingDatagrams with
  | [] => received
  | datagram :: _ => .ok (some datagram)

/-- `receive_egress`. -/
def receiveEgress (payload : CloudPayload π Lease) (input : PumpInput) :
    Program π Lease (Option TransportFrame) := do
  liftRaises input.hello
  let s ← get
  let datagram? ← liftRaises (s.nextDatagram input.received)
  set { s with endpoint := { s.endpoint with
    pendingDatagrams := s.endpoint.pendingDatagrams.tail } }
  match datagram? with
  | none => pure none
  | some datagram => consumeDatagram payload datagram

/-- `_enqueue_pending_tm`. -/
def enqueuePendingTm (payload : CloudPayload π Lease) : Program π Lease ℕ :=
  tryCatch (enqueuePendingTmFrames payload) fun _ => pure 0

/-- The send loop of `pump`. -/
def sendLoop (payload : CloudPayload π Lease) (answers : ℕ → SendAnswer) :
    ℕ → ℕ → Program π Lease ℕ
  | 0, _ => throw ⟨.nonTermination, ""⟩
  | rounds + 1, sent => do
      let s ← get
      if s.gate.isSome then pure sent
      else if ← sendNext payload (answers sent) then sendLoop payload answers rounds (sent + 1)
      else pure sent

/-- A frame that came is received. -/
def receiveFrame (payload : CloudPayload π Lease) :
    Option TransportFrame → Program π Lease Unit
  | none => pure ()
  | some frame => do
      modify fun s => { s with framesReceived := s.framesReceived + 1, tcSeen := true }
      receiveTransportFrame payload frame

/-- `pump` after `receive_egress`. -/
def pumpReceived (payload : CloudPayload π Lease) (input : PumpInput)
    (frame? : Option TransportFrame) : Program π Lease ℕ := do
  receiveFrame payload frame?
  if input.statusDue then queueStatusTm payload
  let _ ← enqueuePendingTm payload
  sendLoop payload input.answers input.rounds 0

/-- `pump`. -/
def pump (payload : CloudPayload π Lease) (input : PumpInput) : Program π Lease ℕ := do
  let frame? ← receiveEgress payload input
  pumpReceived payload input frame?

/-! ## The constructor -/

/-- The service before its first telemetry; the pending queue is as large as the ACK queue. -/
def new (endpoint : UdpMissionEndpoint) (scheduler : FrameScheduler Lease) (state : π) :
    SatelliteUdpService π Lease where
  endpoint := endpoint
  sessionBinding := none
  sessionResets := 0
  gate := none
  completionTuples := []
  scheduler := scheduler
  pendingTmCapacity := scheduler.capacities .ack
  pendingTmFrames := []
  lastJournalEventId := 0
  payloadState := state
  framesSent := 0
  framesReceived := 0
  tmSeen := false
  tcSeen := false
  transmitted := []

/-- `establish_session`, over the rounds of its loop: what its HELLO and its read gave. -/
def establishSession (payload : CloudPayload π Lease) :
    List (Raises Unit × Raises (Option Datagram)) → Program π Lease Unit
  | [] => liftRaises (.error
      ⟨.osError, "UDP session HELLO timed out waiting for LinkSimulator"⟩)
  | (hello, received) :: rest => do
      liftRaises hello
      match ← liftRaises received with
      | none => establishSession payload rest
      | some datagram => do
          let frame? ← consumeDatagram payload datagram
          let kept := (frame?.map Datagram.frame).toList
          modify fun s => { s with endpoint := { s.endpoint with
            pendingDatagrams := s.endpoint.pendingDatagrams ++ kept } }
          let s ← get
          if s.endpoint.sessionReady then pure () else establishSession payload rest

/-- The constructors of simulator and service: a status is pending before the session is
established. -/
def startService (payload : CloudPayload π Lease)
    (rounds : List (Raises Unit × Raises (Option Datagram))) : Program π Lease Unit := do
  queueStatusTm payload
  establishSession payload rounds

end SatelliteUdpService

end CubeNano

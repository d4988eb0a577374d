import CubeNano.Lib.Effect
import CubeNano.Lib.Machine
import CubeNano.Link.FaultModel
import CubeNano.Link.Sessions
import CubeNano.Link.Transport
import CubeNano.Link.VirtualClock
import CubeNano.Protocol.Ccsds
import CubeNano.Protocol.FilePacket

/-!
# The link simulator

`link_sim/link_simulator.py`: a frame is admitted, each of its copies is put
through the fault model and scheduled, and the clock delivers the copies when
they are due.

A method of the simulator is an `EStateM` program: what it changed before it
raised stays changed.  The transport, the checkpoint hook and the callbacks of an
admission are functions that return or raise.  No copy is sent twice and no
checkpoint repeats, so functions of what they are handed cover every transport
and every hook.

## Main definitions

* `LinkSimulator.admitFrame` — admission of one frame
* `LinkSimulator.advanceToNextEvent` — delivery of the next copy
* `LinkSimulator.createSession`, `.resetSession`, `.closeSession`
* `LinkOp`, `linkMachine` — every operation, as a machine
-/

namespace CubeNano

/-- The callbacks of one admission. -/
structure LinkCallbacks where
  onAccepted : Option (LinkControlMessage → Raises Unit) := none
  onConsumed : Option (LinkControlMessage → Raises Unit) := none
  onDelivered : Option (TransportFrame → Raises (Option String)) := none

/-- What `_schedule_delivery` closes over: one copy on its way. -/
structure ScheduledDelivery where
  direction : Direction
  linkFrameId : ℕ
  copyIndex : ℕ
  frame : TransportFrame
  spacecraftInstanceId : ℕ
  session : Option Session
  epochId : ℕ
  packetType : Option FilePacketType
  callbacks : LinkCallbacks

/-- `LinkSimulator`.  `delivered` and `admittedFilePackets` record what happened
and are not read by any method. -/
structure LinkSimulator where
  uplinkProfile : FaultProfile
  downlinkProfile : FaultProfile
  faultModel : FaultModel
  contactSchedule : ContactSchedule
  transport : Option (TransportFrame → Raises Unit)
  stateChanged : Option (ℕ × ℕ → Raises Unit)
  clock : VirtualClock ScheduledDelivery
  sessionManager : SessionManager
  fileEpochManager : FileEpochManager
  nextLinkFrameId : ℕ
  uplinkAvailableNs : ℤ
  downlinkAvailableNs : ℤ
  controlEvents : List LinkControlMessage
  /-- The copies handed to the transport, in order. -/
  delivered : List ScheduledDelivery
  /-- The file packets the epoch manager admitted, with their epochs, in order. -/
  admittedFilePackets : List (ℕ × FilePacketType)

/-- A method of the simulator. -/
abbrev LinkProgram (α : Type) := EStateM PyException LinkSimulator α

/-- A frame past admission, with all later stages read of it. -/
structure AdmittedFrame where
  linkFrameId : ℕ
  ingressTimeNs : ℕ
  frame : TransportFrame
  direction : Direction
  session : Option Session
  epochId : ℕ
  packetType : Option FilePacketType
  callbacks : LinkCallbacks

/-- What `_admit_file_epoch` returns. -/
structure EpochAdmission where
  epochId : ℕ
  error : Option String
  packetType : Option FilePacketType
  deriving DecidableEq

/-- `_file_packet_info`. -/
def filePacketInfo (frameBytes : Bytes) : Option FilePacket :=
  match TmFrame.decode frameBytes with
  | .error _ => none
  | .ok tm =>
      if tm.packet.apid ≠ 3 then none
      else
        match decodeFilePacket tm.packet.payload with
        | .error _ => none
        | .ok packet => some packet

namespace FileEpochManager

/-- The `DATA`, `END` and `CANCEL` branches of `_admit_file_epoch`, for the
session's own current attempt. -/
def admitBody (m : FileEpochManager) (current : FileTransferAttempt) (boot linkFrameId : ℕ)
    (info : FilePacket) : EpochAdmission × FileEpochManager :=
  match info.packetType with
  | .data =>
      let (reason, m') := m.admitData boot linkFrameId info.offset info.payload.length
      (⟨current.epochId, reason, some info.packetType⟩, m')
  | .endOfFile =>
      let (reason, m') := m.admitEnd boot linkFrameId
      (⟨current.epochId, reason, some info.packetType⟩, m')
  | _ =>
      (⟨current.epochId, none, some info.packetType⟩,
        (m.abortAttempt current.attemptId linkFrameId).2)

/-- `_admit_file_epoch` of a file packet on the downlink. -/
def admitPacket (m : FileEpochManager) (session : Option Session) (linkFrameId : ℕ)
    (info : FilePacket) : EpochAdmission × FileEpochManager :=
  match session with
  | none => (⟨0, some "NO_ACTIVE_SESSION", some info.packetType⟩, m)
  | some session =>
      if info.packetType = .start then
        match m.admitStart session.sessionId session.spacecraftInstanceId session.senderBootId
            linkFrameId with
        | (none, m') => (⟨0, some "TRANSFER_BUSY", some .start⟩, m')
        | (some attempt, m') => (⟨attempt, none, some .start⟩, m')
      else
        match m.currentAttempt with
        | none => (⟨0, some "NO_ACTIVE_TRANSFER", some info.packetType⟩, m)
        | some current =>
            if current.sessionId ≠ session.sessionId then
              (⟨0, some "NO_ACTIVE_TRANSFER", some info.packetType⟩, m)
            else m.admitBody current session.senderBootId linkFrameId info

end FileEpochManager

namespace LinkSimulator

/-- `LinkSimulator(...)` with the default managers, clock and allocator. -/
def initial (uplinkProfile downlinkProfile : FaultProfile) (faultModel : FaultModel)
    (contactSchedule : ContactSchedule) (transport : Option (TransportFrame → Raises Unit))
    (stateChanged : Option (ℕ × ℕ → Raises Unit)) : LinkSimulator :=
  ⟨uplinkProfile, downlinkProfile, faultModel, contactSchedule, transport, stateChanged,
    .start 0, .initial, .initial, 1, 0, 0, [], [], []⟩

/-- The profile of a direction. -/
def profile (s : LinkSimulator) : Direction → FaultProfile
  | .ingress => s.uplinkProfile
  | .egress => s.downlinkProfile

/-- When the serializer of a direction is available. -/
def availableNs (s : LinkSimulator) : Direction → ℤ
  | .ingress => s.uplinkAvailableNs
  | .egress => s.downlinkAvailableNs

/-- Move the availability of a direction. -/
def setAvailableNs (s : LinkSimulator) (direction : Direction) (releaseNs : ℤ) : LinkSimulator :=
  match direction with
  | .ingress => { s with uplinkAvailableNs := releaseNs }
  | .egress => { s with downlinkAvailableNs := releaseNs }

/-! ## Control messages -/

/-- `_control`, less the recording. -/
def controlMessage (messageType : LinkControlType) (session : Option Session)
    (spacecraftInstanceId : ℕ) (linkFrameId fileEpochId copyIndex : ℕ)
    (status reason : Option String) : LinkControlMessage :=
  ⟨messageType, spacecraftInstanceId, (session.map Session.senderBootId).getD 0,
    (session.map Session.sessionId).getD 0, (session.map Session.generation).getD 0, linkFrameId,
    fileEpochId, copyIndex, status, reason⟩

/-- The recording of a control message. -/
def emitControl (message : LinkControlMessage) : LinkProgram Unit :=
  modify fun s => { s with controlEvents := s.controlEvents ++ [message] }

/-- `_emit_consumed`, after the message was recorded. -/
def emitConsumed (callbacks : LinkCallbacks) (message : LinkControlMessage) :
    LinkProgram Unit := do
  emitControl message
  liftRaises ((callbacks.onConsumed.getD fun _ => .ok ()) message)

/-- `_checkpoint_changed`. -/
def checkpointChanged : LinkProgram Unit := do
  let s ← get
  liftRaises ((s.stateChanged.getD fun _ => .ok ())
    (s.nextLinkFrameId, s.sessionManager.nextSessionId))

/-! ## Sessions -/

/-- The session part of `create_session` and `reset_session`. -/
def allocateSession (spacecraftInstanceId senderBootId : ℕ) : LinkProgram ℕ := do
  let s ← get
  let created := s.sessionManager.createSession spacecraftInstanceId senderBootId s.clock.now
  set { s with sessionManager := created.2 }
  liftRaises created.1

/-- `file_epoch_manager.open_session`. -/
def openFileEpochs (senderBootId : ℕ) : LinkProgram Unit :=
  modify fun s => { s with fileEpochManager := s.fileEpochManager.openSession senderBootId }

/-- The two control messages that announce a session. -/
def announceSession (first : LinkControlType) (spacecraftInstanceId sessionId : ℕ) :
    LinkProgram Unit := do
  let s ← get
  let session := s.sessionManager.getSession sessionId
  emitControl (controlMessage first session spacecraftInstanceId 0 0 0 none none)
  emitControl (controlMessage .sessionReady session spacecraftInstanceId 0 0 0 (some "READY") none)

/-- `create_session`. -/
def createSession (spacecraftInstanceId senderBootId : ℕ) : LinkProgram ℕ := do
  let sessionId ← allocateSession spacecraftInstanceId senderBootId
  checkpointChanged
  openFileEpochs senderBootId
  announceSession .openSession spacecraftInstanceId sessionId
  pure sessionId

/-- The closing of the active session in `reset_session`. -/
def closeActive (spacecraftInstanceId : ℕ) : LinkProgram Unit :=
  modify fun s =>
    match s.sessionManager.getActiveSession spacecraftInstanceId with
    | none => s
    | some active =>
        { s with
          sessionManager := (s.sessionManager.closeSession active.sessionId s.clock.now).2 }

/-- `reset_session`. -/
def resetSession (spacecraftInstanceId senderBootId : ℕ) : LinkProgram ℕ := do
  closeActive spacecraftInstanceId
  openFileEpochs senderBootId
  let sessionId ← allocateSession spacecraftInstanceId senderBootId
  checkpointChanged
  announceSession .sessionReset spacecraftInstanceId sessionId
  pure sessionId

/-- `close_session`. -/
def closeSession (sessionId : ℕ) : LinkProgram Unit := do
  let s ← get
  match s.sessionManager.closeSession sessionId s.clock.now with
  | (none, _) => liftRaises (valueError s!"Unknown session: 0x{hexDigits 16 sessionId}")
  | (some session, sessions) =>
      set { s with
        sessionManager := sessions
        fileEpochManager := s.fileEpochManager.closeSession session.senderBootId }
      emitControl (controlMessage .sessionReset (some session) session.spacecraftInstanceId 0 0 0
        none (some "SESSION_CLOSED"))

/-- `abort_file_epoch`. -/
def abortFileEpoch (fileEpochId : ℕ) (reason : String) : LinkProgram Bool := do
  let s ← get
  match s.fileEpochManager.currentAttempt with
  | none => pure false
  | some current =>
      if current.epochId ≠ fileEpochId then pure false
      else
        let aborted := s.fileEpochManager.abortAttempt current.attemptId 0
        set { s with fileEpochManager := aborted.2 }
        emitControl (controlMessage .abortFileEpoch (s.sessionManager.getSession current.sessionId)
          current.spacecraftInstanceId 0 fileEpochId 0 none (some reason))
        pure aborted.1

/-! ## Delivery -/

/-- The outcome of `deliver` before the fence: transport, then callback. -/
def handOver (transport : Option (TransportFrame → Raises Unit)) (d : ScheduledDelivery) :
    Raises String := do
  (transport.getD fun _ => .ok ()) d.frame
  let callbackStatus ← (d.callbacks.onDelivered.getD fun _ => .ok none) d.frame
  .ok (match callbackStatus with
    | some status => if status = "" then "FRAME_CONSUMED" else status
    | none => "FRAME_CONSUMED")

/-- A packet type that ends an attempt. -/
def isTerminal (packetType : Option FilePacketType) : Bool :=
  packetType = some .endOfFile ∨ packetType = some .cancel

/-- The release of the fence by a delivered END or CANCEL. -/
def releaseFence (d : ScheduledDelivery) (m : FileEpochManager) : FileEpochManager :=
  if isTerminal d.packetType ∧ d.epochId ≠ 0 then
    match m.currentAttempt with
    | none => m
    | some current =>
        if current.epochId = d.epochId then (m.completeAttempt current.attemptId).2 else m
  else m

/-- The consumption message of a delivered copy. -/
def consumedMessage (d : ScheduledDelivery) (status : String) (reason : Option String) :
    LinkControlMessage :=
  controlMessage .frameConsumed d.session d.spacecraftInstanceId d.linkFrameId d.epochId
    d.copyIndex (some status) reason

/-- The `try` block of `deliver`. -/
def deliverBody (d : ScheduledDelivery) : LinkProgram Unit := do
  let s ← get
  set { s with delivered := s.delivered ++ [d] }
  let status ← liftRaises (handOver s.transport d)
  modify fun s => { s with fileEpochManager := releaseFence d s.fileEpochManager }
  emitConsumed d.callbacks (consumedMessage d status none)

/-- `deliver`. -/
def deliver (d : ScheduledDelivery) : LinkProgram Unit :=
  tryCatch (deliverBody d) fun failure =>
    emitConsumed d.callbacks (consumedMessage d "FRAME_FAILED" (some failure.kind.name))

/-- `advance_to_next_event`. -/
def advanceToNextEvent : LinkProgram Bool := do
  let s ← get
  match s.clock.popEvent with
  | none => pure false
  | some (d, clock) =>
      set { s with clock := clock }
      deliver d
      pure true

/-- The loops of `run_until` and `run_until_idle`; deliveries schedule nothing,
so the events pending at the start bound the iterations. -/
def runWhile (more : LinkSimulator → ℕ → Bool) : ℕ → ℕ → LinkProgram ℕ
  | 0, count => pure count
  | pending + 1, count => do
      let s ← get
      if more s count then
        let _ ← advanceToNextEvent
        runWhile more pending (count + 1)
      else pure count

/-- `clock.run_until`. -/
def runUntil (endTime : ℕ) : LinkProgram ℕ := do
  let s ← get
  let count ← runWhile
    (fun s _ => (s.clock.peekNextEventTime.map fun due => decide (due ≤ endTime)).getD false)
    s.clock.eventQueue.entries.length 0
  modify fun s =>
    if endTime > s.clock.now then { s with clock := { s.clock with now := endTime } } else s
  pure count

/-- `run_until_idle`. -/
def runUntilIdle (maxEvents : Option ℕ) : LinkProgram ℕ := do
  let s ← get
  runWhile
    (fun s count => !s.clock.eventQueue.isEmpty &&
      (maxEvents.map fun m => decide (count < m)).getD true)
    s.clock.eventQueue.entries.length 0

/-! ## Admission -/

/-- `_session_for_ingress`. -/
def sessionForIngress (s : LinkSimulator) (e : SidebandEnvelope) : Option Session :=
  match s.sessionManager.getSession e.linkSessionId with
  | none => none
  | some session =>
      if session.state ≠ .active then none
      else if session.spacecraftInstanceId ≠ e.spacecraftInstanceId then none
      else
        match s.sessionManager.getActiveSession e.spacecraftInstanceId with
        | none => none
        | some active => if active.sessionId ≠ session.sessionId then none else some session

/-- The allocation of the link frame id, under the admission lock. -/
def allocateLinkFrameId : LinkProgram ℕ := do
  let s ← get
  let clock := s.clock.getAdmissionOrder.2
  if s.nextLinkFrameId ≥ 0xFFFFFFFFFFFFFFFF then
    set { s with clock := clock }
    liftRaises (runtimeError "link frame ID allocator exhausted")
  else
    set { s with clock := clock, nextLinkFrameId := s.nextLinkFrameId + 1 }
    pure s.nextLinkFrameId

/-- `_admit_file_epoch`. -/
def admitFileEpoch (direction : Direction) (session : Option Session) (linkFrameId : ℕ)
    (frameBytes : Bytes) : LinkProgram EpochAdmission := do
  let s ← get
  if direction ≠ .egress then pure ⟨0, none, none⟩
  else
    match filePacketInfo frameBytes with
    | none => pure ⟨0, none, none⟩
    | some info =>
        let (admission, epochs) := s.fileEpochManager.admitPacket session linkFrameId info
        set { s with
          fileEpochManager := epochs
          admittedFilePackets :=
            if admission.error = none then
              s.admittedFilePackets ++ [(admission.epochId, info.packetType)]
            else s.admittedFilePackets }
        pure admission

/-- One copy through the fault model; the serializer is taken whether or not the
copy is lost. -/
def drawCopy (a : AdmittedFrame) (copyIndex : ℕ) (includeDuplicate : Bool) :
    LinkProgram FaultDecision := do
  let s ← get
  let decision ← liftRaises (s.faultModel.applyFaults (s.profile a.direction) a.direction.code
    a.linkFrameId (a.frame.frameBytes.length * 8) a.ingressTimeNs (s.availableNs a.direction)
    copyIndex includeDuplicate)
  set (s.setAvailableNs a.direction decision.releaseNs)
  pure decision

/-- The frame bytes of a copy. -/
def copyBytes (a : AdmittedFrame) (decision : FaultDecision) : Raises Bytes :=
  if decision.isCorrupted ∧ decision.corruptedBits ≠ [] then
    FaultModel.corruptFrame a.frame.frameBytes decision.corruptedBits
  else .ok a.frame.frameBytes

/-- The egress envelope of a copy. -/
def egressEnvelope (a : AdmittedFrame) (copyIndex frameLength : ℕ) : SidebandEnvelope where
  magic := SidebandEnvelope.magicValue
  version :=
    if copyIndex = 0 then SidebandEnvelope.versionValue else SidebandEnvelope.versionWithCopyIndex
  direction := .egress
  reserved := 0
  spacecraftInstanceId := a.frame.envelope.spacecraftInstanceId
  senderBootId := (a.session.map Session.senderBootId).getD a.frame.envelope.senderBootId
  linkSessionId := a.frame.envelope.linkSessionId
  senderFrameId := a.frame.envelope.senderFrameId
  linkFrameId := a.linkFrameId
  fileEpochId := a.epochId
  frameLength := frameLength
  copyIndex := copyIndex

/-- The delivery of a copy. -/
def delivery (a : AdmittedFrame) (copyIndex : ℕ) (frameBytes : Bytes) : ScheduledDelivery where
  direction := a.direction
  linkFrameId := a.linkFrameId
  copyIndex := copyIndex
  frame := ⟨egressEnvelope a copyIndex frameBytes.length, frameBytes, copyIndex, rfl⟩
  spacecraftInstanceId := a.frame.envelope.spacecraftInstanceId
  session := a.session
  epochId := a.epochId
  packetType := a.packetType
  callbacks := a.callbacks

/-- The first part of `_schedule_delivery`: the delivery of a copy and its time. -/
def dueDelivery (a : AdmittedFrame) (copyIndex : ℕ) (decision : FaultDecision) :
    Raises (ℕ × ScheduledDelivery) := do
  let frameBytes ← copyBytes a decision
  (egressEnvelope a copyIndex frameBytes.length).validateEgress
  let deliveryTime ← simulationTime decision.releaseNs
  .ok (deliveryTime, delivery a copyIndex frameBytes)

/-- `_schedule_delivery`. -/
def scheduleDelivery (a : AdmittedFrame) (copyIndex : ℕ) (decision : FaultDecision) :
    LinkProgram Unit := do
  let (deliveryTime, d) ← liftRaises (dueDelivery a copyIndex decision)
  let s ← get
  let clock ← liftRaises (s.clock.scheduleAt deliveryTime a.direction.code a.linkFrameId copyIndex d)
  set { s with clock := clock }

/-- The consumption message of a lost copy. -/
def reportLost (a : AdmittedFrame) (copyIndex : ℕ) (reason : String) : LinkProgram Unit :=
  emitConsumed a.callbacks (controlMessage .frameConsumed a.session
    a.frame.envelope.spacecraftInstanceId a.linkFrameId a.epochId copyIndex (some "FRAME_LOST")
    (some reason))

/-- The duplicate copy of `admit_frame`. -/
def transmitDuplicate (a : AdmittedFrame) : LinkProgram Unit := do
  let duplicate ← drawCopy a 1 false
  if duplicate.isLost then reportLost a 1 "FAULT_DUPLICATE_COPY_LOSS"
  else scheduleDelivery a 1 duplicate

/-- `admit_frame` from the fault model on. -/
def transmit (a : AdmittedFrame) : LinkProgram Unit := do
  let decision ← drawCopy a 0 true
  if decision.isLost then reportLost a 0 "FAULT_LOSS"
  else do
    scheduleDelivery a 0 decision
    if decision.hasDuplicate then transmitDuplicate a else pure ()

/-- `admit_frame` behind the file-epoch fence. -/
def acceptFrame (a : AdmittedFrame) : LinkProgram Unit := do
  let accepted := controlMessage .frameAccepted a.session a.frame.envelope.spacecraftInstanceId
    a.linkFrameId a.epochId 0 (some "ACCEPTED") none
  emitControl accepted
  liftRaises ((a.callbacks.onAccepted.getD fun _ => .ok ()) accepted)
  transmit a

/-- The rejection of a frame at the file-epoch fence. -/
def rejectFrame (a : AdmittedFrame) (reason : String) : LinkProgram Unit :=
  match a.callbacks.onConsumed with
  | none => pure ()
  | some _ =>
      emitConsumed a.callbacks (controlMessage .frameConsumed a.session
        a.frame.envelope.spacecraftInstanceId a.linkFrameId a.epochId 0
        (some "FILE_EPOCH_REJECTED") (some reason))

/-- `admit_frame` from the id allocation on. -/
def admitWithSession (frame : TransportFrame) (direction : Direction) (session : Option Session)
    (callbacks : LinkCallbacks) : LinkProgram (Option ℕ) := do
  let linkFrameId ← allocateLinkFrameId
  checkpointChanged
  let s ← get
  let admission ← admitFileEpoch direction session linkFrameId frame.frameBytes
  let admitted : AdmittedFrame :=
    ⟨linkFrameId, s.clock.now, frame, direction, session, admission.epochId, admission.packetType,
      callbacks⟩
  match admission.error with
  | some reason => do
      rejectFrame admitted reason
      pure none
  | none => do
      acceptFrame admitted
      pure (some linkFrameId)

/-- The gates in front of the allocation: envelope, blackout and session.  A link
without any session yet lets every frame pass, without one. -/
def ingressGate (s : LinkSimulator) (frame : TransportFrame) : Option (Option Session) :=
  match frame.envelope.validateIngress with
  | .error _ => none
  | .ok () =>
      if s.contactSchedule.shouldDropFrame s.clock.now then none
      else if s.sessionManager.sessionHistory.rows = [] then some none
      else (s.sessionForIngress frame.envelope).map some

/-- `admit_frame`. -/
def admitFrame (frame : TransportFrame) (direction : Direction) (callbacks : LinkCallbacks) :
    LinkProgram (Option ℕ) := do
  let s ← get
  match s.ingressGate frame with
  | none => pure none
  | some session => admitWithSession frame direction session callbacks

theorem frame_ne_nil_of_ingressGate {s : LinkSimulator} {frame : TransportFrame}
    {session : Option Session} (h : s.ingressGate frame = some session) :
    0 < frame.frameBytes.length := by
  unfold ingressGate at h
  cases valid : frame.envelope.validateIngress with
  | error failure =>
      rw [valid] at h
      cases h
  | ok u =>
      rw [frame.length_eq]
      exact (SidebandEnvelope.of_validateIngress valid).2.2.2.1

end LinkSimulator

/-! ## Runs -/

/-- An operation on the simulator or its clock. -/
inductive LinkOp
  | createSession (spacecraftInstanceId senderBootId : ℕ)
  | resetSession (spacecraftInstanceId senderBootId : ℕ)
  | closeSession (sessionId : ℕ)
  | abortFileEpoch (fileEpochId : ℕ) (reason : String)
  | admitFrame (frame : TransportFrame) (direction : Direction) (callbacks : LinkCallbacks)
  | advanceToNextEvent
  | runUntil (endTime : ℕ)
  | runUntilIdle (maxEvents : Option ℕ)

namespace LinkOp

/-- The method an operation calls, its value forgotten. -/
def program : LinkOp → LinkProgram Unit
  | createSession i boot => discard (LinkSimulator.createSession i boot)
  | resetSession i boot => discard (LinkSimulator.resetSession i boot)
  | closeSession sessionId => LinkSimulator.closeSession sessionId
  | abortFileEpoch epoch reason => discard (LinkSimulator.abortFileEpoch epoch reason)
  | admitFrame frame direction callbacks =>
      discard (LinkSimulator.admitFrame frame direction callbacks)
  | advanceToNextEvent => discard LinkSimulator.advanceToNextEvent
  | runUntil endTime => discard (LinkSimulator.runUntil endTime)
  | runUntilIdle maxEvents => discard (LinkSimulator.runUntilIdle maxEvents)

end LinkOp

/-- The state an operation leaves, whether it returned or raised. -/
def LinkSimulator.after (s : LinkSimulator) (op : LinkOp) : LinkSimulator :=
  Effect.finalState (op.program s)

/-- The simulator as a machine over operations. -/
def linkMachine : Machine LinkSimulator LinkOp Unit where
  step s op := (s.after op, ())

end CubeNano

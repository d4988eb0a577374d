import CubeNano.Flight.SatelliteUdpService
import CubeNano.Link.Footprint

/-!
# The mission link

`link_sim/mission_link.py` with its `MissionUdpAdapter`: a frame is put on the scheduler, taken
from it, admitted by the link simulator and handed to the receiver when its copies are due, all
within one call.  The receiver may reset the link before it answers; what it makes of the
outcome of a reset is part of its answer.  A simulator call that the source makes with
callbacks is run first, and its consumption messages are reported after it, which are the last
thing such a call records.

## Main definitions

* `MissionUdpAdapter` — the gate of the frame that is out, with the scheduler
* `MissionLink` — the state of the link
* `MissionLink.transmit`, `.reset`, `.close`
* `missionLinkMachine` — the calls of a link, as a machine

## Main statements

* `MissionUdpAdapter.Matched.report`, `.reset` — a report or a reset completes what is out
* `deliver_simulator` — a delivery does to the simulator what `LinkSimulator.deliver` does
-/

namespace CubeNano

open Effect

/-! ## The adapter -/

/-- `MissionUdpAdapter` with its scheduler; the link gives its items no completion. -/
structure MissionUdpAdapter where
  scheduler : MissionComScheduler Bytes Empty
  gate : Option CompletionGate
  completionTuples : List (ℕ × String × Bool)

namespace MissionUdpAdapter

/-- `_flush_gate`. -/
def flushGate (a : MissionUdpAdapter) : MissionUdpAdapter :=
  match a.gate with
  | none => a
  | some gate =>
      match gate.status, gate.frameReturned with
      | some status, true =>
          { scheduler :=
              ((a.scheduler.markUpstreamReturn gate.itemId).2.markStatus gate.itemId status).2
            gate := none
            completionTuples := a.completionTuples ++ [(gate.itemId, status, true)] }
      | _, _ => a

/-- `receive_status`. -/
def receiveStatus (status : String) (a : MissionUdpAdapter) : MissionUdpAdapter :=
  flushGate { a with
    gate := a.gate.map fun gate => { gate with status := some (gate.status.getD status) } }

/-- `receive_return`. -/
def receiveReturn (a : MissionUdpAdapter) : MissionUdpAdapter :=
  flushGate { a with gate := a.gate.map fun gate => { gate with frameReturned := true } }

/-- A status and the return of the frame, as the link reports both. -/
def report (status : String) (a : MissionUdpAdapter) : MissionUdpAdapter :=
  (a.receiveStatus status).receiveReturn

/-- `reset`. -/
def reset (a : MissionUdpAdapter) : MissionUdpAdapter :=
  let a := { a with scheduler := a.scheduler.setNotReady }
  match a.gate with
  | none => a
  | some gate => flushGate { a with gate := some { gate with
      frameReturned := true
      status := some (gate.status.getD "SESSION_RESET") } }

/-- `send_next`, up to the call of `send_frame`: the frame that goes out. -/
def sendNext (a : MissionUdpAdapter) : Option Bytes × MissionUdpAdapter :=
  match a.scheduler.poll with
  | (none, scheduler) => (none, { a with scheduler := scheduler })
  | (some item, scheduler) =>
      (some item.frame,
        { a with scheduler := scheduler, gate := some ⟨item.itemId, none, false⟩ })

/-- Whether a frame is out. -/
def inFlight (a : MissionUdpAdapter) : Bool := a.gate.isSome || a.scheduler.current.isSome

/-- No frame is out. -/
structure Idle (a : MissionUdpAdapter) : Prop where
  gate : a.gate = none
  current : a.scheduler.current = none
  state : a.scheduler.state ≠ .inFlight
  notReadyAfterCompletion : a.scheduler.notReadyAfterCompletion = false

/-- A frame is out, of which nothing was reported. -/
structure Out (a : MissionUdpAdapter) (item : ScheduledItem Bytes Empty) : Prop where
  gate : a.gate = some ⟨item.itemId, none, false⟩
  current : a.scheduler.current = some item
  state : a.scheduler.state = .inFlight
  status : item.status = none
  upstreamReturned : item.upstreamReturned = false

/-- The gate and the scheduler agree on what is out. -/
def Matched (a : MissionUdpAdapter) : Prop := a.Idle ∨ ∃ item, a.Out item

theorem Idle.inFlight {a : MissionUdpAdapter} (idle : a.Idle) : a.inFlight = false := by
  rw [MissionUdpAdapter.inFlight, idle.gate, idle.current]
  rfl

theorem Out.inFlight {a : MissionUdpAdapter} {item : ScheduledItem Bytes Empty}
    (out : a.Out item) : a.inFlight = true := by
  rw [MissionUdpAdapter.inFlight, out.gate]
  rfl

/-- The return and the status of the frame that is out complete it. -/
theorem complete_of_fresh {q : MissionComScheduler Bytes Empty} {item : ScheduledItem Bytes Empty}
    (current : q.current = some item) (status : item.status = none)
    (upstreamReturned : item.upstreamReturned = false) (final : String) :
    ((q.markUpstreamReturn item.itemId).2.markStatus item.itemId final).2 =
      { q with
        current := none
        state := if q.notReadyAfterCompletion then .notReady else .ready
        notReadyAfterCompletion := false
        completed := MissionComScheduler.count q.completed item.kind } := by
  have returned : (q.markUpstreamReturn item.itemId).2 =
      { q with current := some { item with upstreamReturned := true } } := by
    unfold MissionComScheduler.markUpstreamReturn MissionComScheduler.tryComplete
    simp [current, status, upstreamReturned]
  rw [returned]
  unfold MissionComScheduler.markStatus MissionComScheduler.tryComplete
  simp [status]

/-- Without a frame that is out a report changes nothing. -/
theorem Idle.report {a : MissionUdpAdapter} (idle : a.Idle) (status : String) :
    a.report status = a := by
  obtain ⟨scheduler, gate, completionTuples⟩ := a
  obtain rfl : gate = none := idle.gate
  rfl

/-- **A report completes the frame that is out.** -/
theorem Out.report {a : MissionUdpAdapter} {item : ScheduledItem Bytes Empty} (out : a.Out item)
    (status : String) :
    (a.report status).Idle ∧ (a.report status).scheduler.queues = a.scheduler.queues ∧
      (a.report status).scheduler.state =
        if a.scheduler.notReadyAfterCompletion then .notReady else .ready := by
  obtain ⟨scheduler, gate, completionTuples⟩ := a
  obtain rfl : gate = some ⟨item.itemId, none, false⟩ := out.gate
  have completed := complete_of_fresh out.current out.status out.upstreamReturned status
  have reported : (MissionUdpAdapter.report status ⟨scheduler, some ⟨item.itemId, none, false⟩,
      completionTuples⟩).scheduler =
        ((scheduler.markUpstreamReturn item.itemId).2.markStatus item.itemId status).2 := rfl
  rw [completed] at reported
  refine ⟨⟨rfl, by rw [reported], ?_, by rw [reported]⟩, by rw [reported], by rw [reported]⟩
  rw [reported]
  dsimp only
  split <;> exact nofun

/-- After a report nothing is out. -/
theorem Matched.report {a : MissionUdpAdapter} (matched : a.Matched) (status : String) :
    (a.report status).Idle ∧ (a.report status).scheduler.queues = a.scheduler.queues := by
  rcases matched with idle | ⟨item, out⟩
  · rw [idle.report]
    exact ⟨idle, rfl⟩
  · exact ⟨(out.report status).1, (out.report status).2.1⟩

/-- **After a reset nothing is out and the scheduler is not ready.** -/
theorem Matched.reset {a : MissionUdpAdapter} (matched : a.Matched) :
    a.reset.Idle ∧ a.reset.scheduler.state = .notReady ∧
      a.reset.scheduler.queues = a.scheduler.queues := by
  obtain ⟨scheduler, gate, completionTuples⟩ := a
  rcases matched with idle | ⟨item, out⟩
  · obtain rfl : gate = none := idle.gate
    have stopped : scheduler.setNotReady = { scheduler with state := .notReady } := by
      rw [MissionComScheduler.setNotReady, show scheduler.current = none from idle.current]
      rfl
    have reset_ : MissionUdpAdapter.reset ⟨scheduler, none, completionTuples⟩ =
        ⟨{ scheduler with state := .notReady }, none, completionTuples⟩ := by
      rw [← stopped]
      rfl
    rw [reset_]
    exact ⟨⟨rfl, idle.current, nofun, idle.notReadyAfterCompletion⟩, rfl, rfl⟩
  · obtain rfl : gate = some ⟨item.itemId, none, false⟩ := out.gate
    have current : scheduler.current = some item := out.current
    have stopped : scheduler.setNotReady = { scheduler with notReadyAfterCompletion := true } := by
      rw [MissionComScheduler.setNotReady, current]
      rfl
    have completed := complete_of_fresh (q := scheduler.setNotReady) (stopped ▸ current)
      out.status out.upstreamReturned "SESSION_RESET"
    have reset_ : (MissionUdpAdapter.reset ⟨scheduler, some ⟨item.itemId, none, false⟩,
        completionTuples⟩).scheduler = _ := completed
    have gate_ : (MissionUdpAdapter.reset ⟨scheduler, some ⟨item.itemId, none, false⟩,
        completionTuples⟩).gate = none := rfl
    rw [stopped] at reset_
    refine ⟨⟨gate_, by rw [reset_], ?_, by rw [reset_]⟩, by rw [reset_]; rfl, by rw [reset_]⟩
    rw [reset_]
    exact nofun

/-- The only item of a ready scheduler goes out. -/
theorem poll_of_single (q : MissionComScheduler Bytes Empty) (kind : QueueKind)
    (item : ScheduledItem Bytes Empty) (ready : q.state = .ready) (current : q.current = none)
    (queues : q.queues = Function.update (fun _ => []) kind [item])
    (orderingKey : item.orderingKey = none) :
    ∃ q', q.poll = (some item, q') ∧ q'.current = some item ∧ q'.state = .inFlight ∧
      ∀ other, q'.queues other = [] := by
  have single (r : MissionComScheduler Bytes Empty) (same : r.queues = q.queues) :
      ∃ q', r.take kind = (some item, q') ∧ q'.current = some item ∧ q'.state = .inFlight ∧
        ∀ other, q'.queues other = [] := by
    refine ⟨{ r with
      queues := Function.update r.queues kind []
      current := some item
      state := .inFlight }, ?_, rfl, rfl, fun other => ?_⟩
    · rw [MissionComScheduler.take, same, queues, Function.update_self]
    · dsimp only
      rw [same, queues, Function.update_idem]
      by_cases same : other = kind
      · rw [same, Function.update_self]
      · rw [Function.update_of_ne same]
  have unordered : q.orderedKind = none := by
    unfold MissionComScheduler.orderedKind MissionComScheduler.heads MissionComScheduler.kinds
    cases kind <;> simp [queues, MissionComScheduler.leastHead, orderingKey]
  have selected : ∃ r, q.selectKind = (some kind, r) ∧ r.queues = q.queues := by
    unfold MissionComScheduler.selectKind
    cases kind <;> simp [queues]
  obtain ⟨r, selects, same⟩ := selected
  unfold MissionComScheduler.poll
  rw [ready, current, unordered, selects]
  exact single r same

/-- **A frame that is put on an idle, ready adapter goes out at once.** -/
theorem sendNext_of_ready {a : MissionUdpAdapter} (idle : a.Idle)
    (ready : a.scheduler.state = .ready) (empty : ∀ kind, a.scheduler.queues kind = [])
    (kind : QueueKind) (frame : Bytes) :
    ∃ id q item a', a.scheduler.enqueue kind frame none none = (.ok id, q) ∧
      sendNext { a with scheduler := q } = (some frame, a') ∧ a'.Out item ∧
        ∀ other, a'.scheduler.queues other = [] := by
  let item : ScheduledItem Bytes Empty :=
    ⟨a.scheduler.nextItemId, kind, frame, none, none, none, false⟩
  have room : ¬ a.scheduler.capacities kind ≤ (a.scheduler.queues kind).length := by
    rw [empty kind]
    exact Nat.not_le.mpr (a.scheduler.capacities_pos kind)
  have queues : a.scheduler.queues = fun _ => [] := funext empty
  let q : MissionComScheduler Bytes Empty := { a.scheduler with
    nextItemId := a.scheduler.nextItemId + 1
    queues := Function.update a.scheduler.queues kind [item]
    accepted := MissionComScheduler.count a.scheduler.accepted kind }
  have accepted : a.scheduler.enqueue kind frame none none = (.ok a.scheduler.nextItemId, q) := by
    rw [MissionComScheduler.enqueue, if_neg room, empty kind]
    rfl
  obtain ⟨q', polled, current, state, none_⟩ := poll_of_single q kind item ready
    idle.current (by dsimp only [q]; rw [queues]) rfl
  refine ⟨_, q, item, ⟨q', some ⟨item.itemId, none, false⟩, a.completionTuples⟩, accepted, ?_,
    ⟨rfl, current, state, rfl, rfl⟩, none_⟩
  rw [sendNext]
  dsimp only
  rw [polled]

/-- A scheduler that is not ready sends nothing. -/
theorem sendNext_of_notReady {a : MissionUdpAdapter} (stopped : a.scheduler.state = .notReady) :
    a.sendNext = (none, a) := by
  have polled : a.scheduler.poll = (none, a.scheduler) := by
    rw [MissionComScheduler.poll, stopped]
    rfl
  rw [sendNext, polled]

/-- What `enqueue` leaves alone. -/
theorem enqueue_kept (q : MissionComScheduler Bytes Empty) (kind : QueueKind) (frame : Bytes) :
    (q.enqueue kind frame none none).2.current = q.current ∧
      (q.enqueue kind frame none none).2.state = q.state ∧
      (q.enqueue kind frame none none).2.notReadyAfterCompletion = q.notReadyAfterCompletion := by
  unfold MissionComScheduler.enqueue
  split <;> exact ⟨rfl, rfl, rfl⟩

end MissionUdpAdapter

/-! ## The link -/

/-- A receiver: the boots it resets the link with when it is handed a frame, and its answer. -/
structure LinkReceiver (ρ : Type) where
  resets : TransportFrame → List ℕ
  answer : TransportFrame → Raises ρ

/-- An attached satellite or ground endpoint, by the methods it implements. -/
structure LinkEndpoint (ρ : Type) where
  receiveTransportFrame : Option (LinkReceiver ρ)
  enqueuePendingTmFrames : Option (Raises Unit)
  drainPendingTmFrames : Option (Raises (List Bytes))

/-- The endpoints attached during a call. -/
structure AttachedEndpoints (ρ : Type) where
  satellite : Option (LinkEndpoint ρ)
  ground : Option (LinkEndpoint ρ)

/-- `_receiver_for`. -/
def AttachedEndpoints.receiverFor {ρ : Type} (attached : AttachedEndpoints ρ)
    (direction : Direction) : Raises (Option (LinkReceiver ρ)) :=
  let target := match direction with
    | .ingress => attached.satellite
    | .egress => attached.ground
  match target with
  | none => .ok none
  | some endpoint =>
      match endpoint.receiveTransportFrame with
      | none => .error ⟨.typeError, "link endpoint does not implement receive_transport_frame()"⟩
      | some receiver => .ok (some receiver)

/-- `receiver if receiver is not None else self._receiver_for(direction)`. -/
def AttachedEndpoints.chosen {ρ : Type} (attached : AttachedEndpoints ρ)
    (receiver : Option (LinkReceiver ρ)) (direction : Direction) :
    Raises (Option (LinkReceiver ρ)) :=
  match receiver with
  | some receiver => .ok (some receiver)
  | none => attached.receiverFor direction

/-- `_Pending`. -/
structure PendingSend (ρ : Type) where
  direction : Direction
  receiver : Option (LinkReceiver ρ)
  result : Option ρ
  receiverError : Option PyException
  status : Option String

/-- `MissionLink`. -/
structure MissionLink (ρ : Type) where
  simulator : LinkSimulator
  spacecraftInstanceId : ℕ
  senderBootId : ℕ
  sessionId : ℕ
  linkGeneration : ℕ
  nextSenderFrameId : ℕ
  pending : Option (PendingSend ρ)
  adapter : MissionUdpAdapter

namespace MissionLink

variable {ρ : Type}

/-- The simulator of a new link. -/
def newSimulator (uplinkProfile downlinkProfile : FaultProfile) (faultModel : FaultModel)
    (transport : TransportFrame → Raises Unit) (startTime : ℕ) : LinkSimulator :=
  { LinkSimulator.initial uplinkProfile downlinkProfile faultModel .empty (some transport) none with
    clock := .start startTime }

/-- `MissionLink(...)`, over a clock on which nothing is scheduled. -/
def new (uplinkProfile downlinkProfile : FaultProfile) (faultModel : FaultModel)
    (transport : TransportFrame → Raises Unit)
    (startTime spacecraftInstanceId senderBootId : ℕ) : Raises (MissionLink ρ) :=
  match LinkSimulator.createSession spacecraftInstanceId senderBootId
      (newSimulator uplinkProfile downlinkProfile faultModel transport startTime) with
  | .error failure _ => .error failure
  | .ok sessionId simulator =>
      match simulator.sessionManager.getSession sessionId with
      | none => runtimeError "LinkSimulator did not create a session"
      | some session => .ok
          { simulator, spacecraftInstanceId, senderBootId, sessionId
            linkGeneration := session.generation
            nextSenderFrameId := 1
            pending := none
            adapter := ⟨.mission, none, []⟩ }

/-- A method of the link. -/
abbrev Program (ρ α : Type) := EStateM PyException (MissionLink ρ) α

/-- A method of the simulator. -/
def onSimulator {α : Type} (x : LinkProgram α) : Program ρ α := fun l =>
  match x l.simulator with
  | .ok value simulator => .ok value { l with simulator := simulator }
  | .error failure simulator => .error failure { l with simulator := simulator }

/-- `reset`. -/
def reset (senderBootId : ℕ) : Program ρ ℕ := do
  modify fun l => { l with adapter := l.adapter.reset, senderBootId := senderBootId }
  let l ← get
  let sessionId ← onSimulator (LinkSimulator.resetSession l.spacecraftInstanceId senderBootId)
  modify fun l => { l with
    sessionId := sessionId
    nextSenderFrameId := 1
    linkGeneration :=
      ((l.simulator.sessionManager.getSession sessionId).map Session.generation).getD 0 }
  pure sessionId

/-! ## Callbacks -/

/-- `message.status or "FRAME_CONSUMED"`. -/
def consumedStatus (message : LinkControlMessage) : String :=
  match message.status with
  | some status => if status = "" then "FRAME_CONSUMED" else status
  | none => "FRAME_CONSUMED"

/-- `on_consumed`. -/
def onConsumed (message : LinkControlMessage) (l : MissionLink ρ) : MissionLink ρ :=
  { l with
    pending := l.pending.map fun p => { p with status := some (consumedStatus message) }
    adapter := l.adapter.report (consumedStatus message) }

/-- The resets a receiver makes before it answers. -/
def resetAll : List ℕ → Program ρ Unit
  | [] => pure ()
  | boot :: rest => do
      tryCatch (discard (reset boot)) fun _ => pure ()
      resetAll rest

/-- A receiver is handed a frame. -/
def receive (receiver : LinkReceiver ρ) (frame : TransportFrame) : Program ρ ρ := do
  resetAll (receiver.resets frame)
  liftRaises (receiver.answer frame)

/-- The receiver's result is kept. -/
def keepResult (receiver : LinkReceiver ρ) (frame : TransportFrame) :
    Program ρ (Option String) := do
  let result ← receive receiver frame
  modify fun l => { l with pending := l.pending.map fun p => { p with result := some result } }
  pure none

/-- `on_delivered`. -/
def onDelivered (frame : TransportFrame) : Program ρ (Option String) := do
  let l ← get
  match l.pending.bind PendingSend.receiver with
  | none => pure none
  | some receiver =>
      tryCatch (keepResult receiver frame) fun failure => do
        modify fun l => { l with
          pending := l.pending.map fun p => { p with receiverError := some failure } }
        pure (some "FRAME_FAILED")

/-- The callbacks as the simulator sees them: what `on_delivered` returns. -/
def callbacks (receiver : Option (LinkReceiver ρ)) : LinkCallbacks where
  onConsumed := some fun _ => .ok ()
  onDelivered := receiver.map fun receiver frame =>
    match receiver.answer frame with
    | .ok _ => .ok none
    | .error _ => .ok (some "FRAME_FAILED")

/-! ## Delivery -/

/-- `_emit_consumed`. -/
def emitConsumed (message : LinkControlMessage) : Program ρ Unit := do
  onSimulator (LinkSimulator.emitControl message)
  modify (onConsumed message)

/-- The `try` block of `deliver`, under the callbacks of the link. -/
def deliverBody (d : ScheduledDelivery) : Program ρ Unit := do
  modify fun l => { l with
    simulator := { l.simulator with delivered := l.simulator.delivered ++ [d] } }
  let l ← get
  liftRaises ((l.simulator.transport.getD fun _ => .ok ()) d.frame)
  let callbackStatus ← onDelivered d.frame
  modify fun l => { l with simulator := { l.simulator with
    fileEpochManager := LinkSimulator.releaseFence d l.simulator.fileEpochManager } }
  emitConsumed (LinkSimulator.consumedMessage d
    (match callbackStatus with
      | some status => if status = "" then "FRAME_CONSUMED" else status
      | none => "FRAME_CONSUMED") none)

/-- `deliver`. -/
def deliver (d : ScheduledDelivery) : Program ρ Unit :=
  tryCatch (deliverBody d) fun failure =>
    emitConsumed (LinkSimulator.consumedMessage d "FRAME_FAILED" (some failure.kind.name))

/-- `run_until_idle`; deliveries schedule nothing, so the events at the start bound the
rounds. -/
def runUntilIdle : ℕ → Program ρ Unit
  | 0 => pure ()
  | rounds + 1 => do
      let l ← get
      match l.simulator.clock.popEvent with
      | none => pure ()
      | some (d, clock) => do
          set { l with simulator := { l.simulator with clock := clock } }
          deliver d
          runUntilIdle rounds

/-! ## Sending -/

/-- The consumption messages a call of the simulator recorded. -/
def consumedSince (before after : LinkSimulator) : List LinkControlMessage :=
  (after.controlEvents.drop before.controlEvents.length).filter fun message =>
    message.messageType = .frameConsumed

/-- A simulator call with `on_consumed`. -/
def reporting {α : Type} (x : LinkProgram α) : Program ρ α := do
  let l ← get
  let report (m : MissionLink ρ) : MissionLink ρ :=
    (consumedSince l.simulator m.simulator).foldl (fun m message => onConsumed message m) m
  match x l.simulator with
  | .ok value simulator => do
      set (report { l with simulator := simulator })
      pure value
  | .error failure simulator => do
      set (report { l with simulator := simulator })
      throw failure

/-- `_ingress_envelope`. -/
def ingressEnvelope (l : MissionLink ρ) (frame : Bytes) : SidebandEnvelope where
  magic := SidebandEnvelope.magicValue
  version := SidebandEnvelope.versionValue
  direction := .ingress
  reserved := 0
  spacecraftInstanceId := l.spacecraftInstanceId
  senderBootId := 0
  linkSessionId := l.sessionId
  senderFrameId := l.nextSenderFrameId
  linkFrameId := 0
  fileEpochId := 0
  frameLength := frame.length

theorem frameLength_ingressEnvelope (l : MissionLink ρ) (frame : Bytes) :
    (l.ingressEnvelope frame).frameLength = frame.length := rfl

/-- The frame that is handed to the simulator. -/
def ingressFrame (l : MissionLink ρ) (frame : Bytes) : TransportFrame :=
  ⟨l.ingressEnvelope frame, frame, 0, l.frameLength_ingressEnvelope frame⟩

/-- A frame that the simulator did not take. -/
def rejected : Program ρ Unit :=
  modify fun l => { l with adapter := l.adapter.report "FRAME_REJECTED" }

/-- `_send_frame`. -/
def sendFrame (frame : Bytes) : Program ρ Unit := do
  let l ← get
  match l.pending with
  | none => rejected
  | some pending => do
      set { l with nextSenderFrameId := l.nextSenderFrameId + 1 }
      match ← reporting (LinkSimulator.admitFrame (l.ingressFrame frame) pending.direction
          (callbacks pending.receiver)) with
      | none => rejected
      | some _ => do
          let l ← get
          runUntilIdle l.simulator.clock.eventQueue.entries.length

/-- `send_next`. -/
def sendNext : Program ρ Unit := do
  let l ← get
  let (frame?, adapter) := l.adapter.sendNext
  set { l with adapter := adapter }
  match frame? with
  | none => pure ()
  | some frame => sendFrame frame

/-- The statuses that `transmit` raises. -/
def failedStatuses : List String :=
  ["FRAME_FAILED", "FRAME_REJECTED", "FRAME_LOST", "FILE_EPOCH_REJECTED"]

/-- What `transmit` makes of the record of its frame. -/
def PendingSend.outcome (pending : PendingSend ρ) : Raises (Option ρ) :=
  match pending.receiverError with
  | some failure => .error failure
  | none =>
      match pending.status with
      | some status => if status ∈ failedStatuses then runtimeError status else .ok pending.result
      | none => .ok pending.result

/-- The `try` block of `transmit`. -/
def exchange (queueKind : QueueKind) (frame : Bytes) : Program ρ (Option ρ) := do
  let l ← get
  let (answer, scheduler) := l.adapter.scheduler.enqueue queueKind frame none none
  set { l with adapter := { l.adapter with scheduler := scheduler } }
  let _ ← liftRaises answer
  sendNext
  let l ← get
  if l.adapter.inFlight then liftRaises (runtimeError "FRAME_COMPLETION_TIMEOUT")
  else
    match l.pending with
    | none => pure none
    | some pending => liftRaises (PendingSend.outcome pending)

/-- `finally: self._pending = None`. -/
def clearingPending {α : Type} (x : Program ρ α) : Program ρ α := fun l =>
  match x l with
  | .ok value l => .ok value { l with pending := none }
  | .error failure l => .error failure { l with pending := none }

/-- `transmit`, up to the staging of telemetry. -/
def transmitFrame (attached : AttachedEndpoints ρ) (frame : Bytes) (direction : Direction)
    (receiver : Option (LinkReceiver ρ)) (queueKind : QueueKind) : Program ρ (Option ρ) := do
  let l ← get
  if l.pending.isSome || l.adapter.inFlight then liftRaises (runtimeError "FRAME_IN_FLIGHT")
  else do
    let receiver ← liftRaises (attached.chosen receiver direction)
    set { l with pending := some ⟨direction, receiver, none, none, none⟩ }
    clearingPending (exchange queueKind frame)

/-- The loop over the frames of `drain_pending_tm_frames`, each through `send_downlink`. -/
def sendDownlinks (attached : AttachedEndpoints ρ) : List Bytes → Program ρ Unit
  | [] => pure ()
  | frame :: rest => do
      let _ ← transmitFrame attached frame .egress none .file
      sendDownlinks attached rest

/-- `_drain_satellite_tm`. -/
def drainSatelliteTm (attached : AttachedEndpoints ρ) : Program ρ Unit :=
  match attached.satellite with
  | none => pure ()
  | some satellite =>
      match satellite.enqueuePendingTmFrames with
      | some enqueued => liftRaises enqueued
      | none =>
          match satellite.drainPendingTmFrames with
          | none => pure ()
          | some produced => do
              let frames ← liftRaises produced
              sendDownlinks attached frames

/-- The arguments of `transmit`, with the endpoints attached at the time. -/
structure TransmitCall (ρ : Type) where
  attached : AttachedEndpoints ρ
  frame : Bytes
  direction : Direction
  receiver : Option (LinkReceiver ρ)
  queueKind : QueueKind

/-- `transmit`. -/
def transmit (call : TransmitCall ρ) : Program ρ (Option ρ) := do
  let result ← transmitFrame call.attached call.frame call.direction call.receiver call.queueKind
  if call.direction = .ingress then do
    drainSatelliteTm call.attached
    pure result
  else pure result

/-- `close`; the transport of the model has nothing to close. -/
def close : Program ρ Unit := modify fun l => { l with adapter := l.adapter.reset }

end MissionLink

/-! ## Runs -/

/-- A call of the link; `downlink_transfer` is the loop of its producer's frames. -/
inductive MissionLinkOp (ρ : Type)
  | transmit (call : MissionLink.TransmitCall ρ)
  | downlinkTransfer (attached : AttachedEndpoints ρ) (frames : List Bytes)
  | reset (senderBootId : ℕ)
  | close

/-- The method a call runs, its value forgotten. -/
def MissionLinkOp.program {ρ : Type} : MissionLinkOp ρ → MissionLink.Program ρ Unit
  | transmit call => discard (MissionLink.transmit call)
  | downlinkTransfer attached frames => MissionLink.sendDownlinks attached frames
  | reset senderBootId => discard (MissionLink.reset senderBootId)
  | close => MissionLink.close

/-- The calls of a link, as a machine; a call that raises keeps what it did. -/
def missionLinkMachine (ρ : Type) : Machine (MissionLink ρ) (MissionLinkOp ρ) Unit where
  step l op := (finalState (op.program l), ())

end CubeNano

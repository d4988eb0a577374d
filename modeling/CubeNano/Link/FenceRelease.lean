import CubeNano.Link.DeliveryOrder

/-!
# The release of the file-epoch fence

The fence is taken when a START is admitted and released by the delivery of an
END or CANCEL of the attempt, and by nothing else on the data path.  So an idle
link has released it when every END and CANCEL that was admitted had a copy that
reached the delivery and was handed over without an exception, and not otherwise.

`Live` is the invariant of such a run: while the last admitted file packet is an
END or CANCEL, either no attempt is current or a copy that will release it is
pending.

## Main definitions

* `LinkSimulator.CopyReleases`, `LinkSimulator.Survives` — a copy of the frame will
  be handed over
* `LinkSimulator.TerminalSurvives` — the condition on one operation
* `LinkSimulator.FenceReleased` — what an idle link owes
-/

namespace CubeNano

namespace LinkSimulator

/-! ## The condition -/

/-- Transport and callback take a delivery without an exception. -/
def HandsOver (transport : Option (TransportFrame → Raises Unit)) (d : ScheduledDelivery) :
    Prop := ∃ status, handOver transport d = .ok status

/-- The fault draw of a copy. -/
def draw (s : LinkSimulator) (a : AdmittedFrame) (availableNs : ℤ) (copyIndex : ℕ)
    (includeDuplicate : Bool) : Raises FaultDecision :=
  s.faultModel.applyFaults (s.profile a.direction) a.direction.code a.linkFrameId
    (a.frame.frameBytes.length * 8) a.ingressTimeNs availableNs copyIndex includeDuplicate

/-- A copy with this decision is scheduled. -/
def CopyScheduled (s : LinkSimulator) (a : AdmittedFrame) (copyIndex : ℕ)
    (decision : FaultDecision) : Prop :=
  decision.isLost = false ∧
    ∃ due d, dueDelivery a copyIndex decision = .ok (due, d) ∧ s.clock.now ≤ due

/-- The allocation of a link frame id and its checkpoint succeed. -/
def allocates (s : LinkSimulator) : Bool :=
  s.nextLinkFrameId < 0xFFFFFFFFFFFFFFFF &&
    ((s.stateChanged.getD fun _ => .ok ()) (s.nextLinkFrameId + 1,
      s.sessionManager.nextSessionId)).isOk

/-- The file packet in a downlink frame. -/
def egressFilePacket (direction : Direction) (frameBytes : Bytes) : Option FilePacket :=
  if direction = .egress then filePacketInfo frameBytes else none

/-- The pending delivery releases the fence of an epoch. -/
def Releases (s : LinkSimulator) (epoch : ℕ) (d : ScheduledDelivery) : Prop :=
  d.epochId = epoch ∧ isTerminal d.packetType = true ∧ HandsOver s.transport d

/-- The last file packet that was admitted is an END or CANCEL. -/
def EndedTransfer (s : LinkSimulator) : Prop :=
  ∃ epoch packetType, s.admittedFilePackets.getLast? = some (epoch, packetType) ∧
    isTerminal (some packetType) = true

/-- **The invariant**: a transfer that ended is not current any more, or a delivery
that releases it is pending. -/
def Live (s : LinkSimulator) : Prop :=
  EndedTransfer s → ∀ attempt, s.fileEpochManager.currentAttempt = some attempt →
    ∃ e ∈ s.clock.eventQueue, Releases s attempt.epochId e.2

/-- A step that loses no pending delivery and opens no attempt keeps the invariant. -/
theorem Live.grows {s t : LinkSimulator} (h : Live s)
    (queue : ∀ e ∈ s.clock.eventQueue, e ∈ t.clock.eventQueue)
    (admitted : t.admittedFilePackets = s.admittedFilePackets)
    (transport : t.transport = s.transport)
    (epochs : s.fileEpochManager.Settles t.fileEpochManager) : Live t := by
  rintro ended attempt current
  obtain ⟨before, stored, same⟩ := epochs.current attempt current
  have endedBefore : EndedTransfer s := by
    unfold EndedTransfer at ended ⊢
    rwa [admitted] at ended
  obtain ⟨e, mem, releases⟩ := h endedBefore before stored
  refine ⟨e, queue e mem, ?_⟩
  unfold Releases at releases ⊢
  rwa [transport, ← same]

theorem Live.unmoved {s t : LinkSimulator} (moved : Unmoved s t) (h : Live s) : Live t :=
  h.grows (fun _ mem => moved.clock ▸ mem) moved.admittedFilePackets moved.transport moved.epochs

/-- A frame that ends the current attempt is on its way through the simulator `s`;
the serializer of its direction is available at `availableNs`. -/
structure Awaiting (s : LinkSimulator) (a : AdmittedFrame) (availableNs : ℤ)
    (t : LinkSimulator) : Prop where
  current : ∀ attempt, t.fileEpochManager.currentAttempt = some attempt →
    attempt.epochId = a.epochId
  faultModel : t.faultModel = s.faultModel
  profile : t.profile = s.profile
  transport : t.transport = s.transport
  now : t.clock.now = s.clock.now
  available : t.availableNs a.direction = availableNs

theorem Awaiting.unmoved {s t u : LinkSimulator} {a : AdmittedFrame} {availableNs : ℤ}
    (moved : Unmoved t u) (h : Awaiting s a availableNs t) : Awaiting s a availableNs u where
  current := by
    intro attempt stored
    obtain ⟨before, stored', same⟩ := moved.epochs.current attempt stored
    exact same ▸ h.current before stored'
  faultModel := moved.faultModel.trans h.faultModel
  profile := moved.profile.trans h.profile
  transport := moved.transport.trans h.transport
  now := by rw [moved.clock, h.now]
  available := by rw [moved.availableNs, h.available]

/-- The simulator after the allocation of a link frame id. -/
def allocated (s : LinkSimulator) : LinkSimulator :=
  { s with
    clock := s.clock.getAdmissionOrder.2
    nextLinkFrameId := s.nextLinkFrameId + 1 }

end LinkSimulator

end CubeNano

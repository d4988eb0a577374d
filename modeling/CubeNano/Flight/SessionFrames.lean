import CubeNano.Flight.SatelliteUdpService
import CubeNano.Lib.Machine

/-!
# Frames of a link session

What waits to go out was encoded under the binding in force, as long as nothing waits when
the binding changes: a change drops no frame, neither from the queues of the scheduler nor
from the pending telemetry.

## Main definitions

* `SatelliteUdpService.FreshUnder` — the frames of a state belong to a binding
* `SatelliteUdpService.IdleAtChange` — nothing of a session waits when the binding changes
* `pumpMachine` — the pumps of a service

## Main statements

* `SatelliteUdpService.fresh_pump` — a pump keeps the frames of a state fresh
* `framesInSession_of_idleAtChange` — then no frame goes out under a later session
* `not_framesInSession_of_pendingEvents` — telemetry that waits at a change
-/

namespace CubeNano

open Effect

/-- The frame was encoded under the binding, or before any. -/
def QueuedFrame.Under (frame : QueuedFrame) (binding : Option SessionBinding) : Prop :=
  ∀ b, frame.encodedUnder = some b → binding = some b

/-- A frame of no session belongs to any. -/
theorem QueuedFrame.under_of_none {frame : QueuedFrame} (unbound : frame.encodedUnder = none)
    (binding : Option SessionBinding) : frame.Under binding := by
  intro b encoded
  rw [unbound] at encoded
  cases encoded

/-- A frame that was encoded under a binding went out under it. -/
def Transmission.InSession (t : Transmission) : Prop :=
  ∀ b, t.frame.encodedUnder = some b →
    t.sentUnder = some b ∧ t.envelope.linkSessionId = b.linkSessionId

namespace SatelliteUdpService

variable {π Lease : Type} {binding : Option SessionBinding} (payload : CloudPayload π Lease)

/-- The frames that wait: pending telemetry, the queues, and the item that is out. -/
def waiting (s : SatelliteUdpService π Lease) : List QueuedFrame :=
  s.pendingTmFrames.map Prod.fst ++
    MissionComScheduler.kinds.flatMap (fun kind =>
      (s.scheduler.queues kind).map ScheduledItem.frame) ++
    s.scheduler.current.toList.map ScheduledItem.frame

/-- The endpoint has a binding, what waits was encoded under it, and every frame went out in
its session. -/
structure FreshUnder (binding : Option SessionBinding) (s : SatelliteUdpService π Lease) :
    Prop where
  bound : s.endpoint.sessionBinding = binding
  generation : s.endpoint.sessionReady = true → s.endpoint.linkGeneration.isSome = true
  pending : ∀ entry ∈ s.pendingTmFrames, entry.1.Under binding
  scheduled : s.scheduler.AllFrames fun frame => frame.Under binding
  sent : ∀ t ∈ s.transmitted, t.InSession

/-- A frame encoded now belongs to the binding. -/
theorem FreshUnder.frameNow {s : SatelliteUdpService π Lease} (fresh : FreshUnder binding s)
    (bytes : Bytes) : (s.frameNow bytes).Under binding :=
  fun _ encoded => fresh.bound.symm.trans encoded

/-! ## The methods but the session's -/

theorem freshUnder_onPayload {α : Type} (x : EStateM PyException π α) :
    Keeps (FreshUnder binding) (onPayload x : Program π Lease α) := by
  intro s fresh
  unfold onPayload
  cases x s.payloadState with
  | ok value state =>
      exact ⟨fresh.bound, fresh.generation, fresh.pending, fresh.scheduled, fresh.sent⟩
  | error failure state =>
      exact ⟨fresh.bound, fresh.generation, fresh.pending, fresh.scheduled, fresh.sent⟩

theorem freshUnder_onScheduler {α : Type} {f : FrameScheduler Lease → α × FrameScheduler Lease}
    (keeps : ∀ q, q.AllFrames (fun frame => frame.Under binding) →
      (f q).2.AllFrames fun frame => frame.Under binding) :
    Keeps (FreshUnder binding) (onScheduler f : Program π Lease α) := fun _ fresh =>
  ⟨fresh.bound, fresh.generation, fresh.pending, keeps _ fresh.scheduled, fresh.sent⟩

theorem freshUnder_queueTm (message : PyDict) :
    Keeps (FreshUnder binding) (queueTm payload message) := by
  unfold queueTm
  refine Keeps.bind (Keeps.tryCatch (freshUnder_onPayload _) fun failure => ?_)
    fun encoded => Triple.withState fun s fresh => ?_
  · split
    · exact freshUnder_onPayload _
    · exact Triple.raise fun _ fresh => fresh
  · split
    · exact (keeps_liftRaises _ _).weaken (fun _ same => same ▸ fresh) (fun _ _ h => h)
        fun _ _ h => h
    · refine Triple.set fun _ _ => ⟨fresh.bound, fresh.generation, fun entry mem => ?_,
        fresh.scheduled, fresh.sent⟩
      rcases List.mem_append.mp mem with old | new
      · exact fresh.pending entry old
      · rw [List.mem_singleton.mp new]
        exact fresh.frameNow _

theorem freshUnder_queueSlo : Keeps (FreshUnder binding) (queueSlo payload) := by
  unfold queueSlo
  split
  · exact Keeps.pure _
  · exact freshUnder_queueTm payload _

theorem freshUnder_queueStatusTm : Keeps (FreshUnder binding) (queueStatusTm payload) := by
  unfold queueStatusTm
  refine Triple.withState fun s fresh => Triple.weaken ?_ (fun _ same => same ▸ fresh)
    (fun _ _ h => h) fun _ _ h => h
  exact Keeps.bind (freshUnder_onPayload _) fun health =>
    Keeps.bind (freshUnder_queueTm payload _) fun _ => freshUnder_queueSlo payload

theorem freshUnder_queueCatalogSnapshot :
    Keeps (FreshUnder binding) (queueCatalogSnapshot payload) :=
  Keeps.bind (freshUnder_onPayload _) fun _ => freshUnder_queueTm payload _

theorem freshUnder_publishRows (rows : List JournalRow) (count : ℕ) :
    Keeps (FreshUnder binding) (publishRows payload rows count) := by
  induction rows generalizing count with
  | nil => exact Keeps.pure _
  | cons row rest ih =>
      unfold publishRows
      refine Keeps.bind (Keeps.modify fun s fresh => ⟨fresh.bound, fresh.generation,
        fresh.pending, fresh.scheduled, fresh.sent⟩) fun _ => ?_
      split
      · exact ih count
      · exact Keeps.bind (freshUnder_queueTm payload _) fun _ => ih (count + 1)

theorem freshUnder_publishJournalEvents :
    Keeps (FreshUnder binding) (publishJournalEvents payload) := by
  unfold publishJournalEvents
  refine Triple.withState fun s fresh => Triple.weaken ?_ (fun _ same => same ▸ fresh)
    (fun _ _ h => h) fun _ _ h => h
  exact Keeps.bind (freshUnder_onPayload _) fun rows => freshUnder_publishRows payload rows 0

theorem freshUnder_movePending (frames : List (QueuedFrame × ℕ))
    (under : ∀ entry ∈ frames, entry.1.Under binding) (queued : ℕ) :
    Keeps (FreshUnder binding) (movePending frames queued : Program π Lease ℕ) := by
  induction frames generalizing queued with
  | nil => exact Keeps.pure _
  | cons entry rest ih =>
      rw [List.forall_mem_cons] at under
      unfold movePending
      refine Keeps.bind (freshUnder_onScheduler fun q all =>
        MissionComScheduler.allFrames_enqueue all _ under.1 _ _) fun answer =>
        Keeps.bind (keeps_liftRaises _ _) fun _ =>
          Keeps.bind (Keeps.modify fun s fresh => ?_) fun _ => ih under.2 (queued + 1)
      exact ⟨fresh.bound, fresh.generation, under.2, fresh.scheduled, fresh.sent⟩

theorem freshUnder_enqueuePendingTmFrames :
    Keeps (FreshUnder binding) (enqueuePendingTmFrames payload) := by
  unfold enqueuePendingTmFrames
  refine Keeps.bind (freshUnder_publishJournalEvents payload) fun _ =>
    Triple.withState fun s fresh => Triple.weaken
      (freshUnder_movePending s.pendingTmFrames fresh.pending 0) (fun _ same => same ▸ fresh)
      (fun _ _ h => h) fun _ _ h => h

theorem freshUnder_enqueueDownlinkFrame (transferId : ℤ) :
    Keeps (FreshUnder binding) (enqueueDownlinkFrame payload transferId) := by
  unfold enqueueDownlinkFrame
  refine Keeps.bind (freshUnder_onPayload _) fun leased => ?_
  split
  · exact Keeps.pure _
  · refine Triple.withState fun s fresh => Triple.weaken ?_ (fun _ same => same ▸ fresh)
      (fun _ _ h => h) fun _ _ h => h
    refine Keeps.bind (freshUnder_onScheduler fun q all =>
      MissionComScheduler.allFrames_enqueue all _ (fresh.frameNow _) _ _) fun answer => ?_
    split
    · exact Keeps.pure _
    · exact Keeps.bind (freshUnder_onPayload _) fun _ => Triple.raise fun _ fresh => fresh

theorem freshUnder_completeDownlinkFrame (lease : Lease) (status : String) :
    Keeps (FreshUnder binding) (completeDownlinkFrame payload lease status) := by
  unfold completeDownlinkFrame
  refine Keeps.bind (freshUnder_onPayload _) fun goesOn => ?_
  split
  · exact Keeps.pure _
  · exact Keeps.tryCatch (Keeps.bind (freshUnder_enqueueDownlinkFrame payload _) fun _ =>
      Keeps.pure _) fun _ => freshUnder_onPayload _

theorem freshUnder_queueExecutedCatalog (result : PyDict) :
    Keeps (FreshUnder binding) (queueExecutedCatalog payload result) := by
  unfold queueExecutedCatalog
  split
  · split
    · exact freshUnder_queueCatalogSnapshot payload
    · exact Keeps.pure _
  · exact Keeps.pure _

theorem freshUnder_enqueueDispatched (result : PyDict) :
    Keeps (FreshUnder binding) (enqueueDispatched payload result) := by
  unfold enqueueDispatched
  split
  · split
    · exact Keeps.bind (keeps_liftRaises _ _) fun _ =>
        Keeps.bind (freshUnder_enqueueDownlinkFrame payload _) fun _ => Keeps.pure _
    · exact Keeps.pure _
  · exact Keeps.pure _

theorem freshUnder_receiveTransportFrame (frame : TransportFrame) :
    Keeps (FreshUnder binding) (receiveTransportFrame payload frame) :=
  Keeps.bind (freshUnder_onPayload _) fun result =>
    Keeps.bind (freshUnder_queueTm payload _) fun _ =>
      Keeps.bind (freshUnder_queueExecutedCatalog payload result) fun _ =>
        Keeps.bind (freshUnder_publishJournalEvents payload) fun _ =>
          freshUnder_enqueueDispatched payload result

theorem freshUnder_runCompletion
    (completed : Option (ScheduledItem QueuedFrame Lease × String)) :
    Keeps (FreshUnder binding) (runCompletion payload completed) := by
  unfold runCompletion
  split
  · exact Keeps.pure _
  split
  · exact Keeps.pure _
  · exact freshUnder_completeDownlinkFrame payload _ _

theorem freshUnder_flushGate : Keeps (FreshUnder binding) (flushGate payload) := by
  unfold flushGate
  refine Triple.withState fun s fresh => ?_
  split
  · exact Triple.pure fun _ same => same ▸ fresh
  split
  · refine Triple.bind (R := fun _ => FreshUnder binding) (Triple.set fun _ _ =>
      ⟨fresh.bound, fresh.generation, fresh.pending, fresh.scheduled, fresh.sent⟩) fun _ => ?_
    exact Keeps.bind (freshUnder_onScheduler fun q all =>
        MissionComScheduler.allFrames_markUpstreamReturn all _) fun _ =>
      Keeps.bind (freshUnder_runCompletion payload _) fun _ =>
        Keeps.bind (freshUnder_onScheduler fun q all =>
          MissionComScheduler.allFrames_markStatus all _ _) fun _ =>
            freshUnder_runCompletion payload _
  · exact Triple.pure fun _ same => same ▸ fresh

theorem freshUnder_noteStatus (status : String) :
    Keeps (FreshUnder binding) (noteStatus status : Program π Lease Unit) :=
  Keeps.modify fun _ fresh =>
    ⟨fresh.bound, fresh.generation, fresh.pending, fresh.scheduled, fresh.sent⟩

theorem freshUnder_noteReturn :
    Keeps (FreshUnder binding) (noteReturn : Program π Lease Unit) :=
  Keeps.modify fun _ fresh =>
    ⟨fresh.bound, fresh.generation, fresh.pending, fresh.scheduled, fresh.sent⟩

theorem freshUnder_receiveStatus (status : String) :
    Keeps (FreshUnder binding) (receiveStatus payload status) :=
  Keeps.bind (freshUnder_noteStatus status) fun _ => freshUnder_flushGate payload

theorem freshUnder_receiveReturn : Keeps (FreshUnder binding) (receiveReturn payload) :=
  Keeps.bind freshUnder_noteReturn fun _ => freshUnder_flushGate payload

theorem freshUnder_resetAdapter : Keeps (FreshUnder binding) (resetAdapter payload) := by
  unfold resetAdapter
  exact Keeps.bind (Keeps.modify fun _ fresh => ⟨fresh.bound, fresh.generation, fresh.pending,
      MissionComScheduler.allFrames_setNotReady fresh.scheduled, fresh.sent⟩) fun _ =>
    Keeps.bind freshUnder_noteReturn fun _ =>
      Keeps.bind (freshUnder_noteStatus _) fun _ => freshUnder_flushGate payload

/-- The session id of a binding is the endpoint's. -/
theorem linkSessionId_of_sessionBinding {e : UdpMissionEndpoint} {b : SessionBinding}
    (bound : e.sessionBinding = some b) : e.linkSessionId = b.linkSessionId := by
  unfold UdpMissionEndpoint.sessionBinding at bound
  split at bound
  · cases bound
    rfl
  · cases bound

/-- **What goes out was encoded under the binding.** -/
theorem freshUnder_sendIngress (answer : SendAnswer) {frame : QueuedFrame}
    (under : frame.Under binding) :
    Keeps (FreshUnder binding) (sendIngress answer frame : Program π Lease Unit) := by
  unfold sendIngress
  refine Triple.withState fun s fresh => ?_
  have entry : ∀ t, t = s → FreshUnder binding t := fun t same => same ▸ fresh
  refine Triple.weaken ?_ entry (fun _ _ h => h) fun _ _ h => h
  split
  · exact keeps_liftRaises _ _
  split
  · exact keeps_liftRaises _ _
  refine Keeps.bind (keeps_liftRaises _ _) fun _ => Keeps.bind (Triple.set fun _ _ =>
    ⟨fresh.bound, fresh.generation, fresh.pending, fresh.scheduled, fresh.sent⟩) fun _ =>
      Keeps.bind (keeps_liftRaises _ _) fun _ => Keeps.bind (keeps_liftRaises _ _) fun _ =>
        Keeps.modify fun t now => ⟨now.bound, now.generation, now.pending, now.scheduled,
          fun sent mem => ?_⟩
  rcases List.mem_append.mp mem with old | new
  · exact now.sent sent old
  · rw [List.mem_singleton.mp new]
    intro b encoded
    have bound := under b encoded
    exact ⟨now.bound.trans bound, linkSessionId_of_sessionBinding (fresh.bound.trans bound)⟩

theorem freshUnder_sendFrame (answer : SendAnswer) {frame : QueuedFrame}
    (under : frame.Under binding) :
    Keeps (FreshUnder binding) (sendFrame payload answer frame) := by
  unfold sendFrame
  refine Keeps.bind (Keeps.tryCatch (Keeps.bind (freshUnder_sendIngress answer under) fun _ =>
    Keeps.bind (Keeps.modify fun _ fresh => ⟨fresh.bound, fresh.generation, fresh.pending,
      fresh.scheduled, fresh.sent⟩) fun _ => freshUnder_receiveStatus payload _) fun _ =>
    freshUnder_receiveStatus payload _) fun _ => freshUnder_receiveReturn payload

theorem freshUnder_sendNext (answer : SendAnswer) :
    Keeps (FreshUnder binding) (sendNext payload answer) := by
  have polled : Triple (FreshUnder binding)
      (onScheduler MissionComScheduler.poll : Program π Lease _)
      (fun item s => FreshUnder binding s ∧ ∀ i, item = some i → i.frame.Under binding)
      fun _ => FreshUnder binding := fun s fresh =>
    have poll := MissionComScheduler.allFrames_poll fresh.scheduled
    ⟨⟨fresh.bound, fresh.generation, fresh.pending, poll.2, fresh.sent⟩, poll.1⟩
  refine Triple.bind polled fun item s both => ?_
  cases item with
  | none => exact both.1
  | some item =>
      have sends : Keeps (FreshUnder binding) (do
          modify fun s => { s with gate := some ⟨item.itemId, none, false⟩ }
          sendFrame payload answer item.frame
          pure true) :=
        Keeps.bind (Keeps.modify fun _ fresh => ⟨fresh.bound, fresh.generation, fresh.pending,
          fresh.scheduled, fresh.sent⟩) fun _ =>
            Keeps.bind (freshUnder_sendFrame payload answer (both.2 item rfl)) fun _ =>
              Keeps.pure _
      exact sends s both.1

theorem freshUnder_sendLoop (answers : ℕ → SendAnswer) (rounds sent : ℕ) :
    Keeps (FreshUnder binding) (sendLoop payload answers rounds sent) := by
  induction rounds generalizing sent with
  | zero => exact Triple.raise fun _ fresh => fresh
  | succ rounds ih =>
      unfold sendLoop
      refine Triple.withState fun s fresh => Triple.weaken ?_ (fun _ same => same ▸ fresh)
        (fun _ _ h => h) fun _ _ h => h
      split
      · exact Keeps.pure _
      · refine Keeps.bind (freshUnder_sendNext payload _) fun wentOut => ?_
        split
        · exact ih (sent + 1)
        · exact Keeps.pure _

theorem freshUnder_receiveFrame (frame? : Option TransportFrame) :
    Keeps (FreshUnder binding) (receiveFrame payload frame?) := by
  unfold receiveFrame
  split
  · exact Keeps.pure _
  · exact Keeps.bind (Keeps.modify fun _ fresh => ⟨fresh.bound, fresh.generation, fresh.pending,
      fresh.scheduled, fresh.sent⟩) fun _ => freshUnder_receiveTransportFrame payload _

theorem freshUnder_pumpReceived (input : PumpInput) (frame? : Option TransportFrame) :
    Keeps (FreshUnder binding) (pumpReceived payload input frame?) := by
  unfold pumpReceived
  refine Keeps.bind (freshUnder_receiveFrame payload frame?) fun _ => ?_
  have rest : Keeps (FreshUnder binding) (do
      let _ ← enqueuePendingTm payload
      sendLoop payload input.answers input.rounds 0) :=
    Keeps.bind (Keeps.tryCatch (freshUnder_enqueuePendingTmFrames payload) fun _ =>
      Keeps.pure _) fun _ => freshUnder_sendLoop payload _ _ _
  split
  · exact Keeps.bind (freshUnder_queueStatusTm payload) fun _ => rest
  · exact rest

/-! ## A new binding -/

/-- The frames of a state belong to its binding. -/
def Fresh (s : SatelliteUdpService π Lease) : Prop := FreshUnder s.endpoint.sessionBinding s

theorem FreshUnder.fresh {s : SatelliteUdpService π Lease} (fresh : FreshUnder binding s) :
    s.Fresh := by
  unfold Fresh
  rw [fresh.bound]
  exact fresh

/-- Nothing that waits was encoded under a binding. -/
def Idle (s : SatelliteUdpService π Lease) : Prop := ∀ frame ∈ s.waiting, frame.encodedUnder = none

instance (s : SatelliteUdpService π Lease) : Decidable s.Idle :=
  inferInstanceAs (Decidable (∀ frame ∈ s.waiting, frame.encodedUnder = none))

theorem mem_waiting_of_pending {s : SatelliteUdpService π Lease} {entry : QueuedFrame × ℕ}
    (mem : entry ∈ s.pendingTmFrames) : entry.1 ∈ s.waiting :=
  List.mem_append_left _ (List.mem_append_left _ (List.mem_map_of_mem mem))

theorem mem_waiting_of_queue {s : SatelliteUdpService π Lease} {kind : QueueKind}
    {item : ScheduledItem QueuedFrame Lease} (mem : item ∈ s.scheduler.queues kind) :
    item.frame ∈ s.waiting := by
  have known : kind ∈ MissionComScheduler.kinds := by
    cases kind <;> decide
  exact List.mem_append_left _ (List.mem_append_right _
    (List.mem_flatMap.mpr ⟨kind, known, List.mem_map_of_mem mem⟩))

theorem mem_waiting_of_current {s : SatelliteUdpService π Lease}
    {item : ScheduledItem QueuedFrame Lease} (out : s.scheduler.current = some item) :
    item.frame ∈ s.waiting := by
  refine List.mem_append_right _ (List.mem_map_of_mem ?_)
  rw [out]
  exact List.mem_singleton_self item

/-- A binding comes into force while nothing of a session waits. -/
theorem Fresh.withBinding {s : SatelliteUdpService π Lease} (fresh : s.Fresh) (idle : s.Idle)
    (next : SessionBinding) :
    FreshUnder (s.endpoint.withBinding next).sessionBinding
      { s with endpoint := s.endpoint.withBinding next } where
  bound := rfl
  generation _ := rfl
  pending _ mem := QueuedFrame.under_of_none (idle _ (mem_waiting_of_pending mem)) _
  scheduled :=
    ⟨fun _ _ mem => QueuedFrame.under_of_none (idle _ (mem_waiting_of_queue mem)) _,
      fun _ out => QueuedFrame.under_of_none (idle _ (mem_waiting_of_current out)) _⟩
  sent := fresh.sent

/-- Before the first binding, nothing was encoded under one. -/
theorem Fresh.idle {s : SatelliteUdpService π Lease} (fresh : s.Fresh)
    (unready : s.endpoint.sessionReady = false) : s.Idle := by
  have none_ : s.endpoint.sessionBinding = none := by
    rw [UdpMissionEndpoint.sessionBinding, unready]
    rfl
  have unbound {frame : QueuedFrame} (under : frame.Under s.endpoint.sessionBinding) :
      frame.encodedUnder = none := by
    cases encoded : frame.encodedUnder with
    | none => rfl
    | some b =>
        have bound := under b encoded
        rw [none_] at bound
        cases bound
  intro frame mem
  rcases List.mem_append.mp mem with earlier | out
  · rcases List.mem_append.mp earlier with pending | queued
    · obtain ⟨entry, here, rfl⟩ := List.mem_map.mp pending
      exact unbound (fresh.pending entry here)
    · obtain ⟨kind, -, inQueue⟩ := List.mem_flatMap.mp queued
      obtain ⟨item, here, rfl⟩ := List.mem_map.mp inQueue
      exact unbound (fresh.scheduled.queues kind item here)
  · obtain ⟨item, here, rfl⟩ := List.mem_map.mp out
    exact unbound (fresh.scheduled.current item (Option.mem_toList.mp here))

/-- A binding that does not differ from the one in force. -/
theorem sessionBinding_of_not_changes {e : UdpMissionEndpoint} {next : SessionBinding}
    (generation : e.sessionReady = true → e.linkGeneration.isSome = true)
    (unchanged : e.changes next = false) :
    (e.withBinding next).sessionBinding = e.sessionBinding := by
  simp only [UdpMissionEndpoint.changes, Bool.or_eq_false_iff, Bool.not_eq_false',
    decide_eq_false_iff_not, ne_eq, not_not] at unchanged
  obtain ⟨⟨⟨ready, session⟩, number⟩, boot⟩ := unchanged
  obtain ⟨current, known⟩ := Option.isSome_iff_exists.mp (generation ready)
  rw [known, Option.getD_some] at number
  unfold UdpMissionEndpoint.sessionBinding UdpMissionEndpoint.withBinding
  rw [ready, known]
  simp [session, number, boot]

theorem freshUnder_onSessionBinding (next : SessionBinding) :
    Keeps (FreshUnder binding) (onSessionBinding payload next) := by
  unfold onSessionBinding
  refine Triple.withState fun s fresh => Triple.bind (R := fun _ => FreshUnder binding)
    (Triple.set fun _ _ => ⟨fresh.bound, fresh.generation, fresh.pending, fresh.scheduled,
      fresh.sent⟩) fun _ => ?_
  split
  · exact Keeps.pure _
  split
  · exact Keeps.bind (freshUnder_resetAdapter payload) fun _ => Keeps.modify fun _ now =>
      ⟨now.bound, now.generation, now.pending,
        MissionComScheduler.allFrames_setReady now.scheduled, now.sent⟩
  · exact Keeps.pure _

/-- A program from a known state, with a condition on that state. -/
abbrev From {α : Type} (s : SatelliteUdpService π Lease) (x : Program π Lease α) : Prop :=
  Triple (fun t => t = s) x (fun _ => Fresh) fun _ => Fresh

theorem from_of_keeps {α : Type} {s : SatelliteUdpService π Lease} {x : Program π Lease α}
    (keeps : Keeps (FreshUnder s.endpoint.sessionBinding) x) (fresh : s.Fresh) : From s x :=
  Triple.weaken keeps (fun _ same => same ▸ fresh) (fun _ _ h => h.fresh) fun _ _ h => h.fresh

/-- **A binding is applied** while nothing of a session waits, if it differs. -/
theorem from_applySessionBinding {s : SatelliteUdpService π Lease} (fresh : s.Fresh)
    (next : SessionBinding) (idle : s.endpoint.changes next = true → s.Idle) :
    From s (applySessionBinding payload next) := by
  intro t same
  subst same
  unfold applySessionBinding
  rw [get_bind]
  cases checked : t.endpoint.checkBinding next with
  | error failure => exact fresh
  | ok _ =>
      cases changes : t.endpoint.changes next with
      | true =>
          exact Triple.weaken (freshUnder_onSessionBinding payload next) (fun _ h => h)
            (fun _ _ h => h.fresh) (fun _ _ h => h.fresh) _
              (fresh.withBinding (idle changes) next)
      | false =>
          have bound := sessionBinding_of_not_changes fresh.generation changes
          exact FreshUnder.fresh ⟨bound, fun _ => rfl, fresh.pending, fresh.scheduled, fresh.sent⟩

/-- A datagram is consumed, while nothing of a session waits if it changes the binding. -/
theorem from_consumeDatagram {s : SatelliteUdpService π Lease} (fresh : s.Fresh)
    (datagram : Datagram)
    (idle : ∀ next, datagram = .control (.session next) → s.endpoint.changes next = true →
      s.Idle) : From s (consumeDatagram payload datagram) := by
  unfold consumeDatagram
  split
  · exact Triple.raise fun _ same => same ▸ fresh
  · exact from_of_keeps (keeps_liftRaises _ _) fresh
  · exact Triple.bind (R := fun _ => Fresh) (from_applySessionBinding payload fresh _ (idle _ rfl))
      fun _ => Triple.pure fun _ h => h
  · refine Triple.withState fun t same => ?_
    subst same
    exact from_of_keeps (Keeps.bind (keeps_liftRaises _ _) fun _ => Keeps.pure _) fresh

/-- When a pump finds a binding that differs from the one in force, nothing of a session
waits. -/
def IdleAtChange (s : SatelliteUdpService π Lease) (input : PumpInput) : Prop :=
  ∀ next, s.nextDatagram input.received = .ok (some (.control (.session next))) →
    s.endpoint.changes next = true → s.Idle

/-- The datagrams that wait in the endpoint hold no frame of the satellite. -/
theorem Fresh.withDatagrams {s : SatelliteUdpService π Lease} (fresh : s.Fresh)
    (datagrams : List Datagram) :
    Fresh { s with endpoint := { s.endpoint with pendingDatagrams := datagrams } } :=
  ⟨rfl, fresh.generation, fresh.pending, fresh.scheduled, fresh.sent⟩

theorem from_receiveEgress {s : SatelliteUdpService π Lease} (fresh : s.Fresh)
    (input : PumpInput) (idle : s.IdleAtChange input) : From s (receiveEgress payload input) := by
  intro t same
  subst same
  unfold receiveEgress
  cases input.hello with
  | error failure => exact fresh
  | ok _ =>
      rw [liftRaises_bind_of_ok rfl, get_bind]
      cases found : t.nextDatagram input.received with
      | error failure => exact fresh
      | ok datagram? =>
          have popped := fresh.withDatagrams t.endpoint.pendingDatagrams.tail
          cases datagram? with
          | none => exact popped
          | some datagram =>
              refine from_consumeDatagram payload popped datagram (fun next isSession changes => ?_)
                _ rfl
              exact idle next (isSession ▸ found) changes

/-- **A pump keeps what waits fresh.** -/
theorem fresh_pump {s : SatelliteUdpService π Lease} (fresh : s.Fresh) (input : PumpInput)
    (idle : s.IdleAtChange input) : (finalState (pump payload input s)).Fresh := by
  have pumped : From s (pump payload input) := by
    unfold pump
    refine Triple.bind (R := fun _ => Fresh) (from_receiveEgress payload fresh input idle)
      fun frame? t fresh' => ?_
    exact from_of_keeps (freshUnder_pumpReceived payload input frame?) fresh' t rfl
  exact Triple.finalState pumped rfl

/-! ## Runs -/

/-- A handshake keeps what waits fresh: what was encoded before it has no session. -/
theorem from_establishSession (rounds : List (Raises Unit × Raises (Option Datagram)))
    {s : SatelliteUdpService π Lease} (fresh : s.Fresh)
    (unready : s.endpoint.sessionReady = false) : From s (establishSession payload rounds) := by
  induction rounds generalizing s with
  | nil => exact from_of_keeps (keeps_liftRaises _ _) fresh
  | cons round rest ih =>
      intro t same
      subst same
      obtain ⟨hello, received⟩ := round
      unfold establishSession
      cases hello with
      | error failure => exact fresh
      | ok _ =>
          cases received with
          | error failure => exact fresh
          | ok datagram? =>
              cases datagram? with
              | none => exact ih fresh unready t rfl
              | some datagram =>
                  refine Triple.bind (R := fun _ => Fresh) (from_consumeDatagram payload fresh
                    datagram fun _ _ _ => fresh.idle unready) (fun frame? => ?_) t rfl
                  refine Triple.bind (R := fun _ => Fresh) (Triple.modify fun u now =>
                    now.withDatagrams _) fun _ => Triple.withState fun u now => ?_
                  split
                  · exact Triple.pure fun _ same => same ▸ now
                  · rename_i notReady
                    exact ih now (Bool.eq_false_iff.mpr notReady)

theorem fresh_new (endpoint : UdpMissionEndpoint) (unready : endpoint.sessionReady = false)
    (capacities bursts : QueueKind → ℕ) (capacities_pos : ∀ kind, 0 < capacities kind)
    (bursts_pos : ∀ kind, 0 < bursts kind) (state : π) :
    Fresh (new endpoint (.new capacities bursts capacities_pos bursts_pos) state :
      SatelliteUdpService π Lease) where
  bound := rfl
  generation ready := by
    rw [show endpoint.sessionReady = true from ready] at unready
    cases unready
  pending _ mem := nomatch mem
  scheduled := ⟨fun _ _ mem => (nomatch mem), fun _ out => nomatch out⟩
  sent _ mem := nomatch mem

/-- Without a binding the endpoint is not ready. -/
theorem unready_of_sessionBinding {e : UdpMissionEndpoint} (unbound : e.sessionBinding = none) :
    e.sessionReady = false := by
  unfold UdpMissionEndpoint.sessionBinding at unbound
  split at unbound
  · cases unbound
  · rename_i notReady
    exact Bool.eq_false_iff.mpr notReady

/-- The constructors leave a fresh service. -/
theorem fresh_startService {s t : SatelliteUdpService π Lease} (fresh : s.Fresh)
    (unbound : s.endpoint.sessionBinding = none)
    {rounds : List (Raises Unit × Raises (Option Datagram))}
    (started : startService payload rounds s = .ok () t) : t.Fresh := by
  have entry : FreshUnder none s := unbound ▸ fresh
  have whole : From s (startService payload rounds) := by
    unfold startService
    refine Triple.bind (R := fun _ => FreshUnder none) (Triple.weaken
      (freshUnder_queueStatusTm payload) (fun _ same => same ▸ entry) (fun _ _ h => h)
      fun _ _ h => h.fresh) fun _ u now => ?_
    exact from_establishSession payload rounds now.fresh (unready_of_sessionBinding now.bound) u rfl
  have final := Triple.finalState whole rfl
  rw [started] at final
  exact final

end SatelliteUdpService

/-- The pumps of a service; one that raises keeps what it has done. -/
def pumpMachine {π Lease : Type} (payload : CloudPayload π Lease) :
    Machine (SatelliteUdpService π Lease) PumpInput (Raises ℕ) where
  step s input :=
    match SatelliteUdpService.pump payload input s with
    | .ok sent t => (t, .ok sent)
    | .error failure t => (t, .error failure)

theorem pumpMachine_step {π Lease : Type} (payload : CloudPayload π Lease)
    (s : SatelliteUdpService π Lease) (input : PumpInput) :
    ((pumpMachine payload).step s input).1 =
      finalState (SatelliteUdpService.pump payload input s) := by
  unfold pumpMachine
  dsimp only
  split <;> rename_i result <;> rw [result] <;> rfl

/-- **Frames stay in their session.**  Start a service over any payload and let it pump; if
nothing that was encoded under a session waits whenever a pump finds another binding, then
every frame that was encoded under a binding goes out under it. -/
theorem framesInSession_of_idleAtChange {π Lease : Type} (payload : CloudPayload π Lease)
    (state : π) {spacecraftInstanceId linkSessionId senderBootId : ℕ}
    {endpoint : UdpMissionEndpoint}
    (made : UdpMissionEndpoint.new spacecraftInstanceId linkSessionId senderBootId = .ok endpoint)
    (capacities bursts : QueueKind → ℕ) (capacities_pos : ∀ kind, 0 < capacities kind)
    (bursts_pos : ∀ kind, 0 < bursts kind)
    {rounds : List (Raises Unit × Raises (Option Datagram))} {s : SatelliteUdpService π Lease}
    (started : SatelliteUdpService.startService payload rounds (.new endpoint
      (.new capacities bursts capacities_pos bursts_pos) state) = .ok () s)
    (inputs : List PumpInput)
    (idle : (pumpMachine payload).AllSteps SatelliteUdpService.IdleAtChange s inputs) :
    ∀ t ∈ ((pumpMachine payload).exec s inputs).transmitted, t.InSession := by
  have unready : endpoint.sessionReady = false := by
    unfold UdpMissionEndpoint.new at made
    repeat' split at made
    all_goals cases made
    rfl
  have unbound : endpoint.sessionBinding = none := by
    rw [UdpMissionEndpoint.sessionBinding, unready]
    rfl
  have fresh := SatelliteUdpService.fresh_startService payload
    (SatelliteUdpService.fresh_new endpoint unready capacities bursts capacities_pos bursts_pos
      state) unbound started
  have kept := (pumpMachine payload).exec_invariant_of_allSteps SatelliteUdpService.Fresh fresh
    (fun t input idle fresh => by
      rw [pumpMachine_step]
      exact SatelliteUdpService.fresh_pump payload fresh input idle) inputs idle
  exact kept.sent

/-! ## Telemetry that waits -/

/-- The journal behind a payload: its counters and its events. -/
structure EventJournal where
  counters : TmCounterTables
  rows : List JournalRow

/-- A payload that has only its journal, on the mission profile. -/
def journalPayload : CloudPayload EventJournal Unit where
  spacecraftInstanceId := 1
  bootId := 1
  spacecraftId := 68
  tmEventApid := 2
  eventTimeBase := Text.ofString "monotonic"
  slo := none
  eventClock := pure 0
  allocateTmFrameCounters := do
    let journal ← get
    let (counters, tables) ← liftRaises (journal.counters.allocateTmFrameCounters 2 0)
    set { journal with counters := tables }
    pure counters
  eventsAfter eventId := do
    let journal ← get
    pure ((journal.rows.filter fun row => eventId < row.eventId).take 128)
  health _ := pure [(strKey "state", strKey "READY"), (strKey "queue_capacity", .int 4)]
  receiveTransportFrame _ := pure [(strKey "stage", strKey "COMMAND_REJECTED"),
    (strKey "error_code", strKey "INVALID_COMMAND")]
  catalogBundle := pure []
  nextDownlinkFrame _ := pure none
  downlinkRefused _ _ := pure ()
  frameComplete _ _ := pure none
  abortDownlink _ _ := pure ()

/-- A journal with some events. -/
def journalWith (events : ℕ) : EventJournal where
  counters := .initial
  rows := (List.range events).map fun i => ⟨i + 1, Text.ofString "JOB_STARTED", none,
    Text.ofString "\x7b\x7d"⟩

/-- The endpoint of spacecraft 1. -/
def journalEndpoint : UdpMissionEndpoint := ⟨1, 1, 1, none, false, [], 1⟩

/-- The bindings before and after a reset of the link. -/
def firstBinding : SessionBinding := ⟨1, 1, 1, 1⟩

def secondBinding : SessionBinding := ⟨1, 1, 2, 2⟩

/-- The handshake gets the first binding. -/
def firstHandshake : List (Raises Unit × Raises (Option Datagram)) :=
  [(.ok (), .ok (some (.control (.session firstBinding))))]

/-- The service after its handshake. -/
def journalService (events : ℕ) : SatelliteUdpService EventJournal Unit :=
  finalState (SatelliteUdpService.startService journalPayload firstHandshake
    (.new journalEndpoint .mission (journalWith events)))

/-- A pump that receives a datagram, or none; the socket takes every frame. -/
def journalPump (received : Option Datagram) : PumpInput :=
  ⟨.ok (), .ok received, false, fun _ => ⟨.ok (), .ok ()⟩, 40⟩

/-- A pump under the first binding, and one that finds the second. -/
def resetInputs : List PumpInput :=
  [journalPump none, journalPump (some (.control (.session secondBinding)))]

/-- The theorem applies when all telemetry is out before the reset. -/
theorem framesInSession_of_oneEvent :
    ((pumpMachine journalPayload).exec (journalService 1) resetInputs).transmitted ≠ [] ∧
      ∀ t ∈ ((pumpMachine journalPayload).exec (journalService 1) resetInputs).transmitted,
        t.InSession := by
  have started : Effect.isOk (SatelliteUdpService.startService journalPayload firstHandshake
      (.new journalEndpoint .mission (journalWith 1))) = true := by
    decide +kernel
  have idle : (pumpMachine journalPayload).AllSteps (fun s _ => s.Idle) (journalService 1)
      resetInputs := by
    decide +kernel
  have made : UdpMissionEndpoint.new 1 1 1 = .ok journalEndpoint := rfl
  have sent : ((pumpMachine journalPayload).exec (journalService 1)
      resetInputs).transmitted.isEmpty = false := by
    decide +kernel
  refine ⟨fun none => (by rw [none] at sent; cases sent), ?_⟩
  exact framesInSession_of_idleAtChange journalPayload (journalWith 1) made
    _ _ _ _ (Effect.eq_ok_of_isOk started) resetInputs
    ((pumpMachine journalPayload).allSteps_of_invariant (fun _ => True) (fun _ _ _ => trivial)
      (fun _ _ _ idle _ _ _ => idle) trivial idle)

/-- With one more event than there is room for, the telemetry of a pump stays where it is:
the next pump finds another binding, and sends it under that. -/
theorem not_framesInSession_of_pendingEvents :
    ¬ ∀ t ∈ ((pumpMachine journalPayload).exec (journalService 32) resetInputs).transmitted,
      t.InSession := by
  have late : ((pumpMachine journalPayload).exec (journalService 32)
      resetInputs).transmitted.any (fun t => t.frame.encodedUnder = some firstBinding &&
        t.sentUnder = some secondBinding) = true := by
    decide +kernel
  intro always
  obtain ⟨t, mem, both⟩ := List.any_eq_true.mp late
  simp only [Bool.and_eq_true, decide_eq_true_eq] at both
  have same := (always t mem firstBinding both.1).1
  rw [both.2] at same
  exact absurd same (by decide)

end CubeNano

import CubeNano.Link.Footprint

/-!
# Delivery order

The serializer hands each copy a release time after every earlier one of its
direction, so jitter and reorder slots cannot reorder copies: within a direction
they are delivered in the order of admission, and file epochs with them.

`Ordered frame copy` is the invariant while frame `frame` has `copy` copies
scheduled.  It says that everything pending or delivered was admitted before, that
pending copies of one direction are due in order of admission, and that nothing
delivered was admitted after something pending.

## Main definitions

* `Precedes` — one copy was admitted before another, in an epoch not later
* `LinkSimulator.Ordered` — the invariant
-/

namespace CubeNano

namespace ScheduledDelivery

/-- The copy was admitted before a frame and copy. -/
def Before (d : ScheduledDelivery) (linkFrameId copyIndex : ℕ) : Prop :=
  d.linkFrameId < linkFrameId ∨ d.linkFrameId = linkFrameId ∧ d.copyIndex < copyIndex

/-- One copy was admitted before another one; if both are file packets, its epoch
is not a later one. -/
def Precedes (d d' : ScheduledDelivery) : Prop :=
  d.Before d'.linkFrameId d'.copyIndex ∧ (d.epochId ≠ 0 → d'.epochId ≠ 0 → d.epochId ≤ d'.epochId)

theorem Before.mono {d : ScheduledDelivery} {frame copy frame' copy' : ℕ}
    (before : d.Before frame copy) (le : frame < frame' ∨ frame = frame' ∧ copy ≤ copy') :
    d.Before frame' copy' := by
  unfold Before at before ⊢
  omega

end ScheduledDelivery

/-! ## The invariant -/

/-- The due time of a pending event. -/
def dueTime (event : EventKey × ScheduledDelivery) : ℕ := (ofLex event.1).1

/-- Two pending copies of one direction are due in the order of their admission. -/
def Aligned (e e' : EventKey × ScheduledDelivery) : Prop :=
  e.2.direction = e'.2.direction →
    (e.2.Precedes e'.2 ∧ dueTime e < dueTime e') ∨ (e'.2.Precedes e.2 ∧ dueTime e' < dueTime e)

theorem Aligned.symm {e e' : EventKey × ScheduledDelivery} (h : Aligned e e') : Aligned e' e :=
  fun same => (h same.symm).symm

namespace LinkSimulator

/-- **The invariant of delivery**, while frame `frame` has `copy` copies
scheduled. -/
structure Ordered (frame copy : ℕ) (s : LinkSimulator) : Prop where
  latest : s.fileEpochManager.LatestCurrent
  pendingBefore : ∀ e ∈ s.clock.eventQueue,
    e.2.Before frame copy ∧ e.2.epochId < s.fileEpochManager.nextAttemptId
  deliveredBefore : ∀ d ∈ s.delivered,
    d.Before frame copy ∧ d.epochId < s.fileEpochManager.nextAttemptId
  due_le : ∀ e ∈ s.clock.eventQueue, (dueTime e : ℤ) ≤ s.availableNs e.2.direction
  aligned : s.clock.eventQueue.entries.Pairwise Aligned
  deliveredSorted : s.delivered.Pairwise fun d d' => d.direction = d'.direction → d.Precedes d'
  deliveredFirst : ∀ d ∈ s.delivered, ∀ e ∈ s.clock.eventQueue,
    d.direction = e.2.direction → d.Precedes e.2

theorem Ordered.mono {frame copy frame' copy' : ℕ} {s : LinkSimulator}
    (h : Ordered frame copy s) (le : frame < frame' ∨ frame = frame' ∧ copy ≤ copy') :
    Ordered frame' copy' s :=
  { h with
    pendingBefore := fun e mem =>
      ⟨(h.pendingBefore e mem).1.mono le, (h.pendingBefore e mem).2⟩
    deliveredBefore := fun d mem =>
      ⟨(h.deliveredBefore d mem).1.mono le, (h.deliveredBefore d mem).2⟩ }

/-- A step that leaves queue, deliveries and serializers alone keeps the order. -/
theorem Ordered.congr {frame copy : ℕ} {s t : LinkSimulator} (h : Ordered frame copy s)
    (queue : t.clock.eventQueue = s.clock.eventQueue) (delivered : t.delivered = s.delivered)
    (available : t.availableNs = s.availableNs)
    (latest : t.fileEpochManager.LatestCurrent)
    (le : s.fileEpochManager.nextAttemptId ≤ t.fileEpochManager.nextAttemptId) :
    Ordered frame copy t where
  latest := latest
  pendingBefore := fun e mem =>
    have old := h.pendingBefore e (queue ▸ mem)
    ⟨old.1, old.2.trans_le le⟩
  deliveredBefore := fun d mem =>
    have old := h.deliveredBefore d (delivered ▸ mem)
    ⟨old.1, old.2.trans_le le⟩
  due_le := fun e mem => available ▸ h.due_le e (queue ▸ mem)
  aligned := queue ▸ h.aligned
  deliveredSorted := delivered ▸ h.deliveredSorted
  deliveredFirst := fun d memD e memE => h.deliveredFirst d (delivered ▸ memD) e (queue ▸ memE)

/-! ## Scheduling and delivering one copy -/

@[simp] theorem availableNs_setAvailableNs (s : LinkSimulator) (direction : Direction) (ns : ℤ) :
    (s.setAvailableNs direction ns).availableNs direction = ns := by
  cases direction <;> rfl

theorem availableNs_setAvailableNs_of_ne (s : LinkSimulator) {direction other : Direction}
    (ns : ℤ) (h : other ≠ direction) :
    (s.setAvailableNs direction ns).availableNs other = s.availableNs other := by
  cases direction <;> cases other <;> first | rfl | exact absurd rfl h

theorem setAvailableNs_fields (s : LinkSimulator) (direction : Direction) (ns : ℤ) :
    (s.setAvailableNs direction ns).clock = s.clock ∧
    (s.setAvailableNs direction ns).delivered = s.delivered ∧
    (s.setAvailableNs direction ns).fileEpochManager = s.fileEpochManager ∧
    (s.setAvailableNs direction ns).nextLinkFrameId = s.nextLinkFrameId := by
  cases direction <;> exact ⟨rfl, rfl, rfl, rfl⟩

/-- Taking the serializer longer keeps the order. -/
theorem Ordered.setAvailableNs {frame copy : ℕ} {s : LinkSimulator} {direction : Direction}
    {ns : ℤ} (h : Ordered frame copy s) (later : s.availableNs direction < ns) :
    Ordered frame copy (s.setAvailableNs direction ns) ∧
      ∀ e ∈ (s.setAvailableNs direction ns).clock.eventQueue, e.2.direction = direction →
        (dueTime e : ℤ) < ns := by
  obtain ⟨clock, delivered, epochs, -⟩ := setAvailableNs_fields s direction ns
  refine ⟨⟨epochs ▸ h.latest, ?_, ?_, ?_, clock ▸ h.aligned,
    delivered ▸ h.deliveredSorted, ?_⟩, ?_⟩
  · rw [clock, epochs]
    exact h.pendingBefore
  · rw [delivered, epochs]
    exact h.deliveredBefore
  · intro e mem
    rw [clock] at mem
    by_cases own : e.2.direction = direction
    · rw [own, availableNs_setAvailableNs]
      exact (own ▸ h.due_le e mem).trans later.le
    · rw [availableNs_setAvailableNs_of_ne _ _ own]
      exact h.due_le e mem
  · rw [clock, delivered]
    exact h.deliveredFirst
  · intro e mem own
    rw [clock] at mem
    exact (own ▸ h.due_le e mem).trans_lt later

/-- Scheduling the next copy behind the serializer keeps the order. -/
theorem Ordered.schedule {frame copy : ℕ} {s : LinkSimulator} {d : ScheduledDelivery} {due : ℕ}
    (h : Ordered frame copy s) (frame_eq : d.linkFrameId = frame) (copy_eq : d.copyIndex = copy)
    (epoch : d.epochId = 0 ∨ d.epochId + 1 = s.fileEpochManager.nextAttemptId)
    (last : ∀ e ∈ s.clock.eventQueue, e.2.direction = d.direction → (dueTime e : ℤ) < due)
    (available : s.availableNs d.direction = due) :
    Ordered frame (copy + 1)
      { s with clock := s.clock.pushEvent due d.direction.code d.linkFrameId d.copyIndex d } := by
  have next : d.Before frame (copy + 1) := .inr ⟨frame_eq, by omega⟩
  have positive := h.latest.positive
  have below : d.epochId < s.fileEpochManager.nextAttemptId := by omega
  have after {d' : ScheduledDelivery} (before : d'.Before frame copy)
      (old : d'.epochId < s.fileEpochManager.nextAttemptId) : d'.Precedes d :=
    ⟨by rw [frame_eq, copy_eq]; exact before, by omega⟩
  refine ⟨h.latest, ?_, ?_, ?_, ?_, h.deliveredSorted, ?_⟩
  · intro e mem
    rcases PriorityQueue.mem_push.mp mem with rfl | old
    · exact ⟨next, below⟩
    · exact ⟨(h.pendingBefore e old).1.mono (.inr ⟨rfl, Nat.le_succ _⟩), (h.pendingBefore e old).2⟩
  · intro d' mem
    exact ⟨(h.deliveredBefore d' mem).1.mono (.inr ⟨rfl, Nat.le_succ _⟩),
      (h.deliveredBefore d' mem).2⟩
  · intro e mem
    rcases PriorityQueue.mem_push.mp mem with rfl | old
    · exact available.ge
    · exact h.due_le e old
  · refine PriorityQueue.pairwise_push (fun _ _ => Aligned.symm) h.aligned fun e mem same => ?_
    obtain ⟨before, old⟩ := h.pendingBefore e mem
    exact .inr ⟨after before old, by exact_mod_cast last e mem same.symm⟩
  · intro d' memD e memE same
    rcases PriorityQueue.mem_push.mp memE with rfl | old
    · exact after (h.deliveredBefore d' memD).1 (h.deliveredBefore d' memD).2
    · exact h.deliveredFirst d' memD e old same

/-- Delivering the next event keeps the order. -/
theorem Ordered.popEvent {frame copy : ℕ} {s : LinkSimulator} {d : ScheduledDelivery}
    {clock : VirtualClock ScheduledDelivery} (h : Ordered frame copy s)
    (popped : s.clock.popEvent = some (d, clock)) :
    Ordered frame copy { s with clock := clock, delivered := s.delivered ++ [d] } := by
  unfold VirtualClock.popEvent at popped
  split at popped
  · cases popped
  rename_i key payload rest pop
  cases popped
  have member {e} : e ∈ s.clock.eventQueue ↔ e = (key, d) ∨ e ∈ rest :=
    PriorityQueue.mem_of_pop? pop
  obtain ⟨leastAligned, restAligned⟩ := PriorityQueue.pairwise_of_pop? pop h.aligned
  -- an earlier copy of the same direction would be due earlier, and have left first
  have leads {e : EventKey × ScheduledDelivery} (mem : e ∈ rest)
      (same : d.direction = e.2.direction) : d.Precedes e.2 := by
    rcases leastAligned e mem same with ⟨first, -⟩ | ⟨-, earlier⟩
    · exact first
    · have least := PriorityQueue.key_le_of_pop? pop mem
      have due : dueTime (key, d) ≤ dueTime e := due_le_of_eventKey_le least
      omega
  refine ⟨h.latest, fun e mem => h.pendingBefore e (member.mpr (.inr mem)), ?_,
    fun e mem => h.due_le e (member.mpr (.inr mem)), restAligned, ?_, ?_⟩
  · intro d' mem
    rcases List.mem_append.mp mem with old | new
    · exact h.deliveredBefore d' old
    · obtain rfl := List.mem_singleton.mp new
      exact h.pendingBefore (key, d') (member.mpr (.inl rfl))
  · refine List.pairwise_append.mpr ⟨h.deliveredSorted, List.pairwise_singleton _ _, ?_⟩
    intro d' old d'' new same
    obtain rfl := List.mem_singleton.mp new
    exact h.deliveredFirst d' old (key, d'') (member.mpr (.inl rfl)) same
  · intro d' mem e memE same
    rcases List.mem_append.mp mem with old | new
    · exact h.deliveredFirst d' old e (member.mpr (.inr memE)) same
    · obtain rfl := List.mem_singleton.mp new
      exact leads memE same

theorem Ordered.unmoved {frame copy : ℕ} {s t : LinkSimulator} (moved : Unmoved s t)
    (h : Ordered frame copy s) : Ordered frame copy t :=
  h.congr (by rw [moved.clock]) moved.delivered moved.availableNs
    (moved.epochs.latestCurrent h.latest) moved.epochs.next.ge

/-! ## The methods -/

/-- Frame `frame` is being admitted and has `copy` copies scheduled. -/
def Admitting (frame copy : ℕ) (s : LinkSimulator) : Prop :=
  s.nextLinkFrameId = frame + 1 ∧ Ordered frame copy s

/-- Between admissions. -/
def Settled (s : LinkSimulator) : Prop := Ordered s.nextLinkFrameId 0 s

theorem Admitting.settled {frame copy : ℕ} {s : LinkSimulator} (h : Admitting frame copy s) :
    Settled s := by
  unfold Settled
  rw [h.1]
  exact h.2.mono (.inl (Nat.lt_succ_self frame))

theorem Admitting.unmoved {frame copy : ℕ} {s t : LinkSimulator} (moved : Unmoved s t)
    (h : Admitting frame copy s) : Admitting frame copy t :=
  ⟨moved.nextLinkFrameId.trans h.1, h.2.unmoved moved⟩

theorem Settled.unmoved {s t : LinkSimulator} (moved : Unmoved s t) (h : Settled s) :
    Settled t := by
  unfold Settled
  rw [moved.nextLinkFrameId]
  exact Ordered.unmoved moved h

/-- The epoch of a frame being admitted: none, or the one opened last. -/
def EpochReady (a : AdmittedFrame) (s : LinkSimulator) : Prop :=
  a.epochId = 0 ∨ a.epochId + 1 = s.fileEpochManager.nextAttemptId

/-- The state while the frame is being admitted. -/
def Transmitting (a : AdmittedFrame) (copy : ℕ) (s : LinkSimulator) : Prop :=
  Admitting a.linkFrameId copy s ∧ EpochReady a s

theorem Transmitting.unmoved {a : AdmittedFrame} {copy : ℕ} {s t : LinkSimulator}
    (moved : Unmoved s t) (h : Transmitting a copy s) : Transmitting a copy t := by
  refine ⟨h.1.unmoved moved, ?_⟩
  unfold EpochReady
  rw [moved.epochs.next]
  exact h.2

/-- The state after a copy was drawn: its release is behind every pending one. -/
def Drawn (a : AdmittedFrame) (copy : ℕ) (decision : FaultDecision) (s : LinkSimulator) : Prop :=
  Transmitting a copy s ∧ s.availableNs a.direction = decision.releaseNs ∧
    ∀ e ∈ s.clock.eventQueue, e.2.direction = a.direction → (dueTime e : ℤ) < decision.releaseNs

theorem triple_drawCopy {a : AdmittedFrame} (bits : 0 < a.frame.frameBytes.length)
    (copy copyIndex : ℕ) (includeDuplicate : Bool) :
    Effect.Triple (Transmitting a copy) (drawCopy a copyIndex includeDuplicate) (Drawn a copy)
      (fun _ => Transmitting a copy) := by
  refine Effect.Triple.withState fun s h => ?_
  cases drawn : s.faultModel.applyFaults (s.profile a.direction) a.direction.code a.linkFrameId
      (a.frame.frameBytes.length * 8) a.ingressTimeNs (s.availableNs a.direction) copyIndex
      includeDuplicate with
  | error failure =>
      rintro t rfl
      exact h
  | ok decision =>
      rintro t rfl
      obtain ⟨later, -, -⟩ := FaultModel.available_lt_release (by omega) drawn
      obtain ⟨ordered, last⟩ := h.1.2.setAvailableNs later
      obtain ⟨-, -, epochs, next⟩ := setAvailableNs_fields t a.direction decision.releaseNs
      refine ⟨⟨⟨next.trans h.1.1, ordered⟩, ?_⟩, availableNs_setAvailableNs _ _ _, last⟩
      exact h.2.imp_right fun latest => latest.trans (by rw [epochs])

theorem triple_scheduleDelivery (a : AdmittedFrame) (copy : ℕ) (decision : FaultDecision) :
    Effect.Triple (Drawn a copy decision) (scheduleDelivery a copy decision)
      (fun _ => Transmitting a (copy + 1)) (fun _ => Transmitting a copy) := by
  rintro s ⟨transmitting, available, last⟩
  rcases scheduleDelivery_cases s a copy decision with ⟨failure, raised⟩ | ⟨bytes, due, release, ok⟩
  · rw [raised]
    exact transmitting
  · rw [ok]
    refine ⟨⟨transmitting.1.1, ?_⟩, transmitting.2⟩
    exact transmitting.1.2.schedule (d := delivery a copy bytes) rfl rfl transmitting.2
      (fun e mem own => release ▸ last e mem own) (available.trans release.symm)

theorem triple_transmitDuplicate {a : AdmittedFrame} (bits : 0 < a.frame.frameBytes.length) :
    Effect.Triple (Transmitting a 1) (transmitDuplicate a) (fun _ => Settled)
      (fun _ => Settled) := by
  have settled {copy : ℕ} {s : LinkSimulator} (h : Transmitting a copy s) : Settled s :=
    h.1.settled
  refine Effect.Triple.bind (R := Drawn a 1)
    ((triple_drawCopy bits 1 1 false).weaken (fun _ h => h) (fun _ _ h => h)
      fun _ _ h => settled h) fun duplicate => ?_
  split
  · exact ((quiet_reportLost a 1 _).keeps (I := Transmitting a 1)
      fun _ _ => Transmitting.unmoved).weaken (fun _ h => h.1) (fun _ _ h => settled h)
      fun _ _ h => settled h
  · exact (triple_scheduleDelivery a 1 duplicate).weaken (fun _ h => h)
      (fun _ _ h => settled h) fun _ _ h => settled h

theorem triple_transmit {a : AdmittedFrame} (bits : 0 < a.frame.frameBytes.length) :
    Effect.Triple (Transmitting a 0) (transmit a) (fun _ => Settled) (fun _ => Settled) := by
  have settled {copy : ℕ} {s : LinkSimulator} (h : Transmitting a copy s) : Settled s :=
    h.1.settled
  refine Effect.Triple.bind (R := Drawn a 0)
    ((triple_drawCopy bits 0 0 true).weaken (fun _ h => h) (fun _ _ h => h)
      fun _ _ h => settled h) fun decision => ?_
  split
  · exact ((quiet_reportLost a 0 _).keeps (I := Transmitting a 0)
      fun _ _ => Transmitting.unmoved).weaken (fun _ h => h.1) (fun _ _ h => settled h)
      fun _ _ h => settled h
  · refine Effect.Triple.bind (R := fun _ => Transmitting a 1)
      ((triple_scheduleDelivery a 0 decision).weaken (fun _ h => h) (fun _ _ h => h)
        fun _ _ h => settled h) fun _ => ?_
    split
    · exact triple_transmitDuplicate bits
    · exact Effect.Triple.pure fun _ h => settled h

theorem triple_acceptFrame {a : AdmittedFrame} (bits : 0 < a.frame.frameBytes.length) :
    Effect.Triple (Transmitting a 0) (acceptFrame a) (fun _ => Settled) (fun _ => Settled) := by
  have quiet {α : Type} {x : LinkProgram α} (h : Quiet x) :
      Effect.Triple (Transmitting a 0) x (fun _ => Transmitting a 0) (fun _ => Settled) :=
    (h.keeps fun _ _ => Transmitting.unmoved).weaken (fun _ h => h) (fun _ _ h => h)
      fun _ _ h => h.1.settled
  exact (quiet (quiet_emitControl _)).bind fun _ =>
    (quiet (Quiet.liftRaises _)).bind fun _ => triple_transmit bits

/-- The file-epoch fence takes the frame being admitted into the epoch opened last,
or into none. -/
theorem triple_admitFileEpoch (frame : ℕ) (direction : Direction) (session : Option Session)
    (frameBytes : Bytes) :
    Effect.Triple (Admitting frame 0) (admitFileEpoch direction session frame frameBytes)
      (fun admission s => Admitting frame 0 s ∧ (admission.error = none → admission.epochId = 0 ∨
        admission.epochId + 1 = s.fileEpochManager.nextAttemptId))
      (fun _ => Settled) := by
  refine Effect.Triple.withState fun s h => ?_
  split
  · exact Effect.Triple.pure fun t same => same ▸ ⟨h, fun _ => .inl rfl⟩
  split
  · exact Effect.Triple.pure fun t same => same ▸ ⟨h, fun _ => .inl rfl⟩
  · rename_i info decoded
    have admits := s.fileEpochManager.admits_admitPacket session frame info
    rintro t rfl
    refine ⟨⟨h.1, h.2.congr rfl rfl rfl (admits.latest h.2.latest) admits.le⟩, fun admitted => ?_⟩
    exact .inr (admits.admitted admitted h.2.latest).1

theorem triple_allocateLinkFrameId :
    Effect.Triple Settled allocateLinkFrameId (fun frame => Admitting frame 0)
      (fun _ => Settled) := by
  refine Effect.Triple.withState fun s h => ?_
  split
  · rintro t rfl
    exact h.congr rfl rfl rfl h.latest le_rfl
  · rintro t rfl
    exact ⟨rfl, h.congr rfl rfl rfl h.latest le_rfl⟩

theorem triple_admitWithSession {frame : TransportFrame} (bits : 0 < frame.frameBytes.length)
    (direction : Direction) (session : Option Session) (callbacks : LinkCallbacks) :
    Effect.Keeps Settled (admitWithSession frame direction session callbacks) := by
  refine Effect.Triple.bind triple_allocateLinkFrameId fun linkFrameId => ?_
  refine Effect.Triple.bind (R := fun _ => Admitting linkFrameId 0) ?_ fun _ => ?_
  · exact (quiet_checkpointChanged.keeps fun _ _ => Admitting.unmoved).weaken (fun _ h => h)
      (fun _ _ h => h) fun _ _ h => h.settled
  refine Effect.Triple.withState fun s h => ?_
  refine Effect.Triple.bind
    ((triple_admitFileEpoch linkFrameId direction session frame.frameBytes).weaken
      (fun t same => same ▸ h) (fun _ _ h => h) fun _ _ h => h) fun admission => ?_
  dsimp only
  split
  · refine Effect.Triple.bind (R := fun _ => Settled) ?_ fun _ => Effect.Triple.pure fun _ h => h
    exact ((quiet_rejectFrame _ _).keeps (I := Settled) fun _ _ => Settled.unmoved).weaken
      (fun _ h => h.1.settled) (fun _ _ h => h) fun _ _ h => h
  · rename_i admitted
    refine Effect.Triple.bind (R := fun _ => Settled) ?_ fun _ => Effect.Triple.pure fun _ h => h
    exact (triple_acceptFrame (a := ⟨linkFrameId, s.clock.now, frame, direction, session,
      admission.epochId, admission.packetType, callbacks⟩) bits).weaken
      (fun _ h => ⟨h.1, h.2 admitted⟩) (fun _ _ h => h) fun _ _ h => h

/-- `admit_frame` keeps the order. -/
theorem keeps_admitFrame (frame : TransportFrame) (direction : Direction)
    (callbacks : LinkCallbacks) : Effect.Keeps Settled (admitFrame frame direction callbacks) := by
  refine Effect.Triple.withState fun s h => ?_
  split
  · exact Effect.Triple.pure fun t same => same ▸ h
  · rename_i session gate
    exact (triple_admitWithSession (frame_ne_nil_of_ingressGate gate) direction session
      callbacks).weaken (fun t same => same ▸ h) (fun _ _ h => h) fun _ _ h => h

/-- The next event was taken from the queue and is not recorded as delivered yet. -/
def Popped (d : ScheduledDelivery) (s : LinkSimulator) : Prop :=
  Settled { s with delivered := s.delivered ++ [d] }

theorem triple_deliver (d : ScheduledDelivery) :
    Effect.Triple (Popped d) (deliver d) (fun _ => Settled) (fun _ => Settled) := by
  have quiet {α : Type} {x : LinkProgram α} (h : Quiet x) :
      Effect.Triple Settled x (fun _ => Settled) (fun _ => Settled) :=
    h.keeps fun _ _ => Settled.unmoved
  refine Effect.Triple.tryCatch (R := fun _ => Settled) ?_
    fun failure => quiet (quiet_emitConsumed _ _)
  refine Effect.Triple.withState fun s h => ?_
  refine Effect.Triple.bind (R := fun _ => Settled) (Effect.Triple.set fun _ _ => h) fun _ => ?_
  refine (quiet (Quiet.liftRaises _)).bind fun status => ?_
  refine Effect.Triple.bind (R := fun _ => Settled) ?_ fun _ => quiet (quiet_emitConsumed _ _)
  exact quiet (.modify fun t =>
    ⟨rfl, rfl, rfl, rfl, rfl, rfl, rfl, rfl, settles_releaseFence d t.fileEpochManager⟩)

theorem keeps_advanceToNextEvent : Effect.Keeps Settled advanceToNextEvent := by
  refine Effect.Triple.withState fun s h => ?_
  cases popped : s.clock.popEvent with
  | none => exact Effect.Triple.pure fun t same => same ▸ h
  | some next =>
      obtain ⟨d, clock⟩ := next
      refine Effect.Triple.bind (R := fun _ => Popped d) ?_ fun _ => ?_
      · have delivered : Ordered s.nextLinkFrameId 0
            { s with clock := clock, delivered := s.delivered ++ [d] } := Ordered.popEvent h popped
        exact Effect.Triple.set fun _ _ => delivered
      · exact Effect.Triple.bind (triple_deliver d) fun _ => Effect.Triple.pure fun _ h => h

/-- Every operation keeps the order, whether it returns or raises. -/
theorem settled_after {s : LinkSimulator} (h : Settled s) (op : LinkOp) : Settled (s.after op) :=
  after_of_parts (fun _ _ => Settled.unmoved)
    (fun _ _ ordered => Ordered.congr ordered rfl rfl rfl ordered.latest le_rfl)
    keeps_advanceToNextEvent h op
    fun frame direction callbacks _ => (keeps_admitFrame frame direction callbacks).finalState h

theorem settled_initial (up down : FaultProfile) (model : FaultModel) (contact : ContactSchedule)
    (transport : Option (TransportFrame → Raises Unit))
    (stateChanged : Option (ℕ × ℕ → Raises Unit)) :
    Settled (initial up down model contact transport stateChanged) where
  latest := ⟨Nat.one_pos, fun _ h => (by cases h)⟩
  pendingBefore := fun e mem => absurd mem (PriorityQueue.not_mem_empty e)
  deliveredBefore := fun d mem => absurd mem List.not_mem_nil
  due_le := fun e mem => absurd mem (PriorityQueue.not_mem_empty e)
  aligned := .nil
  deliveredSorted := .nil
  deliveredFirst := fun d mem => absurd mem List.not_mem_nil

/-- **Copies of one direction are delivered in the order of admission.**  Whatever
the profiles, the fault draws, the callbacks and the operations of a run, the
copies of one direction are handed over by link frame and copy index, and file
packets never after one of a later epoch. -/
theorem delivered_in_admission_order (up down : FaultProfile) (model : FaultModel)
    (contact : ContactSchedule) (transport : Option (TransportFrame → Raises Unit))
    (stateChanged : Option (ℕ × ℕ → Raises Unit)) (ops : List LinkOp) :
    (linkMachine.exec (initial up down model contact transport stateChanged) ops).delivered.Pairwise
      fun d d' => d.direction = d'.direction →
        (d.linkFrameId < d'.linkFrameId ∨
          d.linkFrameId = d'.linkFrameId ∧ d.copyIndex < d'.copyIndex) ∧
        (d.epochId ≠ 0 → d'.epochId ≠ 0 → d.epochId ≤ d'.epochId) :=
  Ordered.deliveredSorted (linkMachine.exec_invariant Settled
    (settled_initial up down model contact transport stateChanged)
    (fun _ op h => settled_after h op) ops)

end LinkSimulator

end CubeNano

import CubeNano.Link.FenceRelease

/-!
# What the transmission of a frame does

Behind the file-epoch fence a frame is put through the fault model, lost or scheduled, and
so is its duplicate.  `CopyEnds` lists what this can come to for one copy and `Transmits` for
the frame, and `Admission` what it can come to for a frame handed to the simulator.

## Main definitions

* `LinkSimulator.CopyEnds`, `.Transmits`, `.Admission` — the outcomes of the three stages

## Main statements

* `transmits_transmit`, `admission_admitFrame` — every run is one of the outcomes
-/

namespace CubeNano

namespace LinkSimulator

/-- The message that reports a lost copy. -/
def lossMessage (a : AdmittedFrame) (copyIndex : ℕ) (reason : String) : LinkControlMessage :=
  controlMessage .frameConsumed a.session a.frame.envelope.spacecraftInstanceId a.linkFrameId
    a.epochId copyIndex (some "FRAME_LOST") (some reason)

/-- The message that reports a frame behind the file-epoch fence. -/
def acceptanceMessage (a : AdmittedFrame) : LinkControlMessage :=
  controlMessage .frameAccepted a.session a.frame.envelope.spacecraftInstanceId a.linkFrameId
    a.epochId 0 (some "ACCEPTED") none

/-- The message that reports a frame the file-epoch fence turns away. -/
def rejectionMessage (a : AdmittedFrame) (reason : String) : LinkControlMessage :=
  controlMessage .frameConsumed a.session a.frame.envelope.spacecraftInstanceId a.linkFrameId
    a.epochId 0 (some "FILE_EPOCH_REJECTED") (some reason)

/-- What `on_consumed` makes of a message. -/
def consumedAnswer (callbacks : LinkCallbacks) (message : LinkControlMessage) : Raises Unit :=
  (callbacks.onConsumed.getD fun _ => .ok ()) message

/-- What `on_accepted` makes of a frame. -/
def acceptedAnswer (a : AdmittedFrame) : Raises Unit :=
  (a.callbacks.onAccepted.getD fun _ => .ok ()) (acceptanceMessage a)

/-- The simulator with one more control message. -/
def withControl (s : LinkSimulator) (message : LinkControlMessage) : LinkSimulator :=
  { s with controlEvents := s.controlEvents ++ [message] }

/-- The simulator with one more copy on its way. -/
def withCopy (s : LinkSimulator) (a : AdmittedFrame) (copyIndex due : ℕ) (d : ScheduledDelivery) :
    LinkSimulator :=
  { s with clock := s.clock.pushEvent due a.direction.code a.linkFrameId copyIndex d }

/-- What a raised or returned callback leaves of a method that ends with it. -/
def ended (s : LinkSimulator) : Raises Unit → EStateM.Result PyException LinkSimulator Unit
  | .ok () => .ok () s
  | .error failure => .error failure s

theorem emitConsumed_eq (callbacks : LinkCallbacks) (message : LinkControlMessage)
    (s : LinkSimulator) :
    emitConsumed callbacks message s =
      ended (s.withControl message) (consumedAnswer callbacks message) := by
  unfold emitConsumed emitControl consumedAnswer
  rw [Effect.modify_bind]
  cases (callbacks.onConsumed.getD fun _ => .ok ()) message <;> rfl

/-- How a copy that was drawn ends: lost and reported, not to be scheduled, or on its way. -/
inductive CopyEnds (s : LinkSimulator) (a : AdmittedFrame) (copyIndex : ℕ)
    (decision : FaultDecision) (reason : String) :
    EStateM.Result PyException LinkSimulator Unit → Prop
  | lost (isLost : decision.isLost = true) :
      CopyEnds s a copyIndex decision reason
        (ended (s.withControl (lossMessage a copyIndex reason))
          (consumedAnswer a.callbacks (lossMessage a copyIndex reason)))
  | refused (failure) (kept : decision.isLost = false)
      (unscheduled : ¬ CopyScheduled s a copyIndex decision) :
      CopyEnds s a copyIndex decision reason (.error failure s)
  | scheduled (due d) (kept : decision.isLost = false)
      (prepared : dueDelivery a copyIndex decision = .ok (due, d)) (future : s.clock.now ≤ due) :
      CopyEnds s a copyIndex decision reason (.ok () (s.withCopy a copyIndex due d))

/-- The end of a copy, in the source's words. -/
def endCopy (a : AdmittedFrame) (copyIndex : ℕ) (decision : FaultDecision) (reason : String) :
    LinkProgram Unit :=
  if decision.isLost then reportLost a copyIndex reason else scheduleDelivery a copyIndex decision

theorem copyEnds_endCopy (s : LinkSimulator) (a : AdmittedFrame) (copyIndex : ℕ)
    (decision : FaultDecision) (reason : String) :
    CopyEnds s a copyIndex decision reason (endCopy a copyIndex decision reason s) := by
  unfold endCopy
  split
  · rename_i isLost
    rw [reportLost, emitConsumed_eq]
    exact .lost isLost
  · rename_i kept
    rw [Bool.not_eq_true] at kept
    cases prepared : dueDelivery a copyIndex decision with
    | error failure =>
        have raised : scheduleDelivery a copyIndex decision s = .error failure s := by
          unfold scheduleDelivery
          rw [prepared]
          rfl
        rw [raised]
        refine .refused failure kept fun ⟨_, due, d, ok, _⟩ => ?_
        rw [prepared] at ok
        cases ok
    | ok pair =>
        obtain ⟨due, d⟩ := pair
        by_cases future : s.clock.now ≤ due
        · rw [scheduleDelivery_ok prepared future]
          exact .scheduled due d kept prepared future
        · have raised : scheduleDelivery a copyIndex decision s =
              .error ⟨.valueError, s!"Cannot schedule in past: {due} < {s.clock.now}"⟩ s := by
            unfold scheduleDelivery
            rw [prepared]
            change EStateM.bind (liftRaises (s.clock.scheduleAt due a.direction.code a.linkFrameId
              copyIndex _)) (fun clock => set { s with clock := clock }) s = _
            rw [VirtualClock.scheduleAt, if_pos (not_le.mp future)]
            rfl
          rw [raised]
          refine .refused _ kept fun ⟨_, due', d', ok, future'⟩ => ?_
          rw [prepared] at ok
          cases ok
          exact future future'

theorem drawCopy_of_error {s : LinkSimulator} {a : AdmittedFrame} {copyIndex : ℕ}
    {includeDuplicate : Bool} {failure : PyException}
    (drawn : draw s a (s.availableNs a.direction) copyIndex includeDuplicate = .error failure) :
    drawCopy a copyIndex includeDuplicate s = .error failure s := by
  unfold drawCopy
  rw [Effect.get_bind]
  refine Effect.bind_of_error ?_
  unfold draw at drawn
  rw [drawn]
  rfl

theorem drawCopy_of_ok {s : LinkSimulator} {a : AdmittedFrame} {copyIndex : ℕ}
    {includeDuplicate : Bool} {decision : FaultDecision}
    (drawn : draw s a (s.availableNs a.direction) copyIndex includeDuplicate = .ok decision) :
    drawCopy a copyIndex includeDuplicate s =
      .ok decision (s.setAvailableNs a.direction decision.releaseNs) := by
  unfold drawCopy
  rw [Effect.get_bind]
  refine (Effect.bind_of_ok (a := decision) (t := s) ?_).trans rfl
  unfold draw at drawn
  rw [drawn]
  rfl

/-- The simulator after copy 0 was drawn and scheduled. -/
def afterFirst (s : LinkSimulator) (a : AdmittedFrame) (decision : FaultDecision) (due : ℕ)
    (d : ScheduledDelivery) : LinkSimulator :=
  (s.setAvailableNs a.direction decision.releaseNs).withCopy a 0 due d

/-- The duplicate is drawn from when copy 0 has left. -/
theorem draw_afterFirst (s : LinkSimulator) (a : AdmittedFrame) (decision : FaultDecision)
    (due : ℕ) (d : ScheduledDelivery) (copyIndex : ℕ) (includeDuplicate : Bool) :
    draw (s.afterFirst a decision due d) a ((s.afterFirst a decision due d).availableNs a.direction)
      copyIndex includeDuplicate = draw s a decision.releaseNs copyIndex includeDuplicate := by
  cases direction : a.direction <;>
    simp only [draw, afterFirst, withCopy, setAvailableNs, availableNs, profile, direction]

/-- How the transmission of a frame ends. -/
inductive Transmits (s : LinkSimulator) (a : AdmittedFrame) :
    EStateM.Result PyException LinkSimulator Unit → Prop
  | undrawn (failure) (drawn : draw s a (s.availableNs a.direction) 0 true = .error failure) :
      Transmits s a (.error failure s)
  | alone (decision result)
      (drawn : draw s a (s.availableNs a.direction) 0 true = .ok decision)
      (single : decision.isLost = true ∨ decision.hasDuplicate = false ∨
        ¬ CopyScheduled s a 0 decision)
      (ends : CopyEnds (s.setAvailableNs a.direction decision.releaseNs) a 0 decision "FAULT_LOSS"
        result) : Transmits s a result
  | undrawnDuplicate (decision due d failure)
      (drawn : draw s a (s.availableNs a.direction) 0 true = .ok decision)
      (kept : decision.isLost = false) (duplicated : decision.hasDuplicate = true)
      (prepared : dueDelivery a 0 decision = .ok (due, d)) (future : s.clock.now ≤ due)
      (drawnDuplicate : draw s a decision.releaseNs 1 false = .error failure) :
      Transmits s a (.error failure (s.afterFirst a decision due d))
  | duplicated (decision due d duplicate result)
      (drawn : draw s a (s.availableNs a.direction) 0 true = .ok decision)
      (kept : decision.isLost = false) (duplicated : decision.hasDuplicate = true)
      (prepared : dueDelivery a 0 decision = .ok (due, d)) (future : s.clock.now ≤ due)
      (drawnDuplicate : draw s a decision.releaseNs 1 false = .ok duplicate)
      (ends : CopyEnds ((s.afterFirst a decision due d).setAvailableNs a.direction
        duplicate.releaseNs) a 1 duplicate "FAULT_DUPLICATE_COPY_LOSS" result) :
      Transmits s a result

@[simp] theorem clock_setAvailableNs (s : LinkSimulator) (direction : Direction) (ns : ℤ) :
    (s.setAvailableNs direction ns).clock = s.clock := by
  cases direction <;> rfl

theorem copyScheduled_setAvailableNs {s : LinkSimulator} {a : AdmittedFrame} {copyIndex : ℕ}
    {decision : FaultDecision} (direction : Direction) (ns : ℤ) :
    CopyScheduled (s.setAvailableNs direction ns) a copyIndex decision ↔
      CopyScheduled s a copyIndex decision := by
  rw [CopyScheduled, CopyScheduled, clock_setAvailableNs]

/-- **What the transmission of a frame comes to.** -/
theorem transmits_transmit (s : LinkSimulator) (a : AdmittedFrame) :
    Transmits s a (transmit a s) := by
  unfold transmit
  cases drawn : draw s a (s.availableNs a.direction) 0 true with
  | error failure =>
      rw [Effect.bind_of_error (drawCopy_of_error drawn)]
      exact .undrawn failure drawn
  | ok decision =>
      rw [Effect.bind_of_ok (drawCopy_of_ok drawn)]
      have ends := copyEnds_endCopy (s.setAvailableNs a.direction decision.releaseNs) a 0 decision
        "FAULT_LOSS"
      cases isLost : decision.isLost with
      | true =>
          rw [endCopy, if_pos isLost] at ends
          rw [if_pos rfl]
          exact .alone decision _ drawn (.inl isLost) ends
      | false =>
          rw [endCopy, if_neg (by simp [isLost])] at ends
          rw [if_neg (by decide)]
          generalize ran : scheduleDelivery a 0 decision
            (s.setAvailableNs a.direction decision.releaseNs) = first at ends
          cases ends with
          | lost lost => exact absurd (isLost.symm.trans lost) (by decide)
          | refused failure kept unscheduled =>
              rw [Effect.bind_of_error ran]
              exact .alone decision _ drawn
                (.inr (.inr (mt (copyScheduled_setAvailableNs _ _).mpr unscheduled)))
                (.refused failure kept unscheduled)
          | scheduled due d kept prepared future =>
              rw [Effect.bind_of_ok ran]
              have future' : s.clock.now ≤ due := by simpa using future
              cases duplicated : decision.hasDuplicate with
              | false =>
                  rw [if_neg (by decide)]
                  exact .alone decision _ drawn (.inr (.inl duplicated))
                    (.scheduled due d kept prepared future)
              | true =>
                  rw [if_pos rfl, transmitDuplicate]
                  change Transmits s a
                    ((drawCopy a 1 false >>= fun duplicate =>
                      endCopy a 1 duplicate "FAULT_DUPLICATE_COPY_LOSS")
                      (s.afterFirst a decision due d))
                  cases drawnDuplicate : draw s a decision.releaseNs 1 false with
                  | error failure =>
                      have raised := drawCopy_of_error
                        ((draw_afterFirst s a decision due d 1 false).trans drawnDuplicate)
                      rw [Effect.bind_of_error raised]
                      exact .undrawnDuplicate decision due d failure drawn kept duplicated
                        prepared future' drawnDuplicate
                  | ok duplicate =>
                      have returned := drawCopy_of_ok
                        ((draw_afterFirst s a decision due d 1 false).trans drawnDuplicate)
                      rw [Effect.bind_of_ok returned]
                      exact .duplicated decision due d duplicate _ drawn kept duplicated prepared
                        future' drawnDuplicate (copyEnds_endCopy _ _ _ _ _)

/-! ## Admission -/

/-- `_admit_file_epoch`, as a function of the simulator. -/
def epochAdmission (s : LinkSimulator) (direction : Direction) (session : Option Session)
    (frameBytes : Bytes) : EpochAdmission × FileEpochManager :=
  match egressFilePacket direction frameBytes with
  | none => (⟨0, none, none⟩, s.fileEpochManager)
  | some info => s.fileEpochManager.admitPacket session s.nextLinkFrameId info

/-- The frame that goes on to the fence and, if it passes, to the transmission. -/
def enteringFrame (s : LinkSimulator) (frame : TransportFrame) (direction : Direction)
    (session : Option Session) (callbacks : LinkCallbacks) : AdmittedFrame :=
  ⟨s.nextLinkFrameId, s.clock.now, frame, direction, session,
    (s.epochAdmission direction session frame.frameBytes).1.epochId,
    (s.epochAdmission direction session frame.frameBytes).1.packetType, callbacks⟩

/-- The simulator behind the file-epoch fence. -/
def entered (s : LinkSimulator) (frame : TransportFrame) (direction : Direction)
    (session : Option Session) : LinkSimulator :=
  { s.allocated with
    fileEpochManager := (s.epochAdmission direction session frame.frameBytes).2
    admittedFilePackets := s.admittedFilePackets ++
      (((egressFilePacket direction frame.frameBytes).filter fun _ =>
        (s.epochAdmission direction session frame.frameBytes).1.error = none).map fun info =>
        ((s.epochAdmission direction session frame.frameBytes).1.epochId, info.packetType)).toList }

/-- A procedure whose value is replaced. -/
def returning {α : Type} (value : α) : EStateM.Result PyException LinkSimulator Unit →
    EStateM.Result PyException LinkSimulator α
  | .ok () t => .ok value t
  | .error failure t => .error failure t

theorem bind_pure_eq {α : Type} (x : LinkProgram Unit) (value : α) (s : LinkSimulator) :
    (x >>= fun _ => pure value) s = returning value (x s) := by
  change EStateM.bind x (fun _ => EStateM.pure value) s = _
  unfold EStateM.bind
  cases x s <;> rfl

/-- How `admit_frame` ends. -/
inductive Admission (s : LinkSimulator) (frame : TransportFrame) (direction : Direction)
    (callbacks : LinkCallbacks) : EStateM.Result PyException LinkSimulator (Option ℕ) → Prop
  | turnedAway (gate : s.ingressGate frame = none) :
      Admission s frame direction callbacks (.ok none s)
  | exhausted (failure) (full : ¬ s.nextLinkFrameId < 0xFFFFFFFFFFFFFFFF) :
      Admission s frame direction callbacks
        (.error failure { s with clock := s.clock.getAdmissionOrder.2 })
  | unsaved (failure) (unsaved : ¬ s.allocates = true) :
      Admission s frame direction callbacks (.error failure s.allocated)
  | rejectedSilently (session reason) (gate : s.ingressGate frame = some session)
      (allocates : s.allocates = true)
      (fenced : (s.epochAdmission direction session frame.frameBytes).1.error = some reason)
      (silent : callbacks.onConsumed = none) :
      Admission s frame direction callbacks (.ok none s.allocated)
  | rejected (session reason) (gate : s.ingressGate frame = some session)
      (allocates : s.allocates = true)
      (fenced : (s.epochAdmission direction session frame.frameBytes).1.error = some reason)
      (heard : callbacks.onConsumed ≠ none) :
      Admission s frame direction callbacks
        (returning none (ended (s.allocated.withControl
            (rejectionMessage (s.enteringFrame frame direction session callbacks) reason))
          (consumedAnswer callbacks
            (rejectionMessage (s.enteringFrame frame direction session callbacks) reason))))
  | unaccepted (session failure) (gate : s.ingressGate frame = some session)
      (allocates : s.allocates = true)
      (passed : (s.epochAdmission direction session frame.frameBytes).1.error = none)
      (raised : acceptedAnswer (s.enteringFrame frame direction session callbacks) =
        .error failure) :
      Admission s frame direction callbacks
        (.error failure ((s.entered frame direction session).withControl
          (acceptanceMessage (s.enteringFrame frame direction session callbacks))))
  | transmitted (session result) (gate : s.ingressGate frame = some session)
      (allocates : s.allocates = true)
      (passed : (s.epochAdmission direction session frame.frameBytes).1.error = none)
      (accepted : acceptedAnswer (s.enteringFrame frame direction session callbacks) = .ok ())
      (transmits : Transmits ((s.entered frame direction session).withControl
          (acceptanceMessage (s.enteringFrame frame direction session callbacks)))
        (s.enteringFrame frame direction session callbacks) result) :
      Admission s frame direction callbacks (returning (some s.nextLinkFrameId) result)

theorem lt_of_allocates {s : LinkSimulator} (allocates : s.allocates = true) :
    s.nextLinkFrameId < 0xFFFFFFFFFFFFFFFF := by
  unfold LinkSimulator.allocates at allocates
  rw [Bool.and_eq_true, decide_eq_true_eq] at allocates
  exact allocates.1

theorem allocateLinkFrameId_of_full {s : LinkSimulator}
    (full : ¬ s.nextLinkFrameId < 0xFFFFFFFFFFFFFFFF) :
    allocateLinkFrameId s = .error ⟨.runtimeError, "link frame ID allocator exhausted"⟩
      { s with clock := s.clock.getAdmissionOrder.2 } := by
  unfold allocateLinkFrameId
  rw [Effect.get_bind]
  simp only [if_pos (not_lt.mp full)]
  rfl

theorem allocateLinkFrameId_of_lt {s : LinkSimulator}
    (fits : s.nextLinkFrameId < 0xFFFFFFFFFFFFFFFF) :
    allocateLinkFrameId s = .ok s.nextLinkFrameId s.allocated := by
  unfold allocateLinkFrameId
  rw [Effect.get_bind]
  simp only [if_neg (not_le.mpr fits)]
  rfl

theorem checkpointChanged_eq (s : LinkSimulator) :
    checkpointChanged s.allocated = ended s.allocated
      ((s.stateChanged.getD fun _ => .ok ()) (s.nextLinkFrameId + 1,
        s.sessionManager.nextSessionId)) := by
  unfold checkpointChanged
  rw [Effect.get_bind]
  dsimp only [allocated]
  cases (s.stateChanged.getD fun _ => .ok ()) (s.nextLinkFrameId + 1,
    s.sessionManager.nextSessionId) <;> rfl

theorem admitFileEpoch_eq (s : LinkSimulator) (direction : Direction) (session : Option Session)
    (frame : TransportFrame) :
    admitFileEpoch direction session s.nextLinkFrameId frame.frameBytes s.allocated =
      .ok (s.epochAdmission direction session frame.frameBytes).1
        (s.entered frame direction session) := by
  unfold admitFileEpoch entered epochAdmission egressFilePacket
  rw [Effect.get_bind]
  by_cases up : direction ≠ .egress
  · simp only [if_pos up, if_neg up]
    simp [allocated]
    rfl
  · rw [ne_eq, not_not] at up
    simp only [if_neg (not_not.mpr up), if_pos up]
    cases filePacketInfo frame.frameBytes with
    | none =>
        simp [allocated]
        rfl
    | some info =>
        dsimp only
        by_cases passed :
            (s.fileEpochManager.admitPacket session s.nextLinkFrameId info).1.error = none
        · simp [allocated, passed]
          rfl
        · simp [allocated, passed]
          rfl

/-- A frame that the fence turns away leaves no trace in it. -/
theorem entered_of_fenced (s : LinkSimulator) {frame : TransportFrame} {direction : Direction}
    {session : Option Session}
    (fenced : (s.epochAdmission direction session frame.frameBytes).1.error ≠ none) :
    s.entered frame direction session = s.allocated := by
  unfold entered
  unfold epochAdmission at fenced ⊢
  cases packet : egressFilePacket direction frame.frameBytes with
  | none =>
      rw [packet] at fenced
      exact absurd rfl fenced
  | some info =>
      rw [packet] at fenced
      dsimp only at fenced ⊢
      have same := (s.fileEpochManager.admits_admitPacket session s.nextLinkFrameId info).refused
        fenced
      rw [same]
      simp [allocated, fenced]

theorem acceptFrame_eq (a : AdmittedFrame) (s : LinkSimulator) :
    acceptFrame a s =
      match acceptedAnswer a with
      | .error failure => .error failure (s.withControl (acceptanceMessage a))
      | .ok () => transmit a (s.withControl (acceptanceMessage a)) := by
  unfold acceptFrame
  rw [emitControl, Effect.modify_bind]
  cases accepted : acceptedAnswer a with
  | error failure =>
      refine Effect.bind_of_error ?_
      unfold acceptedAnswer acceptanceMessage at accepted
      rw [accepted]
      rfl
  | ok u =>
      refine Effect.bind_of_ok (a := ()) ?_
      unfold acceptedAnswer acceptanceMessage at accepted
      rw [accepted]
      rfl

/-- **What `admit_frame` comes to.** -/
theorem admission_admitFrame (s : LinkSimulator) (frame : TransportFrame) (direction : Direction)
    (callbacks : LinkCallbacks) :
    Admission s frame direction callbacks (admitFrame frame direction callbacks s) := by
  cases gate : s.ingressGate frame with
  | none =>
      unfold admitFrame
      rw [Effect.get_bind, gate]
      exact .turnedAway gate
  | some session =>
      have step : admitFrame frame direction callbacks s =
          admitWithSession frame direction session callbacks s := by
        unfold admitFrame
        rw [Effect.get_bind, gate]
      rw [step]
      unfold admitWithSession
      by_cases fits : s.nextLinkFrameId < 0xFFFFFFFFFFFFFFFF
      · rw [Effect.bind_of_ok (allocateLinkFrameId_of_lt fits)]
        cases saved : (s.stateChanged.getD fun _ => .ok ()) (s.nextLinkFrameId + 1,
            s.sessionManager.nextSessionId) with
        | error failure =>
            have raised := s.checkpointChanged_eq
            rw [saved] at raised
            rw [Effect.bind_of_error raised]
            exact .unsaved failure (by simp [allocates, saved, Except.isOk, Except.toBool])
        | ok u =>
            have returned := s.checkpointChanged_eq
            rw [saved] at returned
            have allocates : s.allocates = true := by
              simp [allocates, saved, fits, Except.isOk, Except.toBool]
            rw [Effect.bind_of_ok returned, Effect.get_bind,
              Effect.bind_of_ok (s.admitFileEpoch_eq direction session frame)]
            cases fenced : (s.epochAdmission direction session frame.frameBytes).1.error with
            | some reason =>
                have refused : (s.entered frame direction session) = s.allocated :=
                  s.entered_of_fenced (by simp [fenced])
                have rejects : ∀ t, rejectFrame (s.enteringFrame frame direction session callbacks)
                    reason t =
                      if callbacks.onConsumed.isNone then .ok () t
                      else emitConsumed callbacks (rejectionMessage
                        (s.enteringFrame frame direction session callbacks) reason) t := by
                  intro t
                  unfold rejectFrame
                  dsimp only [enteringFrame]
                  cases callbacks.onConsumed <;> rfl
                change Admission s frame direction callbacks
                  ((rejectFrame (s.enteringFrame frame direction session callbacks) reason >>=
                    fun _ => pure none) (s.entered frame direction session))
                rw [refused, bind_pure_eq, rejects]
                cases silent : callbacks.onConsumed with
                | none => exact .rejectedSilently session reason gate allocates fenced silent
                | some consumed =>
                    rw [if_neg (by simp), emitConsumed_eq]
                    exact .rejected session reason gate allocates fenced (by simp [silent])
            | none =>
                change Admission s frame direction callbacks
                  ((acceptFrame (s.enteringFrame frame direction session callbacks) >>=
                    fun _ => pure (some s.nextLinkFrameId)) (s.entered frame direction session))
                rw [bind_pure_eq, acceptFrame_eq]
                cases accepted : acceptedAnswer
                    (s.enteringFrame frame direction session callbacks) with
                | error failure =>
                    exact .unaccepted session failure gate allocates fenced accepted
                | ok u =>
                    exact .transmitted session _ gate allocates fenced accepted
                      (transmits_transmit _ _)
      · rw [Effect.bind_of_error (allocateLinkFrameId_of_full fits)]
        exact .exhausted _ fits

end LinkSimulator

end CubeNano

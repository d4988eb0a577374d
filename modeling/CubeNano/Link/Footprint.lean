import CubeNano.Link.SessionReset

/-!
# What each method of the simulator touches

Most methods leave the event queue, the deliveries, the serializers and the
allocators alone, and the run-level results only need to know that.  `Unmoved`
is that relation and `Quiet` says it of a method; the file-epoch manager may move
as `Settles` allows, and `Admits` says what the admission of a packet does.

## Main definitions

* `FileEpochManager.Settles`, `FileEpochManager.Admits`
* `LinkSimulator.Unmoved`, `LinkSimulator.Quiet`
-/

namespace CubeNano

/-- The attempt that is current is the one opened last. -/
structure FileEpochManager.LatestCurrent (m : FileEpochManager) : Prop where
  positive : 0 < m.nextAttemptId
  latest : ∀ attempt, m.currentAttempt = some attempt →
    attempt.epochId ≠ 0 ∧ attempt.epochId + 1 = m.nextAttemptId

namespace FileEpochManager

variable {m : FileEpochManager}

/-- What every operation but an admission does to the attempts: none is opened, so
an attempt that is current was current before. -/
structure Settles (m m' : FileEpochManager) : Prop where
  next : m'.nextAttemptId = m.nextAttemptId
  current : ∀ attempt, m'.currentAttempt = some attempt →
    ∃ before, m.currentAttempt = some before ∧ before.epochId = attempt.epochId

theorem Settles.refl (m : FileEpochManager) : Settles m m := ⟨rfl, fun a h => ⟨a, h, rfl⟩⟩

theorem Settles.trans {m' m'' : FileEpochManager} (h : Settles m m') (h' : Settles m' m'') :
    Settles m m'' where
  next := h'.next.trans h.next
  current := by
    intro attempt stored
    obtain ⟨middle, stored', same'⟩ := h'.current attempt stored
    obtain ⟨before, stored'', same⟩ := h.current middle stored'
    exact ⟨before, stored'', same.trans same'⟩

theorem Settles.latestCurrent {m' : FileEpochManager} (h : Settles m m')
    (latest : m.LatestCurrent) : m'.LatestCurrent := by
  refine ⟨h.next ▸ latest.positive, fun attempt stored => ?_⟩
  obtain ⟨before, stored', same⟩ := h.current attempt stored
  rw [← same, h.next]
  exact latest.latest before stored'

theorem settles_openSession (m : FileEpochManager) (boot : ℕ) : Settles m (m.openSession boot) := by
  unfold openSession
  split
  · exact .refl m
  · exact ⟨rfl, fun _ none => (by cases none)⟩

theorem settles_closeSession (m : FileEpochManager) (boot : ℕ) :
    Settles m (m.closeSession boot) := by
  unfold closeSession
  split
  · exact .refl m
  · exact ⟨rfl, fun _ none => (by cases none)⟩

theorem settles_completeAttempt (m : FileEpochManager) (attemptId : ℕ) :
    Settles m (m.completeAttempt attemptId).2 := by
  unfold completeAttempt
  split
  · exact .refl m
  split
  · exact .refl m
  · exact ⟨rfl, fun _ none => (by cases none)⟩

theorem settles_abortAttempt (m : FileEpochManager) (attemptId linkFrameId : ℕ) :
    Settles m (m.abortAttempt attemptId linkFrameId).2 := by
  unfold abortAttempt
  split
  · exact .refl m
  · rename_i attempt current
    split
    · exact .refl m
    · refine ⟨rfl, fun _ stored => ?_⟩
      cases stored
      exact ⟨attempt, current, rfl⟩

theorem startedAttempt_inl {boot : ℕ} {attempt : FileTransferAttempt}
    (h : m.startedAttempt boot = .inl attempt) :
    m.currentAttempt = some attempt ∧ attempt.state = .started ∧
      m.activeSenderBootId = some boot := by
  unfold startedAttempt at h
  split at h
  · cases h
  rename_i boot
  split at h
  · cases h
  rename_i current stored
  split at h
  · cases h
  · rename_i started
    cases h
    exact ⟨stored, not_not.mp started, not_not.mp boot⟩

/-- What an admission attempt does to the attempts: a refused packet changes
nothing, and an admitted one belongs to the attempt opened last. -/
structure Admits (m : FileEpochManager) (result : EpochAdmission × FileEpochManager) : Prop where
  le : m.nextAttemptId ≤ result.2.nextAttemptId
  latest : m.LatestCurrent → result.2.LatestCurrent
  refused : result.1.error ≠ none → result.2 = m
  admitted : result.1.error = none → m.LatestCurrent →
    result.1.epochId + 1 = result.2.nextAttemptId ∧
      ∃ attempt, result.2.currentAttempt = some attempt ∧ attempt.epochId = result.1.epochId

theorem Admits.refusal {epochId : ℕ} {reason : String} {packetType : Option FilePacketType} :
    Admits m (⟨epochId, some reason, packetType⟩, m) :=
  ⟨le_rfl, id, fun _ => rfl, fun h => (by cases h)⟩

/-- A packet taken by the current attempt, which keeps its epoch. -/
theorem Admits.taken {current attempt : FileTransferAttempt} {buffer : List DataEntry}
    {packetType : Option FilePacketType} (stored : m.currentAttempt = some current)
    (same : attempt.epochId = current.epochId) :
    Admits m (⟨current.epochId, none, packetType⟩,
      { m with currentAttempt := some attempt, dataBuffer := buffer }) := by
  refine ⟨le_rfl, fun latest => ⟨latest.positive, fun a h => ?_⟩, fun h => absurd rfl h,
    fun _ latest => ?_⟩
  · cases h
    rw [same]
    exact latest.latest current stored
  · exact ⟨(latest.latest current stored).2, attempt, rfl, same⟩

theorem admits_start {session : Session} {linkFrameId : ℕ} {info : FilePacket}
    (start : info.packetType = .start) :
    Admits m (m.admitPacket (some session) linkFrameId info) := by
  simp only [admitPacket, start, if_true, admitStart]
  cases active : m.activeSenderBootId with
  | none => exact .refusal
  | some boot =>
      dsimp only
      by_cases stale : session.senderBootId ≠ boot
      · simp only [if_pos stale]
        exact .refusal
      · simp only [if_neg stale]
        by_cases busy : m.transferBusy = true
        · simp only [if_pos busy]
          exact .refusal
        · simp only [if_neg busy]
          refine ⟨Nat.le_succ _, fun latest => ⟨Nat.succ_pos _, fun attempt h => ?_⟩,
            fun h => absurd rfl h, fun _ _ => ?_⟩
          · cases h
            exact ⟨latest.positive.ne', rfl⟩
          · exact ⟨rfl, _, rfl, rfl⟩

theorem admits_body {current : FileTransferAttempt} {boot linkFrameId : ℕ} {info : FilePacket}
    (stored : m.currentAttempt = some current) :
    Admits m (m.admitBody current boot linkFrameId info) := by
  unfold admitBody
  split
  · unfold admitData
    cases started : m.startedAttempt boot with
    | inr reason => exact .refusal
    | inl attempt =>
        obtain ⟨same, -, -⟩ := startedAttempt_inl started
        obtain rfl : attempt = current := Option.some.inj (same.symm.trans stored)
        exact .taken stored rfl
  · unfold admitEnd
    cases started : m.startedAttempt boot with
    | inr reason => exact .refusal
    | inl attempt =>
        obtain ⟨same, -, -⟩ := startedAttempt_inl started
        obtain rfl : attempt = current := Option.some.inj (same.symm.trans stored)
        exact .taken stored rfl
  · unfold abortAttempt
    simp only [stored, ne_eq, not_true_eq_false, if_false]
    exact .taken stored rfl

/-- **What the admission of a file packet does to the attempts.** -/
theorem admits_admitPacket (m : FileEpochManager) (session : Option Session) (linkFrameId : ℕ)
    (info : FilePacket) : Admits m (m.admitPacket session linkFrameId info) := by
  cases session with
  | none => exact .refusal
  | some session =>
      by_cases start : info.packetType = .start
      · exact admits_start start
      · simp only [admitPacket, if_neg start]
        cases stored : m.currentAttempt with
        | none => exact .refusal
        | some current =>
            dsimp only
            split
            · exact .refusal
            · exact admits_body stored

end FileEpochManager

namespace LinkSimulator

/-- A method left everything but the sessions, the control events and the current
attempt as it was. -/
structure Unmoved (s t : LinkSimulator) : Prop where
  clock : t.clock = s.clock
  delivered : t.delivered = s.delivered
  availableNs : t.availableNs = s.availableNs
  nextLinkFrameId : t.nextLinkFrameId = s.nextLinkFrameId
  admittedFilePackets : t.admittedFilePackets = s.admittedFilePackets
  transport : t.transport = s.transport
  faultModel : t.faultModel = s.faultModel
  profile : t.profile = s.profile
  epochs : s.fileEpochManager.Settles t.fileEpochManager

theorem Unmoved.refl (s : LinkSimulator) : Unmoved s s :=
  ⟨rfl, rfl, rfl, rfl, rfl, rfl, rfl, rfl, .refl _⟩

theorem Unmoved.trans {s t u : LinkSimulator} (h : Unmoved s t) (h' : Unmoved t u) :
    Unmoved s u :=
  ⟨h'.clock.trans h.clock, h'.delivered.trans h.delivered, h'.availableNs.trans h.availableNs,
    h'.nextLinkFrameId.trans h.nextLinkFrameId,
    h'.admittedFilePackets.trans h.admittedFilePackets, h'.transport.trans h.transport,
    h'.faultModel.trans h.faultModel, h'.profile.trans h.profile, h.epochs.trans h'.epochs⟩

/-- A method that leaves the state unmoved however it ends. -/
def Quiet {α : Type} (x : LinkProgram α) : Prop := ∀ s, Effect.Keeps (Unmoved s) x

namespace Quiet

variable {α β : Type}

theorem pure (a : α) : Quiet (Pure.pure a : LinkProgram α) := fun _ => .pure a

theorem bind {x : LinkProgram α} {f : α → LinkProgram β} (first : Quiet x)
    (rest : ∀ a, Quiet (f a)) : Quiet (x >>= f) := fun s => .bind (first s) fun a => rest a s

theorem modify {f : LinkSimulator → LinkSimulator} (h : ∀ s, Unmoved s (f s)) :
    Quiet (modify f) := fun _ => .modify fun t moved => moved.trans (h t)

theorem liftRaises (r : Raises α) : Quiet (liftRaises r) := by
  intro s t h
  cases r with
  | ok value => exact h
  | error failure => exact h

/-- A method that reads the state and writes an unmoved one. -/
theorem withState {f : LinkSimulator → LinkProgram α}
    (h : ∀ s, Effect.Triple (fun t => t = s) (f s) (fun _ => Unmoved s) (fun _ => Unmoved s)) :
    Quiet (MonadState.get >>= f) := by
  intro s
  refine Effect.Triple.withState fun t moved => ?_
  exact (h t).weaken (fun _ same => same) (fun _ _ later => moved.trans later)
    (fun _ _ later => moved.trans later)

/-- A quiet method keeps what an unmoved state has. -/
theorem keeps {x : LinkProgram α} (quiet : Quiet x) {I : LinkSimulator → Prop}
    (closed : ∀ s t, Unmoved s t → I s → I t) : Effect.Keeps I x := by
  intro s hs
  have moved := quiet s s (.refl s)
  cases result : x s with
  | ok a t =>
      rw [result] at moved
      exact closed s t moved hs
  | error failure t =>
      rw [result] at moved
      exact closed s t moved hs

/-- A quiet method from a known state. -/
theorem start {x : LinkProgram α} (quiet : Quiet x) (s : LinkSimulator) :
    Effect.Triple (fun t => t = s) x (fun _ => Unmoved s) (fun _ => Unmoved s) :=
  (quiet s).weaken (fun _ same => same ▸ .refl s) (fun _ _ h => h) fun _ _ h => h

end Quiet

theorem keeps_checkpointChanged (P : LinkSimulator → Prop) : Effect.Keeps P checkpointChanged :=
  Effect.Triple.withState fun _ h => (keeps_liftRaises _ P).weaken (fun _ same => same ▸ h)
    (fun _ _ h => h) fun _ _ h => h

/-! ## The quiet methods -/

theorem unmoved_emitControl (s : LinkSimulator) (message : LinkControlMessage) :
    Unmoved s { s with controlEvents := s.controlEvents ++ [message] } :=
  ⟨rfl, rfl, rfl, rfl, rfl, rfl, rfl, rfl, .refl _⟩

theorem quiet_emitControl (message : LinkControlMessage) : Quiet (emitControl message) :=
  .modify fun s => unmoved_emitControl s message

theorem quiet_emitConsumed (callbacks : LinkCallbacks) (message : LinkControlMessage) :
    Quiet (emitConsumed callbacks message) :=
  .bind (quiet_emitControl message) fun _ => .liftRaises _

theorem quiet_checkpointChanged : Quiet checkpointChanged :=
  .withState fun s => (Quiet.liftRaises _).start s

theorem quiet_announceSession (first : LinkControlType) (i sessionId : ℕ) :
    Quiet (announceSession first i sessionId) :=
  .withState fun s => ((quiet_emitControl _).bind fun _ => quiet_emitControl _).start s

theorem quiet_allocateSession (i boot : ℕ) : Quiet (allocateSession i boot) :=
  .withState fun s => .bind
    (Effect.Triple.set fun _ _ => ⟨rfl, rfl, rfl, rfl, rfl, rfl, rfl, rfl, .refl _⟩)
    fun _ => Quiet.liftRaises _ s

theorem quiet_openFileEpochs (boot : ℕ) : Quiet (openFileEpochs boot) :=
  .modify fun s =>
    ⟨rfl, rfl, rfl, rfl, rfl, rfl, rfl, rfl, s.fileEpochManager.settles_openSession boot⟩

theorem quiet_closeActive (i : ℕ) : Quiet (closeActive i) :=
  .modify fun s => by
    split
    · exact .refl s
    · exact ⟨rfl, rfl, rfl, rfl, rfl, rfl, rfl, rfl, .refl _⟩

theorem quiet_createSession (i boot : ℕ) : Quiet (createSession i boot) :=
  (quiet_allocateSession i boot).bind fun sessionId =>
    quiet_checkpointChanged.bind fun _ => (quiet_openFileEpochs boot).bind fun _ =>
      (quiet_announceSession _ i sessionId).bind fun _ => .pure sessionId

theorem quiet_resetSession (i boot : ℕ) : Quiet (resetSession i boot) :=
  (quiet_closeActive i).bind fun _ => (quiet_openFileEpochs boot).bind fun _ =>
    (quiet_allocateSession i boot).bind fun sessionId => quiet_checkpointChanged.bind fun _ =>
      (quiet_announceSession _ i sessionId).bind fun _ => .pure sessionId

theorem quiet_closeSession (sessionId : ℕ) : Quiet (closeSession sessionId) :=
  .withState fun s => by
    split
    · exact (Quiet.liftRaises _).start s
    · refine Effect.Triple.bind (R := fun _ => Unmoved s) ?_ fun _ => quiet_emitControl _ s
      exact Effect.Triple.set fun u same =>
        ⟨rfl, rfl, rfl, rfl, rfl, rfl, rfl, rfl, s.fileEpochManager.settles_closeSession _⟩

theorem quiet_abortFileEpoch (epoch : ℕ) (reason : String) :
    Quiet (abortFileEpoch epoch reason) :=
  .withState fun s => by
    split
    · exact (Quiet.pure _).start s
    · split
      · exact (Quiet.pure _).start s
      · refine Effect.Triple.bind (R := fun _ => Unmoved s) ?_ fun _ =>
          ((quiet_emitControl _).bind fun _ => Quiet.pure _) s
        exact Effect.Triple.set fun u same =>
          ⟨rfl, rfl, rfl, rfl, rfl, rfl, rfl, rfl, s.fileEpochManager.settles_abortAttempt _ _⟩

theorem quiet_rejectFrame (a : AdmittedFrame) (reason : String) : Quiet (rejectFrame a reason) := by
  unfold rejectFrame
  split
  · exact .pure _
  · exact quiet_emitConsumed _ _

theorem quiet_reportLost (a : AdmittedFrame) (copyIndex : ℕ) (reason : String) :
    Quiet (reportLost a copyIndex reason) := quiet_emitConsumed _ _

theorem settles_releaseFence (d : ScheduledDelivery) (m : FileEpochManager) :
    m.Settles (releaseFence d m) := by
  unfold releaseFence
  split
  · split
    · exact .refl m
    · split
      · exact m.settles_completeAttempt _
      · exact .refl m
  · exact .refl m

/-- A delivery that is due at the release of its copy. -/
theorem dueDelivery_ok {a : AdmittedFrame} {copyIndex due : ℕ} {decision : FaultDecision}
    {d : ScheduledDelivery} (h : dueDelivery a copyIndex decision = .ok (due, d)) :
    (due : ℤ) = decision.releaseNs ∧ ∃ frameBytes, d = delivery a copyIndex frameBytes := by
  obtain ⟨frameBytes, -, h⟩ := bind_eq_ok_iff.mp h
  obtain ⟨_, -, h⟩ := bind_eq_ok_iff.mp h
  obtain ⟨time, timed, h⟩ := bind_eq_ok_iff.mp h
  cases h
  exact ⟨cast_of_simulationTime timed, frameBytes, rfl⟩

/-- A delivery that is not due in the past is put into the queue. -/
theorem scheduleDelivery_ok {s : LinkSimulator} {a : AdmittedFrame} {copyIndex due : ℕ}
    {decision : FaultDecision} {d : ScheduledDelivery}
    (prepared : dueDelivery a copyIndex decision = .ok (due, d)) (future : s.clock.now ≤ due) :
    scheduleDelivery a copyIndex decision s = .ok ()
      { s with clock :=
          s.clock.pushEvent due a.direction.code a.linkFrameId copyIndex d } := by
  have scheduled : s.clock.scheduleAt due a.direction.code a.linkFrameId copyIndex d =
      .ok (s.clock.pushEvent due a.direction.code a.linkFrameId copyIndex d) :=
    if_neg (not_lt.mpr future)
  unfold scheduleDelivery
  rw [prepared]
  change EStateM.bind (liftRaises (s.clock.scheduleAt due a.direction.code a.linkFrameId copyIndex
    d)) (fun clock => set { s with clock := clock }) s = _
  rw [scheduled]
  rfl

/-- **What `_schedule_delivery` does**: it raises and changes nothing, or puts the
delivery of the copy into the queue, due at its release. -/
theorem scheduleDelivery_cases (s : LinkSimulator) (a : AdmittedFrame) (copyIndex : ℕ)
    (decision : FaultDecision) :
    (∃ failure, scheduleDelivery a copyIndex decision s = .error failure s) ∨
    ∃ (frameBytes : Bytes) (due : ℕ), (due : ℤ) = decision.releaseNs ∧
      scheduleDelivery a copyIndex decision s = .ok ()
        { s with clock := s.clock.pushEvent due a.direction.code a.linkFrameId copyIndex
                            (delivery a copyIndex frameBytes) } := by
  cases prepared : dueDelivery a copyIndex decision with
  | error failure =>
      refine .inl ⟨failure, ?_⟩
      unfold scheduleDelivery
      rw [prepared]
      rfl
  | ok pair =>
      obtain ⟨due, d⟩ := pair
      obtain ⟨release, frameBytes, rfl⟩ := dueDelivery_ok prepared
      by_cases future : s.clock.now ≤ due
      · exact .inr ⟨frameBytes, due, release, scheduleDelivery_ok prepared future⟩
      · refine .inl ⟨⟨.valueError, s!"Cannot schedule in past: {due} < {s.clock.now}"⟩, ?_⟩
        unfold scheduleDelivery
        rw [prepared]
        change EStateM.bind (liftRaises (s.clock.scheduleAt due a.direction.code a.linkFrameId
          copyIndex _)) (fun clock => set { s with clock := clock }) s = _
        rw [VirtualClock.scheduleAt, if_pos (not_le.mp future)]
        rfl

/-! ## Whole operations -/

/-- **The operation rule.**  An invariant of the simulator that unmoved states
share, that time alone and the delivery of one event keep, is kept by every
operation but an admission, for which it is a premise. -/
theorem after_of_parts {I : LinkSimulator → Prop}
    (closed : ∀ s t, Unmoved s t → I s → I t)
    (time : ∀ s now, I s → I { s with clock := { s.clock with now := now } })
    (advance : Effect.Keeps I advanceToNextEvent) {s : LinkSimulator} (h : I s) (op : LinkOp)
    (admission : ∀ frame direction callbacks, op = .admitFrame frame direction callbacks →
      I (Effect.finalState (admitFrame frame direction callbacks s))) :
    I (s.after op) := by
  have quiet {α : Type} {x : LinkProgram α} (q : Quiet x) : Effect.Keeps I x := q.keeps closed
  have forget {α : Type} {x : LinkProgram α} (k : Effect.Keeps I x) :
      Effect.Keeps I (discard x) := k.bind fun _ => .pure _
  have loop (more : LinkSimulator → ℕ → Bool) (pending count : ℕ) :
      Effect.Keeps I (runWhile more pending count) := by
    induction pending generalizing count with
    | zero => exact .pure _
    | succ pending ih =>
        refine Effect.Triple.withState fun s h => ?_
        split
        · exact (advance.bind fun _ => ih (count + 1)).weaken
            (fun t same => same ▸ h) (fun _ _ h => h) fun _ _ h => h
        · exact Effect.Triple.pure fun t same => same ▸ h
  cases op with
  | createSession i boot => exact (forget (quiet (quiet_createSession i boot))).finalState h
  | resetSession i boot => exact (forget (quiet (quiet_resetSession i boot))).finalState h
  | closeSession sessionId => exact (quiet (quiet_closeSession sessionId)).finalState h
  | abortFileEpoch epoch reason =>
      exact (forget (quiet (quiet_abortFileEpoch epoch reason))).finalState h
  | admitFrame frame direction callbacks =>
      have this := admission frame direction callbacks rfl
      change I (Effect.finalState (EStateM.bind (admitFrame frame direction callbacks) _ s))
      unfold EStateM.bind
      cases result : admitFrame frame direction callbacks s with
      | ok value t =>
          rw [result] at this
          exact this
      | error failure t =>
          rw [result] at this
          exact this
  | advanceToNextEvent => exact (forget advance).finalState h
  | runUntil endTime =>
      refine Effect.Keeps.finalState (forget (Effect.Triple.withState fun s h => ?_)) h
      refine Effect.Triple.bind (R := fun _ => I)
        ((loop _ _ _).weaken (fun t same => same ▸ h) (fun _ _ h => h) fun _ _ h => h)
        fun count => Effect.Keeps.bind (.modify fun t kept => ?_) fun _ => .pure _
      split
      · exact time t endTime kept
      · exact kept
  | runUntilIdle maxEvents =>
      refine Effect.Keeps.finalState (forget (Effect.Triple.withState fun s h => ?_)) h
      exact (loop _ _ _).weaken (fun t same => same ▸ h) (fun _ _ h => h) fun _ _ h => h

end LinkSimulator

end CubeNano

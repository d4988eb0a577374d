import CubeNano.Link.MissionLinkRuns

/-!
# Frames after a reset of the mission link

`MissionLink.reset` makes the scheduler not ready, and no call of the link makes it ready again.
Whatever is sent later stays in its queue.

## Main definitions

* `MissionLink.Stopped` — a link whose scheduler is not ready
* `MissionLink.DeliversOrRaises` — a call sends its frame or raises
* `MissionLink.RaisesUnready` — what makes a call raise on a link that is not ready

## Main statements

* `MissionLink.stopped_run` — a reset stops the link for good
* `MissionLink.deliversOrRaises_afterReset_iff` — later calls do what they should only when they
  raise
* `MissionLink.not_deliversOrRaises_afterReset` — a frame that is left in its queue
-/

namespace CubeNano

open Effect

namespace MissionLink

variable {ρ : Type}

/-- No frame is out, and the scheduler is not ready. -/
structure Stopped (l : MissionLink ρ) : Prop where
  between : l.Between
  idle : l.adapter.Idle
  notReady : l.adapter.scheduler.state = .notReady

/-- **A reset stops the link**, whatever is out. -/
theorem Between.stopped {l : MissionLink ρ} (between : l.Between) (boot : ℕ) :
    Stopped ({ l with adapter := l.adapter.reset, senderBootId := boot } : MissionLink ρ) :=
  ⟨between.stop boot, between.calm.matched.reset.1, between.calm.matched.reset.2.1⟩

theorem Stopped.unmoved {l : MissionLink ρ} (stopped : l.Stopped) {simulator : LinkSimulator}
    (moved : LinkSimulator.Unmoved l.simulator simulator) :
    Stopped ({ l with simulator := simulator } : MissionLink ρ) :=
  ⟨⟨stopped.between.pending, stopped.between.calm.matched, stopped.between.calm.queues,
    fun ready => by rw [moved.clock]; exact stopped.between.calm.due ready⟩,
    stopped.idle, stopped.notReady⟩

/-- A frame on a stopped link is refused, or stays in its queue. -/
theorem Stopped.withScheduler {l : MissionLink ρ} (stopped : l.Stopped) (queueKind : QueueKind)
    (frame : Bytes) :
    (l.withScheduler (l.adapter.scheduler.enqueue queueKind frame none none).2).Stopped :=
  have queued := stopped.between.withScheduler stopped.idle stopped.notReady queueKind frame
  ⟨queued.1, queued.2.1, queued.2.2⟩

section Transmit

variable {l : MissionLink ρ} {attached : AttachedEndpoints ρ} {frame : Bytes}
  {direction : Direction} {receiver : Option (LinkReceiver ρ)} {queueKind : QueueKind}

/-- A queue has no room. -/
def QueueFull (l : MissionLink ρ) (queueKind : QueueKind) : Prop :=
  l.adapter.scheduler.capacities queueKind ≤ (l.adapter.scheduler.queues queueKind).length

/-- The scheduler with a frame on a queue. -/
def queued (l : MissionLink ρ) (queueKind : QueueKind) (frame : Bytes) : MissionLink ρ :=
  l.withScheduler (l.adapter.scheduler.enqueue queueKind frame none none).2

/-- **A frame on a stopped link returns**, left in its queue, exactly if it has a receiver and the
queue has room. -/
theorem Stopped.transmitFrame_returns (stopped : l.Stopped) {chosen : Option (LinkReceiver ρ)}
    (chooses : attached.chosen receiver direction = .ok chosen) (room : ¬ QueueFull l queueKind) :
    transmitFrame attached frame direction receiver queueKind l =
      .ok none (l.queued queueKind frame) := by
  obtain ⟨id, accepted⟩ : ∃ id, l.adapter.scheduler.enqueue queueKind frame none none =
      (.ok id, (l.adapter.scheduler.enqueue queueKind frame none none).2) := by
    have free : ¬ l.adapter.scheduler.capacities queueKind ≤
        (l.adapter.scheduler.queues queueKind).length := room
    exact ⟨l.adapter.scheduler.nextItemId, by rw [MissionComScheduler.enqueue, if_neg free]⟩
  exact transmitFrame_of_queued stopped.between stopped.idle stopped.notReady chooses accepted

theorem Stopped.transmitFrame_raises (stopped : l.Stopped) (frame : Bytes)
    (refused : (∃ failure, attached.chosen receiver direction = .error failure) ∨
      QueueFull l queueKind) :
    ∃ failure t, transmitFrame attached frame direction receiver queueKind l =
      .error failure t := by
  cases chooses : attached.chosen receiver direction with
  | error failure =>
      exact ⟨_, _, transmitFrame_of_noReceiver stopped.between stopped.idle chooses⟩
  | ok chosen =>
      have full : QueueFull l queueKind := by
        refine refused.resolve_left fun ⟨failure, raised⟩ => ?_
        rw [chooses] at raised
        cases raised
      have answer : l.adapter.scheduler.enqueue queueKind frame none none =
          (runtimeError s!"{queueKind.value} scheduler queue is full",
            (l.adapter.scheduler.enqueue queueKind frame none none).2) := by
        have taken : l.adapter.scheduler.capacities queueKind ≤
            (l.adapter.scheduler.queues queueKind).length := full
        rw [MissionComScheduler.enqueue, if_pos taken]
      exact ⟨_, _, transmitFrame_of_full stopped.between stopped.idle chooses answer⟩

/-- A queue after a frame was put on one that has room. -/
theorem length_queued (room : ¬ QueueFull l queueKind) (other : QueueKind) :
    ((l.queued queueKind frame).adapter.scheduler.queues other).length =
      (l.adapter.scheduler.queues other).length + if other = queueKind then 1 else 0 := by
  have free : ¬ l.adapter.scheduler.capacities queueKind ≤
      (l.adapter.scheduler.queues queueKind).length := room
  rw [queued, MissionLink.withScheduler, MissionComScheduler.enqueue, if_neg free]
  dsimp only
  by_cases same : other = queueKind
  · rw [same, Function.update_self, List.length_append, if_pos rfl]
    rfl
  · rw [Function.update_of_ne same, if_neg same]
    rfl

theorem capacities_queued :
    (l.queued queueKind frame).adapter.scheduler.capacities = l.adapter.scheduler.capacities := by
  unfold queued MissionLink.withScheduler MissionComScheduler.enqueue
  dsimp only
  split <;> rfl

theorem Stopped.queued (stopped : l.Stopped) : (l.queued queueKind frame).Stopped :=
  stopped.withScheduler queueKind frame

end Transmit

/-! ## What a call on a stopped link does -/

/-- The FILE queue has no room for some frames, or the ground cannot receive them. -/
def DownlinksRaise (l : MissionLink ρ) (attached : AttachedEndpoints ρ) (frames : List Bytes) :
    Prop :=
  frames ≠ [] ∧ ((∃ failure, attached.chosen none .egress = .error failure) ∨
    l.adapter.scheduler.capacities .file <
      (l.adapter.scheduler.queues .file).length + frames.length)

theorem Stopped.sendDownlinks_iff {l : MissionLink ρ} (stopped : l.Stopped)
    (attached : AttachedEndpoints ρ) (frames : List Bytes) :
    (∃ failure t, sendDownlinks attached frames l = .error failure t) ↔
      DownlinksRaise l attached frames := by
  induction frames generalizing l with
  | nil => exact ⟨fun ⟨_, _, raised⟩ => (nomatch raised), fun raises => absurd rfl raises.1⟩
  | cons frame rest ih =>
      unfold sendDownlinks
      by_cases refused : (∃ failure, attached.chosen none .egress = .error failure) ∨
          QueueFull l .file
      · obtain ⟨failure, t, raised⟩ := stopped.transmitFrame_raises frame refused
        rw [bind_of_error raised]
        refine ⟨fun _ => ⟨List.cons_ne_nil _ _, ?_⟩, fun _ => ⟨_, _, rfl⟩⟩
        refine refused.imp_right fun full => lt_of_le_of_lt full ?_
        rw [List.length_cons]
        omega
      · rw [not_or] at refused
        cases chooses : attached.chosen none .egress with
        | error failure => exact absurd ⟨failure, chooses⟩ refused.1
        | ok chosen =>
            rw [bind_of_ok (stopped.transmitFrame_returns chooses refused.2), ih stopped.queued,
              DownlinksRaise, DownlinksRaise, capacities_queued, length_queued refused.2,
              if_pos rfl, List.length_cons, chooses]
            have room : (l.adapter.scheduler.queues .file).length <
                l.adapter.scheduler.capacities .file := Nat.lt_of_not_le refused.2
            constructor
            · rintro ⟨-, failed | full⟩
              · obtain ⟨_, raised⟩ := failed
                cases raised
              · exact ⟨List.cons_ne_nil _ _, .inr (by omega)⟩
            · rintro ⟨-, failed | full⟩
              · obtain ⟨_, raised⟩ := failed
                cases raised
              · refine ⟨fun nil => ?_, .inr (by omega)⟩
                rw [nil, List.length_nil] at full
                omega

/-- The staging of the satellite's telemetry raises. -/
def StagingRaises (l : MissionLink ρ) (attached : AttachedEndpoints ρ) : Prop :=
  match attached.satellite with
  | none => False
  | some satellite =>
      match satellite.enqueuePendingTmFrames with
      | some enqueued => ∃ failure, enqueued = .error failure
      | none =>
          match satellite.drainPendingTmFrames with
          | none => False
          | some (.error _) => True
          | some (.ok frames) => DownlinksRaise l attached frames

theorem Stopped.drainSatelliteTm_iff {l : MissionLink ρ} (stopped : l.Stopped)
    (attached : AttachedEndpoints ρ) :
    (∃ failure t, drainSatelliteTm attached l = .error failure t) ↔ StagingRaises l attached := by
  unfold drainSatelliteTm StagingRaises
  cases attached.satellite with
  | none => exact ⟨fun ⟨_, _, raised⟩ => (nomatch raised), False.elim⟩
  | some satellite =>
      dsimp only
      cases satellite.enqueuePendingTmFrames with
      | some enqueued =>
          cases enqueued with
          | ok u =>
              exact ⟨fun ⟨_, _, raised⟩ => (nomatch raised), fun ⟨_, raised⟩ => nomatch raised⟩
          | error failure => exact ⟨fun _ => ⟨failure, rfl⟩, fun _ => ⟨failure, l, rfl⟩⟩
      | none =>
          dsimp only
          cases satellite.drainPendingTmFrames with
          | none => exact ⟨fun ⟨_, _, raised⟩ => (nomatch raised), False.elim⟩
          | some produced =>
              cases produced with
              | error failure => exact ⟨fun _ => trivial, fun _ => ⟨failure, l, rfl⟩⟩
              | ok frames => exact stopped.sendDownlinks_iff attached frames

/-- What makes a call raise on a link that is not ready. -/
def RaisesUnready (l : MissionLink ρ) (call : TransmitCall ρ) : Prop :=
  (∃ failure, call.attached.chosen call.receiver call.direction = .error failure) ∨
    QueueFull l call.queueKind ∨
    call.direction = .ingress ∧ StagingRaises (l.queued call.queueKind call.frame) call.attached

/-- **A call sends its frame or raises**: if it returns, a copy was handed to the transport in the
session of the link, and the frame is in no queue. -/
def DeliversOrRaises (l : MissionLink ρ) (call : TransmitCall ρ) : Prop :=
  ∀ result t, transmit call l = .ok result t →
    (∃ d ∈ t.simulator.delivered.drop l.simulator.delivered.length,
      d.frame.envelope.linkSessionId = l.sessionId) ∧
    ∀ kind, ∀ item ∈ t.adapter.scheduler.queues kind,
      item.itemId ≠ l.adapter.scheduler.nextItemId

/-! ## Runs -/

/-- A stopped link that has delivered some copies. -/
def StoppedAfter (delivered : List ScheduledDelivery) (l : MissionLink ρ) : Prop :=
  l.Stopped ∧ l.simulator.delivered = delivered

variable {delivered : List ScheduledDelivery}

theorem keeps_stopped_transmitFrame (attached : AttachedEndpoints ρ) (frame : Bytes)
    (direction : Direction) (receiver : Option (LinkReceiver ρ)) (queueKind : QueueKind) :
    Keeps (StoppedAfter delivered)
      (transmitFrame attached frame direction receiver queueKind) := by
  rintro l ⟨stopped, same⟩
  have queued := stopped.withScheduler queueKind frame
  cases chooses : attached.chosen receiver direction with
  | error failure =>
      rw [transmitFrame_of_noReceiver stopped.between stopped.idle chooses]
      exact ⟨stopped, same⟩
  | ok chosen =>
      cases answer : l.adapter.scheduler.enqueue queueKind frame none none with
      | mk reply q =>
          rw [answer] at queued
          cases reply with
          | ok id =>
              rw [transmitFrame_of_queued stopped.between stopped.idle stopped.notReady chooses
                answer]
              exact ⟨queued, same⟩
          | error failure =>
              rw [transmitFrame_of_full stopped.between stopped.idle chooses answer]
              exact ⟨queued, same⟩

/-- **A reset stops the link**, and delivers nothing. -/
theorem triple_reset_stopped (boot : ℕ) :
    Triple (fun l => l.Between ∧ l.simulator.delivered = delivered) (reset boot : Program ρ ℕ)
      (fun _ => StoppedAfter delivered) fun _ => StoppedAfter delivered := by
  refine Triple.bind (R := fun _ => StoppedAfter delivered) (Triple.modify fun l both =>
    ⟨both.1.stopped boot, both.2⟩) fun _ => Keeps.getBind fun l => Keeps.bind (keeps_onSimulator
      (LinkSimulator.quiet_resetSession _ _) fun _ _ moved both =>
        ⟨both.1.unmoved moved, moved.delivered.trans both.2⟩)
      fun sessionId => Keeps.bind (Keeps.modify fun l both => ⟨⟨?_, both.1.idle, both.1.notReady⟩,
        both.2⟩) fun _ => Keeps.pure _
  exact ⟨both.1.between.pending, both.1.between.calm.matched, both.1.between.calm.queues,
    both.1.between.calm.due⟩

theorem keeps_stopped_program (op : MissionLinkOp ρ) :
    Keeps (StoppedAfter delivered) op.program :=
  keeps_program keeps_stopped_transmitFrame
    (fun boot => Triple.weaken (triple_reset_stopped boot) (fun _ both => ⟨both.1.between, both.2⟩)
      (fun _ _ h => h) fun _ _ h => h)
    (Keeps.modify fun l both => ⟨both.1.between.stopped l.senderBootId, both.2⟩) op

/-- **A reset stops the link for good.** -/
theorem stopped_run {l : MissionLink ρ} (between : l.Between)
    (earlier later : List (MissionLinkOp ρ)) (boot : ℕ) :
    ((missionLinkMachine ρ).exec l (earlier ++ .reset boot :: later)).Stopped := by
  rw [Machine.exec_append, Machine.exec_cons]
  refine (missionLinkMachine ρ).exec_invariant Stopped ?_ (fun _ op stopped =>
    ((keeps_stopped_program op).finalState ⟨stopped, rfl⟩).1) later
  have resets : Triple (fun m => m.Between ∧ m.simulator.delivered =
      ((missionLinkMachine ρ).exec l earlier).simulator.delivered)
      (MissionLinkOp.program (.reset boot : MissionLinkOp ρ)) (fun _ => Stopped)
      fun _ => Stopped :=
    Triple.bind (Triple.weaken (triple_reset_stopped boot) (fun _ h => h) (fun _ _ h => h.1)
      fun _ _ h => h.1) fun _ => Triple.pure fun _ h => h
  exact Triple.finalState resets ⟨between_run between earlier, rfl⟩

/-! ## Calls after a reset -/

/-- **A call on a stopped link raises** only for want of a receiver, of room or of a satellite
that stages its telemetry. -/
theorem Stopped.transmit_raises_iff {l : MissionLink ρ} (stopped : l.Stopped)
    (call : TransmitCall ρ) :
    (∃ failure t, transmit call l = .error failure t) ↔ RaisesUnready l call := by
  unfold transmit RaisesUnready
  rw [← or_assoc]
  by_cases refused : (∃ failure, call.attached.chosen call.receiver call.direction =
      .error failure) ∨ QueueFull l call.queueKind
  · obtain ⟨failure, t, raised⟩ := stopped.transmitFrame_raises call.frame refused
    rw [bind_of_error raised]
    exact ⟨fun _ => .inl refused, fun _ => ⟨failure, t, rfl⟩⟩
  · cases chooses : call.attached.chosen call.receiver call.direction with
    | error failure => exact absurd (.inl ⟨failure, chooses⟩) refused
    | ok chosen =>
        rw [bind_of_ok (stopped.transmitFrame_returns chooses fun full => refused (.inr full)),
          ← chooses, or_iff_right refused]
        by_cases uplink : call.direction = .ingress
        · rw [if_pos uplink, and_iff_right uplink, ← stopped.queued.drainSatelliteTm_iff]
          constructor
          · rintro ⟨failure, t, raised⟩
            cases drained : drainSatelliteTm call.attached (l.queued call.queueKind call.frame) with
            | error failure' t' => exact ⟨failure', t', rfl⟩
            | ok u t' =>
                rw [bind_of_ok drained] at raised
                cases raised
          · rintro ⟨failure, t, raised⟩
            exact ⟨failure, t, bind_of_error raised⟩
        · rw [if_neg uplink]
          exact ⟨fun ⟨_, _, raised⟩ => (nomatch raised), fun both => absurd both.1 uplink⟩

/-- **On a stopped link a call sends its frame or raises only if it raises.** -/
theorem Stopped.deliversOrRaises_iff {l : MissionLink ρ} (stopped : l.Stopped)
    (call : TransmitCall ρ) : DeliversOrRaises l call ↔ RaisesUnready l call := by
  rw [← stopped.transmit_raises_iff]
  have nothing := (keeps_stopped_program (.transmit call)).finalState
    (s := l) ⟨stopped, rfl⟩
  rw [show finalState (MissionLinkOp.program (.transmit call) l) = finalState (transmit call l)
    from finalState_bind_pure _ _ _] at nothing
  cases ran : transmit call l with
  | error failure t => exact ⟨fun _ => ⟨failure, t, rfl⟩, fun _ _ _ ran' => by
      rw [ran] at ran'; cases ran'⟩
  | ok result t =>
      refine ⟨fun delivers => ?_, fun ⟨_, _, raised⟩ => nomatch raised⟩
      obtain ⟨⟨d, mem, -⟩, -⟩ := delivers result t ran
      rw [ran] at nothing
      rw [show t.simulator.delivered = l.simulator.delivered from nothing.2,
        List.drop_length] at mem
      cases mem

/-- **After a reset a call sends its frame or raises exactly if it raises**: for want of a
receiver, for want of room on its queue, or because the satellite does not stage its telemetry.
Otherwise it returns and the frame stays in its queue. -/
theorem deliversOrRaises_afterReset_iff {uplinkProfile downlinkProfile : FaultProfile}
    {faultModel : FaultModel} {transport : TransportFrame → Raises Unit}
    {startTime spacecraftInstanceId senderBootId : ℕ} {l : MissionLink ρ}
    (made : new uplinkProfile downlinkProfile faultModel transport startTime spacecraftInstanceId
      senderBootId = .ok l)
    (earlier later : List (MissionLinkOp ρ)) (boot : ℕ) (call : TransmitCall ρ) :
    DeliversOrRaises ((missionLinkMachine ρ).exec l (earlier ++ .reset boot :: later)) call ↔
      RaisesUnready ((missionLinkMachine ρ).exec l (earlier ++ .reset boot :: later)) call :=
  (stopped_run (between_new made) earlier later boot).deliversOrRaises_iff call

/-- A link without faults. -/
def faultlessLink : MissionLink Unit :=
  (new {} {} (.ofSeed 1 1 0) (fun _ => .ok ()) 0 1 1).toOption.get (by decide)

theorem made_faultlessLink :
    new {} {} (.ofSeed 1 1 0) (fun _ => .ok ()) 0 1 1 = .ok faultlessLink := rfl

/-- A downlink frame for a receiver that accepts every frame. -/
def acceptedDownlink : TransmitCall Unit where
  attached := ⟨none, none⟩
  frame := [0]
  direction := .egress
  receiver := some ⟨fun _ => [], fun _ => .ok ()⟩
  queueKind := .file

/-- After sixteen frames the queue is full, and the next call raises. -/
theorem deliversOrRaises_afterReset_of_full :
    DeliversOrRaises ((missionLinkMachine Unit).exec faultlessLink
      ([] ++ .reset 2 :: List.replicate 16 (.transmit acceptedDownlink))) acceptedDownlink := by
  have full : QueueFull ((missionLinkMachine Unit).exec faultlessLink
      ([] ++ .reset 2 :: List.replicate 16 (.transmit acceptedDownlink))) .file := by
    unfold QueueFull
    decide +kernel
  exact (deliversOrRaises_afterReset_iff made_faultlessLink [] _ 2 acceptedDownlink).mpr
    (.inr (.inl full))

/-- **The first frame after a reset stays in its queue**, and the call returns. -/
theorem not_deliversOrRaises_afterReset :
    ¬ DeliversOrRaises ((missionLinkMachine Unit).exec faultlessLink ([] ++ .reset 2 :: []))
      acceptedDownlink := by
  intro delivers
  have room : ¬ QueueFull ((missionLinkMachine Unit).exec faultlessLink ([] ++ .reset 2 :: []))
      .file := by
    unfold QueueFull
    decide +kernel
  have stopped := stopped_run (between_new made_faultlessLink) [] [] 2
  rcases (stopped.deliversOrRaises_iff acceptedDownlink).mp delivers with ⟨failure, raised⟩ | full |
    ⟨uplink, -⟩
  · cases raised
  · exact room full
  · cases uplink

end MissionLink

end CubeNano

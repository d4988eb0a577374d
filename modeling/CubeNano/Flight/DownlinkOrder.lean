import CubeNano.Flight.DownlinkMachine

/-!
# Order of a file downlink

Whatever is asked of the coordinator, one frame at most is out, and the frames that came
through make up a file: START, DATA without a gap, one END or CANCEL.  It takes a CANCEL
that is due for sent as soon as it sets out to make it, so a queue that refuses the CANCEL
lets the file go on with DATA.

The completion that `enqueue_next` hands to the scheduler is `complete_frame` followed by
cooldown ticks, so its calls are among the operations.

## Main definitions

* `DownlinkRun` — a coordinator with the leases it made, handed out and saw completed
* `DownlinkRun.Orderly`, `DownlinkRun.LeavesAlone` — the order of the frames, and what
  refused frames and stale completions leave alone
* `DownlinkRun.cancelAccepted` — a CANCEL that is due is made and queued

## Main statements

* `orderly_iff_cancelAccepted` — the runs that keep the order
* `not_orderly_of_refusedCancel` — a refused CANCEL
-/

namespace CubeNano

open FileDownlinkCoordinator Effect

/-- The operations of the coordinator; a completion names a lease by its id. -/
inductive DownlinkOp
  | start (transferId : U32) (productRef : ProductRef) (path : Text)
  | nextFrame (transferId : U32)
  | enqueueNext (transferId : U32)
  | completeFrame (leaseId : ℕ) (status : String)
  | cancel (transferId : U32)
  | beginAbort (transferId : U32) (reason : String)
  | closeAbortFence (transferId : U32)
  | cooldownTick (transferId : U32)

/-- A coordinator and its leases. -/
structure DownlinkRun where
  state : DownlinkState
  /-- Every lease `next_frame` made, in order. -/
  issued : List FrameLease
  /-- The leases handed out whose completion has not been taken. -/
  outstanding : List FrameLease
  /-- The leases whose completion was taken with a success status, in order. -/
  completed : List FrameLease

namespace DownlinkRun

/-- A coordinator as its constructor makes it. -/
def new (tmFileApid spacecraftId cooldownTicks : ℕ)
    (stateCallback : U32 → TransferState → Option String → Raises Unit)
    (tmCounterAllocator : Option ℕ) : DownlinkRun where
  state := ⟨⟨tmFileApid, spacecraftId, cooldownTicks, stateCallback, tmCounterAllocator, none, [],
    1, 1⟩, .initial⟩
  issued := []
  outstanding := []
  completed := []

/-- The lease with an id. -/
def lease? (run : DownlinkRun) (leaseId : ℕ) : Option FrameLease :=
  run.issued.find? fun lease => lease.leaseId = leaseId

/-- The lease a call of `next_frame` made. -/
def made : EStateM.Result PyException DownlinkState (Option FrameLease) → List FrameLease
  | .ok lease? _ => lease?.toList
  | .error _ _ => []

/-- Whether a call of `enqueue_next` returned. -/
def queued : EStateM.Result PyException DownlinkState (Option ℕ) → Bool
  | .ok _ _ => true
  | .error _ _ => false

/-- Whether a call of `complete_frame` took the completion: it does not return `False`. -/
def taken : EStateM.Result PyException DownlinkState Bool → Bool
  | .ok accepted _ => accepted
  | .error _ _ => true

/-- One operation, in its environment. -/
def step (run : DownlinkRun) (input : DownlinkEnvironment × DownlinkOp) : DownlinkRun :=
  let env := input.1
  let s := run.state.within env
  match input.2 with
  | .start transferId productRef path =>
      { run with state := finalState (start env.disk transferId productRef path s) }
  | .nextFrame transferId =>
      let result := nextFrame env.disk transferId s
      { run with
        state := finalState result
        issued := run.issued ++ made result
        outstanding := run.outstanding ++ made result }
  | .enqueueNext transferId =>
      let lease := made (nextFrame env.disk transferId s)
      let result := enqueueNext env.disk (fun _ _ => env.queueAnswer) transferId s
      { run with
        state := finalState result
        issued := run.issued ++ lease
        outstanding := run.outstanding ++ if queued result then lease else [] }
  | .completeFrame leaseId status =>
      match run.lease? leaseId with
      | none => run
      | some lease =>
          let result := completeFrame lease status s
          { run with
            state := finalState result
            outstanding :=
              if taken result then run.outstanding.erase lease else run.outstanding
            completed :=
              if taken result ∧ status.toUpper ∈ successStatuses then run.completed ++ [lease]
              else run.completed }
  | .cancel transferId => { run with state := finalState (cancel transferId s) }
  | .beginAbort transferId reason =>
      { run with state := finalState (beginAbort transferId reason s) }
  | .closeAbortFence transferId => { run with state := finalState (closeAbortFence transferId s) }
  | .cooldownTick transferId => { run with state := finalState (cooldownTick transferId s) }

/-- The packets of an attempt that came through. -/
def sent (run : DownlinkRun) (attemptEpoch : ℕ) : List FilePacket :=
  (run.completed.filter fun lease => lease.attemptEpoch = attemptEpoch).map FrameLease.packet

/-- One lease is out at most; of every attempt, the packets that came through are in
order; after the CANCEL of an attempt neither DATA nor END of it is made. -/
structure Orderly (run : DownlinkRun) : Prop where
  outstanding : run.outstanding.length ≤ 1
  sent : ∀ attemptEpoch, (FileProgress.ofPackets (run.sent attemptEpoch)).isSome
  cancelLast : run.issued.Pairwise fun earlier later =>
    earlier.attemptEpoch = later.attemptEpoch → earlier.packet.packetType = .cancel →
      later.packet.packetType ≠ .data ∧ later.packet.packetType ≠ .endOfFile

/-- An `enqueue_next` that raises leaves the transfer as it was, and a completion of a
lease that is not out leaves everything as it was. -/
def LeavesAlone (run : DownlinkRun) (input : DownlinkEnvironment × DownlinkOp) : Prop :=
  let s := run.state.within input.1
  match input.2 with
  | .enqueueNext transferId => ∀ failure t,
      enqueueNext input.1.disk (fun _ _ => input.1.queueAnswer) transferId s = .error failure t →
        t.coordinator.active = run.state.coordinator.active
  | .completeFrame leaseId status => ∀ lease, run.lease? leaseId = some lease →
      lease ∉ run.outstanding → finalState (completeFrame lease status s) = s
  | _ => True

/-- When `enqueue_next` finds a CANCEL due, the CANCEL can be made and the queue takes
it. -/
def cancelAccepted (run : DownlinkRun) (input : DownlinkEnvironment × DownlinkOp) : Bool :=
  match input.2, run.state.coordinator.active with
  | .enqueueNext transferId, some active =>
      !(active.transferId = transferId && active.currentLease.isNone &&
          active.cancelDue input.1.disk) ||
        (run.state.within input.1).canCancel active && input.1.queueAnswer.isOk
  | _, _ => true

end DownlinkRun

/-- The coordinator under operations, each in its environment. -/
def downlinkMachine : Machine DownlinkRun (DownlinkEnvironment × DownlinkOp) Unit where
  step run input := (run.step input, ())

/-! ## The invariant -/

namespace DownlinkRun

/-- What is known of the active transfer. -/
structure Follows (run : DownlinkRun) (active : ActiveTransfer) : Prop where
  epoch_lt : active.attemptEpoch < run.state.coordinator.nextAttemptEpoch
  terminalAfter : ∀ state, active.terminalAfterCooldown = some state → state.terminal = true
  outstanding : run.outstanding = active.currentLease.toList
  leased : ∀ lease, active.currentLease = some lease →
    lease ∈ run.issued ∧ lease.attemptEpoch = active.attemptEpoch ∧
      lease.transferId = active.transferId ∧
        ∃ progress, FileProgress.ofPackets (run.sent active.attemptEpoch) = some progress ∧
          (progress.accept lease.packet).isSome
  sending : active.outputGateOpen = true →
    FileProgress.ofPackets (run.sent active.attemptEpoch) = some active.progress ∧
      (active.state = .sending ∨ active.state = .cancelRequested ∨ active.state = .cancelDraining)
  settled : active.state = .cooldown ∨ active.state.terminal = true → active.currentLease = none
  canceled : ∀ lease ∈ run.issued, lease.attemptEpoch = active.attemptEpoch →
    lease.packet.packetType = .cancel → active.outputGateOpen = false ∨
      ∃ current, active.currentLease = some current ∧ current.packet.packetType = .cancel

/-- The invariant of a run. -/
structure Sound (run : DownlinkRun) : Prop where
  follows : ∀ active, run.state.coordinator.active = some active → run.Follows active
  idle : run.state.coordinator.active = none → run.outstanding = []
  issued_lt : ∀ lease ∈ run.issued, lease.leaseId < run.state.coordinator.nextLeaseId ∧
    lease.attemptEpoch < run.state.coordinator.nextAttemptEpoch
  ascending : run.issued.Pairwise fun earlier later => earlier.leaseId < later.leaseId
  completed : ∀ lease ∈ run.completed, lease ∈ run.issued
  sent : ∀ attemptEpoch, (FileProgress.ofPackets (run.sent attemptEpoch)).isSome
  cancelLast : run.issued.Pairwise fun earlier later =>
    earlier.attemptEpoch = later.attemptEpoch → earlier.packet.packetType = .cancel →
      later.packet.packetType ≠ .data ∧ later.packet.packetType ≠ .endOfFile

/-- The invariant gives the order. -/
theorem Sound.orderly {run : DownlinkRun} (sound : run.Sound) : run.Orderly := by
  refine ⟨?_, sound.sent, sound.cancelLast⟩
  cases here : run.state.coordinator.active with
  | none => simp [sound.idle here]
  | some active =>
      rw [(sound.follows active here).outstanding]
      cases active.currentLease <;> simp

/-- The invariant does not see the environment. -/
theorem Sound.within {run : DownlinkRun} (sound : run.Sound) (env : DownlinkEnvironment) :
    Sound { run with state := run.state.within env } where
  follows active here :=
    have follows := sound.follows active here
    ⟨follows.epoch_lt, follows.terminalAfter, follows.outstanding, follows.leased, follows.sending,
      follows.settled, follows.canceled⟩
  idle := sound.idle
  issued_lt := sound.issued_lt
  ascending := sound.ascending
  completed := sound.completed
  sent := sound.sent
  cancelLast := sound.cancelLast

/-- An issued lease is known by its id. -/
theorem Sound.eq_of_leaseId_eq {run : DownlinkRun} (sound : run.Sound) {lease other : FrameLease}
    (issued : lease ∈ run.issued) (issued' : other ∈ run.issued)
    (same : lease.leaseId = other.leaseId) : lease = other := by
  have distinct : (run.issued.map FrameLease.leaseId).Nodup :=
    (List.pairwise_map.mpr sound.ascending).imp ne_of_lt
  exact List.inj_on_of_nodup_map distinct issued issued' same

/-- The state of a run after an operation. -/
def reaching (run : DownlinkRun) (t : DownlinkState) : DownlinkRun := { run with state := t }

/-- A transfer with an open gate is neither aborted nor cooling down nor over. -/
theorem Follows.under_way {run : DownlinkRun} {active : ActiveTransfer}
    (follows : run.Follows active) (open_ : active.outputGateOpen = true) :
    active.state ≠ .aborting ∧ active.state ≠ .cooldown ∧ active.state.terminal = false := by
  rcases (follows.sending open_).2 with state | state | state
  · rw [state]
    decide
  · rw [state]
    decide
  · rw [state]
    decide

/-- Cancellation, abort and cooldown keep what is known of the transfer. -/
theorem Follows.settlesTo {run : DownlinkRun} {active after : ActiveTransfer} {t : DownlinkState}
    (follows : run.Follows active) (moved : active.SettlesTo after)
    (epoch : t.coordinator.nextAttemptEpoch = run.state.coordinator.nextAttemptEpoch) :
    (run.reaching t).Follows after where
  epoch_lt := by
    show _ < t.coordinator.nextAttemptEpoch
    rw [moved.attemptEpoch, epoch]
    exact follows.epoch_lt
  terminalAfter state here := by
    rcases moved.terminalAfter state here with before | rfl
    · exact follows.terminalAfter state before
    · rfl
  outstanding := by
    rw [moved.currentLease]
    exact follows.outstanding
  leased := by
    rw [moved.currentLease, moved.attemptEpoch, moved.transferId]
    exact follows.leased
  sending open_ := by
    have progress : after.progress = active.progress := by
      rw [ActiveTransfer.progress, moved.nextFileSequence, moved.nextOffset]
      rfl
    rw [progress, moved.attemptEpoch]
    rcases moved.moves with ⟨gate, state⟩ | ⟨gate, -⟩ | ⟨gate, aborting, -⟩ | ⟨gate, cooling, -⟩
    · rw [gate] at open_
      obtain ⟨sent, sending⟩ := follows.sending open_
      refine ⟨sent, ?_⟩
      rcases state with same | ⟨-, requested⟩ | ⟨-, draining⟩
      · rw [same]
        exact sending
      · exact .inr (.inl requested)
      · exact .inr (.inr draining)
    · rw [gate] at open_
      cases open_
    · exact absurd aborting (follows.under_way (gate ▸ open_)).1
    · exact absurd cooling (follows.under_way (gate ▸ open_)).2.1
  settled stopped := by
    rw [moved.currentLease]
    rcases moved.moves with ⟨-, state⟩ | ⟨-, aborting, -⟩ | ⟨-, -, unleased, -⟩ | ⟨-, cooling, -⟩
    · rcases state with same | ⟨-, requested⟩ | ⟨-, draining⟩
      · exact follows.settled (same ▸ stopped)
      · rw [requested] at stopped
        simp [TransferState.terminal] at stopped
      · rw [draining] at stopped
        simp [TransferState.terminal] at stopped
    · rw [aborting] at stopped
      simp [TransferState.terminal] at stopped
    · exact unleased
    · exact follows.settled (.inl cooling)
  canceled lease issued epoch cancel := by
    rw [moved.currentLease]
    rcases follows.canceled lease issued (epoch.trans moved.attemptEpoch) cancel with
      closed | leased
    · refine .inl ?_
      rcases moved.moves with ⟨gate, -⟩ | ⟨gate, -⟩ | ⟨gate, -⟩ | ⟨gate, -⟩
      · exact gate.trans closed
      · exact gate
      · exact gate.trans closed
      · exact gate.trans closed
    · exact .inr leased

/-- Cancellation, abort and cooldown keep the invariant. -/
theorem Sound.settles {run : DownlinkRun} (sound : run.Sound) {t : DownlinkState}
    (settles : run.state.Settles t) : (run.reaching t).Sound := by
  have epoch := settles.nextAttemptEpoch
  refine ⟨fun after here => ?_, fun idle => ?_, fun lease issued => ?_, sound.ascending,
    sound.completed, sound.sent, sound.cancelLast⟩
  · rcases settles.active with same | ⟨active, after', before, now, moved⟩
    · have follows := sound.follows after (same ▸ here)
      exact ⟨epoch ▸ follows.epoch_lt, follows.terminalAfter, follows.outstanding, follows.leased,
        follows.sending, follows.settled, follows.canceled⟩
    · obtain rfl := Option.some.inj (now.symm.trans here)
      exact (sound.follows active before).settlesTo moved epoch
  · rcases settles.active with same | ⟨active, after, -, now, -⟩
    · exact sound.idle (same ▸ idle)
    · exact absurd (now.symm.trans idle) nofun
  · show lease.leaseId < t.coordinator.nextLeaseId ∧
      lease.attemptEpoch < t.coordinator.nextAttemptEpoch
    rw [settles.nextLeaseId, epoch]
    exact sound.issued_lt lease issued

/-- No packet of an attempt that has not begun has come through. -/
theorem Sound.sent_eq_nil {run : DownlinkRun} (sound : run.Sound) {epoch : ℕ}
    (fresh : run.state.coordinator.nextAttemptEpoch ≤ epoch) : run.sent epoch = [] := by
  rw [DownlinkRun.sent, List.map_eq_nil_iff, List.filter_eq_nil_iff]
  intro lease done same
  have known := (sound.issued_lt lease (sound.completed lease done)).2
  rw [of_decide_eq_true same] at known
  exact absurd known (Nat.not_lt_of_le fresh)

/-- A new transfer begins an attempt of its own. -/
theorem Sound.starts {run : DownlinkRun} (sound : run.Sound) (disk : Disk) (transferId : U32)
    (productRef : ProductRef) (path : Text) :
    (run.reaching (finalState (start disk transferId productRef path run.state))).Sound := by
  rcases start_cases disk transferId productRef path run.state with
    same | ⟨idle, active, opened, now⟩
  · rw [same]
    exact sound
  rw [now]
  have unleased : run.outstanding = [] := by
    cases before : run.state.coordinator.active with
    | none => exact sound.idle before
    | some ended =>
        have follows := sound.follows ended before
        rw [follows.outstanding, follows.settled (.inr (idle ended before))]
        rfl
  refine ⟨fun after here => ?_, fun none_ => absurd none_ nofun, fun lease issued => ?_,
    sound.ascending, sound.completed, sound.sent, sound.cancelLast⟩
  · obtain rfl := Option.some.inj here
    have nothing := sound.sent_eq_nil opened.attemptEpoch.ge
    refine ⟨?_, fun state after => ?_, ?_, fun lease leased => ?_, fun _ => ⟨?_, .inl opened.state⟩,
      fun _ => opened.currentLease, fun lease issued epoch => ?_⟩
    · show _ < run.state.coordinator.nextAttemptEpoch + 1
      rw [opened.attemptEpoch]
      exact Nat.lt_succ_self _
    · rw [opened.terminalAfter] at after
      cases after
    · rw [opened.currentLease]
      exact unleased
    · rw [opened.currentLease] at leased
      cases leased
    · show FileProgress.ofPackets (run.sent _) = _
      rw [nothing, ActiveTransfer.progress, opened.nextFileSequence, opened.nextOffset]
      rfl
    · have known := (sound.issued_lt lease issued).2
      rw [epoch, opened.attemptEpoch] at known
      exact absurd known (Nat.lt_irrefl _)
  · have known := sound.issued_lt lease issued
    exact ⟨known.1, known.2.trans (Nat.lt_succ_self _)⟩

/-! ## Completions -/

/-- A success adds a packet to those of its attempt. -/
theorem sent_complete (run : DownlinkRun) (lease : FrameLease) (attemptEpoch : ℕ) :
    ((run.completed ++ [lease]).filter fun lease => lease.attemptEpoch = attemptEpoch).map
        FrameLease.packet =
      if lease.attemptEpoch = attemptEpoch then run.sent attemptEpoch ++ [lease.packet]
      else run.sent attemptEpoch := by
  rw [List.filter_append, List.map_append, DownlinkRun.sent]
  by_cases same : lease.attemptEpoch = attemptEpoch
  · simp [same]
  · simp [same]

/-- The completion of the lease that is out keeps the invariant. -/
theorem Sound.completes {run : DownlinkRun} (sound : run.Sound) {active : ActiveTransfer}
    {lease : FrameLease} (status : String) (here : run.state.coordinator.active = some active)
    (leased : active.currentLease = some lease) :
    Sound { run with
      state := run.state.withActive (active.completed lease.packet status)
      outstanding := run.outstanding.erase lease
      completed :=
        if status.toUpper ∈ successStatuses then run.completed ++ [lease] else run.completed } := by
  have follows := sound.follows active here
  obtain ⟨issued, epoch, -, progress, sent, accepted⟩ := follows.leased lease leased
  obtain ⟨reached, accepts⟩ := Option.isSome_iff_exists.mp accepted
  have running (open_ : active.outputGateOpen = true) : active.state ≠ .aborting :=
    (follows.under_way open_).1
  have outstanding : run.outstanding.erase lease = [] := by
    rw [follows.outstanding, leased]
    simp
  refine ⟨fun after now => ?_, fun none_ => absurd none_ nofun, sound.issued_lt, sound.ascending,
    fun other done => ?_, fun attemptEpoch => ?_, sound.cancelLast⟩
  · obtain rfl := Option.some.inj now
    refine ⟨?_, fun state after => ?_, ?_, fun other still => ?_, fun open_ => ?_, fun _ => by simp,
      fun other issued' same cancel => ?_⟩
    · rw [ActiveTransfer.completed_attemptEpoch]
      exact follows.epoch_lt
    · rcases active.completed_terminalAfter _ _ after with before | terminal
      · exact follows.terminalAfter state before
      · exact terminal
    · rw [ActiveTransfer.completed_currentLease]
      exact outstanding
    · rw [ActiveTransfer.completed_currentLease] at still
      cases still
    · obtain ⟨wasOpen, success, -, state, goesOn⟩ := active.completed_open _ _ open_ running
      obtain ⟨sent', sending⟩ := follows.sending wasOpen
      obtain rfl := Option.some.inj (sent.symm.trans sent')
      refine ⟨?_, state ▸ sending⟩
      rw [ActiveTransfer.completed_attemptEpoch, ← goesOn reached accepts]
      unfold DownlinkRun.sent
      dsimp only
      rw [if_pos success, sent_complete, if_pos epoch, FileProgress.ofPackets_concat, sent]
      exact accepts
    · refine .inl (Bool.eq_false_iff.mpr fun open_ => ?_)
      obtain ⟨wasOpen, -, notCancel, -⟩ := active.completed_open _ _ open_ running
      rw [ActiveTransfer.completed_attemptEpoch] at same
      rcases follows.canceled other issued' same cancel with closed | ⟨current, isCurrent, isCancel⟩
      · rw [wasOpen] at closed
        cases closed
      · obtain rfl := Option.some.inj (leased.symm.trans isCurrent)
        exact notCancel isCancel
  · dsimp only at done
    split at done
    · rcases List.mem_append.mp done with done | last
      · exact sound.completed other done
      · rw [List.mem_singleton.mp last]
        exact issued
    · exact sound.completed other done
  · unfold DownlinkRun.sent
    dsimp only
    split
    · rw [sent_complete]
      split
      · rename_i same
        rw [FileProgress.ofPackets_concat, ← same, epoch, sent]
        exact accepted
      · exact sound.sent attemptEpoch
    · exact sound.sent attemptEpoch

/-! ## Leases -/

/-- No CANCEL of a transfer that waits with an open gate has been made. -/
theorem Follows.not_cancel {run : DownlinkRun} {active : ActiveTransfer}
    (follows : run.Follows active) (gate : active.outputGateOpen = true)
    (unleased : active.currentLease = none) {lease : FrameLease} (issued : lease ∈ run.issued)
    (epoch : lease.attemptEpoch = active.attemptEpoch) : lease.packet.packetType ≠ .cancel := by
  intro cancel
  rcases follows.canceled lease issued epoch cancel with closed | ⟨current, leased, -⟩
  · rw [gate] at closed
    cases closed
  · rw [unleased] at leased
    cases leased

section Issued

variable {run : DownlinkRun} {transferId : U32} {active : ActiveTransfer} {lease : FrameLease}

/-- The ids of the leases ascend. -/
theorem Sound.ascending_concat (sound : run.Sound)
    (carries : lease.Carries run.state.coordinator active) :
    (run.issued ++ [lease]).Pairwise fun earlier later => earlier.leaseId < later.leaseId := by
  refine List.pairwise_append.mpr ⟨sound.ascending, List.pairwise_singleton _ _, ?_⟩
  intro earlier issued later last
  rw [List.mem_singleton.mp last, carries.leaseId]
  exact (sound.issued_lt earlier issued).1

/-- A lease goes on with the next ids. -/
theorem Sound.issued_lt_concat (sound : run.Sound) (follows : run.Follows active)
    (carries : lease.Carries run.state.coordinator active) :
    ∀ other ∈ run.issued ++ [lease], other.leaseId < run.state.coordinator.nextLeaseId + 1 ∧
      other.attemptEpoch < run.state.coordinator.nextAttemptEpoch := by
  intro other mem
  rcases List.mem_append.mp mem with issued | last
  · have known := sound.issued_lt other issued
    exact ⟨known.1.trans (Nat.lt_succ_self _), known.2⟩
  · rw [List.mem_singleton.mp last, carries.leaseId, carries.attemptEpoch]
    exact ⟨Nat.lt_succ_self _, follows.epoch_lt⟩

/-- No CANCEL comes before the lease of a transfer that waits. -/
theorem Sound.cancelLast_concat (sound : run.Sound) (follows : run.Follows active)
    (gate : active.outputGateOpen = true) (unleased : active.currentLease = none)
    (carries : lease.Carries run.state.coordinator active) :
    (run.issued ++ [lease]).Pairwise fun earlier later =>
      earlier.attemptEpoch = later.attemptEpoch → earlier.packet.packetType = .cancel →
        later.packet.packetType ≠ .data ∧ later.packet.packetType ≠ .endOfFile := by
  refine List.pairwise_append.mpr ⟨sound.cancelLast, List.pairwise_singleton _ _, ?_⟩
  intro earlier issued later last epoch cancel
  rw [List.mem_singleton.mp last, carries.attemptEpoch] at epoch
  exact absurd cancel (follows.not_cancel gate unleased issued epoch)

/-- The lease of the next packet keeps the invariant. -/
theorem Sound.leases (sound : run.Sound) {after : ActiveTransfer} {t : DownlinkState}
    (waits : run.state.Waits transferId active)
    (carries : lease.Carries run.state.coordinator active)
    (gate : active.outputGateOpen = true)
    (accepted : (active.progress.accept lease.packet).isSome)
    (same : after = active ∨ after = active.draining)
    (leased : t.coordinator = run.state.coordinator.leasing after lease) :
    Sound { run with
      state := t, issued := run.issued ++ [lease], outstanding := run.outstanding ++ [lease] } := by
  have follows := sound.follows active waits.here
  have unleased := waits.unleased
  have epoch : after.attemptEpoch = active.attemptEpoch := by
    rcases same with rfl | rfl <;> rfl
  have transfer : after.transferId = active.transferId := by
    rcases same with rfl | rfl <;> rfl
  have terminalAfter : after.terminalAfterCooldown = active.terminalAfterCooldown := by
    rcases same with rfl | rfl <;> rfl
  have progress : after.progress = active.progress := by
    rcases same with rfl | rfl <;> rfl
  have state : after.state = .sending ∨ after.state = .cancelRequested ∨
      after.state = .cancelDraining := by
    rcases same with rfl | rfl
    · exact (follows.sending gate).2
    · exact .inr (.inr rfl)
  obtain ⟨sent, -⟩ := follows.sending gate
  refine ⟨fun now here => ?_, fun none_ => ?_, ?_, sound.ascending_concat carries,
    fun other done => List.mem_append_left _ (sound.completed other done), sound.sent,
    sound.cancelLast_concat follows gate unleased carries⟩
  · dsimp only at here
    rw [leased] at here
    obtain rfl := Option.some.inj here
    refine ⟨?_, fun state => ?_, ?_, fun other isLease => ?_, fun _ => ⟨?_, state⟩,
      fun stopped => ?_, fun other mem same' cancel => ?_⟩
    · show after.attemptEpoch < t.coordinator.nextAttemptEpoch
      rw [leased, epoch]
      exact follows.epoch_lt
    · show after.terminalAfterCooldown = _ → _
      rw [terminalAfter]
      exact follows.terminalAfter state
    · show run.outstanding ++ [lease] = [lease]
      rw [follows.outstanding, unleased]
      rfl
    · obtain rfl := Option.some.inj isLease
      refine ⟨List.mem_append_right _ (List.mem_singleton_self _),
        carries.attemptEpoch.trans epoch.symm, carries.transferId.trans transfer.symm,
        active.progress, ?_, accepted⟩
      show FileProgress.ofPackets (run.sent after.attemptEpoch) = _
      rw [epoch]
      exact sent
    · show FileProgress.ofPackets (run.sent after.attemptEpoch) = some after.progress
      rw [epoch, progress]
      exact sent
    · exfalso
      replace stopped : after.state = .cooldown ∨ after.state.terminal = true := stopped
      rcases state with state | state | state
      · simp [state, TransferState.terminal] at stopped
      · simp [state, TransferState.terminal] at stopped
      · simp [state, TransferState.terminal] at stopped
    · rcases List.mem_append.mp mem with issued | last
      · exact absurd cancel (follows.not_cancel gate unleased issued (same'.trans epoch))
      · exact .inr ⟨lease, rfl, List.mem_singleton.mp last ▸ cancel⟩
  · dsimp only at none_
    rw [leased] at none_
    cases none_
  · dsimp only
    rw [leased]
    exact sound.issued_lt_concat follows carries

/-- A lease that is given up keeps the invariant, unless it is of a CANCEL. -/
theorem Sound.refused (sound : run.Sound) {t : DownlinkState}
    (waits : run.state.Waits transferId active)
    (carries : lease.Carries run.state.coordinator active)
    (gate : active.outputGateOpen = true) (notCancel : lease.packet.packetType ≠ .cancel)
    (dropped : t.coordinator = { run.state.coordinator with
      nextLeaseId := run.state.coordinator.nextLeaseId + 1, active := some active }) :
    Sound { run with state := t, issued := run.issued ++ [lease] } := by
  have follows := sound.follows active waits.here
  refine ⟨fun now here => ?_, fun none_ => ?_, ?_, sound.ascending_concat carries,
    fun other done => List.mem_append_left _ (sound.completed other done), sound.sent,
    sound.cancelLast_concat follows gate waits.unleased carries⟩
  · dsimp only at here
    rw [dropped] at here
    obtain rfl := Option.some.inj here
    refine ⟨?_, follows.terminalAfter, follows.outstanding, fun other isLease => ?_,
      follows.sending, follows.settled, fun other mem same cancel => ?_⟩
    · show active.attemptEpoch < t.coordinator.nextAttemptEpoch
      rw [dropped]
      exact follows.epoch_lt
    · rw [waits.unleased] at isLease
      cases isLease
    · rcases List.mem_append.mp mem with issued | last
      · exact follows.canceled other issued same cancel
      · rw [List.mem_singleton.mp last] at cancel
        exact absurd cancel notCancel
  · dsimp only at none_
    rw [dropped] at none_
    cases none_
  · dsimp only
    rw [dropped]
    exact sound.issued_lt_concat follows carries

end Issued

/-! ## Steps -/

theorem made_eq_nil {result : EStateM.Result PyException DownlinkState (Option FrameLease)}
    (noLease : ∀ lease t, result ≠ .ok (some lease) t) : made result = [] := by
  cases result with
  | error failure t => rfl
  | ok lease? t =>
      cases lease? with
      | none => rfl
      | some lease => exact absurd rfl (noLease lease t)

/-- A CANCEL that could not be made leaves the transfer draining. -/
theorem Sound.drains {run : DownlinkRun} (sound : run.Sound) {active : ActiveTransfer}
    {t : DownlinkState} (here : run.state.coordinator.active = some active)
    (requested : active.state = .cancelRequested)
    (drains : t.coordinator = (run.state.withActive active.draining).coordinator) :
    (run.reaching t).Sound :=
  sound.settles ⟨by rw [drains]; rfl, by rw [drains]; rfl,
    .inr ⟨active, _, here, by rw [drains]; rfl, ActiveTransfer.settlesTo_draining requested⟩⟩

/-- `next_frame` keeps the invariant. -/
theorem Sound.after_nextFrame {run : DownlinkRun} (sound : run.Sound) (disk : Disk)
    (transferId : U32) :
    Sound { run with
      state := finalState (nextFrame disk transferId run.state)
      issued := run.issued ++ made (nextFrame disk transferId run.state)
      outstanding := run.outstanding ++ made (nextFrame disk transferId run.state) } := by
  have outcome := nextFrame_cases disk transferId run.state
  generalize FileDownlinkCoordinator.nextFrame disk transferId run.state = result at outcome
  cases outcome with
  | nothing _ same noLease notDue =>
      rw [made_eq_nil noLease, List.append_nil, List.append_nil]
      exact sound.settles (.of_coordinator_eq same)
  | sends active lease t waits notDue sends carries leased =>
      exact sound.leases waits carries sends.gate sends.accepted (.inl rfl) leased
  | stuck active failure t waits due cannot drains =>
      rw [made, List.append_nil, List.append_nil]
      exact sound.drains waits.here (ActiveTransfer.cancelDue_iff.mp due).2.1 drains
  | cancels active lease t waits due can isCancel accepted carries leased =>
      exact sound.leases waits carries (ActiveTransfer.cancelDue_iff.mp due).1 accepted (.inr rfl)
        leased

/-- What `cancelAccepted` asks of an `enqueue_next`. -/
theorem cancelAccepted_enqueueNext_iff {run : DownlinkRun} {env : DownlinkEnvironment}
    {transferId : U32} : run.cancelAccepted (env, .enqueueNext transferId) = true ↔
      ∀ active, (run.state.within env).Waits transferId active → active.cancelDue env.disk = true →
        (run.state.within env).canCancel active = true ∧ env.queueAnswer.isOk = true := by
  unfold cancelAccepted
  cases here : run.state.coordinator.active with
  | none =>
      exact iff_of_true rfl fun active waits => absurd (waits.here.symm.trans here) nofun
  | some active =>
      have waits_iff (other : ActiveTransfer) : (run.state.within env).Waits transferId other ↔
          other = active ∧ active.transferId = transferId ∧ active.currentLease = none := by
        constructor
        · intro waits
          obtain rfl := Option.some.inj (waits.here.symm.trans here)
          exact ⟨rfl, waits.named, waits.unleased⟩
        · rintro ⟨rfl, named, unleased⟩
          exact ⟨here, named, unleased⟩
      simp only [waits_iff, Bool.or_eq_true, Bool.not_eq_true', Bool.and_eq_false_iff,
        Bool.and_eq_true, decide_eq_false_iff_not, Option.isNone_eq_false_iff]
      constructor
      · rintro condition other ⟨rfl, named, unleased⟩ due
        rcases condition with ((notHere | leased) | notDue) | accepted
        · exact absurd named notHere
        · rw [unleased] at leased
          cases leased
        · rw [due] at notDue
          cases notDue
        · exact accepted
      · intro condition
        by_cases isDue : (active.transferId = transferId ∧ active.currentLease = none) ∧
            active.cancelDue env.disk = true
        · exact .inr (condition active ⟨rfl, isDue.1.1, isDue.1.2⟩ isDue.2)
        · refine .inl ?_
          rw [not_and_or, not_and_or, ← ne_eq, ← ne_eq, Option.ne_none_iff_isSome,
            Bool.not_eq_true] at isDue
          exact isDue

/-- `enqueue_next` keeps the invariant and, when it raises, the transfer, if the CANCEL
that is due is accepted. -/
theorem Sound.after_enqueueNext {run : DownlinkRun} (sound : run.Sound) (disk : Disk)
    (transferId : U32) (answer : Raises ℕ)
    (accepted : ∀ active, run.state.Waits transferId active → active.cancelDue disk = true →
      run.state.canCancel active = true ∧ answer.isOk = true) :
    let result := enqueueNext disk (fun _ _ => answer) transferId run.state
    let lease := made (nextFrame disk transferId run.state)
    Sound { run with
      state := finalState result
      issued := run.issued ++ lease
      outstanding := run.outstanding ++ if queued result then lease else [] } ∧
    ∀ failure t, result = .error failure t →
      t.coordinator.active = run.state.coordinator.active := by
  intro result lease
  have outcome := nextFrame_cases disk transferId run.state
  have eq := enqueueNext_eq disk (fun _ _ => answer) transferId run.state
  simp only [result, lease, eq]
  generalize FileDownlinkCoordinator.nextFrame disk transferId run.state = next at outcome
  cases outcome with
  | nothing _ same noLease notDue =>
      rw [made_eq_nil noLease, List.append_nil, ite_self, List.append_nil]
      cases next with
      | error failure t =>
          exact ⟨sound.settles (.of_coordinator_eq same), fun failure' t' raised => by
            cases raised
            exact congrArg FileDownlinkCoordinator.active same⟩
      | ok lease? t =>
          cases lease? with
          | none =>
              exact ⟨sound.settles (.of_coordinator_eq same), fun _ _ raised => nomatch raised⟩
          | some lease => exact absurd rfl (noLease lease t)
  | sends active lease t waits notDue sends carries leased =>
      cases answer with
      | ok item =>
          exact ⟨sound.leases waits carries sends.gate sends.accepted (.inl rfl) leased,
            fun _ _ raised => nomatch raised⟩
      | error failure =>
          have dropped := finalState_dropLease leased waits.unleased
          refine ⟨?_, fun _ _ raised => ?_⟩
          · have refused := sound.refused waits carries sends.gate sends.notCancel dropped
            simpa [queued, made] using refused
          · cases raised
            rw [dropped, waits.here]
  | stuck active failure t waits due cannot drains =>
      rw [(accepted active waits due).1] at cannot
      cases cannot
  | cancels active lease t waits due can isCancel kept carries leased =>
      cases answer with
      | ok item =>
          exact ⟨sound.leases waits carries (ActiveTransfer.cancelDue_iff.mp due).1 kept (.inr rfl)
            leased, fun _ _ raised => nomatch raised⟩
      | error failure => exact absurd (accepted active waits due).2 nofun

/-- An `enqueue_next` that finds a CANCEL due and does not get it accepted raises and
leaves the transfer draining. -/
theorem enqueueNext_drains {s : DownlinkState} {disk : Disk} {transferId : U32}
    {answer : Raises ℕ} {active : ActiveTransfer} (waits : s.Waits transferId active)
    (due : active.cancelDue disk = true)
    (refused : ¬ (s.canCancel active = true ∧ answer.isOk = true)) :
    ∃ failure t, enqueueNext disk (fun _ _ => answer) transferId s = .error failure t ∧
      t.coordinator.active = some active.draining := by
  have outcome := nextFrame_cases disk transferId s
  rw [enqueueNext_eq]
  generalize FileDownlinkCoordinator.nextFrame disk transferId s = next at outcome
  have only {other : ActiveTransfer} (waits' : s.Waits transferId other) : other = active :=
    Option.some.inj (waits'.here.symm.trans waits.here)
  cases outcome with
  | nothing _ same noLease notDue =>
      rw [notDue active waits] at due
      cases due
  | sends other lease t waits' notDue sends carries leased =>
      rw [only waits', due] at notDue
      cases notDue
  | stuck other failure t waits' due' cannot drains =>
      obtain rfl := only waits'
      exact ⟨failure, t, rfl, by rw [drains]; rfl⟩
  | cancels other lease t waits' due' can isCancel kept carries leased =>
      obtain rfl := only waits'
      cases answer with
      | ok item => exact absurd ⟨can, rfl⟩ refused
      | error failure =>
          refine ⟨failure, _, rfl, ?_⟩
          have unleased : other.draining.currentLease = none := waits'.unleased
          rw [finalState_dropLease leased unleased]

/-- A completion of a lease that is not out is not taken. -/
theorem Sound.leavesAlone_completeFrame {run : DownlinkRun} (sound : run.Sound)
    {lease : FrameLease} (status : String) (issued : lease ∈ run.issued)
    (notOut : lease ∉ run.outstanding) :
    completeFrame lease status run.state = .ok false run.state := by
  rcases completeFrame_cases lease status run.state with ⟨same, -⟩ | ⟨active, takes, -⟩
  · exact same
  · have follows := sound.follows active takes.1
    obtain ⟨current, leased, sameId⟩ := Option.map_eq_some_iff.mp takes.2.2.2
    obtain rfl := sound.eq_of_leaseId_eq (follows.leased current leased).1 issued sameId
    rw [follows.outstanding, leased] at notOut
    exact absurd (by simp) notOut

/-- A completion keeps the invariant. -/
theorem Sound.after_completeFrame {run : DownlinkRun} (sound : run.Sound) {lease : FrameLease}
    (status : String) (issued : lease ∈ run.issued) :
    Sound { run with
      state := finalState (completeFrame lease status run.state)
      outstanding :=
        if taken (completeFrame lease status run.state) then run.outstanding.erase lease
        else run.outstanding
      completed :=
        if taken (completeFrame lease status run.state) ∧ status.toUpper ∈ successStatuses then
          run.completed ++ [lease]
        else run.completed } := by
  rcases completeFrame_cases lease status run.state with ⟨same, -⟩ | ⟨active, takes, accepts, now⟩
  · rw [same]
    simpa [taken] using sound
  · have isTaken : taken (completeFrame lease status run.state) = true := by
      cases result : completeFrame lease status run.state with
      | error failure t => rfl
      | ok accepted t =>
          cases accepted with
          | false => exact absurd result (accepts t)
          | true => rfl
    have follows := sound.follows active takes.1
    obtain ⟨current, leased, sameId⟩ := Option.map_eq_some_iff.mp takes.2.2.2
    obtain rfl := sound.eq_of_leaseId_eq (follows.leased current leased).1 issued sameId
    rw [isTaken, now]
    simpa using sound.completes status takes.1 leased

theorem lease?_mem {run : DownlinkRun} {leaseId : ℕ} {lease : FrameLease}
    (found : run.lease? leaseId = some lease) : lease ∈ run.issued :=
  List.mem_of_find?_eq_some found

/-- A step keeps the invariant if it gets the CANCEL accepted that is due. -/
theorem Sound.step {run : DownlinkRun} (sound : run.Sound)
    (input : DownlinkEnvironment × DownlinkOp) (accepted : run.cancelAccepted input = true) :
    (run.step input).Sound := by
  obtain ⟨env, op⟩ := input
  have inside := sound.within env
  cases op with
  | start transferId productRef path => exact inside.starts env.disk transferId productRef path
  | nextFrame transferId => exact inside.after_nextFrame env.disk transferId
  | enqueueNext transferId =>
      exact (inside.after_enqueueNext env.disk transferId env.queueAnswer
        (cancelAccepted_enqueueNext_iff.mp accepted)).1
  | completeFrame leaseId status =>
      unfold DownlinkRun.step
      dsimp only
      split
      · exact sound
      · rename_i lease found
        exact inside.after_completeFrame status (lease?_mem found)
  | cancel transferId => exact inside.settles (cancel_settles transferId _)
  | beginAbort transferId reason => exact inside.settles (beginAbort_settles transferId reason _)
  | closeAbortFence transferId => exact inside.settles (closeAbortFence_settles transferId _)
  | cooldownTick transferId => exact inside.settles (cooldownTick_settles transferId _)

/-- Under the invariant, a step leaves alone what it should, and orderly leases behind, just
in case it gets the CANCEL accepted that is due. -/
theorem Sound.step_iff {run : DownlinkRun} (sound : run.Sound)
    (input : DownlinkEnvironment × DownlinkOp) :
    run.LeavesAlone input ∧ (run.step input).Orderly ↔ run.cancelAccepted input = true := by
  refine ⟨fun holds => ?_, fun accepted => ⟨?_, (sound.step input accepted).orderly⟩⟩
  · obtain ⟨alone, -⟩ := holds
    obtain ⟨env, op⟩ := input
    cases op with
    | enqueueNext transferId =>
        refine cancelAccepted_enqueueNext_iff.mpr fun active waits due => ?_
        by_contra refused
        obtain ⟨failure, t, raised, drains⟩ := enqueueNext_drains waits due refused
        have same := (drains.symm.trans (alone failure t raised)).trans waits.here
        have state := congrArg ActiveTransfer.state (Option.some.inj same)
        rw [(ActiveTransfer.cancelDue_iff.mp due).2.1] at state
        cases state
    | _ => rfl
  · obtain ⟨env, op⟩ := input
    have inside := sound.within env
    cases op with
    | enqueueNext transferId =>
        exact (inside.after_enqueueNext env.disk transferId env.queueAnswer
          (cancelAccepted_enqueueNext_iff.mp accepted)).2
    | completeFrame leaseId status =>
        intro lease found notOut
        rw [inside.leavesAlone_completeFrame status (lease?_mem found) notOut]
        rfl
    | _ => trivial

/-- The invariant of a new coordinator. -/
theorem sound_new (tmFileApid spacecraftId cooldownTicks : ℕ)
    (stateCallback : U32 → TransferState → Option String → Raises Unit)
    (tmCounterAllocator : Option ℕ) :
    (new tmFileApid spacecraftId cooldownTicks stateCallback tmCounterAllocator).Sound where
  follows _ here := nomatch here
  idle _ := rfl
  issued_lt _ issued := nomatch issued
  ascending := .nil
  completed _ done := nomatch done
  sent _ := rfl
  cancelLast := .nil

end DownlinkRun

open DownlinkRun

/-- **The order of a file downlink.**  In a run of a new coordinator every step leaves
alone what it should and orderly leases behind, if and only if every `enqueue_next` that
finds a CANCEL due gets it accepted. -/
theorem orderly_iff_cancelAccepted (tmFileApid spacecraftId cooldownTicks : ℕ)
    (stateCallback : U32 → TransferState → Option String → Raises Unit)
    (tmCounterAllocator : Option ℕ) (inputs : List (DownlinkEnvironment × DownlinkOp)) :
    downlinkMachine.AllSteps
        (fun run input => run.LeavesAlone input ∧ (run.step input).Orderly)
        (.new tmFileApid spacecraftId cooldownTicks stateCallback tmCounterAllocator) inputs ↔
      downlinkMachine.AllSteps (fun run input => run.cancelAccepted input = true)
        (.new tmFileApid spacecraftId cooldownTicks stateCallback tmCounterAllocator) inputs :=
  downlinkMachine.allSteps_iff_of_invariant Sound (fun _ input sound => sound.step_iff input)
    (fun _ input sound accepted => sound.step input accepted) (sound_new _ _ _ _ _) inputs

/-! ## A refused CANCEL -/

/-- A disk with one bundle of one byte. -/
def oneByteDisk : Disk := fun path =>
  if path = Text.ofString "bundle" then some ⟨0, 0, 0, [42]⟩ else none

/-- What the calls meet: nothing fails but the queue. -/
def queueOnly (queueAnswer : Raises ℕ) : DownlinkEnvironment :=
  ⟨oneByteDisk, fun _ _ _ => .ok (), .initial, queueAnswer⟩

/-- A transfer is started, its START goes through, it is canceled, and the queue refuses
the CANCEL. -/
def refusedCancel : List (DownlinkEnvironment × DownlinkOp) :=
  [(queueOnly (.ok 1), .start 1 ⟨1, 1, 1⟩ (Text.ofString "bundle")),
    (queueOnly (.ok 1), .enqueueNext 1),
    (queueOnly (.ok 1), .completeFrame 1 "OK"),
    (queueOnly (.ok 1), .cancel 1),
    (queueOnly (runtimeError "FILE scheduler queue is full"), .enqueueNext 1)]

/-- The caller that tries again after a refused CANCEL gets DATA. -/
theorem not_orderly_of_refusedCancel :
    ¬ ∀ (tmFileApid spacecraftId cooldownTicks : ℕ)
      (stateCallback : U32 → TransferState → Option String → Raises Unit)
      (tmCounterAllocator : Option ℕ) (inputs : List (DownlinkEnvironment × DownlinkOp)),
      downlinkMachine.AllSteps
        (fun run input => run.LeavesAlone input ∧ (run.step input).Orderly)
        (.new tmFileApid spacecraftId cooldownTicks stateCallback tmCounterAllocator) inputs := by
  intro always
  have all := always 3 68 2 (fun _ _ _ => .ok ()) none
    (refusedCancel ++ [(queueOnly (.ok 2), .enqueueNext 1)])
  have orderly := ((downlinkMachine.allSteps_append _ _ _ _).mp all).2.1.2
  have issued : (((downlinkMachine.exec (.new 3 68 2 (fun _ _ _ => .ok ()) none)
      refusedCancel).step (queueOnly (.ok 2), .enqueueNext 1)).issued.map fun lease =>
        (lease.attemptEpoch, lease.packet.packetType)) =
          [(1, .start), (1, .cancel), (1, .data)] := by
    decide +kernel
  have order := (List.pairwise_map (f := fun lease : FrameLease =>
    (lease.attemptEpoch, lease.packet.packetType)) (R := fun earlier later =>
      earlier.1 = later.1 → earlier.2 = .cancel → later.2 ≠ .data ∧ later.2 ≠ .endOfFile)).mpr
    orderly.cancelLast
  rw [issued] at order
  revert order
  decide

end CubeNano

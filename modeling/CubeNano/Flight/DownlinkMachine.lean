import CubeNano.Flight.FileDownlink
import CubeNano.Lib.Machine

/-!
# Operations of the file downlink

Every operation of the coordinator, with what it may do to the active transfer.  A call
meets an environment of its own: the disk, the transfer callback, the counter tables of
the journal and the queue of the scheduler may differ from call to call.

## Main definitions

* `DownlinkEnvironment` — what one call meets
* `FileProgress` — how far the packets of an attempt have come
* `ActiveTransfer.SettlesTo` — cancellation, abort and cooldown
* `ActiveTransfer.completed` — the transfer after the completion of its lease
* `ActiveTransfer.draining` — the transfer whose CANCEL is being made

## Main statements

* `nextFrame_cases`, `enqueueNext_cases`, `completeFrame_cases`, `start_cases` — one lemma
  per operation, saying everything it may do
-/

namespace CubeNano

/-- What one call of the coordinator meets outside of it. -/
structure DownlinkEnvironment where
  disk : Disk
  stateCallback : U32 → TransferState → Option String → Raises Unit
  /-- The counter tables of the journal, which other telemetry draws from too. -/
  counters : TmCounterTables
  /-- What `enqueue_file` of the scheduler answers. -/
  queueAnswer : Raises ℕ

/-- The coordinator in the environment of a call. -/
def DownlinkState.within (s : DownlinkState) (env : DownlinkEnvironment) : DownlinkState :=
  { coordinator := { s.coordinator with stateCallback := env.stateCallback }
    counters := env.counters }

/-! ## The packets of an attempt -/

/-- How far the packets of an attempt have come. -/
structure FileProgress where
  nextSequence : ℕ
  nextOffset : ℕ
  closed : Bool
  deriving DecidableEq

namespace FileProgress

/-- Nothing has been sent. -/
def initial : FileProgress := ⟨0, 0, false⟩

/-- START comes first, DATA goes on where the packets before it ended, END or CANCEL
closes the file. -/
def accept (progress : FileProgress) (packet : FilePacket) : Option FileProgress :=
  if progress.closed || packet.sequenceIndex ≠ progress.nextSequence then none
  else
    match packet.packetType with
    | .start =>
        if progress.nextSequence = 0 then
          some ⟨packet.sequenceIndex + 1, progress.nextOffset, false⟩
        else none
    | .data =>
        if progress.nextSequence ≠ 0 ∧ packet.offset = progress.nextOffset then
          some ⟨packet.sequenceIndex + 1, packet.offset + packet.payload.length, false⟩
        else none
    | .endOfFile | .cancel =>
        if progress.nextSequence ≠ 0 then some ⟨packet.sequenceIndex + 1, progress.nextOffset, true⟩
        else none

/-- The progress of a list of packets, if they are in order. -/
def ofPackets (packets : List FilePacket) : Option FileProgress :=
  packets.foldlM accept initial

theorem ofPackets_concat (packets : List FilePacket) (packet : FilePacket) :
    ofPackets (packets ++ [packet]) = (ofPackets packets).bind fun progress =>
      progress.accept packet := by
  simp [ofPackets, List.foldlM_append]

end FileProgress

/-! ## What becomes of a transfer -/

/-- The progress a transfer goes on from. -/
def ActiveTransfer.progress (active : ActiveTransfer) : FileProgress :=
  ⟨active.nextFileSequence, active.nextOffset, false⟩

/-- Whether the next packet of a transfer is a CANCEL. -/
def ActiveTransfer.cancelDue (active : ActiveTransfer) (disk : Disk) : Bool :=
  active.outputGateOpen && active.state = .cancelRequested && active.nextFileSequence ≠ 0 &&
    active.nextOffset < active.bundleSize &&
      (disk active.bundlePath).any fun file => file.stamp = active.bundleStamp

theorem ActiveTransfer.cancelDue_iff {active : ActiveTransfer} {disk : Disk} :
    active.cancelDue disk = true ↔ active.outputGateOpen = true ∧
      active.state = .cancelRequested ∧ active.nextFileSequence ≠ 0 ∧
        active.nextOffset < active.bundleSize ∧ ∃ file, disk active.bundlePath = some file ∧
          file.stamp = active.bundleStamp := by
  simp only [cancelDue, Bool.and_eq_true, decide_eq_true_eq, Option.any_eq_true, and_assoc]

/-- The transfer whose CANCEL is being made. -/
def ActiveTransfer.draining (active : ActiveTransfer) : ActiveTransfer :=
  { active with state := .cancelDraining, abortReason := none.or active.abortReason }

/-- The transfer after the completion of the lease of a packet. -/
def ActiveTransfer.completed (active : ActiveTransfer) (packet : FilePacket) (status : String) :
    ActiveTransfer :=
  let active := { active with currentLease := none }
  if active.state = .aborting then active
  else if status.toUpper ∉ FileDownlinkCoordinator.successStatuses then
    { active with
      outputGateOpen := false
      terminalAfterCooldown := some .sendFailed
      state := .aborting
      abortReason := (some s!"LINK_{status}").or active.abortReason }
  else
    let active := { active with
      packetSequence := (active.packetSequence + 1) % 16384
      nextFileSequence := packet.sequenceIndex + 1 }
    match packet.packetType with
    | .start => active
    | .data => { active with nextOffset := packet.offset + packet.payload.length }
    | .endOfFile => { active with
        outputGateOpen := false
        epochClosed := true
        terminalAfterCooldown := some .sendCompleted
        state := .cooldown
        abortReason := none.or active.abortReason }
    | .cancel => { active with
        outputGateOpen := false
        epochClosed := true
        terminalAfterCooldown := some .canceled
        state := .cooldown
        abortReason := none.or active.abortReason }

section Completed

variable (active : ActiveTransfer) (packet : FilePacket) (status : String)

@[simp] theorem ActiveTransfer.completed_currentLease :
    (active.completed packet status).currentLease = none := by
  unfold completed
  dsimp only
  split
  · rfl
  split
  · rfl
  split <;> rfl

@[simp] theorem ActiveTransfer.completed_attemptEpoch :
    (active.completed packet status).attemptEpoch = active.attemptEpoch := by
  unfold completed
  dsimp only
  split
  · rfl
  split
  · rfl
  split <;> rfl

theorem ActiveTransfer.completed_terminalAfter {state : TransferState}
    (after : (active.completed packet status).terminalAfterCooldown = some state) :
    active.terminalAfterCooldown = some state ∨ state.terminal = true := by
  unfold completed at after
  dsimp only at after
  split at after
  · exact .inl after
  split at after
  · obtain rfl := Option.some.inj after
    exact .inr rfl
  split at after
  · exact .inl after
  · exact .inl after
  · obtain rfl := Option.some.inj after
    exact .inr rfl
  · obtain rfl := Option.some.inj after
    exact .inr rfl

/-- A completion that leaves the gate open was a success of START or DATA. -/
theorem ActiveTransfer.completed_open
    (open_ : (active.completed packet status).outputGateOpen = true)
    (sending : active.outputGateOpen = true → active.state ≠ .aborting) :
    active.outputGateOpen = true ∧
      status.toUpper ∈ FileDownlinkCoordinator.successStatuses ∧
        packet.packetType ≠ .cancel ∧
          (active.completed packet status).state = active.state ∧
            ∀ progress, active.progress.accept packet = some progress →
              progress = (active.completed packet status).progress := by
  unfold completed at open_ ⊢
  dsimp only at open_ ⊢
  by_cases aborting : active.state = .aborting
  · rw [if_pos aborting] at open_
    exact absurd aborting (sending open_)
  rw [if_neg aborting] at open_ ⊢
  by_cases success : status.toUpper ∉ FileDownlinkCoordinator.successStatuses
  · rw [if_pos success] at open_
    cases open_
  rw [if_neg success] at open_ ⊢
  cases type : packet.packetType with
  | start =>
      rw [type] at open_
      refine ⟨open_, not_not.mp success, nofun, rfl, fun progress accepted => ?_⟩
      unfold FileProgress.accept at accepted
      rw [type] at accepted
      split at accepted
      · cases accepted
      dsimp only at accepted
      split at accepted
      · exact (Option.some.inj accepted).symm
      · cases accepted
  | data =>
      rw [type] at open_
      refine ⟨open_, not_not.mp success, nofun, rfl, fun progress accepted => ?_⟩
      unfold FileProgress.accept at accepted
      rw [type] at accepted
      split at accepted
      · cases accepted
      dsimp only at accepted
      split at accepted
      · exact (Option.some.inj accepted).symm
      · cases accepted
  | endOfFile =>
      rw [type] at open_
      cases open_
  | cancel =>
      rw [type] at open_
      cases open_

end Completed

/-- A transfer whose START has not been made. -/
structure ActiveTransfer.Opened (active : ActiveTransfer) (epoch : ℕ) : Prop where
  attemptEpoch : active.attemptEpoch = epoch
  state : active.state = .sending
  currentLease : active.currentLease = none
  nextFileSequence : active.nextFileSequence = 0
  nextOffset : active.nextOffset = 0
  outputGateOpen : active.outputGateOpen = true
  terminalAfter : active.terminalAfterCooldown = none

/-- The lease of a transfer that a coordinator makes next. -/
structure FrameLease.Carries (lease : FrameLease) (c : FileDownlinkCoordinator)
    (active : ActiveTransfer) : Prop where
  attemptEpoch : lease.attemptEpoch = active.attemptEpoch
  leaseId : lease.leaseId = c.nextLeaseId
  transferId : lease.transferId = active.transferId

/-- The counters that `next_frame` draws. -/
def DownlinkState.nextCounters (s : DownlinkState) : Raises (Option TmFrameCounters) :=
  match s.coordinator.tmCounterAllocator with
  | none => .ok none
  | some virtualChannel =>
      (s.counters.allocateTmFrameCounters s.coordinator.tmFileApid virtualChannel).map
        fun allocated => some allocated.1

/-- The frame of a packet of a transfer. -/
def DownlinkState.packetFrame (s : DownlinkState) (active : ActiveTransfer) (packet : FilePacket) :
    Raises Bytes := do
  let counters ← s.nextCounters
  s.coordinator.encodeFrame active (encodeFilePacket packet) counters

/-- The frame of the CANCEL of a transfer. -/
def DownlinkState.cancelFrame (s : DownlinkState) (active : ActiveTransfer) : Raises Bytes := do
  let packet ← FilePacket.new .cancel active.nextFileSequence active.nextOffset
    "MISSION_CANCEL".toUTF8.toList
  s.packetFrame active packet

/-- A CANCEL that is due can be made: the callback lets the transfer drain, and the frame
of the packet can be numbered and encoded. -/
def DownlinkState.canCancel (s : DownlinkState) (active : ActiveTransfer) : Bool :=
  (s.coordinator.stateCallback active.transferId .cancelDraining none).isOk &&
    (s.cancelFrame active).isOk

/-- A transfer that waits for its next frame. -/
structure DownlinkState.Waits (s : DownlinkState) (transferId : U32) (active : ActiveTransfer) :
    Prop where
  here : s.coordinator.active = some active
  named : active.transferId = transferId
  unleased : active.currentLease = none

/-- What cancellation, abort, its fence and cooldown leave alone, and where they lead. -/
structure ActiveTransfer.SettlesTo (active after : ActiveTransfer) : Prop where
  transferId : after.transferId = active.transferId
  attemptEpoch : after.attemptEpoch = active.attemptEpoch
  currentLease : after.currentLease = active.currentLease
  nextFileSequence : after.nextFileSequence = active.nextFileSequence
  nextOffset : after.nextOffset = active.nextOffset
  terminalAfter : ∀ state, after.terminalAfterCooldown = some state →
    active.terminalAfterCooldown = some state ∨ state = .sendFailed
  moves :
    -- a cancellation request, or its CANCEL
    (after.outputGateOpen = active.outputGateOpen ∧
      (after.state = active.state ∨ active.state = .sending ∧ after.state = .cancelRequested ∨
        active.state = .cancelRequested ∧ after.state = .cancelDraining)) ∨
    -- an abort
    (after.outputGateOpen = false ∧ after.state = .aborting ∧ active.state.terminal = false) ∨
    -- the fence of an abort
    (after.outputGateOpen = active.outputGateOpen ∧ active.state = .aborting ∧
      active.currentLease = none ∧ after.state = .cooldown) ∨
    -- the end of the cooldown
    (after.outputGateOpen = active.outputGateOpen ∧ active.state = .cooldown ∧
      after.state = active.terminalAfterCooldown.getD .sendFailed)

/-- Only the active transfer has changed, and it has settled. -/
structure DownlinkState.Settles (s s' : DownlinkState) : Prop where
  nextAttemptEpoch : s'.coordinator.nextAttemptEpoch = s.coordinator.nextAttemptEpoch
  nextLeaseId : s'.coordinator.nextLeaseId = s.coordinator.nextLeaseId
  active : s'.coordinator.active = s.coordinator.active ∨ ∃ active after,
    s.coordinator.active = some active ∧ s'.coordinator.active = some after ∧
      active.SettlesTo after

/-- A transfer that sets out to cancel. -/
theorem ActiveTransfer.settlesTo_draining {active : ActiveTransfer}
    (requested : active.state = .cancelRequested) : active.SettlesTo active.draining :=
  ⟨rfl, rfl, rfl, rfl, rfl, fun _ after => .inl after, .inl ⟨rfl, .inr (.inr ⟨requested, rfl⟩)⟩⟩

theorem DownlinkState.Settles.of_coordinator_eq {s t : DownlinkState}
    (same : t.coordinator = s.coordinator) : s.Settles t :=
  ⟨by rw [same], by rw [same], .inl (by rw [same])⟩

theorem DownlinkState.Settles.refl (s : DownlinkState) : s.Settles s := ⟨rfl, rfl, .inl rfl⟩

/-- The active transfer is another. -/
def DownlinkState.withActive (s : DownlinkState) (active : ActiveTransfer) : DownlinkState :=
  { s with coordinator := { s.coordinator with active := some active } }

namespace FileDownlinkCoordinator

open Effect

/-! ## Transitions -/

theorem activeFor_eq_ok_iff {c : FileDownlinkCoordinator} {transferId : U32}
    {active : ActiveTransfer} :
    c.activeFor transferId = .ok active ↔
      c.active = some active ∧ active.transferId = transferId := by
  unfold activeFor
  cases c.active with
  | none => simp [runtimeError]
  | some other =>
      by_cases same : other.transferId = transferId
      · simp only [same, ne_eq, not_true_eq_false, if_false, Except.ok.injEq, Option.some.injEq]
        constructor
        · rintro rfl
          exact ⟨rfl, same⟩
        · exact fun h => h.1
      · simp only [ne_eq, same, not_false_eq_true, if_true, Option.some.injEq, runtimeError]
        constructor
        · intro h
          cases h
        · rintro ⟨rfl, h⟩
          exact absurd h same

theorem setActive_bind {α : Type} (active : ActiveTransfer) (rest : Unit → DownlinkProgram α)
    (s : DownlinkState) : (setActive active >>= rest) s = rest () (s.withActive active) := rfl

/-- A transition puts the active transfer into its state, whether the callback raises
or not. -/
theorem transition_eq (active : ActiveTransfer) (state : TransferState) (reason : Option String)
    (s : DownlinkState) :
    transition active state reason s =
      match s.coordinator.stateCallback active.transferId state reason with
      | .ok () => .ok { active with state := state, abortReason := reason.or active.abortReason }
          (s.withActive { active with state := state, abortReason := reason.or active.abortReason })
      | .error failure => .error failure
          (s.withActive { active with
            state := state, abortReason := reason.or active.abortReason }) := by
  show EStateM.bind (liftRaises (s.coordinator.stateCallback active.transferId state reason))
    (fun _ => pure _) (s.withActive _) = _
  unfold EStateM.bind
  cases s.coordinator.stateCallback active.transferId state reason <;> rfl

theorem finalState_transition (active : ActiveTransfer) (state : TransferState)
    (reason : Option String) (s : DownlinkState) :
    finalState (transition active state reason s) =
      s.withActive { active with state := state, abortReason := reason.or active.abortReason } := by
  rw [transition_eq]
  cases s.coordinator.stateCallback active.transferId state reason <;> rfl

/-! ## Cancellation, abort and cooldown -/

/-- A method that looks its transfer up, raising in the state it was called in. -/
theorem activeFor_bind {α : Type} (transferId : U32) (rest : DownlinkState → ActiveTransfer →
    DownlinkProgram α) (s : DownlinkState) {P : DownlinkState → Prop} (same : P s)
    (found : ∀ active, s.coordinator.active = some active → active.transferId = transferId →
      P (finalState (rest s active s))) :
    P (finalState ((do
      let s ← get
      let active ← liftRaises (s.coordinator.activeFor transferId)
      rest s active : DownlinkProgram α) s)) := by
  show P (finalState ((liftRaises (s.coordinator.activeFor transferId) >>= rest s) s))
  cases lookup : s.coordinator.activeFor transferId with
  | error failure =>
      rw [liftRaises_bind_of_error rfl]
      exact same
  | ok active =>
      rw [liftRaises_bind_of_ok rfl]
      obtain ⟨here, named⟩ := activeFor_eq_ok_iff.mp lookup
      exact found active here named

theorem beginAbort_settles (transferId : U32) (reason : String) (s : DownlinkState) :
    s.Settles (finalState (beginAbort transferId reason s)) := by
  unfold beginAbort
  refine activeFor_bind transferId _ s (P := s.Settles) (.refl s) fun active here _ => ?_
  by_cases terminal : active.state.terminal
  · rw [if_pos terminal]
    exact .refl s
  · rw [if_neg terminal, finalState_bind_pure, finalState_transition]
    refine ⟨rfl, rfl, .inr ⟨active, _, here, rfl, rfl, rfl, rfl, rfl, rfl, fun state after => ?_,
      .inr (.inl ⟨rfl, rfl, Bool.not_eq_true _ ▸ terminal⟩)⟩⟩
    exact .inr (Option.some.inj after).symm

theorem closeAbortFence_settles (transferId : U32) (s : DownlinkState) :
    s.Settles (finalState (closeAbortFence transferId s)) := by
  unfold closeAbortFence
  refine activeFor_bind transferId _ s (P := s.Settles) (.refl s) fun active here _ => ?_
  by_cases aborting : active.state ≠ .aborting
  · rw [if_pos aborting]
    exact .refl s
  rw [if_neg aborting]
  by_cases leased : active.currentLease.isSome
  · rw [if_pos leased]
    exact .refl s
  · rw [if_neg leased, finalState_bind_pure, finalState_transition]
    exact ⟨rfl, rfl, .inr ⟨active, _, here, rfl, rfl, rfl, rfl, rfl, rfl,
      fun state after => .inl after,
      .inr (.inr (.inl ⟨rfl, not_not.mp aborting, Option.not_isSome_iff_eq_none.mp leased, rfl⟩))⟩⟩

theorem cancel_settles (transferId : U32) (s : DownlinkState) :
    s.Settles (finalState (cancel transferId s)) := by
  unfold cancel
  refine activeFor_bind transferId _ s (P := s.Settles) (.refl s) fun active here _ => ?_
  by_cases terminal : active.state.terminal
  · rw [if_pos terminal]
    exact .refl s
  rw [if_neg terminal]
  by_cases closing : active.state = .aborting ∨ active.state = .cooldown ∨
      active.state = .cancelDraining
  · rw [if_pos closing]
    exact .refl s
  rw [if_neg closing]
  by_cases sending : active.state = .sending
  · rw [if_pos sending, finalState_bind_pure, finalState_transition]
    exact ⟨rfl, rfl, .inr ⟨active, _, here, rfl, rfl, rfl, rfl, rfl, rfl,
      fun state after => .inl after,
      .inl ⟨rfl, .inr (.inl ⟨sending, rfl⟩)⟩⟩⟩
  · rw [if_neg sending]
    exact .refl s

theorem cooldownTick_settles (transferId : U32) (s : DownlinkState) :
    s.Settles (finalState (cooldownTick transferId s)) := by
  unfold cooldownTick
  refine activeFor_bind transferId _ s (P := s.Settles) (.refl s) fun active here _ => ?_
  by_cases cooling : active.state ≠ .cooldown
  · rw [if_pos cooling]
    exact .refl s
  rw [if_neg cooling]
  by_cases closed : !active.epochClosed
  · rw [if_pos closed]
    exact .refl s
  rw [if_neg closed]
  have cooling := not_not.mp cooling
  show s.Settles (finalState ((if _ then _ else _ : DownlinkProgram TransferState)
    (s.withActive { active with cooldownTicks := active.cooldownTicks + 1 })))
  by_cases enough : active.cooldownTicks + 1 ≥ s.coordinator.requiredCooldownTicks
  · rw [if_pos enough]
    set ticked : ActiveTransfer := { active with cooldownTicks := active.cooldownTicks + 1 }
    have moved (reason : Option String) : active.SettlesTo { ticked with
        state := active.terminalAfterCooldown.getD .sendFailed, abortReason := reason } :=
      ⟨rfl, rfl, rfl, rfl, rfl, fun state after => .inl after,
        .inr (.inr (.inr ⟨rfl, cooling, rfl⟩))⟩
    cases result : transition ticked (ticked.terminalAfterCooldown.getD .sendFailed)
        ticked.abortReason (s.withActive ticked) with
    | error failure t =>
        rw [bind_of_error result]
        have reached := finalState_transition ticked
          (ticked.terminalAfterCooldown.getD .sendFailed) ticked.abortReason (s.withActive ticked)
        rw [result] at reached
        rw [finalState_error] at reached ⊢
        rw [reached]
        exact ⟨rfl, rfl, .inr ⟨active, _, here, rfl, moved _⟩⟩
    | ok after t =>
        rw [bind_of_ok result]
        have reached := finalState_transition ticked
          (ticked.terminalAfterCooldown.getD .sendFailed) ticked.abortReason (s.withActive ticked)
        rw [result, finalState_ok] at reached
        subst reached
        exact ⟨rfl, rfl, .inr ⟨active, _, here, rfl, moved _⟩⟩
  · rw [if_neg enough]
    exact ⟨rfl, rfl, .inr ⟨active, _, here, rfl, rfl, rfl, rfl, rfl, rfl,
      fun state after => .inl after,
      .inl ⟨rfl, .inl rfl⟩⟩⟩

/-! ## Start -/

theorem openTransfer_eq_ok {c : FileDownlinkCoordinator} {disk : Disk} {transferId : U32}
    {productRef : ProductRef} {path : Text} {active : ActiveTransfer}
    (opened : c.openTransfer disk transferId productRef path = .ok active) :
    (∀ before, c.active = some before → before.state.terminal = true) ∧
      active.Opened c.nextAttemptEpoch := by
  unfold openTransfer at opened
  split at opened
  · cases opened
  rename_i idle
  split at opened
  · cases opened
  split at opened
  · cases opened
  dsimp only at opened
  split at opened
  · cases opened
  split at opened
  · cases opened
  cases opened
  refine ⟨fun before here => ?_, rfl, rfl, rfl, rfl, rfl, rfl, rfl⟩
  rw [here] at idle
  simpa using idle

/-- A start fails before it changes anything, or opens a transfer where none was under
way. -/
theorem start_cases (disk : Disk) (transferId : U32) (productRef : ProductRef) (path : Text)
    (s : DownlinkState) :
    finalState (start disk transferId productRef path s) = s ∨
      (∀ before, s.coordinator.active = some before → before.state.terminal = true) ∧
      ∃ active, active.Opened s.coordinator.nextAttemptEpoch ∧
        finalState (start disk transferId productRef path s) =
          { s with
            coordinator := { s.coordinator with
              nextAttemptEpoch := s.coordinator.nextAttemptEpoch + 1
              active := some active } } := by
  unfold start
  rw [get_bind]
  cases opened : s.coordinator.openTransfer disk transferId productRef path with
  | error failure =>
      rw [liftRaises_bind_of_error rfl]
      exact .inl rfl
  | ok active =>
      obtain ⟨idle, fresh⟩ := openTransfer_eq_ok opened
      refine .inr ⟨idle, { active with
        state := .sending, abortReason := none.or active.abortReason },
        ⟨fresh.attemptEpoch, rfl, fresh.currentLease, fresh.nextFileSequence, fresh.nextOffset,
          fresh.outputGateOpen, fresh.terminalAfter⟩, ?_⟩
      rw [liftRaises_bind_of_ok rfl, modify_bind, finalState_transition]
      rfl

/-! ## Completion -/

/-- A completion is for the lease of the active transfer. -/
def Takes (s : DownlinkState) (lease : FrameLease) (active : ActiveTransfer) : Prop :=
  s.coordinator.active = some active ∧ active.attemptEpoch = lease.attemptEpoch ∧
    active.transferId = lease.transferId ∧
      active.currentLease.map FrameLease.leaseId = some lease.leaseId

theorem finalState_advanceTransfer (active : ActiveTransfer) (packet : FilePacket)
    (status : String) (s : DownlinkState) (unleased : active.currentLease = none)
    (sending : active.state ≠ .aborting) (success : status.toUpper ∈ successStatuses) :
    finalState (advanceTransfer active packet s) =
      s.withActive (active.completed packet status) := by
  obtain ⟨⟩ := active
  cases unleased
  unfold advanceTransfer ActiveTransfer.completed
  rw [if_neg sending, if_neg (not_not.mpr success)]
  cases packet.packetType with
  | start => rfl
  | data => rfl
  | endOfFile =>
      rw [finalState_bind_pure, finalState_transition]
  | cancel =>
      rw [finalState_bind_pure, finalState_transition]

theorem bind_pure_ne_ok {α β : Type} {a b : α} (differs : b ≠ a) (x : DownlinkProgram β)
    (s : DownlinkState) (t : DownlinkState) : (x >>= fun _ => pure b) s ≠ .ok a t := by
  intro same
  obtain ⟨_, _, -, rest⟩ := Effect.bind_eq_ok_iff.mp same
  cases rest
  exact differs rfl

/-- A completion that is not for the current lease changes nothing; one that is completes
the transfer's lease, whether the callback raises or not. -/
theorem completeFrame_cases (lease : FrameLease) (status : String) (s : DownlinkState) :
    (completeFrame lease status s = .ok false s ∧ ∀ active, ¬ Takes s lease active) ∨
      ∃ active, Takes s lease active ∧ (∀ t, completeFrame lease status s ≠ .ok false t) ∧
        finalState (completeFrame lease status s) =
          s.withActive (active.completed lease.packet status) := by
  unfold completeFrame
  rw [get_bind]
  cases here : s.coordinator.active with
  | none => exact .inl ⟨rfl, fun active takes => by rw [takes.1] at here; cases here⟩
  | some active =>
      have only {other : ActiveTransfer} (takes : Takes s lease other) : other = active :=
        Option.some.inj (takes.1.symm.trans here)
      dsimp only
      by_cases late : active.attemptEpoch ≠ lease.attemptEpoch ∨
          active.transferId ≠ lease.transferId
      · rw [if_pos late]
        refine .inl ⟨rfl, fun other takes => ?_⟩
        obtain rfl := only takes
        rcases late with differs | differs
        · exact differs takes.2.1
        · exact differs takes.2.2.1
      rw [if_neg late]
      obtain ⟨sameEpoch, sameTransfer⟩ := not_or.mp late
      cases leased : active.currentLease with
      | none =>
          refine .inl ⟨rfl, fun other takes => ?_⟩
          obtain rfl := only takes
          rw [Takes, leased] at takes
          cases takes.2.2.2
      | some current =>
          dsimp only
          by_cases differs : current.leaseId ≠ lease.leaseId
          · rw [if_pos differs]
            refine .inl ⟨rfl, fun other takes => ?_⟩
            obtain rfl := only takes
            rw [Takes, leased] at takes
            exact differs (Option.some.inj takes.2.2.2)
          rw [if_neg differs]
          refine .inr ⟨active, ⟨here, not_not.mp sameEpoch, not_not.mp sameTransfer, ?_⟩, ?_⟩
          · rw [leased]
            exact congrArg some (not_not.mp differs)
          set released : ActiveTransfer := { active with currentLease := none }
          rw [setActive_bind]
          by_cases aborting : released.state = .aborting
          · rw [if_pos aborting]
            refine ⟨fun t same => (nomatch same), ?_⟩
            show s.withActive released = _
            unfold ActiveTransfer.completed
            rw [if_pos aborting]
          rw [if_neg aborting]
          by_cases success : status.toUpper ∉ successStatuses
          · rw [if_pos success, finalState_bind_pure, finalState_transition]
            refine ⟨bind_pure_ne_ok (Bool.false_ne_true ∘ Eq.symm) _ _, ?_⟩
            unfold ActiveTransfer.completed
            rw [if_neg aborting, if_pos success]
            rfl
          · rw [if_neg success, finalState_bind_pure,
              finalState_advanceTransfer released lease.packet status _ rfl aborting
                (not_not.mp success)]
            exact ⟨bind_pure_ne_ok (Bool.false_ne_true ∘ Eq.symm) _ _, rfl⟩

/-! ## The next frame -/

/-- The packets a transfer sends next, unless a CANCEL is due. -/
structure Sends (active : ActiveTransfer) (packet : FilePacket) : Prop where
  gate : active.outputGateOpen = true
  accepted : (active.progress.accept packet).isSome
  notCancel : packet.packetType ≠ .cancel

/-- What `_next_packet` does: nothing, fail, offer a packet, or set out to cancel. -/
theorem nextPacket_cases (disk : Disk) (active : ActiveTransfer) (s : DownlinkState) :
    (∃ failure, nextPacket disk active s = .error failure s ∧ active.cancelDue disk = false) ∨
    (nextPacket disk active s = .ok (none, active) s ∧ active.cancelDue disk = false) ∨
    (∃ packet, nextPacket disk active s = .ok (some packet, active) s ∧
      Sends active packet ∧ active.cancelDue disk = false) ∨
    (active.cancelDue disk = true ∧ nextPacket disk active s =
      (do
        let active ← transition active .cancelDraining none
        let packet ← liftRaises (FilePacket.new .cancel active.nextFileSequence active.nextOffset
          "MISSION_CANCEL".toUTF8.toList)
        pure (some packet, active) : DownlinkProgram (Option FilePacket × ActiveTransfer)) s) := by
  have notDue (condition : active.cancelDue disk = true → False) :
      active.cancelDue disk = false := Bool.eq_false_iff.mpr condition
  unfold nextPacket
  by_cases stopped : (!active.outputGateOpen || active.state = .aborting ||
      active.state = .cooldown || active.state.terminal) = true
  · rw [if_pos stopped]
    refine .inr (.inl ⟨rfl, notDue fun due => ?_⟩)
    obtain ⟨gate, requested, -⟩ := ActiveTransfer.cancelDue_iff.mp due
    simp [gate, requested, TransferState.terminal] at stopped
  rw [if_neg stopped]
  have gate : active.outputGateOpen = true := by
    cases open_ : active.outputGateOpen with
    | false => simp [open_] at stopped
    | true => rfl
  cases found : disk active.bundlePath with
  | none =>
      have missing : disk.open active.bundlePath =
          .error ⟨.osError, "No such file or directory"⟩ := by rw [Disk.open, found]
      rw [liftRaises_bind_of_error missing]
      refine .inl ⟨_, rfl, notDue fun due => ?_⟩
      obtain ⟨-, -, -, -, file, here, -⟩ := ActiveTransfer.cancelDue_iff.mp due
      rw [here] at found
      cases found
  | some file =>
      have present : disk.open active.bundlePath = .ok file := by rw [Disk.open, found]
      rw [liftRaises_bind_of_ok present]
      by_cases mutated : file.stamp ≠ active.bundleStamp
      · rw [if_pos mutated]
        refine .inl ⟨_, rfl, notDue fun due => ?_⟩
        obtain ⟨-, -, -, -, other, here, same⟩ := ActiveTransfer.cancelDue_iff.mp due
        rw [found] at here
        cases here
        exact mutated same
      rw [if_neg mutated]
      by_cases first : active.nextFileSequence = 0
      · have fine : active.cancelDue disk = false :=
          notDue fun due => (ActiveTransfer.cancelDue_iff.mp due).2.2.1 first
        rw [if_pos first]
        cases made : startPacket active with
        | error failure =>
            rw [liftRaises_bind_of_error rfl]
            exact .inl ⟨_, rfl, fine⟩
        | ok packet =>
            rw [liftRaises_bind_of_ok rfl]
            obtain ⟨metadata, -, built⟩ := CubeNano.bind_eq_ok_iff.mp made
            obtain ⟨type, sequence, -, -⟩ := FilePacket.new_eq_ok built
            refine .inr (.inr (.inl ⟨packet, rfl, ⟨gate, ?_, ?_⟩, fine⟩))
            · simp [FileProgress.accept, ActiveTransfer.progress, type, sequence, first]
            · rw [type]
              exact nofun
      rw [if_neg first]
      by_cases canceling : active.state = .cancelRequested ∧ active.nextOffset < active.bundleSize
      · rw [if_pos canceling]
        exact .inr (.inr (.inr ⟨ActiveTransfer.cancelDue_iff.mpr ⟨gate, canceling.1, first,
          canceling.2, file, found, not_not.mp mutated⟩, rfl⟩))
      have fine : active.cancelDue disk = false := notDue fun due =>
        have due := ActiveTransfer.cancelDue_iff.mp due
        canceling ⟨due.2.1, due.2.2.2.1⟩
      rw [if_neg canceling]
      by_cases more : active.nextOffset < active.bundleSize
      · rw [if_pos more]
        cases read : readData disk active with
        | error failure =>
            rw [liftRaises_bind_of_error rfl]
            exact .inl ⟨_, rfl, fine⟩
        | ok payload =>
            rw [liftRaises_bind_of_ok rfl]
            cases made : FilePacket.new .data active.nextFileSequence active.nextOffset payload with
            | error failure =>
                rw [liftRaises_bind_of_error rfl]
                exact .inl ⟨_, rfl, fine⟩
            | ok packet =>
                rw [liftRaises_bind_of_ok rfl]
                obtain ⟨type, sequence, offset, -⟩ := FilePacket.new_eq_ok made
                refine .inr (.inr (.inl ⟨packet, rfl, ⟨gate, ?_, ?_⟩, fine⟩))
                · simp [FileProgress.accept, ActiveTransfer.progress, type, sequence, offset, first]
                · rw [type]
                  exact nofun
      · rw [if_neg more]
        cases made : FilePacket.new .endOfFile active.nextFileSequence active.bundleSize
            (toBytesBE 4 active.bundleChecksum) with
        | error failure =>
            rw [liftRaises_bind_of_error rfl]
            exact .inl ⟨_, rfl, fine⟩
        | ok packet =>
            rw [liftRaises_bind_of_ok rfl]
            obtain ⟨type, sequence, -, -⟩ := FilePacket.new_eq_ok made
            refine .inr (.inr (.inl ⟨packet, rfl, ⟨gate, ?_, ?_⟩, fine⟩))
            · simp [FileProgress.accept, ActiveTransfer.progress, type, sequence, first]
            · rw [type]
              exact nofun

theorem allocateCounters_cases (s : DownlinkState) :
    (∃ failure, s.nextCounters = .error failure ∧ allocateCounters s = .error failure s) ∨
      ∃ counters tables, s.nextCounters = .ok counters ∧
        allocateCounters s = .ok counters { s with counters := tables } := by
  unfold allocateCounters DownlinkState.nextCounters
  rw [get_bind]
  cases s.coordinator.tmCounterAllocator with
  | none => exact .inr ⟨none, s.counters, rfl, rfl⟩
  | some virtualChannel =>
      dsimp only
      cases s.counters.allocateTmFrameCounters s.coordinator.tmFileApid virtualChannel with
      | error failure => exact .inl ⟨failure, rfl, rfl⟩
      | ok allocated => exact .inr ⟨some allocated.1, allocated.2, rfl, rfl⟩

/-- The transfer has got its next lease. -/
def leasing (c : FileDownlinkCoordinator) (active : ActiveTransfer) (lease : FrameLease) :
    FileDownlinkCoordinator :=
  { c with
    nextLeaseId := c.nextLeaseId + 1
    active := some { active with currentLease := some lease } }

/-- `next_frame` once it has a packet. -/
def leasePacket (packet : FilePacket) (active : ActiveTransfer) :
    DownlinkProgram (Option FrameLease) := do
  let counters ← allocateCounters
  let s ← get
  let frame ← liftRaises (s.coordinator.encodeFrame active (encodeFilePacket packet) counters)
  let lease : FrameLease := ⟨active.attemptEpoch, s.coordinator.nextLeaseId,
    active.transferId, packet, frame, counters.map TmFrameCounters.master⟩
  set { s with
    coordinator := { s.coordinator with
      nextLeaseId := s.coordinator.nextLeaseId + 1
      active := some { active with currentLease := some lease } } }
  pure (some lease)

/-- `next_frame` once it has asked for a packet. -/
def leaseNext : Option FilePacket × ActiveTransfer → DownlinkProgram (Option FrameLease)
  | (none, _) => pure none
  | (some packet, active) => leasePacket packet active

theorem leasePacket_cases (packet : FilePacket) (active : ActiveTransfer) (s : DownlinkState) :
    (∃ failure t, leasePacket packet active s = .error failure t ∧ t.coordinator = s.coordinator ∧
      ∀ frame, s.packetFrame active packet ≠ .ok frame) ∨
    ∃ lease t frame, leasePacket packet active s = .ok (some lease) t ∧
      s.packetFrame active packet = .ok frame ∧ lease.Carries s.coordinator active ∧
        lease.packet = packet ∧ t.coordinator = s.coordinator.leasing active lease := by
  unfold leasePacket DownlinkState.packetFrame
  rcases allocateCounters_cases s with
    ⟨failure, next, allocated⟩ | ⟨counters, tables, next, allocated⟩
  · rw [bind_of_error allocated, next]
    exact .inl ⟨failure, s, rfl, rfl, fun frame made => nomatch made⟩
  · rw [bind_of_ok allocated, get_bind, next]
    dsimp only
    cases encoded : s.coordinator.encodeFrame active (encodeFilePacket packet) counters with
    | error failure =>
        rw [liftRaises_bind_of_error rfl]
        refine .inl ⟨failure, _, rfl, rfl, fun frame made => ?_⟩
        exact absurd (encoded.symm.trans made) nofun
    | ok frame =>
        rw [liftRaises_bind_of_ok rfl]
        exact .inr ⟨_, _, frame, rfl, encoded, ⟨rfl, rfl, rfl⟩, rfl, rfl⟩

theorem packetFrame_draining (s : DownlinkState) (active : ActiveTransfer) (packet : FilePacket) :
    (s.withActive active.draining).packetFrame active.draining packet =
      s.packetFrame active packet := by
  unfold DownlinkState.packetFrame
  show s.nextCounters >>= _ = s.nextCounters >>= _
  refine congrArg (s.nextCounters >>= ·) (funext fun counters => ?_)
  cases counters with
  | none => rfl
  | some counters => rfl

/-- The transition to a CANCEL and the packet itself. -/
theorem cancelPacket_cases (active : ActiveTransfer) (s : DownlinkState) :
    let program : DownlinkProgram (Option FilePacket × ActiveTransfer) := do
      let active ← transition active .cancelDraining none
      let packet ← liftRaises (FilePacket.new .cancel active.nextFileSequence active.nextOffset
        "MISSION_CANCEL".toUTF8.toList)
      pure (some packet, active)
    (∃ failure, program s = .error failure (s.withActive active.draining) ∧
      s.canCancel active = false) ∨
    ∃ packet, program s = .ok (some packet, active.draining) (s.withActive active.draining) ∧
      packet.packetType = .cancel ∧
      (active.nextFileSequence ≠ 0 → (active.progress.accept packet).isSome) ∧
      s.coordinator.stateCallback active.transferId .cancelDraining none = .ok () ∧
      s.cancelFrame active = s.packetFrame active packet := by
  intro program
  have transitioned := transition_eq active .cancelDraining none s
  cases called : s.coordinator.stateCallback active.transferId .cancelDraining none with
  | error failure =>
      rw [called] at transitioned
      refine .inl ⟨failure, bind_of_error transitioned, ?_⟩
      rw [DownlinkState.canCancel, called]
      rfl
  | ok returned =>
      rw [called] at transitioned
      have run : program s = ((liftRaises (FilePacket.new .cancel active.nextFileSequence
          active.nextOffset "MISSION_CANCEL".toUTF8.toList) : DownlinkProgram FilePacket) >>=
            fun packet => pure (some packet, active.draining)) (s.withActive active.draining) :=
        bind_of_ok transitioned
      rw [run]
      cases built : FilePacket.new .cancel active.nextFileSequence active.nextOffset
          "MISSION_CANCEL".toUTF8.toList with
      | error failure =>
          refine .inl ⟨failure, rfl, ?_⟩
          rw [DownlinkState.canCancel, DownlinkState.cancelFrame, built]
          exact Bool.and_false _
      | ok packet =>
          obtain ⟨type, sequence, -, -⟩ := FilePacket.new_eq_ok built
          refine .inr ⟨packet, rfl, type, fun begun => ?_, rfl, ?_⟩
          · simp [FileProgress.accept, ActiveTransfer.progress, type, sequence, begun]
          · rw [DownlinkState.cancelFrame, built]
            rfl

/-- **Everything `next_frame` can do.** -/
inductive NextFrame (disk : Disk) (transferId : U32) (s : DownlinkState) :
    EStateM.Result PyException DownlinkState (Option FrameLease) → Prop
  /-- There is no frame, or it cannot be made. -/
  | nothing (result : EStateM.Result PyException DownlinkState (Option FrameLease))
      (same : (finalState result).coordinator = s.coordinator)
      (noLease : ∀ lease t, result ≠ .ok (some lease) t)
      (notDue : ∀ active, s.Waits transferId active → active.cancelDue disk = false) :
      NextFrame disk transferId s result
  /-- The next packet of the file is leased. -/
  | sends (active : ActiveTransfer) (lease : FrameLease) (t : DownlinkState)
      (waits : s.Waits transferId active) (notDue : active.cancelDue disk = false)
      (sends : Sends active lease.packet) (carries : lease.Carries s.coordinator active)
      (leased : t.coordinator = s.coordinator.leasing active lease) :
      NextFrame disk transferId s (.ok (some lease) t)
  /-- A CANCEL is due but cannot be made; the transfer drains nevertheless. -/
  | stuck (active : ActiveTransfer) (failure : PyException) (t : DownlinkState)
      (waits : s.Waits transferId active) (due : active.cancelDue disk = true)
      (cannot : s.canCancel active = false)
      (drains : t.coordinator = (s.withActive active.draining).coordinator) :
      NextFrame disk transferId s (.error failure t)
  /-- The CANCEL is leased. -/
  | cancels (active : ActiveTransfer) (lease : FrameLease) (t : DownlinkState)
      (waits : s.Waits transferId active) (due : active.cancelDue disk = true)
      (can : s.canCancel active = true) (isCancel : lease.packet.packetType = .cancel)
      (accepted : (active.progress.accept lease.packet).isSome)
      (carries : lease.Carries s.coordinator active)
      (leased : t.coordinator = s.coordinator.leasing active.draining lease) :
      NextFrame disk transferId s (.ok (some lease) t)

theorem nextFrame_cases (disk : Disk) (transferId : U32) (s : DownlinkState) :
    NextFrame disk transferId s (nextFrame disk transferId s) := by
  have nextFrame_eq : nextFrame disk transferId = (do
      let s ← get
      let active ← liftRaises (s.coordinator.activeFor transferId)
      if active.currentLease.isSome then liftRaises (runtimeError "FRAME_IN_FLIGHT")
      else nextPacket disk active >>= leaseNext) := rfl
  rw [nextFrame_eq, get_bind]
  cases lookup : s.coordinator.activeFor transferId with
  | error failure =>
      rw [liftRaises_bind_of_error rfl]
      refine .nothing _ rfl (fun lease t same => nomatch same) fun active waits => ?_
      rw [activeFor_eq_ok_iff.mpr ⟨waits.here, waits.named⟩] at lookup
      cases lookup
  | ok active =>
      obtain ⟨here, named⟩ := activeFor_eq_ok_iff.mp lookup
      rw [liftRaises_bind_of_ok rfl]
      have only {other : ActiveTransfer} (waits : s.Waits transferId other) : other = active :=
        Option.some.inj (waits.here.symm.trans here)
      by_cases leased : active.currentLease.isSome
      · rw [if_pos leased]
        refine .nothing _ rfl (fun lease t same => nomatch same) fun other waits => ?_
        rw [← only waits, waits.unleased] at leased
        cases leased
      rw [if_neg leased]
      have waits : s.Waits transferId active :=
        ⟨here, named, Option.not_isSome_iff_eq_none.mp leased⟩
      rcases nextPacket_cases disk active s with ⟨failure, raised, notDue⟩ | ⟨none_, notDue⟩ |
        ⟨packet, offered, sends, notDue⟩ | ⟨due, cancel⟩
      · rw [bind_of_error raised]
        exact .nothing _ rfl (fun lease t same => nomatch same) fun other waits =>
          only waits ▸ notDue
      · rw [bind_of_ok none_]
        exact .nothing _ rfl (fun lease t same => nomatch same) fun other waits =>
          only waits ▸ notDue
      · rw [bind_of_ok offered, leaseNext]
        rcases leasePacket_cases packet active s with ⟨failure, t, raised, same, -⟩ |
          ⟨lease, t, frame, returned, -, carries, carried, leased⟩
        · rw [raised]
          exact .nothing _ same (fun lease t same => nomatch same) fun other waits =>
            only waits ▸ notDue
        · rw [returned]
          exact .sends active lease t waits notDue (carried ▸ sends) carries leased
      · rcases cancelPacket_cases active s with ⟨failure, raised, cannot⟩ |
          ⟨packet, offered, isCancel, accepted, called, made⟩
        · rw [bind_of_error (cancel.trans raised)]
          exact .stuck active failure _ waits due cannot rfl
        · rw [bind_of_ok (cancel.trans offered), leaseNext]
          rcases leasePacket_cases packet active.draining (s.withActive active.draining) with
            ⟨failure, t, raised, same, noFrame⟩ |
            ⟨lease, t, frame, returned, hasFrame, carries, carried, leased⟩
          · rw [raised]
            refine .stuck active failure t waits due ?_ same
            unfold DownlinkState.canCancel
            rw [Bool.and_eq_false_iff]
            refine .inr ?_
            rw [made, ← packetFrame_draining]
            cases encoded : (s.withActive active.draining).packetFrame active.draining packet with
            | error failure => rfl
            | ok frame => exact absurd encoded (noFrame frame)
          · rw [returned]
            refine .cancels active lease t waits due ?_ (carried ▸ isCancel)
              (carried ▸ accepted (ActiveTransfer.cancelDue_iff.mp due).2.2.1)
              ⟨carries.attemptEpoch, carries.leaseId, carries.transferId⟩ leased
            unfold DownlinkState.canCancel
            rw [made, ← packetFrame_draining, hasFrame, called]
            rfl

/-! ## Queueing the next frame -/

theorem finalState_dropLease {active : ActiveTransfer} {lease : FrameLease} {s t : DownlinkState}
    (leased : t.coordinator = s.coordinator.leasing active lease)
    (unleased : active.currentLease = none) :
    (finalState (dropLease lease t)).coordinator =
      { s.coordinator with
        nextLeaseId := s.coordinator.nextLeaseId + 1, active := some active } := by
  unfold dropLease
  rw [get_bind, leased]
  show (finalState ((if some lease = some lease then _ else _ : DownlinkProgram Unit)
    t)).coordinator = _
  rw [if_pos rfl]
  show { t.coordinator with active := some { active with currentLease := none } } = _
  obtain ⟨⟩ := active
  cases unleased
  rw [leased]
  rfl

theorem dropLease_returns (lease : FrameLease) (t : DownlinkState) :
    dropLease lease t = .ok () (finalState (dropLease lease t)) := by
  unfold dropLease
  rw [get_bind]
  cases t.coordinator.active with
  | none => rfl
  | some active =>
      dsimp only
      split
      · rfl
      · rfl

/-- `enqueue_next` does what `next_frame` does, and gives a frame up that the queue
refuses. -/
theorem enqueueNext_eq (disk : Disk) (enqueueFile : Bytes → Option ℕ → Raises ℕ) (transferId : U32)
    (s : DownlinkState) : enqueueNext disk enqueueFile transferId s =
      match nextFrame disk transferId s with
      | .error failure t => .error failure t
      | .ok none t => .ok none t
      | .ok (some lease) t =>
          match enqueueFile lease.frame lease.orderingKey with
          | .ok item => .ok (some item) t
          | .error failure => .error failure (finalState (dropLease lease t)) := by
  unfold enqueueNext
  cases result : nextFrame disk transferId s with
  | error failure t => exact bind_of_error result
  | ok lease? t =>
      rw [bind_of_ok result]
      cases lease? with
      | none => rfl
      | some lease =>
          dsimp only
          cases enqueueFile lease.frame lease.orderingKey with
          | ok item => rfl
          | error failure =>
              dsimp only
              rw [bind_of_ok (dropLease_returns lease t)]
              rfl

end FileDownlinkCoordinator

end CubeNano

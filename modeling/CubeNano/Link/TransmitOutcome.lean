import CubeNano.Link.MissionLinkReset

/-!
# The outcome of `transmit`

Up to two copies of a frame report into one record.  What `transmit` makes of it agrees with what
the receiver did as long as no copy is refused and the last one is accepted, and the frame passes
the gates of the simulator.

## Main definitions

* `MissionLink.OutcomeFollowsReceiver` — a call returns exactly if the receiver accepted a copy
* `MissionLink.CopiesAgree` — the condition under which it does

## Main statements

* `MissionLink.transmit_returns_iff_of_ready` — when a call on a ready link returns
* `MissionLink.outcomeFollowsReceiver_iff` — a call returns exactly if the receiver accepted a
  copy, exactly if its copies agree
* `MissionLink.not_outcomeFollowsReceiver_of_duplicate` — a refused duplicate of an accepted frame
-/

namespace CubeNano

open Effect

namespace MissionLink

variable {ρ : Type}

/-- The copies that `transmit` hands to the transport. -/
def handedOver (l : MissionLink ρ) (call : TransmitCall ρ) : List ScheduledDelivery :=
  (finalState (transmitFrame call.attached call.frame call.direction call.receiver call.queueKind
    l)).simulator.delivered.drop l.simulator.delivered.length

/-- Whether the transport takes a copy and the receiver returns. -/
def acceptsCopy (l : MissionLink ρ) (receiver : LinkReceiver ρ) (d : ScheduledDelivery) : Bool :=
  ((l.simulator.transport.getD fun _ => .ok ()) d.frame).isOk && (receiver.answer d.frame).isOk

/-- Whether the transport takes a copy and the receiver raises. -/
def refusesCopy (l : MissionLink ρ) (receiver : LinkReceiver ρ) (d : ScheduledDelivery) : Bool :=
  ((l.simulator.transport.getD fun _ => .ok ()) d.frame).isOk && !(receiver.answer d.frame).isOk

/-- **A call returns exactly if the receiver accepted a copy of its frame.** -/
def OutcomeFollowsReceiver (l : MissionLink ρ) (call : TransmitCall ρ)
    (receiver : LinkReceiver ρ) : Prop :=
  (∃ result t, transmit call l = .ok result t) ↔
    ∃ d ∈ handedOver l call, l.acceptsCopy receiver d = true

/-- After an uplink frame the satellite stages its telemetry. -/
def StagingReturns (l : MissionLink ρ) (call : TransmitCall ρ) : Prop :=
  call.direction = .ingress → ∃ t, drainSatelliteTm call.attached
    (finalState (transmitFrame call.attached call.frame call.direction call.receiver
      call.queueKind l)) = .ok () t

/-- The copies of a frame on their way, in the order they are due. -/
def copiesOf (l : MissionLink ρ) (call : TransmitCall ρ) (receiver : LinkReceiver ρ) :
    List ScheduledDelivery :=
  copies l (record call.direction (some receiver)) call.frame

/-- On a ready link: a frame that the gates refuse is reported by the staging of telemetry, and
one of which a copy is accepted has no refused copy, none that is lost in the transport after
it, and telemetry that is staged. -/
def CopiesAgree (l : MissionLink ρ) (call : TransmitCall ρ) (receiver : LinkReceiver ρ) : Prop :=
  if l.simulator.ingressGate (l.ingressFrame call.frame) = none then ¬ StagingReturns l call
  else (∃ d ∈ copiesOf l call receiver, l.acceptsCopy receiver d = true) →
    (∀ d ∈ copiesOf l call receiver, l.refusesCopy receiver d = false) ∧
    (∃ d, (copiesOf l call receiver).getLast? = some d ∧ l.acceptsCopy receiver d = true) ∧
    StagingReturns l call

/-- A frame is out, or the link is not ready and raises, or the link is ready and the copies of
the frame agree. -/
def OutcomeCondition (l : MissionLink ρ) (call : TransmitCall ρ) (receiver : LinkReceiver ρ) :
    Prop :=
  l.adapter.inFlight = true ∨
    l.adapter.scheduler.state = .notReady ∧ RaisesUnready l call ∨
    l.adapter.scheduler.state = .ready ∧ CopiesAgree l call receiver

/-! ## A ready link -/

theorem acceptsCopy_iff {l : MissionLink ρ} (direction : Direction) {receiver : LinkReceiver ρ}
    {d : ScheduledDelivery} : l.acceptsCopy receiver d = true ↔
      Accepts l.simulator.transport (record direction (some receiver)) d := by
  unfold acceptsCopy Accepts Reaches handed record
  dsimp only
  cases (l.simulator.transport.getD fun _ => .ok ()) d.frame <;>
    cases receiver.answer d.frame <;> simp [Except.isOk, Except.toBool]

theorem refusesCopy_iff {l : MissionLink ρ} (direction : Direction) {receiver : LinkReceiver ρ}
    {d : ScheduledDelivery} : l.refusesCopy receiver d = false ↔
      ¬ Refuses l.simulator.transport (record direction (some receiver)) d := by
  unfold refusesCopy Refuses Reaches handed record
  dsimp only
  cases (l.simulator.transport.getD fun _ => .ok ()) d.frame <;>
    cases receiver.answer d.frame <;> simp [Except.isOk, Except.toBool]

section Ready

variable {l : MissionLink ρ} {call : TransmitCall ρ} {receiver : LinkReceiver ρ}

/-- **A call on a ready link returns** exactly if its frame comes back without an error and the
satellite stages its telemetry. -/
theorem transmit_returns_iff_of_ready (between : l.Between) (idle : l.adapter.Idle)
    (ready : l.adapter.scheduler.state = .ready) (given : call.receiver = some receiver) :
    ((∃ result t, transmit call l = .ok result t) ↔
      Returns l (record call.direction (some receiver)) call.frame ∧ StagingReturns l call) ∧
    handedOver l call = copiesOf l call receiver := by
  have chooses : call.attached.chosen call.receiver call.direction = .ok (some receiver) := by
    rw [given]
    rfl
  have sent :=
    triple_transmitFrame_of_ready call.frame call.queueKind between idle ready chooses l rfl
  unfold transmit handedOver StagingReturns copiesOf
  cases ran : transmitFrame call.attached call.frame call.direction call.receiver call.queueKind
      l with
  | error failure t =>
      rw [ran] at sent
      obtain ⟨-, delivered, fails⟩ := sent
      rw [bind_of_error ran, finalState_error, delivered, List.drop_left]
      exact ⟨⟨fun ⟨_, _, raised⟩ => (nomatch raised), fun both => absurd both.1 fails⟩, rfl⟩
  | ok result t =>
      rw [ran] at sent
      obtain ⟨-, delivered, returns⟩ := sent
      rw [bind_of_ok ran, finalState_ok, delivered, List.drop_left, and_iff_right returns]
      refine ⟨?_, rfl⟩
      by_cases uplink : call.direction = .ingress
      · rw [if_pos uplink]
        cases drained : drainSatelliteTm call.attached t with
        | ok u t' =>
            rw [bind_of_ok drained]
            exact ⟨fun _ _ => ⟨t', rfl⟩, fun _ => ⟨result, t', rfl⟩⟩
        | error failure t' =>
            rw [bind_of_error drained]
            refine ⟨fun ⟨_, _, raised⟩ => (nomatch raised), fun staged => ?_⟩
            obtain ⟨_, returned⟩ := staged uplink
            cases returned
      · rw [if_neg uplink]
        exact ⟨fun _ uplink' => absurd uplink' uplink, fun _ => ⟨result, t, rfl⟩⟩

/-- A frame that the gates refuse leaves no copies. -/
theorem copiesOf_of_refused
    (gate : l.simulator.ingressGate (l.ingressFrame call.frame) = none) :
    copiesOf l call receiver = [] :=
  copies_of_refused (LinkSimulator.admitFrame_of_gate_none gate _ _)

/-- All copies are accepted, in terms of the transport and the receiver. -/
theorem allAccepted_iff : AllAccepted l.simulator.transport
      (record call.direction (some receiver)) (copiesOf l call receiver) ↔
    (∀ d ∈ copiesOf l call receiver, l.refusesCopy receiver d = false) ∧
      ∃ d, (copiesOf l call receiver).getLast? = some d ∧ l.acceptsCopy receiver d = true := by
  simp only [AllAccepted, refusesCopy_iff call.direction,
    acceptsCopy_iff call.direction]

theorem outcomeFollowsReceiver_iff_of_ready (between : l.Between) (idle : l.adapter.Idle)
    (ready : l.adapter.scheduler.state = .ready) (given : call.receiver = some receiver) :
    OutcomeFollowsReceiver l call receiver ↔ CopiesAgree l call receiver := by
  obtain ⟨returns, handed_⟩ := transmit_returns_iff_of_ready between idle ready given
  unfold OutcomeFollowsReceiver CopiesAgree
  rw [returns, handed_]
  split
  · rename_i gate
    have comesBack : Returns l (record call.direction (some receiver)) call.frame := .inl gate
    rw [and_iff_right comesBack, copiesOf_of_refused gate]
    constructor
    · intro follows staged
      obtain ⟨d, mem, -⟩ := follows.mp staged
      cases mem
    · exact fun unstaged => ⟨fun staged => absurd staged unstaged, fun ⟨d, mem, _⟩ => nomatch mem⟩
  · rename_i passed
    have comesBack : Returns l (record call.direction (some receiver)) call.frame ↔
        AllAccepted l.simulator.transport (record call.direction (some receiver))
          (copiesOf l call receiver) := or_iff_right passed
    rw [comesBack, allAccepted_iff, and_assoc]
    constructor
    · exact fun follows accepted => follows.mpr accepted
    · refine fun agrees => ⟨fun ⟨_, ⟨d, last, accepted⟩, _⟩ => ?_, agrees⟩
      exact ⟨d, List.mem_of_getLast? last, accepted⟩

end Ready

/-! ## Every link -/

/-- A link that does not send hands no copy over. -/
theorem handedOver_of_stopped {l : MissionLink ρ} (stopped : l.Stopped) (call : TransmitCall ρ) :
    handedOver l call = [] := by
  have kept := (keeps_stopped_transmitFrame call.attached call.frame call.direction call.receiver
    call.queueKind).finalState (s := l) ⟨stopped, rfl⟩
  rw [handedOver, kept.2, List.drop_length]

/-- **A call returns exactly if the receiver accepted a copy**, exactly under the condition: on
every link, after every history, for every frame and receiver. -/
theorem outcomeFollowsReceiver_iff {uplinkProfile downlinkProfile : FaultProfile}
    {faultModel : FaultModel} {transport : TransportFrame → Raises Unit}
    {startTime spacecraftInstanceId senderBootId : ℕ} {l : MissionLink ρ}
    (made : new uplinkProfile downlinkProfile faultModel transport startTime spacecraftInstanceId
      senderBootId = .ok l)
    (ops : List (MissionLinkOp ρ)) {call : TransmitCall ρ} {receiver : LinkReceiver ρ}
    (given : call.receiver = some receiver) :
    OutcomeFollowsReceiver ((missionLinkMachine ρ).exec l ops) call receiver ↔
      OutcomeCondition ((missionLinkMachine ρ).exec l ops) call receiver := by
  have between := between_run (between_new made) ops
  generalize (missionLinkMachine ρ).exec l ops = m at between
  rcases between.calm.matched with idle | ⟨item, out⟩
  · rw [OutcomeCondition, idle.inFlight, or_iff_right (by decide)]
    cases state : m.adapter.scheduler.state with
    | inFlight => exact absurd state idle.state
    | ready =>
        rw [outcomeFollowsReceiver_iff_of_ready between idle state given]
        exact ⟨fun agrees => .inr ⟨rfl, agrees⟩, fun h =>
          h.elim (fun both => nomatch both.1) And.right⟩
    | notReady =>
        have stopped : m.Stopped := ⟨between, idle, state⟩
        rw [OutcomeFollowsReceiver, handedOver_of_stopped stopped, ← stopped.transmit_raises_iff]
        have none_ : ¬ ∃ d ∈ ([] : List ScheduledDelivery), m.acceptsCopy receiver d = true :=
          fun ⟨_, mem, _⟩ => nomatch mem
        cases ran : transmit call m with
        | ok result t =>
            refine ⟨fun follows => absurd (follows.mp ⟨result, t, rfl⟩) none_, fun raises => ?_⟩
            rcases raises with ⟨-, _, _, raised⟩ | ⟨ready, -⟩
            · cases raised
            · cases ready
        | error failure t =>
            exact ⟨fun _ => .inl ⟨rfl, failure, t, rfl⟩, fun _ =>
              ⟨fun ⟨_, _, returned⟩ => (nomatch returned), fun some_ => absurd some_ none_⟩⟩
  · have raises : transmit call m = .error ⟨.runtimeError, "FRAME_IN_FLIGHT"⟩ m :=
      bind_of_error (transmitFrame_of_out between out)
    have nothing : handedOver m call = [] := by
      rw [handedOver, transmitFrame_of_out between out, finalState_error, List.drop_length]
    rw [OutcomeFollowsReceiver, OutcomeCondition, raises, nothing]
    exact ⟨fun _ => .inl out.inFlight, fun _ =>
      ⟨fun ⟨_, _, returned⟩ => (nomatch returned), fun ⟨_, mem, _⟩ => nomatch mem⟩⟩

/-! ## A duplicate -/

/-- A link that duplicates every downlink frame. -/
def duplicatingLink : MissionLink Unit :=
  (new {} { frameDuplicateRatePpm := 1000000 } (.ofSeed 1 1 0) (fun _ => .ok ()) 0 1 1).toOption.get
    (by decide)

/-- A receiver that refuses a frame it has seen, which is the second copy. -/
def oncePerFrame : LinkReceiver Unit where
  resets _ := []
  answer frame := if frame.copyIndex = 0 then .ok () else valueError "duplicate frame"

/-- A downlink frame for such a receiver. -/
def duplicatedDownlink : TransmitCall Unit :=
  { acceptedDownlink with receiver := some oncePerFrame }

/-- The theorem applies to a link without faults: the call returns, and its copy is accepted. -/
theorem outcomeFollowsReceiver_of_faultless :
    OutcomeFollowsReceiver ((missionLinkMachine Unit).exec faultlessLink []) duplicatedDownlink
      oncePerFrame := by
  refine (outcomeFollowsReceiver_iff made_faultlessLink [] rfl).mpr (.inr (.inr ⟨rfl, ?_⟩))
  change CopiesAgree faultlessLink duplicatedDownlink oncePerFrame
  have passed : (faultlessLink.simulator.ingressGate
      (faultlessLink.ingressFrame duplicatedDownlink.frame)).isNone = false := by
    decide +kernel
  have unrefused : (copiesOf faultlessLink duplicatedDownlink oncePerFrame).all
      (fun d => !faultlessLink.refusesCopy oncePerFrame d) = true := by
    decide +kernel
  have last : (copiesOf faultlessLink duplicatedDownlink oncePerFrame).getLast?.any
      (faultlessLink.acceptsCopy oncePerFrame) = true := by
    decide +kernel
  unfold CopiesAgree
  rw [if_neg fun gate => by rw [gate] at passed; cases passed]
  refine fun _ => ⟨fun d mem => ?_, ?_, nofun⟩
  · simpa using List.all_eq_true.mp unrefused d mem
  · obtain ⟨d, same, accepts⟩ := (Option.any_eq_true _ _).mp last
    exact ⟨d, same, accepts⟩

/-- **A refused duplicate turns a delivered frame into an error**: the first copy is accepted, and
the call raises what the receiver makes of the second. -/
theorem not_outcomeFollowsReceiver_of_duplicate :
    ¬ OutcomeFollowsReceiver duplicatingLink duplicatedDownlink oncePerFrame := by
  intro follows
  have raises : isOk (transmit duplicatedDownlink duplicatingLink) = false := by
    decide +kernel
  have accepted : (handedOver duplicatingLink duplicatedDownlink).any
      (duplicatingLink.acceptsCopy oncePerFrame) = true := by
    decide +kernel
  obtain ⟨d, mem, accepts⟩ := List.any_eq_true.mp accepted
  obtain ⟨result, t, returned⟩ := follows.mpr ⟨d, mem, accepts⟩
  rw [returned] at raises
  cases raises

end MissionLink

end CubeNano

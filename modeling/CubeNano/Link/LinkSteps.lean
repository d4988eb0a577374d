import CubeNano.Link.Transmission
import Mathlib.Logic.Relation
import Mathlib.Data.List.Perm.Basic

/-!
# Messages and pending copies, step by step

What an operation of the simulator does to the control messages and to the copies on their way
comes in three kinds of steps: it speaks about sessions, it admits the next frame, or it delivers
the copy that is due first.  `steps_after` is the induction rule for everything that depends on
messages and pending copies only.

## Main definitions

* `LinkSimulator.pending`, `.deliveryReports`
* `LinkSimulator.LinkStep` — the three kinds of steps
* `LinkSimulator.copyFates`, `.admissionFate` — what becomes of the copies of a frame

## Main statements

* `linkStep_admitFrame` — an admission is one step, with the messages and copies of its fate
* `steps_after` — every operation is a sequence of steps
-/

namespace CubeNano

namespace LinkSimulator

/-! ## Deliveries -/

/-- The copies on their way, in the order they are due. -/
def pending (s : LinkSimulator) : List ScheduledDelivery := s.clock.eventQueue.entries.map Prod.snd

/-- The messages that the delivery of a copy comes to.  A report that `on_consumed` does not take
is followed by a second one: both are made within the same `try` block. -/
def deliveryReports (transport : Option (TransportFrame → Raises Unit)) (d : ScheduledDelivery) :
    List LinkControlMessage :=
  match handOver transport d with
  | .error failure => [consumedMessage d "FRAME_FAILED" (some failure.kind.name)]
  | .ok status =>
      match consumedAnswer d.callbacks (consumedMessage d status none) with
      | .ok () => [consumedMessage d status none]
      | .error failure =>
          [consumedMessage d status none,
            consumedMessage d "FRAME_FAILED" (some failure.kind.name)]

/-- The states agree on everything that decides later messages and deliveries. -/
structure Delivered (s : LinkSimulator) (d : ScheduledDelivery) (t : LinkSimulator) : Prop where
  reports : t.controlEvents = s.controlEvents ++ deliveryReports s.transport d
  clock : t.clock = s.clock
  next : t.nextLinkFrameId = s.nextLinkFrameId
  transport : t.transport = s.transport

theorem finalState_emitConsumed (callbacks : LinkCallbacks) (message : LinkControlMessage)
    (s : LinkSimulator) :
    Effect.finalState (emitConsumed callbacks message s) = s.withControl message := by
  rw [emitConsumed_eq]
  cases consumedAnswer callbacks message <;> rfl

theorem deliverBody_eq (s : LinkSimulator) (d : ScheduledDelivery) :
    deliverBody d s =
      match handOver s.transport d with
      | .error failure => .error failure { s with delivered := s.delivered ++ [d] }
      | .ok status => emitConsumed d.callbacks (consumedMessage d status none)
          { s with
            delivered := s.delivered ++ [d]
            fileEpochManager := releaseFence d s.fileEpochManager } := by
  unfold deliverBody
  rw [Effect.get_bind]
  change ((liftRaises (handOver s.transport d) >>= _ : LinkProgram Unit)
    { s with delivered := s.delivered ++ [d] }) = _
  cases handed : handOver s.transport d with
  | error failure => rfl
  | ok status => rfl

theorem delivered_deliver (s : LinkSimulator) (d : ScheduledDelivery) :
    Delivered s d (Effect.finalState (deliver d s)) := by
  have body := deliverBody_eq s d
  unfold deliver
  cases handed : handOver s.transport d with
  | error failure =>
      rw [handed] at body
      rw [Effect.tryCatch_of_error body, finalState_emitConsumed]
      exact ⟨by rw [deliveryReports, handed]; rfl, rfl, rfl, rfl⟩
  | ok status =>
      rw [handed] at body
      dsimp only at body
      rw [emitConsumed_eq] at body
      cases answer : consumedAnswer d.callbacks (consumedMessage d status none) with
      | ok u =>
          rw [answer] at body
          rw [Effect.tryCatch_of_ok body]
          refine ⟨?_, rfl, rfl, rfl⟩
          rw [deliveryReports, handed]
          dsimp only
          rw [answer]
          rfl
      | error failure =>
          rw [answer] at body
          rw [Effect.tryCatch_of_error body, finalState_emitConsumed]
          refine ⟨?_, rfl, rfl, rfl⟩
          rw [deliveryReports, handed]
          dsimp only
          rw [answer]
          exact List.append_assoc _ _ _

/-! ## What becomes of a frame -/

/-- What the fault model and the schedule make of a copy. -/
inductive CopyFate
  | lost
  | scheduled (d : ScheduledDelivery)

/-- The fate of a copy that was drawn, if it is not refused. -/
def copyFate (s : LinkSimulator) (a : AdmittedFrame) (copyIndex : ℕ) (decision : FaultDecision) :
    Option CopyFate :=
  if decision.isLost then some .lost
  else
    match dueDelivery a copyIndex decision with
    | .error _ => none
    | .ok (due, d) => if s.clock.now ≤ due then some (.scheduled d) else none

/-- The fate of one copy with its index, in a list. -/
def fateOf (s : LinkSimulator) (a : AdmittedFrame) (copyIndex : ℕ) (decision : FaultDecision) :
    List (ℕ × CopyFate) :=
  ((copyFate s a copyIndex decision).map fun fate => (copyIndex, fate)).toList

/-- The fates of the copies of a frame, with their indices. -/
def copyFates (s : LinkSimulator) (a : AdmittedFrame) : List (ℕ × CopyFate) :=
  match draw s a (s.availableNs a.direction) 0 true with
  | .error _ => []
  | .ok decision =>
      match copyFate s a 0 decision with
      | none => []
      | some fate =>
          (0, fate) ::
            if decision.isLost = false ∧ decision.hasDuplicate = true then
              match draw s a decision.releaseNs 1 false with
              | .error _ => []
              | .ok duplicate => fateOf s a 1 duplicate
            else []

/-- What becomes of a frame that is handed to the simulator. -/
inductive AdmissionFate
  | refused
  | rejected (a : AdmittedFrame) (reason : String)
  | accepted (a : AdmittedFrame) (copies : List (ℕ × CopyFate))

/-- The fate of a frame. -/
def admissionFate (s : LinkSimulator) (frame : TransportFrame) (direction : Direction)
    (callbacks : LinkCallbacks) : AdmissionFate :=
  match s.ingressGate frame with
  | none => .refused
  | some session =>
      if s.allocates = false then .refused
      else
        match (s.epochAdmission direction session frame.frameBytes).1.error with
        | some reason => .rejected (s.enteringFrame frame direction session callbacks) reason
        | none =>
            .accepted (s.enteringFrame frame direction session callbacks)
              (match acceptedAnswer (s.enteringFrame frame direction session callbacks) with
              | .error _ => []
              | .ok () => copyFates s (s.enteringFrame frame direction session callbacks))

/-- The reason a lost copy is reported with. -/
def lossReason (copyIndex : ℕ) : String :=
  if copyIndex = 0 then "FAULT_LOSS" else "FAULT_DUPLICATE_COPY_LOSS"

/-- The reports of the lost copies. -/
def lossReports (a : AdmittedFrame) (copies : List (ℕ × CopyFate)) : List LinkControlMessage :=
  copies.filterMap fun copy =>
    match copy.2 with
    | .lost => some (lossMessage a copy.1 (lossReason copy.1))
    | .scheduled _ => none

/-- The copies that go on their way. -/
def scheduledCopies (copies : List (ℕ × CopyFate)) : List ScheduledDelivery :=
  copies.filterMap fun copy =>
    match copy.2 with
    | .lost => none
    | .scheduled d => some d

/-- The messages of an admission. -/
def AdmissionFate.reports : AdmissionFate → List LinkControlMessage
  | refused => []
  | rejected a reason => if a.callbacks.onConsumed.isSome then [rejectionMessage a reason] else []
  | accepted a copies => acceptanceMessage a :: lossReports a copies

/-- The copies that an admission leaves on their way. -/
def AdmissionFate.copies : AdmissionFate → List ScheduledDelivery
  | refused => []
  | rejected _ _ => []
  | accepted _ copies => scheduledCopies copies

/-! ## An admission -/

/-- A state with some more messages and some more copies on their way. -/
structure Grew (s : LinkSimulator) (events : List LinkControlMessage)
    (deliveries : List ScheduledDelivery) (t : LinkSimulator) : Prop where
  reports : t.controlEvents = s.controlEvents ++ events
  pending : t.pending.Perm (s.pending ++ deliveries)
  next : t.nextLinkFrameId = s.nextLinkFrameId
  transport : t.transport = s.transport

theorem Grew.refl (s : LinkSimulator) : Grew s [] [] s :=
  ⟨(List.append_nil _).symm, by rw [List.append_nil], rfl, rfl⟩

theorem Grew.unchanged {s t : LinkSimulator} (events : t.controlEvents = s.controlEvents)
    (queue : t.clock.eventQueue = s.clock.eventQueue)
    (next : t.nextLinkFrameId = s.nextLinkFrameId) (transport : t.transport = s.transport) :
    Grew s [] [] t :=
  ⟨by rw [events, List.append_nil], by rw [List.append_nil, LinkSimulator.pending, queue]; rfl,
    next, transport⟩

theorem Grew.trans {s t u : LinkSimulator} {events events' : List LinkControlMessage}
    {deliveries deliveries' : List ScheduledDelivery} (first : Grew s events deliveries t)
    (second : Grew t events' deliveries' u) :
    Grew s (events ++ events') (deliveries ++ deliveries') u where
  reports := by rw [second.reports, first.reports, List.append_assoc]
  pending := by
    rw [← List.append_assoc]
    exact second.pending.trans (first.pending.append_right _)
  next := second.next.trans first.next
  transport := second.transport.trans first.transport

theorem grew_withControl (s : LinkSimulator) (message : LinkControlMessage) :
    Grew s [message] [] (s.withControl message) :=
  ⟨rfl, by rw [List.append_nil]; rfl, rfl, rfl⟩

theorem grew_setAvailableNs (s : LinkSimulator) (direction : Direction) (ns : ℤ) :
    Grew s [] [] (s.setAvailableNs direction ns) := by
  cases direction <;> exact .unchanged rfl rfl rfl rfl

theorem grew_withCopy (s : LinkSimulator) (a : AdmittedFrame) (copyIndex due : ℕ)
    (d : ScheduledDelivery) : Grew s [] [d] (s.withCopy a copyIndex due d) where
  reports := (List.append_nil _).symm
  pending := by
    have inserted := (PriorityQueue.insertSorted_perm
      (eventKey due a.direction.code a.linkFrameId copyIndex) d s.clock.eventQueue.entries).map
        Prod.snd
    exact inserted.trans (List.perm_append_singleton d _).symm
  next := rfl
  transport := rfl

theorem copyFate_of_kept {s : LinkSimulator} {a : AdmittedFrame} {copyIndex due : ℕ}
    {decision : FaultDecision} {d : ScheduledDelivery} (kept : decision.isLost = false)
    (prepared : dueDelivery a copyIndex decision = .ok (due, d)) (future : s.clock.now ≤ due) :
    copyFate s a copyIndex decision = some (.scheduled d) := by
  rw [copyFate, if_neg (by simp [kept]), prepared]
  exact if_pos future

theorem copyFate_of_refused {s : LinkSimulator} {a : AdmittedFrame} {copyIndex : ℕ}
    {decision : FaultDecision} (kept : decision.isLost = false)
    (unscheduled : ¬ CopyScheduled s a copyIndex decision) :
    copyFate s a copyIndex decision = none := by
  rw [copyFate, if_neg (by simp [kept])]
  cases prepared : dueDelivery a copyIndex decision with
  | error failure => rfl
  | ok pair =>
      obtain ⟨due, d⟩ := pair
      exact if_neg fun future => unscheduled ⟨kept, due, d, prepared, future⟩

theorem CopyEnds.grew {s : LinkSimulator} {a : AdmittedFrame} {copyIndex : ℕ}
    {decision : FaultDecision} {reason : String}
    {result : EStateM.Result PyException LinkSimulator Unit}
    (ends : CopyEnds s a copyIndex decision reason result) (named : reason = lossReason copyIndex) :
    Grew s (lossReports a (fateOf s a copyIndex decision))
      (scheduledCopies (fateOf s a copyIndex decision)) (Effect.finalState result) := by
  cases ends with
  | lost isLost =>
      have final : Effect.finalState (ended (s.withControl (lossMessage a copyIndex reason))
          (consumedAnswer a.callbacks (lossMessage a copyIndex reason))) =
            s.withControl (lossMessage a copyIndex reason) := by
        cases consumedAnswer a.callbacks (lossMessage a copyIndex reason) <;> rfl
      rw [final, fateOf, copyFate, if_pos isLost]
      subst named
      exact grew_withControl s _
  | refused failure kept unscheduled =>
      rw [fateOf, copyFate_of_refused kept unscheduled]
      exact .refl s
  | scheduled due d kept prepared future =>
      rw [fateOf, copyFate_of_kept kept prepared future]
      exact grew_withCopy s a copyIndex due d

theorem fateOf_congr {s t : LinkSimulator} (now : t.clock.now = s.clock.now) (a : AdmittedFrame)
    (copyIndex : ℕ) (decision : FaultDecision) :
    fateOf t a copyIndex decision = fateOf s a copyIndex decision := by
  unfold fateOf copyFate
  rw [now]

theorem copyFates_of_single {s : LinkSimulator} {a : AdmittedFrame} {decision : FaultDecision}
    (drawn : draw s a (s.availableNs a.direction) 0 true = .ok decision)
    (single : decision.isLost = true ∨ decision.hasDuplicate = false ∨
      ¬ CopyScheduled s a 0 decision) :
    copyFates s a = fateOf s a 0 decision := by
  unfold copyFates fateOf
  rw [drawn]
  dsimp only
  cases fate : copyFate s a 0 decision with
  | none => rfl
  | some fate' =>
      dsimp only
      rw [if_neg]
      · rfl
      rintro ⟨kept, duplicated⟩
      rcases single with lost | none_ | unscheduled
      · exact absurd (kept.symm.trans lost) (by decide)
      · exact absurd (none_.symm.trans duplicated) (by decide)
      · cases fate.symm.trans (copyFate_of_refused kept unscheduled)

/-- **A transmission** reports the copies that are lost and schedules the others. -/
theorem Transmits.grew {s : LinkSimulator} {a : AdmittedFrame}
    {result : EStateM.Result PyException LinkSimulator Unit} (transmits : Transmits s a result) :
    Grew s (lossReports a (copyFates s a)) (scheduledCopies (copyFates s a))
      (Effect.finalState result) := by
  cases transmits with
  | undrawn failure drawn =>
      rw [copyFates, drawn]
      exact .refl s
  | alone decision _ drawn single ends =>
      have last := ends.grew rfl
      rw [fateOf_congr (s := s) (by simp)] at last
      rw [copyFates_of_single drawn single]
      exact (grew_setAvailableNs s a.direction decision.releaseNs).trans last
  | undrawnDuplicate decision due d failure drawn kept duplicated prepared future undrawn =>
      have fates : copyFates s a = [(0, .scheduled d)] := by
        rw [copyFates, drawn]
        dsimp only
        rw [copyFate_of_kept kept prepared future]
        dsimp only
        rw [if_pos ⟨kept, duplicated⟩, undrawn]
      rw [fates]
      exact (grew_setAvailableNs s a.direction decision.releaseNs).trans
        (grew_withCopy _ a 0 due d)
  | duplicated decision due d duplicate _ drawn kept duplicated prepared future second ends =>
      have fates : copyFates s a = (0, .scheduled d) :: fateOf s a 1 duplicate := by
        rw [copyFates, drawn]
        dsimp only
        rw [copyFate_of_kept kept prepared future]
        dsimp only
        rw [if_pos ⟨kept, duplicated⟩, second]
      have last := ends.grew rfl
      rw [fateOf_congr (s := s) (by simp [afterFirst, withCopy, VirtualClock.pushEvent])] at last
      rw [fates]
      exact (((grew_setAvailableNs s a.direction decision.releaseNs).trans
        (grew_withCopy _ a 0 due d)).trans (grew_setAvailableNs _ a.direction _)).trans last

theorem grew_entered (s : LinkSimulator) (frame : TransportFrame) (direction : Direction)
    (session : Option Session) : Grew s.allocated [] [] (s.entered frame direction session) :=
  .unchanged rfl rfl rfl rfl

/-- **An admission** makes the messages of its fate and puts the copies of its fate on their way;
a frame without an id makes none. -/
theorem grew_admitFrame (s : LinkSimulator) (frame : TransportFrame) (direction : Direction)
    (callbacks : LinkCallbacks) :
    s.admissionFate frame direction callbacks = .refused ∧
        Grew s [] [] (Effect.finalState (admitFrame frame direction callbacks s)) ∨
      Grew s.allocated (s.admissionFate frame direction callbacks).reports
        (s.admissionFate frame direction callbacks).copies
        (Effect.finalState (admitFrame frame direction callbacks s)) := by
  have admission := admission_admitFrame s frame direction callbacks
  generalize admitFrame frame direction callbacks s = result at admission ⊢
  have fate_of {session : Option Session} (gate : s.ingressGate frame = some session)
      (allocates : s.allocates = true) : s.admissionFate frame direction callbacks =
        match (s.epochAdmission direction session frame.frameBytes).1.error with
        | some reason => .rejected (s.enteringFrame frame direction session callbacks) reason
        | none =>
            .accepted (s.enteringFrame frame direction session callbacks)
              (match acceptedAnswer (s.enteringFrame frame direction session callbacks) with
              | .error _ => []
              | .ok () => copyFates s (s.enteringFrame frame direction session callbacks)) := by
    rw [admissionFate, gate]
    dsimp only
    rw [if_neg (by simp [allocates])]
  have unallocated (unsaved : ¬ s.allocates = true) :
      s.admissionFate frame direction callbacks = .refused := by
    rw [admissionFate]
    cases s.ingressGate frame with
    | none => rfl
    | some session => exact if_pos (by simpa using unsaved)
  cases admission with
  | turnedAway gate => exact .inl ⟨by rw [admissionFate, gate], .refl s⟩
  | exhausted failure full =>
      exact .inl ⟨unallocated fun allocates => full (lt_of_allocates allocates),
        .unchanged rfl rfl rfl rfl⟩
  | unsaved failure unsaved =>
      rw [unallocated unsaved]
      exact .inr (.refl _)
  | rejectedSilently session reason gate allocates fenced silent =>
      have quiet : (s.enteringFrame frame direction session callbacks).callbacks.onConsumed.isSome =
          false := by
        rw [show (s.enteringFrame frame direction session callbacks).callbacks = callbacks from rfl,
          silent]
        rfl
      rw [fate_of gate allocates, fenced]
      dsimp only [AdmissionFate.reports, AdmissionFate.copies]
      rw [if_neg (by simp [quiet])]
      exact .inr (.refl _)
  | rejected session reason gate allocates fenced heard =>
      have loud : (s.enteringFrame frame direction session callbacks).callbacks.onConsumed.isSome =
          true := Option.isSome_iff_ne_none.mpr heard
      rw [fate_of gate allocates, fenced]
      dsimp only [AdmissionFate.reports, AdmissionFate.copies]
      rw [if_pos loud]
      right
      cases consumedAnswer callbacks
          (rejectionMessage (s.enteringFrame frame direction session callbacks) reason) <;>
        exact grew_withControl _ _
  | unaccepted session failure gate allocates passed raised =>
      rw [fate_of gate allocates, passed]
      dsimp only
      rw [raised]
      exact .inr ((grew_entered s frame direction session).trans (grew_withControl _ _))
  | transmitted session result gate allocates passed accepted transmits =>
      rw [fate_of gate allocates, passed]
      dsimp only
      rw [accepted]
      right
      have final : Effect.finalState (returning (some s.nextLinkFrameId) result) =
          Effect.finalState result := by
        cases result <;> rfl
      rw [final]
      exact ((grew_entered s frame direction session).trans (grew_withControl _ _)).trans
        transmits.grew

/-- The copies of a frame, as the transmission leaves them: each index once, and every delivery
for the frame and the index it stands under. -/
structure CopiesOf (a : AdmittedFrame) (copies : List (ℕ × CopyFate)) : Prop where
  nodup : (copies.map Prod.fst).Nodup
  delivery : ∀ copyIndex d, (copyIndex, CopyFate.scheduled d) ∈ copies →
    d.linkFrameId = a.linkFrameId ∧ d.copyIndex = copyIndex ∧ d.callbacks = a.callbacks

theorem CopiesOf.nil (a : AdmittedFrame) : CopiesOf a [] :=
  ⟨List.nodup_nil, fun _ _ mem => (nomatch mem)⟩

theorem delivery_of_copyFate {s : LinkSimulator} {a : AdmittedFrame} {copyIndex : ℕ}
    {decision : FaultDecision} {d : ScheduledDelivery}
    (fate : copyFate s a copyIndex decision = some (.scheduled d)) :
    d.linkFrameId = a.linkFrameId ∧ d.copyIndex = copyIndex ∧ d.callbacks = a.callbacks := by
  unfold copyFate at fate
  split at fate
  · cases fate
  split at fate
  · cases fate
  rename_i due d' prepared
  split at fate
  · cases fate
    obtain ⟨-, bytes, rfl⟩ := dueDelivery_ok prepared
    exact ⟨rfl, rfl, rfl⟩
  · cases fate

theorem mem_fateOf {s : LinkSimulator} {a : AdmittedFrame} {copyIndex copyIndex' : ℕ}
    {decision : FaultDecision} {fate : CopyFate} :
    (copyIndex', fate) ∈ fateOf s a copyIndex decision ↔
      copyIndex' = copyIndex ∧ copyFate s a copyIndex decision = some fate := by
  unfold fateOf
  cases copyFate s a copyIndex decision with
  | none => simp
  | some fate' =>
      simp only [Option.map_some, Option.toList_some, List.mem_singleton, Prod.mk.injEq,
        Option.some.injEq]
      exact and_congr_right fun _ => eq_comm

theorem fst_fateOf (s : LinkSimulator) (a : AdmittedFrame) (copyIndex : ℕ)
    (decision : FaultDecision) :
    (fateOf s a copyIndex decision).map Prod.fst = [] ∨
      (fateOf s a copyIndex decision).map Prod.fst = [copyIndex] := by
  unfold fateOf
  cases copyFate s a copyIndex decision with
  | none => exact .inl rfl
  | some fate => exact .inr rfl

theorem copiesOf_copyFates (s : LinkSimulator) (a : AdmittedFrame) : CopiesOf a (copyFates s a) := by
  unfold copyFates
  split
  · exact .nil a
  rename_i decision drawn
  split
  · exact .nil a
  rename_i fate first
  split
  · split
    · refine ⟨by simp, fun copyIndex d mem => ?_⟩
      obtain ⟨rfl, rfl⟩ := Prod.mk.inj (List.mem_singleton.mp mem)
      exact delivery_of_copyFate first
    · rename_i duplicate second
      refine ⟨?_, fun copyIndex d mem => ?_⟩
      · rw [List.map_cons]
        rcases fst_fateOf s a 1 duplicate with none_ | one
        · rw [none_]
          exact List.nodup_singleton _
        · rw [one]
          exact (by decide : [0, 1].Nodup)
      · rcases List.mem_cons.mp mem with same | later
        · obtain ⟨rfl, rfl⟩ := Prod.mk.inj same
          exact delivery_of_copyFate first
        · obtain ⟨rfl, fate'⟩ := mem_fateOf.mp later
          exact delivery_of_copyFate fate'
  · refine ⟨by simp, fun copyIndex d mem => ?_⟩
    obtain ⟨rfl, rfl⟩ := Prod.mk.inj (List.mem_singleton.mp mem)
    exact delivery_of_copyFate first

/-! ## Whole operations -/

/-- One step: messages about sessions, the admission of the next frame, or the delivery of the
copy that is due first. -/
inductive LinkStep (s t : LinkSimulator) : Prop
  | aside (events) (outside : ∀ m ∈ events, m.linkFrameId = 0) (grew : Grew s events [] t)
  | admits (events deliveries) (ofEvents : ∀ m ∈ events, m.linkFrameId = s.nextLinkFrameId)
      (ofDeliveries : ∀ d ∈ deliveries, d.linkFrameId = s.nextLinkFrameId)
      (grew : Grew s.allocated events deliveries t)
  | delivers (d) (first : s.pending = d :: t.pending)
      (reports : t.controlEvents = s.controlEvents ++ deliveryReports s.transport d)
      (next : t.nextLinkFrameId = s.nextLinkFrameId) (transport : t.transport = s.transport)

/-- The messages and copies of a fate are those of the frame with an id. -/
theorem ofFrame_admissionFate (s : LinkSimulator) (frame : TransportFrame) (direction : Direction)
    (callbacks : LinkCallbacks) :
    (∀ m ∈ (s.admissionFate frame direction callbacks).reports,
      m.linkFrameId = s.nextLinkFrameId) ∧
    ∀ d ∈ (s.admissionFate frame direction callbacks).copies,
      d.linkFrameId = s.nextLinkFrameId := by
  unfold admissionFate
  split
  · exact ⟨fun _ mem => (nomatch mem), fun _ mem => (nomatch mem)⟩
  rename_i session gate
  split
  · exact ⟨fun _ mem => (nomatch mem), fun _ mem => (nomatch mem)⟩
  split
  · refine ⟨fun m mem => ?_, fun _ mem => (nomatch mem)⟩
    dsimp only [AdmissionFate.reports] at mem
    split at mem
    · rw [List.mem_singleton.mp mem]
      rfl
    · cases mem
  · have ofCopies : ∀ copies, CopiesOf (s.enteringFrame frame direction session callbacks) copies →
        (∀ m ∈ (AdmissionFate.accepted (s.enteringFrame frame direction session callbacks)
            copies).reports, m.linkFrameId = s.nextLinkFrameId) ∧
          ∀ d ∈ (AdmissionFate.accepted (s.enteringFrame frame direction session callbacks)
            copies).copies, d.linkFrameId = s.nextLinkFrameId := by
      refine fun copies of => ⟨fun m mem => ?_, fun d mem => ?_⟩
      · rcases List.mem_cons.mp mem with rfl | later
        · rfl
        · obtain ⟨⟨copyIndex, fate⟩, -, report⟩ := List.mem_filterMap.mp later
          cases fate with
          | lost =>
              cases report
              rfl
          | scheduled d => cases report
      · obtain ⟨⟨copyIndex, fate⟩, mem', report⟩ := List.mem_filterMap.mp mem
        cases fate with
        | lost => cases report
        | scheduled d' =>
            cases report
            exact (of.delivery copyIndex d mem').1
    split
    · exact ofCopies [] (.nil _)
    · exact ofCopies _ (copiesOf_copyFates _ _)

/-- The states that steps lead to. -/
abbrev LinkSteps : LinkSimulator → LinkSimulator → Prop := Relation.ReflTransGen LinkStep

theorem LinkSteps.unspoken {s t : LinkSimulator} (grew : Grew s [] [] t) : LinkSteps s t :=
  .single (.aside [] (fun _ none => (nomatch none)) grew)

theorem steps_admitFrame (frame : TransportFrame) (direction : Direction)
    (callbacks : LinkCallbacks) :
    Effect.Moves LinkSteps (admitFrame frame direction callbacks) := by
  intro s
  rcases s.grew_admitFrame frame direction callbacks with ⟨-, grew⟩ | grew
  · exact .unspoken grew
  · obtain ⟨ofEvents, ofDeliveries⟩ := s.ofFrame_admissionFate frame direction callbacks
    exact .single (.admits _ _ ofEvents ofDeliveries grew)

theorem pending_of_popEvent {s : LinkSimulator} {d : ScheduledDelivery}
    {clock : VirtualClock ScheduledDelivery} (popped : s.clock.popEvent = some (d, clock)) :
    s.pending = d :: clock.eventQueue.entries.map Prod.snd := by
  unfold VirtualClock.popEvent at popped
  unfold pending
  obtain ⟨⟨_ | ⟨first, rest⟩, sorted⟩, now⟩ : ∃ queue : PriorityQueue EventKey ScheduledDelivery,
      s.clock.eventQueue = queue := ⟨_, rfl⟩
  · rw [now] at popped
    cases popped
  · rw [now] at popped ⊢
    cases popped
    rfl

theorem steps_advanceToNextEvent : Effect.Moves LinkSteps advanceToNextEvent := by
  intro s
  unfold advanceToNextEvent
  rw [Effect.get_bind]
  cases popped : s.clock.popEvent with
  | none => exact .refl
  | some next =>
      obtain ⟨d, clock⟩ := next
      have delivered := delivered_deliver { s with clock := clock } d
      have final : Effect.finalState ((do
            set { s with clock := clock }
            deliver d
            pure true : LinkProgram Bool) s) =
          Effect.finalState (deliver d { s with clock := clock }) := by
        change Effect.finalState ((deliver d >>= fun _ => pure true) { s with clock := clock }) = _
        rw [bind_pure_eq]
        cases deliver d { s with clock := clock } <;> rfl
      dsimp only
      rw [final]
      refine .single (.delivers d ?_ delivered.reports delivered.next delivered.transport)
      rw [pending_of_popEvent popped, pending, delivered.clock]

/-- A method that speaks about sessions only. -/
theorem steps_emitControl {message : LinkControlMessage} (outside : message.linkFrameId = 0) :
    Effect.Moves LinkSteps (emitControl message) :=
  .modify fun s => .single (.aside [message]
    (fun m mem => by rw [List.mem_singleton.mp mem]; exact outside) (grew_withControl s message))

theorem steps_liftRaises {α : Type} (r : Raises α) : Effect.Moves LinkSteps (liftRaises r) := by
  intro s
  cases r <;> exact .refl

theorem steps_bind {α β : Type} {x : LinkProgram α} {f : α → LinkProgram β}
    (first : Effect.Moves LinkSteps x) (rest : ∀ a, Effect.Moves LinkSteps (f a)) :
    Effect.Moves LinkSteps (x >>= f) :=
  .bind (fun before after => before.trans after) first rest

theorem steps_pure {α : Type} (a : α) : Effect.Moves LinkSteps (pure a : LinkProgram α) :=
  .pure (fun _ => .refl) a

theorem steps_modify {f : LinkSimulator → LinkSimulator} (grew : ∀ s, Grew s [] [] (f s)) :
    Effect.Moves LinkSteps (modify f : LinkProgram Unit) :=
  .modify fun s => .unspoken (grew s)

/-- A write behind the reading of the state. -/
theorem steps_setBind {α : Type} {s t : LinkSimulator} {f : Unit → LinkProgram α}
    (grew : Grew s [] [] t) (rest : Effect.Moves LinkSteps (f ())) :
    LinkSteps s (Effect.finalState ((set t >>= f) s)) :=
  (LinkSteps.unspoken grew).trans (rest t)

theorem steps_checkpointChanged : Effect.Moves LinkSteps checkpointChanged :=
  .getBind fun s => steps_liftRaises _ s

theorem steps_announceSession (first : LinkControlType) (i sessionId : ℕ) :
    Effect.Moves LinkSteps (announceSession first i sessionId) :=
  .getBind fun s => steps_bind (steps_emitControl rfl) (fun _ => steps_emitControl rfl) s

theorem steps_allocateSession (i boot : ℕ) : Effect.Moves LinkSteps (allocateSession i boot) :=
  .getBind fun _ => steps_setBind (.unchanged rfl rfl rfl rfl) (steps_liftRaises _)

theorem steps_openFileEpochs (boot : ℕ) : Effect.Moves LinkSteps (openFileEpochs boot) :=
  steps_modify fun _ => .unchanged rfl rfl rfl rfl

theorem steps_closeActive (i : ℕ) : Effect.Moves LinkSteps (closeActive i) :=
  steps_modify fun s => by
    split
    · exact .refl s
    · exact .unchanged rfl rfl rfl rfl

theorem steps_createSession (i boot : ℕ) : Effect.Moves LinkSteps (createSession i boot) :=
  steps_bind (steps_allocateSession i boot) fun sessionId =>
    steps_bind steps_checkpointChanged fun _ => steps_bind (steps_openFileEpochs boot) fun _ =>
      steps_bind (steps_announceSession _ i sessionId) fun _ => steps_pure sessionId

theorem steps_resetSession (i boot : ℕ) : Effect.Moves LinkSteps (resetSession i boot) :=
  steps_bind (steps_closeActive i) fun _ => steps_bind (steps_openFileEpochs boot) fun _ =>
    steps_bind (steps_allocateSession i boot) fun sessionId =>
      steps_bind steps_checkpointChanged fun _ =>
        steps_bind (steps_announceSession _ i sessionId) fun _ => steps_pure sessionId

theorem steps_closeSession (sessionId : ℕ) : Effect.Moves LinkSteps (closeSession sessionId) := by
  intro s
  unfold closeSession
  rw [Effect.get_bind]
  rcases s.sessionManager.closeSession sessionId s.clock.now with ⟨_ | session, sessions⟩
  · exact steps_liftRaises _ s
  · exact steps_setBind (.unchanged rfl rfl rfl rfl) (steps_emitControl rfl)

theorem steps_abortFileEpoch (epoch : ℕ) (reason : String) :
    Effect.Moves LinkSteps (abortFileEpoch epoch reason) := by
  intro s
  unfold abortFileEpoch
  rw [Effect.get_bind]
  cases s.fileEpochManager.currentAttempt with
  | none => exact .refl
  | some current =>
      dsimp only
      by_cases other : current.epochId ≠ epoch
      · rw [if_pos other]
        exact .refl
      · rw [if_neg other]
        exact steps_setBind (.unchanged rfl rfl rfl rfl)
          (steps_bind (steps_emitControl rfl) fun _ => steps_pure _)

theorem steps_runWhile (more : LinkSimulator → ℕ → Bool) (pending count : ℕ) :
    Effect.Moves LinkSteps (runWhile more pending count) := by
  induction pending generalizing count with
  | zero => exact steps_pure count
  | succ pending ih =>
      refine .getBind fun s => ?_
      by_cases goesOn : more s count = true
      · rw [if_pos goesOn]
        exact steps_bind steps_advanceToNextEvent (fun _ => ih (count + 1)) s
      · rw [if_neg goesOn]
        exact .refl

/-- **Every operation is a sequence of steps.** -/
theorem steps_after (s : LinkSimulator) (op : LinkOp) : LinkSteps s (s.after op) := by
  have forget {α : Type} {x : LinkProgram α} (steps : Effect.Moves LinkSteps x) :
      Effect.Moves LinkSteps (discard x) := steps_bind steps fun _ => steps_pure _
  cases op with
  | createSession i boot => exact forget (steps_createSession i boot) s
  | resetSession i boot => exact forget (steps_resetSession i boot) s
  | closeSession sessionId => exact steps_closeSession sessionId s
  | abortFileEpoch epoch reason => exact forget (steps_abortFileEpoch epoch reason) s
  | admitFrame frame direction callbacks =>
      exact forget (steps_admitFrame frame direction callbacks) s
  | advanceToNextEvent => exact forget steps_advanceToNextEvent s
  | runUntil endTime =>
      refine forget (.getBind fun t => steps_bind (steps_runWhile _ _ _) (fun count =>
        steps_bind (steps_modify fun u => ?_) fun _ => steps_pure count) t) s
      split
      · exact .unchanged rfl rfl rfl rfl
      · exact .refl u
  | runUntilIdle maxEvents => exact forget (.getBind fun t => steps_runWhile _ _ _ t) s

/-- **The step rule.**  What every step keeps holds after every run. -/
theorem exec_of_steps {I : LinkSimulator → Prop}
    (preserved : ∀ s t, LinkStep s t → I s → I t) {s : LinkSimulator} (start : I s)
    (ops : List LinkOp) : I (linkMachine.exec s ops) :=
  linkMachine.exec_invariant I start (fun t op held => by
    have steps := steps_after t op
    change I (t.after op)
    generalize t.after op = u at steps
    induction steps with
    | refl => exact held
    | tail _ step ih => exact preserved _ _ step ih) ops

end LinkSimulator

end CubeNano

import CubeNano.Link.MissionLink

/-!
# Calls of the mission link

What the deliveries, resets and calls of a link do to its record of the frame, to its adapter
and to what the simulator still has to deliver.

## Main definitions

* `MissionLink.OnLink` — a frame is on the link
* `MissionLink.settle` — what a delivered copy writes into the record of its frame
* `MissionLink.Between` — the link between two calls

## Main statements

* `MissionLink.triple_deliver`, `.triple_runUntilIdle` — the copies are handed over in order
* `MissionLink.between_run` — every run leaves the link between two calls
* `MissionLink.deliver_simulator` — a delivery does to the simulator what
  `LinkSimulator.deliver` does
-/

namespace CubeNano

open Effect

namespace MissionLink

variable {ρ : Type}

/-- A frame is on the link: its record, the copies that are due, those handed over so far, and
the parts that no delivery touches. -/
structure OnLink (p : PendingSend ρ) (due : List (EventKey × ScheduledDelivery))
    (delivered : List ScheduledDelivery) (transport : Option (TransportFrame → Raises Unit))
    (queues : QueueKind → List (ScheduledItem Bytes Empty)) (l : MissionLink ρ) : Prop where
  pending : l.pending = some p
  due : l.simulator.clock.eventQueue.entries = due
  delivered : l.simulator.delivered = delivered
  transport : l.simulator.transport = transport
  matched : l.adapter.Matched
  queues : l.adapter.scheduler.queues = queues

/-! ## Resets -/

/-- A simulator method that leaves the clock alone, under an invariant that looks at nothing
else it changes. -/
theorem keeps_onSimulator {I : MissionLink ρ → Prop} {α : Type} {x : LinkProgram α}
    (quiet : LinkSimulator.Quiet x)
    (closed : ∀ l simulator, LinkSimulator.Unmoved l.simulator simulator → I l →
      I { l with simulator := simulator }) : Keeps I (onSimulator x : Program ρ α) := by
  intro l holds
  have moved := quiet l.simulator l.simulator (.refl _)
  unfold onSimulator
  cases ran : x l.simulator with
  | ok value simulator =>
      rw [ran] at moved
      exact closed l simulator moved holds
  | error failure simulator =>
      rw [ran] at moved
      exact closed l simulator moved holds

/-- An invariant of a reset: it looks at the record, the clock, the copies handed over, the
transport and the adapter only. -/
theorem keeps_reset {I : MissionLink ρ → Prop} (boot : ℕ)
    (stops : ∀ l, I l → I { l with adapter := l.adapter.reset, senderBootId := boot })
    (closed : ∀ l simulator, LinkSimulator.Unmoved l.simulator simulator → I l →
      I { l with simulator := simulator })
    (session : ∀ l sessionId linkGeneration, I l → I { l with
      sessionId := sessionId, nextSenderFrameId := 1, linkGeneration := linkGeneration }) :
    Keeps I (reset boot : Program ρ ℕ) := by
  refine Keeps.bind (Keeps.modify stops) fun _ => Keeps.getBind fun l => ?_
  refine Keeps.bind (keeps_onSimulator (LinkSimulator.quiet_resetSession _ _) closed)
    fun sessionId => ?_
  exact Keeps.bind (Keeps.modify fun l holds => session l _ _ holds) fun _ => Keeps.pure _

section OnLink

variable {p : PendingSend ρ} {due : List (EventKey × ScheduledDelivery)}
  {delivered : List ScheduledDelivery} {transport : Option (TransportFrame → Raises Unit)}
  {queues : QueueKind → List (ScheduledItem Bytes Empty)}

theorem OnLink.unmoved {l : MissionLink ρ} (on : OnLink p due delivered transport queues l)
    {simulator : LinkSimulator} (moved : LinkSimulator.Unmoved l.simulator simulator) :
    OnLink p due delivered transport queues { l with simulator := simulator } :=
  ⟨on.pending, by rw [moved.clock]; exact on.due, moved.delivered.trans on.delivered,
    moved.transport.trans on.transport, on.matched, on.queues⟩

theorem keeps_onLink_reset (boot : ℕ) :
    Keeps (OnLink p due delivered transport queues) (reset boot : Program ρ ℕ) :=
  keeps_reset boot
    (fun _ on => ⟨on.pending, on.due, on.delivered, on.transport, .inl on.matched.reset.1,
      on.matched.reset.2.2.trans on.queues⟩)
    (fun _ _ moved on => on.unmoved moved)
    fun _ _ _ on => ⟨on.pending, on.due, on.delivered, on.transport, on.matched, on.queues⟩

/-- A receiver goes on whatever its resets do. -/
theorem triple_resetAll (boots : List ℕ) :
    Triple (OnLink p due delivered transport queues) (resetAll boots : Program ρ Unit)
      (fun _ => OnLink p due delivered transport queues) fun _ _ => False := by
  induction boots with
  | nil => exact Triple.pure fun _ on => on
  | cons boot rest ih =>
      have one : Keeps (OnLink p due delivered transport queues)
          (discard (reset boot) : Program ρ Unit) :=
        Keeps.bind (keeps_onLink_reset boot) fun _ => Keeps.pure _
      exact Triple.bind (Triple.tryCatch one fun _ => Triple.pure fun _ on => on) fun _ => ih

/-! ## Deliveries -/

/-- The record after the receiver was handed a frame, and what `on_delivered` returns. -/
def handed (p : PendingSend ρ) (frame : TransportFrame) : PendingSend ρ × Option String :=
  match p.receiver with
  | none => (p, none)
  | some receiver =>
      match receiver.answer frame with
      | .ok value => ({ p with result := some value }, none)
      | .error failure => ({ p with receiverError := some failure }, some "FRAME_FAILED")

theorem handed_of_ok {p : PendingSend ρ} {frame : TransportFrame} {receiver : LinkReceiver ρ}
    (receives : p.receiver = some receiver) {value : ρ}
    (answered : receiver.answer frame = .ok value) :
    handed p frame = ({ p with result := some value }, none) := by
  obtain ⟨direction, _, result, receiverError, status⟩ := p
  obtain rfl : _ = some receiver := receives
  rw [handed]
  dsimp only
  rw [answered]

theorem handed_of_error {p : PendingSend ρ} {frame : TransportFrame} {receiver : LinkReceiver ρ}
    (receives : p.receiver = some receiver) {failure : PyException}
    (answered : receiver.answer frame = .error failure) :
    handed p frame = ({ p with receiverError := some failure }, some "FRAME_FAILED") := by
  obtain ⟨direction, _, result, receiverError, status⟩ := p
  obtain rfl : _ = some receiver := receives
  rw [handed]
  dsimp only
  rw [answered]

theorem handed_status (p : PendingSend ρ) (frame : TransportFrame) :
    (handed p frame).2 = none ∨ (handed p frame).2 = some "FRAME_FAILED" := by
  unfold handed
  split
  · exact .inl rfl
  · split
    · exact .inl rfl
    · exact .inr rfl

/-- The record after a copy was delivered. -/
def settle (transport : Option (TransportFrame → Raises Unit)) (p : PendingSend ρ)
    (d : ScheduledDelivery) : PendingSend ρ :=
  match (transport.getD fun _ => .ok ()) d.frame with
  | .error _ => { p with status := some "FRAME_FAILED" }
  | .ok _ =>
      { (handed p d.frame).1 with status := some ((handed p d.frame).2.getD "FRAME_CONSUMED") }

/-- A computation without state, under an invariant. -/
theorem triple_answer {I : MissionLink ρ → Prop} {α : Type} (r : Raises α) :
    Triple I (liftRaises r : Program ρ α) (fun value l => r = .ok value ∧ I l)
      fun failure l => r = .error failure ∧ I l := by
  intro l holds
  cases r with
  | ok value => exact ⟨rfl, holds⟩
  | error failure => exact ⟨rfl, holds⟩

/-- The receiver is handed a frame. -/
theorem triple_onDelivered (frame : TransportFrame) :
    Triple (OnLink p due delivered transport queues) (onDelivered frame : Program ρ _)
      (fun status l => OnLink (handed p frame).1 due delivered transport queues l ∧
        status = (handed p frame).2) fun _ _ => False := by
  unfold onDelivered
  refine Triple.reading fun l on => ?_
  rw [on.pending, Option.bind_some]
  cases receives : p.receiver with
  | none =>
      have unchanged : handed p frame = (p, none) := by rw [handed, receives]
      rw [unchanged]
      exact Triple.pure fun _ on => ⟨on, rfl⟩
  | some receiver =>
      have asks : Triple (OnLink p due delivered transport queues)
          (receive receiver frame : Program ρ ρ)
          (fun value l => receiver.answer frame = .ok value ∧
            OnLink p due delivered transport queues l)
          fun failure l => receiver.answer frame = .error failure ∧
            OnLink p due delivered transport queues l :=
        Triple.bind (Triple.weaken (triple_resetAll _) (fun _ h => h) (fun _ _ h => h)
          fun _ _ h => h.elim) fun _ => triple_answer _
      refine Triple.tryCatch (Triple.bind asks fun value => Triple.bind (Triple.modify
        (Q := fun _ l => OnLink (handed p frame).1 due delivered transport queues l ∧
          none = (handed p frame).2) fun l both => ?_) fun _ => Triple.pure fun _ h => h)
        fun failure => Triple.bind (Triple.modify
          (Q := fun _ l => OnLink (handed p frame).1 due delivered transport queues l ∧
            some "FRAME_FAILED" = (handed p frame).2) fun l both => ?_)
          fun _ => Triple.pure fun _ h => h
      · rw [handed_of_ok receives both.1]
        exact ⟨⟨by rw [both.2.pending]; rfl, both.2.due, both.2.delivered, both.2.transport,
          both.2.matched, both.2.queues⟩, rfl⟩
      · rw [handed_of_error receives both.1]
        exact ⟨⟨by rw [both.2.pending]; rfl, both.2.due, both.2.delivered, both.2.transport,
          both.2.matched, both.2.queues⟩, rfl⟩

/-- A consumption is reported to the link. -/
theorem OnLink.onConsumed {l : MissionLink ρ} (on : OnLink p due delivered transport queues l)
    (message : LinkControlMessage) :
    OnLink { p with status := some (consumedStatus message) } due delivered transport queues
      (onConsumed message l) ∧ (MissionLink.onConsumed message l).adapter.Idle := by
  have reported := on.matched.report (consumedStatus message)
  refine ⟨⟨?_, on.due, on.delivered, on.transport, .inl reported.1, reported.2.trans on.queues⟩,
    reported.1⟩
  change l.pending.map _ = _
  rw [on.pending]
  rfl

theorem triple_emitConsumed (message : LinkControlMessage) :
    Triple (OnLink p due delivered transport queues) (emitConsumed message : Program ρ Unit)
      (fun _ l => OnLink { p with status := some (consumedStatus message) } due delivered transport
        queues l ∧ l.adapter.Idle) fun _ _ => False := fun l on =>
  (on.unmoved (LinkSimulator.unmoved_emitControl l.simulator message)).onConsumed message

/-- The `try` block of a delivery: it returns, unless the transport raises. -/
theorem triple_deliverBody (d : ScheduledDelivery) :
    Triple (OnLink p due delivered transport queues) (deliverBody d : Program ρ Unit)
      (fun _ l => OnLink (settle transport p d) due (delivered ++ [d]) transport queues l ∧
        l.adapter.Idle)
      fun _ l => OnLink p due (delivered ++ [d]) transport queues l ∧
        ∃ failure, (transport.getD fun _ => .ok ()) d.frame = .error failure := by
  unfold deliverBody
  refine Triple.bind (R := fun _ => OnLink p due (delivered ++ [d]) transport queues)
    (Triple.modify fun l on => ⟨on.pending, on.due, by rw [on.delivered], on.transport, on.matched,
      on.queues⟩) fun _ => Triple.reading fun l on => ?_
  rw [on.transport]
  refine Triple.bind (Triple.weaken (triple_answer _) (fun _ h => h) (fun _ _ h => h)
    fun failure _ h => ⟨h.2, failure, h.1⟩) fun _ => Triple.ofFact fun sent => ?_
  refine Triple.bind (Triple.weaken (triple_onDelivered _) (fun _ h => h) (fun _ _ h => h)
    fun _ _ h => h.elim) fun status => ?_
  refine Triple.ofFactRight fun returned => ?_
  refine Triple.bind (R := fun _ => OnLink (handed p d.frame).1 due (delivered ++ [d]) transport
    queues) (Triple.modify fun l on => ⟨on.pending, on.due, on.delivered, on.transport, on.matched,
      on.queues⟩) fun _ => ?_
  refine Triple.weaken (triple_emitConsumed _) (fun _ h => h) (fun _ l h => ?_) fun _ _ h => h.elim
  rw [settle, sent]
  dsimp only
  rw [returned] at h
  rcases handed_status p d.frame with none_ | failed
  · rw [none_] at h ⊢
    exact h
  · rw [failed] at h ⊢
    exact h

/-- **A copy is delivered**: the record shows what came of it, and nothing is out any more. -/
theorem triple_deliver (d : ScheduledDelivery) :
    Triple (OnLink p due delivered transport queues) (deliver d : Program ρ Unit)
      (fun _ l => OnLink (settle transport p d) due (delivered ++ [d]) transport queues l ∧
        l.adapter.Idle) fun _ _ => False := by
  refine Triple.tryCatch (triple_deliverBody d) fun failure => ?_
  refine Triple.ofFactRight fun ⟨failure, raised⟩ => ?_
  refine Triple.weaken (triple_emitConsumed _) (fun _ h => h) (fun _ l h => ?_) fun _ _ h => h
  rw [settle, raised]
  exact h

/-- The next event of a clock. -/
theorem popEvent_of_entries {clock : VirtualClock ScheduledDelivery}
    {entry : EventKey × ScheduledDelivery} {rest : List (EventKey × ScheduledDelivery)}
    (entries : clock.eventQueue.entries = entry :: rest) :
    ∃ clock', clock.popEvent = some (entry.2, clock') ∧ clock'.eventQueue.entries = rest := by
  obtain ⟨now, ⟨_, sorted⟩, order⟩ := clock
  obtain rfl : _ = entry :: rest := entries
  exact ⟨_, rfl, rfl⟩

/-- **The copies that are due are handed over in order.** -/
theorem triple_runUntilIdle (due : List (EventKey × ScheduledDelivery)) (p : PendingSend ρ)
    (delivered : List ScheduledDelivery) :
    Triple (OnLink p due delivered transport queues) (runUntilIdle due.length : Program ρ Unit)
      (fun _ l => OnLink ((due.map Prod.snd).foldl (settle transport) p) []
        (delivered ++ due.map Prod.snd) transport queues l ∧ (due ≠ [] → l.adapter.Idle))
      fun _ _ => False := by
  induction due generalizing p delivered with
  | nil =>
      refine Triple.pure fun l on => ⟨?_, fun absurd_ => absurd rfl absurd_⟩
      rw [List.map_nil, List.append_nil]
      exact on
  | cons entry rest ih =>
      refine Triple.withState fun l on => ?_
      obtain ⟨clock, popped, entries⟩ := popEvent_of_entries on.due
      rw [popped]
      refine Triple.bind (R := fun _ => OnLink p rest delivered transport queues)
        (Triple.set fun _ _ => ⟨on.pending, entries, on.delivered, on.transport, on.matched,
          on.queues⟩) fun _ => ?_
      refine Triple.bind (Triple.weaken (triple_deliver entry.2) (fun _ h => h) (fun _ _ h => h)
        fun _ _ h => h.elim) fun _ => ?_
      rw [List.map_cons, List.foldl_cons,
        List.append_cons delivered entry.2 (rest.map Prod.snd)]
      cases rest with
      | nil => exact Triple.pure fun _ both => ⟨by simpa using both.1, fun _ => both.2⟩
      | cons next rest =>
          exact Triple.weaken (ih _ _) (fun _ both => both.1)
            (fun _ _ h => ⟨h.1, fun _ => h.2 (List.cons_ne_nil _ _)⟩) fun _ _ h => h

end OnLink

end MissionLink

/-! ## Admissions -/

namespace LinkSimulator

/-- An admission that has reported nothing so far. -/
structure Unreported (s t : LinkSimulator) : Prop where
  events : ∃ messages, t.controlEvents = s.controlEvents ++ messages ∧
    ∀ m ∈ messages, m.messageType ≠ .frameConsumed
  delivered : t.delivered = s.delivered
  transport : t.transport = s.transport

/-- An admission that ended with the report of a status. -/
structure ReportedAs (s : LinkSimulator) (status : String) (t : LinkSimulator) : Prop where
  events : ∃ messages message, t.controlEvents = s.controlEvents ++ (messages ++ [message]) ∧
    (∀ m ∈ messages, m.messageType ≠ .frameConsumed) ∧ message.messageType = .frameConsumed ∧
      message.status = some status
  delivered : t.delivered = s.delivered
  transport : t.transport = s.transport

theorem Unreported.refl (s : LinkSimulator) : Unreported s s :=
  ⟨⟨[], (List.append_nil _).symm, nofun⟩, rfl, rfl⟩

variable {s : LinkSimulator}

/-- A step that leaves the events, the copies handed over and the transport. -/
theorem Unreported.of_same {t u : LinkSimulator} (unreported : Unreported s t)
    (events : u.controlEvents = t.controlEvents) (delivered : u.delivered = t.delivered)
    (transport : u.transport = t.transport) : Unreported s u where
  events := by rw [events]; exact unreported.events
  delivered := delivered.trans unreported.delivered
  transport := transport.trans unreported.transport

/-- The consumption of a frame is reported; the callback of the link returns. -/
theorem triple_report (callbacks : LinkCallbacks) (message : LinkControlMessage)
    (returns : ∀ message, (callbacks.onConsumed.getD fun _ => .ok ()) message = .ok ())
    {status : String} (type : message.messageType = .frameConsumed)
    (reported : message.status = some status) :
    Triple (Unreported s) (emitConsumed callbacks message) (fun _ => ReportedAs s status)
      fun _ _ => False := by
  intro t unreported
  unfold emitConsumed
  rw [returns]
  obtain ⟨messages, events, others⟩ := unreported.events
  exact ⟨⟨messages, message, by
    change t.controlEvents ++ [message] = _
    rw [events, List.append_assoc], others, type, reported⟩, unreported.delivered,
    unreported.transport⟩

/-- The callbacks of a link return. -/
theorem callbacks_return {ρ : Type} (receiver : Option (LinkReceiver ρ))
    (message : LinkControlMessage) :
    ((MissionLink.callbacks receiver).onConsumed.getD fun _ => .ok ()) message = .ok () := rfl

theorem keeps_unreported_drawCopy (a : AdmittedFrame) (copyIndex : ℕ) (includeDuplicate : Bool) :
    Keeps (Unreported s) (drawCopy a copyIndex includeDuplicate) := by
  unfold drawCopy
  refine Triple.withState fun t unreported => Triple.bind (Triple.weaken (triple_liftRaises _)
    (fun _ same => same) (fun _ _ h => h) fun _ _ same => same ▸ unreported) fun decision => ?_
  refine Triple.bind (R := fun _ => Unreported s) (Triple.set fun _ _ => ?_) fun _ => Keeps.pure _
  cases direction : a.direction <;> exact unreported.of_same rfl rfl rfl

theorem keeps_unreported_scheduleDelivery (a : AdmittedFrame) (copyIndex : ℕ)
    (decision : FaultDecision) : Keeps (Unreported s) (scheduleDelivery a copyIndex decision) := by
  intro t unreported
  rcases scheduleDelivery_cases t a copyIndex decision with ⟨failure, raised⟩ |
    ⟨frameBytes, due, -, scheduled⟩
  · rw [raised]
    exact unreported
  · rw [scheduled]
    exact unreported.of_same rfl rfl rfl

/-- From the fault model on, at most the loss of a copy is reported, at the end. -/
theorem triple_transmit_unreported {a : AdmittedFrame} (returns : ∀ message,
    (a.callbacks.onConsumed.getD fun _ => .ok ()) message = .ok ()) :
    Triple (Unreported s) (transmit a)
      (fun _ t => Unreported s t ∨ ReportedAs s "FRAME_LOST" t) fun _ => Unreported s := by
  have lost (copyIndex : ℕ) (reason : String) :
      Triple (Unreported s) (reportLost a copyIndex reason)
      (fun _ t => Unreported s t ∨ ReportedAs s "FRAME_LOST" t) fun _ => Unreported s :=
    Triple.weaken (triple_report _ _ returns rfl rfl) (fun _ h => h) (fun _ _ h => .inr h)
      fun _ _ h => h.elim
  unfold transmit
  refine Triple.bind (keeps_unreported_drawCopy a 0 true) fun decision => ?_
  split
  · exact lost 0 _
  refine Triple.bind (keeps_unreported_scheduleDelivery a 0 decision) fun _ => ?_
  split
  · unfold transmitDuplicate
    refine Triple.bind (keeps_unreported_drawCopy a 1 false) fun duplicate => ?_
    split
    · exact lost 1 _
    · exact Triple.weaken (keeps_unreported_scheduleDelivery a 1 duplicate) (fun _ h => h)
        (fun _ _ h => .inl h) fun _ _ h => h
  · exact Triple.pure fun _ h => .inl h

theorem triple_acceptFrame_unreported {a : AdmittedFrame} (returns : ∀ message,
    (a.callbacks.onConsumed.getD fun _ => .ok ()) message = .ok ()) :
    Triple (Unreported s) (acceptFrame a)
      (fun _ t => Unreported s t ∨ ReportedAs s "FRAME_LOST" t) fun _ => Unreported s := by
  unfold acceptFrame
  refine Triple.bind (R := fun _ => Unreported s) (Triple.modify fun t unreported => ?_) fun _ =>
    Triple.bind (keeps_liftRaises _ _) fun _ => triple_transmit_unreported returns
  obtain ⟨messages, events, others⟩ := unreported.events
  refine ⟨⟨messages ++ [_], by rw [events, List.append_assoc], fun m mem => ?_⟩,
    unreported.delivered, unreported.transport⟩
  rcases List.mem_append.mp mem with old | new
  · exact others m old
  · rw [List.mem_singleton.mp new]
    exact nofun

/-- The states of an admission before a copy is scheduled. -/
def Entering (s t : LinkSimulator) : Prop :=
  Unreported s t ∧ t.clock.eventQueue = s.clock.eventQueue

theorem keeps_entering_allocateLinkFrameId : Keeps (Entering s) allocateLinkFrameId := by
  unfold allocateLinkFrameId
  refine Triple.withState fun t entering => ?_
  dsimp only
  split
  · exact Triple.bind (R := fun _ => Entering s)
      (Triple.set fun _ _ => ⟨entering.1.of_same rfl rfl rfl, entering.2⟩)
      fun _ => keeps_liftRaises _ _
  · exact Triple.bind (R := fun _ => Entering s)
      (Triple.set fun _ _ => ⟨entering.1.of_same rfl rfl rfl, entering.2⟩) fun _ => Keeps.pure _

theorem keeps_entering_admitFileEpoch (direction : Direction) (session : Option Session)
    (linkFrameId : ℕ) (frameBytes : Bytes) :
    Keeps (Entering s) (admitFileEpoch direction session linkFrameId frameBytes) := by
  unfold admitFileEpoch
  refine Triple.reading fun t entering => ?_
  split
  · exact Keeps.pure _
  split
  · exact Keeps.pure _
  · exact Triple.bind (R := fun _ => Entering s)
      (Triple.set fun _ _ => ⟨entering.1.of_same rfl rfl rfl, entering.2⟩) fun _ => Keeps.pure _

/-- How an admission ends: without a frame, after the report of its epoch; or with a frame,
after the report of a loss or none. -/
def Admitted (s : LinkSimulator) (frame : Option ℕ) (t : LinkSimulator) : Prop :=
  match frame with
  | none => ReportedAs s "FILE_EPOCH_REJECTED" t ∧ t.clock.eventQueue = s.clock.eventQueue
  | some _ => Unreported s t ∨ ReportedAs s "FRAME_LOST" t

/-- **An admission reports at most once**, as the last thing it does. -/
theorem triple_admitWithSession_admitted (frame : TransportFrame) (direction : Direction)
    (session : Option Session) {ρ : Type} (receiver : Option (LinkReceiver ρ)) :
    Triple (fun t => t = s)
      (admitWithSession frame direction session (MissionLink.callbacks receiver)) (Admitted s)
      fun _ => Unreported s := by
  suffices Triple (Entering s)
      (admitWithSession frame direction session (MissionLink.callbacks receiver)) (Admitted s)
      fun _ => Unreported s from
    Triple.weaken this (fun t same => by rw [same]; exact ⟨.refl s, rfl⟩) (fun _ _ h => h)
      fun _ _ h => h
  unfold admitWithSession
  have leaves {α : Type} {x : LinkProgram α} (keeps : Keeps (Entering s) x) :
      Triple (Entering s) x (fun _ => Entering s) fun _ => Unreported s :=
    Triple.weaken keeps (fun _ h => h) (fun _ _ h => h) fun _ _ h => h.1
  refine Triple.bind (leaves keeps_entering_allocateLinkFrameId) fun linkFrameId =>
    Triple.bind (leaves (keeps_checkpointChanged _)) fun _ => Triple.reading fun t entering => ?_
  refine Triple.bind (leaves (keeps_entering_admitFileEpoch _ _ _ _)) fun admission => ?_
  dsimp only
  split
  · rename_i reason _
    refine Triple.bind (R := fun _ u => ReportedAs s "FILE_EPOCH_REJECTED" u ∧
      u.clock.eventQueue = s.clock.eventQueue) (fun u now => ?_)
      fun _ => Triple.pure fun _ h => h
    have reported := triple_report (s := s) (MissionLink.callbacks receiver)
      (controlMessage .frameConsumed session frame.envelope.spacecraftInstanceId linkFrameId
        admission.epochId 0 (some "FILE_EPOCH_REJECTED") (some reason))
      (callbacks_return receiver) rfl rfl u now.1
    exact ⟨reported, now.2⟩
  · exact Triple.bind (Triple.weaken (triple_acceptFrame_unreported (callbacks_return receiver))
      (fun _ h => h.1) (fun _ _ h => h) fun _ _ h => h) fun _ => Triple.pure fun _ h => h

/-- A frame that the gates refuse leaves the simulator as it is. -/
theorem admitFrame_of_gate_none {frame : TransportFrame} (gate : s.ingressGate frame = none)
    (direction : Direction) (callbacks : LinkCallbacks) :
    admitFrame frame direction callbacks s = .ok none s := by
  unfold admitFrame
  rw [get_bind, gate]
  rfl

theorem triple_admitFrame_admitted {frame : TransportFrame} {session : Option Session}
    (gate : s.ingressGate frame = some session) (direction : Direction) {ρ : Type}
    (receiver : Option (LinkReceiver ρ)) :
    Triple (fun t => t = s) (admitFrame frame direction (MissionLink.callbacks receiver))
      (Admitted s) fun _ => Unreported s := by
  unfold admitFrame
  refine Triple.withState fun t same => ?_
  subst same
  rw [gate]
  exact triple_admitWithSession_admitted frame direction session receiver

end LinkSimulator

namespace MissionLink

theorem consumedSince_of_unreported {s t : LinkSimulator}
    (unreported : LinkSimulator.Unreported s t) :
    consumedSince s t = [] := by
  obtain ⟨messages, events, others⟩ := unreported.events
  rw [consumedSince, events, List.drop_left]
  exact List.filter_eq_nil_iff.mpr fun m mem => by simpa using others m mem

theorem consumedSince_of_reportedAs {s t : LinkSimulator} {status : String}
    (reported : LinkSimulator.ReportedAs s status t) :
    ∃ message, consumedSince s t = [message] ∧ message.status = some status := by
  obtain ⟨messages, message, events, others, type, same⟩ := reported.events
  refine ⟨message, ?_, same⟩
  rw [consumedSince, events, List.drop_left, List.filter_append,
    List.filter_eq_nil_iff.mpr fun m mem => by simpa using others m mem, List.nil_append,
    List.filter_cons_of_pos (by simpa using type), List.filter_nil]

/-! ## The simulator's own delivery -/

/-- A receiver that makes no resets is handed a frame. -/
theorem onDelivered_of_noResets {l : MissionLink ρ} {p : PendingSend ρ}
    (pending : l.pending = some p) (frame : TransportFrame)
    (noResets : ∀ receiver, p.receiver = some receiver → receiver.resets frame = []) :
    onDelivered frame l =
      .ok (handed p frame).2 { l with pending := some (handed p frame).1 } := by
  unfold onDelivered
  rw [get_bind, pending, Option.bind_some]
  cases receives : p.receiver with
  | none =>
      rw [show handed p frame = (p, none) by rw [handed, receives], ← pending]
      rfl
  | some receiver =>
      have asks : receive receiver frame l = liftRaises (receiver.answer frame) l := by
        unfold receive
        rw [noResets receiver receives]
        rfl
      dsimp only
      cases answered : receiver.answer frame with
      | ok value =>
          rw [answered] at asks
          have kept : keepResult receiver frame l = .ok none
              { l with pending := l.pending.map fun p => { p with result := some value } } := by
            unfold keepResult
            rw [bind_of_ok (asks.trans rfl)]
            rfl
          rw [tryCatch_of_ok kept, handed_of_ok receives answered, pending]
          rfl
      | error failure =>
          rw [answered] at asks
          have raised : keepResult receiver frame l = .error failure l := by
            unfold keepResult
            rw [bind_of_error (asks.trans rfl)]
          rw [tryCatch_of_error raised, handed_of_error receives answered, modify_bind, pending]
          rfl

/-- The callback of the simulator says what the receiver's answer makes of a frame. -/
theorem callbacks_onDelivered (p : PendingSend ρ) (frame : TransportFrame) :
    ((callbacks p.receiver).onDelivered.getD fun _ => .ok none) frame =
      .ok (handed p frame).2 := by
  unfold callbacks handed
  cases p.receiver with
  | none => rfl
  | some receiver =>
      dsimp only [Option.map_some, Option.getD_some]
      cases receiver.answer frame <;> rfl

/-- **A delivery does to the simulator what the simulator's own delivery does**, under the
callbacks of a receiver that makes no resets. -/
theorem deliver_simulator {l : MissionLink ρ} {p : PendingSend ρ} (pending : l.pending = some p)
    (d : ScheduledDelivery) (handles : d.callbacks = callbacks p.receiver)
    (noResets : ∀ receiver, p.receiver = some receiver → receiver.resets d.frame = []) :
    (finalState (deliver d l)).simulator = finalState (LinkSimulator.deliver d l.simulator) := by
  have returns (message : LinkControlMessage) :
      (d.callbacks.onConsumed.getD fun _ => .ok ()) message = .ok () := by
    rw [handles]
    rfl
  have reports (s : LinkSimulator) (message : LinkControlMessage) :
      LinkSimulator.emitConsumed d.callbacks message s =
        .ok () { s with controlEvents := s.controlEvents ++ [message] } := by
    unfold LinkSimulator.emitConsumed
    rw [returns]
    rfl
  have delivers := callbacks_onDelivered p d.frame
  rw [← handles] at delivers
  let entered : MissionLink ρ := { l with
    simulator := { l.simulator with delivered := l.simulator.delivered ++ [d] } }
  cases sent : (l.simulator.transport.getD fun _ => .ok ()) d.frame with
  | error failure =>
      have handOver : LinkSimulator.handOver l.simulator.transport d = .error failure := by
        unfold LinkSimulator.handOver
        rw [sent]
        rfl
      have theirs : LinkSimulator.deliverBody d l.simulator = .error failure entered.simulator := by
        unfold LinkSimulator.deliverBody
        rw [get_bind, handOver]
        rfl
      have ours : deliverBody d l = .error failure entered := by
        unfold deliverBody
        rw [modify_bind, get_bind, sent]
        rfl
      unfold deliver LinkSimulator.deliver
      rw [tryCatch_of_error ours, tryCatch_of_error theirs, reports]
      rfl
  | ok u =>
      have handOver : LinkSimulator.handOver l.simulator.transport d =
          .ok ((handed p d.frame).2.getD "FRAME_CONSUMED") := by
        unfold LinkSimulator.handOver
        rw [sent, delivers]
        rcases handed_status p d.frame with none_ | failed
        · rw [none_]
          rfl
        · rw [failed]
          rfl
      let fenced : LinkSimulator := { entered.simulator with
        fileEpochManager := LinkSimulator.releaseFence d l.simulator.fileEpochManager }
      let message := LinkSimulator.consumedMessage d
        ((handed p d.frame).2.getD "FRAME_CONSUMED") none
      have theirs : LinkSimulator.deliverBody d l.simulator =
          .ok () { fenced with controlEvents := fenced.controlEvents ++ [message] } := by
        unfold LinkSimulator.deliverBody
        rw [get_bind, handOver]
        exact reports fenced message
      have ours : deliverBody d l = .ok () (onConsumed message
          { l with
            simulator := { fenced with controlEvents := fenced.controlEvents ++ [message] }
            pending := some (handed p d.frame).1 }) := by
        unfold deliverBody
        rw [modify_bind, get_bind, sent]
        have onDelivered_ := onDelivered_of_noResets (l := entered) pending d.frame noResets
        change (onDelivered d.frame >>= fun _ => _) entered = _
        rw [bind_of_ok onDelivered_]
        rcases handed_status p d.frame with none_ | failed
        · dsimp only [message]
          rw [none_]
          rfl
        · dsimp only [message]
          rw [failed]
          rfl
      unfold deliver LinkSimulator.deliver
      rw [tryCatch_of_ok ours, tryCatch_of_ok theirs]
      rfl

/-! ## Between two calls -/

/-- What holds of the adapter and the simulator before and after a frame was on the link: the
queues are empty unless the scheduler is not ready, and nothing waits for delivery when it is
ready. -/
structure Calm {ρ : Type} (l : MissionLink ρ) : Prop where
  matched : l.adapter.Matched
  queues : l.adapter.scheduler.state ≠ .notReady → ∀ kind, l.adapter.scheduler.queues kind = []
  due : l.adapter.scheduler.state = .ready → l.simulator.clock.eventQueue.entries = []

/-- **The link between two calls.** -/
structure Between {ρ : Type} (l : MissionLink ρ) : Prop where
  pending : l.pending = none
  calm : l.Calm

variable {ρ : Type}

/-- Whether a copy reaches the receiver. -/
def Reaches (transport : Option (TransportFrame → Raises Unit)) (d : ScheduledDelivery) : Prop :=
  (transport.getD fun _ => .ok ()) d.frame = .ok ()

/-- A copy reaches the receiver, which accepts it. -/
def Accepts (transport : Option (TransportFrame → Raises Unit)) (p : PendingSend ρ)
    (d : ScheduledDelivery) : Prop :=
  Reaches transport d ∧ (handed p d.frame).2 = none

/-- A copy reaches the receiver, which refuses it. -/
def Refuses (transport : Option (TransportFrame → Raises Unit)) (p : PendingSend ρ)
    (d : ScheduledDelivery) : Prop :=
  Reaches transport d ∧ (handed p d.frame).2 ≠ none

/-- The copies that an admission leaves on their way, in the order they are due. -/
def copies (l : MissionLink ρ) (p : PendingSend ρ) (frame : Bytes) : List ScheduledDelivery :=
  match LinkSimulator.admitFrame (l.ingressFrame frame) p.direction (callbacks p.receiver)
      l.simulator with
  | .ok (some _) simulator => simulator.clock.eventQueue.entries.map Prod.snd
  | _ => []

/-- No copy is refused, and the last one is accepted. -/
def AllAccepted (transport : Option (TransportFrame → Raises Unit)) (p : PendingSend ρ)
    (ds : List ScheduledDelivery) : Prop :=
  (∀ d ∈ ds, ¬ Refuses transport p d) ∧ ∃ d, ds.getLast? = some d ∧ Accepts transport p d

/-- What a receiver answers depends on nothing else in the record. -/
theorem handed_snd_congr {p p' : PendingSend ρ} (same : p'.receiver = p.receiver)
    (frame : TransportFrame) : (handed p' frame).2 = (handed p frame).2 := by
  unfold handed
  rw [same]
  cases p.receiver with
  | none => rfl
  | some receiver =>
      dsimp only
      split <;> rfl

theorem receiver_handed (p : PendingSend ρ) (frame : TransportFrame) :
    (handed p frame).1.receiver = p.receiver := by
  unfold handed
  split
  · rfl
  · split <;> rfl

variable {transport : Option (TransportFrame → Raises Unit)}

theorem receiver_settle (p : PendingSend ρ) (d : ScheduledDelivery) :
    (settle transport p d).receiver = p.receiver := by
  unfold settle
  split
  · rfl
  · exact receiver_handed p d.frame

theorem refuses_congr {p p' : PendingSend ρ} (same : p'.receiver = p.receiver)
    (d : ScheduledDelivery) : Refuses transport p' d ↔ Refuses transport p d := by
  rw [Refuses, Refuses, handed_snd_congr same]

theorem accepts_congr {p p' : PendingSend ρ} (same : p'.receiver = p.receiver)
    (d : ScheduledDelivery) : Accepts transport p' d ↔ Accepts transport p d := by
  rw [Accepts, Accepts, handed_snd_congr same]

/-- The status after a copy. -/
theorem status_settle (p : PendingSend ρ) (d : ScheduledDelivery) :
    (Accepts transport p d ∧ (settle transport p d).status = some "FRAME_CONSUMED") ∨
      (¬ Accepts transport p d ∧ (settle transport p d).status = some "FRAME_FAILED") := by
  unfold settle Accepts Reaches
  cases sent : (transport.getD fun _ => .ok ()) d.frame with
  | error failure => exact .inr ⟨fun accepts => (nomatch accepts.1), rfl⟩
  | ok u =>
      rcases handed_status p d.frame with none_ | failed
      · rw [none_]
        exact .inl ⟨⟨rfl, rfl⟩, rfl⟩
      · rw [failed]
        exact .inr ⟨fun accepts => (nomatch accepts.2), rfl⟩

/-- A copy leaves an error in the record exactly if it is refused. -/
theorem receiverError_settle {p : PendingSend ρ} (d : ScheduledDelivery) :
    (settle transport p d).receiverError = none ↔
      p.receiverError = none ∧ ¬ Refuses transport p d := by
  unfold settle Refuses Reaches
  cases sent : (transport.getD fun _ => .ok ()) d.frame with
  | error failure => exact ⟨fun clean => ⟨clean, fun refuses => (nomatch refuses.1)⟩, And.left⟩
  | ok u =>
      dsimp only
      unfold handed
      cases p.receiver with
      | none => exact ⟨fun clean => ⟨clean, fun refuses => refuses.2 rfl⟩, And.left⟩
      | some receiver =>
          dsimp only
          cases receiver.answer d.frame with
          | ok value => exact ⟨fun clean => ⟨clean, fun refuses => refuses.2 rfl⟩, And.left⟩
          | error failure =>
              exact ⟨fun clean => (nomatch clean), fun both => absurd ⟨rfl, nofun⟩ both.2⟩

theorem receiver_foldl_settle (ds : List ScheduledDelivery) (p : PendingSend ρ) :
    (ds.foldl (settle transport) p).receiver = p.receiver := by
  induction ds generalizing p with
  | nil => rfl
  | cons d rest ih => exact (ih _).trans (receiver_settle p d)

theorem receiverError_foldl_settle (ds : List ScheduledDelivery) (p : PendingSend ρ) :
    (ds.foldl (settle transport) p).receiverError = none ↔
      p.receiverError = none ∧ ∀ d ∈ ds, ¬ Refuses transport p d := by
  induction ds generalizing p with
  | nil => exact ⟨fun clean => ⟨clean, nofun⟩, And.left⟩
  | cons d rest ih =>
      rw [List.foldl_cons, ih, receiverError_settle, List.forall_mem_cons, and_assoc]
      simp only [refuses_congr (receiver_settle p d)]

/-- What the record says after the copies were handed over. -/
theorem outcome_foldl_settle {ds : List ScheduledDelivery} (some_ : ds ≠ []) {p : PendingSend ρ}
    (unrefused : p.receiverError = none) :
    (∃ result, PendingSend.outcome (ds.foldl (settle transport) p) = .ok result) ↔
      AllAccepted transport p ds := by
  have errors := @receiverError_foldl_settle ρ transport ds p
  rcases List.eq_nil_or_concat ds with nil | ⟨init, last, rfl⟩
  · exact absurd nil some_
  have final := @status_settle ρ transport (init.foldl (settle transport) p) last
  rw [accepts_congr (receiver_foldl_settle init p)] at final
  rw [List.concat_eq_append, List.foldl_append, List.foldl_cons, List.foldl_nil] at *
  unfold AllAccepted PendingSend.outcome
  rw [List.getLast?_concat]
  cases error : (settle transport (init.foldl (settle transport) p) last).receiverError with
  | some failure =>
      refine ⟨fun ⟨_, raised⟩ => (nomatch raised), fun ⟨unrefused', _⟩ => ?_⟩
      rw [errors.mpr ⟨unrefused, unrefused'⟩] at error
      cases error
  | none =>
      have unrefused' := (errors.mp error).2
      rcases final with ⟨accepts, status⟩ | ⟨not, status⟩
      · rw [status]
        exact ⟨fun _ => ⟨unrefused', last, rfl, accepts⟩, fun _ => ⟨_, rfl⟩⟩
      · rw [status]
        refine ⟨fun ⟨_, raised⟩ => (nomatch raised), fun ⟨_, d, same, accepts⟩ => ?_⟩
        obtain rfl := Option.some.inj same
        exact absurd accepts not

/-- A failed status is raised. -/
theorem not_outcome_of_failed {p : PendingSend ρ} (unrefused : p.receiverError = none)
    {status : String} (reported : p.status = some status) (failed : status ∈ failedStatuses) :
    ¬ ∃ result, PendingSend.outcome p = .ok result := by
  rintro ⟨result, outcome⟩
  rw [PendingSend.outcome, unrefused, reported] at outcome
  dsimp only at outcome
  rw [if_pos failed] at outcome
  cases outcome

theorem allAccepted_congr {p p' : PendingSend ρ} (same : p'.receiver = p.receiver)
    (ds : List ScheduledDelivery) :
    AllAccepted transport p' ds ↔ AllAccepted transport p ds := by
  simp only [AllAccepted, refuses_congr same, accepts_congr same]

/-! ## A frame on a ready link -/

/-- A frame comes back without an error: the gates of the simulator refuse it, or its copies are
accepted. -/
def Returns (l : MissionLink ρ) (p : PendingSend ρ) (frame : Bytes) : Prop :=
  l.simulator.ingressGate (l.ingressFrame frame) = none ∨
    AllAccepted l.simulator.transport p (copies l p frame)

/-- A frame that is not taken leaves no copies. -/
theorem copies_of_refused {l : MissionLink ρ} {p : PendingSend ρ} {frame : Bytes}
    {s : LinkSimulator} (ran : LinkSimulator.admitFrame (l.ingressFrame frame) p.direction
      (callbacks p.receiver) l.simulator = .ok none s) : copies l p frame = [] := by
  unfold copies
  rw [ran]

theorem copies_of_taken {l : MissionLink ρ} {p : PendingSend ρ} {frame : Bytes} {id : ℕ}
    {s : LinkSimulator} (ran : LinkSimulator.admitFrame (l.ingressFrame frame) p.direction
      (callbacks p.receiver) l.simulator = .ok (some id) s) :
    copies l p frame = s.clock.eventQueue.entries.map Prod.snd := by
  unfold copies
  rw [ran]

theorem copies_of_error {l : MissionLink ρ} {p : PendingSend ρ} {frame : Bytes}
    {failure : PyException} {s : LinkSimulator}
    (ran : LinkSimulator.admitFrame (l.ingressFrame frame) p.direction (callbacks p.receiver)
      l.simulator = .error failure s) : copies l p frame = [] := by
  unfold copies
  rw [ran]

theorem not_allAccepted_nil (p : PendingSend ρ) : ¬ AllAccepted transport p [] :=
  fun all => by
    obtain ⟨d, none_, -⟩ := all.2
    cases none_

/-- A link with the simulator that a call left, after its reports. -/
def afterReports (l : MissionLink ρ) (simulator : LinkSimulator) : MissionLink ρ :=
  (consumedSince l.simulator simulator).foldl (fun m message => onConsumed message m)
    { l with simulator := simulator }

theorem reporting_of_ok {α : Type} {x : LinkProgram α} {l : MissionLink ρ} {value : α}
    {simulator : LinkSimulator} (ran : x l.simulator = .ok value simulator) :
    reporting x l = .ok value (l.afterReports simulator) := by
  unfold reporting
  rw [get_bind]
  dsimp only
  rw [ran]
  rfl

theorem reporting_of_error {α : Type} {x : LinkProgram α} {l : MissionLink ρ}
    {failure : PyException} {simulator : LinkSimulator}
    (ran : x l.simulator = .error failure simulator) :
    reporting x l = .error failure (l.afterReports simulator) := by
  unfold reporting
  rw [get_bind]
  dsimp only
  rw [ran]
  rfl

/-- What a link that sends a frame is left with. -/
structure Sent (l : MissionLink ρ) (p : PendingSend ρ) (frame : Bytes)
    (queues : QueueKind → List (ScheduledItem Bytes Empty)) (t : MissionLink ρ) : Prop where
  on : ∃ p', OnLink p' [] (l.simulator.delivered ++ copies l p frame) l.simulator.transport
    queues t ∧ (t.adapter.inFlight = false ∧ (∃ result, PendingSend.outcome p' = .ok result) ↔
      Returns l p frame)

/-- What a link is left with when the admission of a frame raised. -/
structure Failed (l : MissionLink ρ) (p : PendingSend ρ) (frame : Bytes)
    (queues : QueueKind → List (ScheduledItem Bytes Empty)) (t : MissionLink ρ) : Prop where
  out : ∃ item, t.adapter.Out item
  queues : t.adapter.scheduler.queues = queues
  delivered : t.simulator.delivered = l.simulator.delivered
  noCopies : copies l p frame = []
  notReturns : ¬ Returns l p frame

/-- What the admission of a frame leaves on the link. -/
def AdmissionLeaves (l : MissionLink ρ) (p : PendingSend ρ) (frame : Bytes)
    (queues : QueueKind → List (ScheduledItem Bytes Empty)) (item : ScheduledItem Bytes Empty)
    (taken : Option ℕ) (t : MissionLink ρ) : Prop :=
  match taken with
  | none =>
      (l.simulator.ingressGate (l.ingressFrame frame) = none ∧ copies l p frame = [] ∧
        OnLink p [] l.simulator.delivered l.simulator.transport queues t ∧ t.adapter.Out item) ∨
      (¬ Returns l p frame ∧ copies l p frame = [] ∧ t.adapter.Idle ∧
        OnLink { p with status := some "FILE_EPOCH_REJECTED" } [] l.simulator.delivered
          l.simulator.transport queues t)
  | some _ =>
      l.simulator.ingressGate (l.ingressFrame frame) ≠ none ∧
      ∃ due, copies l p frame = due.map Prod.snd ∧
        ((OnLink p due l.simulator.delivered l.simulator.transport queues t ∧
          t.adapter.Out item) ∨
        (OnLink { p with status := some "FRAME_LOST" } due l.simulator.delivered
          l.simulator.transport queues t ∧ t.adapter.Idle))

/-- A frame is admitted, and what was reported of it is in its record. -/
theorem triple_admission {l : MissionLink ρ} {p : PendingSend ρ}
    {queues : QueueKind → List (ScheduledItem Bytes Empty)}
    {item : ScheduledItem Bytes Empty} (frame : Bytes) {m : MissionLink ρ}
    (simulator : m.simulator = l.simulator)
    (on : OnLink p [] l.simulator.delivered l.simulator.transport queues m)
    (out : m.adapter.Out item) :
    Triple (fun t => t = m)
      (reporting (LinkSimulator.admitFrame (l.ingressFrame frame) p.direction
        (callbacks p.receiver)))
      (AdmissionLeaves l p frame queues item) fun _ => Failed l p frame queues := by
  rintro t rfl
  cases gate : l.simulator.ingressGate (l.ingressFrame frame) with
  | none =>
      have ran := LinkSimulator.admitFrame_of_gate_none gate p.direction (callbacks p.receiver)
      have nothing := consumedSince_of_unreported (LinkSimulator.Unreported.refl l.simulator)
      rw [reporting_of_ok (simulator ▸ ran), afterReports, simulator, nothing]
      refine .inl ⟨gate, copies_of_refused ran, ?_, out⟩
      exact ⟨on.pending, simulator ▸ on.due, rfl, rfl, on.matched, on.queues⟩
  | some session =>
      have passed : l.simulator.ingressGate (l.ingressFrame frame) ≠ none := by
        rw [gate]
        exact nofun
      have unreturned (none_ : copies l p frame = []) : ¬ Returns l p frame := by
        rintro (refused | all)
        · exact passed refused
        · rw [none_] at all
          exact not_allAccepted_nil p all
      have admitted := LinkSimulator.triple_admitFrame_admitted gate p.direction p.receiver
        l.simulator rfl
      cases ran : LinkSimulator.admitFrame (l.ingressFrame frame) p.direction
          (callbacks p.receiver) l.simulator with
      | error failure s =>
          rw [ran] at admitted
          have none_ := copies_of_error ran
          rw [reporting_of_error (simulator ▸ ran), afterReports, simulator,
            consumedSince_of_unreported admitted]
          exact ⟨⟨item, out⟩, on.queues, admitted.delivered, none_, unreturned none_⟩
      | ok taken s =>
          rw [ran] at admitted
          rw [reporting_of_ok (simulator ▸ ran), afterReports, simulator]
          -- the link with the simulator the admission left, before the report
          have base (delivered : s.delivered = l.simulator.delivered)
              (transport : s.transport = l.simulator.transport) :
              OnLink p s.clock.eventQueue.entries l.simulator.delivered l.simulator.transport
                queues { t with simulator := s } :=
            ⟨on.pending, rfl, delivered, transport, on.matched, on.queues⟩
          have lost {status : String} (reported : LinkSimulator.ReportedAs l.simulator status s)
              (nonempty : status ≠ "") :
              ∃ message, consumedSince l.simulator s = [message] ∧
                consumedStatus message = status := by
            obtain ⟨message, since, same⟩ := consumedSince_of_reportedAs reported
            exact ⟨message, since, by rw [consumedStatus, same]; exact if_neg nonempty⟩
          cases taken with
          | none =>
              obtain ⟨reported, unscheduled⟩ := admitted
              have none_ := copies_of_refused ran
              obtain ⟨message, since, status⟩ := lost reported (by decide)
              have consumed := (base reported.delivered reported.transport).onConsumed message
              have none_due : s.clock.eventQueue.entries = [] := by
                rw [unscheduled, ← simulator]
                exact on.due
              rw [none_due, status] at consumed
              rw [since]
              exact .inr ⟨unreturned none_, none_, consumed.2, consumed.1⟩
          | some id =>
              refine ⟨passed, s.clock.eventQueue.entries, copies_of_taken ran, ?_⟩
              rcases admitted with unreported | reported
              · rw [consumedSince_of_unreported unreported]
                exact .inl ⟨base unreported.delivered unreported.transport, out⟩
              · obtain ⟨message, since, status⟩ := lost reported (by decide)
                have consumed := (base reported.delivered reported.transport).onConsumed message
                rw [status] at consumed
                rw [since]
                exact .inr consumed

/-- The copies that an admission left are handed over. -/
theorem triple_handOver {l : MissionLink ρ} {p p' : PendingSend ρ} {frame : Bytes}
    {queues : QueueKind → List (ScheduledItem Bytes Empty)}
    {due : List (EventKey × ScheduledDelivery)}
    (passed : l.simulator.ingressGate (l.ingressFrame frame) ≠ none)
    (left_ : copies l p frame = due.map Prod.snd) (receiver : p'.receiver = p.receiver)
    (unrefused : p'.receiverError = none) {u : MissionLink ρ}
    (on : OnLink p' due l.simulator.delivered l.simulator.transport queues u)
    (stuck : ¬ (u.adapter.inFlight = false ∧ ∃ result, PendingSend.outcome p' = .ok result)) :
    Triple (fun t => t = u) (runUntilIdle due.length) (fun _ => Sent l p frame queues)
      fun _ _ => False := by
  cases due with
  | nil =>
      rintro t rfl
      rw [List.map_nil] at left_
      refine ⟨p', by rw [left_, List.append_nil]; exact on, fun returns => absurd returns stuck, ?_⟩
      rintro (refused | all)
      · exact absurd refused passed
      · rw [left_] at all
        exact absurd all (not_allAccepted_nil p)
  | cons entry rest =>
      refine Triple.weaken (triple_runUntilIdle (entry :: rest) p' l.simulator.delivered)
        (fun t same => same ▸ on)
        (fun _ t h => ⟨((entry :: rest).map Prod.snd).foldl (settle l.simulator.transport) p',
          by rw [left_]; exact h.1, ?_⟩) fun _ _ h => h
      have idle := (h.2 (List.cons_ne_nil _ _)).inFlight
      rw [outcome_foldl_settle (by simp) unrefused, allAccepted_congr receiver, ← left_]
      exact ⟨fun both => .inr both.2, fun returns => ⟨idle, returns.resolve_left passed⟩⟩

/-- **A frame is sent.** -/
theorem triple_sendFrame {l : MissionLink ρ} {p : PendingSend ρ}
    {queues : QueueKind → List (ScheduledItem Bytes Empty)}
    {item : ScheduledItem Bytes Empty} (frame : Bytes)
    (on : OnLink p [] l.simulator.delivered l.simulator.transport queues l)
    (out : l.adapter.Out item) (unrefused : p.receiverError = none) (unreported : p.status = none) :
    Triple (fun t => t = l) (sendFrame frame) (fun _ => Sent l p frame queues)
      fun _ => Failed l p frame queues := by
  unfold sendFrame
  refine Triple.withState fun t same => ?_
  subst same
  rw [on.pending]
  dsimp only
  let m : MissionLink ρ :=
    { t with pending := some p, nextSenderFrameId := t.nextSenderFrameId + 1 }
  refine Triple.bind (R := fun _ u => u = m) (Triple.set fun _ _ => rfl) fun _ =>
    Triple.bind (triple_admission (l := t) (m := m) frame rfl
      ⟨rfl, on.due, on.delivered, on.transport, on.matched, on.queues⟩ out) fun taken => ?_
  cases taken with
  | none =>
      rintro u (⟨gate, none_, now, out⟩ | ⟨notReturns, none_, idle, now⟩)
      · have reported := now.matched.report "FRAME_REJECTED"
        refine ⟨p, ?_, fun _ => .inl gate, fun _ => ⟨reported.1.inFlight, p.result, ?_⟩⟩
        · rw [none_, List.append_nil]
          exact ⟨now.pending, now.due, now.delivered, now.transport, .inl reported.1,
            reported.2.trans now.queues⟩
        · rw [PendingSend.outcome, unrefused, unreported]
      · refine ⟨{ p with status := some "FILE_EPOCH_REJECTED" }, ?_, fun both => ?_,
          fun returns => absurd returns notReturns⟩
        · rw [none_, List.append_nil]
          exact ⟨now.pending, now.due, now.delivered, now.transport,
            .inl (now.matched.report _).1, (now.matched.report _).2.trans now.queues⟩
        · exact absurd both.2 (not_outcome_of_failed unrefused rfl (by decide))
  | some id =>
      refine Triple.withState fun u leaves => ?_
      obtain ⟨passed, due, left_, ⟨now, out⟩ | ⟨now, idle⟩⟩ := leaves
      · rw [now.due]
        refine Triple.weaken (triple_handOver passed left_ rfl unrefused now fun both => ?_)
          (fun _ h => h) (fun _ _ h => h) fun _ _ h => h.elim
        rw [out.inFlight] at both
        cases both.1
      · rw [now.due]
        let lost : PendingSend ρ := { p with status := some "FRAME_LOST" }
        have raises := not_outcome_of_failed (p := lost) unrefused rfl (by decide)
        exact Triple.weaken (triple_handOver passed left_ (show lost.receiver = p.receiver from rfl)
          unrefused now fun both => absurd both.2 raises) (fun _ h => h) (fun _ _ h => h)
          fun _ _ h => h.elim

/-! ## The exchange of a frame -/

/-- What an exchange leaves on a ready link. -/
structure Exchanged (l : MissionLink ρ) (p : PendingSend ρ) (frame : Bytes) (t : MissionLink ρ) :
    Prop where
  calm : t.Calm
  delivered : t.simulator.delivered = l.simulator.delivered ++ copies l p frame

/-- **An exchange on a ready link** returns exactly if the frame comes back without an error. -/
theorem triple_exchange_of_ready {l : MissionLink ρ} {p : PendingSend ρ}
    (pending : l.pending = some p) (idle : l.adapter.Idle) (calm : l.Calm)
    (ready : l.adapter.scheduler.state = .ready) (unrefused : p.receiverError = none)
    (unreported : p.status = none) (queueKind : QueueKind) (frame : Bytes) :
    Triple (fun t => t = l) (exchange queueKind frame)
      (fun _ t => Exchanged l p frame t ∧ Returns l p frame)
      fun _ t => Exchanged l p frame t ∧ ¬ Returns l p frame := by
  have empty := calm.queues (by rw [ready]; exact nofun)
  obtain ⟨id, q, item, a, accepted, sends, out, none_⟩ :=
    MissionUdpAdapter.sendNext_of_ready idle ready empty queueKind frame
  have queues : a.scheduler.queues = fun _ => [] := funext none_
  let m : MissionLink ρ := { l with adapter := { l.adapter with scheduler := q } }
  let sending : MissionLink ρ := { l with adapter := a }
  have calms {t : MissionLink ρ} {p' : PendingSend ρ} {delivered : List ScheduledDelivery}
      (on : OnLink p' [] delivered l.simulator.transport (fun _ => []) t) : t.Calm :=
    ⟨on.matched, fun _ kind => by rw [on.queues], fun _ => on.due⟩
  unfold exchange
  refine Triple.withState fun t same => ?_
  subst same
  rw [accepted]
  refine Triple.bind (R := fun _ u => u = m) (Triple.set fun _ _ => rfl) fun _ =>
    Triple.bind (R := fun _ u => u = m) (Triple.pure fun _ h => h) fun _ => ?_
  have sent : Triple (fun u => u = m) sendNext (fun _ => Sent t p frame fun _ => [])
      fun _ => Failed t p frame fun _ => [] := by
    unfold sendNext
    refine Triple.withState fun u same => ?_
    subst same
    rw [show m.adapter.sendNext = (some frame, a) from sends]
    refine Triple.bind (R := fun _ u => u = sending) (Triple.set fun _ _ => rfl) fun _ => ?_
    exact Triple.weaken (triple_sendFrame (l := sending) frame ⟨pending, calm.due ready, rfl, rfl,
      .inr ⟨item, out⟩, queues⟩ out unrefused unreported) (fun _ h => h) (fun _ _ h => ⟨h.on⟩)
      fun _ _ h => ⟨h.out, h.queues, h.delivered, h.noCopies, h.notReturns⟩
  refine Triple.bind (Triple.weaken sent (fun _ h => h) (fun _ _ h => h) fun _ u failed => ?_)
    fun _ => Triple.withState fun u sent => ?_
  · obtain ⟨item, out⟩ := failed.out
    refine ⟨⟨⟨.inr ⟨item, out⟩, fun _ kind => by rw [failed.queues], fun ready => ?_⟩, ?_⟩,
      failed.notReturns⟩
    · rw [out.state] at ready
      cases ready
    · rw [failed.noCopies, List.append_nil]
      exact failed.delivered
  · obtain ⟨p', on, returns⟩ := sent.on
    have exchanged : Exchanged t p frame u := ⟨calms on, on.delivered⟩
    rw [on.pending]
    dsimp only
    split
    · rename_i stuck
      refine Triple.weaken (triple_liftRaises _) (fun _ h => h) (fun _ _ h => nomatch h.1)
        fun _ u same => ?_
      rw [same]
      refine ⟨exchanged, fun comesBack => ?_⟩
      rw [(returns.mpr comesBack).1] at stuck
      cases stuck
    · rename_i free
      have quiet : u.adapter.inFlight = false := by simpa using free
      cases outcome : PendingSend.outcome p' with
      | ok result =>
          exact Triple.pure fun _ same =>
            ⟨same ▸ exchanged, returns.mp ⟨quiet, result, outcome⟩⟩
      | error failure =>
          refine Triple.raise fun _ same => ⟨same ▸ exchanged, fun comesBack => ?_⟩
          obtain ⟨-, result, outcome'⟩ := returns.mpr comesBack
          rw [outcome] at outcome'
          cases outcome'

/-- A link with a frame on its queue. -/
def withScheduler (l : MissionLink ρ) (q : MissionComScheduler Bytes Empty) : MissionLink ρ :=
  { l with adapter := { l.adapter with scheduler := q } }

/-- On a link that is not ready the frame stays in its queue. -/
theorem exchange_of_queued {l : MissionLink ρ} {p : PendingSend ρ} (pending : l.pending = some p)
    (idle : l.adapter.Idle) (stopped : l.adapter.scheduler.state = .notReady)
    (unrefused : p.receiverError = none) (unreported : p.status = none) {queueKind : QueueKind}
    {frame : Bytes} {id : ℕ} {q : MissionComScheduler Bytes Empty}
    (accepted : l.adapter.scheduler.enqueue queueKind frame none none = (.ok id, q)) :
    exchange queueKind frame l = .ok p.result (l.withScheduler q) := by
  have kept := MissionUdpAdapter.enqueue_kept l.adapter.scheduler queueKind frame
  rw [accepted] at kept
  have nothing := MissionUdpAdapter.sendNext_of_notReady (a := (l.withScheduler q).adapter)
    (kept.2.1.trans stopped)
  have quiet : (l.withScheduler q).adapter.inFlight = false := by
    rw [MissionUdpAdapter.inFlight, show (l.withScheduler q).adapter.gate = none from idle.gate,
      show (l.withScheduler q).adapter.scheduler.current = none from kept.1.trans idle.current]
    rfl
  have unsent : sendNext (l.withScheduler q) = .ok () (l.withScheduler q) := by
    unfold sendNext
    rw [get_bind, nothing]
    rfl
  have outcome : PendingSend.outcome p = .ok p.result := by
    rw [PendingSend.outcome, unrefused, unreported]
  unfold exchange
  rw [get_bind, accepted]
  change (sendNext >>= fun _ => _) (l.withScheduler q) = _
  rw [bind_of_ok unsent, get_bind, quiet, show (l.withScheduler q).pending = some p from pending]
  dsimp only
  rw [outcome]
  rfl

/-- A full queue refuses the frame. -/
theorem exchange_of_full {l : MissionLink ρ} {queueKind : QueueKind} {frame : Bytes}
    {failure : PyException} {q : MissionComScheduler Bytes Empty}
    (refused : l.adapter.scheduler.enqueue queueKind frame none none = (.error failure, q)) :
    exchange queueKind frame l = .error failure (l.withScheduler q) := by
  unfold exchange
  rw [get_bind, refused]
  rfl

/-! ## `transmit` -/

/-- The record of a frame that goes on the link. -/
def record (direction : Direction) (receiver : Option (LinkReceiver ρ)) : PendingSend ρ :=
  ⟨direction, receiver, none, none, none⟩

theorem triple_clearingPending {α : Type} {x : Program ρ α} {P : MissionLink ρ → Prop}
    {Q : α → MissionLink ρ → Prop} {E : PyException → MissionLink ρ → Prop}
    (triple : Triple P x Q E) :
    Triple P (clearingPending x) (fun value t => ∃ u, Q value u ∧ t = { u with pending := none })
      fun failure t => ∃ u, E failure u ∧ t = { u with pending := none } := by
  intro l holds
  have this := triple l holds
  unfold clearingPending
  cases ran : x l with
  | ok value u =>
      rw [ran] at this
      exact ⟨u, this, rfl⟩
  | error failure u =>
      rw [ran] at this
      exact ⟨u, this, rfl⟩

theorem Calm.between {l : MissionLink ρ} (calm : l.Calm) :
    Between ({ l with pending := none } : MissionLink ρ) :=
  ⟨rfl, calm.matched, calm.queues, calm.due⟩

section Transmit

variable {l : MissionLink ρ} {attached : AttachedEndpoints ρ} {frame : Bytes}
  {direction : Direction} {receiver chosen : Option (LinkReceiver ρ)} {queueKind : QueueKind}

/-- The frame on the link, before it is exchanged. -/
def carrying (l : MissionLink ρ) (direction : Direction) (receiver : Option (LinkReceiver ρ)) :
    MissionLink ρ :=
  { l with pending := some (record direction receiver) }

theorem transmitFrame_of_idle (between : l.Between) (idle : l.adapter.Idle)
    (chooses : attached.chosen receiver direction = .ok chosen) :
    transmitFrame attached frame direction receiver queueKind l =
      clearingPending (exchange queueKind frame) (l.carrying direction chosen) := by
  have free : (l.pending.isSome || l.adapter.inFlight) = false := by
    rw [between.pending, idle.inFlight]
    rfl
  unfold transmitFrame
  rw [get_bind, free, chooses]
  rfl

/-- A frame that is in flight blocks the link. -/
theorem transmitFrame_of_out (between : l.Between) {item : ScheduledItem Bytes Empty}
    (out : l.adapter.Out item) : transmitFrame attached frame direction receiver queueKind l =
      .error ⟨.runtimeError, "FRAME_IN_FLIGHT"⟩ l := by
  have busy : (l.pending.isSome || l.adapter.inFlight) = true := by
    rw [between.pending, out.inFlight]
    rfl
  unfold transmitFrame
  rw [get_bind, busy]
  rfl

/-- An endpoint without the method of a receiver. -/
theorem transmitFrame_of_noReceiver (between : l.Between) (idle : l.adapter.Idle)
    {failure : PyException} (chooses : attached.chosen receiver direction = .error failure) :
    transmitFrame attached frame direction receiver queueKind l = .error failure l := by
  have free : (l.pending.isSome || l.adapter.inFlight) = false := by
    rw [between.pending, idle.inFlight]
    rfl
  unfold transmitFrame
  rw [get_bind, free, chooses]
  rfl

/-- **A frame on a ready link** comes back without an error exactly if the gates of the simulator
refuse it or its copies are accepted. -/
theorem triple_transmitFrame_of_ready (frame : Bytes) (queueKind : QueueKind)
    (between : l.Between) (idle : l.adapter.Idle) (ready : l.adapter.scheduler.state = .ready)
    (chooses : attached.chosen receiver direction = .ok chosen) :
    Triple (fun t => t = l) (transmitFrame attached frame direction receiver queueKind)
      (fun _ t => t.Between ∧ t.simulator.delivered = l.simulator.delivered ++
        copies l (record direction chosen) frame ∧ Returns l (record direction chosen) frame)
      fun _ t => t.Between ∧ t.simulator.delivered = l.simulator.delivered ++
        copies l (record direction chosen) frame ∧ ¬ Returns l (record direction chosen) frame := by
  rintro t rfl
  rw [transmitFrame_of_idle between idle chooses]
  have exchanged := triple_clearingPending (triple_exchange_of_ready
    (l := t.carrying direction chosen) (p := record direction chosen) rfl idle
    ⟨between.calm.matched, between.calm.queues, between.calm.due⟩ ready rfl rfl queueKind frame)
    _ rfl
  cases ran : clearingPending (exchange queueKind frame) (t.carrying direction chosen) with
  | ok result u =>
      rw [ran] at exchanged
      obtain ⟨v, ⟨left_, returns⟩, rfl⟩ := exchanged
      exact ⟨left_.calm.between, left_.delivered, returns⟩
  | error failure u =>
      rw [ran] at exchanged
      obtain ⟨v, ⟨left_, returns⟩, rfl⟩ := exchanged
      exact ⟨left_.calm.between, left_.delivered, returns⟩

/-- **A frame on a link that is not ready** stays in its queue, unless that is full. -/
theorem transmitFrame_of_queued (between : l.Between) (idle : l.adapter.Idle)
    (stopped : l.adapter.scheduler.state = .notReady)
    (chooses : attached.chosen receiver direction = .ok chosen) {id : ℕ}
    {q : MissionComScheduler Bytes Empty}
    (accepted : l.adapter.scheduler.enqueue queueKind frame none none = (.ok id, q)) :
    transmitFrame attached frame direction receiver queueKind l = .ok none (l.withScheduler q) := by
  rw [transmitFrame_of_idle between idle chooses, clearingPending,
    exchange_of_queued (l := l.carrying direction chosen) (p := record direction chosen) rfl idle
      stopped rfl rfl accepted]
  dsimp only
  rw [withScheduler, withScheduler, ← between.pending]
  rfl

theorem transmitFrame_of_full (between : l.Between) (idle : l.adapter.Idle)
    (chooses : attached.chosen receiver direction = .ok chosen) {failure : PyException}
    {q : MissionComScheduler Bytes Empty}
    (refused : l.adapter.scheduler.enqueue queueKind frame none none = (.error failure, q)) :
    transmitFrame attached frame direction receiver queueKind l =
      .error failure (l.withScheduler q) := by
  rw [transmitFrame_of_idle between idle chooses, clearingPending,
    exchange_of_full (l := l.carrying direction chosen) refused]
  dsimp only
  rw [withScheduler, withScheduler, ← between.pending]
  rfl

/-- A link that is not ready stays so when a frame is queued. -/
theorem Between.withScheduler (between : l.Between) (idle : l.adapter.Idle)
    (stopped : l.adapter.scheduler.state = .notReady) (queueKind : QueueKind) (frame : Bytes) :
    (l.withScheduler (l.adapter.scheduler.enqueue queueKind frame none none).2).Between ∧
      (l.withScheduler (l.adapter.scheduler.enqueue queueKind frame none none).2).adapter.Idle ∧
      (l.adapter.scheduler.enqueue queueKind frame none none).2.state = .notReady := by
  obtain ⟨current, state, flag⟩ :=
    MissionUdpAdapter.enqueue_kept l.adapter.scheduler queueKind frame
  have quiet : (l.withScheduler
      (l.adapter.scheduler.enqueue queueKind frame none none).2).adapter.Idle :=
    ⟨idle.gate, current.trans idle.current, fun out => idle.state (state.symm.trans out),
      flag.trans idle.notReadyAfterCompletion⟩
  refine ⟨⟨between.pending, .inl quiet, fun ready => absurd (state.trans stopped) ready,
    fun ready => ?_⟩, quiet, state.trans stopped⟩
  rw [show (l.withScheduler _).adapter.scheduler.state = .notReady from
    state.trans stopped] at ready
  cases ready

end Transmit

/-- `transmit` up to the staging of telemetry leaves the link between two calls. -/
theorem keeps_between_transmitFrame (attached : AttachedEndpoints ρ) (frame : Bytes)
    (direction : Direction) (receiver : Option (LinkReceiver ρ)) (queueKind : QueueKind) :
    Keeps Between (transmitFrame attached frame direction receiver queueKind) := by
  intro l between
  rcases between.calm.matched with idle | ⟨item, out⟩
  · cases chooses : attached.chosen receiver direction with
    | error failure =>
        rw [transmitFrame_of_noReceiver between idle chooses]
        exact between
    | ok chosen =>
        cases state : l.adapter.scheduler.state with
        | inFlight => exact absurd state idle.state
        | ready =>
            have sent := triple_transmitFrame_of_ready frame queueKind
              between idle state chooses l rfl
            cases ran : transmitFrame attached frame direction receiver queueKind l with
            | ok result t =>
                rw [ran] at sent
                exact sent.1
            | error failure t =>
                rw [ran] at sent
                exact sent.1
        | notReady =>
            have queued := (between.withScheduler idle state queueKind frame).1
            cases answer : l.adapter.scheduler.enqueue queueKind frame none none with
            | mk reply q =>
                rw [answer] at queued
                cases reply with
                | ok id =>
                    rw [transmitFrame_of_queued between idle state chooses answer]
                    exact queued
                | error failure =>
                    rw [transmitFrame_of_full between idle chooses answer]
                    exact queued
  · rw [transmitFrame_of_out between out]
    exact between

/-- **The call rule.**  An invariant that a frame, a reset and a close keep is kept by every
call. -/
theorem keeps_program {I : MissionLink ρ → Prop}
    (frames : ∀ attached frame direction receiver queueKind,
      Keeps I (transmitFrame attached frame direction receiver queueKind : Program ρ _))
    (resets : ∀ boot, Keeps I (reset boot : Program ρ ℕ))
    (closes : Keeps I (close : Program ρ Unit)) (op : MissionLinkOp ρ) : Keeps I op.program := by
  have downlinks (attached : AttachedEndpoints ρ) (sent : List Bytes) :
      Keeps I (sendDownlinks attached sent) := by
    induction sent with
    | nil => exact Keeps.pure _
    | cons frame rest ih => exact Keeps.bind (frames attached frame .egress none .file) fun _ => ih
  have drains (attached : AttachedEndpoints ρ) : Keeps I (drainSatelliteTm attached) := by
    unfold drainSatelliteTm
    split
    · exact Keeps.pure _
    split
    · exact keeps_liftRaises _ _
    split
    · exact Keeps.pure _
    · exact Keeps.bind (keeps_liftRaises _ _) fun sent => downlinks attached sent
  cases op with
  | transmit call =>
      refine Keeps.bind (Keeps.bind (frames _ _ _ _ _) fun result => ?_) fun _ => Keeps.pure _
      split
      · exact Keeps.bind (drains _) fun _ => Keeps.pure _
      · exact Keeps.pure _
  | downlinkTransfer attached sent => exact downlinks attached sent
  | reset boot => exact Keeps.bind (resets boot) fun _ => Keeps.pure _
  | close => exact closes

/-- After a reset of the adapter the link is not ready. -/
theorem Between.stop {l : MissionLink ρ} (between : l.Between) (boot : ℕ) :
    Between ({ l with adapter := l.adapter.reset, senderBootId := boot } : MissionLink ρ) := by
  obtain ⟨idle, stopped, -⟩ := between.calm.matched.reset
  refine ⟨between.pending, .inl idle, fun ready => absurd stopped ready, fun ready => ?_⟩
  rw [show MissionUdpAdapter.scheduler _ = l.adapter.reset.scheduler from rfl, stopped] at ready
  cases ready

theorem keeps_between_reset (boot : ℕ) : Keeps Between (reset boot : Program ρ ℕ) :=
  keeps_reset boot (fun _ between => between.stop boot)
    (fun _ _ moved between => ⟨between.pending, between.calm.matched, between.calm.queues,
      fun ready => by rw [moved.clock]; exact between.calm.due ready⟩)
    fun _ _ _ between =>
      ⟨between.pending, between.calm.matched, between.calm.queues, between.calm.due⟩

theorem keeps_between_close : Keeps Between (close : Program ρ Unit) :=
  Keeps.modify fun l between => between.stop l.senderBootId

/-- A new link. -/
theorem between_new {uplinkProfile downlinkProfile : FaultProfile} {faultModel : FaultModel}
    {transport : TransportFrame → Raises Unit} {startTime spacecraftInstanceId senderBootId : ℕ}
    {l : MissionLink ρ} (made : new uplinkProfile downlinkProfile faultModel transport startTime
      spacecraftInstanceId senderBootId = .ok l) : l.Between := by
  unfold new at made
  have moved := LinkSimulator.quiet_createSession spacecraftInstanceId senderBootId
    (newSimulator uplinkProfile downlinkProfile faultModel transport startTime) _ (.refl _)
  split at made
  · cases made
  rename_i sessionId simulator created
  rw [created] at moved
  split at made
  · cases made
  · cases made
    refine ⟨rfl, .inl ⟨rfl, rfl, nofun, rfl⟩, fun _ _ => rfl, fun _ => ?_⟩
    rw [moved.clock]
    rfl

/-- **Every run leaves the link between two calls.** -/
theorem between_run {l : MissionLink ρ} (between : l.Between) (ops : List (MissionLinkOp ρ)) :
    ((missionLinkMachine ρ).exec l ops).Between :=
  (missionLinkMachine ρ).exec_invariant Between between (fun _ op between =>
    (keeps_program keeps_between_transmitFrame keeps_between_reset keeps_between_close
      op).finalState between) ops

end MissionLink

end CubeNano

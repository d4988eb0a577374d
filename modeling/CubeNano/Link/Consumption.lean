import CubeNano.Link.LinkSteps

/-!
# How the copies of a frame are reported

Every copy of a frame that is lost or scheduled, and every frame that the file-epoch fence turns
away, is to be reported as consumed exactly once.  A scheduled copy is reported by its delivery,
so once the clock is idle the messages of a frame are those of its admission and of the
deliveries of its copies.

## Main definitions

* `LinkSimulator.ReportedOnce` — the reports of a frame, as they should be
* `LinkSimulator.ReportsCleanly` — the condition under which they are

## Main statements

* `reportedOnce_iff` — the condition is exact, for every frame of every run to idle
* `not_reportedOnce_of_raising_consumer` — a delivered copy that is reported as failed as well
-/

namespace CubeNano

namespace LinkSimulator

/-- The messages about a frame. -/
def messagesOf (s : LinkSimulator) (linkFrameId : ℕ) : List LinkControlMessage :=
  s.controlEvents.filter fun m => m.linkFrameId = linkFrameId

/-- The copies of a frame that are on their way. -/
def pendingOf (s : LinkSimulator) (linkFrameId : ℕ) : List ScheduledDelivery :=
  s.pending.filter fun d => d.linkFrameId = linkFrameId

/-- The messages that report a copy of a frame as consumed. -/
def consumptionsOf (s : LinkSimulator) (linkFrameId copyIndex : ℕ) : List LinkControlMessage :=
  (s.messagesOf linkFrameId).filter fun m =>
    m.messageType = .frameConsumed ∧ m.copyIndex = copyIndex

/-- **The reports of a frame, as they should be**: a frame that the fence turned away is reported
as consumed once.  One behind the fence is reported as accepted once and before all else, every
copy that was lost or scheduled is reported as consumed once, and a copy that was handed over
without an exception is not reported as failed or lost. -/
def ReportedOnce (s : LinkSimulator) (linkFrameId : ℕ) : AdmissionFate → Prop
  | .refused => True
  | .rejected _ _ => (s.consumptionsOf linkFrameId 0).length = 1
  | .accepted a copies =>
      (∃ rest, s.messagesOf linkFrameId = acceptanceMessage a :: rest ∧
        ∀ m ∈ rest, m.messageType = .frameConsumed) ∧
      (∀ copyIndex, (s.consumptionsOf linkFrameId copyIndex).length =
        (copies.filter fun copy => copy.1 = copyIndex).length) ∧
      ∀ copyIndex d, (copyIndex, CopyFate.scheduled d) ∈ copies →
        ∀ status, handOver s.transport d = .ok status →
          ∀ m ∈ s.consumptionsOf linkFrameId copyIndex,
            m.status ≠ some "FRAME_FAILED" ∧ m.status ≠ some "FRAME_LOST"

/-- **The condition**: somebody hears that the fence turned the frame away; and `on_consumed` takes
the report of every copy that is handed over, whose status is not one of the two failures. -/
def ReportsCleanly (s : LinkSimulator) : AdmissionFate → Prop
  | .refused => True
  | .rejected a _ => a.callbacks.onConsumed ≠ none
  | .accepted _ copies => ∀ copyIndex d, (copyIndex, CopyFate.scheduled d) ∈ copies →
      ∀ status, handOver s.transport d = .ok status →
        status ≠ "FRAME_FAILED" ∧ status ≠ "FRAME_LOST" ∧
          consumedAnswer d.callbacks (consumedMessage d status none) = .ok ()

/-! ## Frames to come -/

/-- Messages and copies are of frames with an id that was handed out. -/
structure Fresh (s : LinkSimulator) : Prop where
  positive : 0 < s.nextLinkFrameId
  events : ∀ m ∈ s.controlEvents, m.linkFrameId < s.nextLinkFrameId
  pending : ∀ d ∈ s.pending, d.linkFrameId < s.nextLinkFrameId

theorem linkFrameId_deliveryReports {transport : Option (TransportFrame → Raises Unit)}
    {d : ScheduledDelivery} {m : LinkControlMessage} (mem : m ∈ deliveryReports transport d) :
    m.linkFrameId = d.linkFrameId := by
  unfold deliveryReports at mem
  split at mem
  · rw [List.mem_singleton.mp mem]
    rfl
  split at mem
  · rw [List.mem_singleton.mp mem]
    rfl
  · rcases List.mem_cons.mp mem with rfl | second
    · rfl
    · rw [List.mem_singleton.mp second]
      rfl

theorem Fresh.step {s t : LinkSimulator} (step : LinkStep s t) (fresh : Fresh s) : Fresh t := by
  cases step with
  | aside events outside grew =>
      refine ⟨grew.next ▸ fresh.positive, fun m mem => ?_, fun d mem => ?_⟩
      · rw [grew.next]
        rw [grew.reports] at mem
        rcases List.mem_append.mp mem with old | new
        · exact fresh.events m old
        · rw [outside m new]
          exact fresh.positive
      · rw [grew.next]
        have old := grew.pending.subset mem
        rw [List.append_nil] at old
        exact fresh.pending d old
  | admits events deliveries ofEvents ofDeliveries grew =>
      have next : t.nextLinkFrameId = s.nextLinkFrameId + 1 := grew.next
      refine ⟨by omega, fun m mem => ?_, fun d mem => ?_⟩
      · rw [grew.reports] at mem
        rcases List.mem_append.mp mem with old | new
        · have := fresh.events m old
          omega
        · have := ofEvents m new
          omega
      · rcases List.mem_append.mp (grew.pending.subset mem) with old | new
        · have := fresh.pending d old
          omega
        · have := ofDeliveries d new
          omega
  | delivers d first reports next transport =>
      refine ⟨next ▸ fresh.positive, fun m mem => ?_, fun d' mem => ?_⟩
      · rw [next]
        rw [reports] at mem
        rcases List.mem_append.mp mem with old | new
        · exact fresh.events m old
        · rw [linkFrameId_deliveryReports new]
          exact fresh.pending d (first ▸ List.mem_cons_self)
      · rw [next]
        exact fresh.pending d' (first ▸ List.mem_cons_of_mem d mem)

/-! ## A frame that was admitted -/

/-- Since its admission the messages of a frame are those of the admission and of the copies that
were delivered; the others are on their way. -/
structure Tracks (linkFrameId : ℕ) (sender : Option (TransportFrame → Raises Unit))
    (admission : List LinkControlMessage) (copies : List ScheduledDelivery)
    (t : LinkSimulator) : Prop where
  positive : 0 < linkFrameId
  old : linkFrameId < t.nextLinkFrameId
  transport : t.transport = sender
  delivered : ∃ done, (done ++ t.pendingOf linkFrameId).Perm copies ∧
    t.messagesOf linkFrameId = admission ++ done.flatMap (deliveryReports sender)

theorem messagesOf_append {s t : LinkSimulator} {events : List LinkControlMessage}
    (reports : t.controlEvents = s.controlEvents ++ events) (linkFrameId : ℕ) :
    t.messagesOf linkFrameId =
      s.messagesOf linkFrameId ++ events.filter fun m => m.linkFrameId = linkFrameId := by
  rw [messagesOf, reports, List.filter_append]
  rfl

/-- Messages of other frames. -/
theorem messagesOf_of_others {s t : LinkSimulator} {events : List LinkControlMessage}
    (reports : t.controlEvents = s.controlEvents ++ events) {linkFrameId : ℕ}
    (others : ∀ m ∈ events, m.linkFrameId ≠ linkFrameId) :
    t.messagesOf linkFrameId = s.messagesOf linkFrameId := by
  rw [messagesOf_append reports, List.filter_eq_nil_iff.mpr, List.append_nil]
  exact fun m mem => by simpa using others m mem

/-- Copies of other frames. -/
theorem pendingOf_of_others {s t : LinkSimulator} {deliveries : List ScheduledDelivery}
    (pending : t.pending.Perm (s.pending ++ deliveries)) {linkFrameId : ℕ}
    (others : ∀ d ∈ deliveries, d.linkFrameId ≠ linkFrameId) :
    (t.pendingOf linkFrameId).Perm (s.pendingOf linkFrameId) := by
  have kept := pending.filter fun d => d.linkFrameId = linkFrameId
  have none_ : deliveries.filter (fun d => d.linkFrameId = linkFrameId) = [] :=
    List.filter_eq_nil_iff.mpr fun d mem => by simpa using others d mem
  rw [List.filter_append, none_, List.append_nil] at kept
  exact kept

theorem Tracks.step {linkFrameId : ℕ} {sender : Option (TransportFrame → Raises Unit)}
    {admission : List LinkControlMessage} {copies : List ScheduledDelivery} {s t : LinkSimulator}
    (step : LinkStep s t) (tracks : Tracks linkFrameId sender admission copies s) :
    Tracks linkFrameId sender admission copies t := by
  obtain ⟨positive, old, transport, done, accounted, messages⟩ := tracks
  cases step with
  | aside events outside grew =>
      refine ⟨positive, grew.next ▸ old, grew.transport.trans transport, done, ?_, ?_⟩
      · exact ((pendingOf_of_others grew.pending fun _ none => (nomatch none)).append_left
          done).trans accounted
      · rw [messagesOf_of_others grew.reports fun m mem => ?_, messages]
        rw [outside m mem]
        exact positive.ne
  | admits events deliveries ofEvents ofDeliveries grew =>
      have next : t.nextLinkFrameId = s.nextLinkFrameId + 1 := grew.next
      refine ⟨positive, by omega, grew.transport.trans transport, done, ?_, ?_⟩
      · exact ((pendingOf_of_others (s := s) grew.pending fun d mem => by
          rw [ofDeliveries d mem]
          exact old.ne').append_left done).trans accounted
      · rw [messagesOf_of_others (s := s) grew.reports fun m mem => ?_, messages]
        rw [ofEvents m mem]
        exact old.ne'
  | delivers d first reports next same =>
      refine ⟨positive, next ▸ old, same.trans transport, ?_⟩
      by_cases ofFrame : d.linkFrameId = linkFrameId
      · refine ⟨done ++ [d], ?_, ?_⟩
        · have pending : s.pendingOf linkFrameId = d :: t.pendingOf linkFrameId := by
            rw [pendingOf, first, List.filter_cons_of_pos (by simpa using ofFrame)]
            rfl
          rw [pending] at accounted
          rw [List.append_assoc]
          exact accounted
        · rw [messagesOf_append reports, messages, List.filter_eq_self.mpr, transport,
            List.flatMap_append, List.append_assoc]
          · simp
          · intro m mem
            rw [linkFrameId_deliveryReports mem]
            simpa using ofFrame
      · refine ⟨done, ?_, ?_⟩
        · have pending : s.pendingOf linkFrameId = t.pendingOf linkFrameId := by
            rw [pendingOf, first, List.filter_cons_of_neg (by simpa using ofFrame)]
            rfl
          rwa [← pending]
        · rw [messagesOf_of_others reports fun m mem => ?_, messages]
          rw [linkFrameId_deliveryReports mem]
          exact ofFrame

/-- The admission of a frame that gets an id. -/
theorem tracks_of_admission {s : LinkSimulator} (fresh : Fresh s) {frame : TransportFrame}
    {direction : Direction} {callbacks : LinkCallbacks}
    (taken : s.admissionFate frame direction callbacks ≠ .refused) :
    Tracks s.nextLinkFrameId s.transport (s.admissionFate frame direction callbacks).reports
      (s.admissionFate frame direction callbacks).copies
      (Effect.finalState (admitFrame frame direction callbacks s)) := by
  rcases s.grew_admitFrame frame direction callbacks with ⟨refused, -⟩ | grew
  · exact absurd refused taken
  obtain ⟨ofEvents, ofDeliveries⟩ := s.ofFrame_admissionFate frame direction callbacks
  have next := grew.next
  refine ⟨fresh.positive, ?_, grew.transport, [], ?_, ?_⟩
  · rw [next]
    exact Nat.lt_succ_self _
  · have kept := grew.pending.filter fun d => d.linkFrameId = s.nextLinkFrameId
    have none_ : s.pending.filter (fun d => d.linkFrameId = s.nextLinkFrameId) = [] :=
      List.filter_eq_nil_iff.mpr fun d mem => by simpa using (fresh.pending d mem).ne
    rw [List.filter_append] at kept
    have all : (s.admissionFate frame direction callbacks).copies.filter
        (fun d => d.linkFrameId = s.nextLinkFrameId) =
          (s.admissionFate frame direction callbacks).copies :=
      List.filter_eq_self.mpr fun d mem => by simpa using ofDeliveries d mem
    rw [all, show s.allocated.pending = s.pending from rfl, none_] at kept
    exact kept
  · rw [messagesOf_append (s := s) grew.reports, List.filter_eq_self.mpr, List.flatMap_nil,
      List.append_nil]
    · have none_ : s.messagesOf s.nextLinkFrameId = [] :=
        List.filter_eq_nil_iff.mpr fun m mem => by simpa using (fresh.events m mem).ne
      rw [none_]
      rfl
    · exact fun m mem => by simpa using ofEvents m mem

/-! ## An idle link -/

/-- The reports that a copy comes to. -/
def fateReports (sender : Option (TransportFrame → Raises Unit)) (a : AdmittedFrame)
    (copy : ℕ × CopyFate) : List LinkControlMessage :=
  match copy.2 with
  | .lost => [lossMessage a copy.1 (lossReason copy.1)]
  | .scheduled d => deliveryReports sender d

theorem lossReports_append_perm (sender : Option (TransportFrame → Raises Unit))
    (a : AdmittedFrame) (copies : List (ℕ × CopyFate)) :
    (lossReports a copies ++ (scheduledCopies copies).flatMap (deliveryReports sender)).Perm
      (copies.flatMap (fateReports sender a)) := by
  induction copies with
  | nil => exact .refl _
  | cons copy rest ih =>
      obtain ⟨copyIndex, fate⟩ := copy
      cases fate with
      | lost => exact ih.cons _
      | scheduled d =>
          have moved : (lossReports a rest ++ (deliveryReports sender d ++
              (scheduledCopies rest).flatMap (deliveryReports sender))).Perm
              (deliveryReports sender d ++ (lossReports a rest ++
                (scheduledCopies rest).flatMap (deliveryReports sender))) := by
            rw [← List.append_assoc, ← List.append_assoc]
            exact List.perm_append_comm.append_right _
          exact moved.trans (ih.append_left _)

theorem consumed_deliveryReports {sender : Option (TransportFrame → Raises Unit)}
    {d : ScheduledDelivery} {m : LinkControlMessage} (mem : m ∈ deliveryReports sender d) :
    m.messageType = .frameConsumed ∧ m.copyIndex = d.copyIndex := by
  unfold deliveryReports at mem
  split at mem
  · rw [List.mem_singleton.mp mem]
    exact ⟨rfl, rfl⟩
  split at mem
  · rw [List.mem_singleton.mp mem]
    exact ⟨rfl, rfl⟩
  · rcases List.mem_cons.mp mem with rfl | second
    · exact ⟨rfl, rfl⟩
    · rw [List.mem_singleton.mp second]
      exact ⟨rfl, rfl⟩

variable {sender : Option (TransportFrame → Raises Unit)} {a : AdmittedFrame}
  {copies : List (ℕ × CopyFate)}

theorem consumed_fateReports (of : CopiesOf a copies) {copy : ℕ × CopyFate} (here : copy ∈ copies)
    {m : LinkControlMessage} (mem : m ∈ fateReports sender a copy) :
    m.messageType = .frameConsumed ∧ m.copyIndex = copy.1 := by
  obtain ⟨copyIndex, fate⟩ := copy
  cases fate with
  | lost =>
      rw [List.mem_singleton.mp mem]
      exact ⟨rfl, rfl⟩
  | scheduled d =>
      obtain ⟨type, index⟩ := consumed_deliveryReports mem
      exact ⟨type, index.trans (of.delivery copyIndex d here).2.1⟩

/-- The reports of one copy among those of all copies. -/
theorem filter_flatMap_fateReports (of : CopiesOf a copies) (copyIndex : ℕ) :
    (copies.flatMap (fateReports sender a)).filter
        (fun m => m.messageType = .frameConsumed ∧ m.copyIndex = copyIndex) =
      (copies.filter fun copy => copy.1 = copyIndex).flatMap (fateReports sender a) := by
  have consumed : ∀ copy ∈ copies, ∀ m ∈ fateReports sender a copy,
      m.messageType = .frameConsumed ∧ m.copyIndex = copy.1 :=
    fun copy here m mem => consumed_fateReports of here mem
  clear of
  induction copies with
  | nil => rfl
  | cons copy rest ih =>
      rw [List.forall_mem_cons] at consumed
      rw [List.flatMap_cons, List.filter_append, ih consumed.2]
      by_cases same : copy.1 = copyIndex
      · rw [List.filter_cons_of_pos (by simpa using same), List.flatMap_cons,
          List.filter_eq_self.mpr]
        intro m mem
        have := consumed.1 m mem
        simp [this.1, this.2, same]
      · rw [List.filter_cons_of_neg (by simpa using same), List.filter_eq_nil_iff.mpr,
          List.nil_append]
        intro m mem
        have := consumed.1 m mem
        simp [this.2, same]

/-- A copy is the only one of its index. -/
theorem filter_eq_singleton (nodup : (copies.map Prod.fst).Nodup) {copyIndex : ℕ} {fate : CopyFate}
    (mem : (copyIndex, fate) ∈ copies) :
    (copies.filter fun copy => copy.1 = copyIndex) = [(copyIndex, fate)] := by
  induction copies with
  | nil => cases mem
  | cons copy rest ih =>
      rw [List.map_cons, List.nodup_cons] at nodup
      rcases List.mem_cons.mp mem with rfl | later
      · rw [List.filter_cons_of_pos (by simp), List.filter_eq_nil_iff.mpr]
        intro copy' mem' same
        have index : copy'.1 = copyIndex := by simpa using same
        have again : copy'.1 ∈ rest.map Prod.fst := List.mem_map_of_mem mem'
        rw [index] at again
        exact nodup.1 again
      · have other : copy.1 ≠ copyIndex := by
          intro same
          exact nodup.1 (same ▸ List.mem_map_of_mem (f := Prod.fst) later)
        rw [List.filter_cons_of_neg (by simpa using other)]
        exact ih nodup.2 later

/-- The delivery of a copy makes one report, of a status that is no failure if the copy was handed
over, exactly if it reports cleanly. -/
theorem deliveryReports_clean_iff (d : ScheduledDelivery) :
    ((deliveryReports sender d).length = 1 ∧
        ∀ status, handOver sender d = .ok status → ∀ m ∈ deliveryReports sender d,
          m.status ≠ some "FRAME_FAILED" ∧ m.status ≠ some "FRAME_LOST") ↔
      ∀ status, handOver sender d = .ok status →
        status ≠ "FRAME_FAILED" ∧ status ≠ "FRAME_LOST" ∧
          consumedAnswer d.callbacks (consumedMessage d status none) = .ok () := by
  unfold deliveryReports
  cases handed : handOver sender d with
  | error failure => simp
  | ok status =>
      dsimp only
      cases answer : consumedAnswer d.callbacks (consumedMessage d status none) with
      | error failure => simp [answer]
      | ok u =>
          have named : (consumedMessage d status none).status = some status := rfl
          simp [answer, named]

/-- The reports of one copy of a frame behind the fence, once the clock is idle. -/
theorem consumptionsOf_perm {t : LinkSimulator} {linkFrameId : ℕ} (of : CopiesOf a copies)
    (tracks : Tracks linkFrameId sender (AdmissionFate.accepted a copies).reports
      (AdmissionFate.accepted a copies).copies t)
    (idle : t.clock.eventQueue.isEmpty = true) (copyIndex : ℕ) :
    (t.consumptionsOf linkFrameId copyIndex).Perm
      ((copies.filter fun copy => copy.1 = copyIndex).flatMap (fateReports sender a)) := by
  obtain ⟨-, -, -, done, accounted, messages⟩ := tracks
  have nothing : t.pendingOf linkFrameId = [] := by
    rw [pendingOf, pending, List.isEmpty_iff.mp idle]
    rfl
  rw [nothing, List.append_nil] at accounted
  have all : (lossReports a copies ++ done.flatMap (deliveryReports sender)).Perm
      (copies.flatMap (fateReports sender a)) :=
    ((accounted.flatMap_right _).append_left _).trans (lossReports_append_perm sender a copies)
  rw [← filter_flatMap_fateReports of, consumptionsOf, messages]
  exact all.filter _

/-- **A frame behind the fence**, once the clock is idle. -/
theorem reportedOnce_accepted_iff {t : LinkSimulator} {linkFrameId : ℕ} (of : CopiesOf a copies)
    (tracks : Tracks linkFrameId sender (AdmissionFate.accepted a copies).reports
      (AdmissionFate.accepted a copies).copies t)
    (idle : t.clock.eventQueue.isEmpty = true) :
    ReportedOnce t linkFrameId (.accepted a copies) ↔
      ∀ copyIndex d, (copyIndex, CopyFate.scheduled d) ∈ copies →
        ∀ status, handOver sender d = .ok status →
          status ≠ "FRAME_FAILED" ∧ status ≠ "FRAME_LOST" ∧
            consumedAnswer d.callbacks (consumedMessage d status none) = .ok () := by
  have perm := consumptionsOf_perm of tracks idle
  have ofCopy : ∀ copyIndex d, (copyIndex, CopyFate.scheduled d) ∈ copies →
      (t.consumptionsOf linkFrameId copyIndex).Perm (deliveryReports sender d) := by
    intro copyIndex d mem
    have reports := perm copyIndex
    rw [filter_eq_singleton of.nodup mem] at reports
    simpa [fateReports] using reports
  have accepted : ∃ rest, t.messagesOf linkFrameId = acceptanceMessage a :: rest ∧
      ∀ m ∈ rest, m.messageType = .frameConsumed := by
    obtain ⟨-, -, -, done, -, messages⟩ := tracks
    refine ⟨_, messages, fun m mem => ?_⟩
    rcases List.mem_append.mp mem with loss | delivery
    · obtain ⟨⟨copyIndex, fate⟩, -, report⟩ := List.mem_filterMap.mp loss
      cases fate with
      | lost =>
          cases report
          rfl
      | scheduled d => cases report
    · obtain ⟨d, -, report⟩ := List.mem_flatMap.mp delivery
      exact (consumed_deliveryReports report).1
  unfold ReportedOnce
  rw [tracks.transport]
  constructor
  · rintro ⟨-, counts, clean⟩ copyIndex d mem
    refine (deliveryReports_clean_iff d).mp ⟨?_, fun status handed m here => ?_⟩
    · have one := counts copyIndex
      rw [filter_eq_singleton of.nodup mem] at one
      rw [← (ofCopy copyIndex d mem).length_eq]
      exact one
    · exact clean copyIndex d mem status handed m ((ofCopy copyIndex d mem).mem_iff.mpr here)
  · intro clean
    refine ⟨accepted, fun copyIndex => ?_, fun copyIndex d mem status handed m here => ?_⟩
    · rw [(perm copyIndex).length_eq, List.length_flatMap]
      have ones : ∀ copy ∈ copies.filter (fun copy => copy.1 = copyIndex),
          (fateReports sender a copy).length = 1 := by
        rintro ⟨copyIndex', fate⟩ mem
        cases fate with
        | lost => rfl
        | scheduled d =>
            exact ((deliveryReports_clean_iff d).mpr
              (clean copyIndex' d (List.mem_of_mem_filter mem))).1
      rw [List.map_congr_left ones]
      simp
    · exact ((deliveryReports_clean_iff d).mpr (clean copyIndex d mem)).2 status handed m
        ((ofCopy copyIndex d mem).mem_iff.mp here)

/-- A frame that the fence turned away. -/
theorem reportedOnce_rejected_iff {t : LinkSimulator} {linkFrameId : ℕ} {reason : String}
    (tracks : Tracks linkFrameId sender (AdmissionFate.rejected a reason).reports
      (AdmissionFate.rejected a reason).copies t) :
    ReportedOnce t linkFrameId (.rejected a reason) ↔ a.callbacks.onConsumed ≠ none := by
  obtain ⟨-, -, -, done, accounted, messages⟩ := tracks
  have undelivered : done = [] := (List.append_eq_nil_iff.mp accounted.eq_nil).1
  rw [undelivered, List.flatMap_nil, List.append_nil] at messages
  unfold ReportedOnce consumptionsOf
  rw [messages, ← Option.isSome_iff_ne_none]
  dsimp only [AdmissionFate.reports]
  cases a.callbacks.onConsumed <;>
    simp [rejectionMessage, controlMessage]

/-- A simulator as its constructor leaves it: no message, no copy, and an id to hand out. -/
structure Constructed (s : LinkSimulator) : Prop where
  positive : 0 < s.nextLinkFrameId
  silent : s.controlEvents = []
  empty : s.pending = []

theorem fresh_of_constructed {s : LinkSimulator} (constructed : Constructed s) : Fresh s where
  positive := constructed.positive
  events := by
    rw [constructed.silent]
    exact fun _ none => nomatch none
  pending := by
    rw [constructed.empty]
    exact fun _ none => nomatch none

theorem after_admitFrame (s : LinkSimulator) (frame : TransportFrame) (direction : Direction)
    (callbacks : LinkCallbacks) :
    s.after (.admitFrame frame direction callbacks) =
      Effect.finalState (admitFrame frame direction callbacks s) := by
  change Effect.finalState ((admitFrame frame direction callbacks >>= fun _ => pure ()) s) = _
  cases ran : admitFrame frame direction callbacks s with
  | ok id t =>
      rw [Effect.bind_of_ok ran]
      rfl
  | error failure t =>
      rw [Effect.bind_of_error ran]
      rfl

theorem copiesOf_admissionFate {s : LinkSimulator} {frame : TransportFrame} {direction : Direction}
    {callbacks : LinkCallbacks}
    (fate : s.admissionFate frame direction callbacks = .accepted a copies) :
    CopiesOf a copies := by
  unfold admissionFate at fate
  split at fate
  · cases fate
  split at fate
  · cases fate
  split at fate
  · cases fate
  · cases fate
    split
    · exact .nil _
    · exact copiesOf_copyFates _ _

/-- **Every frame is reported once**, exactly if it reports cleanly: after every history, for every
frame, profile and callback, and however the run to idle goes on. -/
theorem reportedOnce_iff {start : LinkSimulator} (constructed : Constructed start)
    (before after : List LinkOp) (frame : TransportFrame) (direction : Direction)
    (callbacks : LinkCallbacks)
    (idle : (linkMachine.exec start
      (before ++ .admitFrame frame direction callbacks :: after)).clock.eventQueue.isEmpty = true) :
    ReportedOnce (linkMachine.exec start (before ++ .admitFrame frame direction callbacks :: after))
        (linkMachine.exec start before).nextLinkFrameId
        ((linkMachine.exec start before).admissionFate frame direction callbacks) ↔
      ReportsCleanly (linkMachine.exec start before)
        ((linkMachine.exec start before).admissionFate frame direction callbacks) := by
  have fresh : Fresh (linkMachine.exec start before) :=
    exec_of_steps (fun _ _ step held => held.step step) (fresh_of_constructed constructed) before
  rw [linkMachine.exec_append] at idle ⊢
  generalize linkMachine.exec start before = s at fresh idle ⊢
  change LinkSimulator at s
  have tracks : s.admissionFate frame direction callbacks ≠ .refused →
      Tracks s.nextLinkFrameId s.transport (s.admissionFate frame direction callbacks).reports
        (s.admissionFate frame direction callbacks).copies
        (linkMachine.exec s (.admitFrame frame direction callbacks :: after)) := by
    intro taken
    have admitted := tracks_of_admission fresh taken
    refine exec_of_steps (I := Tracks s.nextLinkFrameId s.transport
      (s.admissionFate frame direction callbacks).reports
      (s.admissionFate frame direction callbacks).copies) (fun _ _ step held => held.step step) ?_
      after
    change Tracks _ _ _ _ (s.after (.admitFrame frame direction callbacks))
    rw [after_admitFrame]
    exact admitted
  cases fate : s.admissionFate frame direction callbacks with
  | refused => exact Iff.rfl
  | rejected a reason =>
      rw [fate] at tracks
      exact reportedOnce_rejected_iff (tracks (by simp))
  | accepted a copies =>
      rw [fate] at tracks
      exact reportedOnce_accepted_iff (copiesOf_admissionFate fate) (tracks (by simp)) idle

theorem constructed_initial (up down : FaultProfile) (model : FaultModel)
    (contact : ContactSchedule) (transport : Option (TransportFrame → Raises Unit))
    (stateChanged : Option (ℕ × ℕ → Raises Unit)) :
    Constructed (initial up down model contact transport stateChanged) :=
  ⟨Nat.one_pos, rfl, rfl⟩

/-- A session, then a START with callbacks, then the clock run to idle. -/
def startOps (callbacks : LinkCallbacks) : List LinkOp :=
  [.createSession 1 7] ++ .admitFrame (fileFrame 1 1 startPacket) .egress callbacks ::
    [.runUntilIdle none]

/-- The fate of that START. -/
def startFate (callbacks : LinkCallbacks) : AdmissionFate :=
  (linkMachine.exec faultless [.createSession 1 7]).admissionFate (fileFrame 1 1 startPacket)
    .egress callbacks

/-- The theorem applies to a START on a link without faults. -/
theorem reportedOnce_iff_of_faultless :
    ReportedOnce (linkMachine.exec faultless (startOps {}))
        (linkMachine.exec faultless [.createSession 1 7]).nextLinkFrameId (startFate {}) ↔
      ReportsCleanly (linkMachine.exec faultless [.createSession 1 7]) (startFate {}) :=
  reportedOnce_iff (constructed_initial {} {} (.ofSeed 1 1 0) .empty none none) _ _ _ _ _
    (by decide +kernel)

/-- An `on_consumed` that does not take the report of a delivered copy. -/
def raisingConsumer : LinkCallbacks where
  onConsumed := some fun m =>
    if m.status = some "FRAME_CONSUMED" then runtimeError "sender gate is gone" else .ok ()

/-- A frame behind the fence with one copy. -/
def AdmissionFate.isSingle : AdmissionFate → Bool
  | accepted _ copies => copies.length = 1
  | _ => false

/-- Two reports of copy 0 are one too many. -/
theorem not_reportedOnce_of_twice {s : LinkSimulator} {linkFrameId : ℕ} {fate : AdmissionFate}
    (single : fate.isSingle = true) (twice : (s.consumptionsOf linkFrameId 0).length = 2) :
    ¬ ReportedOnce s linkFrameId fate := by
  intro reported
  cases fate with
  | refused => cases single
  | rejected a reason => cases single
  | accepted a copies =>
      have counted := reported.2.1 0
      have atMost := List.length_filter_le (fun copy => decide (copy.1 = 0)) copies
      rw [twice] at counted
      rw [of_decide_eq_true single] at atMost
      omega

/-- **A copy that was delivered is reported twice**, the second time as failed, if `on_consumed`
raises at the first report. -/
theorem not_reportedOnce_of_raising_consumer :
    (linkMachine.exec faultless (startOps raisingConsumer)).clock.eventQueue.isEmpty = true ∧
      ¬ ReportedOnce (linkMachine.exec faultless (startOps raisingConsumer)) 1
        (startFate raisingConsumer) :=
  ⟨by decide +kernel, not_reportedOnce_of_twice (by decide +kernel) (by decide +kernel)⟩

end LinkSimulator

end CubeNano

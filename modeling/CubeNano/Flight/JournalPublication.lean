import CubeNano.Flight.SessionFrames

/-!
# Journal events on their way to the pending queue

`publish_journal_events` of `flight/satellite_simulator.py` moves its cursor to an event before
the event is put on the bounded pending queue.  Runs of calls with journal appends, other
telemetry and pops of frames.

## Main definitions

* `CloudPayload.onJournal` — a payload whose telemetry runs on its journal
* `PublicationOp`, `publicationMachine` — the runs
* `PublishedInOrder` — every well-formed event up to the cursor was put once, in order
* `FitsPending` — the queue has room for the events of the next call

## Main statements

* `publishRows_of_fits` — a call that finds room puts all its events
* `publishedInOrder_of_fits` — runs in which every call finds room
* `not_publishedInOrder_of_fullQueue` — the event a call failed on is skipped
-/

namespace CubeNano

open Effect SatelliteUdpService

variable {Lease : Type}

/-! ## The payload -/

/-- A payload whose counters, events and clock are those of its journal. -/
def CloudPayload.onJournal (payload : CloudPayload EventJournal Lease)
    (clock : EventJournal → Raises ℤ) : CloudPayload EventJournal Lease :=
  { payload with
    eventClock := do
      let journal ← get
      liftRaises (clock journal)
    allocateTmFrameCounters := journalPayload.allocateTmFrameCounters
    eventsAfter := journalPayload.eventsAfter }

/-- What `_queue_tm` encodes of a message: its frame, or that of a diagnostic. -/
def encodeEvent (payload : CloudPayload EventJournal Lease) (message : PyDict) :
    EStateM PyException EventJournal (Bytes × ℕ) :=
  tryCatch (payload.encodeAckTmFrameWithOrder message) fun failure =>
    if failure.isValueError then
      payload.encodeAckTmFrameWithOrder (truncatedEvent message failure)
    else throw failure

/-- The events of the next call. -/
def nextBatch (s : SatelliteUdpService EventJournal Lease) : List JournalRow :=
  (s.payloadState.rows.filter fun row => s.lastJournalEventId < row.eventId).take 128

/-- The messages of the next call. -/
def nextMessages (s : SatelliteUdpService EventJournal Lease) : List PyDict :=
  (nextBatch s).filterMap journalMessage?

/-- Whether messages can be encoded one after the other. -/
def encodesAll (payload : CloudPayload EventJournal Lease) : List PyDict → EventJournal → Bool
  | [], _ => true
  | message :: rest, journal =>
      match encodeEvent payload message journal with
      | .ok _ journal' => encodesAll payload rest journal'
      | .error _ _ => false

/-- The pending queue has room for the well-formed events of the next call, which can be
encoded. -/
structure FitsPending (payload : CloudPayload EventJournal Lease)
    (s : SatelliteUdpService EventJournal Lease) : Prop where
  room : s.pendingTmFrames.length + (nextMessages s).length ≤ s.pendingTmCapacity
  encodes : encodesAll payload (nextMessages s) s.payloadState = true

instance (payload : CloudPayload EventJournal Lease)
    (s : SatelliteUdpService EventJournal Lease) : Decidable (FitsPending payload s) :=
  decidable_of_iff (s.pendingTmFrames.length + (nextMessages s).length ≤ s.pendingTmCapacity ∧
    encodesAll payload (nextMessages s) s.payloadState = true)
    ⟨fun both => ⟨both.1, both.2⟩, fun fits => ⟨fits.room, fits.encodes⟩⟩

/-! ## Runs -/

/-- A step of the simulator or of its journal. -/
inductive PublicationOp
  | append (name : Text) (requestKeyJson : Option Text) (bodyJson : Text)
  | publish
  | queueTm (message : PyDict)
  | pop

/-- Whether a step is a call of `publish_journal_events`. -/
def PublicationOp.isPublish : PublicationOp → Bool
  | publish => true
  | _ => false

/-- The simulator, with the events that were put on its pending queue and the entries they got.
No function reads them. -/
structure PublicationState (Lease : Type) where
  service : SatelliteUdpService EventJournal Lease
  put : List (ℕ × QueuedFrame × ℕ)

/-- The events of a call, with the entries they got. -/
def putEvents (s s' : SatelliteUdpService EventJournal Lease) : List (ℕ × QueuedFrame × ℕ) :=
  (((nextBatch s).filter fun row => (journalMessage? row).isSome).map JournalRow.eventId).zip
    (s'.pendingTmFrames.drop s.pendingTmFrames.length)

/-- `append_event`; the identifiers of events count up. -/
def EventJournal.appendEvent (journal : EventJournal) (name : Text) (requestKeyJson : Option Text)
    (bodyJson : Text) : EventJournal :=
  { journal with
    rows := journal.rows ++ [⟨journal.rows.length + 1, name, requestKeyJson, bodyJson⟩] }

/-- One step; a call that raises leaves what it did. -/
def publicationStep (payload : CloudPayload EventJournal Lease) (s : PublicationState Lease) :
    PublicationOp → PublicationState Lease
  | .append name requestKeyJson bodyJson =>
      { s with service := { s.service with
          payloadState := s.service.payloadState.appendEvent name requestKeyJson bodyJson } }
  | .publish =>
      let service := finalState (publishJournalEvents payload s.service)
      ⟨service, s.put ++ putEvents s.service service⟩
  | .queueTm message => { s with service := finalState (queueTm payload message s.service) }
  | .pop => { s with service := { s.service with
      pendingTmFrames := s.service.pendingTmFrames.tail } }

/-- The simulator as a machine. -/
def publicationMachine (payload : CloudPayload EventJournal Lease) :
    Machine (PublicationState Lease) PublicationOp Unit where
  step s op := (publicationStep payload s op, ())

/-- A simulator before the first event of its journal. -/
def beforeEvents (s : SatelliteUdpService EventJournal Lease) : PublicationState Lease where
  service := { s with
    lastJournalEventId := 0
    payloadState := { s.payloadState with rows := [] } }
  put := []

/-- The well-formed events up to a cursor. -/
def wellFormedUpTo (rows : List JournalRow) (cursor : ℕ) : List ℕ :=
  ((rows.filter fun row => row.eventId ≤ cursor).filter
    fun row => (journalMessage? row).isSome).map JournalRow.eventId

/-- A frame encodes an event. -/
def EncodesEvent (payload : CloudPayload EventJournal Lease) (row : JournalRow)
    (entry : QueuedFrame × ℕ) : Prop :=
  ∃ message, journalMessage? row = some message ∧ ∃ journal journal',
    encodeEvent payload message journal = .ok (entry.1.bytes, entry.2) journal'

/-- **Every well-formed event up to the cursor was put on the pending queue exactly once, in the
order of the events**, and the entry of an event is its frame. -/
structure PublishedInOrder (payload : CloudPayload EventJournal Lease)
    (s : PublicationState Lease) : Prop where
  exact : s.put.map Prod.fst =
    wellFormedUpTo s.service.payloadState.rows s.service.lastJournalEventId
  encoded : ∀ entry ∈ s.put, ∃ row ∈ s.service.payloadState.rows,
    row.eventId = entry.1 ∧ EncodesEvent payload row entry.2

/-! ## One event -/

/-- A handler that stays in the payload. -/
theorem onPayload_tryCatch {α : Type} (x : EStateM PyException EventJournal α)
    (handler : PyException → EStateM PyException EventJournal α) (handles : PyException → Bool)
    (s : SatelliteUdpService EventJournal Lease) :
    (tryCatch (onPayload x) fun failure =>
        if handles failure then onPayload (handler failure) else throw failure) s =
      onPayload (tryCatch x fun failure =>
        if handles failure then handler failure else throw failure) s := by
  cases ran : x s.payloadState with
  | ok value journal =>
      have moved : onPayload x s = .ok value { s with payloadState := journal } := by
        rw [onPayload, ran]
      rw [tryCatch_of_ok moved, onPayload, tryCatch_of_ok ran]
  | error failure journal =>
      have moved : onPayload x s = .error failure { s with payloadState := journal } := by
        rw [onPayload, ran]
      rw [tryCatch_of_error moved, onPayload, tryCatch_of_error ran]
      cases handles failure <;> rfl

/-- `_queue_tm`, when its encoder raises. -/
theorem queueTm_of_error {payload : CloudPayload EventJournal Lease} {message : PyDict}
    {s : SatelliteUdpService EventJournal Lease} {failure : PyException} {journal : EventJournal}
    (encoded : encodeEvent payload message s.payloadState = .error failure journal) :
    queueTm payload message s = .error failure { s with payloadState := journal } := by
  have encoder := onPayload_tryCatch (payload.encodeAckTmFrameWithOrder message)
    (fun failure => payload.encodeAckTmFrameWithOrder (truncatedEvent message failure))
    PyException.isValueError s
  unfold encodeEvent at encoded
  unfold queueTm
  refine bind_of_error ?_
  rw [encoder, onPayload, encoded]

/-- `_queue_tm`, when its encoder returns a frame. -/
theorem queueTm_of_ok {payload : CloudPayload EventJournal Lease} {message : PyDict}
    {s : SatelliteUdpService EventJournal Lease} {frame : Bytes} {key : ℕ}
    {journal : EventJournal}
    (encoded : encodeEvent payload message s.payloadState = .ok (frame, key) journal) :
    queueTm payload message s =
      if s.pendingTmCapacity ≤ s.pendingTmFrames.length then
        .error ⟨.runtimeError, "TM_PENDING_QUEUE_FULL"⟩ { s with payloadState := journal }
      else .ok () { s with
        payloadState := journal
        pendingTmFrames := s.pendingTmFrames ++ [(s.frameNow frame, key)] } := by
  have encoder := onPayload_tryCatch (payload.encodeAckTmFrameWithOrder message)
    (fun failure => payload.encodeAckTmFrameWithOrder (truncatedEvent message failure))
    PyException.isValueError s
  unfold encodeEvent at encoded
  unfold queueTm
  rw [bind_of_ok (encoder.trans (by rw [onPayload, encoded]))]
  dsimp only
  rw [get_bind]
  dsimp only
  split <;> rfl

/-- **A call that finds room puts all its events**, each as its frame, in order. -/
theorem publishRows_of_fits (payload : CloudPayload EventJournal Lease) (rows : List JournalRow)
    (count : ℕ) (s : SatelliteUdpService EventJournal Lease)
    (keepsRows : ∀ message known, Keeps (fun j => j.rows = known) (encodeEvent payload message))
    (room : s.pendingTmFrames.length + (rows.filterMap journalMessage?).length ≤
      s.pendingTmCapacity)
    (encodes : encodesAll payload (rows.filterMap journalMessage?) s.payloadState = true) :
    ∃ frames t, publishRows payload rows count s = .ok (count + frames.length) t ∧
      t.pendingTmFrames = s.pendingTmFrames ++ frames ∧
      t.lastJournalEventId = (rows.map JournalRow.eventId).getLastD s.lastJournalEventId ∧
      t.payloadState.rows = s.payloadState.rows ∧
      List.Forall₂ (EncodesEvent payload)
        (rows.filter fun row => (journalMessage? row).isSome) frames := by
  induction rows generalizing count s with
  | nil => exact ⟨[], s, rfl, (List.append_nil _).symm, rfl, rfl, .nil⟩
  | cons row rest ih =>
      rw [List.map_cons, List.getLastD_cons]
      cases wellFormed : journalMessage? row with
      | none =>
          have stepped : publishRows payload (row :: rest) count s =
              publishRows payload rest count { s with lastJournalEventId := row.eventId } := by
            rw [publishRows, wellFormed]
            rfl
          rw [stepped]
          rw [List.filterMap_cons_none wellFormed] at room encodes
          rw [List.filter_cons_of_neg (by simp [wellFormed])]
          exact ih count _ room encodes
      | some message =>
          have stepped : publishRows payload (row :: rest) count s =
              (queueTm payload message >>= fun _ => publishRows payload rest (count + 1))
                { s with lastJournalEventId := row.eventId } := by
            rw [publishRows, wellFormed]
            rfl
          rw [stepped]
          rw [List.filterMap_cons_some wellFormed] at room encodes
          rw [List.filter_cons_of_pos (by simp [wellFormed])]
          rw [List.length_cons] at room
          unfold encodesAll at encodes
          have kept := keepsRows message s.payloadState.rows s.payloadState rfl
          cases encoded : encodeEvent payload message s.payloadState with
          | error failure journal =>
              rw [encoded] at encodes
              cases encodes
          | ok encoding journal =>
              obtain ⟨frame, key⟩ := encoding
              rw [encoded] at encodes kept
              have notFull : ¬ s.pendingTmCapacity ≤ s.pendingTmFrames.length := by omega
              obtain ⟨frames, t, ran, pending, cursor, sameRows, all⟩ := ih (count + 1)
                { s with
                  lastJournalEventId := row.eventId
                  payloadState := journal
                  pendingTmFrames := s.pendingTmFrames ++ [(s.frameNow frame, key)] }
                (by rw [List.length_append]; simp only [List.length_singleton]; omega) encodes
              have queued : queueTm payload message { s with lastJournalEventId := row.eventId } =
                  .ok () { s with
                    lastJournalEventId := row.eventId
                    payloadState := journal
                    pendingTmFrames := s.pendingTmFrames ++ [(s.frameNow frame, key)] } := by
                rw [queueTm_of_ok (s := { s with lastJournalEventId := row.eventId }) encoded,
                  if_neg notFull]
                rfl
              refine ⟨(s.frameNow frame, key) :: frames, t, ?_, ?_, cursor, sameRows.trans kept,
                .cons ⟨message, wellFormed, s.payloadState, journal, encoded⟩ all⟩
              · rw [bind_of_ok queued, ran, List.length_cons, Nat.add_assoc, Nat.add_comm 1]
              · rw [pending, List.append_assoc]
                rfl

/-- A payload on its journal keeps the events when it encodes one. -/
theorem keepsRows_encodeEvent (payload : CloudPayload EventJournal Lease)
    (clock : EventJournal → Raises ℤ) (message : PyDict) (known : List JournalRow) :
    Keeps (fun j => j.rows = known) (encodeEvent (payload.onJournal clock) message) := by
  have counters : Keeps (fun j : EventJournal => j.rows = known)
      journalPayload.allocateTmFrameCounters :=
    Triple.withState fun j same => by
      refine Triple.bind (Triple.weaken (triple_liftRaises _) (fun _ known => known)
        (fun _ _ known => known) fun _ t unchanged => unchanged ▸ same) fun allocated => ?_
      exact Triple.bind (Triple.set fun _ _ => same) fun _ => Keeps.pure _
  have encodes (message : PyDict) : Keeps (fun j : EventJournal => j.rows = known)
      ((payload.onJournal clock).encodeAckTmFrameWithOrder message) :=
    Keeps.bind counters fun _ => Keeps.bind (Keeps.bind (Keeps.getBind fun _ =>
      keeps_liftRaises _ _) fun _ => keeps_liftRaises _ _) fun _ =>
        Keeps.bind (keeps_liftRaises _ _) fun _ => Keeps.pure _
  refine Keeps.tryCatch (encodes message) fun failure => ?_
  split
  · exact encodes _
  · exact Keeps.raise _

/-! ## The events up to a cursor -/

/-- The first of consecutive rows, by their identifiers. -/
theorem filter_le_eq_take {rows : List JournalRow} {first count : ℕ}
    (consecutive : rows.map JournalRow.eventId = List.range' first count) (cursor : ℕ) :
    rows.filter (fun row => row.eventId ≤ cursor) = rows.take (cursor + 1 - first) := by
  induction rows generalizing first count with
  | nil => rw [List.take_nil, List.filter_nil]
  | cons row rest ih =>
      cases count with
      | zero => cases consecutive
      | succ count =>
          rw [List.map_cons, List.range'_succ, List.cons.injEq] at consecutive
          by_cases upTo : row.eventId ≤ cursor
          · rw [List.filter_cons_of_pos (by simpa using upTo), ih consecutive.2,
              show cursor + 1 - first = (cursor + 1 - (first + 1)) + 1 by omega,
              List.take_succ_cons]
          · rw [List.filter_cons_of_neg (by simpa using upTo), ih consecutive.2,
              show cursor + 1 - first = 0 by omega, show cursor + 1 - (first + 1) = 0 by omega]
            rfl

/-- The rest of consecutive rows. -/
theorem filter_lt_eq_drop {rows : List JournalRow} {first count : ℕ}
    (consecutive : rows.map JournalRow.eventId = List.range' first count) (cursor : ℕ) :
    rows.filter (fun row => cursor < row.eventId) = rows.drop (cursor + 1 - first) := by
  induction rows generalizing first count with
  | nil => rw [List.drop_nil, List.filter_nil]
  | cons row rest ih =>
      cases count with
      | zero => cases consecutive
      | succ count =>
          rw [List.map_cons, List.range'_succ, List.cons.injEq] at consecutive
          by_cases after : cursor < row.eventId
          · rw [List.filter_cons_of_pos (by simpa using after), ih consecutive.2,
              show cursor + 1 - first = 0 by omega, show cursor + 1 - (first + 1) = 0 by omega]
            rfl
          · rw [List.filter_cons_of_neg (by simpa using after), ih consecutive.2,
              show cursor + 1 - first = (cursor + 1 - (first + 1)) + 1 by omega,
              List.drop_succ_cons]

theorem wellFormedUpTo_eq {rows : List JournalRow} {count : ℕ}
    (consecutive : rows.map JournalRow.eventId = List.range' 1 count) (cursor : ℕ) :
    wellFormedUpTo rows cursor = ((rows.take cursor).filter
      fun row => (journalMessage? row).isSome).map JournalRow.eventId := by
  rw [wellFormedUpTo, filter_le_eq_take consecutive, Nat.add_sub_cancel]

/-- What holds of a simulator between two steps. -/
structure Published (payload : CloudPayload EventJournal Lease) (s : PublicationState Lease) :
    Prop where
  consecutive : s.service.payloadState.rows.map JournalRow.eventId =
    List.range' 1 s.service.payloadState.rows.length
  behind : s.service.lastJournalEventId ≤ s.service.payloadState.rows.length
  inOrder : PublishedInOrder payload s

namespace Published

variable {payload : CloudPayload EventJournal Lease} {s : PublicationState Lease}

/-- The next batch begins after the cursor. -/
theorem nextBatch_prefix (published : Published payload s) :
    nextBatch s.service <+:
      s.service.payloadState.rows.drop s.service.lastJournalEventId := by
  rw [nextBatch, filter_lt_eq_drop published.consecutive, Nat.add_sub_cancel]
  exact List.take_prefix ..

/-- The cursor after the next batch. -/
theorem getLastD_nextBatch (published : Published payload s) :
    ((nextBatch s.service).map JournalRow.eventId).getLastD s.service.lastJournalEventId =
      s.service.lastJournalEventId + (nextBatch s.service).length := by
  have starts := published.nextBatch_prefix.map JournalRow.eventId
  have ids : (nextBatch s.service).map JournalRow.eventId =
      List.range' (s.service.lastJournalEventId + 1) (nextBatch s.service).length := by
    rw [List.map_drop, published.consecutive, List.drop_range', Nat.mul_one,
      Nat.add_comm 1] at starts
    have shorter := starts.length_le
    rw [List.length_map, List.length_range'] at shorter
    rw [List.prefix_iff_eq_take.mp starts, List.length_map,
      List.take_range'_of_length_ge shorter]
  rw [ids]
  cases (nextBatch s.service).length with
  | zero => rfl
  | succ count =>
      rw [List.getLastD_eq_getLast?, List.getLast?_range', if_neg (Nat.succ_ne_zero count)]
      simp only [Option.getD_some]
      omega

/-- A step that leaves the events, the cursor and what was put. -/
theorem of_same (published : Published payload s) {t : PublicationState Lease}
    (rows : t.service.payloadState.rows = s.service.payloadState.rows)
    (cursor : t.service.lastJournalEventId = s.service.lastJournalEventId)
    (put : t.put = s.put) : Published payload t where
  consecutive := by rw [rows, published.consecutive]
  behind := by rw [rows, cursor]; exact published.behind
  inOrder :=
    ⟨by rw [put, rows, cursor]; exact published.inOrder.exact, fun entry mem => by
      rw [put] at mem
      rw [rows]
      exact published.inOrder.encoded entry mem⟩

/-- An event is added to the journal. -/
theorem append (published : Published payload s) (name : Text) (requestKeyJson : Option Text)
    (bodyJson : Text) :
    Published payload (publicationStep payload s (.append name requestKeyJson bodyJson)) where
  consecutive := by
    change (_ ++ [_] : List JournalRow).map _ = List.range' 1 (_ ++ [_] : List JournalRow).length
    rw [List.map_append, published.consecutive, List.length_append, List.length_singleton,
      List.range'_concat, Nat.one_mul, List.map_singleton, Nat.add_comm 1]
  behind := by
    change s.service.lastJournalEventId ≤ (s.service.payloadState.rows ++ [_]).length
    exact published.behind.trans (List.length_append ▸ Nat.le_add_right ..)
  inOrder := by
    have earlier := published.inOrder
    refine ⟨?_, fun entry mem => ?_⟩
    · change s.put.map Prod.fst = wellFormedUpTo (s.service.payloadState.rows ++ [_])
        s.service.lastJournalEventId
      have late : ¬ s.service.payloadState.rows.length + 1 ≤ s.service.lastJournalEventId :=
        Nat.not_le.mpr (Nat.lt_succ_of_le published.behind)
      rw [earlier.exact, wellFormedUpTo, wellFormedUpTo, List.filter_append,
        List.filter_cons_of_neg (by simpa using late), List.filter_nil, List.append_nil]
    · obtain ⟨row, known, rest⟩ := earlier.encoded entry mem
      exact ⟨row, List.mem_append_left _ known, rest⟩

/-- **A call that finds room puts the events of its batch**, and moves the cursor over it. -/
theorem publish (published : Published payload s)
    (eventsAfter : payload.eventsAfter = journalPayload.eventsAfter)
    (keepsRows : ∀ message known, Keeps (fun j => j.rows = known) (encodeEvent payload message))
    (fits : FitsPending payload s.service) :
    Published payload (publicationStep payload s .publish) ∧
      (publicationStep payload s .publish).service.lastJournalEventId =
        s.service.lastJournalEventId + (nextBatch s.service).length := by
  obtain ⟨frames, t, ran, pending, cursor, rows, encoded⟩ := publishRows_of_fits payload
    (nextBatch s.service) 0 s.service keepsRows fits.room fits.encodes
  have batch : onPayload (payload.eventsAfter s.service.lastJournalEventId) s.service =
      .ok (nextBatch s.service) s.service := by
    rw [eventsAfter]
    rfl
  have called : publishJournalEvents payload s.service = .ok (0 + frames.length) t := by
    unfold publishJournalEvents
    rw [get_bind, bind_of_ok batch, ran]
  have stepped : publicationStep payload s .publish = ⟨t, s.put ++
      (((nextBatch s.service).filter fun row => (journalMessage? row).isSome).map
        JournalRow.eventId).zip frames⟩ := by
    change PublicationState.mk (finalState _) (s.put ++ putEvents _ (finalState _)) = _
    rw [called, finalState_ok, putEvents, pending, List.drop_left]
  rw [published.getLastD_nextBatch] at cursor
  have length_le : s.service.lastJournalEventId + (nextBatch s.service).length ≤
      s.service.payloadState.rows.length := by
    have behind := published.behind
    have shorter := published.nextBatch_prefix.length_le
    rw [List.length_drop] at shorter
    omega
  have split : s.service.payloadState.rows.take
      (s.service.lastJournalEventId + (nextBatch s.service).length) =
      s.service.payloadState.rows.take s.service.lastJournalEventId ++ nextBatch s.service := by
    rw [List.take_add, ← List.prefix_iff_eq_take.mp published.nextBatch_prefix]
  rw [stepped]
  refine ⟨⟨by rw [rows]; exact published.consecutive, by rw [cursor, rows]; exact length_le,
    ?_, ?_⟩, cursor⟩
  · change (s.put ++ _).map Prod.fst = wellFormedUpTo t.payloadState.rows t.lastJournalEventId
    rw [rows, cursor, wellFormedUpTo_eq published.consecutive, split, List.filter_append,
      List.map_append, List.map_append, published.inOrder.exact,
      wellFormedUpTo_eq published.consecutive, List.map_fst_zip]
    rw [List.length_map]
    exact encoded.length_eq.le
  · intro entry mem
    change ∃ row ∈ t.payloadState.rows, _
    rw [rows]
    rcases List.mem_append.mp mem with old | new
    · exact published.inOrder.encoded entry old
    · rw [List.zip_map_left] at new
      obtain ⟨⟨row, frame⟩, paired, rfl⟩ := List.mem_map.mp new
      have inBatch := (List.of_mem_zip paired).1
      refine ⟨row, ?_, rfl, (List.forall₂_iff_zip.mp encoded).2 paired⟩
      exact (List.mem_filter.mp (List.mem_of_mem_take (List.mem_of_mem_filter inBatch))).1

/-- Other telemetry. -/
theorem queueTm (published : Published payload s)
    (keepsRows : ∀ message known, Keeps (fun j => j.rows = known) (encodeEvent payload message))
    (message : PyDict) : Published payload (publicationStep payload s (.queueTm message)) := by
  have kept := keepsRows message s.service.payloadState.rows s.service.payloadState rfl
  cases encoded : encodeEvent payload message s.service.payloadState with
  | error failure journal =>
      rw [encoded] at kept
      have called := queueTm_of_error encoded
      refine published.of_same ?_ ?_ rfl
      · exact (congrArg (fun r => (finalState r).payloadState.rows) called).trans kept
      · exact congrArg (fun r => (finalState r).lastJournalEventId) called
  | ok encoding journal =>
      obtain ⟨frame, key⟩ := encoding
      rw [encoded] at kept
      have called := queueTm_of_ok encoded
      refine published.of_same ?_ ?_ rfl
      · refine (congrArg (fun r => (finalState r).payloadState.rows) called).trans ?_
        split <;> exact kept
      · refine (congrArg (fun r => (finalState r).lastJournalEventId) called).trans ?_
        split <;> rfl

end Published

/-! ## Runs in which every call finds room -/

/-- A simulator before the first event. -/
theorem published_beforeEvents (payload : CloudPayload EventJournal Lease)
    (s : SatelliteUdpService EventJournal Lease) : Published payload (beforeEvents s) where
  consecutive := rfl
  behind := Nat.le_refl 0
  inOrder := ⟨rfl, fun _ mem => nomatch mem⟩

/-- **Every well-formed event is put once and in order**, in every run of appends, other
telemetry, pops and calls of `publish_journal_events` in which every call finds room; each
call then takes the events after the cursor, up to its limit. -/
theorem publishedInOrder_of_fits (payload : CloudPayload EventJournal Lease)
    (clock : EventJournal → Raises ℤ) (s : SatelliteUdpService EventJournal Lease)
    (ops : List PublicationOp)
    (fits : (publicationMachine (payload.onJournal clock)).AllSteps
      (fun t op => op.isPublish = true → FitsPending (payload.onJournal clock) t.service)
      (beforeEvents s) ops) :
    let reached := (publicationMachine (payload.onJournal clock)).exec (beforeEvents s) ops
    PublishedInOrder (payload.onJournal clock) reached ∧
      (FitsPending (payload.onJournal clock) reached.service →
        (publicationStep (payload.onJournal clock) reached .publish).service.lastJournalEventId =
          reached.service.lastJournalEventId + (nextBatch reached.service).length) := by
  have keepsRows := keepsRows_encodeEvent payload clock
  have published := (publicationMachine (payload.onJournal clock)).exec_invariant_of_allSteps
    (Published (payload.onJournal clock)) (published_beforeEvents _ s)
    (fun t op fits published => by
      cases op with
      | append name requestKeyJson bodyJson => exact published.append name requestKeyJson bodyJson
      | publish => exact (published.publish rfl keepsRows (fits rfl)).1
      | queueTm message => exact published.queueTm keepsRows message
      | pop => exact published.of_same rfl rfl rfl) ops fits
  exact ⟨published.inOrder, fun room => (published.publish rfl keepsRows room).2⟩

/-! ## A queue without room -/

/-- A simulator on the mission profile, whose queue takes 32 frames. -/
def missionPublication : SatelliteUdpService EventJournal Unit :=
  .new journalEndpoint .mission (journalWith 0)

/-- The mission payload on its journal. -/
def publicationPayload : CloudPayload EventJournal Unit := journalPayload.onJournal fun _ => .ok 0

/-- A job starts. -/
def jobStarted : PublicationOp :=
  .append (Text.ofString "JOB_STARTED") none (Text.ofString "\x7b\x7d")

/-- The theorem applies to two calls with a pop between them. -/
theorem publishedInOrder_of_fits_twoCalls :
    ((publicationMachine publicationPayload).exec (beforeEvents missionPublication)
      [jobStarted, jobStarted, .publish, .pop, jobStarted, .publish]).put.map Prod.fst =
        [1, 2, 3] := by
  have fits : (publicationMachine publicationPayload).AllSteps
      (fun t op => op.isPublish = true → FitsPending publicationPayload t.service)
      (beforeEvents missionPublication)
      [jobStarted, jobStarted, .publish, .pop, jobStarted, .publish] := by
    decide +kernel
  refine (publishedInOrder_of_fits journalPayload (fun _ => .ok 0) missionPublication _
    fits).1.exact.trans ?_
  decide +kernel

/-- **The event a call fails on is skipped.**  Of 33 events the queue takes 32; after a pop the
next call begins behind the one that found no room. -/
theorem not_publishedInOrder_of_fullQueue :
    ¬ PublishedInOrder publicationPayload ((publicationMachine publicationPayload).exec
      (beforeEvents missionPublication)
      (List.replicate 33 jobStarted ++ [.publish, .pop, .publish])) := by
  intro inOrder
  have exact_ := inOrder.exact
  revert exact_
  decide +kernel

end CubeNano

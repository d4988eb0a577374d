import CubeNano.Flight.MissionComScheduler
import CubeNano.Flight.TmCounters
import CubeNano.Link.Transport
import CubeNano.Protocol.Command
import CubeNano.Protocol.Messages
import CubeNano.Protocol.TcFrame

/-!
# Telemetry of the satellite end point

What `SatelliteSimulator` (`flight/satellite_simulator.py`) says in its telemetry: command
results and journal events, cut down to the fields that correlate them.  The payload is a
parameter: its operations are any programs over any state, which may hold the schedule of
its threads.

## Main definitions

* `CloudPayload` — what the end point calls of the payload
* `CloudPayload.encodeAckTmFrameWithOrder`
* `compactCommandResult`, `journalMessage?`, `truncatedEvent` — the messages
-/

namespace CubeNano

/-- A row of `SatelliteJournal.events_after`. -/
structure JournalRow where
  eventId : ℕ
  eventName : Text
  requestKeyJson : Option Text
  bodyJson : Text

/-- The SLO profile of a deployment. -/
structure SloProfile where
  oldestAckAgeMs : ℤ
  healthMaxLatencyMs : ℤ
  asDict : PyDict

/-- What the end point calls of `CloudPayload`, over its state.  A FILE frame goes to the
scheduler between `nextDownlinkFrame`, which leases it, and `frameComplete`. -/
structure CloudPayload (π Lease : Type) where
  spacecraftInstanceId : U64
  bootId : U32
  spacecraftId : ℕ
  tmEventApid : ℕ
  eventTimeBase : Text
  slo : Option SloProfile
  /-- `_event_clock`. -/
  eventClock : EStateM PyException π ℤ
  /-- `journal.allocate_tm_frame_counters` for the event APID. -/
  allocateTmFrameCounters : EStateM PyException π TmFrameCounters
  /-- `journal.events_after`. -/
  eventsAfter : ℕ → EStateM PyException π (List JournalRow)
  /-- `health`, with the depths of the scheduler queues. -/
  health : (QueueKind → ℕ) → EStateM PyException π PyDict
  /-- `receive_transport_frame`. -/
  receiveTransportFrame : TransportFrame → EStateM PyException π PyDict
  /-- `catalog.bundle_bytes`. -/
  catalogBundle : EStateM PyException π Bytes
  /-- `enqueue_downlink_frame` up to `scheduler.enqueue_file`: the lease, its frame and its
  ordering key, or nothing to send. -/
  nextDownlinkFrame : ℤ → EStateM PyException π (Option (Lease × Bytes × Option ℕ))
  /-- The lease is given up and the transfer aborted, when the queue refused the frame. -/
  downlinkRefused : Lease → PyException → EStateM PyException π Unit
  /-- The completion of a FILE frame, up to the `enqueue_downlink_frame` of its successor:
  the transfer that goes on, if it does. -/
  frameComplete : Lease → String → EStateM PyException π (Option ℤ)
  /-- `_abort_downlink`. -/
  abortDownlink : ℤ → PyException → EStateM PyException π Unit

namespace CloudPayload

variable {π Lease : Type}

/-- `_encode_ack_tm`. -/
def encodeAckTm (payload : CloudPayload π Lease) (result : PyDict) (sequenceCount : ℕ) :
    EStateM PyException π Bytes := do
  let time ← payload.eventClock
  liftRaises (encodeTmApplication payload.tmEventApid .eventAck (dictUpdate
    [(strKey "source_spacecraft_instance_id",
        strKey (hexDigits 16 payload.spacecraftInstanceId.val)),
      (strKey "sender_boot_id", .int payload.bootId.val),
      (strKey "satellite_event_time", .int time),
      (strKey "satellite_event_time_ns", .int time),
      (strKey "satellite_time_base", .str payload.eventTimeBase)] result) sequenceCount)

/-- `encode_ack_tm_frame_with_order`. -/
def encodeAckTmFrameWithOrder (payload : CloudPayload π Lease) (result : PyDict) :
    EStateM PyException π (Bytes × ℕ) := do
  let counters ← payload.allocateTmFrameCounters
  let packet ← payload.encodeAckTm result counters.packetSequence
  let frame ← liftRaises (encodeTmFrame packet payload.spacecraftId counters.virtualChannelId
    counters.masterChannelCount counters.virtualChannelCount)
  pure (frame, counters.master)

end CloudPayload

/-! ## Messages -/

/-- `except ValueError`. -/
def PyException.isValueError (failure : PyException) : Bool :=
  failure.kind.isTypeOrValueError && failure.kind ≠ .typeError

/-- `value.get(name, default)`. -/
def dictGetD (entries : PyDict) (name : String) (default_ : PyValue) : PyValue :=
  (dictGet? entries name).getD default_

/-- The entries of a dictionary with the given names. -/
def pickEntries (entries : PyDict) (names : List String) : PyDict :=
  names.filterMap fun name => (dictGet? entries name).map fun value => (strKey name, value)

/-- The value under a key, unless the key is missing or its value `None`. -/
def present? (entries : PyDict) (name : String) : Option PyValue :=
  match dictGet? entries name with
  | none | some .none => none
  | some value => some value

/-- `_compact_command_result`; `stage` is the text of the stage. -/
def compactCommandResult (stage : Text) (result : PyDict) (requestKey : Option PyValue) : PyDict :=
  let effectiveKey := match dictGet? result "request_key" with
    | some .none => none
    | some key => some key
    | none => requestKey
  [(strKey "stage", .str stage)] ++
    (effectiveKey.map fun key => (strKey "request_key", key)).toList ++
    pickEntries result ["error_code", "transfer_id", "product_ref", "config_snapshot", "job_key",
      "state", "cancel_outcome", "preview_policy", "scene_ref"]

/-- The product of a journal body, under the keys it may stand. -/
def nestedProductRef? (body : PyDict) : Option PyValue :=
  let ofProduct := match dictGet? body "product" with
    | some (.dict product) => present? product "product_ref"
    | _ => none
  let ofResult := match dictGet? body "result" with
    | some (.dict result) =>
        match present? result "product_ref" with
        | some ref => some ref
        | none =>
            match dictGet? result "product" with
            | some (.dict product) => present? product "product_ref"
            | _ => none
    | _ => none
  match ofProduct with
  | some ref => some ref
  | none => ofResult

/-- `_compact_journal_body`. -/
def compactJournalBody (eventName : Text) (body : PyDict) : PyDict :=
  let picked := pickEntries body ["error_code", "transfer_id", "state", "science_decision",
    "progress_bp", "job_key", "product_ref"]
  let compact := if (dictGet? picked "product_ref").isSome then picked
    else picked ++ ((nestedProductRef? body).map fun ref => (strKey "product_ref", ref)).toList
  if compact.isEmpty then [(strKey "event", .str eventName)] else compact

/-- The diagnostic that stands for a message that is too large. -/
def truncatedEvent (message : PyDict) (failure : PyException) : PyDict :=
  [(strKey "event_name", strKey "TM_EVENT_TRUNCATED"),
    (strKey "stage", dictGetD message "stage" (strKey "FAILED")),
    (strKey "message", .dict
      [(strKey "error_code", strKey "TM_EVENT_OVERSIZE"),
        (strKey "original_event_name", dictGetD message "event_name" (strKey "MISSION_EVENT")),
        (strKey "detail", strKey failure.kind.name)])] ++
  ((present? message "request_key").map fun key => (strKey "request_key", key)).toList

/-- The TM event of a journal row; a row that cannot be encoded has none. -/
def journalMessage? (row : JournalRow) : Option PyDict :=
  let parsed : Raises (PyValue × Option PyValue) := do
    let body ← jsonLoads row.bodyJson
    let requestKey ← match row.requestKeyJson with
      | none => .ok none
      | some text => (jsonLoads text).map some
    .ok (body, requestKey)
  match parsed with
  | .ok (.dict body, requestKey) => some <|
      [(strKey "event_name", .str row.eventName),
        (strKey "message", .dict (compactJournalBody row.eventName body)),
        (strKey "satellite_journal_event_id", .int row.eventId)] ++
      match requestKey with
      | none | some .none => []
      | some key => [(strKey "request_key", key)]
  | _ => none

/-- `_request_key_from_transport_frame`. -/
def requestKeyOf (frame : TransportFrame) : Option PyValue :=
  let key : Raises RequestKey := do
    let tc ← TcTypeBdFrame.decode frame.frameBytes
    let command ← decodeCommand tc.packet.payload
    .ok command.requestKey
  match key with
  | .ok key => some key.asDict
  | .error _ => none

end CubeNano

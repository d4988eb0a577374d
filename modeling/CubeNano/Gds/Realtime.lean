import CubeNano.Lib.Machine
import CubeNano.Lib.OrderedLog
import CubeNano.Lib.Table
import Mathlib.Algebra.GroupWithZero.Nat

/-!
# Realtime events

`EventStore` of `gds/events.py` and `RealtimeHub` of `gds/realtime.py`: events get
consecutive ids in a durable table, a producer publishes its event to the connected
clients in a step of its own, and a client that connects gets the events after its
cursor as a replay and the later ones through its queue.

The fields of an event other than its id are one content, and the length of its JSON
text is a parameter.  `connect` reads the table twice under the lock of the hub;
events that producers append between the two reads are an argument of the step.

## Main definitions

* `EventStore`, `RealtimeClient`, `RealtimeHub` — as in the source
* `Connection` — what the program at the other end of a connection has received
* `realtimeMachine` — producers, connects, drains and disconnects in any order
-/

namespace CubeNano

variable {β : Type}

/-- `EventRecord`: the id, and the other fields as one content. -/
structure EventRecord (β : Type) where
  eventId : ℕ
  content : β
  deriving DecidableEq, Repr

/-! ## The store -/

/-- The rows of `events` in the order of their key, and the sequence row. -/
structure EventStore (β : Type) where
  events : List (EventRecord β)
  nextEventId : ℕ

namespace EventStore

/-- The database after its migrations. -/
def migrated : EventStore β := ⟨[], 1⟩

/-- `MAX_U64`. -/
def maxEventId : ℕ := 0xFFFFFFFFFFFFFFFF

/-- `append_in_transaction`; it raises when the ids are used up. -/
def append (store : EventStore β) (content : β) : Option (EventRecord β × EventStore β) :=
  if store.nextEventId ≥ maxEventId then none
  else
    let record : EventRecord β := ⟨store.nextEventId, content⟩
    some (record, ⟨store.events ++ [record], store.nextEventId + 1⟩)

/-- `list_events`. -/
def listEvents (store : EventStore β) (after? : Option ℕ) (limit : ℕ) : List (EventRecord β) :=
  match after? with
  | none => store.events.take limit
  | some after => (store.events.filter fun event => after < event.eventId).take limit

/-- `latest_event_id`. -/
def latestEventId (store : EventStore β) : ℕ :=
  (store.events.getLast?.map EventRecord.eventId).getD 0

end EventStore

/-! ## The hub -/

/-- `ResyncRequired` with its message. -/
structure ResyncRequired where
  message : String
  deriving DecidableEq, Repr

/-- The limits of a hub; `encodedSize` is the length of the JSON text of an event. -/
structure RealtimeConfig (β : Type) where
  maxClientEvents : ℕ
  maxClientBytes : ℕ
  encodedSize : EventRecord β → ℕ
  /-- The constructor wants a positive number, `list_events` at most a thousand. -/
  maxClientEvents_valid : 1 ≤ maxClientEvents ∧ maxClientEvents ≤ 1000
  maxClientBytes_pos : 0 < maxClientBytes

/-- `RealtimeClient`. -/
structure RealtimeClient (β : Type) where
  maxEvents : ℕ
  maxBytes : ℕ
  liveAfterEventId : ℕ
  queue : List (EventRecord β)
  bytes : ℕ
  closed : Bool
  closeReason : Option String

namespace RealtimeClient

/-- `require_resync`. -/
def requireResync (client : RealtimeClient β) : RealtimeClient β :=
  { client with queue := [], bytes := 0, closed := true, closeReason := some "RESYNC_REQUIRED" }

/-- `enqueue`, and whether it raised `SlowClient`. -/
def enqueue (cfg : RealtimeConfig β) (event : EventRecord β) (client : RealtimeClient β) :
    RealtimeClient β × Bool :=
  if client.closed then (client, false)
  -- the event belongs to the replay
  else if event.eventId ≤ client.liveAfterEventId then (client, false)
  else if client.queue.length ≥ client.maxEvents ∨
      client.bytes + cfg.encodedSize event > client.maxBytes then (client.requireResync, true)
  else
    ({ client with
        queue := client.queue ++ [event]
        bytes := client.bytes + cfg.encodedSize event }, false)

/-- `drain`, of up to `limit` events. -/
def drain (cfg : RealtimeConfig β) (limit : ℕ) (client : RealtimeClient β) :
    RealtimeClient β × List (EventRecord β) :=
  let result := client.queue.take limit
  ({ client with
      queue := client.queue.drop limit
      bytes := client.bytes - (result.map cfg.encodedSize).sum }, result)

end RealtimeClient

/-- `RealtimeHub`: the registered clients under their ids. -/
structure RealtimeHub (β : Type) where
  clients : Table ℕ (RealtimeClient β)
  nextClientId : ℕ
  retentionFloor : ℕ

namespace RealtimeHub

/-- A hub without clients. -/
def new : RealtimeHub β := ⟨.empty, 1, 1⟩

/-- `connect`: the client id, `as_of` and the replay.  `store` is read first, and
`later` after it. -/
def connect (cfg : RealtimeConfig β) (store later : EventStore β) (cursor : Option ℕ)
    (hub : RealtimeHub β) :
    Except ResyncRequired ((ℕ × ℕ × List (EventRecord β)) × RealtimeHub β) :=
  if cursor.any fun after => after + 1 < hub.retentionFloor then
    .error ⟨"requested realtime cursor is older than retention"⟩
  else
    let asOf := store.latestEventId
    if cursor.any fun after => asOf < after then
      .error ⟨"requested realtime cursor is ahead of the retained event stream"⟩
    else
      let records := later.listEvents cursor cfg.maxClientEvents
      let replay := records.filter fun record => record.eventId ≤ asOf
      if (replay.length ≥ cfg.maxClientEvents ∧
            records.getLast?.any (fun record => record.eventId < asOf)) ∨
          (replay.map cfg.encodedSize).sum > cfg.maxClientBytes then
        .error ⟨"replay exceeds the bounded client buffer"⟩
      else
        let client : RealtimeClient β :=
          { maxEvents := cfg.maxClientEvents
            maxBytes := cfg.maxClientBytes
            liveAfterEventId := asOf
            queue := []
            bytes := 0
            closed := false
            closeReason := none }
        .ok ((hub.nextClientId, asOf, replay), { hub with
          clients := hub.clients.set hub.nextClientId client
          nextClientId := hub.nextClientId + 1 })

/-- `publish`: every client takes the event, and the slow ones are dropped. -/
def publish (cfg : RealtimeConfig β) (event : EventRecord β) (hub : RealtimeHub β) :
    RealtimeHub β :=
  { hub with
    clients := (hub.clients.filter fun _ client => !(client.enqueue cfg event).2).mapRows
      fun _ client => (client.enqueue cfg event).1 }

/-- `disconnect`. -/
def disconnect (clientId : ℕ) (hub : RealtimeHub β) : RealtimeHub β :=
  { hub with clients := hub.clients.erase clientId }

end RealtimeHub

/-! ## Runs -/

/-- The far end of a connection: the cursor it was opened with, what it has received,
and what the connections it resumes had received. -/
structure Connection (β : Type) where
  cursor : Option ℕ
  earlier : List (EventRecord β)
  received : List (EventRecord β)

/-- The id of the last event received: the cursor of the next connection. -/
def Connection.lastEventId (conn : Connection β) : Option ℕ :=
  (conn.received.getLast?.map EventRecord.eventId).or conn.cursor

/-- The store, the events appended and not yet published, the hub, and the far ends. -/
structure RealtimeState (β : Type) where
  store : EventStore β
  pending : List (EventRecord β)
  hub : RealtimeHub β
  connections : Table ℕ (Connection β)

/-- The steps.  A connect may resume an earlier connection, and `meanwhile` is appended
between its two reads. -/
inductive RealtimeOp (β : Type)
  | append (content : β)
  | publish (eventId : ℕ)
  | connect (previous : Option ℕ) (meanwhile : List β)
  | drain (clientId limit : ℕ)
  | disconnect (clientId : ℕ)

/-- What the steps return. -/
inductive RealtimeResult (β : Type)
  | done
  | resync (failure : ResyncRequired)
  | connected (clientId asOf : ℕ) (replay : List (EventRecord β))
  | drained (events : List (EventRecord β))

namespace RealtimeState

/-- A producer appends an event, which it still has to publish. -/
def produce (s : RealtimeState β) (content : β) : RealtimeState β :=
  match s.store.append content with
  | none => s
  | some (record, store) => { s with store, pending := s.pending ++ [record] }

/-- The producer of an event publishes it. -/
def announce (cfg : RealtimeConfig β) (eventId : ℕ) (s : RealtimeState β) : RealtimeState β :=
  match s.pending.find? fun event => event.eventId = eventId with
  | none => s
  | some event =>
      { s with
        pending := s.pending.filter fun other => other.eventId ≠ eventId
        hub := s.hub.publish cfg event }

/-- The far end of a connection that resumes another, before its replay. -/
def resume (s : RealtimeState β) (previous : Option ℕ) : Connection β :=
  match previous.bind s.connections.find? with
  | none => ⟨none, [], []⟩
  | some conn => ⟨conn.lastEventId, conn.earlier ++ conn.received, []⟩

/-- A connect with the events appended meanwhile. -/
def attach (cfg : RealtimeConfig β) (previous : Option ℕ) (meanwhile : List β)
    (s : RealtimeState β) : RealtimeState β × RealtimeResult β :=
  let conn := s.resume previous
  let later := meanwhile.foldl produce s
  match s.hub.connect cfg s.store later.store conn.cursor with
  | .error failure => (later, .resync failure)
  | .ok ((clientId, asOf, replay), hub) =>
      ({ later with
          hub
          connections := later.connections.set clientId { conn with received := replay } },
        .connected clientId asOf replay)

/-- A drain; the queue of a client that is no longer registered is empty. -/
def receive (cfg : RealtimeConfig β) (clientId limit : ℕ) (s : RealtimeState β) :
    RealtimeState β × RealtimeResult β :=
  match s.hub.clients.find? clientId, s.connections.find? clientId with
  | some client, some conn =>
      let drained := client.drain cfg limit
      ({ s with
          hub := { s.hub with clients := s.hub.clients.set clientId drained.1 }
          connections := s.connections.set clientId
            { conn with received := conn.received ++ drained.2 } }, .drained drained.2)
  | _, _ => (s, .drained [])

end RealtimeState

/-- Producers, connects, drains and disconnects. -/
def realtimeMachine (cfg : RealtimeConfig β) :
    Machine (RealtimeState β) (RealtimeOp β) (RealtimeResult β) where
  step s
    | .append content => (s.produce content, .done)
    | .publish eventId => (s.announce cfg eventId, .done)
    | .connect previous meanwhile => s.attach cfg previous meanwhile
    | .drain clientId limit => s.receive cfg clientId limit
    | .disconnect clientId => ({ s with hub := s.hub.disconnect clientId }, .done)

end CubeNano

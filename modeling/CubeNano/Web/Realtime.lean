import CubeNano.Web.Store

/-!
# The realtime client of the web console

`RealtimeClient` of `gds/web/src/api/realtime.ts`: it passes the snapshots and events of a
socket on to its handlers, drops events it has passed on before, and asks for a new snapshot
when it cannot go on.  A method returns the calls of the handlers in their order; that
`onResync` is called is `resyncInFlight`.

## Main definitions

* `BoundedEventBuffer` — the events that are being passed on
* `RealtimeClient.receive` — a message of the socket
* `RealtimeClient.finishResync` — the end of `resync`

## Main statements

* `RealtimeClient.dispatch_of_recent`, `RealtimeClient.dispatch_of_new` — what becomes of an
  event
-/

namespace CubeNano.Web

/-! ## The buffer -/

/-- `BoundedEventBuffer`, of ids and lengths. -/
structure BoundedEventBuffer where
  events : List (U64 × ℕ)
  bytes : ℕ
  deriving DecidableEq

namespace BoundedEventBuffer

/-- The default limits of the constructor. -/
def maxEvents : ℕ := 1000

@[inherit_doc maxEvents]
def maxBytes : ℕ := 4 * 1024 * 1024

/-- The buffer without events. -/
def empty : BoundedEventBuffer := ⟨[], 0⟩

/-- `push`; `none` if a limit is reached. -/
def push (buffer : BoundedEventBuffer) (e : EventRecord) : Option BoundedEventBuffer :=
  if buffer.events.length ≥ maxEvents ∨ buffer.bytes + e.encodedBytes > maxBytes then none
  else some ⟨buffer.events ++ [(e.eventId, e.encodedBytes)], buffer.bytes + e.encodedBytes⟩

/-- `consume`: remove the first entry with the id. -/
def consume (buffer : BoundedEventBuffer) (eventId : U64) : BoundedEventBuffer :=
  match buffer.events.find? fun entry => entry.1 = eventId with
  | none => buffer
  | some entry =>
      ⟨buffer.events.eraseP fun entry => entry.1 = eventId, buffer.bytes - entry.2⟩

theorem push_empty {e : EventRecord} (fits : e.encodedBytes ≤ maxBytes) :
    empty.push e = some ⟨[(e.eventId, e.encodedBytes)], e.encodedBytes⟩ := by
  rw [push, if_neg]
  · rw [empty, List.nil_append, Nat.zero_add]
  · rintro (full | large)
    · exact absurd full (by decide)
    · rw [empty, Nat.zero_add] at large
      exact absurd fits (Nat.not_le.mpr large)

theorem consume_single (eventId : U64) (n : ℕ) :
    (⟨[(eventId, n)], n⟩ : BoundedEventBuffer).consume eventId = empty := by
  unfold consume
  rw [List.find?_cons_of_pos (by simp)]
  simp [empty]

end BoundedEventBuffer

/-! ## The client -/

/-- An event on the wire: `malformed` has no sixteen-digit lowercase hexadecimal `event_id`. -/
inductive WireEvent
  | event (e : EventRecord)
  | malformed

/-- `EventEnvelope`. -/
structure EventEnvelope where
  error : Option String
  snapshot : Option SnapshotEnvelope
  events : List WireEvent
  event : Option WireEvent

/-- The events of a message, in the order of their dispatch. -/
def EventEnvelope.allEvents (envelope : EventEnvelope) : List WireEvent :=
  envelope.events ++ envelope.event.toList

/-- The cursor, the buffer and the deduplication window of `RealtimeClient`; the set
`recentEventIds` has the elements of `recentEventOrder`. -/
structure RealtimeClient where
  lastEventId : Option U64
  buffer : BoundedEventBuffer
  recentEventOrder : List U64
  resyncInFlight : Bool
  deriving DecidableEq

namespace RealtimeClient

/-- A client before `start`. -/
def initial : RealtimeClient := ⟨none, .empty, [], false⟩

/-- The number of ids that are remembered. -/
def maxRecent : ℕ := 2048

/-- `resync` up to the call of `onResync`. -/
def resync (client : RealtimeClient) : RealtimeClient := { client with resyncInFlight := true }

/-- Remember an id, and forget the oldest ones beyond the window. -/
def remember (client : RealtimeClient) (eventId : U64) : RealtimeClient :=
  let order := client.recentEventOrder ++ [eventId]
  { client with recentEventOrder := order.drop (order.length - maxRecent) }

/-- The cursor behind an event: the greater of the two. -/
def advance (lastEventId : Option U64) (eventId : U64) : U64 :=
  match lastEventId with
  | none => eventId
  | some last => if last < eventId then eventId else last

/-- `dispatch`. -/
def dispatch (client : RealtimeClient) : WireEvent → RealtimeClient × List StoreCall
  | .malformed => (client.resync, [])
  | .event e =>
      if e.eventId ∈ client.recentEventOrder then (client, [])
      else
        let remembered := client.remember e.eventId
        match remembered.buffer.push e with
        | none => (remembered.resync, [])
        | some pushed =>
            ({ remembered with
                lastEventId := some (advance remembered.lastEventId e.eventId)
                buffer := pushed.consume e.eventId },
              [.applyEvent e])

/-- `dispatch` of several events. -/
def dispatchAll : RealtimeClient → List WireEvent → RealtimeClient × List StoreCall
  | client, [] => (client, [])
  | client, event :: rest =>
      let first := client.dispatch event
      let others := dispatchAll first.1 rest
      (others.1, first.2 ++ others.2)

theorem mem_remember {client : RealtimeClient} {eventId x : U64}
    (mem : x ∈ (client.remember eventId).recentEventOrder) :
    x ∈ client.recentEventOrder ∨ x = eventId := by
  unfold remember at mem
  dsimp only at mem
  rcases List.mem_append.mp (List.mem_of_mem_drop mem) with old | new
  · exact .inl old
  · exact .inr (List.mem_singleton.mp new)

theorem dispatch_of_recent {client : RealtimeClient} {e : EventRecord}
    (seen : e.eventId ∈ client.recentEventOrder) : client.dispatch (.event e) = (client, []) :=
  if_pos seen

/-- An event that is new to an idle client is passed on, if it fits into the buffer. -/
theorem dispatch_of_new {client : RealtimeClient} {e : EventRecord}
    (unseen : e.eventId ∉ client.recentEventOrder) (idle : client.buffer = .empty)
    (fits : e.encodedBytes ≤ BoundedEventBuffer.maxBytes) :
    client.dispatch (.event e) =
      ({ client.remember e.eventId with
          lastEventId := some (advance client.lastEventId e.eventId)
          buffer := .empty },
        [.applyEvent e]) := by
  have pushed : (client.remember e.eventId).buffer.push e =
      some ⟨[(e.eventId, e.encodedBytes)], e.encodedBytes⟩ := by
    rw [remember, idle]
    exact BoundedEventBuffer.push_empty fits
  dsimp only [dispatch]
  rw [if_neg unseen, pushed]
  dsimp only
  rw [BoundedEventBuffer.consume_single, remember]

/-- `receive` of a decoded message. -/
def receive (client : RealtimeClient) (envelope : EventEnvelope) :
    RealtimeClient × List StoreCall :=
  if envelope.error = some "RESYNC_REQUIRED" then (client.resync, [])
  else
    match envelope.snapshot with
    | none => client.dispatchAll envelope.allEvents
    | some snapshot =>
        match snapshot.cursor with
        -- `checkedCursor` or `onSnapshot` raises
        | some none => (client.resync, [])
        | _ =>
            let taken := { client with
              lastEventId :=
                match snapshot.lastEventId.or snapshot.asOfEventId with
                | some (some cursor) => some cursor
                | _ => client.lastEventId }
            let dispatched := taken.dispatchAll envelope.allEvents
            (dispatched.1, .replaceSnapshot snapshot :: dispatched.2)

/-- The end of `resync`: `onResync` returned a snapshot's cursor, or raised. -/
def finishResync (client : RealtimeClient) (refreshed : Option SnapshotEnvelope) :
    RealtimeClient × List StoreCall :=
  match refreshed with
  | none => ({ client with lastEventId := none, resyncInFlight := false }, [])
  | some snapshot =>
      match snapshot.cursor with
      | some none => ({ client with lastEventId := none, resyncInFlight := false }, [])
      | _ =>
          ({ client with
              lastEventId := (snapshot.lastEventId.or snapshot.asOfEventId).join
              buffer := .empty
              resyncInFlight := false },
            [.replaceSnapshot snapshot])

end RealtimeClient

end CubeNano.Web

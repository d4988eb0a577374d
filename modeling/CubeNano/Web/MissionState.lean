import CubeNano.Lib.LogFollower
import CubeNano.Web.Realtime

/-!
# The state of the web console

`useMissionState` of `gds/web/src/App.tsx` with the connection of its `RealtimeClient`: the
store takes the snapshots of a periodic poll, of a resync and of the socket, and the events
of the socket, in the order in which they arrive.

The server has a log of events.  Its snapshot at a cursor is the replay of the log up to the
cursor, and a socket hands out the events after the cursor it was opened with, in their
order, possibly with earlier ones again.

## Main definitions

* `Console` — the store, the client and its connection
* `consoleMachine` — the console as a machine over what happens to it
* `Served` — the server did what it is expected to
* `FollowsServer` — what is expected of a run

## Main statements

* `followsServer_of_current` — it holds of the runs without late snapshots and events
* `not_followsServer_of_latePoll` — a poll that is answered late sets the state back
-/

namespace CubeNano.Web

open OrderedLog LogFollower

/-! ## The console -/

/-- A socket: the cursor of its URL, whether `close` was called, and the last event the server
has handed out on it. -/
structure Socket where
  cursor : Option U64
  closing : Bool
  position : Option U64

/-- The store, the client and its connection; `polls` counts the polls without an answer. -/
structure Console where
  store : AppState
  client : RealtimeClient
  started : Bool
  socket : Option Socket
  reconnectTimer : Bool
  polls : ℕ

/-- What happens to the console; a response without a snapshot is a failed request. -/
inductive ConsoleEvent
  | start
  | message (envelope : EventEnvelope)
  | pollRequest
  | pollResponse (response : Option SnapshotEnvelope)
  | resyncResponse (response : Option SnapshotEnvelope)
  | socketClosed
  | reconnect

/-- The events that the server hands out move the position of the socket on. -/
def handOut (position : Option U64) : WireEvent → Option U64
  | .malformed => position
  | .event e =>
      match position with
      | none => some e.eventId
      | some last => some (max last e.eventId)

namespace Socket

/-- `connect`. -/
def opened (cursor : Option U64) : Socket := ⟨cursor, false, cursor⟩

/-- The socket after a message. -/
def received (socket : Socket) (envelope : EventEnvelope) : Socket :=
  { socket with position := envelope.allEvents.foldl handOut socket.position }

end Socket

namespace Console

/-- The socket that messages are received on. -/
def openSocket (c : Console) : Option Socket := c.socket.filter fun socket => !socket.closing

/-- `closeForResync`. -/
def closeForResync (c : Console) : Console :=
  match c.socket with
  | some socket => { c with socket := some { socket with closing := true } }
  | none => { c with reconnectTimer := true }

/-- What an event does to the client, and the calls of the store it causes. -/
def respond (c : Console) : ConsoleEvent → RealtimeClient × List StoreCall
  | .start =>
      if c.started then (c.client, [])
      else ({ c.client with lastEventId := some c.store.lastEventId }, [])
  | .message envelope =>
      match c.openSocket with
      | none => (c.client, [])
      | some _ => c.client.receive envelope
  | .pollResponse (some snapshot) =>
      (c.client, if c.polls = 0 then [] else [.replaceSnapshot snapshot])
  | .resyncResponse response =>
      if c.client.resyncInFlight then c.client.finishResync response else (c.client, [])
  | .pollRequest | .pollResponse none | .socketClosed | .reconnect => (c.client, [])

/-- The calls of the store that an event causes. -/
def calls (c : Console) (e : ConsoleEvent) : List StoreCall := (c.respond e).2

/-- The connection after an event; `c` is the console before it. -/
def connect (c : Console) (e : ConsoleEvent) (next : Console) : Console :=
  match e with
  | .start =>
      if c.started then next
      else { next with started := true, socket := some (.opened next.client.lastEventId) }
  | .message envelope =>
      match c.openSocket with
      | none => next
      | some socket => { next with socket := some (socket.received envelope) }
  | .pollRequest => { next with polls := next.polls + 1 }
  | .pollResponse _ => { next with polls := next.polls - 1 }
  | .resyncResponse _ => if c.client.resyncInFlight then next.closeForResync else next
  | .socketClosed =>
      match c.socket with
      | none => next
      | some _ => { next with socket := none, reconnectTimer := true }
  | .reconnect =>
      if c.reconnectTimer then
        { next with reconnectTimer := false, socket := some (.opened next.client.lastEventId) }
      else next

/-- One step. -/
def step (c : Console) (e : ConsoleEvent) : Console :=
  c.connect e { c with
    client := (c.respond e).1
    store := storeMachine.exec c.store (c.calls e) }

end Console

/-- The console as a machine over what happens to it. -/
def consoleMachine : Machine Console ConsoleEvent Unit where
  step c e := (c.step e, ())

/-! ## The server -/

/-- The mission that the events up to a cursor lead to. -/
def missionAt (base : Mission) (log : List EventRecord) (cursor : U64) : Mission :=
  replay EventRecord.eventId Mission.apply base log cursor

/-- A snapshot of the server. -/
def IsSnapshot (base : Mission) (log : List EventRecord) (snapshot : SnapshotEnvelope) : Prop :=
  ∃ cursor, snapshot = (missionAt base log cursor).snapshot cursor

/-- The events of a message: each is the next one of the log or an earlier one, and fits into the
buffer of the client. -/
def HandsOut (log : List EventRecord) : Option U64 → List WireEvent → Prop
  | _, [] => True
  | _, .malformed :: _ => False
  | position, .event e :: rest =>
      e ∈ log ∧ e.encodedBytes ≤ BoundedEventBuffer.maxBytes ∧
        (∀ e' ∈ log, e'.eventId < e.eventId → ∃ last, position = some last ∧ e'.eventId ≤ last) ∧
          HandsOut log (handOut position (.event e)) rest

/-- The server did what it is expected to. -/
def Served (base : Mission) (log : List EventRecord) (c : Console) : ConsoleEvent → Prop
  | .message envelope =>
      ∃ socket, c.openSocket = some socket ∧
        (∀ snapshot, envelope.snapshot = some snapshot → IsSnapshot base log snapshot) ∧
          HandsOut log socket.position envelope.allEvents ∧
            (envelope.error ≠ none → envelope.allEvents = [])
  | .pollResponse response | .resyncResponse response =>
      ∀ snapshot, response = some snapshot → IsSnapshot base log snapshot
  | _ => True

/-- The calls of the store are current. -/
def CallsCurrent (c : Console) (e : ConsoleEvent) : Prop :=
  storeMachine.AllSteps (fun s call => call.Current s) c.store (c.calls e)

/-! ## The client keeps up -/

section Client

variable {base : Mission} {log : List EventRecord} {s : AppState} {client : RealtimeClient}
  {position : Option U64} {handed : U64}

/-- The store follows the log, and the client knows of no event that was not handed out. -/
structure UpToDate (base : Mission) (log : List EventRecord) (s : AppState)
    (client : RealtimeClient) (position : Option U64) (handed : U64) : Prop where
  follows : Follows EventRecord.eventId Mission.apply base log s.toMission s.lastEventId handed
  within : s.lastEventId ≤ handed
  cursor : ∀ x, client.lastEventId = some x → x ≤ handed
  recent : ∀ x ∈ client.recentEventOrder, x ≤ handed
  position : ∀ x, position = some x → x ≤ handed
  buffer : client.buffer = .empty

theorem advance_le {x : U64} {eventId : U64} {lastEventId : Option U64}
    (known : ∀ x, lastEventId = some x → x ≤ handed)
    (at_ : some (RealtimeClient.advance lastEventId eventId) = some x) :
    x ≤ max handed eventId := by
  cases at_
  cases lastEventId with
  | none => exact le_max_right _ _
  | some last =>
      unfold RealtimeClient.advance
      dsimp only
      split
      · exact le_max_right _ _
      · exact (known last rfl).trans (le_max_left _ _)

theorem handOut_le {x : U64} {e : EventRecord} (known : ∀ x, position = some x → x ≤ handed)
    (out : handOut position (.event e) = some x) : x ≤ max handed e.eventId := by
  cases position with
  | none =>
      cases out
      exact le_max_right _ _
  | some last =>
      cases out
      exact max_le_max (known last rfl) (le_refl _)

/-- **An event** that is handed out leaves the client up to date. -/
theorem UpToDate.dispatch (upToDate : UpToDate base log s client position handed)
    (ascending : OrderedLog.Ascending EventRecord.eventId log) {e : EventRecord} (mem : e ∈ log)
    (fits : e.encodedBytes ≤ BoundedEventBuffer.maxBytes)
    (next : ∀ e' ∈ log, e'.eventId < e.eventId → ∃ last, position = some last ∧ e'.eventId ≤ last)
    (current : storeMachine.AllSteps (fun s call => call.Current s) s
      (client.dispatch (.event e)).2) :
    UpToDate base log (storeMachine.exec s (client.dispatch (.event e)).2)
      (client.dispatch (.event e)).1 (handOut position (.event e)) (max handed e.eventId) := by
  have before : ∀ e' ∈ log, e'.eventId < e.eventId → e'.eventId ≤ handed := by
    intro e' mem' lt
    obtain ⟨last, at_, le⟩ := next e' mem' lt
    exact le.trans (upToDate.position last at_)
  by_cases seen : e.eventId ∈ client.recentEventOrder
  · have known : max handed e.eventId = handed := max_eq_left (upToDate.recent _ seen)
    rw [RealtimeClient.dispatch_of_recent seen, known]
    exact ⟨upToDate.follows, upToDate.within, upToDate.cursor, upToDate.recent,
      fun x out => (handOut_le upToDate.position out).trans known.le, upToDate.buffer⟩
  · rw [RealtimeClient.dispatch_of_new seen upToDate.buffer fits] at current ⊢
    have follows : Follows EventRecord.eventId Mission.apply base log
        (s.applyEvent e).toMission (s.applyEvent e).lastEventId (max handed e.eventId) := by
      rw [AppState.toMission_applyEvent, AppState.lastEventId_applyEvent]
      by_cases ignored : s.ignores e = true
      · have idle : s.toMission.apply e = s.toMission := if_pos ignored
        rw [if_pos ignored, idle]
        exact upToDate.follows.skip ascending mem (fun _ => idle) before
      · have newer : s.lastEventId < e.eventId := current.1.resolve_right ignored
        rw [if_neg ignored, max_eq_right newer.le]
        exact upToDate.follows.entry ascending mem newer before
    have within : (s.applyEvent e).lastEventId ≤ max handed e.eventId := by
      rw [AppState.lastEventId_applyEvent]
      split
      · exact upToDate.within.trans (le_max_left _ _)
      · exact max_le_max upToDate.within (le_refl _)
    refine ⟨follows, within, fun x at_ => advance_le upToDate.cursor at_, fun x mem' => ?_,
      fun x out => handOut_le upToDate.position out, rfl⟩
    dsimp only at mem'
    rcases RealtimeClient.mem_remember mem' with old | new
    · exact (upToDate.recent x old).trans (le_max_left _ _)
    · rw [new]
      exact le_max_right _ _

/-- **The events of a message.** -/
theorem UpToDate.dispatchAll (upToDate : UpToDate base log s client position handed)
    (ascending : OrderedLog.Ascending EventRecord.eventId log) {events : List WireEvent}
    (out : HandsOut log position events)
    (current : storeMachine.AllSteps (fun s call => call.Current s) s
      (client.dispatchAll events).2) :
    ∃ handed', handed ≤ handed' ∧ (∀ e, .event e ∈ events → e.eventId ≤ handed') ∧
      UpToDate base log (storeMachine.exec s (client.dispatchAll events).2)
        (client.dispatchAll events).1 (events.foldl handOut position) handed' := by
  induction events generalizing s client position handed with
  | nil => exact ⟨handed, le_refl _, fun e mem => absurd mem List.not_mem_nil, upToDate⟩
  | cons event rest ih =>
      cases event with
      | malformed => exact out.elim
      | event e =>
          obtain ⟨mem, fits, next, out⟩ := out
          rw [RealtimeClient.dispatchAll, Machine.allSteps_append] at current
          have first := upToDate.dispatch ascending mem fits next current.1
          obtain ⟨handed', le, known, last⟩ := ih first out current.2
          rw [RealtimeClient.dispatchAll, Machine.exec_append]
          refine ⟨handed', (le_max_left _ _).trans le, fun e' mem' => ?_, last⟩
          rcases List.mem_cons.mp mem' with same | mem'
          · cases same
            exact (le_max_right _ _).trans le
          · exact known e' mem'

/-- **A snapshot** that is not older than the store. -/
theorem UpToDate.replaceSnapshot (upToDate : UpToDate base log s client position handed)
    (ascending : OrderedLog.Ascending EventRecord.eventId log) {snapshot : SnapshotEnvelope}
    (served : IsSnapshot base log snapshot)
    (current : (StoreCall.replaceSnapshot snapshot).Current s) :
    ∃ cursor handed', handed ≤ handed' ∧ cursor ≤ handed' ∧ snapshot.cursor = some (some cursor) ∧
      snapshot.lastEventId.or snapshot.asOfEventId = some (some cursor) ∧
        UpToDate base log (s.replaceSnapshot snapshot) client position handed' := by
  obtain ⟨cursor, rfl⟩ := served
  refine ⟨cursor, max handed cursor, le_max_left _ _, le_max_right _ _, rfl, rfl, ?_,
    le_max_right _ _, fun x at_ => (upToDate.cursor x at_).trans (le_max_left _ _),
    fun x mem => (upToDate.recent x mem).trans (le_max_left _ _),
    fun x at_ => (upToDate.position x at_).trans (le_max_left _ _), upToDate.buffer⟩
  rw [AppState.replaceSnapshot_ofMission]
  exact upToDate.follows.snapshot ascending (current cursor rfl)

/-- The client takes a cursor that was handed out, or none. -/
theorem UpToDate.withCursor (upToDate : UpToDate base log s client position handed)
    {client' : RealtimeClient} (known : ∀ x, client'.lastEventId = some x → x ≤ handed)
    (order : client'.recentEventOrder = client.recentEventOrder)
    (buffer : client'.buffer = .empty) : UpToDate base log s client' position handed :=
  ⟨upToDate.follows, upToDate.within, known, order ▸ upToDate.recent, upToDate.position, buffer⟩

/-- **A message** of the socket. -/
theorem UpToDate.receive (upToDate : UpToDate base log s client position handed)
    (ascending : OrderedLog.Ascending EventRecord.eventId log) {envelope : EventEnvelope}
    (snapshots : ∀ snapshot, envelope.snapshot = some snapshot → IsSnapshot base log snapshot)
    (out : HandsOut log position envelope.allEvents)
    (errors : envelope.error ≠ none → envelope.allEvents = [])
    (current : storeMachine.AllSteps (fun s call => call.Current s) s
      (client.receive envelope).2) :
    ∃ handed', handed ≤ handed' ∧ (∀ e, .event e ∈ envelope.allEvents → e.eventId ≤ handed') ∧
      UpToDate base log (storeMachine.exec s (client.receive envelope).2)
        (client.receive envelope).1 (envelope.allEvents.foldl handOut position) handed' := by
  unfold RealtimeClient.receive at current ⊢
  by_cases resync : envelope.error = some "RESYNC_REQUIRED"
  · have none : envelope.allEvents = [] := errors (by rw [resync]; exact Option.some_ne_none _)
    rw [if_pos resync, none]
    exact ⟨handed, le_refl _, fun e mem => absurd mem List.not_mem_nil,
      upToDate.withCursor upToDate.cursor rfl upToDate.buffer⟩
  · rw [if_neg resync] at current ⊢
    cases found : envelope.snapshot with
    | none =>
        rw [found] at current
        exact upToDate.dispatchAll ascending out current
    | some snapshot =>
        rw [found] at current
        have served := snapshots snapshot found
        have shape := served
        obtain ⟨cursor', rfl⟩ := shape
        obtain ⟨cursor, handed', le, within, same, taken, replaced⟩ :=
          upToDate.replaceSnapshot ascending served current.1
        have restarted : UpToDate base log _ { client with lastEventId := some cursor' }
            position handed' :=
          replaced.withCursor (fun x at_ => by
            cases at_
            cases same
            exact within) rfl upToDate.buffer
        obtain ⟨handed'', le', known, last⟩ := restarted.dispatchAll ascending out current.2
        exact ⟨handed'', le.trans le', known, last⟩

/-- **The end of a resync.** -/
theorem UpToDate.finishResync (upToDate : UpToDate base log s client position handed)
    (ascending : OrderedLog.Ascending EventRecord.eventId log) {response : Option SnapshotEnvelope}
    (served : ∀ snapshot, response = some snapshot → IsSnapshot base log snapshot)
    (current : storeMachine.AllSteps (fun s call => call.Current s) s
      (client.finishResync response).2) :
    ∃ handed', handed ≤ handed' ∧
      UpToDate base log (storeMachine.exec s (client.finishResync response).2)
        (client.finishResync response).1 position handed' := by
  cases response with
  | none =>
      exact ⟨handed, le_refl _, upToDate.withCursor (fun x at_ => (nomatch at_)) rfl
        upToDate.buffer⟩
  | some snapshot =>
      have isSnapshot := served snapshot rfl
      have shape := isSnapshot
      obtain ⟨cursor', rfl⟩ := shape
      obtain ⟨cursor, handed', le, within, same, -, replaced⟩ :=
        upToDate.replaceSnapshot ascending isSnapshot current.1
      refine ⟨handed', le, replaced.withCursor (fun x at_ => ?_) rfl rfl⟩
      cases at_
      cases same
      exact within

end Client

/-! ## The console keeps up -/

section Console

variable {base : Mission} {log : List EventRecord} {c : Console} {handed : U64}

/-- The client is up to date, and so is the position of its socket. -/
def Console.UpToDate (base : Mission) (log : List EventRecord) (c : Console) (handed : U64) :
    Prop :=
  Web.UpToDate base log c.store c.client (c.socket.bind Socket.position) handed

/-- The events that something that happens to the console hands out. -/
def ConsoleEvent.events : ConsoleEvent → List WireEvent
  | .message envelope => envelope.allEvents
  | _ => []

/-- A socket that is opened, closed or closing hands out nothing new. -/
theorem Console.UpToDate.withSocket (upToDate : c.UpToDate base log handed) {c' : Console}
    (store : c'.store = c.store) (client : c'.client = c.client)
    (position : ∀ x, (c'.socket.bind Socket.position) = some x → x ≤ handed) :
    c'.UpToDate base log handed := by
  refine ⟨?_, ?_, ?_, ?_, position, ?_⟩
  · rw [store]
    exact upToDate.follows
  · rw [store]
    exact upToDate.within
  · rw [client]
    exact upToDate.cursor
  · rw [client]
    exact upToDate.recent
  · rw [client]
    exact upToDate.buffer

theorem Console.UpToDate.closeForResync (upToDate : c.UpToDate base log handed) :
    c.closeForResync.UpToDate base log handed := by
  have position := upToDate.position
  unfold Console.closeForResync
  cases socket : c.socket with
  | none =>
      refine upToDate.withSocket rfl rfl fun x at_ => ?_
      cases at_
  | some open_ =>
      rw [socket] at position
      exact upToDate.withSocket rfl rfl position

/-- A socket is opened with the cursor of the client. -/
theorem Console.UpToDate.opened (upToDate : c.UpToDate base log handed) {c' : Console}
    (store : c'.store = c.store) (client : c'.client = c.client)
    (socket : c'.socket = some (.opened c.client.lastEventId)) : c'.UpToDate base log handed := by
  refine upToDate.withSocket store client fun x at_ => ?_
  rw [socket] at at_
  exact upToDate.cursor x at_

theorem Console.socket_of_openSocket {socket : Socket} (opened : c.openSocket = some socket) :
    c.socket = some socket := (Option.filter_eq_some_iff.mp opened).1

/-- **What happens to the console** leaves it up to date. -/
theorem Console.UpToDate.step (upToDate : c.UpToDate base log handed)
    (ascending : OrderedLog.Ascending EventRecord.eventId log) {e : ConsoleEvent}
    (served : Served base log c e) (current : CallsCurrent c e) :
    ∃ handed', handed ≤ handed' ∧ (∀ event, .event event ∈ e.events → event.eventId ≤ handed') ∧
      (c.step e).UpToDate base log handed' := by
  have nothing (handed' : U64) (none : e.events = []) :
      ∀ event, .event event ∈ e.events → event.eventId ≤ handed' :=
    fun event mem => absurd (none ▸ mem) List.not_mem_nil
  cases e with
  | start =>
      refine ⟨handed, le_refl _, nothing handed rfl, ?_⟩
      by_cases started : c.started = true
      · have same : c.step .start = c := by
          simp only [Console.step, Console.connect, Console.calls, Console.respond, if_pos started]
          rfl
        rw [same]
        exact upToDate
      · have taken : (c.step .start) = { c with
            client := { c.client with lastEventId := some c.store.lastEventId }
            started := true
            socket := some (.opened (some c.store.lastEventId)) } := by
          simp only [Console.step, Console.connect, Console.calls, Console.respond, if_neg started]
          rfl
        rw [taken]
        exact ⟨upToDate.follows, upToDate.within,
          fun x at_ => Option.some.inj at_ ▸ upToDate.within,
          upToDate.recent, fun x at_ => Option.some.inj at_ ▸ upToDate.within, upToDate.buffer⟩
  | message envelope =>
      obtain ⟨socket, opened, snapshots, out, errors⟩ := served
      have stored := Console.socket_of_openSocket opened
      have known := upToDate
      unfold Console.UpToDate at known
      rw [stored] at known
      simp only [CallsCurrent, Console.calls, Console.respond, opened] at current
      obtain ⟨handed', le, within, received⟩ :=
        known.receive ascending snapshots out errors current
      refine ⟨handed', le, within, ?_⟩
      simp only [Console.step, Console.connect, Console.calls, Console.respond, opened]
      exact received
  | pollRequest =>
      exact ⟨handed, le_refl _, nothing handed rfl,
        upToDate.withSocket rfl rfl upToDate.position⟩
  | pollResponse response =>
      cases response with
      | none =>
          exact ⟨handed, le_refl _, nothing handed rfl,
            upToDate.withSocket rfl rfl upToDate.position⟩
      | some snapshot =>
          by_cases idle : c.polls = 0
          · refine ⟨handed, le_refl _, nothing handed rfl, ?_⟩
            simp only [Console.step, Console.connect, Console.calls, Console.respond, if_pos idle]
            exact upToDate.withSocket rfl rfl upToDate.position
          · simp only [CallsCurrent, Console.calls, Console.respond, if_neg idle] at current
            obtain ⟨cursor, handed', le, -, -, -, replaced⟩ :=
              upToDate.replaceSnapshot ascending (served snapshot rfl) current.1
            refine ⟨handed', le, nothing handed' rfl, ?_⟩
            simp only [Console.step, Console.connect, Console.calls, Console.respond, if_neg idle]
            exact replaced
  | resyncResponse response =>
      by_cases waits : c.client.resyncInFlight = true
      · simp only [CallsCurrent, Console.calls, Console.respond, if_pos waits] at current
        obtain ⟨handed', le, finished⟩ := upToDate.finishResync ascending served current
        refine ⟨handed', le, nothing handed' rfl, ?_⟩
        simp only [Console.step, Console.connect, Console.calls, Console.respond, if_pos waits]
        exact Console.UpToDate.closeForResync finished
      · refine ⟨handed, le_refl _, nothing handed rfl, ?_⟩
        simp only [Console.step, Console.connect, Console.calls, Console.respond, if_neg waits]
        exact upToDate.withSocket rfl rfl upToDate.position
  | socketClosed =>
      refine ⟨handed, le_refl _, nothing handed rfl, ?_⟩
      simp only [Console.step, Console.connect, Console.calls, Console.respond]
      split
      · exact upToDate.withSocket rfl rfl upToDate.position
      · exact upToDate.withSocket rfl rfl fun x at_ => (nomatch at_)
  | reconnect =>
      refine ⟨handed, le_refl _, nothing handed rfl, ?_⟩
      simp only [Console.step, Console.connect, Console.calls, Console.respond]
      split
      · exact upToDate.opened rfl rfl rfl
      · exact upToDate.withSocket rfl rfl upToDate.position

end Console

/-! ## Runs -/

/-- The console that the first snapshot was loaded into, with any number of polls out. -/
def Console.loaded (base : Mission) (log : List EventRecord) (cursor : U64) (polls : ℕ) :
    Console where
  store := ⟨missionAt base log cursor, cursor⟩
  client := .initial
  started := false
  socket := none
  reconnectTimer := false
  polls := polls

/-- What is expected of a run of the console. -/
structure FollowsServer (base : Mission) (log : List EventRecord) (c : Console)
    (inputs : List ConsoleEvent) : Prop where
  /-- The cursor of the store never decreases. -/
  monotone : ∀ past rest, inputs = past ++ rest →
    (consoleMachine.exec c past).store.lastEventId ≤
      (consoleMachine.exec c inputs).store.lastEventId
  /-- The state is what the events up to the cursor lead to. -/
  equal : (consoleMachine.exec c inputs).store.toMission =
    missionAt base log (consoleMachine.exec c inputs).store.lastEventId
  /-- The effect of every event that was handed out is in the state. -/
  effective : ∀ input ∈ inputs, ∀ e, .event e ∈ input.events →
    (consoleMachine.exec c inputs).store.toMission =
      missionAt base log (max (consoleMachine.exec c inputs).store.lastEventId e.eventId)

theorem lastEventId_le_next {s : AppState} {call : StoreCall} (current : call.Current s) :
    s.lastEventId ≤ (call.next s).lastEventId := by
  cases call with
  | applyEvent e =>
      rw [StoreCall.next, AppState.lastEventId_applyEvent]
      split
      · exact le_refl _
      · exact le_max_left _ _
  | replaceSnapshot snapshot =>
      rw [StoreCall.next, AppState.replaceSnapshot, AppState.normalizeSnapshot]
      cases found : snapshot.cursor with
      | none => exact le_refl _
      | some cursor =>
          cases cursor with
          | none => exact le_refl _
          | some cursor => exact current cursor found

theorem lastEventId_le_exec {s : AppState} {calls : List StoreCall}
    (current : storeMachine.AllSteps (fun s call => call.Current s) s calls) :
    s.lastEventId ≤ (storeMachine.exec s calls).lastEventId := by
  induction calls generalizing s with
  | nil => exact le_refl _
  | cons call rest ih => exact (lastEventId_le_next current.1).trans (ih current.2)

theorem Console.store_step (c : Console) (e : ConsoleEvent) :
    (c.step e).store = storeMachine.exec c.store (c.calls e) := by
  unfold Console.step Console.connect
  cases e with
  | start =>
      dsimp only
      split <;> rfl
  | message envelope =>
      dsimp only
      split <;> rfl
  | pollRequest => rfl
  | pollResponse response => rfl
  | resyncResponse response =>
      dsimp only
      split
      · unfold Console.closeForResync
        split <;> rfl
      · rfl
  | socketClosed =>
      dsimp only
      split <;> rfl
  | reconnect =>
      dsimp only
      split <;> rfl

theorem lastEventId_le_run {c : Console} {inputs : List ConsoleEvent}
    (current : consoleMachine.AllSteps CallsCurrent c inputs) :
    c.store.lastEventId ≤ (consoleMachine.exec c inputs).store.lastEventId := by
  induction inputs generalizing c with
  | nil => exact le_refl _
  | cons e rest ih =>
      have first : c.store.lastEventId ≤ (c.step e).store.lastEventId := by
        rw [Console.store_step]
        exact lastEventId_le_exec current.1
      exact first.trans (ih current.2)

/-- A run leaves the console up to date, with all it was handed. -/
theorem Console.UpToDate.exec {base : Mission} {log : List EventRecord} {c : Console}
    {handed : U64} (upToDate : c.UpToDate base log handed)
    (ascending : OrderedLog.Ascending EventRecord.eventId log) {inputs : List ConsoleEvent}
    (served : consoleMachine.AllSteps (Served base log) c inputs)
    (current : consoleMachine.AllSteps CallsCurrent c inputs) :
    ∃ handed', handed ≤ handed' ∧
      (∀ input ∈ inputs, ∀ e, .event e ∈ input.events → e.eventId ≤ handed') ∧
        (consoleMachine.exec c inputs).UpToDate base log handed' := by
  induction inputs generalizing c handed with
  | nil => exact ⟨handed, le_refl _, fun input mem => absurd mem List.not_mem_nil, upToDate⟩
  | cons input rest ih =>
      obtain ⟨middle, le, known, next⟩ := upToDate.step ascending served.1 current.1
      obtain ⟨handed', le', known', last⟩ := ih next served.2 current.2
      refine ⟨handed', le.trans le', ?_, last⟩
      rw [List.forall_mem_cons]
      exact ⟨fun e mem => (known e mem).trans le', known'⟩

/-- **The console follows the server** in every run in which no snapshot older than the state and
no event that is neither newer nor ignored reaches the store. -/
theorem followsServer_of_current {base : Mission} {log : List EventRecord} {cursor : U64}
    {polls : ℕ} {inputs : List ConsoleEvent}
    (ascending : OrderedLog.Ascending EventRecord.eventId log)
    (served : consoleMachine.AllSteps (Served base log) (.loaded base log cursor polls) inputs)
    (current : consoleMachine.AllSteps CallsCurrent (.loaded base log cursor polls) inputs) :
    FollowsServer base log (.loaded base log cursor polls) inputs := by
  have start : (Console.loaded base log cursor polls).UpToDate base log cursor :=
    ⟨⟨rfl, fun e _ after upTo => absurd after (not_lt_of_ge upTo)⟩, le_refl _,
      fun x at_ => (nomatch at_), fun x mem => absurd mem List.not_mem_nil,
      fun x at_ => (nomatch at_), rfl⟩
  obtain ⟨handed, -, known, last⟩ := start.exec ascending served current
  refine ⟨fun past rest split => ?_, last.follows.state, fun input mem e out => ?_⟩
  · subst split
    rw [Machine.allSteps_append] at current
    rw [Machine.exec_append]
    exact lastEventId_le_run current.2
  · refine (last.follows.replay_eq ascending (le_max_left _ _) fun e' mem' after upTo =>
      last.follows.idle e' mem' after (upTo.trans ?_)).symm
    exact max_le last.within (known input mem e out)

/-! ## Two runs -/

/-- A server that has nothing but jobs. -/
def jobsBase : Mission := ⟨.empty, .empty, .empty, .empty, []⟩

/-- The `n`th event is about the `n`th request. -/
def jobEvent (n : U64) : EventRecord :=
  ⟨n, "JOB_UPDATED", ⟨.empty, none⟩, none, none, some ⟨1, n.val⟩, 100⟩

@[inherit_doc jobEvent]
def jobLog : List EventRecord := [jobEvent 1, jobEvent 2, jobEvent 3]

/-- A message with one event. -/
def oneEvent (n : U64) : ConsoleEvent := .message ⟨none, none, [], some (.event (jobEvent n))⟩

theorem ascending_jobLog : OrderedLog.Ascending EventRecord.eventId jobLog := by
  unfold OrderedLog.Ascending jobLog
  decide

theorem served_oneEvent {c : Console} {socket : Socket} {n last : U64}
    (opened : c.openSocket = some socket) (position : socket.position = some last)
    (mem : jobEvent n ∈ jobLog) (next : ∀ e' ∈ jobLog, e'.eventId < n → e'.eventId ≤ last) :
    Served jobsBase jobLog c (oneEvent n) :=
  ⟨socket, opened, fun _ found => (nomatch found),
    ⟨mem, show 100 ≤ BoundedEventBuffer.maxBytes by decide,
      fun e' mem' lt => ⟨last, position, next e' mem' lt⟩, trivial⟩,
    fun error => absurd rfl error⟩

/-- The socket hands out the second event. -/
theorem followsServer_of_current_sample :
    FollowsServer jobsBase jobLog (.loaded jobsBase jobLog 1 0) [.start, oneEvent 2] :=
  followsServer_of_current ascending_jobLog
    ⟨trivial, served_oneEvent rfl rfl (by simp [jobLog]) (by decide), trivial⟩
    ⟨trivial, ⟨.inl (by decide), trivial⟩, trivial⟩

/-- A poll that is answered after an event, with a snapshot from before it. -/
def latePoll : List ConsoleEvent :=
  [.start, .pollRequest, oneEvent 2,
    .pollResponse (some ((missionAt jobsBase jobLog 1).snapshot 1)), oneEvent 3]

/-- **A poll that is answered late** sets the store back for good: no request is out, and the
state lacks an event below its cursor. -/
theorem not_followsServer_of_latePoll :
    consoleMachine.AllSteps (Served jobsBase jobLog) (.loaded jobsBase jobLog 1 0) latePoll ∧
      (consoleMachine.exec (.loaded jobsBase jobLog 1 0) latePoll).polls = 0 ∧
        (consoleMachine.exec (.loaded jobsBase jobLog 1 0) latePoll).client.resyncInFlight = false ∧
          (consoleMachine.exec (.loaded jobsBase jobLog 1 0) (latePoll.take 4)).store.lastEventId <
            (consoleMachine.exec (.loaded jobsBase jobLog 1 0)
              (latePoll.take 3)).store.lastEventId ∧
            ¬ FollowsServer jobsBase jobLog (.loaded jobsBase jobLog 1 0) latePoll := by
  refine ⟨⟨trivial, trivial, served_oneEvent rfl rfl (by simp [jobLog]) (by decide), ?_,
    served_oneEvent rfl rfl (by simp [jobLog]) (by decide), trivial⟩, by decide +kernel,
    by decide +kernel, by decide +kernel, fun follows => ?_⟩
  · intro snapshot same
    cases same
    exact ⟨1, rfl⟩
  · have jobs := congrArg (fun m => (m.jobs.find? ⟨1, 2⟩).isSome) follows.equal
    revert jobs
    decide +kernel

end CubeNano.Web

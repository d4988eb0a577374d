import CubeNano.Gds.Realtime

/-!
# Delivery of realtime events

A connection gets the events after its cursor, in order and each once, as long as the
events are published in the order of their ids.  A producer that publishes while an
older event still waits for its own producer puts a gap into the queue of a connected
client, and the older event is taken for replayed by whoever reconnects.

## Main definitions

* `Connection.Complete` — replay and queue are the events after the cursor
* `RealtimeState.Delivers` — all connections are complete
* `publishesNext` — no older event waits to be published

## Main statements

* `delivers_of_publishesNext` — runs that publish in order
* `not_delivers_of_overtaking` — an event that overtakes another
-/

namespace CubeNano

variable {β : Type}

open OrderedLog

/-- The events after an id, up to another, in the order of their ids. -/
def EventStore.between (store : EventStore β) (after upTo : ℕ) : List (EventRecord β) :=
  window EventRecord.eventId store.events after upTo

/-- A connection has received the events after its cursor without a gap, the connections
it resumes the ones before; its queue goes on to the last event published, and no event
of the snapshot is left out. -/
structure Connection.Complete (s : RealtimeState β) (clientId : ℕ) (conn : Connection β) :
    Prop where
  earlier : conn.earlier = s.store.between 0 (conn.cursor.getD 0)
  received : conn.received = s.store.between (conn.cursor.getD 0) (conn.lastEventId.getD 0)
  live : ∀ client, s.hub.clients.find? clientId = some client → ∃ upTo,
    conn.received ++ client.queue = s.store.between (conn.cursor.getD 0) upTo ∧
      client.liveAfterEventId ≤ upTo ∧
        ∀ event ∈ s.store.events, event ∉ s.pending → event.eventId ≤ upTo

/-- The ids of the store ascend, and every connection is complete. -/
structure RealtimeState.Delivers (s : RealtimeState β) : Prop where
  ascending : Ascending EventRecord.eventId s.store.events
  complete : ∀ clientId conn, s.connections.find? clientId = some conn →
    conn.Complete s clientId

/-- A hub that nobody is connected to, over a store whose events are all published. -/
structure RealtimeState.Fresh (s : RealtimeState β) : Prop where
  ascending : Ascending EventRecord.eventId s.store.events
  positive : ∀ event ∈ s.store.events, 0 < event.eventId
  below : ∀ event ∈ s.store.events, event.eventId < s.store.nextEventId
  next_pos : 0 < s.store.nextEventId
  pending : s.pending = []
  clients : s.hub.clients = .empty
  connections : s.connections = .empty

/-- An event is published only when no event with a smaller id waits to be. -/
def publishesNext (s : RealtimeState β) : RealtimeOp β → Bool
  | .publish eventId => s.pending.all fun event => eventId ≤ event.eventId
  | _ => true

/-! ## The invariant -/

/-- What is known of a connection: as `Complete`, with the events published up to
`frontier`. -/
structure Connection.Follows (s : RealtimeState β) (frontier : ℕ) (clientId : ℕ)
    (conn : Connection β) : Prop where
  earlier : conn.earlier = s.store.between 0 (conn.cursor.getD 0)
  received : conn.received = s.store.between (conn.cursor.getD 0) (conn.lastEventId.getD 0)
  cursor_le : conn.cursor.getD 0 ≤ conn.lastEventId.getD 0
  last_lt : conn.lastEventId.getD 0 < s.store.nextEventId
  live : ∀ client, s.hub.clients.find? clientId = some client →
    client.closed = false ∧ conn.cursor.getD 0 ≤ client.liveAfterEventId ∧
      client.liveAfterEventId < s.store.nextEventId ∧
        conn.received ++ client.queue =
          s.store.between (conn.cursor.getD 0) (max client.liveAfterEventId frontier)

/-- The events behind `frontier` wait to be published, those before it are. -/
structure RealtimeState.Ordered (s : RealtimeState β) (frontier : ℕ) : Prop where
  ascending : Ascending EventRecord.eventId s.store.events
  positive : ∀ event ∈ s.store.events, 0 < event.eventId
  below : ∀ event ∈ s.store.events, event.eventId < s.store.nextEventId
  next_pos : 0 < s.store.nextEventId
  pending : s.pending = s.store.events.filter fun event => frontier < event.eventId
  frontier_le : frontier ≤ s.store.latestEventId
  fresh : ∀ clientId, s.hub.nextClientId ≤ clientId →
    s.hub.clients.find? clientId = none ∧ s.connections.find? clientId = none
  follows : ∀ clientId conn, s.connections.find? clientId = some conn →
    conn.Follows s frontier clientId

/-- The latest id bounds the ids of an ascending store. -/
theorem EventStore.le_latestEventId {store : EventStore β}
    (ascending : Ascending EventRecord.eventId store.events) {event : EventRecord β}
    (mem : event ∈ store.events) : event.eventId ≤ store.latestEventId := by
  cases last : store.events.getLast? with
  | none => rw [List.getLast?_eq_none_iff.mp last] at mem; cases mem
  | some latest =>
      rw [latestEventId, last]
      have whole := eq_filter_of_prefix_last ascending (List.prefix_refl _) last
      rw [whole] at mem
      exact of_decide_eq_true (List.mem_filter.mp mem).2

theorem EventStore.latestEventId_lt {store : EventStore β} (next_pos : 0 < store.nextEventId)
    (below : ∀ event ∈ store.events, event.eventId < store.nextEventId) :
    store.latestEventId < store.nextEventId := by
  rw [latestEventId]
  cases last : store.events.getLast? with
  | none => exact next_pos
  | some latest => exact below latest (List.mem_of_getLast? last)

/-- The invariant gives complete connections. -/
theorem RealtimeState.Ordered.delivers {s : RealtimeState β} {frontier : ℕ}
    (ordered : s.Ordered frontier) : s.Delivers := by
  refine ⟨ordered.ascending, fun clientId conn found => ?_⟩
  have follows := ordered.follows clientId conn found
  refine ⟨follows.earlier, follows.received, fun client registered => ?_⟩
  obtain ⟨-, -, -, whole⟩ := follows.live client registered
  refine ⟨_, whole, le_max_left _ _, fun event mem published => le_trans ?_ (le_max_right _ _)⟩
  by_contra late
  rw [ordered.pending] at published
  exact published (List.mem_filter.mpr ⟨mem, decide_eq_true (Nat.lt_of_not_le late)⟩)

/-! ## Appends -/

/-- The store has grown behind its next id; connections and hub are the same. -/
structure RealtimeState.Grows (s s' : RealtimeState β) : Prop where
  events : ∃ more, s'.store.events = s.store.events ++ more ∧
    ∀ event ∈ more, s.store.nextEventId ≤ event.eventId
  next_le : s.store.nextEventId ≤ s'.store.nextEventId
  hub : s'.hub = s.hub
  connections : s'.connections = s.connections

theorem RealtimeState.Grows.refl (s : RealtimeState β) : s.Grows s :=
  ⟨⟨[], by simp, by simp⟩, le_rfl, rfl, rfl⟩

theorem RealtimeState.Grows.trans {s s' s'' : RealtimeState β} (first : s.Grows s')
    (second : s'.Grows s'') : s.Grows s'' := by
  obtain ⟨more, events, behind⟩ := first.events
  obtain ⟨more', events', behind'⟩ := second.events
  refine ⟨⟨more ++ more', by rw [events', events, List.append_assoc], fun event mem => ?_⟩,
    first.next_le.trans second.next_le, second.hub.trans first.hub,
    second.connections.trans first.connections⟩
  rcases List.mem_append.mp mem with mem | mem
  · exact behind event mem
  · exact first.next_le.trans (behind' event mem)

/-- Windows below the next id stay as they are. -/
theorem RealtimeState.Grows.between_eq {s s' : RealtimeState β} (grows : s.Grows s')
    {after upTo : ℕ} (below : upTo < s.store.nextEventId) :
    s'.store.between after upTo = s.store.between after upTo := by
  obtain ⟨more, events, behind⟩ := grows.events
  rw [EventStore.between, events]
  exact window_append_of_lt fun event mem => below.trans_le (behind event mem)

/-- An append fails, or puts the next id behind the others. -/
theorem RealtimeState.produce_cases (s : RealtimeState β) (content : β) :
    s.produce content = s ∨ s.produce content = { s with
      store := ⟨s.store.events ++ [⟨s.store.nextEventId, content⟩], s.store.nextEventId + 1⟩
      pending := s.pending ++ [⟨s.store.nextEventId, content⟩] } := by
  unfold produce EventStore.append
  by_cases full : s.store.nextEventId ≥ EventStore.maxEventId
  · rw [if_pos full]
    exact .inl rfl
  · rw [if_neg full]
    exact .inr rfl

theorem RealtimeState.produce_grows (s : RealtimeState β) (content : β) :
    s.Grows (s.produce content) := by
  rcases s.produce_cases content with same | produced
  · rw [same]
    exact .refl s
  · rw [produced]
    exact ⟨⟨_, rfl, fun event mem => by rw [List.mem_singleton.mp mem]⟩, Nat.le_succ _, rfl, rfl⟩

/-- A connection follows the store as it grows. -/
theorem Connection.Follows.grows {s s' : RealtimeState β} {frontier clientId : ℕ}
    {conn : Connection β} (follows : conn.Follows s frontier clientId) (grows : s.Grows s')
    (frontier_lt : frontier < s.store.nextEventId) : conn.Follows s' frontier clientId where
  earlier := by
    rw [grows.between_eq (follows.cursor_le.trans_lt follows.last_lt)]
    exact follows.earlier
  received := by
    rw [grows.between_eq follows.last_lt]
    exact follows.received
  cursor_le := follows.cursor_le
  last_lt := follows.last_lt.trans_le grows.next_le
  live client registered := by
    rw [grows.hub] at registered
    obtain ⟨open_, cursor_le, live_lt, whole⟩ := follows.live client registered
    refine ⟨open_, cursor_le, live_lt.trans_le grows.next_le, ?_⟩
    rw [grows.between_eq (max_lt live_lt frontier_lt)]
    exact whole

/-- An append leaves everybody where they were. -/
theorem RealtimeState.Ordered.produce {s : RealtimeState β} {frontier : ℕ}
    (ordered : s.Ordered frontier) (content : β) : (s.produce content).Ordered frontier := by
  have frontier_lt := ordered.frontier_le.trans_lt
    (EventStore.latestEventId_lt ordered.next_pos ordered.below)
  have grows := s.produce_grows content
  rcases s.produce_cases content with same | produced
  · rw [same]
    exact ordered
  rw [produced] at grows ⊢
  refine ⟨?_, fun event mem => ?_, fun event mem => ?_, Nat.succ_pos _, ?_, ?_, ordered.fresh,
    fun clientId conn found => (ordered.follows clientId conn found).grows grows frontier_lt⟩
  · refine List.pairwise_append.mpr ⟨ordered.ascending, List.pairwise_singleton _ _, ?_⟩
    intro event mem other last
    rw [List.mem_singleton.mp last]
    exact ordered.below event mem
  · rcases List.mem_append.mp mem with mem | mem
    · exact ordered.positive event mem
    · rw [List.mem_singleton.mp mem]
      exact ordered.next_pos
  · rcases List.mem_append.mp mem with mem | mem
    · exact (ordered.below event mem).trans (Nat.lt_succ_self _)
    · rw [List.mem_singleton.mp mem]
      exact Nat.lt_succ_self _
  · show s.pending ++ [_] = List.filter _ (s.store.events ++ [_])
    rw [ordered.pending, List.filter_append]
    simp [frontier_lt]
  · show frontier ≤ EventStore.latestEventId ⟨s.store.events ++ [_], _⟩
    simpa [EventStore.latestEventId] using frontier_lt.le

theorem RealtimeState.Ordered.produceAll {s : RealtimeState β} {frontier : ℕ}
    (ordered : s.Ordered frontier) (contents : List β) :
    (contents.foldl RealtimeState.produce s).Ordered frontier ∧
      s.Grows (contents.foldl RealtimeState.produce s) := by
  induction contents generalizing s with
  | nil => exact ⟨ordered, .refl s⟩
  | cons content rest ih =>
      obtain ⟨rest_ordered, rest_grows⟩ := ih (ordered.produce content)
      exact ⟨rest_ordered, (s.produce_grows content).trans rest_grows⟩

/-! ## Drains and disconnects -/

/-- What has been received of a window reaches up to the last event received. -/
theorem Connection.received_of_prefix {s : RealtimeState β} (conn : Connection β) {upTo : ℕ}
    (ascending : Ascending EventRecord.eventId s.store.events)
    (below : ∀ event ∈ s.store.events, event.eventId < s.store.nextEventId)
    (cursor_lt : conn.cursor.getD 0 < s.store.nextEventId)
    (read : conn.received <+: s.store.between (conn.cursor.getD 0) upTo) :
    conn.received = s.store.between (conn.cursor.getD 0) (conn.lastEventId.getD 0) ∧
      conn.cursor.getD 0 ≤ conn.lastEventId.getD 0 ∧
        conn.lastEventId.getD 0 < s.store.nextEventId := by
  unfold lastEventId
  cases end_ : conn.received.getLast? with
  | none =>
      refine ⟨?_, le_rfl, cursor_lt⟩
      rw [List.getLast?_eq_none_iff.mp end_]
      exact (window_eq_nil_of_le le_rfl).symm
  | some last =>
      have lastIn := mem_window_iff.mp (read.subset (List.mem_of_getLast? end_))
      exact ⟨eq_window_of_prefix_last ascending read end_, lastIn.2.1.le, below last lastIn.1⟩

/-- A drain moves events from the queue to the far end. -/
theorem RealtimeState.Ordered.receive {s : RealtimeState β} {frontier : ℕ}
    (ordered : s.Ordered frontier) (cfg : RealtimeConfig β) (clientId limit : ℕ) :
    (s.receive cfg clientId limit).1.Ordered frontier := by
  unfold RealtimeState.receive
  split
  swap
  · exact ordered
  rename_i client conn registered found
  have follows := ordered.follows clientId conn found
  obtain ⟨open_, cursor_le, live_lt, whole⟩ := follows.live client registered
  refine ⟨ordered.ascending, ordered.positive, ordered.below, ordered.next_pos, ordered.pending,
    ordered.frontier_le, fun other beyond => ?_, fun other conn' found' => ?_⟩
  · have differs : other ≠ clientId := by
      rintro rfl
      rw [(ordered.fresh other beyond).1] at registered
      cases registered
    rw [Table.find?_set_of_ne _ _ differs, Table.find?_set_of_ne _ _ differs]
    exact ordered.fresh other beyond
  · rw [Table.find?_set] at found'
    split at found'
    · rename_i same
      subst same
      cases found'
      have joined : (conn.received ++ client.queue.take limit) ++ client.queue.drop limit =
          s.store.between (conn.cursor.getD 0) (max client.liveAfterEventId frontier) := by
        rw [List.append_assoc, List.take_append_drop]
        exact whole
      have read : conn.received ++ client.queue.take limit <+:
          s.store.between (conn.cursor.getD 0) (max client.liveAfterEventId frontier) :=
        ⟨_, joined⟩
      obtain ⟨received, cursor_last, last_lt⟩ := Connection.received_of_prefix
        { conn with received := conn.received ++ client.queue.take limit } ordered.ascending
        ordered.below (follows.cursor_le.trans_lt follows.last_lt) read
      refine ⟨follows.earlier, received, cursor_last, last_lt, fun client' registered' => ?_⟩
      rw [Table.find?_set_self] at registered'
      cases registered'
      exact ⟨open_, cursor_le, live_lt, joined⟩
    · rename_i differs
      have other_follows := ordered.follows other conn' found'
      refine ⟨other_follows.earlier, other_follows.received, other_follows.cursor_le,
        other_follows.last_lt, fun client' registered' => ?_⟩
      rw [Table.find?_set_of_ne _ _ differs] at registered'
      exact other_follows.live client' registered'

/-- A disconnect only takes a client away. -/
theorem RealtimeState.Ordered.disconnect {s : RealtimeState β} {frontier : ℕ}
    (ordered : s.Ordered frontier) (clientId : ℕ) :
    RealtimeState.Ordered { s with hub := s.hub.disconnect clientId } frontier := by
  have remains {other : ℕ} {client : RealtimeClient β}
      (registered : (s.hub.disconnect clientId).clients.find? other = some client) :
      s.hub.clients.find? other = some client := by
    have erased := Table.find?_erase s.hub.clients clientId other
    rw [show (s.hub.disconnect clientId).clients = s.hub.clients.erase clientId from rfl, erased]
      at registered
    split at registered
    · cases registered
    · exact registered
  refine ⟨ordered.ascending, ordered.positive, ordered.below, ordered.next_pos, ordered.pending,
    ordered.frontier_le, fun other beyond => ⟨?_, (ordered.fresh other beyond).2⟩,
    fun other conn found => ?_⟩
  · by_contra registered
    obtain ⟨client, registered⟩ := Option.ne_none_iff_exists'.mp registered
    have before := remains registered
    rw [(ordered.fresh other beyond).1] at before
    cases before
  · have follows := ordered.follows other conn found
    exact ⟨follows.earlier, follows.received, follows.cursor_le, follows.last_lt,
      fun client registered => follows.live client (remains registered)⟩

/-! ## Publishing -/

/-- What a publish makes of a client that stays. -/
theorem RealtimeHub.find?_publish {cfg : RealtimeConfig β} {event : EventRecord β}
    {hub : RealtimeHub β} {clientId : ℕ} {client' : RealtimeClient β}
    (registered : (hub.publish cfg event).clients.find? clientId = some client') :
    ∃ client, hub.clients.find? clientId = some client ∧
      client.enqueue cfg event = (client', false) := by
  unfold publish at registered
  simp only at registered
  rw [Table.find?_mapRows, Table.find?_filter] at registered
  obtain ⟨client, kept, rfl⟩ := Option.map_eq_some_iff.mp registered
  obtain ⟨found, quick⟩ := Option.filter_eq_some_iff.mp kept
  refine ⟨client, found, ?_⟩
  rw [Bool.not_eq_true'] at quick
  rw [← quick]

/-- What an open client makes of an event that it has room for. -/
theorem RealtimeClient.enqueue_eq {cfg : RealtimeConfig β} {event : EventRecord β}
    {client client' : RealtimeClient β} (open_ : client.closed = false)
    (taken : client.enqueue cfg event = (client', false)) :
    client'.closed = false ∧ client'.liveAfterEventId = client.liveAfterEventId ∧
      client'.queue = if event.eventId ≤ client.liveAfterEventId then client.queue
        else client.queue ++ [event] := by
  unfold enqueue at taken
  rw [open_, if_neg (by simp)] at taken
  split at taken
  · rename_i replayed
    cases taken
    exact ⟨open_, rfl, (if_pos replayed).symm⟩
  rename_i live
  split at taken
  · cases taken
  · cases taken
    exact ⟨rfl, rfl, (if_neg live).symm⟩

/-- The next event to publish extends every queue, and the events behind it wait. -/
theorem RealtimeState.Ordered.announce {s : RealtimeState β} {frontier : ℕ}
    (ordered : s.Ordered frontier) (cfg : RealtimeConfig β) {eventId : ℕ}
    (next : publishesNext s (.publish eventId) = true) :
    ∃ frontier', (s.announce cfg eventId).Ordered frontier' := by
  unfold RealtimeState.announce
  split
  · exact ⟨frontier, ordered⟩
  rename_i event selected
  obtain rfl : event.eventId = eventId := by
    simpa using List.find?_some selected
  have waits := List.mem_of_find?_eq_some selected
  rw [ordered.pending] at waits
  obtain ⟨mem, behind⟩ := List.mem_filter.mp waits
  have behind : frontier < event.eventId := of_decide_eq_true behind
  have least : ∀ other ∈ s.store.events, frontier < other.eventId →
      event.eventId ≤ other.eventId := by
    intro other inStore late
    have inPending : other ∈ s.pending := by
      rw [ordered.pending]
      exact List.mem_filter.mpr ⟨inStore, decide_eq_true late⟩
    exact of_decide_eq_true (List.all_eq_true.mp next other inPending)
  refine ⟨event.eventId, ordered.ascending, ordered.positive, ordered.below, ordered.next_pos, ?_,
    EventStore.le_latestEventId ordered.ascending mem, fun other beyond => ⟨?_, ?_⟩,
    fun other conn found => ?_⟩
  · show s.pending.filter _ = _
    rw [ordered.pending, List.filter_filter]
    refine List.filter_congr fun other inStore => ?_
    by_cases late : frontier < other.eventId
    · have bound := least other inStore late
      simp only [late, decide_true, Bool.and_true, decide_eq_decide]
      omega
    · have early : ¬ event.eventId < other.eventId := by omega
      simp [late, early]
  · by_contra registered
    obtain ⟨client', registered⟩ := Option.ne_none_iff_exists'.mp registered
    obtain ⟨client, before, -⟩ := RealtimeHub.find?_publish registered
    rw [(ordered.fresh other beyond).1] at before
    cases before
  · exact (ordered.fresh other beyond).2
  · have follows := ordered.follows other conn found
    refine ⟨follows.earlier, follows.received, follows.cursor_le, follows.last_lt,
      fun client' registered => ?_⟩
    obtain ⟨client, before, taken⟩ := RealtimeHub.find?_publish registered
    obtain ⟨open_, cursor_le, live_lt, whole⟩ := follows.live client before
    obtain ⟨stillOpen, sameLive, queue⟩ := RealtimeClient.enqueue_eq open_ taken
    rw [sameLive, queue]
    refine ⟨stillOpen, cursor_le, live_lt, ?_⟩
    split
    · rename_i replayed
      rw [max_eq_left replayed]
      rw [max_eq_left (behind.le.trans replayed)] at whole
      exact whole
    · rename_i live
      have live := Nat.lt_of_not_le live
      rw [max_eq_right live.le, ← List.append_assoc, whole]
      exact window_append_next ordered.ascending mem (cursor_le.trans (le_max_left _ _))
        (max_lt live behind) fun other inStore late =>
          least other inStore ((le_max_right _ _).trans_lt late)

/-! ## Connects -/

/-- A page of the store, cut at an id, is a window of it if a full page reaches the id. -/
theorem EventStore.filter_listEvents {store : EventStore β} {cursor : Option ℕ} {limit asOf : ℕ}
    (ascending : Ascending EventRecord.eventId store.events)
    (positive : ∀ event ∈ store.events, 0 < event.eventId) (pos : 0 < limit)
    (reaches : limit ≤ ((store.listEvents cursor limit).filter
        fun event => event.eventId ≤ asOf).length →
      ∀ last, (store.listEvents cursor limit).getLast? = some last → asOf ≤ last.eventId) :
    (store.listEvents cursor limit).filter (fun event => event.eventId ≤ asOf) =
      store.between (cursor.getD 0) asOf := by
  have page : store.listEvents cursor limit =
      (store.events.filter fun event => cursor.getD 0 < event.eventId).take limit := by
    cases cursor with
    | none =>
        have all : (store.events.filter fun event => 0 < event.eventId) = store.events :=
          List.filter_eq_self.mpr fun event mem => decide_eq_true (positive event mem)
        show store.events.take limit = _
        exact congrArg (List.take limit) all.symm
    | some after => rfl
  rw [page] at reaches ⊢
  rw [filter_take_of_reaches (ascending.sublist List.filter_sublist) pos reaches,
    List.filter_filter]
  refine List.filter_congr fun event _ => ?_
  rw [Bool.decide_and, Bool.and_comm]

/-- A connect that succeeds replays the events after the cursor up to `as_of`. -/
theorem RealtimeHub.connect_eq_ok {cfg : RealtimeConfig β} {store later : EventStore β}
    {cursor : Option ℕ} {hub hub' : RealtimeHub β} {clientId asOf : ℕ}
    {replay : List (EventRecord β)}
    (ascending : Ascending EventRecord.eventId later.events)
    (positive : ∀ event ∈ later.events, 0 < event.eventId)
    (done : hub.connect cfg store later cursor = .ok ((clientId, asOf, replay), hub')) :
    clientId = hub.nextClientId ∧ asOf = store.latestEventId ∧ cursor.getD 0 ≤ asOf ∧
      replay = later.between (cursor.getD 0) asOf ∧
        hub'.nextClientId = hub.nextClientId + 1 ∧ ∃ client, client.closed = false ∧
          client.liveAfterEventId = asOf ∧ client.queue = [] ∧
            hub'.clients = hub.clients.set hub.nextClientId client := by
  unfold connect at done
  split at done
  · cases done
  simp only at done
  split at done
  · cases done
  rename_i notAhead
  split at done
  · cases done
  rename_i bounded
  cases done
  refine ⟨rfl, rfl, ?_, ?_, rfl, _, rfl, rfl, rfl, rfl⟩
  · cases cursor with
    | none => exact Nat.zero_le _
    | some after => simpa using notAhead
  · refine EventStore.filter_listEvents ascending positive cfg.maxClientEvents_valid.1
      fun full last end_ => ?_
    by_contra short
    refine bounded (.inl ⟨full, ?_⟩)
    rw [end_]
    exact decide_eq_true (Nat.lt_of_not_le short)

/-- The far end that a connect continues has its past without a gap. -/
theorem RealtimeState.Ordered.resume {s : RealtimeState β} {frontier : ℕ}
    (ordered : s.Ordered frontier) (previous : Option ℕ) :
    (s.resume previous).earlier = s.store.between 0 ((s.resume previous).cursor.getD 0) ∧
      (s.resume previous).cursor.getD 0 < s.store.nextEventId := by
  unfold RealtimeState.resume
  split
  · exact ⟨(window_eq_nil_of_le le_rfl).symm, ordered.next_pos⟩
  · rename_i conn found
    obtain ⟨clientId, -, found⟩ := Option.bind_eq_some_iff.mp found
    have follows := ordered.follows clientId conn found
    refine ⟨?_, follows.last_lt⟩
    show conn.earlier ++ conn.received = _
    rw [follows.earlier, follows.received]
    exact window_append_window ordered.ascending (Nat.zero_le _) follows.cursor_le

/-- A connect adds a client whose replay ends where its queue begins. -/
theorem RealtimeState.Ordered.attach {s : RealtimeState β} {frontier : ℕ}
    (ordered : s.Ordered frontier) (cfg : RealtimeConfig β) (previous : Option ℕ)
    (meanwhile : List β) : (s.attach cfg previous meanwhile).1.Ordered frontier := by
  obtain ⟨later, grows⟩ := ordered.produceAll meanwhile
  obtain ⟨earlier, cursor_lt⟩ := ordered.resume previous
  unfold RealtimeState.attach
  simp only
  split
  · exact later
  rename_i clientId asOf replay hub done
  obtain ⟨rfl, rfl, cursor_le, rfl, next, client, open_, live, queue, clients⟩ :=
    RealtimeHub.connect_eq_ok later.ascending later.positive done
  have asOf_lt := EventStore.latestEventId_lt ordered.next_pos ordered.below
  refine ⟨later.ascending, later.positive, later.below, later.next_pos, later.pending,
    later.frontier_le, fun other beyond => ?_, fun other conn found => ?_⟩
  · change hub.nextClientId ≤ other at beyond
    rw [next] at beyond
    have differs : other ≠ s.hub.nextClientId := by omega
    refine ⟨?_, ?_⟩
    · show hub.clients.find? other = none
      rw [clients, Table.find?_set_of_ne _ _ differs]
      exact (ordered.fresh other (by omega)).1
    · show (Table.set _ _ _).find? other = none
      rw [Table.find?_set_of_ne _ _ differs, grows.connections]
      exact (ordered.fresh other (by omega)).2
  · change (Table.set _ _ _).find? other = some conn at found
    rw [Table.find?_set] at found
    split at found
    · rename_i same
      subst same
      cases found
      obtain ⟨received, cursor_last, last_lt⟩ := Connection.received_of_prefix
        { s.resume previous with
          received := (meanwhile.foldl RealtimeState.produce s).store.between
            ((s.resume previous).cursor.getD 0) s.store.latestEventId }
        later.ascending later.below (cursor_lt.trans_le grows.next_le) (List.prefix_refl _)
      refine ⟨?_, received, cursor_last, last_lt, fun client' registered => ?_⟩
      · exact earlier.trans (grows.between_eq cursor_lt).symm
      · change hub.clients.find? s.hub.nextClientId = some client' at registered
        rw [clients, Table.find?_set_self] at registered
        cases registered
        rw [live, queue, List.append_nil, max_eq_left ordered.frontier_le]
        exact ⟨open_, cursor_le, asOf_lt.trans_le grows.next_le, rfl⟩
    · rename_i differs
      have follows := later.follows other conn found
      refine ⟨follows.earlier, follows.received, follows.cursor_le, follows.last_lt,
        fun client' registered => ?_⟩
      change hub.clients.find? other = some client' at registered
      rw [clients, Table.find?_set_of_ne _ _ differs] at registered
      refine follows.live client' ?_
      rw [grows.hub]
      exact registered

/-! ## Runs -/

/-- **Publishing in order delivers everything.**  In every state of a run that publishes
each event before the later ones, every connection has received the events after its
cursor in order and each once, and its queue goes on to the last event published. -/
theorem delivers_of_publishesNext (cfg : RealtimeConfig β) {start : RealtimeState β}
    (fresh : start.Fresh) (inputs : List (RealtimeOp β))
    (next : (realtimeMachine cfg).AllSteps (fun s op => publishesNext s op = true) start inputs) :
    ((realtimeMachine cfg).exec start inputs).Delivers := by
  have invariant : ∃ frontier, ((realtimeMachine cfg).exec start inputs).Ordered frontier := by
    refine (realtimeMachine cfg).exec_invariant_of_allSteps
      (fun s => ∃ frontier, s.Ordered frontier) ⟨start.store.latestEventId, ?_⟩
      (fun s op allowed ⟨frontier, ordered⟩ => ?_) inputs next
    · have none_waits : (start.store.events.filter fun event =>
          start.store.latestEventId < event.eventId) = [] :=
        List.filter_eq_nil_iff.mpr fun event mem late =>
          absurd (EventStore.le_latestEventId fresh.ascending mem)
            (Nat.not_le_of_lt (of_decide_eq_true late))
      refine ⟨fresh.ascending, fresh.positive, fresh.below, fresh.next_pos,
        fresh.pending.trans none_waits.symm, le_rfl, fun clientId _ => ?_,
        fun clientId conn found => ?_⟩
      · rw [fresh.clients, fresh.connections]
        exact ⟨rfl, rfl⟩
      · rw [fresh.connections] at found
        cases found
    · cases op with
      | append content => exact ⟨frontier, ordered.produce content⟩
      | publish eventId => exact ordered.announce cfg allowed
      | connect previous meanwhile => exact ⟨frontier, ordered.attach cfg previous meanwhile⟩
      | drain clientId limit => exact ⟨frontier, ordered.receive cfg clientId limit⟩
      | disconnect clientId => exact ⟨frontier, ordered.disconnect clientId⟩
  obtain ⟨frontier, ordered⟩ := invariant
  exact ordered.delivers

/-- A database without events, and nobody connected. -/
def RealtimeState.initial : RealtimeState β := ⟨.migrated, [], .new, .empty⟩

theorem RealtimeState.fresh_initial : (RealtimeState.initial : RealtimeState β).Fresh where
  ascending := List.Pairwise.nil
  positive := nofun
  below := nofun
  next_pos := Nat.one_pos
  pending := rfl
  clients := rfl
  connections := rfl

/-- Room for a thousand events. -/
def sceneRealtime : RealtimeConfig String where
  maxClientEvents := 1000
  maxClientBytes := 4194304
  encodedSize event := event.content.length
  maxClientEvents_valid := ⟨Nat.le_add_left 1 999, le_rfl⟩
  maxClientBytes_pos := Nat.succ_pos _

/-- A client connects, two events are published, and the client reconnects. -/
def twoEvents (firstPublished secondPublished : ℕ) : List (RealtimeOp String) :=
  [.connect none [], .append "pass started", .append "image stored", .publish firstPublished,
    .drain 1 100, .disconnect 1, .connect (some 1) [], .publish secondPublished, .drain 2 100]

/-- The theorem applies to events published in order, across a reconnect. -/
theorem delivers_of_inOrder :
    ((realtimeMachine sceneRealtime).exec .initial (twoEvents 1 2)).Delivers :=
  delivers_of_publishesNext _ RealtimeState.fresh_initial _ (by decide)

/-- The second event overtakes the first: the client receives event 2, reconnects with
that id, and never sees event 1. -/
theorem not_delivers_of_overtaking :
    ¬ ∀ (cfg : RealtimeConfig String) (start : RealtimeState String), start.Fresh → ∀ inputs,
      ((realtimeMachine cfg).exec start inputs).Delivers := by
  intro always
  have delivers := always sceneRealtime _ RealtimeState.fresh_initial (twoEvents 2 1)
  have reconnected : ((realtimeMachine sceneRealtime).exec .initial
      (twoEvents 2 1)).connections.find? 2 = some ⟨some 2, [⟨2, "image stored"⟩], []⟩ := by
    rfl
  have missing := (delivers.complete 2 _ reconnected).earlier
  have both : ((realtimeMachine sceneRealtime).exec .initial (twoEvents 2 1)).store.between 0 2 =
      [⟨1, "pass started"⟩, ⟨2, "image stored"⟩] := by
    rfl
  rw [show (some 2 : Option ℕ).getD 0 = 2 from rfl, both] at missing
  exact absurd missing (by decide)

end CubeNano

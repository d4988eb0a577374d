import CubeNano.Lib.Machine
import CubeNano.Lib.Table
import CubeNano.Protocol.Exceptions
import CubeNano.Protocol.PyValue
import Mathlib.Data.List.Infix
import Mathlib.Data.Fin.Basic
import Mathlib.Order.Fin.Basic

/-!
# The store of the web console

`NormalizedStore` of `gds/web/src/state/store.ts`: an event is merged into the state it
arrives in, a snapshot replaces the parts of the state it has.

The parts of the state that events and snapshots change together are a `Mission`.  The
runtime status, telemetry, catalogs, scenes and configurations, which decide nothing about
the others, are left out.

## Main definitions

* `Mission.apply` — the merge rule of `applyEvent`
* `AppState.applyEvent`, `AppState.replaceSnapshot` — the methods of the store
* `storeMachine` — the store as a machine over calls of its methods

## Main statements

* `AppState.toMission_applyEvent` — an event changes the mission by the merge rule
* `AppState.replaceSnapshot_ofMission` — a full snapshot replaces it
-/

namespace CubeNano.Web

/-! ## Values -/

/-- A property value of a decoded message. -/
inductive JsValue
  | undefined
  | null
  | boolean (value : Bool)
  /-- A number, as the text `String(value)` is. -/
  | number (printed : String)
  | text (value : String)
  | array (items : List JsValue)
  | object (members : List (String × JsValue))

/-- An object with its own properties in the order they were added. -/
abbrev JsObject := Table String JsValue

/-- The value is this text (`===`). -/
def JsValue.isText (value : JsValue) (expected : String) : Bool :=
  match value with
  | .text actual => actual = expected
  | _ => false

/-- The text of a U64: sixteen lowercase hexadecimal digits. -/
def u64Text (value : U64) : String := hexDigits 16 value.val

/-- `RequestKey`; its `requestKeyOf` text tells keys apart, so the key stands for it. -/
structure RequestKey where
  groundInstanceId : U64
  requestId : ℕ
  deriving DecidableEq

/-- A request key as a property value. -/
def RequestKey.asValue (key : RequestKey) : JsValue :=
  .object [("ground_instance_id", .text (u64Text key.groundInstanceId)),
    ("request_id", .number (toString key.requestId))]

/-- `ProductRef`; it stands for its `productKey` text as well. -/
structure ProductRef where
  spacecraftInstanceId : U64
  originBootId : ℕ
  productId : ℕ
  deriving DecidableEq

/-- The fields of a `SpacecraftStatus` that events change. -/
structure SpacecraftStatus where
  bootId : Option ℕ
  state : String
  deriving DecidableEq

/-- The `message` of an event: its properties, none if it is no object, and its `product_ref`
if that is one. -/
structure EventMessage where
  properties : JsObject
  productRef : Option ProductRef

/-- `EventRecord`, with the length of its JSON text. -/
structure EventRecord where
  eventId : U64
  eventName : String
  message : EventMessage
  sourceSpacecraftInstanceId : Option U64
  sourceBootId : Option ℕ
  requestKey : Option RequestKey
  encodedBytes : ℕ

/-! ## The merge rule -/

/-- `MAX_EVENTS`. -/
def maxEvents : ℕ := 250

/-- The parts of `AppState` that `applyEvent` merges events into. -/
structure Mission where
  spacecraft : Table U64 SpacecraftStatus
  commands : Table RequestKey JsObject
  jobs : Table RequestKey JsObject
  products : Table ProductRef JsObject
  /-- The latest event first. -/
  events : List EventRecord

/-- `mergeMessage`: the properties of the message replace those of the current object. -/
def mergeMessage (current : Option JsObject) (message : List (String × JsValue)) : JsObject :=
  message.foldl (fun merged property => merged.set property.1 property.2)
    (current.getD Table.empty)

/-- `event.event_name.includes(part)`. -/
def EventRecord.nameIncludes (e : EventRecord) (part : String) : Bool :=
  part.toList <:+: e.eventName.toList

namespace Mission

/-- The boot of the spacecraft the event is from, as far as it is known. -/
def currentBoot (m : Mission) (e : EventRecord) : Option ℕ :=
  e.sourceSpacecraftInstanceId.bind fun instance_ =>
    (m.spacecraft.find? instance_).bind SpacecraftStatus.bootId

/-- The event is from an older boot of its spacecraft than the current one. -/
def staleBoot (m : Mission) (e : EventRecord) : Bool :=
  match e.sourceBootId, m.currentBoot e with
  | some boot, some current => boot < current
  | _, _ => false

/-- The two early returns of `applyEvent`. -/
def ignores (m : Mission) (e : EventRecord) : Bool :=
  m.events.any (fun item => item.eventId = e.eventId) || m.staleBoot e

/-- The event is the first one of a newer boot. -/
def startsBoot (m : Mission) (e : EventRecord) : Bool :=
  match e.sourceBootId, m.currentBoot e with
  | some boot, some current => current < boot
  | _, _ => false

/-- The new head of `events`. -/
def pushEvent (e : EventRecord) (m : Mission) : Mission :=
  { m with events := (e :: m.events.filter fun item => item.eventId ≠ e.eventId).take maxEvents }

/-- What a newer boot of a spacecraft clears. -/
def clearBoot (e : EventRecord) (instance_ : U64) (m : Mission) : Mission :=
  { m with
    events := (m.events.filter fun item =>
      item.eventId = e.eventId ∨ item.sourceSpacecraftInstanceId ≠ some instance_).take maxEvents
    jobs := m.jobs.filter fun _ job =>
      !((job.find? "spacecraft_instance_id").any fun value => value.isText (u64Text instance_)) }

/-- The status of the spacecraft the event is from, if it is listed. -/
def mergeSpacecraft (e : EventRecord) (instance_ : U64) (m : Mission) : Mission :=
  { m with
    spacecraft := m.spacecraft.update instance_ fun status =>
      { bootId := e.sourceBootId.or status.bootId
        state := if e.nameIncludes "DEGRADED" then "DEGRADED" else status.state } }

/-- The command of the event, if it is listed. -/
def mergeCommand (e : EventRecord) (key : RequestKey) (m : Mission) : Mission :=
  match m.commands.find? key with
  | none => m
  | some command =>
      { m with
        commands := m.commands.set key (mergeMessage (some command) e.message.properties.rows) }

/-- The job of the event, listed or new. -/
def mergeJob (e : EventRecord) (key : RequestKey) (m : Mission) : Mission :=
  if e.nameIncludes "JOB" ∨ e.nameIncludes "ANALYSIS" then
    let properties := ("job_key", key.asValue) ::
      ("spacecraft_instance_id", match e.sourceSpacecraftInstanceId with
        | some instance_ => .text (u64Text instance_)
        | none => .undefined) :: e.message.properties.rows
    { m with jobs := m.jobs.set key (mergeMessage (m.jobs.find? key) properties) }
  else m

/-- The product of the event, listed or new. -/
def mergeProduct (e : EventRecord) (ref : ProductRef) (m : Mission) : Mission :=
  { m with
    products := m.products.set ref
      (mergeMessage (m.products.find? ref) e.message.properties.rows) }

/-- The body of `applyEvent` behind its early returns. -/
def merge (m : Mission) (e : EventRecord) : Mission :=
  let pushed := m.pushEvent e
  let ofSpacecraft :=
    match e.sourceSpacecraftInstanceId with
    | none => pushed
    | some instance_ =>
        let current := if m.startsBoot e then pushed.clearBoot e instance_ else pushed
        current.mergeSpacecraft e instance_
  let ofRequest :=
    match e.requestKey with
    | none => ofSpacecraft
    | some key => (ofSpacecraft.mergeCommand e key).mergeJob e key
  match e.message.productRef with
  | none => ofRequest
  | some ref => ofRequest.mergeProduct e ref

/-- **The merge rule** of `applyEvent`. -/
def apply (m : Mission) (e : EventRecord) : Mission := if m.ignores e then m else m.merge e

end Mission

/-! ## The store -/

/-- `AppState`. -/
structure AppState extends Mission where
  lastEventId : U64

/-- A cursor on the wire: `none` is no sixteen-digit lowercase hexadecimal text. -/
abbrev WireCursor := Option U64

/-- `SnapshotState`: any part may be missing.  The spacecraft are as `normalizeSpacecraft`
reads them. -/
structure SnapshotState where
  spacecraft : Option (Table U64 SpacecraftStatus)
  commands : Option (Table RequestKey JsObject)
  jobs : Option (Table RequestKey JsObject)
  products : Option (Table ProductRef JsObject)
  events : Option (List EventRecord)
  lastEventId : Option WireCursor

/-- `SnapshotEnvelope`. -/
structure SnapshotEnvelope where
  state : SnapshotState
  asOfEventId : Option WireCursor
  lastEventId : Option WireCursor

/-- The cursor of a snapshot, from the first place that has one. -/
def SnapshotEnvelope.cursor (snapshot : SnapshotEnvelope) : Option WireCursor :=
  (snapshot.lastEventId.or snapshot.asOfEventId).or snapshot.state.lastEventId

namespace AppState

/-- `applyEvent`. -/
def applyEvent (s : AppState) (e : EventRecord) : AppState :=
  if s.ignores e then s
  else
    { toMission := s.merge e
      lastEventId := if e.eventId > s.lastEventId then e.eventId else s.lastEventId }

/-- `normalizeSnapshot`; `none` is the exception of `asU64`. -/
def normalizeSnapshot (snapshot : SnapshotEnvelope) (base : AppState) : Option AppState :=
  let replaced (cursor : U64) : AppState :=
    { spacecraft := snapshot.state.spacecraft.getD base.spacecraft
      commands := snapshot.state.commands.getD base.commands
      jobs := snapshot.state.jobs.getD base.jobs
      products := snapshot.state.products.getD base.products
      events := snapshot.state.events.getD base.events
      lastEventId := cursor }
  match snapshot.cursor with
  | none => some (replaced base.lastEventId)
  | some none => none
  | some (some cursor) => some (replaced cursor)

/-- `replaceSnapshot`; an exception leaves the state as it is. -/
def replaceSnapshot (s : AppState) (snapshot : SnapshotEnvelope) : AppState :=
  (normalizeSnapshot snapshot s).getD s

/-- **An event** changes the mission by the merge rule. -/
theorem toMission_applyEvent (s : AppState) (e : EventRecord) :
    (s.applyEvent e).toMission = s.toMission.apply e := by
  unfold applyEvent Mission.apply
  split <;> rfl

theorem lastEventId_applyEvent (s : AppState) (e : EventRecord) :
    (s.applyEvent e).lastEventId =
      if s.ignores e then s.lastEventId else max s.lastEventId e.eventId := by
  unfold applyEvent
  split
  · rfl
  · rename_i merged
    dsimp only
    split
    · rename_i advances
      rw [max_eq_right (le_of_lt advances)]
    · rename_i stays
      rw [max_eq_left (not_lt.mp stays)]

end AppState

/-- The snapshot of a mission at a cursor. -/
def Mission.snapshot (m : Mission) (cursor : U64) : SnapshotEnvelope where
  state :=
    { spacecraft := some m.spacecraft
      commands := some m.commands
      jobs := some m.jobs
      products := some m.products
      events := some m.events
      lastEventId := some (some cursor) }
  asOfEventId := some (some cursor)
  lastEventId := some (some cursor)

/-- **A full snapshot** replaces the mission and the cursor. -/
theorem AppState.replaceSnapshot_ofMission (s : AppState) (m : Mission) (cursor : U64) :
    s.replaceSnapshot (m.snapshot cursor) = ⟨m, cursor⟩ := rfl

/-! ## Calls of the store -/

/-- A call of one of the two methods. -/
inductive StoreCall
  | replaceSnapshot (snapshot : SnapshotEnvelope)
  | applyEvent (event : EventRecord)

namespace StoreCall

/-- The state after a call. -/
def next (s : AppState) : StoreCall → AppState
  | .replaceSnapshot snapshot => s.replaceSnapshot snapshot
  | .applyEvent event => s.applyEvent event

/-- A snapshot is not older than the state, and an event that is not newer is ignored. -/
def Current (s : AppState) : StoreCall → Prop
  | .replaceSnapshot snapshot => ∀ cursor, snapshot.cursor = some (some cursor) →
      s.lastEventId ≤ cursor
  | .applyEvent event => s.lastEventId < event.eventId ∨ s.ignores event = true

end StoreCall

/-- The store as a machine over calls of its methods. -/
def storeMachine : Machine AppState StoreCall Unit where
  step s call := (call.next s, ())

end CubeNano.Web

import CubeNano.Protocol.Exceptions
import Mathlib.Logic.Function.Basic

/-!
# The communication scheduler of the satellite

`flight/mission_com_scheduler.py`: three bounded queues of frames, of which one frame at a
time is out.  The scheduler looks neither into its frames nor into their completions, so
both types are parameters.  A completed item is handed back together with its status, for
the caller to run the completion, which the source calls as the last thing it does.

## Main definitions

* `MissionComScheduler`, `ScheduledItem`
* `MissionComScheduler.enqueue`, `.poll`, `.markStatus`, `.markUpstreamReturn`
* `MissionComScheduler.AllFrames` — a property of the frames it holds

## Main statements

* `allFrames_enqueue`, `allFrames_poll`, `allFrames_markStatus`, … — no method makes a frame
-/

namespace CubeNano

/-- `SchedulerState`. -/
inductive SchedulerState
  | ready
  | inFlight
  | notReady
  deriving DecidableEq, Repr

/-- `QueueKind`. -/
inductive QueueKind
  | ack
  | control
  | file
  deriving DecidableEq, Repr

/-- `kind.value`. -/
def QueueKind.value : QueueKind → String
  | ack => "ACK"
  | control => "CONTROL"
  | file => "FILE"

/-- `ScheduledItem`, without the instant it was accepted at, which only metrics read. -/
structure ScheduledItem (φ κ : Type) where
  itemId : ℕ
  kind : QueueKind
  frame : φ
  completion : Option κ
  orderingKey : Option ℕ
  status : Option String
  upstreamReturned : Bool

/-- `MissionComScheduler`, without the age metrics. -/
structure MissionComScheduler (φ κ : Type) where
  capacities : QueueKind → ℕ
  bursts : QueueKind → ℕ
  queues : QueueKind → List (ScheduledItem φ κ)
  state : SchedulerState
  current : Option (ScheduledItem φ κ)
  nextItemId : ℕ
  ackRun : ℕ
  controlRun : ℕ
  ackReliefStage : ℕ
  accepted : QueueKind → ℕ
  rejected : QueueKind → ℕ
  completed : QueueKind → ℕ
  duplicateCallbacks : ℕ
  notReadyAfterCompletion : Bool
  capacities_pos : ∀ kind, 0 < capacities kind
  bursts_pos : ∀ kind, 0 < bursts kind

namespace MissionComScheduler

variable {φ κ : Type}

/-- The constructor, on capacities and bursts that pass its check. -/
def new (capacities bursts : QueueKind → ℕ) (capacities_pos : ∀ kind, 0 < capacities kind)
    (bursts_pos : ∀ kind, 0 < bursts kind) : MissionComScheduler φ κ where
  capacities := capacities
  bursts := bursts
  queues := fun _ => []
  state := .ready
  current := none
  nextItemId := 1
  ackRun := 0
  controlRun := 0
  ackReliefStage := 0
  accepted := fun _ => 0
  rejected := fun _ => 0
  completed := fun _ => 0
  duplicateCallbacks := 0
  notReadyAfterCompletion := false
  capacities_pos := capacities_pos
  bursts_pos := bursts_pos

/-- The capacities of the mission profile. -/
def missionCapacities : QueueKind → ℕ
  | .ack => 32
  | .control => 64
  | .file => 16

/-- The bursts of the mission profile. -/
def missionBursts : QueueKind → ℕ
  | .ack => 8
  | .control => 4
  | .file => 8

theorem missionCapacities_pos (kind : QueueKind) : 0 < missionCapacities kind := by
  cases kind <;> decide

theorem missionBursts_pos (kind : QueueKind) : 0 < missionBursts kind := by
  cases kind <;> decide

/-- The scheduler of the mission profile. -/
def mission : MissionComScheduler φ κ :=
  new missionCapacities missionBursts missionCapacities_pos missionBursts_pos

/-- One more for a kind. -/
def count (metric : QueueKind → ℕ) (kind : QueueKind) : QueueKind → ℕ :=
  Function.update metric kind (metric kind + 1)

/-! ## Queues -/

/-- `enqueue`. -/
def enqueue (kind : QueueKind) (frame : φ) (completion : Option κ) (orderingKey : Option ℕ)
    (q : MissionComScheduler φ κ) : Raises ℕ × MissionComScheduler φ κ :=
  if q.capacities kind ≤ (q.queues kind).length then
    (runtimeError s!"{kind.value} scheduler queue is full",
      { q with rejected := count q.rejected kind })
  else
    let item : ScheduledItem φ κ :=
      ⟨q.nextItemId, kind, frame, completion, orderingKey, none, false⟩
    (.ok q.nextItemId, { q with
      nextItemId := q.nextItemId + 1
      queues := Function.update q.queues kind (q.queues kind ++ [item])
      accepted := count q.accepted kind })

/-- `enqueue_ack`. -/
def enqueueAck (frame : φ) (completion : Option κ) (orderingKey : Option ℕ)
    (q : MissionComScheduler φ κ) : Raises ℕ × MissionComScheduler φ κ :=
  q.enqueue .ack frame completion orderingKey

/-- `enqueue_control`. -/
def enqueueControl (frame : φ) (completion : Option κ) (orderingKey : Option ℕ)
    (q : MissionComScheduler φ κ) : Raises ℕ × MissionComScheduler φ κ :=
  q.enqueue .control frame completion orderingKey

/-- `enqueue_file`. -/
def enqueueFile (frame : φ) (completion : Option κ) (orderingKey : Option ℕ)
    (q : MissionComScheduler φ κ) : Raises ℕ × MissionComScheduler φ κ :=
  q.enqueue .file frame completion orderingKey

/-! ## Selection -/

/-- The kinds in the order of the class. -/
def kinds : List QueueKind := [.ack, .control, .file]

/-- The heads of the queues that have one. -/
def heads (q : MissionComScheduler φ κ) : List (QueueKind × ScheduledItem φ κ) :=
  kinds.filterMap fun kind => (q.queues kind).head?.map fun item => (kind, item)

/-- The head with the least ordering key, among heads that all have one; of two equal keys
the lower item id. -/
def leastHead : List (QueueKind × ScheduledItem φ κ) → Option (ℕ × ℕ × QueueKind)
  | [] => none
  | (kind, item) :: rest =>
      match item.orderingKey with
      | none => none
      | some key =>
          match rest, leastHead rest with
          | [], _ => some (key, item.itemId, kind)
          | _ :: _, none => none
          | _ :: _, some (key', itemId', kind') =>
              if key < key' ∨ key = key' ∧ item.itemId ≤ itemId' then some (key, item.itemId, kind)
              else some (key', itemId', kind')

/-- `_ordered_kind`. -/
def orderedKind (q : MissionComScheduler φ κ) : Option QueueKind :=
  (leastHead q.heads).map fun least => least.2.2

/-- `_select_kind` when an ACK waits and its burst has been used up: another queue, or none
when it is the turn of the ACK queue again; with the relief stage, and whether the run of
ACKs starts anew. -/
def reliefKind (stage : ℕ) (hasControl hasFile : Bool) : Option QueueKind × ℕ × Bool :=
  let stage := if stage = 0 then 1 else stage
  if stage = 1 ∧ hasControl = true then (some .control, 2, false)
  else if (stage = 1 ∨ stage = 2) ∧ hasFile = true then (some .file, 0, true)
  else (none, 0, true)

/-- `_select_kind`. -/
def selectKind (q : MissionComScheduler φ κ) : Option QueueKind × MissionComScheduler φ κ :=
  let hasAck := !(q.queues .ack).isEmpty
  let hasControl := !(q.queues .control).isEmpty
  let hasFile := !(q.queues .file).isEmpty
  if !(hasAck || hasControl || hasFile) then (none, q)
  else if hasAck then
    if q.bursts .ack ≤ q.ackRun ∧ (hasControl || hasFile) = true then
      match reliefKind q.ackReliefStage hasControl hasFile with
      | (some kind, stage, anew) =>
          (some kind, { q with
            ackReliefStage := stage
            ackRun := if anew then 0 else q.ackRun })
      | (none, stage, _) =>
          (some .ack, { q with ackReliefStage := stage, ackRun := 1, controlRun := 0 })
    else (some .ack, { q with ackRun := q.ackRun + 1, controlRun := 0 })
  else
    let q := { q with ackRun := 0, ackReliefStage := 0 }
    if hasControl then
      if q.controlRun < q.bursts .control ∨ hasFile = false then
        (some .control, { q with controlRun := q.controlRun + 1 })
      else (some .file, { q with controlRun := 0 })
    else (some .file, { q with controlRun := 0 })

/-- The first item of a queue goes out. -/
def take (kind : QueueKind) (q : MissionComScheduler φ κ) :
    Option (ScheduledItem φ κ) × MissionComScheduler φ κ :=
  match q.queues kind with
  | [] => (none, q)
  | item :: rest =>
      (some item, { q with
        queues := Function.update q.queues kind rest
        current := some item
        state := .inFlight })

/-- `poll`. -/
def poll (q : MissionComScheduler φ κ) :
    Option (ScheduledItem φ κ) × MissionComScheduler φ κ :=
  if q.state ≠ .ready ∨ q.current.isSome then (none, q)
  else
    match q.orderedKind with
    | some kind => q.take kind
    | none =>
        match q.selectKind with
        | (some kind, q) => q.take kind
        | (none, q) => (none, q)

/-! ## Completion -/

/-- `_try_complete`; an item that completes comes back with its status. -/
def tryComplete (q : MissionComScheduler φ κ) :
    Option (ScheduledItem φ κ × String) × MissionComScheduler φ κ :=
  match q.current with
  | none => (none, q)
  | some item =>
      match item.status, item.upstreamReturned with
      | some status, true =>
          (some (item, status), { q with
            current := none
            state := if q.notReadyAfterCompletion then .notReady else .ready
            notReadyAfterCompletion := false
            completed := count q.completed item.kind })
      | _, _ => (none, q)

/-- A callback that is not the first one for the item that is out. -/
def duplicate (q : MissionComScheduler φ κ) :
    Option (ScheduledItem φ κ × String) × MissionComScheduler φ κ :=
  (none, { q with duplicateCallbacks := q.duplicateCallbacks + 1 })

/-- `mark_status`. -/
def markStatus (itemId : ℕ) (status : String) (q : MissionComScheduler φ κ) :
    Option (ScheduledItem φ κ × String) × MissionComScheduler φ κ :=
  match q.current with
  | none => q.duplicate
  | some item =>
      if item.itemId ≠ itemId ∨ item.status.isSome then q.duplicate
      else tryComplete { q with current := some { item with status := some status } }

/-- `mark_upstream_return`. -/
def markUpstreamReturn (itemId : ℕ) (q : MissionComScheduler φ κ) :
    Option (ScheduledItem φ κ × String) × MissionComScheduler φ κ :=
  match q.current with
  | none => q.duplicate
  | some item =>
      if item.itemId ≠ itemId ∨ item.upstreamReturned then q.duplicate
      else tryComplete { q with current := some { item with upstreamReturned := true } }

/-- `set_not_ready`. -/
def setNotReady (q : MissionComScheduler φ κ) : MissionComScheduler φ κ :=
  if q.current.isSome then { q with notReadyAfterCompletion := true }
  else { q with state := .notReady }

/-- `set_ready`. -/
def setReady (q : MissionComScheduler φ κ) : MissionComScheduler φ κ :=
  if q.current.isNone then { q with state := .ready } else q

/-! ## The frames a scheduler holds -/

/-- A property of all frames that wait or are out. -/
structure AllFrames (P : φ → Prop) (q : MissionComScheduler φ κ) : Prop where
  queues : ∀ kind, ∀ item ∈ q.queues kind, P item.frame
  current : ∀ item, q.current = some item → P item.frame

variable {P : φ → Prop} {q : MissionComScheduler φ κ}

theorem allFrames_enqueue (all : q.AllFrames P) (kind : QueueKind) {frame : φ} (holds : P frame)
    (completion : Option κ) (orderingKey : Option ℕ) :
    (q.enqueue kind frame completion orderingKey).2.AllFrames P := by
  unfold enqueue
  split
  · exact ⟨all.queues, all.current⟩
  · refine ⟨fun other item mem => ?_, all.current⟩
    by_cases same : other = kind
    · subst same
      simp only [Function.update_self, List.mem_append, List.mem_singleton] at mem
      rcases mem with old | new
      · exact all.queues other item old
      · exact new ▸ holds
    · simp only [Function.update_of_ne same] at mem
      exact all.queues other item mem

theorem allFrames_take (all : q.AllFrames P) (kind : QueueKind) :
    (∀ item, (q.take kind).1 = some item → P item.frame) ∧ (q.take kind).2.AllFrames P := by
  unfold take
  cases waiting : q.queues kind with
  | nil => exact ⟨fun item none => (nomatch none), all⟩
  | cons first rest =>
      have ofFirst : P first.frame := all.queues kind first (waiting ▸ List.mem_cons_self)
      refine ⟨fun item same => Option.some.inj same ▸ ofFirst, fun other item mem => ?_,
        fun item same => Option.some.inj same ▸ ofFirst⟩
      by_cases same : other = kind
      · subst same
        simp only [Function.update_self] at mem
        exact all.queues other item (waiting ▸ List.mem_cons_of_mem _ mem)
      · simp only [Function.update_of_ne same] at mem
        exact all.queues other item mem

/-- Selecting a queue moves no frame. -/
theorem selectKind_frames (q : MissionComScheduler φ κ) :
    q.selectKind.2.queues = q.queues ∧ q.selectKind.2.current = q.current := by
  unfold selectKind
  dsimp only
  split
  · exact ⟨rfl, rfl⟩
  split
  · split
    · split <;> exact ⟨rfl, rfl⟩
    · exact ⟨rfl, rfl⟩
  · split
    · split <;> exact ⟨rfl, rfl⟩
    · exact ⟨rfl, rfl⟩

theorem allFrames_poll (all : q.AllFrames P) :
    (∀ item, q.poll.1 = some item → P item.frame) ∧ q.poll.2.AllFrames P := by
  unfold poll
  split
  · exact ⟨fun item none => (nomatch none), all⟩
  split
  · exact allFrames_take all _
  obtain ⟨queues, current⟩ := q.selectKind_frames
  have selected : q.selectKind.2.AllFrames P := ⟨queues ▸ all.queues, current ▸ all.current⟩
  split
  · rename_i kind after chosen
    rw [chosen] at selected
    exact allFrames_take selected kind
  · rename_i after chosen
    rw [chosen] at selected
    exact ⟨fun item none => (nomatch none), selected⟩

theorem allFrames_tryComplete (all : q.AllFrames P) : q.tryComplete.2.AllFrames P := by
  unfold tryComplete
  split
  · exact all
  split
  · exact ⟨all.queues, fun item none => nomatch none⟩
  · exact all

/-- A callback changes the item that is out, but not its frame. -/
theorem AllFrames.withCurrent (all : q.AllFrames P) {item item' : ScheduledItem φ κ}
    (out : q.current = some item) (same : item'.frame = item.frame) :
    AllFrames P { q with current := some item' } :=
  ⟨all.queues, fun other here => by
    rw [← Option.some.inj here, same]
    exact all.current item out⟩

theorem allFrames_markStatus (all : q.AllFrames P) (itemId : ℕ) (status : String) :
    (q.markStatus itemId status).2.AllFrames P := by
  unfold markStatus
  split
  · exact ⟨all.queues, all.current⟩
  rename_i item out
  split
  · exact ⟨all.queues, all.current⟩
  · exact allFrames_tryComplete (all.withCurrent out rfl)

theorem allFrames_markUpstreamReturn (all : q.AllFrames P) (itemId : ℕ) :
    (q.markUpstreamReturn itemId).2.AllFrames P := by
  unfold markUpstreamReturn
  split
  · exact ⟨all.queues, all.current⟩
  rename_i item out
  split
  · exact ⟨all.queues, all.current⟩
  · exact allFrames_tryComplete (all.withCurrent out rfl)

theorem allFrames_setNotReady (all : q.AllFrames P) : q.setNotReady.AllFrames P := by
  unfold setNotReady
  split <;> exact ⟨all.queues, all.current⟩

theorem allFrames_setReady (all : q.AllFrames P) : q.setReady.AllFrames P := by
  unfold setReady
  split
  · exact ⟨all.queues, all.current⟩
  · exact all

end MissionComScheduler

end CubeNano

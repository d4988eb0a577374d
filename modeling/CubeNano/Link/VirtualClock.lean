import CubeNano.Lib.PriorityQueue
import CubeNano.Protocol.Exceptions
import Mathlib.Algebra.Group.Int.Defs

/-!
# Virtual clock and contact schedule

`link_sim/virtual_clock.py` and `link_sim/contact_schedule.py`.  The clock's
event heap is a `PriorityQueue` under the ordering fields of `ScheduledEvent`;
what an event does when it is due is its payload, run by the simulator.

## Main definitions

* `VirtualClock.scheduleAt` — schedule an event at an absolute time
* `VirtualClock.popEvent` — take the next event and move the clock to it
* `ContactSchedule.shouldDropFrame` — the blackout test
-/

namespace CubeNano

/-- `SimulationTime(ns)`: nanoseconds that fit U64. -/
def simulationTime (ns : ℤ) : Raises ℕ :=
  if ns < 0 then valueError s!"Simulation time cannot be negative: {ns}"
  else if ns > 2 ^ 64 - 1 then valueError s!"Simulation time overflow: {ns}"
  else .ok ns.toNat

theorem cast_of_simulationTime {ns : ℤ} {time : ℕ} (h : simulationTime ns = .ok time) :
    (time : ℤ) = ns := by
  unfold simulationTime at h
  split at h
  · cases h
  split at h
  · cases h
  · cases h
    omega

/-- The ordering fields of a `ScheduledEvent`: due time, direction, link frame,
copy index. -/
abbrev EventKey := ℕ ×ₗ ℕ ×ₗ ℕ ×ₗ ℕ

/-- The ordering key of an event. -/
def eventKey (due direction linkFrameId copyIndex : ℕ) : EventKey :=
  toLex (due, toLex (direction, toLex (linkFrameId, copyIndex)))

theorem due_le_of_eventKey_le {due due' direction direction' frame frame' copy copy' : ℕ}
    (h : eventKey due direction frame copy ≤ eventKey due' direction' frame' copy') :
    due ≤ due' := by
  rcases (Prod.Lex.le_iff).mp h with before | ⟨same, -⟩
  · exact le_of_lt before
  · exact le_of_eq same

/-- `VirtualClock`. -/
structure VirtualClock (π : Type) where
  now : ℕ
  eventQueue : PriorityQueue EventKey π
  admissionOrder : ℕ

namespace VirtualClock

variable {π : Type}

/-- A clock at its start time. -/
def start (startTime : ℕ) : VirtualClock π := ⟨startTime, .empty, 0⟩

/-- `heapq.heappush` of an event. -/
def pushEvent (clock : VirtualClock π) (dueTime direction linkFrameId copyIndex : ℕ)
    (payload : π) : VirtualClock π :=
  { clock with
    eventQueue := clock.eventQueue.push (eventKey dueTime direction linkFrameId copyIndex) payload }

/-- `schedule_at`. -/
def scheduleAt (clock : VirtualClock π) (dueTime direction linkFrameId copyIndex : ℕ)
    (payload : π) : Raises (VirtualClock π) :=
  if dueTime < clock.now then
    valueError s!"Cannot schedule in past: {dueTime} < {clock.now}"
  else .ok (clock.pushEvent dueTime direction linkFrameId copyIndex payload)

/-- The first half of `advance_to_next_event`: take the next event and move the
clock to its due time. -/
def popEvent (clock : VirtualClock π) : Option (π × VirtualClock π) :=
  match clock.eventQueue.pop? with
  | none => none
  | some ((key, payload), rest) =>
      some (payload, { clock with now := (ofLex key).1, eventQueue := rest })

/-- `peek_next_event_time`. -/
def peekNextEventTime (clock : VirtualClock π) : Option ℕ :=
  clock.eventQueue.pop?.map fun popped => (ofLex popped.1.1).1

/-- `get_admission_order`. -/
def getAdmissionOrder (clock : VirtualClock π) : ℕ × VirtualClock π :=
  (clock.admissionOrder, { clock with admissionOrder := clock.admissionOrder + 1 })

end VirtualClock

/-! ## Contact -/

/-- `ContactState`. -/
inductive ContactState
  | contactOpen
  | noContact
  | blackout
  deriving DecidableEq, Repr

/-- `ContactWindow`. -/
structure ContactWindow where
  startTime : ℕ
  endTime : ℕ
  state : ContactState
  deriving DecidableEq

/-- `ContactSchedule`: windows in order of their start. -/
structure ContactSchedule where
  windows : List ContactWindow
  deriving DecidableEq

namespace ContactSchedule

/-- A schedule without windows. -/
def empty : ContactSchedule := ⟨[]⟩

/-- `get_state_at`. -/
def getStateAt (schedule : ContactSchedule) (time : ℕ) : ContactState :=
  match schedule.windows.find? fun w => w.startTime ≤ time ∧ time < w.endTime with
  | some window => window.state
  | none => .contactOpen

/-- `should_drop_frame`. -/
def shouldDropFrame (schedule : ContactSchedule) (time : ℕ) : Bool :=
  schedule.getStateAt time = .blackout

end ContactSchedule

end CubeNano

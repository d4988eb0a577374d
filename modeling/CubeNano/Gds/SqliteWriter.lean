import CubeNano.Lib.Machine
import CubeNano.Lib.PriorityQueue
import CubeNano.Lib.Table
import CubeNano.Protocol.Exceptions
import Mathlib.Data.Prod.Lex
import Mathlib.Order.Lattice

/-!
# The writer of the ground database

`SQLiteWriter` of `gds/writer.py`: callers submit mutation intents to a bounded priority queue, and
one thread takes them from it, each as a transaction of its own.  Submitting and closing hold the
submission lock, so each is one step; the thread takes an item, claims its future and applies the
intent in three steps, between which callers submit, cancel and close.

## Main definitions

* `MutationIntent`, `MutationIntent.run` — an intent and its transaction
* `SqliteWriter`, `sqliteWriter` — the state and its steps
-/

namespace CubeNano

/-! ## Intents -/

/-- `MutationPriority`. -/
inductive MutationPriority
  | high
  | low
  deriving DecidableEq, Repr

/-- The number of a priority. -/
def MutationPriority.rank : MutationPriority → ℕ
  | .high => 0
  | .low => 1

/-- `MutationIntent` of a database `δ`: `apply` leaves what it has written so far, also when it
raises. -/
structure MutationIntent (δ ρ : Type) where
  apply : δ → Except PyException ρ × δ
  priority : MutationPriority
  transactional : Bool

/-- What SQLite raises around an intent. -/
structure TransactionFaults where
  /-- `BEGIN IMMEDIATE` raises. -/
  onBegin : Option PyException
  /-- `commit` raises. -/
  onCommit : Option PyException
  /-- `rollback` raises, which ends the thread. -/
  rollbackFails : Bool

/-- One intent on the connection: the result, the database and whether `rollback` was called. -/
def MutationIntent.run {δ ρ : Type} (intent : MutationIntent δ ρ) (faults : TransactionFaults)
    (database : δ) : Except PyException ρ × δ × Bool :=
  if intent.transactional then
    match faults.onBegin with
    | some failure => (.error failure, database, false)
    | none =>
        match intent.apply database with
        | (.error failure, _) => (.error failure, database, true)
        | (.ok result, database') =>
            match faults.onCommit with
            | some failure => (.error failure, database, true)
            | none => (.ok result, database', false)
  else ((intent.apply database).1, (intent.apply database).2, false)

/-! ## The writer -/

/-- A `Future`. -/
inductive WriterFuture (ρ : Type)
  | pending
  | cancelled
  | running
  | returned (result : ρ)
  | raised (failure : PyException)

/-- What the thread does. -/
inductive WriterThread (δ ρ : Type)
  | waiting
  /-- An item is taken, its future is not claimed yet. -/
  | holding (sequence : ℕ) (intent : MutationIntent δ ρ)
  | running (sequence : ℕ) (intent : MutationIntent δ ρ)
  /-- It has taken the item that ends it. -/
  | stopped
  | died

/-- `WriterMetrics`, without the readers'. -/
structure WriterMetrics where
  submittedHigh : ℕ := 0
  submittedLow : ℕ := 0
  rejectedHigh : ℕ := 0
  droppedLow : ℕ := 0
  completed : ℕ := 0
  failed : ℕ := 0
  maxQueueDepth : ℕ := 0

/-- `_record_submission`. -/
def WriterMetrics.recordSubmission (metrics : WriterMetrics) (priority : MutationPriority)
    (depth : ℕ) : WriterMetrics :=
  match priority with
  | .high => { metrics with
      submittedHigh := metrics.submittedHigh + 1
      maxQueueDepth := max metrics.maxQueueDepth depth }
  | .low => { metrics with
      submittedLow := metrics.submittedLow + 1
      maxQueueDepth := max metrics.maxQueueDepth depth }

/-- The constructor's arguments, with its checks. -/
structure WriterLimits where
  queueCapacity : ℕ
  highPriorityReserve : ℕ
  reserve_lt : highPriorityReserve < queueCapacity

/-- The queue depth from which on low intents are dropped. -/
def WriterLimits.lowPriorityLimit (limits : WriterLimits) : ℕ :=
  limits.queueCapacity - limits.highPriorityReserve

/-- An item of the queue: an intent, or the one that ends the thread. -/
abbrev QueueItem (δ ρ : Type) := Option (MutationIntent δ ρ)

/-- The number of an item's priority. -/
def QueueItem.rank {δ ρ : Type} : QueueItem δ ρ → ℕ
  | some intent => intent.priority.rank
  | none => 2

/-- `SQLiteWriter`. -/
structure SqliteWriter (δ ρ : Type) where
  queue : PriorityQueue (ℕ ×ₗ ℕ) (QueueItem δ ρ)
  futures : Table ℕ (WriterFuture ρ)
  nextSequence : ℕ
  accepting : Bool
  /-- The sequence number of the item that `close` is about to put. -/
  closing : Option ℕ
  thread : WriterThread δ ρ
  database : δ
  metrics : WriterMetrics

/-- What callers, the closing caller and the thread do. -/
inductive WriterInput (δ ρ : Type)
  /-- `submit`, with what the state of the WAL admits. -/
  | submit (intent : MutationIntent δ ρ) (admitLowPriority : Bool)
  | cancel (sequence : ℕ)
  /-- `close`, up to the release of the lock. -/
  | close
  | putSentinel
  | closeTimedOut
  | get
  | claim
  | apply (faults : TransactionFaults)

/-- Why `submit` refuses an intent. -/
inductive WriterRefusal
  | closed
  | lowPriorityDropped
  | backpressure
  deriving DecidableEq

/-- What a step shows. -/
inductive WriterOutput
  | silent
  | accepted (priority : MutationPriority) (sequence : ℕ)
  | refused (reason : WriterRefusal)
  | took (priority : MutationPriority) (sequence : ℕ)

namespace SqliteWriter

variable {δ ρ : Type} (limits : WriterLimits)

/-- The writer once its thread is ready. -/
def initial (database : δ) : SqliteWriter δ ρ where
  queue := .empty
  futures := .empty
  nextSequence := 0
  accepting := true
  closing := none
  thread := .waiting
  database := database
  metrics := {}

variable (w : SqliteWriter δ ρ)

/-- `_queue.qsize()`. -/
def depth : ℕ := w.queue.entries.length

/-- An intent is put on the queue. -/
def enqueue (intent : MutationIntent δ ρ) : SqliteWriter δ ρ :=
  { w with
    queue := w.queue.push (toLex (intent.priority.rank, w.nextSequence)) (some intent)
    futures := w.futures.set w.nextSequence .pending
    nextSequence := w.nextSequence + 1
    metrics := w.metrics.recordSubmission intent.priority (w.depth + 1) }

/-- `submit`. -/
def submit (intent : MutationIntent δ ρ) (admitLowPriority : Bool) :
    SqliteWriter δ ρ × WriterOutput :=
  if w.accepting = false then (w, .refused .closed)
  else
    match intent.priority with
    | .low =>
        if admitLowPriority = false ∨ limits.lowPriorityLimit ≤ w.depth then
          ({ w with metrics := { w.metrics with droppedLow := w.metrics.droppedLow + 1 } },
            .refused .lowPriorityDropped)
        else (w.enqueue intent, .accepted .low w.nextSequence)
    | .high =>
        if limits.queueCapacity ≤ w.depth then
          ({ w with metrics := { w.metrics with rejectedHigh := w.metrics.rejectedHigh + 1 } },
            .refused .backpressure)
        else (w.enqueue intent, .accepted .high w.nextSequence)

/-- **What `submit` does**: it refuses the intent and only counts that, or enqueues it. -/
theorem submit_cases (intent : MutationIntent δ ρ) (admitLowPriority : Bool) :
    (∃ metrics reason,
      w.submit limits intent admitLowPriority = ({ w with metrics := metrics }, .refused reason) ∧
        (reason = .backpressure → w.accepting = true ∧ limits.queueCapacity ≤ w.depth)) ∨
    w.accepting = true ∧ w.depth < limits.queueCapacity ∧
      (intent.priority = .low → w.depth < limits.lowPriorityLimit) ∧
      w.submit limits intent admitLowPriority =
        (w.enqueue intent, .accepted intent.priority w.nextSequence) := by
  have low_le_capacity : limits.lowPriorityLimit ≤ limits.queueCapacity := Nat.sub_le _ _
  unfold submit
  split
  · exact .inl ⟨w.metrics, .closed, rfl, fun same => by cases same⟩
  · rename_i accepting
    rw [Bool.not_eq_false] at accepting
    cases priority : intent.priority with
    | low =>
        dsimp only
        split
        · exact .inl ⟨_, .lowPriorityDropped, rfl, fun same => by cases same⟩
        · rename_i room
          rw [not_or, not_le] at room
          exact .inr ⟨accepting, room.2.trans_le low_le_capacity, fun _ => room.2, rfl⟩
    | high =>
        dsimp only
        split
        · rename_i full
          exact .inl ⟨_, .backpressure, rfl, fun _ => ⟨accepting, full⟩⟩
        · rename_i room
          exact .inr ⟨accepting, not_le.mp room, fun same => (by cases same), rfl⟩

/-- `future.cancel()`. -/
def cancel (sequence : ℕ) : SqliteWriter δ ρ :=
  match w.futures.find? sequence with
  | some .pending => { w with futures := w.futures.set sequence .cancelled }
  | _ => w

/-- `close`, up to the release of the lock and the number of its item. -/
def close : SqliteWriter δ ρ :=
  if w.accepting = false then w
  else { w with
    accepting := false, closing := some w.nextSequence, nextSequence := w.nextSequence + 1 }

/-- `_queue.put(sentinel)`, which waits for a slot. -/
def putSentinel : SqliteWriter δ ρ :=
  match w.closing with
  | some sequence =>
      if w.depth < limits.queueCapacity then
        { w with queue := w.queue.push (toLex (2, sequence)) none, closing := none }
      else w
  | none => w

/-- `_queue.get()`, which waits for an item. -/
def get : SqliteWriter δ ρ × WriterOutput :=
  match w.thread, w.queue.pop? with
  | .waiting, some ((key, some intent), rest) =>
      ({ w with queue := rest, thread := .holding (ofLex key).2 intent },
        .took intent.priority (ofLex key).2)
  | .waiting, some ((_, none), rest) => ({ w with queue := rest, thread := .stopped }, .silent)
  | _, _ => (w, .silent)

/-- `set_running_or_notify_cancel`. -/
def claim : SqliteWriter δ ρ :=
  match w.thread with
  | .holding sequence intent =>
      match w.futures.find? sequence with
      | some .pending =>
          { w with
            futures := w.futures.set sequence .running, thread := .running sequence intent }
      | _ => { w with thread := .waiting }
  | _ => w

/-- The future of an intent that has been applied. -/
def futureOf : Except PyException ρ → WriterFuture ρ
  | .ok result => .returned result
  | .error failure => .raised failure

/-- The metrics after an intent has been applied. -/
def settled (metrics : WriterMetrics) : Except PyException ρ → WriterMetrics
  | .ok _ => { metrics with completed := metrics.completed + 1 }
  | .error _ => { metrics with failed := metrics.failed + 1 }

/-- The intent is applied and its future set. -/
def apply (faults : TransactionFaults) : SqliteWriter δ ρ :=
  match w.thread with
  | .running sequence intent =>
      let (result, database, rolledBack) := intent.run faults w.database
      if rolledBack = true ∧ faults.rollbackFails = true then { w with thread := .died }
      else { w with
        database := database
        futures := w.futures.set sequence (futureOf result)
        metrics := settled w.metrics result
        thread := .waiting }
  | _ => w

end SqliteWriter

/-- The writer as a machine. -/
def sqliteWriter (δ ρ : Type) (limits : WriterLimits) :
    Machine (SqliteWriter δ ρ) (WriterInput δ ρ) WriterOutput where
  step w
    | .submit intent admitLowPriority => w.submit limits intent admitLowPriority
    | .cancel sequence => (w.cancel sequence, .silent)
    | .close => (w.close, .silent)
    | .putSentinel => (w.putSentinel limits, .silent)
    | .closeTimedOut => ({ w with closing := none }, .silent)
    | .get => w.get
    | .claim => (w.claim, .silent)
    | .apply faults => (w.apply faults, .silent)

/-- **Everything a step can do.** -/
inductive WriterStep {δ ρ : Type} (limits : WriterLimits) (w : SqliteWriter δ ρ) :
    SqliteWriter δ ρ → WriterOutput → Prop
  | idle : WriterStep limits w w .silent
  | refused {metrics : WriterMetrics} {reason : WriterRefusal} :
      WriterStep limits w { w with metrics := metrics } (.refused reason)
  | enqueued (intent : MutationIntent δ ρ) (accepting : w.accepting = true)
      (room : w.depth < limits.queueCapacity)
      (lowRoom : intent.priority = .low → w.depth < limits.lowPriorityLimit) :
      WriterStep limits w (w.enqueue intent) (.accepted intent.priority w.nextSequence)
  | cancelled {sequence : ℕ} (found : w.futures.find? sequence = some .pending) :
      WriterStep limits w { w with futures := w.futures.set sequence .cancelled } .silent
  | closed : WriterStep limits w { w with
      accepting := false, closing := some w.nextSequence, nextSequence := w.nextSequence + 1 } .silent
  | sentinel {sequence : ℕ} (closing : w.closing = some sequence)
      (room : w.depth < limits.queueCapacity) :
      WriterStep limits w
        { w with queue := w.queue.push (toLex (2, sequence)) none, closing := none } .silent
  | timedOut : WriterStep limits w { w with closing := none } .silent
  | took {key : ℕ ×ₗ ℕ} {intent : MutationIntent δ ρ}
      {rest : PriorityQueue (ℕ ×ₗ ℕ) (QueueItem δ ρ)} (free : w.thread = .waiting)
      (popped : w.queue.pop? = some ((key, some intent), rest)) :
      WriterStep limits w { w with queue := rest, thread := .holding (ofLex key).2 intent }
        (.took intent.priority (ofLex key).2)
  | stopped {key : ℕ ×ₗ ℕ} {rest : PriorityQueue (ℕ ×ₗ ℕ) (QueueItem δ ρ)}
      (free : w.thread = .waiting) (popped : w.queue.pop? = some ((key, none), rest)) :
      WriterStep limits w { w with queue := rest, thread := .stopped } .silent
  | claimed {sequence : ℕ} {intent : MutationIntent δ ρ}
      (holding : w.thread = .holding sequence intent)
      (found : w.futures.find? sequence = some .pending) :
      WriterStep limits w { w with
        futures := w.futures.set sequence .running, thread := .running sequence intent } .silent
  | skipped {sequence : ℕ} {intent : MutationIntent δ ρ}
      (holding : w.thread = .holding sequence intent)
      (unset : w.futures.find? sequence ≠ some .pending) :
      WriterStep limits w { w with thread := .waiting } .silent
  | applied {sequence : ℕ} {intent : MutationIntent δ ρ}
      (running : w.thread = .running sequence intent) (database : δ)
      (result : Except PyException ρ) :
      WriterStep limits w { w with
        database := database
        futures := w.futures.set sequence (SqliteWriter.futureOf result)
        metrics := SqliteWriter.settled w.metrics result
        thread := .waiting } .silent
  | died {sequence : ℕ} {intent : MutationIntent δ ρ}
      (running : w.thread = .running sequence intent) :
      WriterStep limits w { w with thread := .died } .silent

theorem sqliteWriter_step {δ ρ : Type} (limits : WriterLimits) (w : SqliteWriter δ ρ)
    (input : WriterInput δ ρ) : WriterStep limits w ((sqliteWriter δ ρ limits).step w input).1
      ((sqliteWriter δ ρ limits).step w input).2 := by
  cases input with
  | submit intent admitLowPriority =>
      change WriterStep limits w (w.submit limits intent admitLowPriority).1
        (w.submit limits intent admitLowPriority).2
      obtain ⟨metrics, reason, refused, -⟩ | ⟨accepting, room, lowRoom, enqueued⟩ :=
        w.submit_cases limits intent admitLowPriority
      · rw [refused]
        exact .refused
      · rw [enqueued]
        exact .enqueued intent accepting room lowRoom
  | cancel sequence =>
      change WriterStep limits w (w.cancel sequence) .silent
      unfold SqliteWriter.cancel
      split
      · exact .cancelled (by assumption)
      · exact .idle
  | close =>
      change WriterStep limits w w.close .silent
      unfold SqliteWriter.close
      split
      · exact .idle
      · exact .closed
  | putSentinel =>
      change WriterStep limits w (w.putSentinel limits) .silent
      unfold SqliteWriter.putSentinel
      split
      · split
        · exact .sentinel (by assumption) (by assumption)
        · exact .idle
      · exact .idle
  | closeTimedOut => exact .timedOut
  | get =>
      change WriterStep limits w w.get.1 w.get.2
      unfold SqliteWriter.get
      split
      · exact .took (by assumption) (by assumption)
      · exact .stopped (by assumption) (by assumption)
      · exact .idle
  | claim =>
      change WriterStep limits w w.claim .silent
      unfold SqliteWriter.claim
      split
      · split
        · exact .claimed (by assumption) (by assumption)
        · rename_i other
          exact .skipped (by assumption) other
      · exact .idle
  | apply faults =>
      change WriterStep limits w (w.apply faults) .silent
      unfold SqliteWriter.apply
      split
      · dsimp only
        split
        · exact .died (by assumption)
        · exact .applied (by assumption) _ _
      · exact .idle

end CubeNano

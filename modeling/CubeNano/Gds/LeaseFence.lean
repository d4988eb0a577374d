import CubeNano.Gds.LedgerPairing

/-!
# The fence of a lease

A dispatcher that still holds an old lease is turned away by the owner name in the
row, not by the identity of the lease.  So the old lease is fenced off exactly as
long as the later leases of the request name other owners.

## Main definitions

* `leaseOf` — the lease a transaction granted
* `Superseded` — a lease of a run whose request was leased again later
* `Ledger.Rejects` — attempts and ends of sends with a lease raise `LeaseLostError`

## Main statements

* `rejects_of_otherOwners` — a superseded lease is rejected when the later leases of
  its request name other owners
* `not_rejects_of_sameOwner` — a second lease of the same owner lets the first one in
-/

namespace CubeNano

/-- The lease a transaction granted. -/
def leaseOf : Raises LedgerResult → Option OutboxLease
  | .ok (.lease lease?) => lease?
  | _ => none

/-- A lease granted in the first part of a run whose request is leased again in the
second. -/
structure Superseded (cfg : LedgerConfig) (start : Ledger) (before later : List (ℕ × LedgerOp))
    (lease : OutboxLease) : Prop where
  granted : ∃ entry ∈ (gdsMachine cfg).log start before, leaseOf entry.2 = some lease
  again : ∃ entry ∈ (gdsMachine cfg).log ((gdsMachine cfg).exec start before) later,
    ∃ new, leaseOf entry.2 = some new ∧ new.requestKey = lease.requestKey

/-- Every later lease of the request names another owner. -/
def OtherOwners (lease : OutboxLease) (log : List ((ℕ × LedgerOp) × Raises LedgerResult)) : Prop :=
  ∀ entry ∈ log, ∀ new, leaseOf entry.2 = some new → new.requestKey = lease.requestKey →
    new.leaseOwner ≠ lease.leaseOwner

/-- `prepare_attempt`, `mark_sent` and `mark_not_sent` with a lease raise
`LeaseLostError` and change nothing; the lease holds no row. -/
structure Ledger.Rejects (cfg : LedgerConfig) (l : Ledger) (lease : OutboxLease) : Prop where
  prepareAttempt : ∀ now profile binding?, ∃ message,
    (gdsMachine cfg).step l (now, .prepareAttempt lease profile binding?) =
      (l, ledgerError .leaseLost message)
  markSent : ∀ now attempt, ∃ message,
    (gdsMachine cfg).step l (now, .markSent lease attempt) = (l, ledgerError .leaseLost message)
  markNotSent : ∀ now attempt reason, reason ≠ "" → ∃ message,
    (gdsMachine cfg).step l (now, .markNotSent lease attempt reason) =
      (l, ledgerError .leaseLost message)
  notHeld : ∀ now o, l.outbox.find? lease.requestKey = some o →
    Ledger.heldBy lease now o = false

/-! ## A row of another owner -/

namespace Ledger

variable {l : Ledger} {lease : OutboxLease} {r : Request}

/-- An update that selects no row is carried out. -/
theorem updateOutboxRow_of_not_matches {key : RequestKey} {selects : OutboxRow → Bool}
    (unmatched : l.matchesOutbox key selects = false) (assign : OutboxRow → OutboxRow) :
    ∃ l', l.updateOutboxRow key selects assign = .ok l' := by
  unfold updateOutboxRow updateOutbox
  rw [if_pos]
  · exact ⟨_, rfl⟩
  · rw [List.all_eq_true]
    rintro ⟨k, o⟩ mem
    by_cases selected : (decide (k = key) && selects o) = true
    · obtain ⟨same, matched⟩ := Bool.and_eq_true_iff.mp selected
      cases of_decide_eq_true same
      rw [matchesOutbox, Table.mem_rows_iff.mp mem, Option.any_some, matched] at unmatched
      cases unmatched
    · simp [Bool.eq_false_of_not_eq_true selected]

/-- A row of another owner is not held. -/
theorem heldBy_eq_false {o : OutboxRow} (other : o.leaseOwner ≠ some lease.leaseOwner) (now : ℕ) :
    heldBy lease now o = false :=
  Bool.eq_false_of_not_eq_true fun held => other (heldBy_iff.mp held).2.1

theorem checkLease_of_otherOwner (here : l.request? lease.requestKey = some r)
    (other : r.outbox.leaseOwner ≠ some lease.leaseOwner) (policy : OutboxPolicy) (now : ℕ) :
    ∃ message, l.checkLease policy lease now = ledgerError .leaseLost message := by
  unfold checkLease
  rw [(request?_eq_some_iff.mp here).2]
  dsimp only
  split
  · exact ⟨_, rfl⟩
  · rw [if_pos (.inr other)]
    exact ⟨_, rfl⟩

theorem matchesOutbox_of_otherOwner (here : l.request? lease.requestKey = some r)
    (other : r.outbox.leaseOwner ≠ some lease.leaseOwner) (now : ℕ) :
    l.matchesOutbox lease.requestKey (heldBy lease now) = false := by
  rw [matchesOutbox, (request?_eq_some_iff.mp here).2]
  exact heldBy_eq_false other now

theorem prepareAttempt_of_otherOwner (here : l.request? lease.requestKey = some r)
    (other : r.outbox.leaseOwner ≠ some lease.leaseOwner) (policy : OutboxPolicy)
    (profile : TcWireProfile) (binding? : Option LinkBinding) (now : ℕ) :
    ∃ message, l.prepareAttempt policy lease profile binding? now =
      ledgerError .leaseLost message := by
  unfold prepareAttempt
  split
  · exact ⟨_, rfl⟩
  · obtain ⟨message, lost⟩ := checkLease_of_otherOwner here other policy now
    rw [lost]
    exact ⟨message, rfl⟩

theorem markSent_of_otherOwner (here : l.request? lease.requestKey = some r)
    (other : r.outbox.leaseOwner ≠ some lease.leaseOwner) (policy : OutboxPolicy)
    (attempt : AttemptRecord) (now : ℕ) :
    ∃ message, l.markSent policy lease attempt now = ledgerError .leaseLost message := by
  have unmatched := matchesOutbox_of_otherOwner here other now
  obtain ⟨armed, update⟩ := updateOutboxRow_of_not_matches unmatched
    (OutboxRow.sentAt (now + policy.ackTimeoutUs) now)
  unfold markSent
  rw [update]
  exact ⟨_, if_pos unmatched⟩

theorem markNotSent_of_otherOwner (here : l.request? lease.requestKey = some r)
    (other : r.outbox.leaseOwner ≠ some lease.leaseOwner) (attempt : AttemptRecord)
    {reason : String} (given : reason ≠ "") (now : ℕ) :
    ∃ message, l.markNotSent lease attempt reason now = ledgerError .leaseLost message := by
  have unmatched : (l.updateAttempts (isAttempt attempt attempt.requestKey .persistedNotSent)
      fun row => { row with sendResult := .notSent reason }).matchesOutbox lease.requestKey
        (heldBy lease now) = false := matchesOutbox_of_otherOwner here other now
  obtain ⟨released, update⟩ := updateOutboxRow_of_not_matches unmatched
    (OutboxRow.notSentAt reason now)
  unfold markNotSent
  rw [if_neg given]
  split
  · exact ⟨_, rfl⟩
  · simp only [update]
    exact ⟨_, if_pos unmatched⟩

/-- A row of another owner rejects the lease. -/
theorem rejects_of_otherOwner {cfg : LedgerConfig} (here : l.request? lease.requestKey = some r)
    (other : r.outbox.leaseOwner ≠ some lease.leaseOwner) : l.Rejects cfg lease where
  prepareAttempt now profile binding? := by
    obtain ⟨message, lost⟩ :=
      prepareAttempt_of_otherOwner here other cfg.policy profile binding? now
    refine ⟨message, gdsMachine_step_of_error ?_⟩
    exact congrArg (yields .attempt) lost
  markSent now attempt := by
    obtain ⟨message, lost⟩ := markSent_of_otherOwner here other cfg.policy attempt now
    refine ⟨message, gdsMachine_step_of_error ?_⟩
    exact congrArg (yields fun _ => .done) lost
  markNotSent now attempt reason given := by
    obtain ⟨message, lost⟩ := markNotSent_of_otherOwner here other attempt given now
    refine ⟨message, gdsMachine_step_of_error ?_⟩
    exact congrArg (yields fun _ => .done) lost
  notHeld now o stored := by
    obtain rfl : o = r.outbox :=
      Option.some.inj (stored.symm.trans (request?_eq_some_iff.mp here).2)
    exact heldBy_eq_false other now

/-- A granted lease is on its row. -/
theorem leaseOwner_of_granted {cfg : LedgerConfig} {input : ℕ × LedgerOp}
    (granted : leaseOf ((gdsMachine cfg).step l input).2 = some lease) :
    ∃ r, ((gdsMachine cfg).step l input).1.request? lease.requestKey = some r ∧
      r.outbox.leaseOwner = some lease.leaseOwner := by
  rcases gdsMachine_step cfg l input with ⟨value, l', done, stepped⟩ | ⟨failure, -, stepped⟩
  · rw [stepped] at granted ⊢
    cases value with
    | lease lease? =>
        obtain rfl : lease? = some lease := granted
        obtain ⟨key?, binding?, owner, -, claimed⟩ := claim_of_transact done
        exact leaseOwner_of_claim claimed
    | _ => cases granted
  · rw [stepped] at granted
    cases granted

end Ledger

/-- A step that grants no lease to an owner does not make it the owner of the row. -/
theorem RequestStep.leaseOwner_ne {cfg : LedgerConfig} {l : Ledger} {now : ℕ} {op : LedgerOp}
    {result : Raises LedgerResult} {key : RequestKey} {r r' : Request} {owner : String}
    (step : RequestStep cfg l now op result key r r')
    (others : ∀ new, leaseOf result = some new → new.requestKey = key → new.leaseOwner ≠ owner)
    (before : r.outbox.leaseOwner ≠ some owner) : r'.outbox.leaseOwner ≠ some owner := by
  cases step with
  | idle => exact before
  | deadline sent terms stays attempts same => exact same ▸ before
  | counted dispatching terms stays below attempts same => exact same ▸ before
  | claimed granted ofKey pending terms dispatching attempts named =>
      rename_i o lease
      show o.leaseOwner ≠ some owner
      rw [named]
      refine fun same => others lease ?_ ofKey (Option.some.inj same)
      rw [granted]
      rfl
  | waits nonterminal terms waiting attempts free => exact free ▸ nofun
  | fails nonterminal terms failed attempts free => exact free ▸ nofun
  | sent marks ofKey held terms stays attempts free => exact free ▸ nofun
  | acked nonterminal terms acknowledged attempts free => exact free ▸ nofun

/-! ## The second lease -/

/-- A row without a certain owner keeps it out as long as no lease names it. -/
theorem otherOwner_run {cfg : LedgerConfig} {l : Ledger} {lease : OutboxLease} {r : Request}
    (sound : l.Sound) (here : l.request? lease.requestKey = some r)
    (other : r.outbox.leaseOwner ≠ some lease.leaseOwner) (inputs : List (ℕ × LedgerOp))
    (others : OtherOwners lease ((gdsMachine cfg).log l inputs)) :
    ∃ r', ((gdsMachine cfg).exec l inputs).request? lease.requestKey = some r' ∧
      r'.outbox.leaseOwner ≠ some lease.leaseOwner := by
  obtain ⟨r', found, kept⟩ := (requestEntries cfg).evolves
    (fun r r' => r.outbox.leaseOwner ≠ some lease.leaseOwner →
      r'.outbox.leaseOwner ≠ some lease.leaseOwner) _ (fun _ same => same)
    (fun _ _ _ first second before => second (first before))
    (fun _ _ _ _ _ allowed _ step before => step.leaseOwner_ne allowed before) sound here inputs
    (Machine.allSteps_of_log others)
  exact ⟨r', found, kept other⟩

/-- After a lease of another owner the row is out of reach. -/
theorem otherOwner_of_again {cfg : LedgerConfig} {l : Ledger} {lease : OutboxLease}
    (sound : l.Sound) (inputs : List (ℕ × LedgerOp))
    (again : ∃ entry ∈ (gdsMachine cfg).log l inputs, ∃ new, leaseOf entry.2 = some new ∧
      new.requestKey = lease.requestKey)
    (others : OtherOwners lease ((gdsMachine cfg).log l inputs)) :
    ∃ r, ((gdsMachine cfg).exec l inputs).request? lease.requestKey = some r ∧
      r.outbox.leaseOwner ≠ some lease.leaseOwner := by
  induction inputs generalizing l with
  | nil =>
      obtain ⟨entry, mem, -⟩ := again
      cases mem
  | cons input rest ih =>
      rw [Machine.log_cons] at again others
      have later : OtherOwners lease ((gdsMachine cfg).log ((gdsMachine cfg).step l input).1 rest) :=
        fun entry mem => others entry (.tail _ mem)
      have sound' := (gdsMachine_change cfg sound input).sound sound
      obtain ⟨entry, mem, new, granted, ofKey⟩ := again
      rcases List.mem_cons.mp mem with rfl | mem
      · -- the lease of this step is on the row, and the rest of the run keeps it out
        obtain ⟨r, here, named⟩ := Ledger.leaseOwner_of_granted granted
        refine otherOwner_run sound' (ofKey ▸ here) ?_ rest later
        rw [named]
        exact fun same => others _ (.head _) new granted ofKey (Option.some.inj same)
      · exact ih sound' ⟨entry, mem, new, granted, ofKey⟩ later

/-- **Superseded leases are fenced off.**  In any run, a lease whose request is leased
again later is rejected at the end, when the later leases of the request name other
owners. -/
theorem rejects_of_otherOwners (cfg : LedgerConfig) {start : Ledger} (unused : start.Unused)
    (before later : List (ℕ × LedgerOp)) (lease : OutboxLease)
    (superseded : Superseded cfg start before later lease)
    (others : OtherOwners lease
      ((gdsMachine cfg).log ((gdsMachine cfg).exec start before) later)) :
    ((gdsMachine cfg).exec start (before ++ later)).Rejects cfg lease := by
  have sound := (gdsMachine_regular cfg unused before).sound
  obtain ⟨r, here, other⟩ := otherOwner_of_again sound later superseded.again others
  rw [Machine.exec_append]
  exact Ledger.rejects_of_otherOwner here other

/-! ## Runs with two claims -/

/-- The request is claimed by an owner. -/
def firstClaim (owner : String) : List (ℕ × LedgerOp) :=
  openingInputs ++ [(1000000, .claim none none owner)]

/-- The lease runs out and the request is claimed again. -/
def secondClaim (owner : String) : List (ℕ × LedgerOp) :=
  [(12000000, .reconcile), (12000000, .claim none none owner)]

/-- The ledger after the first claim. -/
def firstLedger (owner : String) : Ledger :=
  (gdsMachine ⟨defaultOutboxPolicy, 16⟩).exec .migrated (firstClaim owner)

/-- The leases a run grants. -/
def grantedLeases (l : Ledger) (inputs : List (ℕ × LedgerOp)) : List OutboxLease :=
  ((gdsMachine ⟨defaultOutboxPolicy, 16⟩).log l inputs).filterMap fun entry => leaseOf entry.2

theorem mem_grantedLeases {l : Ledger} {inputs : List (ℕ × LedgerOp)} {lease : OutboxLease} :
    lease ∈ grantedLeases l inputs ↔
      ∃ entry ∈ (gdsMachine ⟨defaultOutboxPolicy, 16⟩).log l inputs,
        leaseOf entry.2 = some lease := List.mem_filterMap

/-- A lease of the first claim is superseded by the second, if both are granted. -/
theorem superseded_of_grantedLeases {owner owner' : String} {lease : OutboxLease}
    (granted : lease ∈ grantedLeases .migrated (firstClaim owner))
    (again : (grantedLeases (firstLedger owner) (secondClaim owner')).any
      (fun new => new.requestKey = lease.requestKey) = true) :
    Superseded ⟨defaultOutboxPolicy, 16⟩ .migrated (firstClaim owner) (secondClaim owner')
      lease := by
  obtain ⟨new, mem, same⟩ := List.any_eq_true.mp again
  obtain ⟨entry, logged, isLease⟩ := mem_grantedLeases.mp mem
  exact ⟨mem_grantedLeases.mp granted, entry, logged, new, isLease, of_decide_eq_true same⟩

/-- The theorem applies when the second dispatcher has another name. -/
theorem rejects_of_otherOwners_twoNames : ∃ lease : OutboxLease, lease.leaseOwner = "first" ∧
    ((gdsMachine ⟨defaultOutboxPolicy, 16⟩).exec .migrated
      (firstClaim "first" ++ secondClaim "second")).Rejects ⟨defaultOutboxPolicy, 16⟩ lease := by
  have run : (grantedLeases .migrated (firstClaim "first")).any (fun lease =>
      lease.leaseOwner = "first" &&
        (grantedLeases (firstLedger "first") (secondClaim "second")).any
          (fun new => new.requestKey = lease.requestKey) &&
        (grantedLeases (firstLedger "first") (secondClaim "second")).all
          (fun new => new.leaseOwner ≠ lease.leaseOwner)) = true := by
    decide +kernel
  obtain ⟨lease, granted, found⟩ := List.any_eq_true.mp run
  simp only [Bool.and_eq_true, decide_eq_true_eq] at found
  obtain ⟨⟨named, again⟩, others⟩ := found
  refine ⟨lease, named, rejects_of_otherOwners _ Ledger.unused_migrated _ _ lease
    (superseded_of_grantedLeases granted again) fun entry mem new isLease _ => ?_⟩
  exact of_decide_eq_true
    (List.all_eq_true.mp others new (mem_grantedLeases.mpr ⟨entry, mem, isLease⟩))

/-- Two dispatchers with one name: the lease of the first claim prepares an attempt
under the second. -/
theorem not_rejects_of_sameOwner :
    ¬ ∀ (cfg : LedgerConfig) (start : Ledger), start.Unused → ∀ before later lease,
      Superseded cfg start before later lease →
        ((gdsMachine cfg).exec start (before ++ later)).Rejects cfg lease := by
  intro always
  have run : (grantedLeases .migrated (firstClaim "gds-outbox-0")).any (fun lease =>
      (grantedLeases (firstLedger "gds-outbox-0") (secondClaim "gds-outbox-0")).any
          (fun new => new.requestKey = lease.requestKey) &&
        ((gdsMachine ⟨defaultOutboxPolicy, 16⟩).step
          ((gdsMachine ⟨defaultOutboxPolicy, 16⟩).exec .migrated
            (firstClaim "gds-outbox-0" ++ secondClaim "gds-outbox-0"))
          (13000000, .prepareAttempt lease sceneProfile none)).2.isOk) = true := by
    decide +kernel
  obtain ⟨lease, granted, found⟩ := List.any_eq_true.mp run
  obtain ⟨again, prepared⟩ := Bool.and_eq_true_iff.mp found
  obtain ⟨message, lost⟩ := (always _ _ Ledger.unused_migrated _ _ lease
    (superseded_of_grantedLeases granted again)).prepareAttempt 13000000 sceneProfile none
  rw [lost] at prepared
  cases prepared

end CubeNano

import CubeNano.Gds.LedgerMachine

/-!
# The life of a request

What the ledger is for, one request at a time: a command with its outbox row waits,
is leased to a dispatcher, sent, and ends acknowledged, expired or failed.
`RequestStep` is that life as a relation, `AttemptStep` the life of one attempt.
The relations do not follow the source; that the transactions stay within them is
`CubeNano.Gds.LedgerRefinement`.

## Main definitions

* `Request`, `Ledger.request?` — a command and its outbox row
* `Request.Consistent` — the two rows tell the same story
* `RequestStep`, `AttemptStep` — what a transaction makes of a request, of an attempt
* `Releases` — the transactions that put a leased or sent row back

## Main statements

* `RequestStep.consistent` — every step keeps the two rows consistent
* `RequestStep.attemptCount_le`, `RequestStep.effectiveExpiresAtUs_eq` — attempts are
  counted up, the expiry is fixed
-/

namespace CubeNano

/-- A command and its outbox row. -/
structure Request where
  command : CommandRow
  outbox : OutboxRow

/-- The request under a key. -/
def Ledger.request? (l : Ledger) (key : RequestKey) : Option Request :=
  match l.commands.find? key, l.outbox.find? key with
  | some c, some o => some ⟨c, o⟩
  | _, _ => none

/-- The two rows of a request agree. -/
structure Request.Consistent (r : Request) : Prop where
  target : r.outbox.targetSpacecraftInstanceId = r.command.targetSpacecraftInstanceId
  expiry : r.outbox.expiresAtUs = r.command.effectiveExpiresAtUs
  admitted_iff : r.outbox.state.nonterminal = true ↔ r.command.commandState = .admitted
  acked_iff : r.outbox.state = .acked ↔ r.command.commandState = .acked
  failed_iff : (r.outbox.state = .expired ∨ r.outbox.state = .deliveryFailed) ↔
    r.command.commandState = .failed
  leased_iff : r.outbox.leaseOwner.isSome = true ↔ r.outbox.state = .dispatching

/-- A request as admission creates it. -/
structure Request.Fresh (r : Request) : Prop where
  consistent : r.Consistent
  waiting : r.outbox.state = .heldNoContact ∨ r.outbox.state = .outboxPending
  attempts : r.outbox.attemptCount = 0

/-- The columns of an outbox row that never change. -/
structure OutboxRow.SameTerms (o o' : OutboxRow) : Prop where
  target : o'.targetSpacecraftInstanceId = o.targetSpacecraftInstanceId
  expiry : o'.expiresAtUs = o.expiresAtUs

/-- A transaction that puts a leased or sent row of a key back to waiting without
a look at its attempts: a lease that ran out, a send that did not happen or failed,
a new session, a closed contact. -/
def Releases (l : Ledger) (now : ℕ) (key : RequestKey) (r : Request) : LedgerOp → Prop
  | .reconcile =>
      r.outbox.state = .dispatching ∧ r.outbox.leaseExpiresAtUs.any (· ≤ now) = true ∧
        now < r.outbox.expiresAtUs ∧
          (r.command.deliveryMode = .nextContact ∨
            l.contactOpen r.outbox.targetSpacecraftInstanceId = true)
  | .markNotSent lease attempt _ =>
      lease.requestKey = key ∧ Ledger.heldBy lease now r.outbox = true ∧
        now < r.outbox.expiresAtUs ∧
          l.hasAttempt attempt attempt.requestKey .persistedNotSent = true
  | .rollbackSentAttempt lease attempt _ =>
      lease.requestKey = key ∧ r.outbox.state = .sent ∧ l.hasAttempt attempt key .sent = true ∧
        now < r.outbox.expiresAtUs ∧
          (r.command.deliveryMode = .nextContact ∨
            l.contactOpen r.outbox.targetSpacecraftInstanceId = true)
  | .bind current =>
      ∃ metadata previous, l.metadata = some metadata ∧
        l.previousBinding metadata = some previous ∧ previous ≠ current ∧
          previous.spacecraftInstanceId = current.spacecraftInstanceId ∧
            r.outbox.targetSpacecraftInstanceId = previous.spacecraftInstanceId
  | .setContactState target contact =>
      contact.isOpen = false ∧ (l.instances.find? target).any (·.contactState ≠ contact) = true ∧
        r.outbox.state = .dispatching ∧ r.outbox.targetSpacecraftInstanceId = target ∧
          now < r.outbox.expiresAtUs ∧ r.command.deliveryMode = .nextContact
  | _ => False

/-- What a transaction with its result makes of the request under a key. -/
inductive RequestStep (cfg : LedgerConfig) (l : Ledger) (now : ℕ) (op : LedgerOp)
    (result : Raises LedgerResult) (key : RequestKey) (r : Request) : Request → Prop
  | idle : RequestStep cfg l now op result key r r
  /-- The acknowledgement deadline of a sent row moves. -/
  | deadline {o : OutboxRow} (sent : r.outbox.state = .sent) (terms : r.outbox.SameTerms o)
      (stays : o.state = .sent) (attempts : o.attemptCount = r.outbox.attemptCount)
      (owner : o.leaseOwner = r.outbox.leaseOwner) :
      RequestStep cfg l now op result key r ⟨r.command, o⟩
  /-- The row waits for its next attempt. -/
  | waits {o : OutboxRow} (nonterminal : r.outbox.state.nonterminal = true)
      (terms : r.outbox.SameTerms o)
      (waiting : o.state = .heldNoContact ∨ o.state = .outboxPending)
      (attempts : o.attemptCount = r.outbox.attemptCount) (owner : o.leaseOwner = none)
      (released : r.outbox.state = .dispatching ∨ r.outbox.state = .sent →
        r.outbox.attemptCount < cfg.policy.maxAttempts ∨ Releases l now key r op) :
      RequestStep cfg l now op result key r ⟨r.command, o⟩
  /-- The row and its command fail together. -/
  | fails {o : OutboxRow}
      (nonterminal : r.outbox.state.nonterminal = true) (terms : r.outbox.SameTerms o)
      (failed : o.state = .expired ∨ o.state = .deliveryFailed)
      (attempts : o.attemptCount = r.outbox.attemptCount) (owner : o.leaseOwner = none) :
      RequestStep cfg l now op result key r ⟨r.command.closedAt .failed now, o⟩
  /-- A claim leases the row. -/
  | claimed {o : OutboxRow} {lease : OutboxLease} (granted : result = .ok (.lease (some lease)))
      (ofKey : lease.requestKey = key) (pending : r.outbox.state = .outboxPending)
      (terms : r.outbox.SameTerms o) (dispatching : o.state = .dispatching)
      (attempts : o.attemptCount = r.outbox.attemptCount)
      (owner : o.leaseOwner = some lease.leaseOwner) :
      RequestStep cfg l now op result key r ⟨r.command, o⟩
  /-- An attempt of the leased row is counted. -/
  | counted {o : OutboxRow} (dispatching : r.outbox.state = .dispatching)
      (terms : r.outbox.SameTerms o) (stays : o.state = .dispatching)
      (below : r.outbox.attemptCount < cfg.policy.maxAttempts)
      (attempts : o.attemptCount = r.outbox.attemptCount + 1)
      (owner : o.leaseOwner = r.outbox.leaseOwner) :
      RequestStep cfg l now op result key r ⟨r.command, o⟩
  /-- The leased row is marked sent. -/
  | sent {o : OutboxRow} {lease : OutboxLease} {attempt : AttemptRecord}
      (marks : op = .markSent lease attempt) (ofKey : lease.requestKey = key)
      (held : Ledger.heldBy lease now r.outbox = true) (terms : r.outbox.SameTerms o)
      (stays : o.state = .sent) (attempts : o.attemptCount = r.outbox.attemptCount)
      (owner : o.leaseOwner = none) :
      RequestStep cfg l now op result key r ⟨r.command, o⟩
  /-- The row and its command are acknowledged together. -/
  | acked {o : OutboxRow}
      (nonterminal : r.outbox.state.nonterminal = true) (terms : r.outbox.SameTerms o)
      (acknowledged : o.state = .acked) (attempts : o.attemptCount = r.outbox.attemptCount)
      (owner : o.leaseOwner = none) :
      RequestStep cfg l now op result key r ⟨r.command.closedAt .acked now, o⟩

/-- What a transaction makes of the attempt with an id. -/
inductive AttemptStep (l : Ledger) (now : ℕ) (op : LedgerOp) (id : ℕ) (a : AttemptRow) :
    AttemptRow → Prop
  | idle : AttemptStep l now op id a a
  /-- The attempt is marked sent. -/
  | sent {lease : OutboxLease} {attempt : AttemptRecord} {o : OutboxRow}
      (marks : op = .markSent lease attempt)
      (leased : l.outbox.find? lease.requestKey = some o)
      (held : Ledger.heldBy lease now o = true)
      (selected : Ledger.isAttempt attempt attempt.requestKey .persistedNotSent id a = true) :
      AttemptStep l now op id a { a with sendResult := .sent, sentAtUs := some now }
  /-- The attempt is closed: not sent, or acknowledged. -/
  | closed {sendResult : SendResult} {ackedAt : Option ℕ} (open_ : sendResult ≠ .sent)
      (final : sendResult ≠ .persistedNotSent) :
      AttemptStep l now op id a { a with sendResult := sendResult, ackedAtUs := ackedAt }

/-! ## Consistency -/

namespace OutboxState

@[simp] theorem nonterminal_heldNoContact : heldNoContact.nonterminal = true := rfl

@[simp] theorem nonterminal_outboxPending : outboxPending.nonterminal = true := rfl

@[simp] theorem nonterminal_dispatching : dispatching.nonterminal = true := rfl

@[simp] theorem nonterminal_sent : sent.nonterminal = true := rfl

/-- A waiting state is nonterminal and not leased. -/
theorem nonterminal_of_waiting {s : OutboxState}
    (waiting : s = .heldNoContact ∨ s = .outboxPending) :
    s.nonterminal = true ∧ s ≠ .acked ∧ s ≠ .expired ∧ s ≠ .deliveryFailed ∧ s ≠ .dispatching := by
  rcases waiting with rfl | rfl <;> decide

end OutboxState

theorem Ledger.heldBy_iff {lease : OutboxLease} {now : ℕ} {o : OutboxRow} :
    Ledger.heldBy lease now o = true ↔ o.state = .dispatching ∧
      o.leaseOwner = some lease.leaseOwner ∧
        o.leaseExpiresAtUs.any (fun expires => expires > now) = true := by
  simp [Ledger.heldBy, and_assoc]

namespace Request.Consistent

variable {r : Request}

/-- A nonterminal request is admitted, not acknowledged and not failed. -/
theorem of_nonterminal {c : CommandRow} {o : OutboxRow}
    (target : o.targetSpacecraftInstanceId = c.targetSpacecraftInstanceId)
    (expiry : o.expiresAtUs = c.effectiveExpiresAtUs) (admitted : c.commandState = .admitted)
    (nonterminal : o.state.nonterminal = true)
    (leased : o.leaseOwner.isSome = true ↔ o.state = .dispatching) :
    (⟨c, o⟩ : Request).Consistent where
  target := target
  expiry := expiry
  admitted_iff := ⟨fun _ => admitted, fun _ => nonterminal⟩
  acked_iff := by
    constructor
    · intro acked
      rw [acked] at nonterminal
      cases nonterminal
    · intro acked
      cases admitted.symm.trans acked
  failed_iff := by
    constructor
    · rintro (state | state) <;> rw [state] at nonterminal <;> cases nonterminal
    · intro failed
      cases admitted.symm.trans failed
  leased_iff := leased

/-- Only a leased row has an owner. -/
theorem leaseOwner_eq_none (consistent : r.Consistent) (free : r.outbox.state ≠ .dispatching) :
    r.outbox.leaseOwner = none := by
  cases owner : r.outbox.leaseOwner with
  | none => rfl
  | some name => exact absurd (consistent.leased_iff.mp (by rw [owner]; rfl)) free

end Request.Consistent

/-- **The rows stay consistent.**  Every step of a request keeps its command and
its outbox row telling the same story. -/
theorem RequestStep.consistent {cfg : LedgerConfig} {l : Ledger} {now : ℕ} {op : LedgerOp}
    {result : Raises LedgerResult} {key : RequestKey} {r r' : Request}
    (step : RequestStep cfg l now op result key r r') (before : r.Consistent) :
    r'.Consistent := by
  have sameTarget {o : OutboxRow} (terms : r.outbox.SameTerms o) :
      o.targetSpacecraftInstanceId = r.command.targetSpacecraftInstanceId :=
    terms.target.trans before.target
  have sameExpiry {o : OutboxRow} (terms : r.outbox.SameTerms o) :
      o.expiresAtUs = r.command.effectiveExpiresAtUs := terms.expiry.trans before.expiry
  cases step with
  | idle => exact before
  | deadline sent terms stays attempts owner =>
      refine .of_nonterminal (sameTarget terms) (sameExpiry terms)
        (before.admitted_iff.mp (by rw [sent]; rfl)) (by rw [stays]; rfl) ?_
      rw [owner, stays, before.leased_iff, sent]
  | waits nonterminal terms waiting attempts owner released =>
      obtain ⟨still, -, -, -, free⟩ := OutboxState.nonterminal_of_waiting waiting
      refine .of_nonterminal (sameTarget terms) (sameExpiry terms)
        (before.admitted_iff.mp nonterminal) still ?_
      rw [owner]
      exact ⟨nofun, fun leased => absurd leased free⟩
  | fails nonterminal terms failed attempts owner =>
      refine ⟨sameTarget terms, sameExpiry terms, ?_, ?_, ⟨fun _ => rfl, fun _ => failed⟩, ?_⟩
      · rcases failed with state | state <;> rw [state] <;> exact ⟨nofun, nofun⟩
      · rcases failed with state | state <;> rw [state] <;> exact ⟨nofun, nofun⟩
      · rw [owner]
        rcases failed with state | state <;> rw [state] <;> exact ⟨nofun, nofun⟩
  | claimed granted ofKey pending terms dispatching attempts owner =>
      refine .of_nonterminal (sameTarget terms) (sameExpiry terms)
        (before.admitted_iff.mp (by rw [pending]; rfl)) (by rw [dispatching]; rfl) ?_
      rw [owner, dispatching]
      exact ⟨fun _ => rfl, fun _ => rfl⟩
  | counted dispatching terms stays below attempts owner =>
      refine .of_nonterminal (sameTarget terms) (sameExpiry terms)
        (before.admitted_iff.mp (by rw [dispatching]; rfl)) (by rw [stays]; rfl) ?_
      rw [owner, stays, before.leased_iff, dispatching]
  | sent marks ofKey held terms stays attempts owner =>
      have dispatching := (Ledger.heldBy_iff.mp held).1
      refine .of_nonterminal (sameTarget terms) (sameExpiry terms)
        (before.admitted_iff.mp (by rw [dispatching]; rfl)) (by rw [stays]; rfl) ?_
      rw [owner, stays]
      exact ⟨nofun, nofun⟩
  | acked nonterminal terms acknowledged attempts owner =>
      refine ⟨sameTarget terms, sameExpiry terms, ?_, ⟨fun _ => rfl, fun _ => acknowledged⟩, ?_, ?_⟩
      · rw [acknowledged]
        exact ⟨nofun, nofun⟩
      · rw [acknowledged]
        exact ⟨fun failed => failed.elim nofun nofun, nofun⟩
      · rw [owner, acknowledged]
        exact ⟨nofun, nofun⟩

/-! ## What never changes -/

/-- The attempts of a request are counted up. -/
theorem RequestStep.attemptCount_le {cfg : LedgerConfig} {l : Ledger} {now : ℕ} {op : LedgerOp}
    {result : Raises LedgerResult} {key : RequestKey} {r r' : Request}
    (step : RequestStep cfg l now op result key r r') :
    r.outbox.attemptCount ≤ r'.outbox.attemptCount := by
  cases step with
  | idle => exact le_rfl
  | counted dispatching terms stays below attempts owner =>
      rw [attempts]
      exact Nat.le_succ _
  | _ => exact ge_of_eq ‹_›

/-- A request keeps its target and its expiry. -/
theorem RequestStep.sameTerms {cfg : LedgerConfig} {l : Ledger} {now : ℕ} {op : LedgerOp}
    {result : Raises LedgerResult} {key : RequestKey} {r r' : Request}
    (step : RequestStep cfg l now op result key r r') : r.outbox.SameTerms r'.outbox := by
  cases step with
  | idle => exact ⟨rfl, rfl⟩
  | _ => exact ‹r.outbox.SameTerms _›

/-- A request keeps its delivery mode. -/
theorem RequestStep.deliveryMode_eq {cfg : LedgerConfig} {l : Ledger} {now : ℕ} {op : LedgerOp}
    {result : Raises LedgerResult} {key : RequestKey} {r r' : Request}
    (step : RequestStep cfg l now op result key r r') :
    r'.command.deliveryMode = r.command.deliveryMode := by
  cases step <;> rfl

/-- An attempt keeps its request and its number. -/
theorem AttemptStep.same_attempt {l : Ledger} {now : ℕ} {op : LedgerOp} {id : ℕ}
    {a a' : AttemptRow} (step : AttemptStep l now op id a a') :
    a'.requestKey = a.requestKey ∧ a'.attemptNumber = a.attemptNumber := by
  cases step <;> exact ⟨rfl, rfl⟩

end CubeNano

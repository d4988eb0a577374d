import CubeNano.Gds.Admission
import CubeNano.Gds.Binding
import CubeNano.Lib.Entries

/-!
# The ledger as a machine

The transactions of admission, outbox and binding as the steps of one machine.
An input is an instant and an operation, so any interleaving of callers, with any
clock, is a list of inputs.  A transaction that raises leaves the ledger as it was.

## Main definitions

* `LedgerOp`, `LedgerResult`, `gdsMachine`
* `Ledger.Unused` — a database without commands, where runs start; `Ledger.migrated`
  is the empty one
-/

namespace CubeNano

/-- The settings of the services. -/
structure LedgerConfig where
  policy : OutboxPolicy
  outboxCapacity : ℕ

/-- The transactions. -/
inductive LedgerOp
  | initializeKeys (draws : ℕ → U64)
  | admitCommand (request : AdmitRequest)
  | admitProductDownlink (request : DownlinkRequest)
  | registerInstance (binding : LinkBinding)
  | bind (current : LinkBinding)
  | setContactState (target : U64) (contact : GroundContactState)
  | reconcile
  | claim (key? : Option RequestKey) (binding? : Option LinkBinding) (owner : String)
  | persistAttempt (lease : OutboxLease) (encodedTc : Bytes) (apid frameSequence : ℕ)
      (binding? : Option LinkBinding)
  | prepareAttempt (lease : OutboxLease) (profile : TcWireProfile) (binding? : Option LinkBinding)
  | markSent (lease : OutboxLease) (attempt : AttemptRecord)
  | markNotSent (lease : OutboxLease) (attempt : AttemptRecord) (reason : String)
  | rollbackSentAttempt (lease : OutboxLease) (attempt : AttemptRecord) (reason : String)
  | markAttemptNotSent (attempt : AttemptRecord) (reason : String)
  | ingestAck (key : RequestKey) (success : Bool) (reason : Option String)
      (correlation : Option TmCorrelation)

/-- What the transactions return. -/
inductive LedgerResult
  | initialized (state : AllocatorState)
  | admission (result : AdmissionResult)
  | binding (current : LinkBinding)
  | migration (result : BindingMigration)
  | report (result : ReconcileReport)
  | lease (result : Option OutboxLease)
  | attempt (result : AttemptRecord)
  | done
  | flag (result : Bool)
  | receipt (result : AckResult)

namespace Ledger

/-- A transaction with its result in the common type. -/
def yields {α : Type} (result : α → LedgerResult) (outcome : Raises (α × Ledger)) :
    Raises (LedgerResult × Ledger) :=
  outcome.map fun r => (result r.1, r.2)

/-- The transaction of an operation. -/
def transact (cfg : LedgerConfig) (now : ℕ) (l : Ledger) :
    LedgerOp → Raises (LedgerResult × Ledger)
  | .initializeKeys draws => yields .initialized (l.initializeInTransaction draws now)
  | .admitCommand request => yields .admission (l.admitCommand cfg.outboxCapacity request now)
  | .admitProductDownlink request =>
      yields .admission (l.admitProductDownlink cfg.outboxCapacity request now)
  | .registerInstance binding => yields .binding (l.registerInstance binding now)
  | .bind current => yields .migration (l.bind current now)
  | .setContactState target contact =>
      yields .binding (l.setContactState cfg.policy target contact now)
  | .reconcile => yields .report (l.reconcile cfg.policy now)
  | .claim key? binding? owner => yields .lease (l.claim cfg.policy key? binding? owner now)
  | .persistAttempt lease encodedTc apid frameSequence binding? =>
      yields .attempt (l.persistAttempt cfg.policy lease encodedTc apid frameSequence binding? now)
  | .prepareAttempt lease profile binding? =>
      yields .attempt (l.prepareAttempt cfg.policy lease profile binding? now)
  | .markSent lease attempt =>
      yields (fun _ => .done) (l.markSent cfg.policy lease attempt now)
  | .markNotSent lease attempt reason =>
      yields (fun _ => .done) (l.markNotSent lease attempt reason now)
  | .rollbackSentAttempt lease attempt reason =>
      yields .flag (l.rollbackSentAttempt cfg.policy lease attempt reason now)
  | .markAttemptNotSent attempt reason => yields .flag (l.markAttemptNotSent attempt reason)
  | .ingestAck key success reason correlation =>
      yields .receipt (l.ingestAck key success reason correlation now)

/-- `COMMIT`, or `ROLLBACK` after an exception. -/
def commit (l : Ledger) : Raises (LedgerResult × Ledger) → Ledger × Raises LedgerResult
  | .ok (result, l') => (l', .ok result)
  | .error failure => (l, .error failure)

end Ledger

/-- The database server; an input is an instant and an operation. -/
def gdsMachine (cfg : LedgerConfig) : Machine Ledger (ℕ × LedgerOp) (Raises LedgerResult) where
  step l input := l.commit (l.transact cfg input.1 input.2)

/-- A database without commands; its namespaces, instances and metadata are any. -/
structure Ledger.Unused (l : Ledger) : Prop where
  commands : l.commands = Table.empty
  outbox : l.outbox = Table.empty
  attempts : l.attempts = Table.empty

/-- The database after its migrations. -/
def Ledger.migrated : Ledger where
  metadata := none
  namespaces := .empty
  instances := .empty
  commands := .empty
  outbox := .empty
  attempts := .empty
  nextAttemptId := 1
  sequences := .empty
  downlinks := .empty
  retiredKeys := .empty

theorem Ledger.unused_migrated : Ledger.migrated.Unused := ⟨rfl, rfl, rfl⟩

namespace Ledger

theorem yields_eq_ok {α : Type} {result : α → LedgerResult} {outcome : Raises (α × Ledger)}
    {value : LedgerResult × Ledger} (done : yields result outcome = .ok value) :
    ∃ a, outcome = .ok (a, value.2) ∧ value.1 = result a := by
  cases outcome with
  | error failure => cases done
  | ok returned =>
      cases done
      exact ⟨returned.1, rfl, rfl⟩

/-- Only a claim returns a lease. -/
theorem claim_of_transact {cfg : LedgerConfig} {now : ℕ} {l l' : Ledger} {op : LedgerOp}
    {lease? : Option OutboxLease} (done : l.transact cfg now op = .ok (.lease lease?, l')) :
    ∃ key? binding? owner, op = .claim key? binding? owner ∧
      l.claim cfg.policy key? binding? owner now = .ok (lease?, l') := by
  cases op with
  | claim key? binding? owner =>
      obtain ⟨a, claimed, same⟩ := yields_eq_ok done
      cases same
      exact ⟨key?, binding?, owner, rfl, claimed⟩
  | markSent lease attempt =>
      change yields (fun _ => .done) (l.markSent cfg.policy lease attempt now) = _ at done
      obtain ⟨_, -, same⟩ := yields_eq_ok done
      cases same
  | markNotSent lease attempt reason =>
      change yields (fun _ => .done) (l.markNotSent lease attempt reason now) = _ at done
      obtain ⟨_, -, same⟩ := yields_eq_ok done
      cases same
  | _ =>
      obtain ⟨_, -, same⟩ := yields_eq_ok done
      cases same

end Ledger

/-- A step commits a transaction or changes nothing. -/
theorem gdsMachine_step (cfg : LedgerConfig) (l : Ledger) (input : ℕ × LedgerOp) :
    (∃ result l', l.transact cfg input.1 input.2 = .ok (result, l') ∧
      (gdsMachine cfg).step l input = (l', .ok result)) ∨
    ∃ failure, l.transact cfg input.1 input.2 = .error failure ∧
      (gdsMachine cfg).step l input = (l, .error failure) := by
  cases outcome : l.transact cfg input.1 input.2 with
  | ok value =>
      refine .inl ⟨value.1, value.2, rfl, ?_⟩
      show l.commit (l.transact cfg input.1 input.2) = _
      rw [outcome]
      rfl
  | error failure =>
      refine .inr ⟨failure, rfl, ?_⟩
      show l.commit (l.transact cfg input.1 input.2) = _
      rw [outcome]
      rfl

/-- A transaction that raises changes nothing. -/
theorem gdsMachine_step_of_error {cfg : LedgerConfig} {l : Ledger} {now : ℕ} {op : LedgerOp}
    {failure : PyException} (failed : l.transact cfg now op = .error failure) :
    (gdsMachine cfg).step l (now, op) = (l, .error failure) := by
  show l.commit (l.transact cfg now op) = _
  rw [failed]
  rfl

end CubeNano

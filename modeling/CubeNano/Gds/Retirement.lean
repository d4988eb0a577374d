import CubeNano.Gds.LedgerAdmissions

/-!
# Retirement of idempotency keys

`retire_terminal_command` prunes a command that has ended and keeps a marker of its
idempotency key for a while; `rotate_if_drained` and `allocate` are the transactions of
the request-key allocator outside an admission.  Together with the transactions that
callers run they are the steps of one machine.  The downlink admissions of the product
path, which choose their keys themselves and look none up, are not among them.

## Main definitions

* `retireTerminalCommand`, `rotateIfDrained`
* `RetentionOp`, `retentionMachine`

## Main statements

* `retentionMachine_step` — a step commits a transaction or changes nothing
* `allocateInTransaction_fresh` — an allocated key has not been issued before
-/

namespace CubeNano

/-- The key of a retained marker: installation epoch, principal and idempotency key. -/
abbrev Marker := U64 × String × String

/-- The marker of a command. -/
def CommandRow.marker (c : CommandRow) : Marker :=
  (c.gdsInstallationEpoch, c.principal, c.idempotencyKey)

namespace Ledger

/-- `retire_terminal_command`.  The rows that refer to the command go with it. -/
def retireTerminalCommand (key : RequestKey) (retentionUs : ℤ) (now : ℕ) (l : Ledger) :
    Raises (ℕ × Ledger) :=
  if retentionUs ≤ 0 then valueError "idempotency retention must be positive"
  else
    match l.commands.find? key with
    | none => keyError "'command does not exist'"
    | some c =>
        match l.outbox.find? key with
        | none => ledgerError .ledgerIntegrity "command has no outbox row"
        | some o =>
            if c.commandState.nonterminal then valueError "only terminal commands may be pruned"
            else if o.state.nonterminal then valueError "only terminal outbox rows may be pruned"
            else
              let retainedUntil := now + retentionUs.toNat
              match l.retiredKeys.insert c.marker ⟨c.httpDigest, key, retainedUntil⟩ with
              | none => integrityError "UNIQUE constraint failed: http_idempotency_retired"
              | some retiredKeys =>
                  .ok (retainedUntil, { l with
                    retiredKeys
                    commands := l.commands.erase key
                    outbox := l.outbox.erase key
                    attempts := l.attempts.filter fun _ row => row.requestKey ≠ key
                    downlinks := l.downlinks.erase key })

/-- `rotate_if_drained`. -/
def rotateIfDrained (draws : ℕ → U64) (now : ℕ) (l : Ledger) :
    Raises (AllocatorState × Ledger) := do
  let initial ← initializeInTransaction draws now l
  rotateIfDrainedInTransaction draws now initial.1 initial.2

end Ledger

/-- Whether an operation is a downlink admission. -/
def LedgerOp.admitsDownlink : LedgerOp → Bool
  | .admitProductDownlink _ => true
  | _ => false

/-- The transactions of callers, retirements, and allocations. -/
inductive RetentionOp
  | transact (op : LedgerOp) (ofCaller : op.admitsDownlink = false)
  | retire (key : RequestKey) (retentionUs : ℤ)
  | rotate (draws : ℕ → U64)
  | allocate (draws : ℕ → U64)

/-- An `admit`. -/
def RetentionOp.ofAdmission (request : AdmitRequest) : RetentionOp :=
  .transact (.admitCommand request) rfl

/-- What they return. -/
inductive RetentionResult
  | ledger (result : LedgerResult)
  | retainedUntil (us : ℕ)
  | namespace_ (state : AllocatorState)
  | key (key : RequestKey)

namespace Ledger

/-- The transaction of an operation. -/
def retain (cfg : LedgerConfig) (now : ℕ) (l : Ledger) :
    RetentionOp → Raises (RetentionResult × Ledger)
  | .transact op _ => (l.transact cfg now op).map fun r => (.ledger r.1, r.2)
  | .retire key retentionUs =>
      (l.retireTerminalCommand key retentionUs now).map fun r => (.retainedUntil r.1, r.2)
  | .rotate draws => (l.rotateIfDrained draws now).map fun r => (.namespace_ r.1, r.2)
  | .allocate draws => (allocateInTransaction draws now l).map fun r => (.key r.1, r.2)

/-- `COMMIT`, or `ROLLBACK` after an exception. -/
def settle (l : Ledger) : Raises (RetentionResult × Ledger) → Ledger × Raises RetentionResult
  | .ok (result, l') => (l', .ok result)
  | .error failure => (l, .error failure)

end Ledger

/-- The database server; an input is an instant and an operation. -/
def retentionMachine (cfg : LedgerConfig) :
    Machine Ledger (ℕ × RetentionOp) (Raises RetentionResult) where
  step l input := l.settle (l.retain cfg input.1 input.2)

/-- A step commits a transaction or changes nothing. -/
theorem retentionMachine_step (cfg : LedgerConfig) (l : Ledger) (input : ℕ × RetentionOp) :
    (∃ result l', l.retain cfg input.1 input.2 = .ok (result, l') ∧
      (retentionMachine cfg).step l input = (l', .ok result)) ∨
    ∃ failure, l.retain cfg input.1 input.2 = .error failure ∧
      (retentionMachine cfg).step l input = (l, .error failure) := by
  cases outcome : l.retain cfg input.1 input.2 with
  | ok value =>
      refine .inl ⟨value.1, value.2, rfl, ?_⟩
      show l.settle (l.retain cfg input.1 input.2) = _
      rw [outcome]
      rfl
  | error failure =>
      refine .inr ⟨failure, rfl, ?_⟩
      show l.settle (l.retain cfg input.1 input.2) = _
      rw [outcome]
      rfl

namespace Ledger

variable {l l' l'' : Ledger} {now : ℕ} {key : RequestKey}

/-! ## Issued keys -/

/-- The request id of a key has been handed out in its namespace. -/
def Issued (l : Ledger) (key : RequestKey) : Prop :=
  ∃ row, l.namespaces.find? key.groundInstanceId = some row ∧ key.requestId.val < row.nextRequestId

/-- The installation epoch of the metadata. -/
def epoch? (l : Ledger) : Option U64 := l.metadata.map MetadataRow.gdsInstallationEpoch

/-- What allocations do: issued keys stay issued, the epoch stays, and so do the records
and the retained markers. -/
structure Issues (l l' : Ledger) : Prop where
  issued : ∀ key, l.Issued key → l'.Issued key
  epoch : ∀ epoch, l.epoch? = some epoch → l'.epoch? = some epoch
  retiredKeys : l'.retiredKeys = l.retiredKeys
  commands : l'.commands = l.commands
  outbox : l'.outbox = l.outbox

namespace Issues

theorem refl (l : Ledger) : Issues l l := ⟨fun _ h => h, fun _ h => h, rfl, rfl, rfl⟩

theorem trans (first : Issues l l') (second : Issues l' l'') : Issues l l'' :=
  ⟨fun key h => second.issued key (first.issued key h),
    fun epoch h => second.epoch epoch (first.epoch epoch h),
    second.retiredKeys.trans first.retiredKeys, second.commands.trans first.commands,
    second.outbox.trans first.outbox⟩

end Issues

/-- Replacing the row of a namespace by one that has handed out as much keeps the issued
keys. -/
theorem Issued.set {id : U64} {row : NamespaceRow} (issued : l.Issued key)
    (namespaces : l'.namespaces = l.namespaces.set id row)
    (noLess : ∀ old, l.namespaces.find? id = some old → old.nextRequestId ≤ row.nextRequestId) :
    l'.Issued key := by
  obtain ⟨old, stored, below⟩ := issued
  unfold Issued
  rw [namespaces, Table.find?_set]
  by_cases same : key.groundInstanceId = id
  · rw [if_pos same]
    exact ⟨row, rfl, below.trans_le (noLess old (same ▸ stored))⟩
  · rw [if_neg same]
    exact ⟨old, stored, below⟩

/-- A unique draw is not taken. -/
theorem not_taken_of_newUniqueU64 {draws : ℕ → U64} {position : ℕ} {column : String}
    {excluded : List U64} {taken : U64 → Bool} {found : U64 × ℕ}
    (drawn : newUniqueU64 draws position column excluded taken = .ok found) :
    taken found.1 = false := by
  unfold newUniqueU64 at drawn
  split at drawn
  · rename_i i here
    cases drawn
    have holds := List.find?_some here
    simp only [Bool.and_eq_true, Bool.not_eq_true'] at holds
    exact holds.2
  · cases drawn

theorem initializeInTransaction_issues {draws : ℕ → U64} {state : AllocatorState}
    (done : initializeInTransaction draws now l = .ok (state, l')) : Issues l l' := by
  unfold initializeInTransaction at done
  split at done
  · rename_i uninitialized
    split at done
    · cases done
    · rename_i empty
      obtain ⟨epoch, -, done⟩ := bind_eq_ok_iff.mp done
      obtain ⟨ground, -, done⟩ := bind_eq_ok_iff.mp done
      cases done
      refine ⟨fun key issued => ?_, fun epoch known => ?_, rfl, rfl, rfl⟩
      · obtain ⟨row, stored, -⟩ := issued
        have nothing : l.namespaces.rows = [] := List.length_eq_zero_iff.mp (not_not.mp empty)
        rw [Table.find?, nothing] at stored
        cases stored
      · rw [epoch?, uninitialized] at known
        cases known
  · split at done
    · cases done
    split at done
    · cases done
    split at done
    · cases done
    split at done
    · cases done
    · cases done
      exact .refl l

theorem rotateIfDrainedInTransaction_issues {draws : ℕ → U64} {state state' : AllocatorState}
    (done : rotateIfDrainedInTransaction draws now state l = .ok (state', l')) : Issues l l' := by
  unfold rotateIfDrainedInTransaction at done
  split at done
  · cases done
    exact .refl l
  split at done
  · cases done
  obtain ⟨ground, drawn, done⟩ := bind_eq_ok_iff.mp done
  have free := not_taken_of_newUniqueU64 drawn
  split at done
  · cases done
  rename_i old stored
  split at done
  · cases done
  split at done
  · cases done
  · cases done
    refine ⟨fun key issued => ?_, fun epoch known => ?_, rfl, rfl, rfl⟩
    · have retired : Issued { l with
          namespaces := l.namespaces.set state.groundInstanceId
            { old with state := .retired, retiredAtUs := some now } } key :=
        issued.set rfl fun row here => by
          rw [stored] at here
          cases here
          exact le_rfl
      refine retired.set rfl fun row here => ?_
      rw [Table.find?_set] at here
      split at here
      · rename_i same
        rw [same, stored] at free
        cases free
      · rw [here] at free
        cases free
    · rw [epoch?] at known ⊢
      obtain ⟨metadata, initialized, same⟩ := Option.map_eq_some_iff.mp known
      rw [initialized]
      exact congrArg some same

/-- **An allocated key has not been issued before**, and is from then on. -/
theorem allocateInTransaction_fresh {draws : ℕ → U64}
    (done : allocateInTransaction draws now l = .ok (key, l')) :
    Issues l l' ∧ ¬ l.Issued key ∧ l'.Issued key := by
  obtain ⟨⟨state, first⟩, initialized, done⟩ := bind_eq_ok_iff.mp done
  obtain ⟨⟨state', second⟩, rotated, done⟩ := bind_eq_ok_iff.mp done
  have rotation : Issues first second := by
    split at rotated
    · exact rotateIfDrainedInTransaction_issues rotated
    · cases rotated
      exact .refl first
  have before := (initializeInTransaction_issues initialized).trans rotation
  simp only at done
  split at done
  · rename_i fits
    split at done
    · cases done
    rename_i row stored
    split at done
    · cases done
    rename_i unchanged
    have next : row.nextRequestId = state'.nextRequestId := by
      by_contra differs
      exact unchanged (.inl differs)
    cases done
    refine ⟨before.trans ⟨fun key issued => ?_, fun _ h => h, rfl, rfl, rfl⟩, fun issued => ?_, ?_⟩
    · refine issued.set rfl fun old here => ?_
      rw [stored] at here
      cases here
      exact next ▸ Nat.le_succ _
    · obtain ⟨old, here, below⟩ := before.issued _ issued
      rw [stored] at here
      cases here
      rw [next] at below
      exact Nat.lt_irrefl _ below
    · refine ⟨_, Table.find?_set_self _ _ _, ?_⟩
      exact Nat.lt_succ_self _
  · cases done

end Ledger

end CubeNano

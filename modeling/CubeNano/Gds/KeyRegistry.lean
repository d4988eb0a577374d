import CubeNano.Gds.Retirement

/-!
# What the transactions do to the registry of keys

The namespaces, the installation epoch and the retained markers are touched by
admissions, allocations and retirements only, and no transaction but an admission or a
retirement changes which commands there are or under which idempotency key.

## Main definitions

* `Ledger.SameRegistry` — epoch, namespaces and markers are the same
* `Ledger.KeepsKeys`, `Ledger.AdmitsKey`, `Ledger.RetiresKey` — the three ways of a transaction

## Main statements

* `Ledger.admitCommand_keys` — an admission replays a stored command or stores a new one
* `Ledger.retain_ways` — every transaction goes one of the three ways
-/

namespace CubeNano

/-- Under which marker and with which digest a command is stored. -/
def CommandRow.identity (c : CommandRow) : Marker × Bytes := (c.marker, c.httpDigest)

/-- A step of a request keeps its identity. -/
theorem RequestStep.identity_eq {cfg : LedgerConfig} {l : Ledger} {now : ℕ} {op : LedgerOp}
    {result : Raises LedgerResult} {key : RequestKey} {r r' : Request}
    (step : RequestStep cfg l now op result key r r') :
    r'.command.identity = r.command.identity := by
  cases step <;> rfl

namespace Ledger

variable {cfg : LedgerConfig} {l l' l'' : Ledger} {now : ℕ} {key : RequestKey}

/-! ## Transactions on requests -/

/-- Epoch, namespaces and markers are the same. -/
structure SameRegistry (l l' : Ledger) : Prop where
  epoch : l'.epoch? = l.epoch?
  namespaces : l'.namespaces = l.namespaces
  retiredKeys : l'.retiredKeys = l.retiredKeys

namespace SameRegistry

theorem refl (l : Ledger) : SameRegistry l l := ⟨rfl, rfl, rfl⟩

theorem trans (first : SameRegistry l l') (second : SameRegistry l' l'') : SameRegistry l l'' :=
  ⟨second.epoch.trans first.epoch, second.namespaces.trans first.namespaces,
    second.retiredKeys.trans first.retiredKeys⟩

end SameRegistry

theorem updateOutbox_sameRegistry {selects : RequestKey → OutboxRow → Bool}
    {assign : OutboxRow → OutboxRow} (done : l.updateOutbox selects assign = .ok l') :
    SameRegistry l l' := by
  rw [updateOutbox_eq_ok done]
  exact ⟨rfl, rfl, rfl⟩

theorem updateCommands_sameRegistry (l : Ledger) (selects : RequestKey → CommandRow → Bool)
    (assign : CommandRow → CommandRow) : SameRegistry l (l.updateCommands selects assign) :=
  ⟨rfl, rfl, rfl⟩

theorem updateAttempts_sameRegistry (l : Ledger) (selects : ℕ → AttemptRow → Bool)
    (assign : AttemptRow → AttemptRow) : SameRegistry l (l.updateAttempts selects assign) :=
  ⟨rfl, rfl, rfl⟩

theorem updateInstance_sameRegistry {id : U64} {assign : InstanceRow → InstanceRow}
    (done : l.updateInstance id now assign = .ok l') : SameRegistry l l' := by
  obtain ⟨instances, rfl⟩ := updateInstance_eq_ok done
  exact ⟨rfl, rfl, rfl⟩

theorem upsertInstance_sameRegistry {binding : LinkBinding}
    (done : l.upsertInstance binding now = .ok l') : SameRegistry l l' := by
  obtain ⟨instances, rfl⟩ := upsertInstance_eq_ok done
  exact ⟨rfl, rfl, rfl⟩

theorem terminalize_sameRegistry {state : OutboxState} {reason : String}
    (done : l.terminalize key state reason now = .ok l') : SameRegistry l l' := by
  obtain ⟨closed, update, done⟩ := bind_eq_ok_iff.mp done
  cases done
  exact (updateOutbox_sameRegistry update).trans (updateCommands_sameRegistry _ _ _)

theorem registerInstance_sameRegistry {binding result : LinkBinding}
    (done : l.registerInstance binding now = .ok (result, l')) : SameRegistry l l' := by
  unfold registerInstance at done
  split at done
  · obtain ⟨registered, upsert, done⟩ := bind_eq_ok_iff.mp done
    cases done
    exact upsertInstance_sameRegistry upsert
  · split at done
    · cases done
    obtain ⟨_, -, done⟩ := bind_eq_ok_iff.mp done
    obtain ⟨registered, upsert, done⟩ := bind_eq_ok_iff.mp done
    cases done
    exact upsertInstance_sameRegistry upsert

theorem openContact_sameRegistry {policy : OutboxPolicy} {id : U64}
    (done : l.openContact policy id now = .ok l') : SameRegistry l l' := by
  obtain ⟨released, first, second⟩ := bind_eq_ok_iff.mp done
  exact (updateOutbox_sameRegistry first).trans (updateOutbox_sameRegistry second)

theorem closeContact_sameRegistry {id : U64} (done : l.closeContact id now = .ok l') :
    SameRegistry l l' := by
  obtain ⟨held, first, done⟩ := bind_eq_ok_iff.mp done
  obtain ⟨paused, second, done⟩ := bind_eq_ok_iff.mp done
  obtain ⟨failed, third, done⟩ := bind_eq_ok_iff.mp done
  cases done
  exact (updateOutbox_sameRegistry first).trans ((updateOutbox_sameRegistry second).trans
    ((updateOutbox_sameRegistry third).trans (updateCommands_sameRegistry _ _ _)))

theorem setContactState_sameRegistry {policy : OutboxPolicy} {id : U64}
    {contact : GroundContactState} {result : LinkBinding}
    (done : l.setContactState policy id contact now = .ok (result, l')) : SameRegistry l l' := by
  unfold setContactState at done
  split at done
  · cases done
  split at done
  · obtain ⟨noted, note, done⟩ := bind_eq_ok_iff.mp done
    obtain ⟨updated, update, done⟩ := bind_eq_ok_iff.mp done
    cases done
    refine (updateInstance_sameRegistry note).trans ?_
    split at update
    · cases update
      exact .refl _
    split at update
    · exact openContact_sameRegistry update
    · exact closeContact_sameRegistry update
  · cases done

theorem publishBinding_sameRegistry {metadata : MetadataRow} {current : LinkBinding}
    (initialized : l.metadata = some metadata)
    (done : l.publishBinding metadata current now = .ok l') : SameRegistry l l' := by
  obtain ⟨published, upsert, done⟩ := bind_eq_ok_iff.mp done
  cases done
  obtain ⟨instances, rfl⟩ := upsertInstance_eq_ok upsert
  exact ⟨by rw [epoch?, epoch?, initialized]; rfl, rfl, rfl⟩

/-- The updates before a binding is published touch neither registry nor metadata. -/
theorem rebindRows_sameRegistry {old : U64} (done : l.rebindRows old now = .ok l') :
    SameRegistry l l' ∧ l'.metadata = l.metadata := by
  obtain ⟨rebound, update, done⟩ := bind_eq_ok_iff.mp done
  cases done
  rw [updateOutbox_eq_ok update]
  exact ⟨⟨rfl, rfl, rfl⟩, rfl⟩

theorem retireInstance_sameRegistry {old : U64} (done : l.retireInstance old now = .ok l') :
    SameRegistry l l' ∧ l'.metadata = l.metadata := by
  obtain ⟨failed, update, done⟩ := bind_eq_ok_iff.mp done
  obtain ⟨instances, rfl⟩ := updateInstance_eq_ok done
  rw [updateOutbox_eq_ok update]
  exact ⟨⟨rfl, rfl, rfl⟩, rfl⟩

theorem bind_sameRegistry {current : LinkBinding} {migration : BindingMigration}
    (done : l.bind current now = .ok (migration, l')) : SameRegistry l l' := by
  unfold bind at done
  split at done
  · cases done
  rename_i metadata initialized
  obtain ⟨_, -, done⟩ := bind_eq_ok_iff.mp done
  split at done
  · obtain ⟨published, publish, done⟩ := bind_eq_ok_iff.mp done
    cases done
    exact publishBinding_sameRegistry initialized publish
  split at done
  · cases done
  split at done
  · obtain ⟨published, publish, done⟩ := bind_eq_ok_iff.mp done
    cases done
    exact publishBinding_sameRegistry initialized publish
  split at done
  · obtain ⟨rebound, rebind, done⟩ := bind_eq_ok_iff.mp done
    obtain ⟨published, publish, done⟩ := bind_eq_ok_iff.mp done
    cases done
    obtain ⟨same, metadata'⟩ := rebindRows_sameRegistry rebind
    exact same.trans (publishBinding_sameRegistry (metadata'.trans initialized) publish)
  · obtain ⟨retired, retire, done⟩ := bind_eq_ok_iff.mp done
    obtain ⟨published, publish, done⟩ := bind_eq_ok_iff.mp done
    cases done
    obtain ⟨same, metadata'⟩ := retireInstance_sameRegistry retire
    exact same.trans (publishBinding_sameRegistry (metadata'.trans initialized) publish)

theorem reconcileRow_sameRegistry {policy : OutboxPolicy} {row : ReconcileRow}
    {acc acc' : ReconcileReport × Ledger} (done : reconcileRow policy now row acc = .ok acc') :
    SameRegistry acc.2 acc'.2 := by
  unfold reconcileRow at done
  dsimp only at done
  split at done
  · obtain ⟨closed, terminal, done⟩ := bind_eq_ok_iff.mp done
    cases done
    exact terminalize_sameRegistry terminal
  split at done
  · split at done
    · obtain ⟨closed, terminal, done⟩ := bind_eq_ok_iff.mp done
      cases done
      exact terminalize_sameRegistry terminal
    · obtain ⟨recovered, update, done⟩ := bind_eq_ok_iff.mp done
      cases done
      exact updateOutbox_sameRegistry update
  split at done
  · split at done
    · obtain ⟨closed, terminal, done⟩ := bind_eq_ok_iff.mp done
      cases done
      exact terminalize_sameRegistry terminal
    split at done
    · obtain ⟨closed, terminal, done⟩ := bind_eq_ok_iff.mp done
      cases done
      exact terminalize_sameRegistry terminal
    · obtain ⟨delay, -, done⟩ := bind_eq_ok_iff.mp done
      obtain ⟨retried, update, done⟩ := bind_eq_ok_iff.mp done
      cases done
      exact updateOutbox_sameRegistry update
  · cases done
    exact .refl _

theorem reconcile_sameRegistry {policy : OutboxPolicy} {report : ReconcileReport}
    (done : l.reconcile policy now = .ok (report, l')) : SameRegistry l l' := by
  have fold (rows : List ReconcileRow) : ∀ acc acc' : ReconcileReport × Ledger,
      rows.foldlM (fun acc row => reconcileRow policy now row acc) acc = .ok acc' →
        SameRegistry acc.2 acc'.2 := by
    induction rows with
    | nil =>
        intro acc acc' done
        cases done
        exact .refl _
    | cons row rest ih =>
        intro acc acc' done
        obtain ⟨mid, first, later⟩ := bind_eq_ok_iff.mp done
        exact (reconcileRow_sameRegistry first).trans (ih mid acc' later)
  exact fold _ _ _ done

theorem claim_sameRegistry {policy : OutboxPolicy} {key? : Option RequestKey}
    {binding? : Option LinkBinding} {owner : String} {lease? : Option OutboxLease}
    (done : l.claim policy key? binding? owner now = .ok (lease?, l')) : SameRegistry l l' := by
  unfold claim at done
  split at done
  · cases done
    exact .refl l
  split at done
  · obtain ⟨leased, update, done⟩ := bind_eq_ok_iff.mp done
    obtain ⟨payload, -, done⟩ := bind_eq_ok_iff.mp done
    cases done
    exact updateOutbox_sameRegistry update
  · cases done
    exact .refl l

theorem insertLeasedAttempt_sameRegistry {row : AttemptRow} {selects : OutboxRow → Bool}
    {inserted : ℕ × Ledger} (done : l.insertLeasedAttempt row selects now = .ok inserted) :
    SameRegistry l inserted.2 := by
  obtain ⟨first, insert, done⟩ := bind_eq_ok_iff.mp done
  obtain ⟨counted, update, done⟩ := bind_eq_ok_iff.mp done
  cases done
  obtain ⟨attempts, -, same⟩ := insertAttempt_eq_ok insert
  have after := updateOutbox_sameRegistry update
  rw [same] at after
  exact ⟨after.epoch, after.namespaces, after.retiredKeys⟩

theorem persistAttempt_sameRegistry {policy : OutboxPolicy} {lease : OutboxLease}
    {encodedTc : Bytes} {apid frameSequence : ℕ} {binding? : Option LinkBinding}
    {attempt : AttemptRecord}
    (done : l.persistAttempt policy lease encodedTc apid frameSequence binding? now =
      .ok (attempt, l')) : SameRegistry l l' := by
  unfold persistAttempt at done
  split at done
  · cases done
  split at done
  · cases done
  obtain ⟨o, -, done⟩ := bind_eq_ok_iff.mp done
  obtain ⟨allocation, allocated, done⟩ := bind_eq_ok_iff.mp done
  obtain ⟨inserted, insert, done⟩ := bind_eq_ok_iff.mp done
  cases done
  obtain ⟨sequences, same⟩ := allocateSequence_eq_ok allocated
  have after := insertLeasedAttempt_sameRegistry insert
  rw [same] at after
  exact ⟨after.epoch, after.namespaces, after.retiredKeys⟩

theorem prepareAttempt_sameRegistry {policy : OutboxPolicy} {lease : OutboxLease}
    {profile : TcWireProfile} {binding? : Option LinkBinding} {attempt : AttemptRecord}
    (done : l.prepareAttempt policy lease profile binding? now = .ok (attempt, l')) :
    SameRegistry l l' := by
  unfold prepareAttempt at done
  split at done
  · cases done
  obtain ⟨o, -, done⟩ := bind_eq_ok_iff.mp done
  obtain ⟨allocation, allocated, done⟩ := bind_eq_ok_iff.mp done
  obtain ⟨encodedTc, -, done⟩ := bind_eq_ok_iff.mp done
  obtain ⟨inserted, insert, done⟩ := bind_eq_ok_iff.mp done
  split at done
  · cases done
  cases done
  obtain ⟨sequences, same⟩ := allocateSequence_eq_ok allocated
  have after := insertLeasedAttempt_sameRegistry insert
  rw [same] at after
  exact ⟨after.epoch, after.namespaces, after.retiredKeys⟩

theorem markSent_sameRegistry {policy : OutboxPolicy} {lease : OutboxLease}
    {attempt : AttemptRecord} {result : Unit}
    (done : l.markSent policy lease attempt now = .ok (result, l')) : SameRegistry l l' := by
  obtain ⟨armed, update, done⟩ := bind_eq_ok_iff.mp done
  split at done
  · cases done
  split at done
  · cases done
  · cases done
    exact (updateOutbox_sameRegistry update).trans (updateAttempts_sameRegistry _ _ _)

theorem markNotSent_sameRegistry {lease : OutboxLease} {attempt : AttemptRecord}
    {reason : String} {result : Unit}
    (done : l.markNotSent lease attempt reason now = .ok (result, l')) : SameRegistry l l' := by
  unfold markNotSent at done
  split at done
  · cases done
  split at done
  · cases done
  obtain ⟨released, update, done⟩ := bind_eq_ok_iff.mp done
  have same := (updateAttempts_sameRegistry l _ _).trans (updateOutbox_sameRegistry update)
  split at done
  · cases done
  split at done
  · cases done
    exact same.trans (updateCommands_sameRegistry _ _ _)
  · cases done
    exact same

theorem rollbackSentAttempt_sameRegistry {policy : OutboxPolicy} {lease : OutboxLease}
    {attempt : AttemptRecord} {reason : String} {flag : Bool}
    (done : l.rollbackSentAttempt policy lease attempt reason now = .ok (flag, l')) :
    SameRegistry l l' := by
  unfold rollbackSentAttempt at done
  dsimp only at done
  split at done
  · cases done
  split at done
  · split at done
    · cases done
      exact .refl l
    split at done
    · cases done
      exact .refl l
    refine (updateAttempts_sameRegistry l (isAttempt attempt lease.requestKey .sent) fun row =>
      { row with sendResult := .notSent reason }).trans ?_
    split at done
    · obtain ⟨closed, terminal, done⟩ := bind_eq_ok_iff.mp done
      cases done
      exact terminalize_sameRegistry terminal
    split at done
    · obtain ⟨closed, terminal, done⟩ := bind_eq_ok_iff.mp done
      cases done
      exact terminalize_sameRegistry terminal
    · obtain ⟨delay, -, done⟩ := bind_eq_ok_iff.mp done
      obtain ⟨waiting, update, done⟩ := bind_eq_ok_iff.mp done
      cases done
      exact updateOutbox_sameRegistry update
  · cases done
    exact .refl l

theorem ingestAck_sameRegistry {success : Bool} {reason : Option String}
    {correlation : Option TmCorrelation} {receipt : AckResult}
    (done : l.ingestAck key success reason correlation now = .ok (receipt, l')) :
    SameRegistry l l' := by
  unfold ingestAck at done
  split at done
  · cases done
  split at done
  · cases done
    exact .refl l
  split at done
  · cases done
    exact .refl l
  split at done
  · obtain ⟨closed, terminal, done⟩ := bind_eq_ok_iff.mp done
    cases done
    exact terminalize_sameRegistry terminal
  · obtain ⟨acked, update, done⟩ := bind_eq_ok_iff.mp done
    cases done
    exact (updateOutbox_sameRegistry update).trans
      ((updateCommands_sameRegistry _ _ _).trans (updateAttempts_sameRegistry _ _ _))

theorem markAttemptNotSent_sameRegistry {attempt : AttemptRecord} {reason : String} {flag : Bool}
    (done : l.markAttemptNotSent attempt reason = .ok (flag, l')) : SameRegistry l l' := by
  unfold markAttemptNotSent at done
  split at done
  · cases done
  · cases done
    exact updateAttempts_sameRegistry l _ _

/-! ## The three ways of a transaction -/

/-- Issued keys, epoch, markers and the identities of the commands stay. -/
structure KeepsKeys (l l' : Ledger) : Prop where
  issued : ∀ key, l.Issued key → l'.Issued key
  epoch : ∀ epoch, l.epoch? = some epoch → l'.epoch? = some epoch
  retiredKeys : l'.retiredKeys = l.retiredKeys
  commands : ∀ k, (l'.commands.find? k).map CommandRow.identity =
    (l.commands.find? k).map CommandRow.identity

/-- A command is stored under a key that has not been issued, and its marker goes. -/
structure AdmitsKey (l l' : Ledger) (now : ℕ) (key : RequestKey) (c : CommandRow) : Prop where
  issued : ∀ key, l.Issued key → l'.Issued key
  epoch : ∀ epoch, l.epoch? = some epoch → l'.epoch? = some epoch
  ofEpoch : l.epoch? = some c.gdsInstallationEpoch
  fresh : ¬ l.Issued key
  issuedNow : l'.Issued key
  notLive : ∀ k live, l.commands.find? k = some live → live.marker ≠ c.marker
  runOut : ∀ row, l.retiredKeys.find? c.marker = some row → row.retainedUntilUs ≤ now
  retiredKeys : ∀ marker, l'.retiredKeys.find? marker =
    if marker = c.marker then none else l.retiredKeys.find? marker
  commands : ∀ k, l'.commands.find? k = if k = key then some c else l.commands.find? k

/-- A command goes, and its marker comes. -/
structure RetiresKey (l l' : Ledger) (key : RequestKey) (c : CommandRow) : Prop where
  issued : ∀ key, l.Issued key → l'.Issued key
  epoch : ∀ epoch, l.epoch? = some epoch → l'.epoch? = some epoch
  live : l.commands.find? key = some c
  commands : ∀ k, l'.commands.find? k = if k = key then none else l.commands.find? k
  retiredKeys : ∃ retainedUntil, ∀ marker, l'.retiredKeys.find? marker =
    if marker = c.marker then some ⟨c.httpDigest, key, retainedUntil⟩
    else l.retiredKeys.find? marker

theorem KeepsKeys.refl (l : Ledger) : KeepsKeys l l :=
  ⟨fun _ issued => issued, fun _ known => known, rfl, fun _ => rfl⟩

theorem Issues.keepsKeys (issues : Issues l l') : KeepsKeys l l' :=
  ⟨issues.issued, issues.epoch, issues.retiredKeys, fun _ => by rw [issues.commands]⟩

theorem Issues.sound (issues : Issues l l') (sound : l.Sound) : l'.Sound where
  paired k := by rw [issues.commands, issues.outbox, sound.paired]
  consistent k r here := by
    have before : l.request? k = some r := by
      rwa [request?, issues.commands, issues.outbox] at here
    exact sound.consistent k r before

/-- A change that adds no request and keeps the registry keeps the keys. -/
theorem SameRegistry.keepsKeys {op : LedgerOp} {result : Raises LedgerResult}
    (same : SameRegistry l l') (change : Change cfg l now op result l') (keys : SameKeys l l')
    (sound : l.Sound) : KeepsKeys l l' where
  issued key issued := by
    obtain ⟨row, stored, below⟩ := issued
    exact ⟨row, same.namespaces ▸ stored, below⟩
  epoch epoch known := same.epoch.trans known
  retiredKeys := same.retiredKeys
  commands k := by
    cases stored : l.commands.find? k with
    | none =>
        have absent := keys.commands k
        rw [stored, Option.isSome_none, Option.isSome_eq_false_iff, Option.isNone_iff_eq_none]
          at absent
        rw [absent]
    | some c =>
        obtain ⟨o, here⟩ := sound.request?_of_command stored
        obtain ⟨r', after, step⟩ := change.requests k _ here
        rw [(request?_eq_some_iff.mp after).1]
        exact congrArg some step.identity_eq

theorem rotateIfDrained_issues {draws : ℕ → U64} {state : AllocatorState}
    (done : l.rotateIfDrained draws now = .ok (state, l')) : Issues l l' := by
  obtain ⟨initial, initialized, rotated⟩ := bind_eq_ok_iff.mp done
  exact (initializeInTransaction_issues initialized).trans
    (rotateIfDrainedInTransaction_issues rotated)

/-- The transactions that neither admit nor initialize keep the registry. -/
theorem transact_sameRegistry {op : LedgerOp} {value : LedgerResult}
    (done : l.transact cfg now op = .ok (value, l')) (other : op.admission? = none)
    (initialized : ∀ draws, op ≠ .initializeKeys draws) : SameRegistry l l' := by
  cases op with
  | initializeKeys draws => exact absurd rfl (initialized draws)
  | admitCommand request => cases other
  | admitProductDownlink request => cases other
  | registerInstance binding =>
      obtain ⟨_, done, -⟩ := yields_eq_ok done
      exact registerInstance_sameRegistry done
  | bind current =>
      obtain ⟨_, done, -⟩ := yields_eq_ok done
      exact bind_sameRegistry done
  | setContactState target contact =>
      obtain ⟨_, done, -⟩ := yields_eq_ok done
      exact setContactState_sameRegistry done
  | reconcile =>
      obtain ⟨_, done, -⟩ := yields_eq_ok done
      exact reconcile_sameRegistry done
  | claim key? binding? owner =>
      obtain ⟨_, done, -⟩ := yields_eq_ok done
      exact claim_sameRegistry done
  | persistAttempt lease encodedTc apid frameSequence binding? =>
      obtain ⟨_, done, -⟩ := yields_eq_ok done
      exact persistAttempt_sameRegistry done
  | prepareAttempt lease profile binding? =>
      obtain ⟨_, done, -⟩ := yields_eq_ok done
      exact prepareAttempt_sameRegistry done
  | markSent lease attempt =>
      change yields (fun _ => .done) (l.markSent cfg.policy lease attempt now) = _ at done
      obtain ⟨_, done, -⟩ := yields_eq_ok done
      exact markSent_sameRegistry done
  | markNotSent lease attempt reason =>
      change yields (fun _ => .done) (l.markNotSent lease attempt reason now) = _ at done
      obtain ⟨_, done, -⟩ := yields_eq_ok done
      exact markNotSent_sameRegistry done
  | rollbackSentAttempt lease attempt reason =>
      obtain ⟨_, done, -⟩ := yields_eq_ok done
      exact rollbackSentAttempt_sameRegistry done
  | markAttemptNotSent attempt reason =>
      obtain ⟨_, done, -⟩ := yields_eq_ok done
      exact markAttemptNotSent_sameRegistry done
  | ingestAck key success reason correlation =>
      obtain ⟨_, done, -⟩ := yields_eq_ok done
      exact ingestAck_sameRegistry done

/-- Without a live command of the marker, none has it. -/
theorem findLive_eq_none {epoch : U64} {principal idempotencyKey : String}
    (absent : l.findLive epoch principal idempotencyKey = none) {k : RequestKey} {c : CommandRow}
    (stored : l.commands.find? k = some c) : c.marker ≠ (epoch, principal, idempotencyKey) := by
  intro same
  have differs := List.find?_eq_none.mp absent (k, c) (Table.mem_rows_iff.mpr stored)
  simp only [decide_eq_true_eq, CommandRow.marker, Prod.mk.injEq] at differs same
  exact differs same

/-- A live command that is found has the marker. -/
theorem findLive_eq_some {epoch : U64} {principal idempotencyKey : String}
    {found : RequestKey × CommandRow}
    (live : l.findLive epoch principal idempotencyKey = some found) :
    l.commands.find? found.1 = some found.2 ∧
      found.2.marker = (epoch, principal, idempotencyKey) := by
  have holds := List.find?_some live
  simp only [decide_eq_true_eq] at holds
  refine ⟨Table.mem_rows_iff.mp (List.mem_of_find?_eq_some live), ?_⟩
  rw [CommandRow.marker, holds.1, holds.2.1, holds.2.2]

/-- A marker that stands in the way neither was kept nor is left behind. -/
theorem checkRetiredKey_eq_ok {marker : Marker} {digest : Bytes}
    (done : l.checkRetiredKey marker digest now = .ok l') :
    (∀ row, l.retiredKeys.find? marker = some row → row.retainedUntilUs ≤ now) ∧
      l' = { l with retiredKeys := l'.retiredKeys } ∧
      ∀ other, l'.retiredKeys.find? other =
        if other = marker then none else l.retiredKeys.find? other := by
  unfold checkRetiredKey at done
  split at done
  · rename_i absent
    cases done
    refine ⟨fun row here => ?_, rfl, fun other => ?_⟩
    · rw [absent] at here
      cases here
    split
    · rename_i same
      rw [same, absent]
    · rfl
  rename_i row stored
  split at done
  · rename_i passed
    cases done
    refine ⟨fun other here => ?_, rfl, fun other => Table.find?_erase _ _ _⟩
    rw [stored] at here
    cases here
    exact passed
  · split at done <;> cases done

/-- The inserts of an admission touch the registry in the allocation only. -/
theorem insertRequest_registry {draws : ℕ → U64} {epoch : U64} {principal idempotencyKey : String}
    {semantic : SemanticIdempotency} {target : U64} {opcode : CommandOpcode} {expiry : ℕ}
    {contactAvailable : Bool} {admission : AdmissionResult}
    (done : l.insertRequest now draws epoch principal idempotencyKey semantic target opcode expiry
      contactAvailable = .ok (admission, l')) :
    ∃ allocated, allocateInTransaction draws now l = .ok (admission.requestKey, allocated) ∧
      SameRegistry allocated l' := by
  obtain ⟨⟨key, allocated⟩, allocate, done⟩ := bind_eq_ok_iff.mp done
  obtain ⟨arguments, -, done⟩ := bind_eq_ok_iff.mp done
  obtain ⟨digest, -, done⟩ := bind_eq_ok_iff.mp done
  simp only at done
  obtain ⟨withCommand, first, done⟩ := bind_eq_ok_iff.mp done
  obtain ⟨withOutbox, second, done⟩ := bind_eq_ok_iff.mp done
  cases done
  obtain ⟨commands, -, rfl⟩ := insertCommand_eq_ok first
  obtain ⟨outbox, -, rfl⟩ := insertOutbox_eq_ok second
  exact ⟨allocated, allocate, ⟨rfl, rfl, rfl⟩⟩

/-- A ledger with the registry of another has issued the same keys. -/
theorem SameRegistry.issued_iff (same : SameRegistry l l') : l'.Issued key ↔ l.Issued key := by
  rw [Issued, Issued, same.namespaces]

/-- **The ways of an admission**: it replays the live command of its marker, or stores a
new one. -/
theorem admitCommand_keys {capacity : ℕ} {request : AdmitRequest} {admission : AdmissionResult}
    (done : l.admitCommand capacity request now = .ok (admission, l')) :
    ∃ epoch, l.epoch? = some epoch ∧ ∃ c : CommandRow,
      c.marker = (epoch, request.principal, request.idempotencyKey) ∧
      c.httpDigest = request.semantic.digest ∧
      (l' = l ∧ l.commands.find? admission.requestKey = some c ∨
        AdmitsKey l l' now admission.requestKey c) := by
  obtain ⟨metadata, initialized, ways⟩ := admitCommand_cases done
  have known : l.epoch? = some metadata.gdsInstallationEpoch := by
    rw [epoch?, initialized]
    rfl
  refine ⟨metadata.gdsInstallationEpoch, known, ?_⟩
  rcases ways with ⟨key, c, o, live, same, -, rfl, rfl⟩ | ⟨kept, expiry, absent, checked, -, insert⟩
  · obtain ⟨stored, marker⟩ := findLive_eq_some live
    exact ⟨c, marker, same, .inl ⟨rfl, stored⟩⟩
  · obtain ⟨key, first, arguments, digest, allocate, -, -, admitted, rfl⟩ :=
      insertRequest_rows insert
    obtain ⟨allocated, allocate', registry⟩ := insertRequest_registry insert
    obtain rfl : first = allocated :=
      congrArg Prod.snd (Except.ok.inj (allocate.symm.trans allocate'))
    obtain ⟨runOut, keptEq, retiredKeys⟩ := checkRetiredKey_eq_ok checked
    obtain ⟨issues, fresh, issuedNow⟩ := allocateInTransaction_fresh allocate
    have sameEpoch : kept.epoch? = l.epoch? := by rw [keptEq, epoch?, epoch?]
    have sameIssued (k : RequestKey) : kept.Issued k ↔ l.Issued k := by
      rw [keptEq, Issued, Issued]
    have sameCommands : kept.commands = l.commands := by rw [keptEq]
    refine ⟨(admittedRequest now metadata.gdsInstallationEpoch request.principal
      request.idempotencyKey request.semantic request.targetSpacecraftInstanceId request.opcode
      expiry request.contactAvailable arguments digest).command, rfl, rfl, .inr
      { issued := fun k here => registry.issued_iff.mpr (issues.issued k ((sameIssued k).mpr here))
        epoch := fun epoch here => registry.epoch.trans (issues.epoch epoch (sameEpoch.trans here))
        ofEpoch := known
        fresh := fun issued => fresh ((sameIssued _).mpr issued)
        issuedNow := registry.issued_iff.mpr issuedNow
        notLive := fun k live stored => findLive_eq_none absent stored
        runOut := runOut
        retiredKeys := fun marker => ?_
        commands := fun k => ?_ }⟩
    · rw [registry.retiredKeys, issues.retiredKeys]
      exact retiredKeys marker
    · rw [admitted.commands, issues.commands, sameCommands]

/-- The command a retirement prunes has its marker from then on. -/
theorem retireTerminalCommand_eq_ok {retentionUs : ℤ} {retainedUntil : ℕ}
    (done : l.retireTerminalCommand key retentionUs now = .ok (retainedUntil, l')) :
    ∃ c, RetiresKey l l' key c ∧ l'.commands = l.commands.erase key ∧
      l'.outbox = l.outbox.erase key := by
  unfold retireTerminalCommand at done
  split at done
  · cases done
  split at done
  · cases done
  rename_i c stored
  split at done
  · cases done
  split at done
  · cases done
  split at done
  · cases done
  simp only at done
  split at done
  · cases done
  rename_i retiredKeys inserts
  cases done
  exact ⟨c, ⟨fun _ issued => issued, fun _ known => known, stored,
    fun k => Table.find?_erase _ _ _, ⟨_, Table.find?_insert inserts⟩⟩, rfl, rfl⟩

/-- A retirement keeps the ledger sound. -/
theorem Sound.of_erase (sound : l.Sound) (commands : l'.commands = l.commands.erase key)
    (outbox : l'.outbox = l.outbox.erase key) : l'.Sound where
  paired k := by
    rw [commands, outbox, Table.find?_erase, Table.find?_erase]
    split
    · rfl
    · exact sound.paired k
  consistent k r here := by
    obtain ⟨command, row⟩ := request?_eq_some_iff.mp here
    rw [commands, Table.find?_erase] at command
    rw [outbox, Table.find?_erase] at row
    split at command
    · cases command
    rename_i differs
    rw [if_neg differs] at row
    exact sound.consistent k r (request?_eq_some_iff.mpr ⟨command, row⟩)

/-! ## All transactions -/

/-- One of the three ways. -/
inductive KeyWay (l l' : Ledger) (now : ℕ) (op : RetentionOp) : Prop
  | keeps (keeps : KeepsKeys l l')
  | admits (request : AdmitRequest) (key : RequestKey) (c : CommandRow)
      (ofRequest : op = .ofAdmission request)
      (principal : c.principal = request.principal)
      (idempotencyKey : c.idempotencyKey = request.idempotencyKey)
      (admits : AdmitsKey l l' now key c)
  | retires (key : RequestKey) (c : CommandRow) (retires : RetiresKey l l' key c)

theorem retained_eq_ok {α : Type} {result : α → RetentionResult} {outcome : Raises (α × Ledger)}
    {value : RetentionResult × Ledger}
    (done : (outcome.map fun r => (result r.1, r.2)) = .ok value) :
    ∃ a, outcome = .ok (a, value.2) ∧ value.1 = result a := by
  cases outcome with
  | error failure => cases done
  | ok returned =>
      cases done
      exact ⟨returned.1, rfl, rfl⟩

/-- The ways of the transactions of callers. -/
theorem transact_ways {op : LedgerOp} {value : LedgerResult}
    (done : l.transact cfg now op = .ok (value, l')) (ofCaller : op.admitsDownlink = false)
    (sound : l.Sound) : KeyWay l l' now (.transact op ofCaller) := by
  have keeps (other : op.admission? = none) (initialized : ∀ draws, op ≠ .initializeKeys draws) :
      KeyWay l l' now (.transact op ofCaller) :=
    .keeps ((transact_sameRegistry done other initialized).keepsKeys (transact_change done sound)
      (transact_sameKeys done sound other) sound)
  cases op with
  | initializeKeys draws =>
      obtain ⟨_, done, -⟩ := yields_eq_ok done
      exact .keeps (initializeInTransaction_issues done).keepsKeys
  | admitCommand request =>
      obtain ⟨admission, done, -⟩ := yields_eq_ok done
      obtain ⟨epoch, -, c, marker, -, ways⟩ := admitCommand_keys done
      rcases ways with ⟨same, -⟩ | admits
      · exact .keeps (same ▸ .refl l)
      · simp only [CommandRow.marker, Prod.mk.injEq] at marker
        exact .admits request _ c rfl marker.2.1 marker.2.2 admits
  | admitProductDownlink request => cases ofCaller
  | _ => exact keeps rfl fun draws same => nomatch same

/-- **Every transaction goes one of the three ways**, and keeps the ledger sound. -/
theorem retain_ways {op : RetentionOp} {result : RetentionResult}
    (done : l.retain cfg now op = .ok (result, l')) (sound : l.Sound) :
    KeyWay l l' now op ∧ l'.Sound := by
  cases op with
  | transact op ofCaller =>
      obtain ⟨value, done, -⟩ := retained_eq_ok done
      exact ⟨transact_ways done ofCaller sound, (transact_change done sound).sound sound⟩
  | retire key retentionUs =>
      obtain ⟨retainedUntil, done, -⟩ := retained_eq_ok done
      obtain ⟨c, retires, commands, outbox⟩ := retireTerminalCommand_eq_ok done
      exact ⟨.retires key c retires, sound.of_erase commands outbox⟩
  | rotate draws =>
      obtain ⟨state, done, -⟩ := retained_eq_ok done
      have issues := rotateIfDrained_issues done
      exact ⟨.keeps issues.keepsKeys, issues.sound sound⟩
  | allocate draws =>
      obtain ⟨key, done, -⟩ := retained_eq_ok done
      have issues := (allocateInTransaction_fresh done).1
      exact ⟨.keeps issues.keepsKeys, issues.sound sound⟩

end Ledger

end CubeNano

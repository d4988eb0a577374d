import CubeNano.Gds.LedgerAdmissions

/-!
# Contact and the rows that wait for it

Three transactions change the recorded contact of a spacecraft: `register_instance`,
`bind` and `set_contact_state`.  The others read it at most, and they put a row where
only a change of contact moves it on (held, or sent without a deadline) only while
the contact of its target is not open.

## Main definitions

* `OutboxRow.stuck` — a row that only a change of contact moves on
* `Ledger.KeepsContact` — contact stays, and rows get stuck without contact only
* `LedgerOp.changesContact` — the three transactions

## Main statements

* `Ledger.transact_keepsContact` — every transaction but the three
-/

namespace CubeNano

/-- A row that is held, or sent without an acknowledgement deadline: neither a claim
nor a reconciliation moves it on before it expires. -/
def OutboxRow.stuck (o : OutboxRow) : Bool :=
  o.state = .heldNoContact || (o.state = .sent && o.ackDeadlineAtUs = none)

/-- The transactions that change the recorded contact. -/
def LedgerOp.changesContact : LedgerOp → Bool
  | .registerInstance _ | .bind _ | .setContactState _ _ => true
  | _ => false

namespace Ledger

variable {cfg : LedgerConfig} {l l' l'' : Ledger} {now : ℕ} {op : LedgerOp} {key : RequestKey}

/-- What a transaction makes of a row while contact stays as it is: the target is the
same, and the row gets stuck only while the contact of its target is not open. -/
structure WaitsForContact (l : Ledger) (o o' : OutboxRow) : Prop where
  target : o'.targetSpacecraftInstanceId = o.targetSpacecraftInstanceId
  stuck : o'.stuck = true → o.stuck = true ∨ l.contactOpen o.targetSpacecraftInstanceId = false

/-- Contact stays as it is, and rows get stuck only while the contact of their target
is not open. -/
structure KeepsContact (l l' : Ledger) : Prop where
  instances : l'.instances = l.instances
  rows : ∀ k r, l.request? k = some r →
    ∃ r', l'.request? k = some r' ∧ WaitsForContact l r.outbox r'.outbox

theorem contactOpen_congr (same : l'.instances = l.instances) (target : U64) :
    l'.contactOpen target = l.contactOpen target := by
  rw [contactOpen, same]
  rfl

/-- A terminal row is not stuck. -/
theorem not_stuck_of_terminal {o : OutboxRow} (ended : o.state.nonterminal = false) :
    o.stuck = false := by
  rw [Bool.eq_false_iff]
  intro stuck
  rcases Bool.or_eq_true_iff.mp stuck with held | sent
  · rw [of_decide_eq_true held] at ended
    cases ended
  · rw [of_decide_eq_true (Bool.and_eq_true_iff.mp sent).1] at ended
    cases ended

/-- A row waits held only without contact. -/
theorem contact_of_waitingState {mode : DeliveryMode} {contactOpen : Bool}
    (held : waitingState mode contactOpen = .heldNoContact) : contactOpen = false := by
  unfold waitingState at held
  split at held
  · rename_i both
    exact both.2
  · cases held

theorem waitingState_ne_sent (mode : DeliveryMode) (contactOpen : Bool) :
    waitingState mode contactOpen ≠ .sent := by
  unfold waitingState
  split <;> exact nofun

/-- A waiting row is stuck only without contact. -/
theorem contact_of_stuck {mode : DeliveryMode} {contactOpen : Bool} {o : OutboxRow}
    (waits : o.state = waitingState mode contactOpen) (stuck : o.stuck = true) :
    contactOpen = false := by
  rcases Bool.or_eq_true_iff.mp stuck with held | sent
  · exact contact_of_waitingState (waits.symm.trans (of_decide_eq_true held))
  · have isSent := of_decide_eq_true (Bool.and_eq_true_iff.mp sent).1
    exact absurd (waits.symm.trans isSent) (waitingState_ne_sent mode contactOpen)

namespace WaitsForContact

theorem refl (o : OutboxRow) : WaitsForContact l o o := ⟨rfl, .inl⟩

/-- A row that is not stuck afterwards. -/
theorem of_not_stuck {o o' : OutboxRow}
    (target : o'.targetSpacecraftInstanceId = o.targetSpacecraftInstanceId)
    (free : o'.stuck = false) : WaitsForContact l o o' :=
  ⟨target, fun stuck => by rw [free] at stuck; cases stuck⟩

/-- A row that goes back to waiting, as contact tells. -/
theorem of_waitingState {o o' : OutboxRow} {mode : DeliveryMode}
    (target : o'.targetSpacecraftInstanceId = o.targetSpacecraftInstanceId)
    (waits : o'.state = waitingState mode (l.contactOpen o.targetSpacecraftInstanceId)) :
    WaitsForContact l o o' :=
  ⟨target, fun stuck => .inr (contact_of_stuck waits stuck)⟩

end WaitsForContact

namespace KeepsContact

/-- Statements on other tables. -/
theorem of_eq (commands : l'.commands = l.commands) (outbox : l'.outbox = l.outbox)
    (instances : l'.instances = l.instances) : KeepsContact l l' :=
  ⟨instances, fun k r here =>
    ⟨r, (request?_congr commands outbox k).trans here, .refl r.outbox⟩⟩

theorem refl (l : Ledger) : KeepsContact l l := of_eq rfl rfl rfl

theorem trans (first : KeepsContact l l') (second : KeepsContact l' l'') :
    KeepsContact l l'' := by
  refine ⟨second.instances.trans first.instances, fun k r here => ?_⟩
  obtain ⟨r', here', row⟩ := first.rows k r here
  obtain ⟨r'', here'', row'⟩ := second.rows k r' here'
  refine ⟨r'', here'', row'.target.trans row.target, fun stuck => ?_⟩
  rcases row'.stuck stuck with before | closed
  · exact row.stuck before
  · rw [contactOpen_congr first.instances, row.target] at closed
    exact .inr closed

/-- A change of one request. -/
theorem of_only (only : OnlyRequest l l' key)
    (row : ∀ r, l.request? key = some r →
      ∃ r', l'.request? key = some r' ∧ WaitsForContact l r.outbox r'.outbox) :
    KeepsContact l l' := by
  refine ⟨only.instances, fun k r here => ?_⟩
  by_cases same : k = key
  · subst same
    exact row r here
  · exact ⟨r, only.others k same r here, .refl r.outbox⟩

/-- One new request. -/
theorem of_admitted {r : Request} (admitted : Admitted l l' key r)
    (instances : l'.instances = l.instances) : KeepsContact l l' := by
  refine ⟨instances, fun k r' here => ⟨r', ?_, .refl r'.outbox⟩⟩
  obtain ⟨command, outbox⟩ := request?_eq_some_iff.mp here
  have differs : k ≠ key := by
    rintro rfl
    rw [admitted.newCommand] at command
    cases command
  refine request?_eq_some_iff.mpr ⟨?_, ?_⟩
  · rw [admitted.commands, if_neg differs, command]
  · rw [admitted.outbox, if_neg differs, outbox]

end KeepsContact

/-! ## Statements -/

/-- An update of one outbox row. -/
theorem updateOutboxRow_keepsContact {selects : OutboxRow → Bool}
    {assign : OutboxRow → OutboxRow} (done : l.updateOutboxRow key selects assign = .ok l')
    (row : ∀ r, l.request? key = some r → selects r.outbox = true →
      WaitsForContact l r.outbox (assign r.outbox)) : KeepsContact l l' := by
  obtain ⟨only, at_⟩ := updateOutboxRow_cases done
  refine .of_only only fun r here => ?_
  cases which : selects r.outbox with
  | true => exact ⟨_, (at_ r here).1 which, row r here which⟩
  | false => exact ⟨_, (at_ r here).2 which, .refl r.outbox⟩

/-- An update of commands leaves the outbox alone. -/
theorem updateCommand_keepsContact (l : Ledger) (key : RequestKey)
    (selects : CommandRow → Bool) (assign : CommandRow → CommandRow) :
    KeepsContact l (l.updateCommand key selects assign) := by
  obtain ⟨only, at_⟩ := updateCommand_cases l key selects assign
  refine .of_only only fun r here => ?_
  cases which : selects r.command with
  | true => exact ⟨_, (at_ r here).1 which, .refl r.outbox⟩
  | false => exact ⟨_, (at_ r here).2 which, .refl r.outbox⟩

theorem updateAttempts_keepsContact (l : Ledger) (selects : ℕ → AttemptRow → Bool)
    (assign : AttemptRow → AttemptRow) : KeepsContact l (l.updateAttempts selects assign) :=
  .of_eq rfl rfl rfl

theorem terminalize_keepsContact {state : OutboxState} {reason : String}
    (done : l.terminalize key state reason now = .ok l') (ended : state.nonterminal = false) :
    KeepsContact l l' := by
  obtain ⟨closed, update, done⟩ := bind_eq_ok_iff.mp done
  cases done
  refine KeepsContact.trans ?_ (updateCommand_keepsContact closed key _ _)
  exact updateOutboxRow_keepsContact update fun r _ _ =>
    .of_not_stuck rfl (not_stuck_of_terminal ended)

/-! ## The other transactions -/

/-- The body of the loop of `reconcile`, on a row that was read with its contact. -/
theorem reconcileRow_keepsContact {policy : OutboxPolicy} {row : ReconcileRow}
    {acc acc' : ReconcileReport × Ledger} (done : reconcileRow policy now row acc = .ok acc')
    (contact : ∀ r, acc.2.request? row.key = some r →
      row.contactOpen = acc.2.contactOpen r.outbox.targetSpacecraftInstanceId) :
    KeepsContact acc.2 acc'.2 := by
  unfold reconcileRow at done
  simp only at done
  split at done
  · obtain ⟨ended, terminal, done⟩ := bind_eq_ok_iff.mp done
    cases done
    exact terminalize_keepsContact terminal rfl
  split at done
  · split at done
    · obtain ⟨ended, terminal, done⟩ := bind_eq_ok_iff.mp done
      cases done
      exact terminalize_keepsContact terminal rfl
    · obtain ⟨recovered, update, done⟩ := bind_eq_ok_iff.mp done
      cases done
      refine updateOutboxRow_keepsContact update fun r here _ => ?_
      exact .of_waitingState rfl (by rw [← contact r here]; rfl)
  split at done
  · split at done
    · obtain ⟨ended, terminal, done⟩ := bind_eq_ok_iff.mp done
      cases done
      exact terminalize_keepsContact terminal rfl
    split at done
    · obtain ⟨ended, terminal, done⟩ := bind_eq_ok_iff.mp done
      cases done
      exact terminalize_keepsContact terminal rfl
    · obtain ⟨delay, -, done⟩ := bind_eq_ok_iff.mp done
      obtain ⟨retried, update, done⟩ := bind_eq_ok_iff.mp done
      cases done
      refine updateOutboxRow_keepsContact update fun r here _ => ?_
      exact .of_waitingState rfl (by rw [← contact r here]; rfl)
  · cases done
    exact .refl _

/-- The loop of `reconcile` over rows that `l` holds with their contact. -/
theorem reconcileRows_keepsContact {policy : OutboxPolicy} {rows : List ReconcileRow}
    {acc acc' : ReconcileReport × Ledger}
    (done : rows.foldlM (fun acc row => reconcileRow policy now row acc) acc = .ok acc')
    (read : ∀ row ∈ rows, ∃ r, l.request? row.key = some r ∧
      row.contactOpen = l.contactOpen r.outbox.targetSpacecraftInstanceId)
    (before : KeepsContact l acc.2) : KeepsContact l acc'.2 := by
  induction rows generalizing acc with
  | nil =>
      cases done
      exact before
  | cons row rest ih =>
      rw [List.foldlM_cons] at done
      obtain ⟨next, first, done⟩ := bind_eq_ok_iff.mp done
      refine ih done (fun later mem => read later (.tail row mem)) (before.trans ?_)
      refine reconcileRow_keepsContact first fun r' here' => ?_
      obtain ⟨r, here, contact⟩ := read row (.head rest)
      obtain ⟨r'', here'', same⟩ := before.rows _ r here
      obtain rfl := Option.some.inj (here'.symm.trans here'')
      rw [contact, same.target, contactOpen_congr before.instances]

theorem reconcile_keepsContact {policy : OutboxPolicy} {report : ReconcileReport}
    (done : l.reconcile policy now = .ok (report, l')) : KeepsContact l l' := by
  refine reconcileRows_keepsContact done (fun row mem => ?_) (.refl l)
  obtain ⟨c, here, -, -, contact⟩ := mem_reconcileRows mem
  exact ⟨_, here, contact⟩

theorem claim_keepsContact {policy : OutboxPolicy} {key? : Option RequestKey}
    {binding? : Option LinkBinding} {owner : String} {lease? : Option OutboxLease}
    (done : l.claim policy key? binding? owner now = .ok (lease?, l')) : KeepsContact l l' := by
  rcases claim_eq_ok done with ⟨-, rfl⟩ | ⟨lease, c, o, -, -, -, -, -, update⟩
  · exact .refl _
  · exact updateOutboxRow_keepsContact update fun r _ _ => .of_not_stuck rfl rfl

/-- The count of an attempt keeps a leased row leased. -/
theorem insertLeasedAttempt_keepsContact {row : AttemptRow} {selects : OutboxRow → Bool}
    {inserted : ℕ × Ledger} (done : l.insertLeasedAttempt row selects now = .ok inserted)
    (leased : ∀ o, selects o = true → o.state = .dispatching) : KeepsContact l inserted.2 := by
  obtain ⟨first, insert, done⟩ := bind_eq_ok_iff.mp done
  obtain ⟨counted, update, done⟩ := bind_eq_ok_iff.mp done
  cases done
  obtain ⟨attempts, -, same⟩ := insertAttempt_eq_ok insert
  have added : KeepsContact l first.2 := by
    rw [same]
    exact .of_eq rfl rfl rfl
  refine added.trans (updateOutboxRow_keepsContact update fun r _ selected => ?_)
  refine .of_not_stuck rfl ?_
  simp [OutboxRow.stuck, OutboxRow.countedTo, leased _ selected]

theorem persistAttempt_keepsContact {policy : OutboxPolicy} {lease : OutboxLease}
    {encodedTc : Bytes} {apid frameSequence : ℕ} {binding? : Option LinkBinding}
    {attempt : AttemptRecord}
    (done : l.persistAttempt policy lease encodedTc apid frameSequence binding? now =
      .ok (attempt, l')) : KeepsContact l l' := by
  unfold persistAttempt at done
  split at done
  · cases done
  split at done
  · cases done
  obtain ⟨o, -, done⟩ := bind_eq_ok_iff.mp done
  obtain ⟨allocation, allocated, done⟩ := bind_eq_ok_iff.mp done
  obtain ⟨inserted, insert, done⟩ := bind_eq_ok_iff.mp done
  cases done
  obtain ⟨sequences, same⟩ := allocateSequence_eq_ok allocated
  have numbered : KeepsContact l allocation.2 := by
    rw [same]
    exact .of_eq rfl rfl rfl
  refine numbered.trans (insertLeasedAttempt_keepsContact insert fun o selected => ?_)
  exact of_decide_eq_true (Bool.and_eq_true_iff.mp selected).1

theorem prepareAttempt_keepsContact {policy : OutboxPolicy} {lease : OutboxLease}
    {profile : TcWireProfile} {binding? : Option LinkBinding} {attempt : AttemptRecord}
    (done : l.prepareAttempt policy lease profile binding? now = .ok (attempt, l')) :
    KeepsContact l l' := by
  unfold prepareAttempt at done
  split at done
  · cases done
  obtain ⟨o, -, done⟩ := bind_eq_ok_iff.mp done
  obtain ⟨allocation, allocated, done⟩ := bind_eq_ok_iff.mp done
  obtain ⟨encodedTc, -, done⟩ := bind_eq_ok_iff.mp done
  obtain ⟨inserted, insert, done⟩ := bind_eq_ok_iff.mp done
  split at done
  · cases done
  cases done
  obtain ⟨sequences, same⟩ := allocateSequence_eq_ok allocated
  have numbered : KeepsContact l allocation.2 := by
    rw [same]
    exact .of_eq rfl rfl rfl
  exact numbered.trans (insertLeasedAttempt_keepsContact insert fun o selected =>
    (heldBy_iff.mp selected).1)

/-- A row marked sent has a deadline. -/
theorem markSent_keepsContact {policy : OutboxPolicy} {lease : OutboxLease}
    {attempt : AttemptRecord} (done : l.markSent policy lease attempt now = .ok ((), l')) :
    KeepsContact l l' := by
  obtain ⟨armed, update, done⟩ := bind_eq_ok_iff.mp done
  split at done
  · cases done
  split at done
  · cases done
  cases done
  refine KeepsContact.trans ?_ (updateAttempts_keepsContact armed _ _)
  refine updateOutboxRow_keepsContact update fun r _ _ => .of_not_stuck rfl ?_
  simp [OutboxRow.stuck, OutboxRow.sentAt]

/-- A row marked not sent is pending or expired. -/
theorem markNotSent_keepsContact {lease : OutboxLease} {attempt : AttemptRecord}
    {reason : String} (done : l.markNotSent lease attempt reason now = .ok ((), l')) :
    KeepsContact l l' := by
  unfold markNotSent at done
  split at done
  · cases done
  split at done
  · cases done
  obtain ⟨released, update, done⟩ := bind_eq_ok_iff.mp done
  have row : KeepsContact l released := by
    refine (updateAttempts_keepsContact l _ _).trans
      (updateOutboxRow_keepsContact update fun r _ _ => .of_not_stuck rfl ?_)
    by_cases due : r.outbox.expiresAtUs ≤ now <;> simp [OutboxRow.stuck, OutboxRow.notSentAt, due]
  split at done
  · cases done
  split at done
  · cases done
    exact row.trans (updateCommand_keepsContact released _ _ _)
  · cases done
    exact row

/-- A rolled back row waits as contact tells, or has ended. -/
theorem rollbackSentAttempt_keepsContact {policy : OutboxPolicy} {lease : OutboxLease}
    {attempt : AttemptRecord} {reason : String} {flag : Bool}
    (done : l.rollbackSentAttempt policy lease attempt reason now = .ok (flag, l')) :
    KeepsContact l l' := by
  unfold rollbackSentAttempt at done
  simp only at done
  split at done
  · cases done
  split at done
  · rename_i o c outbox command
    split at done
    · cases done
      exact .refl l
    split at done
    · cases done
      exact .refl l
    split at done
    · obtain ⟨ended, terminal, done⟩ := bind_eq_ok_iff.mp done
      cases done
      exact (updateAttempts_keepsContact l _ _).trans (terminalize_keepsContact terminal rfl)
    split at done
    · obtain ⟨ended, terminal, done⟩ := bind_eq_ok_iff.mp done
      cases done
      exact (updateAttempts_keepsContact l _ _).trans (terminalize_keepsContact terminal rfl)
    · obtain ⟨delay, -, done⟩ := bind_eq_ok_iff.mp done
      obtain ⟨rolledBack, update, done⟩ := bind_eq_ok_iff.mp done
      cases done
      refine (updateAttempts_keepsContact l _ _).trans
        (updateOutboxRow_keepsContact update fun r here _ => ?_)
      obtain rfl : o = r.outbox :=
        Option.some.inj (outbox.symm.trans (request?_eq_some_iff.mp here).2)
      exact .of_waitingState rfl rfl
  · cases done
    exact .refl l

theorem ingestAck_keepsContact {success : Bool} {reason : Option String}
    {correlation : Option TmCorrelation} {receipt : AckResult}
    (done : l.ingestAck key success reason correlation now = .ok (receipt, l')) :
    KeepsContact l l' := by
  unfold ingestAck at done
  split at done
  · cases done
  split at done
  · cases done
    exact .refl l
  split at done
  · cases done
    exact .refl l
  split at done
  · obtain ⟨ended, terminal, done⟩ := bind_eq_ok_iff.mp done
    cases done
    exact terminalize_keepsContact terminal rfl
  · obtain ⟨acked, update, done⟩ := bind_eq_ok_iff.mp done
    cases done
    refine KeepsContact.trans ?_ (updateAttempts_keepsContact _ _ _)
    refine KeepsContact.trans ?_ (updateCommand_keepsContact acked key (fun _ => true)
      (CommandRow.closedAt .acked now))
    exact updateOutboxRow_keepsContact update fun r _ _ => .of_not_stuck rfl rfl

/-! ## Admissions -/

theorem initializeInTransaction_instances {draws : ℕ → U64} {state : AllocatorState}
    (done : initializeInTransaction draws now l = .ok (state, l')) :
    l'.instances = l.instances := by
  unfold initializeInTransaction at done
  split at done
  · split at done
    · cases done
    · obtain ⟨epoch, -, done⟩ := bind_eq_ok_iff.mp done
      obtain ⟨ground, -, done⟩ := bind_eq_ok_iff.mp done
      cases done
      rfl
  · split at done
    · cases done
    split at done
    · cases done
    split at done
    · cases done
    split at done
    · cases done
    · cases done
      rfl

theorem rotateIfDrainedInTransaction_instances {draws : ℕ → U64} {state state' : AllocatorState}
    (done : rotateIfDrainedInTransaction draws now state l = .ok (state', l')) :
    l'.instances = l.instances := by
  unfold rotateIfDrainedInTransaction at done
  split at done
  · cases done
    rfl
  split at done
  · cases done
  obtain ⟨ground, -, done⟩ := bind_eq_ok_iff.mp done
  split at done
  · cases done
  split at done
  · cases done
  split at done
  · cases done
  · cases done
    rfl

theorem allocateInTransaction_instances {draws : ℕ → U64}
    (done : allocateInTransaction draws now l = .ok (key, l')) : l'.instances = l.instances := by
  obtain ⟨⟨state, first⟩, initialized, done⟩ := bind_eq_ok_iff.mp done
  obtain ⟨⟨state', second⟩, rotated, done⟩ := bind_eq_ok_iff.mp done
  have start := initializeInTransaction_instances initialized
  have rotation : second.instances = first.instances := by
    split at rotated
    · exact rotateIfDrainedInTransaction_instances rotated
    · cases rotated
      rfl
  simp only at done
  split at done
  · split at done
    · cases done
    split at done
    · cases done
    · cases done
      exact rotation.trans start
  · cases done

theorem insertRequest_instances {draws : ℕ → U64} {epoch : U64} {principal idempotencyKey : String}
    {semantic : SemanticIdempotency} {target : U64} {opcode : CommandOpcode} {expiry : ℕ}
    {contactAvailable : Bool} {admission : AdmissionResult}
    (done : l.insertRequest now draws epoch principal idempotencyKey semantic target opcode expiry
      contactAvailable = .ok (admission, l')) : l'.instances = l.instances := by
  obtain ⟨⟨key, allocated⟩, allocate, done⟩ := bind_eq_ok_iff.mp done
  obtain ⟨arguments, -, done⟩ := bind_eq_ok_iff.mp done
  obtain ⟨digest, -, done⟩ := bind_eq_ok_iff.mp done
  simp only at done
  obtain ⟨withCommand, first, done⟩ := bind_eq_ok_iff.mp done
  obtain ⟨withOutbox, second, done⟩ := bind_eq_ok_iff.mp done
  cases done
  obtain ⟨commands, -, rfl⟩ := insertCommand_eq_ok first
  obtain ⟨outbox, -, rfl⟩ := insertOutbox_eq_ok second
  have same := allocateInTransaction_instances allocate
  exact same

theorem checkRetiredKey_instances {marker : U64 × String × String} {digest : Bytes}
    (done : l.checkRetiredKey marker digest now = .ok l') : l'.instances = l.instances := by
  unfold checkRetiredKey at done
  split at done
  · cases done
    rfl
  split at done
  · cases done
    rfl
  split at done <;> cases done

theorem insertDownlink_instances {row : DownlinkRow}
    (done : l.insertDownlink key row = .ok l') : l'.instances = l.instances := by
  unfold insertDownlink at done
  split at done
  · cases done
  split at done
  · cases done
  · cases done
    rfl

theorem admitCommand_keepsContact {capacity : ℕ} {request : AdmitRequest}
    {admission : AdmissionResult}
    (done : l.admitCommand capacity request now = .ok (admission, l')) : KeepsContact l l' := by
  obtain ⟨metadata, -, cases⟩ := admitCommand_cases done
  rcases cases with ⟨_, _, _, -, -, -, -, rfl⟩ | ⟨kept, expiry, -, retired, reachable, insert⟩
  · exact .refl _
  · obtain ⟨r, admitted, -⟩ := insertRequest_admitted insert reachable
    exact .of_admitted (admitted.of_records (checkRetiredKey_frame retired) (.refl _))
      ((insertRequest_instances insert).trans (checkRetiredKey_instances retired))

theorem admitProductDownlink_keepsContact {capacity : ℕ} {request : DownlinkRequest}
    {admission : AdmissionResult}
    (done : l.admitProductDownlink capacity request now = .ok (admission, l')) :
    KeepsContact l l' := by
  rcases admitProductDownlink_cases done with rfl | ⟨ordinal, done⟩
  · exact .refl _
  · obtain ⟨metadata, expiry, admitted, -, reachable, insert, record⟩ :=
      admitNewDownlink_inserts done
    obtain ⟨r, inserted, -⟩ := insertRequest_admitted insert reachable
    exact .of_admitted (inserted.of_records (.refl _) (insertDownlink_frame record))
      ((insertDownlink_instances record).trans (insertRequest_instances insert))

/-- **Most transactions keep contact.**  Every transaction but the three that change the
recorded contact leaves it alone, and lets rows get stuck only without contact. -/
theorem transact_keepsContact {value : LedgerResult}
    (done : l.transact cfg now op = .ok (value, l')) (other : op.changesContact = false) :
    KeepsContact l l' := by
  cases op with
  | initializeKeys draws =>
      obtain ⟨_, done, -⟩ := yields_eq_ok done
      have records := initializeInTransaction_frame done
      exact .of_eq records.commands records.outbox (initializeInTransaction_instances done)
  | admitCommand request =>
      obtain ⟨_, done, -⟩ := yields_eq_ok done
      exact admitCommand_keepsContact done
  | admitProductDownlink request =>
      obtain ⟨_, done, -⟩ := yields_eq_ok done
      exact admitProductDownlink_keepsContact done
  | registerInstance binding => cases other
  | bind current => cases other
  | setContactState target contact => cases other
  | reconcile =>
      obtain ⟨_, done, -⟩ := yields_eq_ok done
      exact reconcile_keepsContact done
  | claim key? binding? owner =>
      obtain ⟨lease?, done, rfl⟩ := yields_eq_ok done
      exact claim_keepsContact done
  | persistAttempt lease encodedTc apid frameSequence binding? =>
      obtain ⟨_, done, -⟩ := yields_eq_ok done
      exact persistAttempt_keepsContact done
  | prepareAttempt lease profile binding? =>
      obtain ⟨_, done, -⟩ := yields_eq_ok done
      exact prepareAttempt_keepsContact done
  | markSent lease attempt =>
      change yields (fun _ => .done) (l.markSent cfg.policy lease attempt now) = _ at done
      obtain ⟨_, done, -⟩ := yields_eq_ok done
      exact markSent_keepsContact done
  | markNotSent lease attempt reason =>
      change yields (fun _ => .done) (l.markNotSent lease attempt reason now) = _ at done
      obtain ⟨_, done, -⟩ := yields_eq_ok done
      exact markNotSent_keepsContact done
  | rollbackSentAttempt lease attempt reason =>
      obtain ⟨_, done, -⟩ := yields_eq_ok done
      exact rollbackSentAttempt_keepsContact done
  | markAttemptNotSent attempt reason =>
      obtain ⟨_, done, -⟩ := yields_eq_ok done
      unfold markAttemptNotSent at done
      split at done
      · cases done
      · cases done
        exact updateAttempts_keepsContact l _ _
  | ingestAck key success reason correlation =>
      obtain ⟨_, done, -⟩ := yields_eq_ok done
      exact ingestAck_keepsContact done

end Ledger

end CubeNano

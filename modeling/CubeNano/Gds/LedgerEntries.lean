import CubeNano.Gds.DispatchRefinement

/-!
# Requests and attempts of the ledger machine

The remaining transactions, bindings and admissions, and the summary: every step of
`gdsMachine` moves the requests by `RequestStep` and the attempts by
`AttemptStep`, adds at most fresh requests and newly numbered attempts, and keeps
the ledger sound.

## Main definitions

* `Ledger.Admitted` — a ledger with one new request
* `Ledger.Regular` — attempts belong to requests and are numbered within their counts
* `requestEntries`, `attemptEntries` — requests and attempts as entries of the machine

## Main statements

* `Ledger.transact_change` — every transaction is a change
* `Ledger.Change.sound` — a change keeps the ledger sound
* `gdsMachine_regular` — every reachable ledger is regular
-/

namespace CubeNano

namespace Ledger

variable {cfg : LedgerConfig} {l l' : Ledger} {now : ℕ} {op : LedgerOp}
  {result : Raises LedgerResult} {key : RequestKey}

/-! ## Bindings -/

theorem publishBinding_eq_ok {metadata : MetadataRow} {current : LinkBinding}
    (done : l.publishBinding metadata current now = .ok l') :
    l'.commands = l.commands ∧ l'.outbox = l.outbox ∧ l'.attempts = l.attempts := by
  obtain ⟨published, upsert, done⟩ := bind_eq_ok_iff.mp done
  cases done
  obtain ⟨instances, rfl⟩ := upsertInstance_eq_ok upsert
  exact ⟨rfl, rfl, rfl⟩

/-- A ledger with the same commands, outbox rows and attempts moves like the other. -/
theorem Moves.congr {after : Ledger} (moves : Moves cfg l now op result l')
    (same : after.commands = l'.commands ∧ after.outbox = l'.outbox ∧
      after.attempts = l'.attempts) : Moves cfg l now op result after where
  keys := moves.keys.trans (.of_eq same.1 same.2.1)
  requests k r consistent here := by
    rw [request?_congr same.1 same.2.1]
    exact moves.requests k r consistent here
  attempts id := by
    rw [same.2.2]
    exact moves.attempts id

/-- A new session puts the nonterminal rows of its spacecraft back to pending. -/
theorem rebindRows_moves {metadata : MetadataRow} {previous current : LinkBinding}
    (done : l.rebindRows previous.spacecraftInstanceId now = .ok l')
    (initialized : l.metadata = some metadata)
    (bound : l.previousBinding metadata = some previous) (differs : previous ≠ current)
    (same : previous.spacecraftInstanceId = current.spacecraftInstanceId) :
    Moves cfg l now (.bind current) result l' := by
  obtain ⟨rebound, update, done⟩ := bind_eq_ok_iff.mp done
  cases done
  have rebind := outboxUpdate_of_ok update
  refine ⟨rebind.keys.trans (.of_eq rfl rfl), fun k r _ here => ?_, ?_⟩
  · change ∃ r', rebound.request? k = some r' ∧ _
    rcases rebind.cases here with ⟨selected, inRebound⟩ | ⟨-, inRebound⟩
    · simp only [Bool.and_eq_true, decide_eq_true_eq] at selected
      exact ⟨_, inRebound, .waits selected.2 ⟨rfl, rfl⟩ (.inr rfl) rfl rfl fun _ => .inr
        ⟨metadata, previous, initialized, bound, differs, same, selected.1⟩⟩
    · exact ⟨_, inRebound, .idle⟩
  · exact attemptsMove_updateAttempts rebind.attempts fun id a _ =>
      attemptStep_notSent id a "REBIND"

/-- A retirement fails the nonterminal rows of its spacecraft with their commands. -/
theorem retireInstance_moves {old : U64} (done : l.retireInstance old now = .ok l') :
    Moves cfg l now op result l' := by
  obtain ⟨failed, update, done⟩ := bind_eq_ok_iff.mp done
  obtain ⟨instances, rfl⟩ := updateInstance_eq_ok done
  have fail := outboxUpdate_of_ok update
  have closing : AttemptsMove l now op (failed.updateAttempts
      (fun _ row => row.targetSpacecraftInstanceId = old && row.sendResult = .persistedNotSent)
      fun row => { row with sendResult := .notSent "REBIND" }) :=
    attemptsMove_updateAttempts fail.attempts fun id a _ => attemptStep_notSent id a "REBIND"
  have moved : Moves cfg l now op result _ :=
    closeCommands_moves old "TARGET_INSTANCE_RETIRED" closing
      ⟨fail.keys.commands, fail.keys.outbox⟩ fun k r _ here => by
        rcases fail.cases here with ⟨selected, inFailed⟩ | ⟨-, inFailed⟩
        · simp only [retiredRows, Bool.and_eq_true, decide_eq_true_eq] at selected
          exact .inl ⟨selected.1, selected.2, inFailed⟩
        · exact .inr ⟨_, inFailed, .idle⟩
  exact moved.congr ⟨rfl, rfl, rfl⟩

theorem bind_moves {current : LinkBinding} {migration : BindingMigration}
    (done : l.bind current now = .ok (migration, l')) :
    Moves cfg l now (.bind current) result l' := by
  unfold bind at done
  split at done
  · cases done
  rename_i metadata initialized
  obtain ⟨_, -, done⟩ := bind_eq_ok_iff.mp done
  split at done
  · obtain ⟨published, publish, done⟩ := bind_eq_ok_iff.mp done
    cases done
    obtain ⟨commands, outbox, attempts⟩ := publishBinding_eq_ok publish
    exact moves_of_eq commands outbox attempts
  rename_i previous bound
  split at done
  · cases done
  split at done
  · obtain ⟨published, publish, done⟩ := bind_eq_ok_iff.mp done
    cases done
    obtain ⟨commands, outbox, attempts⟩ := publishBinding_eq_ok publish
    exact moves_of_eq commands outbox attempts
  rename_i differs
  split at done
  · rename_i same
    obtain ⟨rebound, rebind, done⟩ := bind_eq_ok_iff.mp done
    obtain ⟨published, publish, done⟩ := bind_eq_ok_iff.mp done
    cases done
    exact (rebindRows_moves rebind initialized bound differs same).congr
      (publishBinding_eq_ok publish)
  · obtain ⟨retired, retire, done⟩ := bind_eq_ok_iff.mp done
    obtain ⟨published, publish, done⟩ := bind_eq_ok_iff.mp done
    cases done
    exact (retireInstance_moves retire).congr (publishBinding_eq_ok publish)

/-! ## Admissions -/

/-- The ledger with one new request. -/
structure Admitted (l l' : Ledger) (key : RequestKey) (r : Request) : Prop where
  newCommand : l.commands.find? key = none
  newOutbox : l.outbox.find? key = none
  commands : ∀ k, l'.commands.find? k = if k = key then some r.command else l.commands.find? k
  outbox : ∀ k, l'.outbox.find? k = if k = key then some r.outbox else l.outbox.find? k
  attempts : l'.attempts = l.attempts

theorem Admitted.change {r : Request} (admitted : Admitted l l' key r) (fresh : r.Fresh)
    (sound : l.Sound) : Change cfg l now op result l' := by
  have other {k : RequestKey} (differs : k ≠ key) : l'.request? k = l.request? k := by
    unfold request?
    rw [admitted.commands, admitted.outbox, if_neg differs, if_neg differs]
  refine ⟨fun k => ?_, fun k r' here => ?_, fun k r' before after => ?_, fun id a stored => ?_,
    fun id a before after => ?_⟩
  · rw [admitted.commands, admitted.outbox]
    split
    · rfl
    · exact sound.paired k
  · have differs : k ≠ key := by
      rintro rfl
      have stored := (request?_eq_some_iff.mp here).1
      rw [admitted.newCommand] at stored
      cases stored
    exact ⟨r', (other differs).trans here, .idle⟩
  · by_cases same : k = key
    · obtain ⟨command, outbox⟩ := request?_eq_some_iff.mp after
      rw [admitted.commands, if_pos same] at command
      rw [admitted.outbox, if_pos same] at outbox
      obtain ⟨c, o⟩ := r'
      cases command
      cases outbox
      exact fresh
    · rw [other same, before] at after
      cases after
  · exact ⟨a, by rw [admitted.attempts, stored], .idle⟩
  · rw [admitted.attempts, before] at after
    cases after

theorem insertCommand_eq_ok {row : CommandRow} (done : l.insertCommand key row = .ok l') :
    ∃ commands, l.commands.insert key row = some commands ∧ l' = { l with commands } := by
  unfold insertCommand at done
  split at done
  · cases done
  split at done
  · cases done
  · rename_i commands inserts
    cases done
    exact ⟨commands, inserts, rfl⟩

theorem insertOutbox_eq_ok {row : OutboxRow} (done : l.insertOutbox key row = .ok l') :
    ∃ outbox, l.outbox.insert key row = some outbox ∧ l' = { l with outbox } := by
  unfold insertOutbox at done
  split at done
  · cases done
  · rename_i outbox inserts
    cases done
    exact ⟨outbox, inserts, rfl⟩

/-- The two inserts of an admission add one request. -/
theorem insertPair_eq_ok {c : CommandRow} {o : OutboxRow} {withCommand : Ledger}
    (first : l.insertCommand key c = .ok withCommand)
    (second : withCommand.insertOutbox key o = .ok l') : Admitted l l' key ⟨c, o⟩ := by
  obtain ⟨commands, intoCommands, rfl⟩ := insertCommand_eq_ok first
  obtain ⟨outbox, intoOutbox, rfl⟩ := insertOutbox_eq_ok second
  exact
    { newCommand := Table.fresh_of_insert intoCommands
      newOutbox := Table.fresh_of_insert intoOutbox
      commands := Table.find?_insert intoCommands
      outbox := Table.find?_insert intoOutbox
      attempts := rfl }

/-- Statements on other tables around an admission. -/
theorem Admitted.of_records {before after : Ledger} {r : Request}
    (admitted : Admitted before after key r) (first : SameRecords l before)
    (last : SameRecords after l') : Admitted l l' key r where
  newCommand := first.commands ▸ admitted.newCommand
  newOutbox := first.outbox ▸ admitted.newOutbox
  commands k := by rw [last.commands, admitted.commands, first.commands]
  outbox k := by rw [last.outbox, admitted.outbox, first.outbox]
  attempts := last.attempts.trans (admitted.attempts.trans first.attempts)

/-- An admission adds one fresh request. -/
theorem insertRequest_eq_ok {draws : ℕ → U64} {epoch : U64} {principal idempotencyKey : String}
    {semantic : SemanticIdempotency} {target : U64} {opcode : CommandOpcode} {expiry : ℕ}
    {contactAvailable : Bool} {admission : AdmissionResult}
    (done : l.insertRequest now draws epoch principal idempotencyKey semantic target opcode expiry
      contactAvailable = .ok (admission, l')) :
    ∃ r : Request, r.Fresh ∧ Admitted l l' admission.requestKey r := by
  obtain ⟨⟨key, allocated⟩, allocate, done⟩ := bind_eq_ok_iff.mp done
  obtain ⟨arguments, -, done⟩ := bind_eq_ok_iff.mp done
  obtain ⟨digest, -, done⟩ := bind_eq_ok_iff.mp done
  simp only at done
  obtain ⟨withCommand, first, done⟩ := bind_eq_ok_iff.mp done
  obtain ⟨withOutbox, second, done⟩ := bind_eq_ok_iff.mp done
  cases done
  have records := allocateInTransaction_frame allocate
  have inserted := (insertPair_eq_ok first second).of_records records (.refl _)
  refine ⟨_, ⟨.of_nonterminal rfl rfl rfl ?_ ⟨fun leased => ?_, fun dispatching => ?_⟩, ?_, rfl⟩,
    inserted⟩
  · dsimp only
    split <;> rfl
  · cases leased
  · dsimp only at dispatching
    split at dispatching <;> cases dispatching
  · dsimp only
    split
    · exact .inl rfl
    · exact .inr rfl

/-- An allocator or marker statement leaves the records alone. -/
theorem SameRecords.moves (same : SameRecords l l') : Moves cfg l now op result l' :=
  moves_of_eq same.commands same.outbox same.attempts

theorem checkRetiredKey_frame {marker : U64 × String × String} {digest : Bytes}
    (done : l.checkRetiredKey marker digest now = .ok l') : SameRecords l l' := by
  unfold checkRetiredKey at done
  split at done
  · cases done
    exact .refl l
  split at done
  · cases done
    exact ⟨rfl, rfl, rfl, rfl⟩
  split at done <;> cases done

/-- `admit` adds a fresh request or replays a stored one. -/
theorem admitCommand_change {capacity : ℕ} {request : AdmitRequest} {admission : AdmissionResult}
    (done : l.admitCommand capacity request now = .ok (admission, l')) (sound : l.Sound) :
    Change cfg l now op result l' := by
  obtain ⟨idempotencyKey, -, done⟩ := bind_eq_ok_iff.mp done
  obtain ⟨principal, -, done⟩ := bind_eq_ok_iff.mp done
  split at done
  · cases done
  simp only at done
  split at done
  · split at done
    · cases done
    split at done
    · cases done
    · cases done
      exact (moves_of_eq rfl rfl rfl).change sound
  · obtain ⟨kept, retired, done⟩ := bind_eq_ok_iff.mp done
    obtain ⟨_, -, done⟩ := bind_eq_ok_iff.mp done
    obtain ⟨_, -, done⟩ := bind_eq_ok_iff.mp done
    obtain ⟨expiry, -, done⟩ := bind_eq_ok_iff.mp done
    obtain ⟨_, -, done⟩ := bind_eq_ok_iff.mp done
    obtain ⟨_, -, done⟩ := bind_eq_ok_iff.mp done
    have records := checkRetiredKey_frame retired
    obtain ⟨r, fresh, admitted⟩ := insertRequest_eq_ok done
    exact (admitted.of_records records (.refl _)).change fresh sound

theorem insertDownlink_frame {row : DownlinkRow} (done : l.insertDownlink key row = .ok l') :
    SameRecords l l' := by
  unfold insertDownlink at done
  split at done
  · cases done
  split at done
  · cases done
  · cases done
    exact ⟨rfl, rfl, rfl, rfl⟩

theorem admitNewDownlink_change {capacity ordinal : ℕ} {request : DownlinkRequest}
    {admission : AdmissionResult}
    (done : l.admitNewDownlink capacity request ordinal now = .ok (admission, l'))
    (sound : l.Sound) : Change cfg l now op result l' := by
  unfold admitNewDownlink at done
  split at done
  · cases done
  obtain ⟨_, -, done⟩ := bind_eq_ok_iff.mp done
  obtain ⟨_, -, done⟩ := bind_eq_ok_iff.mp done
  obtain ⟨_, -, done⟩ := bind_eq_ok_iff.mp done
  obtain ⟨expiry, -, done⟩ := bind_eq_ok_iff.mp done
  obtain ⟨⟨inserted, withRequest⟩, insert, done⟩ := bind_eq_ok_iff.mp done
  obtain ⟨recorded, record, done⟩ := bind_eq_ok_iff.mp done
  cases done
  obtain ⟨r, fresh, admitted⟩ := insertRequest_eq_ok insert
  have records := insertDownlink_frame record
  exact (admitted.of_records (.refl _) records).change fresh sound

theorem admitProductDownlink_change {capacity : ℕ} {request : DownlinkRequest}
    {admission : AdmissionResult}
    (done : l.admitProductDownlink capacity request now = .ok (admission, l'))
    (sound : l.Sound) : Change cfg l now op result l' := by
  unfold admitProductDownlink at done
  split at done
  · cases done
  split at done
  · exact admitNewDownlink_change done sound
  split at done
  · split at done
    · cases done
      exact (moves_of_eq rfl rfl rfl).change sound
    · exact admitNewDownlink_change done sound
  · exact admitNewDownlink_change done sound

/-! ## Every transaction -/

/-- **Every transaction is a change.**  A committed operation moves requests by
`RequestStep` and attempts by `AttemptStep`, and adds fresh ones only. -/
theorem transact_change {value : LedgerResult}
    (done : l.transact cfg now op = .ok (value, l')) (sound : l.Sound) :
    Change cfg l now op (.ok value) l' := by
  cases op with
  | initializeKeys draws =>
      obtain ⟨_, done, -⟩ := yields_eq_ok done
      exact (initializeInTransaction_frame done).moves.change sound
  | admitCommand request =>
      obtain ⟨_, done, -⟩ := yields_eq_ok done
      exact admitCommand_change done sound
  | admitProductDownlink request =>
      obtain ⟨_, done, -⟩ := yields_eq_ok done
      exact admitProductDownlink_change done sound
  | registerInstance binding =>
      obtain ⟨_, done, -⟩ := yields_eq_ok done
      exact (registerInstance_moves done).change sound
  | bind current =>
      obtain ⟨_, done, -⟩ := yields_eq_ok done
      exact (bind_moves done).change sound
  | setContactState target contact =>
      obtain ⟨_, done, -⟩ := yields_eq_ok done
      exact (setContactState_moves done).change sound
  | reconcile =>
      obtain ⟨_, done, -⟩ := yields_eq_ok done
      exact (reconcile_moves done sound).change sound
  | claim key? binding? owner =>
      obtain ⟨lease?, done, rfl⟩ := yields_eq_ok done
      exact (claim_moves done).change sound
  | persistAttempt lease encodedTc apid frameSequence binding? =>
      obtain ⟨_, done, -⟩ := yields_eq_ok done
      exact persistAttempt_change done sound
  | prepareAttempt lease profile binding? =>
      obtain ⟨_, done, -⟩ := yields_eq_ok done
      exact prepareAttempt_change done sound
  | markSent lease attempt =>
      change yields (fun _ => .done) (l.markSent cfg.policy lease attempt now) = _ at done
      obtain ⟨_, done, -⟩ := yields_eq_ok done
      exact (markSent_moves done).change sound
  | markNotSent lease attempt reason =>
      change yields (fun _ => .done) (l.markNotSent lease attempt reason now) = _ at done
      obtain ⟨_, done, -⟩ := yields_eq_ok done
      exact (markNotSent_moves done).change sound
  | rollbackSentAttempt lease attempt reason =>
      obtain ⟨_, done, -⟩ := yields_eq_ok done
      exact (rollbackSentAttempt_moves done).change sound
  | markAttemptNotSent attempt reason =>
      obtain ⟨_, done, -⟩ := yields_eq_ok done
      exact (markAttemptNotSent_moves done).change sound
  | ingestAck key success reason correlation =>
      obtain ⟨_, done, -⟩ := yields_eq_ok done
      exact (ingestAck_moves done).change sound

/-- A change keeps the ledger sound. -/
theorem Change.sound (change : Change cfg l now op result l') (before : l.Sound) : l'.Sound where
  paired := change.paired
  consistent k r' after := by
    cases here : l.request? k with
    | none => exact (change.admitted k r' here after).consistent
    | some r =>
        obtain ⟨r'', moved, step⟩ := change.requests k r here
        obtain rfl := Option.some.inj (moved.symm.trans after)
        exact step.consistent (before.consistent k r here)

/-- A failed transaction changes nothing. -/
theorem Change.refl (sound : l.Sound) : Change cfg l now op result l :=
  (moves_of_eq rfl rfl rfl).change sound

/-- A database without commands is sound. -/
theorem Unused.sound (unused : l.Unused) : l.Sound where
  paired k := by
    rw [unused.commands, unused.outbox]
    rfl
  consistent k r here := by
    have stored := (request?_eq_some_iff.mp here).1
    rw [unused.commands] at stored
    cases stored

/-! ## Regular ledgers -/

/-- A sound ledger whose attempts belong to requests, numbered within their counts. -/
structure Regular (l : Ledger) : Prop where
  sound : l.Sound
  numbered : ∀ id a, l.attempts.find? id = some a →
    ∃ r, l.request? a.requestKey = some r ∧ a.attemptNumber ≤ r.outbox.attemptCount

theorem Unused.regular (unused : l.Unused) : l.Regular where
  sound := unused.sound
  numbered id a stored := by
    rw [unused.attempts] at stored
    cases stored

/-- A stored outbox row of a sound ledger has its command. -/
theorem Sound.request?_of_outbox (sound : l.Sound) {o : OutboxRow}
    (stored : l.outbox.find? key = some o) : ∃ c, l.request? key = some ⟨c, o⟩ := by
  have command : (l.commands.find? key).isSome = true := by
    rw [sound.paired, stored]
    rfl
  obtain ⟨c, command⟩ := Option.isSome_iff_exists.mp command
  exact ⟨c, request?_eq_some_iff.mpr ⟨command, stored⟩⟩

/-- A change keeps the ledger regular. -/
theorem Change.regular (change : Change cfg l now op result l') (before : l.Regular) :
    l'.Regular where
  sound := change.sound before.sound
  numbered id a' after := by
    cases stored : l.attempts.find? id with
    | none =>
        obtain ⟨-, -, o, outbox, number⟩ := change.prepared id a' stored after
        obtain ⟨c, here⟩ := (change.sound before.sound).request?_of_outbox outbox
        exact ⟨_, here, number.le⟩
    | some a =>
        obtain ⟨a'', moved, step⟩ := change.attempts id a stored
        obtain rfl := Option.some.inj (moved.symm.trans after)
        obtain ⟨r, here, within⟩ := before.numbered id a stored
        obtain ⟨r', here', requestStep⟩ := change.requests _ r here
        obtain ⟨sameKey, sameNumber⟩ := step.same_attempt
        rw [sameKey, sameNumber]
        exact ⟨r', here', within.trans requestStep.attemptCount_le⟩

end Ledger

/-! ## Entries -/

variable (cfg : LedgerConfig)

/-- A step of the machine is a change of a sound ledger. -/
theorem gdsMachine_change {l : Ledger} (sound : l.Sound) (input : ℕ × LedgerOp) :
    Ledger.Change cfg l input.1 input.2 ((gdsMachine cfg).step l input).2
      ((gdsMachine cfg).step l input).1 := by
  rcases gdsMachine_step cfg l input with ⟨value, l', done, stepped⟩ | ⟨failure, -, stepped⟩
  · rw [stepped]
    exact Ledger.transact_change done sound
  · rw [stepped]
    exact .refl sound

/-- **Every reachable ledger is regular.** -/
theorem gdsMachine_regular {start : Ledger} (unused : start.Unused)
    (inputs : List (ℕ × LedgerOp)) : ((gdsMachine cfg).exec start inputs).Regular :=
  (gdsMachine cfg).exec_invariant Ledger.Regular unused.regular
    (fun _ input regular => (gdsMachine_change cfg regular.sound input).regular regular) inputs

/-- The requests of the ledger. -/
def requestEntries : (gdsMachine cfg).Entries RequestKey Request where
  view := Ledger.request?
  Sound := Ledger.Sound
  Born _ _ _ r := r.Fresh
  Step l input key r r' :=
    RequestStep cfg l input.1 input.2 ((gdsMachine cfg).step l input).2 key r r'
  sound_step _ input sound := (gdsMachine_change cfg sound input).sound sound
  born _ input k r sound := (gdsMachine_change cfg sound input).admitted k r
  stepped _ input k r sound := (gdsMachine_change cfg sound input).requests k r

/-- The attempts of the ledger. -/
def attemptEntries : (gdsMachine cfg).Entries ℕ AttemptRow where
  view l id := l.attempts.find? id
  Sound := Ledger.Sound
  Born _ _ _ a := a.sentAtUs = none ∧ a.sendResult = .persistedNotSent
  Step l input id a a' := AttemptStep l input.1 input.2 id a a'
  sound_step _ input sound := (gdsMachine_change cfg sound input).sound sound
  born _ input id a sound before after :=
    let ⟨unsent, persisted, _⟩ := (gdsMachine_change cfg sound input).prepared id a before after
    ⟨unsent, persisted⟩
  stepped _ input id a sound := (gdsMachine_change cfg sound input).attempts id a

end CubeNano

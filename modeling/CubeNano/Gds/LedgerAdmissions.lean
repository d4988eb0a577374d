import CubeNano.Gds.LedgerPairing

/-!
# What admissions insert

Only the two admissions create requests.  The rows they insert are a function of
their arguments, the allocated key and the clock, so what holds of a new request is
read off those rows.

## Main definitions

* `AdmissionTerms`, `LedgerOp.admission?` — what a caller asks of an admission
* `admittedRequest` — the rows of an admission
* `admissionEntries` — the requests of the machine, born by admissions

## Main statements

* `Ledger.insertRequest_rows`, `Ledger.admitCommand_cases`,
  `Ledger.admitProductDownlink_cases` — what a successful admission did
* `Ledger.transact_admits` — a request that appears was admitted by the operation
-/

namespace CubeNano

/-- The target, the delivery mode and the contact an admission is decided on. -/
structure AdmissionTerms where
  targetSpacecraftInstanceId : U64
  deliveryMode : DeliveryMode
  contactAvailable : Bool
  deriving DecidableEq

/-- The terms of the operations that admit. -/
def LedgerOp.admission? : LedgerOp → Option AdmissionTerms
  | .admitCommand request => some
      ⟨request.targetSpacecraftInstanceId, request.semantic.deliveryMode, request.contactAvailable⟩
  | .admitProductDownlink request => some
      ⟨request.targetSpacecraftInstanceId, request.semantic.deliveryMode, request.contactAvailable⟩
  | _ => none

/-- The request is as an admission on the terms creates it. -/
structure Request.AdmittedOn (r : Request) (terms : AdmissionTerms) (now : ℕ) : Prop where
  target : r.outbox.targetSpacecraftInstanceId = terms.targetSpacecraftInstanceId
  mode : r.command.deliveryMode = terms.deliveryMode
  waiting : r.outbox.state = Ledger.waitingState terms.deliveryMode terms.contactAvailable
  deliverable : terms.deliveryMode = .immediate → terms.contactAvailable = true
  created : r.command.createdAtUs = now
  unended : r.command.terminalAtUs = none

/-- The two rows `insertRequest` writes. -/
def admittedRequest (now : ℕ) (epoch : U64) (principal idempotencyKey : String)
    (semantic : SemanticIdempotency) (target : U64) (opcode : CommandOpcode) (expiry : ℕ)
    (contactAvailable : Bool) (arguments : Bytes) (digest : Text) : Request where
  command :=
    { targetSpacecraftInstanceId := target
      gdsInstallationEpoch := epoch
      principal := principal
      idempotencyKey := idempotencyKey
      httpDigest := semantic.digest
      semanticBodyJcs := semantic.canonicalJcs
      opcode := opcode
      missionArguments := arguments
      missionDigest := digest
      deliveryMode := semantic.deliveryMode
      effectiveExpiresAtUs := expiry
      commandState := .admitted
      createdAtUs := now
      updatedAtUs := now
      terminalAtUs := none }
  outbox :=
    { targetSpacecraftInstanceId := target
      state := Ledger.waitingState semantic.deliveryMode contactAvailable
      availableAtUs := now
      expiresAtUs := expiry
      attemptCount := 0
      leaseOwner := none
      leaseExpiresAtUs := none
      ackDeadlineAtUs := none
      lastErrorCode := none
      lastDeliveryReason := none
      createdAtUs := now
      updatedAtUs := now }

namespace Ledger

variable {cfg : LedgerConfig} {l l' : Ledger} {now : ℕ} {op : LedgerOp}
  {result : Raises LedgerResult} {key : RequestKey}

/-! ## The two admissions -/

/-- What `insertRequest` inserts. -/
theorem insertRequest_rows {draws : ℕ → U64} {epoch : U64} {principal idempotencyKey : String}
    {semantic : SemanticIdempotency} {target : U64} {opcode : CommandOpcode} {expiry : ℕ}
    {contactAvailable : Bool} {admission : AdmissionResult}
    (done : l.insertRequest now draws epoch principal idempotencyKey semantic target opcode expiry
      contactAvailable = .ok (admission, l')) :
    ∃ key allocated arguments digest,
      allocateInTransaction draws now l = .ok (key, allocated) ∧
      Command.argumentBytes ⟨opcode, target, key, semantic.payload⟩ = .ok arguments ∧
      missionDigest ⟨opcode, target, key, semantic.payload⟩ = .ok digest ∧
      Admitted allocated l' key (admittedRequest now epoch principal idempotencyKey semantic target
        opcode expiry contactAvailable arguments digest) ∧
      admission.requestKey = key := by
  obtain ⟨⟨key, allocated⟩, allocate, done⟩ := bind_eq_ok_iff.mp done
  obtain ⟨arguments, encoded, done⟩ := bind_eq_ok_iff.mp done
  obtain ⟨digest, digested, done⟩ := bind_eq_ok_iff.mp done
  simp only at done
  obtain ⟨withCommand, first, done⟩ := bind_eq_ok_iff.mp done
  obtain ⟨withOutbox, second, done⟩ := bind_eq_ok_iff.mp done
  cases done
  exact ⟨key, allocated, arguments, digest, allocate, encoded, digested,
    insertPair_eq_ok first second, rfl⟩

/-- A stored command of a sound ledger has its outbox row. -/
theorem Sound.request?_of_command (sound : l.Sound) {c : CommandRow}
    (stored : l.commands.find? key = some c) : ∃ o, l.request? key = some ⟨c, o⟩ := by
  have outbox : (l.outbox.find? key).isSome = true := by
    rw [← sound.paired, stored]
    rfl
  obtain ⟨o, outbox⟩ := Option.isSome_iff_exists.mp outbox
  exact ⟨o, request?_eq_some_iff.mpr ⟨stored, outbox⟩⟩

/-- The idempotency key is stored as it was given. -/
theorem validateIdempotencyKey_eq_ok {value checked : String}
    (done : validateIdempotencyKey value = .ok checked) : checked = value := by
  unfold validateIdempotencyKey at done
  split at done
  · cases done
  split at done
  · cases done
  · cases done
    rfl

/-- The principal is stored as it was given. -/
theorem validatePrincipal_eq_ok {principal checked : String}
    (done : validatePrincipal principal = .ok checked) : checked = principal := by
  unfold validatePrincipal at done
  split at done
  · cases done
  split at done
  · cases done
  · cases done
    rfl

/-- The lookup of a live command by its idempotency key. -/
def findLive (l : Ledger) (epoch : U64) (principal idempotencyKey : String) :
    Option (RequestKey × CommandRow) :=
  l.commands.rows.find? fun row => row.2.gdsInstallationEpoch = epoch ∧
    row.2.principal = principal ∧ row.2.idempotencyKey = idempotencyKey

/-- A successful `admit` replays a stored command, or inserts a request. -/
theorem admitCommand_cases {capacity : ℕ} {request : AdmitRequest} {admission : AdmissionResult}
    (done : l.admitCommand capacity request now = .ok (admission, l')) :
    ∃ metadata, l.metadata = some metadata ∧
      ((∃ key c o, l.findLive metadata.gdsInstallationEpoch request.principal
            request.idempotencyKey = some (key, c) ∧
          c.httpDigest = request.semantic.digest ∧ l.outbox.find? key = some o ∧
          admission = resultFromRow key c o true ∧ l' = l) ∨
        ∃ kept expiry, l.findLive metadata.gdsInstallationEpoch request.principal
            request.idempotencyKey = none ∧
          l.checkRetiredKey (metadata.gdsInstallationEpoch, request.principal,
            request.idempotencyKey) request.semantic.digest now = .ok kept ∧
          checkContact request.semantic.deliveryMode request.contactAvailable = .ok () ∧
          kept.insertRequest now request.draws metadata.gdsInstallationEpoch request.principal
            request.idempotencyKey request.semantic request.targetSpacecraftInstanceId
            request.opcode expiry request.contactAvailable = .ok (admission, l')) := by
  obtain ⟨idempotencyKey, validKey, done⟩ := bind_eq_ok_iff.mp done
  obtain ⟨principal, validPrincipal, done⟩ := bind_eq_ok_iff.mp done
  obtain rfl := validateIdempotencyKey_eq_ok validKey
  obtain rfl := validatePrincipal_eq_ok validPrincipal
  split at done
  · cases done
  rename_i metadata initialized
  refine ⟨metadata, initialized, ?_⟩
  simp only at done
  split at done
  · rename_i key c live
    split at done
    · cases done
    rename_i same
    split at done
    · cases done
    rename_i o stored
    cases done
    exact .inl ⟨key, c, o, live, not_not.mp same, stored, rfl, rfl⟩
  · rename_i unused
    obtain ⟨kept, retired, done⟩ := bind_eq_ok_iff.mp done
    obtain ⟨_, -, done⟩ := bind_eq_ok_iff.mp done
    obtain ⟨_, -, done⟩ := bind_eq_ok_iff.mp done
    obtain ⟨expiry, -, done⟩ := bind_eq_ok_iff.mp done
    obtain ⟨_, reachable, done⟩ := bind_eq_ok_iff.mp done
    obtain ⟨_, -, done⟩ := bind_eq_ok_iff.mp done
    exact .inr ⟨kept, expiry, unused, retired, reachable, done⟩

/-- A new admission of a product inserts a request and its downlink row. -/
theorem admitNewDownlink_inserts {capacity ordinal : ℕ} {request : DownlinkRequest}
    {admission : AdmissionResult}
    (done : l.admitNewDownlink capacity request ordinal now = .ok (admission, l')) :
    ∃ metadata expiry admitted, l.metadata = some metadata ∧
      checkContact request.semantic.deliveryMode request.contactAvailable = .ok () ∧
      l.insertRequest now request.draws metadata.gdsInstallationEpoch productDownlinkPrincipal
        (downlinkIdempotencyKey request.originRequestKey request.productRef ordinal)
        request.semantic request.targetSpacecraftInstanceId .productRequestDownlink expiry
        request.contactAvailable = .ok (admission, admitted) ∧
      admitted.insertDownlink admission.requestKey
        ⟨request.originRequestKey, request.productRef, ordinal⟩ = .ok l' := by
  unfold admitNewDownlink at done
  split at done
  · cases done
  rename_i metadata initialized
  obtain ⟨_, -, done⟩ := bind_eq_ok_iff.mp done
  obtain ⟨_, reachable, done⟩ := bind_eq_ok_iff.mp done
  obtain ⟨_, -, done⟩ := bind_eq_ok_iff.mp done
  obtain ⟨expiry, -, done⟩ := bind_eq_ok_iff.mp done
  obtain ⟨⟨inserted, admitted⟩, insert, done⟩ := bind_eq_ok_iff.mp done
  obtain ⟨recorded, record, done⟩ := bind_eq_ok_iff.mp done
  cases done
  exact ⟨metadata, expiry, admitted, initialized, reachable, insert, record⟩

/-- A successful `admit_product_downlink` replays a stored command, or admits anew. -/
theorem admitProductDownlink_cases {capacity : ℕ} {request : DownlinkRequest}
    {admission : AdmissionResult}
    (done : l.admitProductDownlink capacity request now = .ok (admission, l')) :
    l' = l ∨ ∃ ordinal, l.admitNewDownlink capacity request ordinal now = .ok (admission, l') := by
  unfold admitProductDownlink at done
  split at done
  · cases done
  split at done
  · exact .inr ⟨1, done⟩
  split at done
  · split at done
    · cases done
      exact .inl rfl
    · exact .inr ⟨_, done⟩
  · exact .inr ⟨1, done⟩

/-- Immediate delivery was admitted with a contact. -/
theorem checkContact_eq_ok {mode : DeliveryMode} {contactAvailable : Bool}
    (done : checkContact mode contactAvailable = .ok ()) :
    mode = .immediate → contactAvailable = true := by
  intro immediate
  unfold checkContact at done
  split at done
  · cases done
  · rename_i reachable
    simpa [immediate] using reachable

/-! ## Requests that appear -/

/-- The request an insert adds is admitted on the terms of the insert. -/
theorem insertRequest_admitted {draws : ℕ → U64} {epoch : U64} {principal idempotencyKey : String}
    {semantic : SemanticIdempotency} {target : U64} {opcode : CommandOpcode} {expiry : ℕ}
    {contactAvailable : Bool} {admission : AdmissionResult}
    (done : l.insertRequest now draws epoch principal idempotencyKey semantic target opcode expiry
      contactAvailable = .ok (admission, l'))
    (reachable : checkContact semantic.deliveryMode contactAvailable = .ok ()) :
    ∃ r : Request, Admitted l l' admission.requestKey r ∧
      r.AdmittedOn ⟨target, semantic.deliveryMode, contactAvailable⟩ now := by
  obtain ⟨key, allocated, arguments, digest, allocate, -, -, admitted, rfl⟩ :=
    insertRequest_rows done
  exact ⟨_, admitted.of_records (allocateInTransaction_frame allocate) (.refl _),
    ⟨rfl, rfl, rfl, checkContact_eq_ok reachable, rfl, rfl⟩⟩

/-- A request that an admission makes appear is the one it adds. -/
theorem Admitted.eq_of_new {r r' : Request} {key' : RequestKey} (admitted : Admitted l l' key r)
    (absent : l.request? key' = none) (present : l'.request? key' = some r') : r' = r := by
  obtain ⟨command, outbox⟩ := request?_eq_some_iff.mp present
  rw [admitted.commands] at command
  rw [admitted.outbox] at outbox
  split at command
  · rename_i same
    rw [if_pos same] at outbox
    obtain ⟨c, o⟩ := r'
    cases command
    cases outbox
    rfl
  · rename_i differs
    rw [if_neg differs] at outbox
    rw [request?_eq_some_iff.mpr ⟨command, outbox⟩] at absent
    cases absent

/-- A new attempt adds no request. -/
theorem insertLeasedAttempt_sameKeys {row : AttemptRow} {selects : OutboxRow → Bool}
    {inserted : ℕ × Ledger} (done : l.insertLeasedAttempt row selects now = .ok inserted) :
    SameKeys l inserted.2 := by
  obtain ⟨first, insert, done⟩ := bind_eq_ok_iff.mp done
  obtain ⟨counted, update, done⟩ := bind_eq_ok_iff.mp done
  cases done
  obtain ⟨attempts, -, same⟩ := insertAttempt_eq_ok insert
  have only := (updateOutboxRow_cases update).1
  rw [same] at only
  exact ⟨only.keys.commands, only.keys.outbox⟩

theorem persistAttempt_sameKeys {policy : OutboxPolicy} {lease : OutboxLease} {encodedTc : Bytes}
    {apid frameSequence : ℕ} {binding? : Option LinkBinding} {attempt : AttemptRecord}
    (done : l.persistAttempt policy lease encodedTc apid frameSequence binding? now =
      .ok (attempt, l')) : SameKeys l l' := by
  unfold persistAttempt at done
  split at done
  · cases done
  split at done
  · cases done
  obtain ⟨o, -, done⟩ := bind_eq_ok_iff.mp done
  obtain ⟨allocation, allocated, done⟩ := bind_eq_ok_iff.mp done
  obtain ⟨inserted, insert, done⟩ := bind_eq_ok_iff.mp done
  cases done
  obtain ⟨sequences, same⟩ := allocateSequence_eq_ok allocated
  have keys := insertLeasedAttempt_sameKeys insert
  rw [same] at keys
  exact ⟨keys.commands, keys.outbox⟩

theorem prepareAttempt_sameKeys {policy : OutboxPolicy} {lease : OutboxLease}
    {profile : TcWireProfile} {binding? : Option LinkBinding} {attempt : AttemptRecord}
    (done : l.prepareAttempt policy lease profile binding? now = .ok (attempt, l')) :
    SameKeys l l' := by
  unfold prepareAttempt at done
  split at done
  · cases done
  obtain ⟨o, -, done⟩ := bind_eq_ok_iff.mp done
  obtain ⟨allocation, allocated, done⟩ := bind_eq_ok_iff.mp done
  obtain ⟨encodedTc, -, done⟩ := bind_eq_ok_iff.mp done
  obtain ⟨inserted, insert, done⟩ := bind_eq_ok_iff.mp done
  split at done
  · cases done
  cases done
  obtain ⟨sequences, same⟩ := allocateSequence_eq_ok allocated
  have keys := insertLeasedAttempt_sameKeys insert
  rw [same] at keys
  exact ⟨keys.commands, keys.outbox⟩

/-- The other operations add no request. -/
theorem transact_sameKeys {value : LedgerResult}
    (done : l.transact cfg now op = .ok (value, l')) (sound : l.Sound)
    (other : op.admission? = none) : SameKeys l l' := by
  have keys (moves : Moves cfg l now op (.ok value) l') : SameKeys l l' := moves.keys
  cases op with
  | initializeKeys draws =>
      obtain ⟨_, done, -⟩ := yields_eq_ok done
      exact keys (initializeInTransaction_frame done).moves
  | admitCommand request => cases other
  | admitProductDownlink request => cases other
  | registerInstance binding =>
      obtain ⟨_, done, -⟩ := yields_eq_ok done
      exact keys (registerInstance_moves done)
  | bind current =>
      obtain ⟨_, done, -⟩ := yields_eq_ok done
      exact keys (bind_moves done)
  | setContactState target contact =>
      obtain ⟨_, done, -⟩ := yields_eq_ok done
      exact keys (setContactState_moves done)
  | reconcile =>
      obtain ⟨_, done, -⟩ := yields_eq_ok done
      exact keys (reconcile_moves done sound)
  | claim key? binding? owner =>
      obtain ⟨lease?, done, rfl⟩ := yields_eq_ok done
      exact keys (claim_moves done)
  | persistAttempt lease encodedTc apid frameSequence binding? =>
      obtain ⟨_, done, -⟩ := yields_eq_ok done
      exact persistAttempt_sameKeys done
  | prepareAttempt lease profile binding? =>
      obtain ⟨_, done, -⟩ := yields_eq_ok done
      exact prepareAttempt_sameKeys done
  | markSent lease attempt =>
      change yields (fun _ => .done) (l.markSent cfg.policy lease attempt now) = _ at done
      obtain ⟨_, done, -⟩ := yields_eq_ok done
      exact keys (markSent_moves done)
  | markNotSent lease attempt reason =>
      change yields (fun _ => .done) (l.markNotSent lease attempt reason now) = _ at done
      obtain ⟨_, done, -⟩ := yields_eq_ok done
      exact keys (markNotSent_moves done)
  | rollbackSentAttempt lease attempt reason =>
      obtain ⟨_, done, -⟩ := yields_eq_ok done
      exact keys (rollbackSentAttempt_moves done)
  | markAttemptNotSent attempt reason =>
      obtain ⟨_, done, -⟩ := yields_eq_ok done
      exact keys (markAttemptNotSent_moves done)
  | ingestAck key success reason correlation =>
      obtain ⟨_, done, -⟩ := yields_eq_ok done
      exact keys (ingestAck_moves done)

/-- A request that `admit` makes appear is admitted on its terms. -/
theorem admitCommand_admits {capacity : ℕ} {request : AdmitRequest} {admission : AdmissionResult}
    {r : Request} (done : l.admitCommand capacity request now = .ok (admission, l'))
    (absent : l.request? key = none) (present : l'.request? key = some r) :
    r.AdmittedOn ⟨request.targetSpacecraftInstanceId, request.semantic.deliveryMode,
      request.contactAvailable⟩ now := by
  obtain ⟨metadata, -, cases⟩ := admitCommand_cases done
  rcases cases with ⟨_, _, _, -, -, -, -, rfl⟩ | ⟨kept, expiry, -, retired, reachable, insert⟩
  · rw [absent] at present
    cases present
  · obtain ⟨r', admitted, terms⟩ := insertRequest_admitted insert reachable
    have whole := admitted.of_records (checkRetiredKey_frame retired) (.refl _)
    rw [whole.eq_of_new absent present]
    exact terms

/-- A request that a downlink admission makes appear is admitted on its terms. -/
theorem admitProductDownlink_admits {capacity : ℕ} {request : DownlinkRequest}
    {admission : AdmissionResult} {r : Request}
    (done : l.admitProductDownlink capacity request now = .ok (admission, l'))
    (absent : l.request? key = none) (present : l'.request? key = some r) :
    r.AdmittedOn ⟨request.targetSpacecraftInstanceId, request.semantic.deliveryMode,
      request.contactAvailable⟩ now := by
  rcases admitProductDownlink_cases done with rfl | ⟨ordinal, done⟩
  · rw [absent] at present
    cases present
  · obtain ⟨metadata, expiry, admitted, -, reachable, insert, record⟩ :=
      admitNewDownlink_inserts done
    obtain ⟨r', inserted, terms⟩ := insertRequest_admitted insert reachable
    have whole := inserted.of_records (.refl _) (insertDownlink_frame record)
    rw [whole.eq_of_new absent present]
    exact terms

/-- **Only admissions create requests.**  A request that appears in a transaction was
admitted by it, on the terms of the operation. -/
theorem transact_admits {value : LedgerResult} {r : Request}
    (done : l.transact cfg now op = .ok (value, l')) (sound : l.Sound)
    (absent : l.request? key = none) (present : l'.request? key = some r) :
    ∃ terms, op.admission? = some terms ∧ r.AdmittedOn terms now := by
  have cannot (keys : SameKeys l l') : False := by
    have same : (l'.request? key).isSome = (l.request? key).isSome := by
      rw [request?_isSome, request?_isSome, keys.commands, keys.outbox]
    rw [absent, present] at same
    cases same
  cases op with
  | admitCommand request =>
      obtain ⟨_, done, -⟩ := yields_eq_ok done
      exact ⟨_, rfl, admitCommand_admits done absent present⟩
  | admitProductDownlink request =>
      obtain ⟨_, done, -⟩ := yields_eq_ok done
      exact ⟨_, rfl, admitProductDownlink_admits done absent present⟩
  | _ => exact (cannot (transact_sameKeys done sound rfl)).elim

end Ledger

/-- A step keeps the ledger sound. -/
theorem gdsMachine_sound (cfg : LedgerConfig) (l : Ledger) (input : ℕ × LedgerOp)
    (sound : l.Sound) : ((gdsMachine cfg).step l input).1.Sound :=
  (gdsMachine_change cfg sound input).sound sound

/-- A request that appears in a step was admitted by its operation. -/
theorem gdsMachine_admits (cfg : LedgerConfig) (l : Ledger) (input : ℕ × LedgerOp)
    (k : RequestKey) (r : Request) (sound : l.Sound) (absent : l.request? k = none)
    (present : ((gdsMachine cfg).step l input).1.request? k = some r) :
    ∃ terms, input.2.admission? = some terms ∧ r.AdmittedOn terms input.1 := by
  rcases gdsMachine_step cfg l input with ⟨value, l', done, stepped⟩ | ⟨failure, -, stepped⟩
  · rw [stepped] at present
    exact Ledger.transact_admits done sound absent present
  · rw [stepped] at present
    rw [absent] at present
    cases present

/-- A step makes a step of every request. -/
theorem gdsMachine_requests (cfg : LedgerConfig) (l : Ledger) (input : ℕ × LedgerOp)
    (k : RequestKey) (r : Request) (sound : l.Sound) (here : l.request? k = some r) :
    ∃ r', ((gdsMachine cfg).step l input).1.request? k = some r' ∧
      RequestStep cfg l input.1 input.2 ((gdsMachine cfg).step l input).2 k r r' :=
  (gdsMachine_change cfg sound input).requests k r here

/-- The requests of the ledger, born by admissions. -/
def admissionEntries (cfg : LedgerConfig) : (gdsMachine cfg).Entries RequestKey Request where
  view := Ledger.request?
  Sound := Ledger.Sound
  Born _ input _ r := ∃ terms, input.2.admission? = some terms ∧ r.AdmittedOn terms input.1
  Step l input key r r' :=
    RequestStep cfg l input.1 input.2 ((gdsMachine cfg).step l input).2 key r r'
  sound_step := gdsMachine_sound cfg
  born := gdsMachine_admits cfg
  stepped := gdsMachine_requests cfg

end CubeNano

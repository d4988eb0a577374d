import CubeNano.Lib.Table
import CubeNano.Protocol.Command

/-!
# The tables of the ground ledger

The tables of `gds/migrations` that admission, the outbox and the spacecraft
binding read and write.  A `Ledger` is a committed state of the database; a
transaction is a function from a ledger to a value and a ledger, or to an
exception, in which case `SQLiteWriter` rolls back.

Instants and durations are microseconds.  Columns that no modelled function reads
are left out, as are the audit rows.

## Main definitions

* `Ledger` — the database
* `Ledger.updateOutbox`, `Ledger.insertCommand`, … — its statements, with the
  constraints of the schema
-/

namespace CubeNano

/-! ## Enumerations -/

/-- `ContactState` of the ground segment. -/
inductive GroundContactState
  | contactOpen
  | noContact
  | blackout
  deriving DecidableEq, Repr

/-- `ContactState.is_open`. -/
def GroundContactState.isOpen (contact : GroundContactState) : Bool := contact = .contactOpen

/-- `delivery_mode`. -/
inductive DeliveryMode
  | immediate
  | nextContact
  deriving DecidableEq, Repr

/-- `command_outbox.state`. -/
inductive OutboxState
  | heldNoContact
  | outboxPending
  | dispatching
  | sent
  | acked
  | expired
  | deliveryFailed
  | canceled
  deriving DecidableEq, Repr

/-- `NONTERMINAL_OUTBOX_STATES`; the others are `TERMINAL_OUTBOX_STATES`. -/
def OutboxState.nonterminal : OutboxState → Bool
  | heldNoContact | outboxPending | dispatching | sent => true
  | acked | expired | deliveryFailed | canceled => false

/-- `commands.command_state`. -/
inductive CommandState
  | admitted
  | acked
  | rejected
  | executed
  | failed
  | canceled
  deriving DecidableEq, Repr

/-- Whether the state is not in `TERMINAL_COMMAND_STATES`. -/
def CommandState.nonterminal (s : CommandState) : Bool := s = .admitted

/-- `spacecraft_instances.state`. -/
inductive InstanceState
  | active
  | retired
  deriving DecidableEq, Repr

/-- `ground_namespaces.state`. -/
inductive NamespaceState
  | active
  | draining
  | retired
  deriving DecidableEq, Repr

/-- `command_attempts.send_result`; `notSent` is the text `NOT_SENT:` with a reason. -/
inductive SendResult
  | persistedNotSent
  | sent
  | notSent (reason : String)
  | acked
  deriving DecidableEq, Repr

/-! ## Rows -/

/-- `LinkBinding`. -/
structure LinkBinding where
  spacecraftInstanceId : U64
  linkGeneration : U64
  linkSessionId : U64
  contactState : GroundContactState
  deriving DecidableEq

/-- The bound link of `gds_metadata`; its three columns are written together. -/
structure BoundLink where
  spacecraftInstanceId : U64
  linkGeneration : U64
  linkSessionId : U64
  deriving DecidableEq

/-- The row of `gds_metadata`. -/
structure MetadataRow where
  gdsInstallationEpoch : U64
  activeGroundInstanceId : U64
  bound : Option BoundLink
  deriving DecidableEq

/-- A row of `ground_namespaces`. -/
structure NamespaceRow where
  gdsInstallationEpoch : U64
  nextRequestId : ℕ
  state : NamespaceState
  createdAtUs : ℕ
  retiredAtUs : Option ℕ
  deriving DecidableEq

/-- A row of `spacecraft_instances`. -/
structure InstanceRow where
  linkGeneration : U64
  linkSessionId : Option U64
  state : InstanceState
  firstSeenAtUs : ℕ
  lastSeenAtUs : ℕ
  contactState : GroundContactState
  deriving DecidableEq

/-- A row of `commands`.  The digest columns hold bytes; `missionDigest` is the
hexadecimal text of its column. -/
structure CommandRow where
  targetSpacecraftInstanceId : U64
  gdsInstallationEpoch : U64
  principal : String
  idempotencyKey : String
  httpDigest : Bytes
  semanticBodyJcs : Bytes
  opcode : CommandOpcode
  missionArguments : Bytes
  missionDigest : Text
  deliveryMode : DeliveryMode
  effectiveExpiresAtUs : ℕ
  commandState : CommandState
  createdAtUs : ℕ
  updatedAtUs : ℕ
  terminalAtUs : Option ℕ
  deriving DecidableEq

/-- A row of `command_outbox`. -/
structure OutboxRow where
  targetSpacecraftInstanceId : U64
  state : OutboxState
  availableAtUs : ℕ
  expiresAtUs : ℕ
  attemptCount : ℕ
  leaseOwner : Option String
  leaseExpiresAtUs : Option ℕ
  ackDeadlineAtUs : Option ℕ
  lastErrorCode : Option String
  lastDeliveryReason : Option String
  createdAtUs : ℕ
  updatedAtUs : ℕ
  deriving DecidableEq

/-- A row of `command_attempts`. -/
structure AttemptRow where
  requestKey : RequestKey
  targetSpacecraftInstanceId : U64
  attemptNumber : ℕ
  linkGeneration : U64
  linkSessionId : U64
  apid : ℕ
  packetSequence : ℕ
  frameSequence : ℕ
  encodedTc : Bytes
  encodedTcSha256 : Bytes
  sendResult : SendResult
  sentAtUs : Option ℕ
  ackedAtUs : Option ℕ
  createdAtUs : ℕ
  sequenceEpoch : U32
  tcProfileId : String
  tcProfileSha256 : String
  spacePacketType : ℕ
  spacePacketSequenceFlags : ℕ
  deriving DecidableEq

/-- A row of `tc_sequence_allocators`. -/
structure SequenceRow where
  nextSequence : ℕ
  sequenceEpoch : U32
  deriving DecidableEq

/-- A row of `product_downlink_ledger`. -/
structure DownlinkRow where
  originRequestKey : RequestKey
  productRef : ProductRef
  admissionOrdinal : ℕ
  deriving DecidableEq

/-- A row of `http_idempotency_retired`. -/
structure RetiredKeyRow where
  httpDigest : Bytes
  originalRequestKey : RequestKey
  retainedUntilUs : ℕ
  deriving DecidableEq

/-- The database.  Keys of the retired markers are the installation epoch, the
principal and the idempotency key; keys of the allocators are the spacecraft and
the APID. -/
structure Ledger where
  metadata : Option MetadataRow
  namespaces : Table U64 NamespaceRow
  instances : Table U64 InstanceRow
  commands : Table RequestKey CommandRow
  outbox : Table RequestKey OutboxRow
  attempts : Table ℕ AttemptRow
  /-- The `AUTOINCREMENT` counter of `command_attempts`. -/
  nextAttemptId : ℕ
  sequences : Table (U64 × ℕ) SequenceRow
  downlinks : Table RequestKey DownlinkRow
  retiredKeys : Table (U64 × String × String) RetiredKeyRow

namespace Ledger

/-! ## Statements -/

/-- `UPDATE command_outbox`, with the check of `updated_at_us`. -/
def updateOutbox (l : Ledger) (selects : RequestKey → OutboxRow → Bool)
    (assign : OutboxRow → OutboxRow) : Raises Ledger :=
  if l.outbox.rows.all fun row =>
      !selects row.1 row.2 || (assign row.2).createdAtUs ≤ (assign row.2).updatedAtUs then
    .ok { l with outbox := l.outbox.mapRows fun k row => if selects k row then assign row else row }
  else integrityError "CHECK constraint failed: updated_at_us >= created_at_us"

/-- `UPDATE command_outbox … WHERE ground_instance_id=? AND request_id=?`. -/
def updateOutboxRow (l : Ledger) (key : RequestKey) (selects : OutboxRow → Bool)
    (assign : OutboxRow → OutboxRow) : Raises Ledger :=
  l.updateOutbox (fun k row => k = key && selects row) assign

/-- Whether `UPDATE command_outbox` of one key would change a row: its `rowcount`. -/
def matchesOutbox (l : Ledger) (key : RequestKey) (selects : OutboxRow → Bool) : Bool :=
  (l.outbox.find? key).any selects

/-- `UPDATE commands`.  The assignments are those of `MAX`, which keep the checks. -/
def updateCommands (l : Ledger) (selects : RequestKey → CommandRow → Bool)
    (assign : CommandRow → CommandRow) : Ledger :=
  { l with
    commands := l.commands.mapRows fun k row => if selects k row then assign row else row }

/-- `UPDATE commands … WHERE ground_instance_id=? AND request_id=?`. -/
def updateCommand (l : Ledger) (key : RequestKey) (selects : CommandRow → Bool)
    (assign : CommandRow → CommandRow) : Ledger :=
  l.updateCommands (fun k row => k = key && selects row) assign

/-- `UPDATE command_attempts`. -/
def updateAttempts (l : Ledger) (selects : ℕ → AttemptRow → Bool)
    (assign : AttemptRow → AttemptRow) : Ledger :=
  { l with
    attempts := l.attempts.mapRows fun id row => if selects id row then assign row else row }

/-- `INSERT INTO commands`, with its two unique constraints. -/
def insertCommand (l : Ledger) (key : RequestKey) (row : CommandRow) : Raises Ledger :=
  if l.commands.rows.any fun r => r.2.gdsInstallationEpoch = row.gdsInstallationEpoch ∧
      r.2.principal = row.principal ∧ r.2.idempotencyKey = row.idempotencyKey then
    integrityError "UNIQUE constraint failed: commands.idempotency_key"
  else
    match l.commands.insert key row with
    | none => integrityError "UNIQUE constraint failed: commands.request_id"
    | some commands => .ok { l with commands }

/-- `INSERT INTO command_outbox`. -/
def insertOutbox (l : Ledger) (key : RequestKey) (row : OutboxRow) : Raises Ledger :=
  match l.outbox.insert key row with
  | none => integrityError "UNIQUE constraint failed: command_outbox.request_id"
  | some outbox => .ok { l with outbox }

/-- `INSERT INTO command_attempts`: the row and its `lastrowid`. -/
def insertAttempt (l : Ledger) (row : AttemptRow) : Raises (ℕ × Ledger) :=
  if l.attempts.rows.any fun r => r.2.requestKey = row.requestKey ∧
      r.2.attemptNumber = row.attemptNumber then
    integrityError "UNIQUE constraint failed: command_attempts.attempt_number"
  else if row.apid ≤ 2047 ∧ row.packetSequence ≤ 16383 ∧ row.frameSequence ≤ 255 then
    match l.attempts.insert l.nextAttemptId row with
    | none => integrityError "UNIQUE constraint failed: command_attempts.attempt_id"
    | some attempts =>
        .ok (l.nextAttemptId, { l with attempts, nextAttemptId := l.nextAttemptId + 1 })
  else integrityError "CHECK constraint failed: command_attempts"

/-- `INSERT INTO spacecraft_instances … ON CONFLICT DO UPDATE`, which keeps
`first_seen_at_us`. -/
def upsertInstance (l : Ledger) (binding : LinkBinding) (now : ℕ) : Raises Ledger :=
  let firstSeen := match l.instances.find? binding.spacecraftInstanceId with
    | none => now
    | some row => row.firstSeenAtUs
  if firstSeen ≤ now then
    .ok { l with
      instances := l.instances.set binding.spacecraftInstanceId
        { linkGeneration := binding.linkGeneration
          linkSessionId := some binding.linkSessionId
          state := .active
          firstSeenAtUs := firstSeen
          lastSeenAtUs := now
          contactState := binding.contactState } }
  else integrityError "CHECK constraint failed: last_seen_at_us >= first_seen_at_us"

/-- `UPDATE spacecraft_instances … WHERE spacecraft_instance_id=?`, which sets
`last_seen_at_us`. -/
def updateInstance (l : Ledger) (id : U64) (now : ℕ) (assign : InstanceRow → InstanceRow) :
    Raises Ledger :=
  if (l.instances.find? id).all fun row => row.firstSeenAtUs ≤ now then
    .ok { l with
      instances := l.instances.update id fun row => { assign row with lastSeenAtUs := now } }
  else integrityError "CHECK constraint failed: last_seen_at_us >= first_seen_at_us"

/-- The delivery mode of a request, from its command. -/
def hasDeliveryMode (l : Ledger) (key : RequestKey) (mode : DeliveryMode) : Bool :=
  (l.commands.find? key).any fun c => c.deliveryMode = mode

/-- The contact of a target is recorded as open. -/
def contactOpen (l : Ledger) (target : U64) : Bool :=
  (l.instances.find? target).any fun s => s.contactState = .contactOpen

/-- The number of nonterminal outbox rows. -/
def activeCount (l : Ledger) : ℕ := (l.outbox.rows.filter fun row => row.2.state.nonterminal).length

end Ledger

end CubeNano

import CubeNano.Gds.Ledger
import CubeNano.Protocol.TcFrame

/-!
# The outbox

The transactions of `OutboxService` in `gds/outbox.py`: contact changes,
reconciliation, leases, attempts, the two ends of a send, and receipts.

A call of the service that makes several transactions is several steps here:
`claim` and `claim_next` reconcile first, and `send_with_fence` marks the attempt
sent, runs the transport and rolls the attempt back when that raised.

## Main definitions

* `OutboxPolicy` — leases, timeouts and limits
* `registerInstance`, `setContactState`, `reconcile`, `claim`, `persistAttempt`,
  `prepareAttempt`, `markSent`, `markNotSent`, `rollbackSentAttempt`,
  `markAttemptNotSent`, `ingestAck` — the transactions
-/

namespace CubeNano

/-- `OutboxPolicy`, with the checks of its constructor. -/
structure OutboxPolicy where
  leaseDurationUs : ℕ
  ackTimeoutUs : ℕ
  baseBackoffUs : ℕ
  maxBackoffUs : ℕ
  maxAttempts : ℕ
  leaseDuration_pos : 0 < leaseDurationUs
  ackTimeout_pos : 0 < ackTimeoutUs
  backoff_valid : 0 < baseBackoffUs ∧ baseBackoffUs ≤ maxBackoffUs
  maxAttempts_valid : 1 ≤ maxAttempts ∧ maxAttempts ≤ 0xFFFFFFFF

/-- The default policy. -/
def defaultOutboxPolicy : OutboxPolicy where
  leaseDurationUs := 10000000
  ackTimeoutUs := 5000000
  baseBackoffUs := 500000
  maxBackoffUs := 30000000
  maxAttempts := 20
  leaseDuration_pos := by decide
  ackTimeout_pos := by decide
  backoff_valid := by decide
  maxAttempts_valid := by decide

/-- `_backoff`; the power is converted to a float, which overflows from `2^1024` on. -/
def backoff (policy : OutboxPolicy) (attemptCount : ℕ) : Raises ℕ :=
  let exponent := attemptCount - 1
  if exponent < 1024 then .ok (min policy.maxBackoffUs (policy.baseBackoffUs * 2 ^ exponent))
  else overflowError "int too large to convert to float"

/-- `TcWireProfile`, with the checks of its constructor; the packet type, the
header flag and the sequence flags are pinned by them. -/
structure TcWireProfile where
  profileId : String
  profileSha256 : String
  spacecraftId : ℕ
  virtualChannelId : ℕ
  tcApid : ℕ
  profileId_nonempty : profileId ≠ ""
  sha256_length : profileSha256.length = 64
  sha256_hex : (profileSha256.toList.all fun c => isLowerHex (codePoint c)) = true
  spacecraftId_le : spacecraftId ≤ 0x3FF
  virtualChannelId_le : virtualChannelId ≤ 0x3F
  tcApid_le : tcApid ≤ 0x7FF

/-- `TcWireProfile.encode`. -/
def TcWireProfile.encode (profile : TcWireProfile) (command : Command)
    (packetSequence frameSequence : ℕ) : Raises Bytes := do
  let data ← encodeCommand command
  let packet ← SpacePacket.new profile.tcApid packetSequence data 1 false 3
  TcTypeBdFrame.encode ⟨profile.spacecraftId, profile.virtualChannelId, frameSequence, packet⟩ none

/-- `OutboxLease`. -/
structure OutboxLease where
  requestKey : RequestKey
  targetSpacecraftInstanceId : U64
  leaseOwner : String
  leaseExpiresAtUs : ℕ
  effectiveExpiresAtUs : ℕ
  attemptCount : ℕ
  opcode : CommandOpcode
  missionArguments : Bytes
  command : Command
  binding : LinkBinding

/-- `AttemptRecord`. -/
structure AttemptRecord where
  attemptId : ℕ
  requestKey : RequestKey
  targetSpacecraftInstanceId : U64
  attemptNumber : ℕ
  apid : ℕ
  packetSequence : ℕ
  sequenceEpoch : U32
  rollover : Bool
  linkGeneration : U64
  linkSessionId : U64
  encodedTc : Bytes
  createdAtUs : ℕ
  frameSequence : ℕ
  tcProfileId : String
  tcProfileSha256 : String
  spacePacketType : ℕ
  spacePacketSequenceFlags : ℕ
  encodedTcSha256 : Text
  deriving DecidableEq

/-- `AckResult`. -/
structure AckResult where
  requestKey : RequestKey
  state : OutboxState
  late : Bool
  reason : Option String
  deriving DecidableEq

/-- The link identity of a correlated receipt. -/
structure TmCorrelation where
  sourceSpacecraftInstanceId : U64
  linkGeneration : U64
  linkSessionId : U64
  deriving DecidableEq

/-- `ReconcileReport`. -/
structure ReconcileReport where
  recoveredLeases : ℕ
  timedOutSends : ℕ
  expired : ℕ
  failed : ℕ
  deriving DecidableEq

/-! ## Assignments

The `SET` lists of the updates of `command_outbox` and `commands`. -/

namespace OutboxRow

/-- Contact opened: a held row is pending. -/
def openedAt (now : ℕ) (o : OutboxRow) : OutboxRow :=
  { o with state := .outboxPending, availableAtUs := now, updatedAtUs := now }

/-- A sent row with another acknowledgement deadline. -/
def withDeadline (deadline : Option ℕ) (now : ℕ) (o : OutboxRow) : OutboxRow :=
  { o with ackDeadlineAtUs := deadline, updatedAtUs := now }

/-- Contact closed: the row is held. -/
def heldAt (now : ℕ) (o : OutboxRow) : OutboxRow :=
  { o with
    state := .heldNoContact, leaseOwner := none, leaseExpiresAtUs := none
    ackDeadlineAtUs := none, updatedAtUs := now }

/-- Contact or spacecraft lost: the row failed. -/
def failedAt (reason : String) (now : ℕ) (o : OutboxRow) : OutboxRow :=
  { o with
    state := .deliveryFailed, lastErrorCode := some reason, lastDeliveryReason := some reason
    leaseOwner := none, leaseExpiresAtUs := none, ackDeadlineAtUs := none, updatedAtUs := now }

/-- The row of `_terminalize`. -/
def terminalizedAt (state : OutboxState) (reason : String) (now : ℕ) (o : OutboxRow) : OutboxRow :=
  { o with
    state := state, lastErrorCode := some reason, lastDeliveryReason := some reason
    leaseOwner := none, leaseExpiresAtUs := none, ackDeadlineAtUs := none
    updatedAtUs := max o.updatedAtUs now }

/-- The lease ran out. -/
def recoveredTo (state : OutboxState) (now : ℕ) (o : OutboxRow) : OutboxRow :=
  { o with state := state, leaseOwner := none, leaseExpiresAtUs := none, updatedAtUs := now }

/-- The acknowledgement did not come in time. -/
def retriedTo (state : OutboxState) (availableAt now : ℕ) (o : OutboxRow) : OutboxRow :=
  { o with
    state := state, availableAtUs := availableAt, leaseOwner := none, leaseExpiresAtUs := none
    ackDeadlineAtUs := none, updatedAtUs := now }

/-- The row is leased. -/
def leasedTo (owner : String) (leaseExpires now : ℕ) (o : OutboxRow) : OutboxRow :=
  { o with
    state := .dispatching, leaseOwner := some owner, leaseExpiresAtUs := some leaseExpires
    updatedAtUs := now }

/-- An attempt is counted. -/
def countedTo (attemptNumber now : ℕ) (o : OutboxRow) : OutboxRow :=
  { o with attemptCount := attemptNumber, updatedAtUs := now }

/-- The leased row is sent. -/
def sentAt (deadline now : ℕ) (o : OutboxRow) : OutboxRow :=
  { o with
    state := .sent, ackDeadlineAtUs := some deadline, leaseOwner := none
    leaseExpiresAtUs := none, updatedAtUs := now, lastErrorCode := none
    lastDeliveryReason := none }

/-- The leased row was not sent. -/
def notSentAt (reason : String) (now : ℕ) (o : OutboxRow) : OutboxRow :=
  { o with
    state := if o.expiresAtUs ≤ now then .expired else .outboxPending
    availableAtUs := now, leaseOwner := none, leaseExpiresAtUs := none, ackDeadlineAtUs := none
    lastErrorCode := some reason, lastDeliveryReason := some reason, updatedAtUs := now }

/-- The send failed. -/
def rolledBackTo (state : OutboxState) (availableAt : ℕ) (reason : String) (now : ℕ)
    (o : OutboxRow) : OutboxRow :=
  { o with
    state := state, availableAtUs := availableAt, leaseOwner := none, leaseExpiresAtUs := none
    ackDeadlineAtUs := none, lastErrorCode := some reason, lastDeliveryReason := some reason
    updatedAtUs := now }

/-- The row is acknowledged. -/
def ackedAt (now : ℕ) (o : OutboxRow) : OutboxRow :=
  { o with
    state := .acked, ackDeadlineAtUs := none, leaseOwner := none, leaseExpiresAtUs := none
    lastErrorCode := none, lastDeliveryReason := none, updatedAtUs := now }

/-- A new session replays the row. -/
def reboundAt (now : ℕ) (o : OutboxRow) : OutboxRow :=
  { o with
    state := .outboxPending, availableAtUs := now, leaseOwner := none, leaseExpiresAtUs := none
    ackDeadlineAtUs := none, lastErrorCode := some "LINK_REBOUND"
    lastDeliveryReason := some "LINK_REBOUND", updatedAtUs := now }

end OutboxRow

/-- The scalar `MAX` of SQLite of a column and a value: `NULL` if the column is. -/
def sqlMax (column : Option ℕ) (value : ℕ) : Option ℕ := column.map fun n => max n value

/-- A command in another state, its times moved by `MAX`. -/
def CommandRow.closedAt (state : CommandState) (now : ℕ) (c : CommandRow) : CommandRow :=
  { c with
    commandState := state, terminalAtUs := sqlMax c.terminalAtUs now
    updatedAtUs := max c.updatedAtUs now }

namespace Ledger

/-! ## Instances and contact -/

/-- A link that may replace the stored one: no older generation, and another
session only with a newer one. -/
def checkGeneration (row : InstanceRow) (generation session : U64) : Raises Unit :=
  if generation < row.linkGeneration ∨ (generation = row.linkGeneration ∧
      row.linkSessionId ≠ none ∧ row.linkSessionId ≠ some session) then
    ledgerError .bindingGeneration
      "link_generation must be monotonic and session changes require a new generation"
  else .ok ()

/-- `register_instance`. -/
def registerInstance (binding : LinkBinding) (now : ℕ) (l : Ledger) :
    Raises (LinkBinding × Ledger) :=
  match l.instances.find? binding.spacecraftInstanceId with
  | none => do
      let registered ← l.upsertInstance binding now
      .ok (binding, registered)
  | some row =>
      if row.state = .retired then
        ledgerError .bindingGeneration "retired spacecraft instance IDs cannot be reactivated"
      else do
        checkGeneration row binding.linkGeneration binding.linkSessionId
        let registered ← l.upsertInstance binding now
        .ok (binding, registered)

/-- The updates of the rows of `instance` when its contact opens. -/
def openContact (policy : OutboxPolicy) (instance_ : U64) (now : ℕ) (l : Ledger) :
    Raises Ledger := do
  let released ← l.updateOutbox
    (fun k o => o.targetSpacecraftInstanceId = instance_ && o.state = .heldNoContact &&
      o.expiresAtUs > now && l.hasDeliveryMode k .nextContact)
    (OutboxRow.openedAt now)
  released.updateOutbox
    (fun k o => o.targetSpacecraftInstanceId = instance_ && o.state = .sent &&
      o.ackDeadlineAtUs = none && o.expiresAtUs > now && l.hasDeliveryMode k .nextContact)
    (OutboxRow.withDeadline (some (now + policy.ackTimeoutUs)) now)

/-- The updates of the rows of `instance` when its contact closes. -/
def closeContact (instance_ : U64) (now : ℕ) (l : Ledger) : Raises Ledger := do
  let held ← l.updateOutbox
    (fun k o => o.targetSpacecraftInstanceId = instance_ &&
      (o.state = .outboxPending || o.state = .dispatching) && o.expiresAtUs > now &&
        l.hasDeliveryMode k .nextContact)
    (OutboxRow.heldAt now)
  let paused ← held.updateOutbox
    (fun k o => o.targetSpacecraftInstanceId = instance_ && o.state = .sent &&
      o.expiresAtUs > now && l.hasDeliveryMode k .nextContact)
    (OutboxRow.withDeadline none now)
  let failed ← paused.updateOutbox
    (fun k o => o.targetSpacecraftInstanceId = instance_ && o.state.nonterminal &&
      o.expiresAtUs > now && l.hasDeliveryMode k .immediate)
    (OutboxRow.failedAt "CONTACT_LOST" now)
  .ok (failed.updateCommands
    (fun k c => c.targetSpacecraftInstanceId = instance_ && c.commandState = .admitted &&
      (failed.outbox.find? k).any fun o =>
        o.state = .deliveryFailed && o.lastErrorCode = some "CONTACT_LOST")
    (CommandRow.closedAt .failed now))

/-- `set_contact_state`. -/
def setContactState (policy : OutboxPolicy) (instance_ : U64) (contact : GroundContactState)
    (now : ℕ) (l : Ledger) : Raises (LinkBinding × Ledger) :=
  match l.instances.find? instance_ with
  | none => ledgerError .bindingUnavailable "spacecraft instance is not bound"
  | some row =>
      match row.state, row.linkSessionId with
      | .active, some session => do
          let noted ← l.updateInstance instance_ now fun r => { r with contactState := contact }
          let updated ← (if row.contactState = contact then .ok noted
            else if contact.isOpen then noted.openContact policy instance_ now
            else noted.closeContact instance_ now)
          .ok (⟨instance_, row.linkGeneration, session, contact⟩, updated)
      | _, _ => ledgerError .bindingUnavailable "spacecraft instance is not bound"

/-! ## Reconciliation -/

/-- `_terminalize`, to `EXPIRED` or `DELIVERY_FAILED`. -/
def terminalize (key : RequestKey) (state : OutboxState) (reason : String) (now : ℕ) (l : Ledger) :
    Raises Ledger := do
  let closed ← l.updateOutboxRow key (fun o => o.state.nonterminal)
    (OutboxRow.terminalizedAt state reason now)
  .ok (closed.updateCommand key (fun c => c.commandState.nonterminal)
    (CommandRow.closedAt (if state = .acked then .acked else .failed) now))

/-- Where a row waits for its next attempt. -/
def waitingState (mode : DeliveryMode) (contactOpen : Bool) : OutboxState :=
  if mode = .nextContact ∧ contactOpen = false then .heldNoContact else .outboxPending

/-- A row of the query of `reconcile`. -/
structure ReconcileRow where
  key : RequestKey
  row : OutboxRow
  deliveryMode : DeliveryMode
  contactOpen : Bool

/-- The query of `reconcile`: the nonterminal rows, joined to their commands. -/
def reconcileRows (l : Ledger) : List ReconcileRow :=
  l.outbox.rows.filterMap fun entry =>
    if entry.2.state.nonterminal then
      (l.commands.find? entry.1).map fun c =>
        ⟨entry.1, entry.2, c.deliveryMode, l.contactOpen entry.2.targetSpacecraftInstanceId⟩
    else none

/-- The body of the loop of `reconcile`. -/
def reconcileRow (policy : OutboxPolicy) (now : ℕ) (r : ReconcileRow)
    (acc : ReconcileReport × Ledger) : Raises (ReconcileReport × Ledger) :=
  let report := acc.1
  let l := acc.2
  if r.row.expiresAtUs ≤ now then do
    let l' ← l.terminalize r.key .expired "EXPIRED" now
    .ok ({ report with expired := report.expired + 1 }, l')
  else if r.row.state = .dispatching ∧ r.row.leaseExpiresAtUs.any (· ≤ now) then
    if r.deliveryMode = .immediate ∧ r.contactOpen = false then do
      let l' ← l.terminalize r.key .deliveryFailed "CONTACT_LOST" now
      .ok ({ report with failed := report.failed + 1 }, l')
    else do
      let l' ← l.updateOutboxRow r.key (fun o => o.state = .dispatching)
        (OutboxRow.recoveredTo (waitingState r.deliveryMode r.contactOpen) now)
      .ok ({ report with recoveredLeases := report.recoveredLeases + 1 }, l')
  else if r.row.state = .sent ∧ r.row.ackDeadlineAtUs.any (· ≤ now) then
    let timedOut := { report with timedOutSends := report.timedOutSends + 1 }
    if r.row.attemptCount ≥ policy.maxAttempts then do
      let l' ← l.terminalize r.key .deliveryFailed "MAX_ATTEMPTS" now
      .ok ({ timedOut with failed := timedOut.failed + 1 }, l')
    else if r.deliveryMode = .immediate ∧ r.contactOpen = false then do
      let l' ← l.terminalize r.key .deliveryFailed "CONTACT_LOST" now
      .ok ({ timedOut with failed := timedOut.failed + 1 }, l')
    else do
      let delay ← backoff policy r.row.attemptCount
      let l' ← l.updateOutboxRow r.key (fun o => o.state = .sent)
        (OutboxRow.retriedTo (waitingState r.deliveryMode r.contactOpen) (now + delay) now)
      .ok (timedOut, l')
  else .ok (report, l)

/-- `reconcile`. -/
def reconcile (policy : OutboxPolicy) (now : ℕ) (l : Ledger) : Raises (ReconcileReport × Ledger) :=
  l.reconcileRows.foldlM (fun acc r => reconcileRow policy now r acc) (⟨0, 0, 0, 0⟩, l)

/-! ## Leases -/

/-- The conditions of `_claim` on a row and its instance. -/
def claimable (l : Ledger) (now : ℕ) (key? : Option RequestKey) (binding? : Option LinkBinding)
    (key : RequestKey) (o : OutboxRow) : Bool :=
  o.state = .outboxPending && o.availableAtUs ≤ now && o.expiresAtUs > now &&
    key?.all (· = key) &&
    (l.instances.find? o.targetSpacecraftInstanceId).any fun s =>
      s.state = .active && s.contactState = .contactOpen && s.linkSessionId.isSome &&
        binding?.all fun b =>
          o.targetSpacecraftInstanceId = b.spacecraftInstanceId &&
            s.linkGeneration = b.linkGeneration && s.linkSessionId = some b.linkSessionId

/-- The earlier of two due rows, by `available_at_us` and `created_at_us`. -/
def earlierDue (found : Option (RequestKey × OutboxRow)) (row : RequestKey × OutboxRow) :
    Option (RequestKey × OutboxRow) :=
  match found with
  | none => some row
  | some other =>
      if row.2.availableAtUs < other.2.availableAtUs ∨
          (row.2.availableAtUs = other.2.availableAtUs ∧
            row.2.createdAtUs < other.2.createdAtUs) then some row
      else found

/-- The row `_claim` selects, with its command and its instance. -/
def dueRow (l : Ledger) (now : ℕ) (key? : Option RequestKey) (binding? : Option LinkBinding) :
    Option (RequestKey × OutboxRow) :=
  (l.outbox.rows.filter fun entry =>
    l.claimable now key? binding? entry.1 entry.2 &&
      (l.commands.find? entry.1).isSome).foldl earlierDue none

/-- The payload of the stored semantic body. -/
def payloadOfBody (semanticBodyJcs : Bytes) : Raises (List (PyValue × PyValue)) := do
  let text ← utf8Decode semanticBodyJcs
  let body ← jsonLoads text
  match body with
  | .dict entries =>
      match dictGet? entries "payload" with
      | none => keyError "'payload'"
      | some (.dict payload) => .ok payload
      | some _ => typeError "command payload must be a dictionary"
  | _ => typeError "string indices must be integers"

/-- The transaction of `_claim`. -/
def claim (policy : OutboxPolicy) (key? : Option RequestKey) (binding? : Option LinkBinding)
    (owner : String) (now : ℕ) (l : Ledger) : Raises (Option OutboxLease × Ledger) :=
  match l.dueRow now key? binding? with
  | none => .ok (none, l)
  | some (key, o) =>
      match l.commands.find? key, l.instances.find? o.targetSpacecraftInstanceId with
      | some c, some s => do
          let leaseExpires := now + policy.leaseDurationUs
          let leased ← l.updateOutboxRow key (fun o => o.state = .outboxPending)
            (OutboxRow.leasedTo owner leaseExpires now)
          let payload ← payloadOfBody c.semanticBodyJcs
          .ok (some
            { requestKey := key
              targetSpacecraftInstanceId := o.targetSpacecraftInstanceId
              leaseOwner := owner
              leaseExpiresAtUs := leaseExpires
              effectiveExpiresAtUs := o.expiresAtUs
              attemptCount := o.attemptCount
              opcode := c.opcode
              missionArguments := c.missionArguments
              command := ⟨c.opcode, o.targetSpacecraftInstanceId, key, payload⟩
              binding :=
                ⟨o.targetSpacecraftInstanceId, s.linkGeneration, s.linkSessionId.getD 0,
                  s.contactState⟩ }, leased)
      | _, _ => .ok (none, l)

/-! ## Attempts -/

/-- `allocate_in_transaction` of `TcSequenceAllocator`. -/
structure SequenceAllocation where
  sequence : ℕ
  sequenceEpoch : U32
  rollover : Bool
  deriving DecidableEq

/-- `SPACE_PACKET_SEQUENCE_MODULUS`. -/
def spacePacketSequenceModulus : ℕ := 16384

/-- `TcSequenceAllocator.allocate_in_transaction`. -/
def allocateSequence (l : Ledger) (id : U64) (apid : ℕ) : Raises (SequenceAllocation × Ledger) :=
  if apid > 0x7FF then valueError "APID must be an integer in [0, 2047]"
  else
    let row := (l.sequences.find? (id, apid)).getD ⟨0, 0⟩
    if row.nextSequence = spacePacketSequenceModulus then
      if fits : row.sequenceEpoch.val + 1 < 2 ^ 32 then
        .ok (⟨0, ⟨row.sequenceEpoch.val + 1, fits⟩, true⟩, { l with
          sequences := l.sequences.set (id, apid) ⟨1, ⟨row.sequenceEpoch.val + 1, fits⟩⟩ })
      else ledgerError .sequenceAllocator
        "Space Packet sequence epoch exhausted; migrate spacecraft instance"
    else
      .ok (⟨row.nextSequence, row.sequenceEpoch, false⟩, { l with
        sequences := l.sequences.set (id, apid) ⟨row.nextSequence + 1, row.sequenceEpoch⟩ })

/-- The checks of `persist_attempt` and `prepare_attempt` inside the transaction:
the row of the lease. -/
def checkLease (policy : OutboxPolicy) (lease : OutboxLease) (now : ℕ) (l : Ledger) :
    Raises OutboxRow :=
  match l.outbox.find? lease.requestKey with
  | none => ledgerError .leaseLost "outbox lease is no longer owned"
  | some o =>
      match l.instances.find? o.targetSpacecraftInstanceId with
      | none => ledgerError .leaseLost "outbox lease is no longer owned"
      | some s =>
          if o.state ≠ .dispatching ∨ o.leaseOwner ≠ some lease.leaseOwner then
            ledgerError .leaseLost "outbox lease is no longer owned"
          else if o.leaseExpiresAtUs.all (· ≤ now) then
            ledgerError .leaseLost "outbox lease has expired"
          else if o.attemptCount ≥ policy.maxAttempts then
            ledgerError .attemptLimit "maximum outbox attempts reached"
          else if o.targetSpacecraftInstanceId ≠ lease.binding.spacecraftInstanceId then
            ledgerError .leaseLost "attempt binding target does not match command target"
          else if s.state ≠ .active ∨ s.linkGeneration ≠ lease.binding.linkGeneration ∨
              s.linkSessionId ≠ some lease.binding.linkSessionId ∨
                s.contactState ≠ .contactOpen then
            ledgerError .leaseLost "link binding is no longer active for this attempt"
          else .ok o

/-- The rows a lease and the clock select. -/
def heldBy (lease : OutboxLease) (now : ℕ) (o : OutboxRow) : Bool :=
  o.state = .dispatching && o.leaseOwner = some lease.leaseOwner &&
    o.leaseExpiresAtUs.any fun expires => expires > now

/-- The insert of an attempt and the new `attempt_count` of the selected row. -/
def insertLeasedAttempt (l : Ledger) (row : AttemptRow) (selects : OutboxRow → Bool) (now : ℕ) :
    Raises (ℕ × Ledger) := do
  let inserted ← l.insertAttempt row
  let counted ← inserted.2.updateOutboxRow row.requestKey selects
    (OutboxRow.countedTo row.attemptNumber now)
  .ok (inserted.1, counted)

/-- The record of an inserted attempt. -/
def attemptRecord (id : ℕ) (row : AttemptRow) (rollover : Bool) : AttemptRecord where
  attemptId := id
  requestKey := row.requestKey
  targetSpacecraftInstanceId := row.targetSpacecraftInstanceId
  attemptNumber := row.attemptNumber
  apid := row.apid
  packetSequence := row.packetSequence
  sequenceEpoch := row.sequenceEpoch
  rollover := rollover
  linkGeneration := row.linkGeneration
  linkSessionId := row.linkSessionId
  encodedTc := row.encodedTc
  createdAtUs := row.createdAtUs
  frameSequence := row.frameSequence
  tcProfileId := row.tcProfileId
  tcProfileSha256 := row.tcProfileSha256
  spacePacketType := row.spacePacketType
  spacePacketSequenceFlags := row.spacePacketSequenceFlags
  encodedTcSha256 := hexOfBytes row.encodedTcSha256

/-- `persist_attempt`. -/
def persistAttempt (policy : OutboxPolicy) (lease : OutboxLease) (encodedTc : Bytes)
    (apid frameSequence : ℕ) (binding? : Option LinkBinding) (now : ℕ) (l : Ledger) :
    Raises (AttemptRecord × Ledger) :=
  if encodedTc = [] then valueError "encoded_tc must not be empty"
  else if binding?.getD lease.binding ≠ lease.binding then
    ledgerError .leaseLost "attempt binding differs from the claimed link snapshot"
  else do
    let o ← l.checkLease policy lease now
    let sequence ← l.allocateSequence lease.binding.spacecraftInstanceId apid
    let row : AttemptRow :=
      { requestKey := lease.requestKey
        targetSpacecraftInstanceId := lease.binding.spacecraftInstanceId
        attemptNumber := o.attemptCount + 1
        linkGeneration := lease.binding.linkGeneration
        linkSessionId := lease.binding.linkSessionId
        apid := apid
        packetSequence := sequence.1.sequence
        frameSequence := frameSequence
        encodedTc := encodedTc
        encodedTcSha256 := sha256 encodedTc
        sendResult := .persistedNotSent
        sentAtUs := none
        ackedAtUs := none
        createdAtUs := now
        sequenceEpoch := sequence.1.sequenceEpoch
        tcProfileId := "legacy"
        tcProfileSha256 := "legacy"
        spacePacketType := 1
        spacePacketSequenceFlags := 3 }
    let inserted ← sequence.2.insertLeasedAttempt row
      (fun o => o.state = .dispatching && o.leaseOwner = some lease.leaseOwner) now
    .ok (attemptRecord inserted.1 row sequence.1.rollover, inserted.2)

/-- `prepare_attempt`. -/
def prepareAttempt (policy : OutboxPolicy) (lease : OutboxLease) (profile : TcWireProfile)
    (binding? : Option LinkBinding) (now : ℕ) (l : Ledger) : Raises (AttemptRecord × Ledger) :=
  if binding?.getD lease.binding ≠ lease.binding then
    ledgerError .leaseLost "attempt binding differs from the claimed link snapshot"
  else do
    let o ← l.checkLease policy lease now
    let sequence ← l.allocateSequence lease.binding.spacecraftInstanceId profile.tcApid
    let frameSequence := sequence.1.sequence % 256
    let encodedTc ← profile.encode lease.command sequence.1.sequence frameSequence
    let row : AttemptRow :=
      { requestKey := lease.requestKey
        targetSpacecraftInstanceId := lease.binding.spacecraftInstanceId
        attemptNumber := o.attemptCount + 1
        linkGeneration := lease.binding.linkGeneration
        linkSessionId := lease.binding.linkSessionId
        apid := profile.tcApid
        packetSequence := sequence.1.sequence
        frameSequence := frameSequence
        encodedTc := encodedTc
        encodedTcSha256 := sha256 encodedTc
        sendResult := .persistedNotSent
        sentAtUs := none
        ackedAtUs := none
        createdAtUs := now
        sequenceEpoch := sequence.1.sequenceEpoch
        tcProfileId := profile.profileId
        tcProfileSha256 := profile.profileSha256
        spacePacketType := 1
        spacePacketSequenceFlags := 3 }
    let inserted ← sequence.2.insertLeasedAttempt row (heldBy lease now) now
    if sequence.2.matchesOutbox lease.requestKey (heldBy lease now) = false then
      ledgerError .leaseLost "outbox lease was lost while preparing attempt"
    else .ok (attemptRecord inserted.1 row sequence.1.rollover, inserted.2)

/-- The rows an attempt record selects, with a result. -/
def isAttempt (attempt : AttemptRecord) (key : RequestKey) (result : SendResult) (id : ℕ)
    (row : AttemptRow) : Bool :=
  id = attempt.attemptId && row.requestKey = key && row.attemptNumber = attempt.attemptNumber &&
    row.sendResult = result

/-- Whether a row is selected: the `rowcount` of its update, or the outcome of `SELECT 1`. -/
def hasAttempt (l : Ledger) (attempt : AttemptRecord) (key : RequestKey) (result : SendResult) :
    Bool :=
  l.attempts.rows.any fun row => isAttempt attempt key result row.1 row.2

/-- `mark_sent`. -/
def markSent (policy : OutboxPolicy) (lease : OutboxLease) (attempt : AttemptRecord) (now : ℕ)
    (l : Ledger) : Raises (Unit × Ledger) := do
  let armed ← l.updateOutboxRow lease.requestKey (heldBy lease now)
    (OutboxRow.sentAt (now + policy.ackTimeoutUs) now)
  if l.matchesOutbox lease.requestKey (heldBy lease now) = false then
    ledgerError .leaseLost "cannot mark sent after lease was lost"
  else if armed.hasAttempt attempt attempt.requestKey .persistedNotSent = false then
    ledgerError .leaseLost "attempt is not the persisted attempt for this lease"
  else
    .ok ((), armed.updateAttempts (isAttempt attempt attempt.requestKey .persistedNotSent)
      fun row => { row with sendResult := .sent, sentAtUs := some now })

/-- `mark_not_sent`. -/
def markNotSent (lease : OutboxLease) (attempt : AttemptRecord) (reason : String) (now : ℕ)
    (l : Ledger) : Raises (Unit × Ledger) :=
  if reason = "" then valueError "not-sent reason must not be empty"
  else if l.hasAttempt attempt attempt.requestKey .persistedNotSent = false then
    ledgerError .leaseLost "attempt is not the persisted attempt for this lease"
  else do
    let closed := l.updateAttempts (isAttempt attempt attempt.requestKey .persistedNotSent)
      fun row => { row with sendResult := .notSent reason }
    let released ← closed.updateOutboxRow lease.requestKey (heldBy lease now)
      (OutboxRow.notSentAt reason now)
    if closed.matchesOutbox lease.requestKey (heldBy lease now) = false then
      ledgerError .leaseLost "cannot complete not-sent attempt after lease loss"
    else if released.matchesOutbox lease.requestKey fun o => o.state = .expired then
      .ok ((), released.updateCommand lease.requestKey (fun c => c.commandState = .admitted)
        (CommandRow.closedAt .failed now))
    else .ok ((), released)

/-- `rollback_sent_attempt`. -/
def rollbackSentAttempt (policy : OutboxPolicy) (lease : OutboxLease) (attempt : AttemptRecord)
    (reason : String) (now : ℕ) (l : Ledger) : Raises (Bool × Ledger) :=
  let key := lease.requestKey
  if reason = "" then valueError "send rollback reason must not be empty"
  else
    match l.outbox.find? key, l.commands.find? key with
    | some o, some c =>
        if o.state ≠ .sent then .ok (false, l)
        else if l.hasAttempt attempt key .sent = false then .ok (false, l)
        else do
          let contactOpen := l.contactOpen o.targetSpacecraftInstanceId
          let closed := l.updateAttempts (isAttempt attempt key .sent)
            fun row => { row with sendResult := .notSent reason }
          if o.expiresAtUs ≤ now then do
            let l' ← closed.terminalize key .expired "EXPIRED" now
            .ok (true, l')
          else if c.deliveryMode = .immediate ∧ contactOpen = false then do
            let l' ← closed.terminalize key .deliveryFailed "CONTACT_LOST" now
            .ok (true, l')
          else do
            let delay ← backoff policy o.attemptCount
            let l' ← closed.updateOutboxRow key (fun o => o.state = .sent)
              (OutboxRow.rolledBackTo (waitingState c.deliveryMode contactOpen) (now + delay)
                reason now)
            .ok (true, l')
    | _, _ => .ok (false, l)

/-- `mark_attempt_not_sent`. -/
def markAttemptNotSent (attempt : AttemptRecord) (reason : String) (l : Ledger) :
    Raises (Bool × Ledger) :=
  if reason = "" then valueError "not-sent reason must not be empty"
  else
    .ok (l.hasAttempt attempt attempt.requestKey .persistedNotSent,
      l.updateAttempts (isAttempt attempt attempt.requestKey .persistedNotSent)
        fun row => { row with sendResult := .notSent reason })

/-! ## Receipts -/

/-- A sent attempt on the link of a receipt. -/
def hasSentAttempt (l : Ledger) (key : RequestKey) (from_ : TmCorrelation) : Bool :=
  l.attempts.rows.any fun row => row.2.requestKey = key &&
    row.2.targetSpacecraftInstanceId = from_.sourceSpacecraftInstanceId &&
      row.2.linkGeneration = from_.linkGeneration && row.2.linkSessionId = from_.linkSessionId &&
        row.2.sendResult = .sent

/-- `_ingest_ack_in_transaction`: `ingest_ack` without and `ingest_correlated_tm`
with a correlation. -/
def ingestAck (key : RequestKey) (success : Bool) (reason : Option String)
    (correlation : Option TmCorrelation) (now : ℕ) (l : Ledger) : Raises (AckResult × Ledger) :=
  match l.outbox.find? key with
  | none => keyError "'outbox request does not exist'"
  | some o =>
      if o.state.nonterminal = false then .ok (⟨key, o.state, true, reason⟩, l)
      else if correlation.any fun from_ =>
          o.targetSpacecraftInstanceId ≠ from_.sourceSpacecraftInstanceId || o.state ≠ .sent ||
            !l.hasSentAttempt key from_ then
        .ok (⟨key, o.state, true, some "UNCORRELATED_TM_ACK"⟩, l)
      else if success = false then do
        -- `reason or "NACK"`
        let given := if reason = some "" then "NACK" else reason.getD "NACK"
        let l' ← l.terminalize key .deliveryFailed given now
        .ok (⟨key, .deliveryFailed, false, some given⟩, l')
      else do
        let acked ← l.updateOutboxRow key (fun _ => true)
          (OutboxRow.ackedAt now)
        let commanded := acked.updateCommand key (fun _ => true)
          (CommandRow.closedAt .acked now)
        .ok (⟨key, .acked, false, none⟩, commanded.updateAttempts
          (fun _ row => row.requestKey = key && row.sendResult = .sent)
          fun row => { row with sendResult := .acked, ackedAtUs := some now })

end Ledger

end CubeNano

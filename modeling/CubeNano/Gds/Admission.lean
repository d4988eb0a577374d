import CubeNano.Gds.RequestKeys

/-!
# Admission

The transactions of `AtomicCommandLedger`: `admit` looks the idempotency key up,
checks target, expiry, contact and capacity, allocates a request key and inserts
the command together with its outbox row; `admitProductDownlink` does the same for
a downlink that a product calls for.

The semantic body arrives normalised: its expiry is an instant, or nothing for
the default.

## Main definitions

* `admitCommand`, `admitProductDownlink` — the two admissions
* `Ledger.insertRequest` — what they have in common
-/

namespace CubeNano

/-- `SemanticIdempotency`. -/
structure SemanticIdempotency where
  payload : List (PyValue × PyValue)
  deliveryMode : DeliveryMode
  expiresAtUs : Option ℤ
  canonicalJcs : Bytes
  digest : Bytes

/-- `validate_idempotency_key`. -/
def validateIdempotencyKey (value : String) : Raises String :=
  if ¬ (1 ≤ value.length ∧ value.length ≤ 255) then
    ledgerError .idempotencyValidation "Idempotency-Key must contain 1..255 characters"
  else if value.toList.any fun c => c.toNat < 0x21 ∨ 0x7E < c.toNat then
    ledgerError .idempotencyValidation
      "Idempotency-Key must use visible ASCII without surrounding whitespace"
  else .ok value

/-- `_validate_principal`. -/
def validatePrincipal (principal : String) : Raises String :=
  if ¬ (1 ≤ principal.length ∧ principal.length ≤ 255) then
    ledgerError .idempotencyValidation "principal must contain 1..255 characters"
  else if principal.toList.any fun c => c.toNat < 0x20 then
    ledgerError .idempotencyValidation "principal must not contain controls"
  else .ok principal

/-- `DEFAULT_IMMEDIATE_TTL` and `DEFAULT_NEXT_CONTACT_TTL`. -/
def defaultTtlUs : DeliveryMode → ℕ
  | .immediate => 300000000
  | .nextContact => 3600000000

/-- `MIN_COMMAND_TTL`. -/
def minCommandTtlUs : ℤ := 1000000

/-- `MAX_COMMAND_TTL`. -/
def maxCommandTtlUs : ℤ := 86400000000

/-- `materialize_effective_expiry`. -/
def materializeEffectiveExpiry (semantic : SemanticIdempotency) (now : ℕ) : Raises ℕ :=
  let effective : ℤ := semantic.expiresAtUs.getD (now + defaultTtlUs semantic.deliveryMode)
  if effective - now < minCommandTtlUs ∨ maxCommandTtlUs < effective - now then
    ledgerError .idempotencyValidation
      "effective command TTL must be between 1 second and 24 hours"
  else .ok effective.toNat

/-- `AdmissionResult`. -/
structure AdmissionResult where
  requestKey : RequestKey
  targetSpacecraftInstanceId : U64
  effectiveExpiresAtUs : ℕ
  commandState : CommandState
  outboxState : OutboxState
  missionDigestHex : Text
  httpDigestHex : Text
  acceptedAtUs : ℕ
  replayed : Bool
  deriving DecidableEq

/-- `_result_from_row`. -/
def resultFromRow (key : RequestKey) (c : CommandRow) (o : OutboxRow) (replayed : Bool) :
    AdmissionResult where
  requestKey := key
  targetSpacecraftInstanceId := c.targetSpacecraftInstanceId
  effectiveExpiresAtUs := c.effectiveExpiresAtUs
  commandState := c.commandState
  outboxState := o.state
  missionDigestHex := c.missionDigest
  httpDigestHex := hexOfBytes c.httpDigest
  acceptedAtUs := c.createdAtUs
  replayed := replayed

/-- The arguments of `admit`; `preAdmissionCheck` is the outcome of the callback. -/
structure AdmitRequest where
  idempotencyKey : String
  principal : String
  semantic : SemanticIdempotency
  targetSpacecraftInstanceId : U64
  opcode : CommandOpcode
  contactAvailable : Bool
  preAdmissionCheck : Raises Unit
  draws : ℕ → U64

/-- The arguments of `admit_product_downlink`. -/
structure DownlinkRequest where
  originRequestKey : RequestKey
  productRef : ProductRef
  semantic : SemanticIdempotency
  targetSpacecraftInstanceId : U64
  contactAvailable : Bool
  retry : Bool
  draws : ℕ → U64

namespace Ledger

/-- A retired target refuses admissions. -/
def checkTarget (l : Ledger) (target : U64) : Raises Unit :=
  if (l.instances.find? target).any fun s => s.state = .retired then
    ledgerError .targetRetired "target spacecraft instance is retired"
  else .ok ()

/-- Immediate delivery needs a contact. -/
def checkContact (mode : DeliveryMode) (contactAvailable : Bool) : Raises Unit :=
  if mode = .immediate ∧ contactAvailable = false then
    ledgerError .noContact "immediate delivery requires an open contact"
  else .ok ()

/-- The nonterminal rows are bounded. -/
def checkCapacity (l : Ledger) (outboxCapacity : ℕ) : Raises Unit :=
  if l.activeCount ≥ outboxCapacity then
    ledgerError .outboxCapacity s!"outbox capacity {outboxCapacity} is exhausted"
  else .ok ()

/-- The retained marker of an idempotency key: deleted when it ran out, otherwise
a reason to refuse. -/
def checkRetiredKey (l : Ledger) (marker : U64 × String × String) (digest : Bytes) (now : ℕ) :
    Raises Ledger :=
  match l.retiredKeys.find? marker with
  | none => .ok l
  | some retired =>
      if retired.retainedUntilUs ≤ now then
        .ok { l with retiredKeys := l.retiredKeys.erase marker }
      else if retired.httpDigest ≠ digest then
        ledgerError .idempotencyConflict
          "retained Idempotency-Key has another semantic digest"
      else
        ledgerError .idempotencyKeyRetired
          "Idempotency-Key metadata is retained but its command was pruned"

/-- Key allocation and the two inserts of an admission. -/
def insertRequest (l : Ledger) (now : ℕ) (draws : ℕ → U64) (epoch : U64)
    (principal idempotencyKey : String) (semantic : SemanticIdempotency) (target : U64)
    (opcode : CommandOpcode) (effectiveExpiry : ℕ) (contactAvailable : Bool) :
    Raises (AdmissionResult × Ledger) := do
  let allocated ← allocateInTransaction draws now l
  let key := allocated.1
  let command : Command := ⟨opcode, target, key, semantic.payload⟩
  let arguments ← command.argumentBytes
  let digest ← missionDigest command
  let outboxState : OutboxState :=
    if semantic.deliveryMode = .nextContact ∧ contactAvailable = false then .heldNoContact
    else .outboxPending
  let c : CommandRow :=
    { targetSpacecraftInstanceId := target
      gdsInstallationEpoch := epoch
      principal := principal
      idempotencyKey := idempotencyKey
      httpDigest := semantic.digest
      semanticBodyJcs := semantic.canonicalJcs
      opcode := opcode
      missionArguments := arguments
      missionDigest := digest
      deliveryMode := semantic.deliveryMode
      effectiveExpiresAtUs := effectiveExpiry
      commandState := .admitted
      createdAtUs := now
      updatedAtUs := now
      terminalAtUs := none }
  let o : OutboxRow :=
    { targetSpacecraftInstanceId := target
      state := outboxState
      availableAtUs := now
      expiresAtUs := effectiveExpiry
      attemptCount := 0
      leaseOwner := none
      leaseExpiresAtUs := none
      ackDeadlineAtUs := none
      lastErrorCode := none
      lastDeliveryReason := none
      createdAtUs := now
      updatedAtUs := now }
  let withCommand ← allocated.2.insertCommand key c
  let withOutbox ← withCommand.insertOutbox key o
  .ok (resultFromRow key c o false, withOutbox)

/-- `AtomicCommandLedger.admit`. -/
def admitCommand (outboxCapacity : ℕ) (r : AdmitRequest) (now : ℕ) (l : Ledger) :
    Raises (AdmissionResult × Ledger) := do
  let idempotencyKey ← validateIdempotencyKey r.idempotencyKey
  let principal ← validatePrincipal r.principal
  match l.metadata with
  | none => ledgerError .ledgerIntegrity "gds_metadata is missing"
  | some metadata =>
      let epoch := metadata.gdsInstallationEpoch
      match l.commands.rows.find? fun row => row.2.gdsInstallationEpoch = epoch ∧
          row.2.principal = principal ∧ row.2.idempotencyKey = idempotencyKey with
      | some (key, c) =>
          if c.httpDigest ≠ r.semantic.digest then
            ledgerError .idempotencyConflict
              "Idempotency-Key was already used with another semantic body"
          else
            match l.outbox.find? key with
            | none =>
                ledgerError .ledgerIntegrity "admitted command has no transactional outbox row"
            | some o => .ok (resultFromRow key c o true, l)
      | none => do
          let kept ← l.checkRetiredKey (epoch, principal, idempotencyKey) r.semantic.digest now
          kept.checkTarget r.targetSpacecraftInstanceId
          r.preAdmissionCheck
          let expiry ← materializeEffectiveExpiry r.semantic now
          checkContact r.semantic.deliveryMode r.contactAvailable
          kept.checkCapacity outboxCapacity
          kept.insertRequest now r.draws epoch principal idempotencyKey r.semantic
            r.targetSpacecraftInstanceId r.opcode expiry r.contactAvailable

/-- `PRODUCT_DOWNLINK_PRINCIPAL`. -/
def productDownlinkPrincipal : String := "gds-product-downlink"

/-- The later of two admissions of a product. -/
def laterAdmission (found : Option (RequestKey × DownlinkRow))
    (row : RequestKey × DownlinkRow) : Option (RequestKey × DownlinkRow) :=
  match found with
  | none => some row
  | some other => if other.2.admissionOrdinal < row.2.admissionOrdinal then some row else found

/-- The latest admission of a product that still has its command and outbox row. -/
def latestDownlink (l : Ledger) (origin : RequestKey) (product : ProductRef) :
    Option (RequestKey × DownlinkRow) :=
  (l.downlinks.rows.filter fun row =>
    row.2.originRequestKey = origin ∧ row.2.productRef = product ∧
      (l.commands.find? row.1).isSome ∧ (l.outbox.find? row.1).isSome).foldl laterAdmission none

/-- `INSERT INTO product_downlink_ledger`. -/
def insertDownlink (l : Ledger) (key : RequestKey) (row : DownlinkRow) : Raises Ledger :=
  if l.downlinks.rows.any fun r => r.2 = row then
    integrityError "UNIQUE constraint failed: product_downlink_ledger.admission_ordinal"
  else
    match l.downlinks.insert key row with
    | none => integrityError "UNIQUE constraint failed: product_downlink_ledger"
    | some downlinks => .ok { l with downlinks }

/-- The idempotency key of a downlink admission. -/
def downlinkIdempotencyKey (origin : RequestKey) (product : ProductRef) (ordinal : ℕ) : String :=
  s!"product-downlink:{hexDigits 16 origin.groundInstanceId.val}:" ++
    s!"{hexDigits 8 origin.requestId.val}:{hexDigits 8 product.originBootId.val}:" ++
      s!"{hexDigits 8 product.productId.val}:{ordinal}"

/-- The new admission of `admit_product_downlink`. -/
def admitNewDownlink (outboxCapacity : ℕ) (r : DownlinkRequest) (ordinal now : ℕ) (l : Ledger) :
    Raises (AdmissionResult × Ledger) :=
  match l.metadata with
  | none => ledgerError .ledgerIntegrity "gds_metadata is missing"
  | some metadata => do
      l.checkTarget r.targetSpacecraftInstanceId
      checkContact r.semantic.deliveryMode r.contactAvailable
      l.checkCapacity outboxCapacity
      let expiry ← materializeEffectiveExpiry r.semantic now
      let admitted ← l.insertRequest now r.draws metadata.gdsInstallationEpoch
        productDownlinkPrincipal (downlinkIdempotencyKey r.originRequestKey r.productRef ordinal)
        r.semantic r.targetSpacecraftInstanceId .productRequestDownlink expiry r.contactAvailable
      let recorded ← admitted.2.insertDownlink admitted.1.requestKey
        ⟨r.originRequestKey, r.productRef, ordinal⟩
      .ok (admitted.1, recorded)

/-- `admit_product_downlink`. -/
def admitProductDownlink (outboxCapacity : ℕ) (r : DownlinkRequest) (now : ℕ) (l : Ledger) :
    Raises (AdmissionResult × Ledger) :=
  if r.productRef.spacecraftInstanceId ≠ r.targetSpacecraftInstanceId then
    ledgerError .idempotencyValidation
      "product_ref spacecraft_instance_id must match the downlink target"
  else
    match l.latestDownlink r.originRequestKey r.productRef with
    | none => l.admitNewDownlink outboxCapacity r 1 now
    | some (key, row) =>
        match l.commands.find? key, l.outbox.find? key with
        | some c, some o =>
            if r.retry = false ∨ o.state.nonterminal = true then
              .ok (resultFromRow key c o true, l)
            else l.admitNewDownlink outboxCapacity r (row.admissionOrdinal + 1) now
        | _, _ => l.admitNewDownlink outboxCapacity r 1 now

end Ledger

end CubeNano

import CubeNano.Gds.Outbox

/-!
# The spacecraft binding

`SpacecraftBindingManager._bind_in_transaction` of `gds/binding.py`: a new session
of the bound spacecraft puts its nonterminal rows back to pending, another
spacecraft retires the bound one and fails them.

## Main definitions

* `bind` — the transaction of a binding
-/

namespace CubeNano

/-- `BindingMigration`. -/
structure BindingMigration where
  previous : Option LinkBinding
  current : LinkBinding
  retiredInstanceId : Option U64
  terminalizedCommands : ℕ
  deriving DecidableEq

namespace Ledger

/-- `_read_contact_state`. -/
def readContactState (l : Ledger) (id : U64) : GroundContactState :=
  ((l.instances.find? id).map InstanceRow.contactState).getD .noContact

/-- The binding of the metadata, with its recorded contact. -/
def previousBinding (l : Ledger) (metadata : MetadataRow) : Option LinkBinding :=
  metadata.bound.map fun b =>
    ⟨b.spacecraftInstanceId, b.linkGeneration, b.linkSessionId,
      l.readContactState b.spacecraftInstanceId⟩

/-- The updates of a rebind: the rows go back to pending and their attempts are
no longer correlated. -/
def rebindRows (old : U64) (now : ℕ) (l : Ledger) : Raises Ledger := do
  let rebound ← l.updateOutbox
    (fun _ o => o.targetSpacecraftInstanceId = old && o.state.nonterminal)
    (OutboxRow.reboundAt now)
  .ok (rebound.updateAttempts
    (fun _ row => row.targetSpacecraftInstanceId = old &&
      (row.sendResult = .persistedNotSent || row.sendResult = .sent))
    fun row => { row with sendResult := .notSent "REBIND" })

/-- The rows of a spacecraft that a retirement fails. -/
def retiredRows (old : U64) (o : OutboxRow) : Bool :=
  o.targetSpacecraftInstanceId = old && o.state.nonterminal

/-- The updates of a retirement. -/
def retireInstance (old : U64) (now : ℕ) (l : Ledger) : Raises Ledger := do
  let failed ← l.updateOutbox (fun _ o => retiredRows old o)
    (OutboxRow.failedAt "TARGET_INSTANCE_RETIRED" now)
  let closed := failed.updateAttempts
    (fun _ row => row.targetSpacecraftInstanceId = old && row.sendResult = .persistedNotSent)
    fun row => { row with sendResult := .notSent "REBIND" }
  let commanded := closed.updateCommands
    (fun k c => c.targetSpacecraftInstanceId = old && c.commandState = .admitted &&
      (closed.outbox.find? k).any fun o =>
        o.state = .deliveryFailed && o.lastErrorCode = some "TARGET_INSTANCE_RETIRED")
    (CommandRow.closedAt .failed now)
  commanded.updateInstance old now fun r =>
    { r with state := .retired, contactState := .noContact }

/-- The check of a bound target's generation. -/
def checkTargetRow (l : Ledger) (metadata : MetadataRow) (current : LinkBinding) : Raises Unit :=
  match l.instances.find? current.spacecraftInstanceId with
  | none => .ok ()
  | some row =>
      if row.state = .retired then
        ledgerError .targetInstanceRetired "retired spacecraft instance IDs cannot be reactivated"
      else if metadata.bound.isSome then
        checkGeneration row current.linkGeneration current.linkSessionId
      else .ok ()

/-- The new instance row and the new metadata. -/
def publishBinding (l : Ledger) (metadata : MetadataRow) (current : LinkBinding) (now : ℕ) :
    Raises Ledger := do
  let published ← l.upsertInstance current now
  .ok { published with
    metadata := some { metadata with
      bound := some ⟨current.spacecraftInstanceId, current.linkGeneration,
        current.linkSessionId⟩ } }

/-- `_bind_in_transaction`. -/
def bind (current : LinkBinding) (now : ℕ) (l : Ledger) : Raises (BindingMigration × Ledger) :=
  match l.metadata with
  | none => ledgerError .bindingFence "GDS metadata must be initialized before binding"
  | some metadata => do
      l.checkTargetRow metadata current
      match l.previousBinding metadata with
      | none => do
          let published ← l.publishBinding metadata current now
          .ok (⟨none, current, none, 0⟩, published)
      | some previous =>
          if previous.spacecraftInstanceId = current.spacecraftInstanceId ∧
              previous.linkGeneration = current.linkGeneration ∧
                previous.linkSessionId = current.linkSessionId ∧
                  previous.contactState ≠ current.contactState then
            ledgerError .bindingFence
              "contact state changes must use OutboxService.set_contact_state"
          else if previous = current then do
            let published ← l.publishBinding metadata current now
            .ok (⟨some previous, current, none, 0⟩, published)
          else if previous.spacecraftInstanceId = current.spacecraftInstanceId then do
            let rebound ← l.rebindRows previous.spacecraftInstanceId now
            let published ← rebound.publishBinding metadata current now
            .ok (⟨some previous, current, none, 0⟩, published)
          else do
            let retired ← l.retireInstance previous.spacecraftInstanceId now
            let published ← retired.publishBinding metadata current now
            .ok (⟨some previous, current, some previous.spacecraftInstanceId,
              (l.outbox.rows.filter fun row =>
                retiredRows previous.spacecraftInstanceId row.2).length⟩, published)

end Ledger

end CubeNano

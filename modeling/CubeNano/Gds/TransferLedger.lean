import CubeNano.Lib.Machine
import CubeNano.Lib.RankedMerge
import CubeNano.Lib.Table
import CubeNano.Protocol.Command
import CubeNano.Protocol.ProductRef

/-!
# Downlink transfers in the ground ledger

The transfer columns of `product_downlink_ledger` and the table
`product_downlink_pending_files` of `gds/ledger.py`.  An APID 2 receipt correlates a
downlink request with a transfer; an APID 3 observation of a transfer that no request is
correlated with waits in the pending table for as long as its lifetime lasts.

A transaction is a function from the tables to a value and the tables, or to an exception,
in which case `SQLiteWriter` rolls back.  Instants are microseconds.

## Main definitions

* `monotonicDownlinkState` — the merge of two transfer states
* `TransferLedger` — the tables
* `TransferLedger.updateProductDownlinkTransfer` — a receipt
* `TransferLedger.updateProductDownlinkFileState` — an observation
* `transferMachine` — the ledger as a machine over timed events

## Main statements

* `TransferLedger.find?_pending_reconcile` — which observations outlive a reconciliation
* `TransferLedger.updateProductDownlinkTransfer_cases`,
  `TransferLedger.updateProductDownlinkFileState_cases` — what the two methods do
-/

namespace CubeNano

/-! ## Transfer states -/

/-- `transfer_state`. -/
inductive ProgressState
  | admitted
  | dispatched
  | receiving
  | verified
  | failed
  | canceled
  deriving DecidableEq, Repr

/-- `_PRODUCT_DOWNLINK_STATE_RANK`. -/
def ProgressState.rank : ProgressState → ℕ
  | admitted => 0
  | dispatched => 1
  | receiving => 2
  | verified | failed | canceled => 3

/-- The states an APID 3 observation may report. -/
def ProgressState.ofFile : ProgressState → Bool
  | .receiving | .verified | .failed | .canceled => true
  | .admitted | .dispatched => false

/-- `_monotonic_downlink_state`. -/
def monotonicDownlinkState (current candidate : ProgressState) : ProgressState :=
  if candidate.rank < current.rank then current
  else if current.rank = 3 ∧ current ≠ candidate then current
  else candidate

/-- The ranking of the transfer states: the terminal states are at the top. -/
def downlinkRanking : Ranking ProgressState where
  rank := ProgressState.rank
  top := 3
  rank_le s := by cases s <;> decide
  injective s s' same below := by
    cases s <;> cases s' <;> first | rfl | exact absurd same (by decide) | exact absurd rfl below

theorem monotonicDownlinkState_eq_merge :
    monotonicDownlinkState = downlinkRanking.merge := rfl

/-! ## Rows -/

/-- The columns of a row of `product_downlink_ledger` that follow its transfer. -/
structure CorrelationRow where
  productRef : ProductRef
  transferId : Option U32
  transferState : ProgressState
  createdAtUs : ℕ
  updatedAtUs : ℕ
  deriving DecidableEq

/-- What an APID 3 observation is about. -/
@[ext] structure FileIdentity where
  productRef : ProductRef
  transferId : U32
  deriving DecidableEq

/-- A row of `product_downlink_pending_files`. -/
structure PendingFile where
  transferState : ProgressState
  firstObservedAtUs : ℕ
  updatedAtUs : ℕ
  expiresAtUs : ℕ
  deriving DecidableEq

/-- An audit entry of `PRODUCT_DOWNLINK_PRINCIPAL` about a transfer. -/
inductive TransferAudit
  /-- `PRODUCT_DOWNLINK_FILE_DEFERRED` -/
  | deferred (file : FileIdentity) (state : ProgressState)
  /-- `PRODUCT_DOWNLINK_FILE_DEFERRED_EXPIRED` -/
  | expired (file : FileIdentity) (state : ProgressState)
  /-- `PRODUCT_DOWNLINK_FILE_CORRELATED` -/
  | correlated (file : FileIdentity) (pendingState : ProgressState) (key : RequestKey)
      (state : ProgressState)
  deriving DecidableEq

/-- `PENDING_FILE_OBSERVATION_TTL`. -/
def pendingFileObservationTtl : ℕ := 86400000000

/-- Two rows claim one transfer of one spacecraft. -/
def CorrelationRow.SameTransfer (r r' : CorrelationRow) : Prop :=
  r.productRef.spacecraftInstanceId = r'.productRef.spacecraftInstanceId ∧
    r.transferId ≠ none ∧ r.transferId = r'.transferId

instance (r r' : CorrelationRow) : Decidable (r.SameTransfer r') :=
  inferInstanceAs (Decidable (_ ∧ _ ∧ _))

/-- The tables. -/
structure TransferLedger where
  downlinks : Table RequestKey CorrelationRow
  /-- `ux_product_downlink_transfer_identity`. -/
  unique : ∀ row ∈ downlinks.rows, ∀ row' ∈ downlinks.rows,
    row.2.SameTransfer row'.2 → row.1 = row'.1
  pending : Table FileIdentity PendingFile
  audit : List TransferAudit

namespace TransferLedger

/-! ## Statements -/

/-- The ledger without rows. -/
def empty : TransferLedger := ⟨.empty, by simp [Table.empty], .empty, []⟩

/-- The row of one request. -/
def row? (l : TransferLedger) (key : RequestKey) : Option CorrelationRow := l.downlinks.find? key

theorem eq_of_sameTransfer {l : TransferLedger} {key key' : RequestKey} {row row' : CorrelationRow}
    (found : l.row? key = some row) (found' : l.row? key' = some row')
    (same : row.SameTransfer row') : key = key' :=
  l.unique (key, row) (Table.mem_rows_iff.mpr found) (key', row') (Table.mem_rows_iff.mpr found')
    same

theorem unique_append {l : TransferLedger} {key : RequestKey} {row : CorrelationRow}
    (fresh : l.downlinks.find? key = none) (unnamed : row.transferId = none) :
    ∀ r ∈ (l.downlinks.append key row fresh).rows, ∀ r' ∈ (l.downlinks.append key row fresh).rows,
      r.2.SameTransfer r'.2 → r.1 = r'.1 := by
  intro r mem r' mem' same
  rcases List.mem_append.mp mem with old | new
  · rcases List.mem_append.mp mem' with old' | new'
    · exact l.unique r old r' old' same
    · rw [List.mem_singleton.mp new'] at same
      exact absurd (same.2.2.trans unnamed) same.2.1
  · rw [List.mem_singleton.mp new] at same
    exact absurd unnamed same.2.1

theorem unique_set {l : TransferLedger} {key : RequestKey} {row : CorrelationRow}
    (sole : ∀ r ∈ l.downlinks.rows, r.1 ≠ key → ¬ r.2.SameTransfer row) :
    ∀ r ∈ (l.downlinks.set key row).rows, ∀ r' ∈ (l.downlinks.set key row).rows,
      r.2.SameTransfer r'.2 → r.1 = r'.1 := by
  have cases_of {r : RequestKey × CorrelationRow} (mem : r ∈ (l.downlinks.set key row).rows) :
      r = (key, row) ∨ (r ∈ l.downlinks.rows ∧ r.1 ≠ key) := by
    have found := Table.mem_rows_iff.mp mem
    rw [Table.find?_set] at found
    split at found
    · rename_i same
      exact .inl (Prod.ext same (Option.some.inj found).symm)
    · rename_i other
      exact .inr ⟨Table.mem_rows_iff.mpr found, other⟩
  intro r mem r' mem' same
  rcases cases_of mem with rfl | ⟨old, ne⟩
  · rcases cases_of mem' with rfl | ⟨old', ne'⟩
    · rfl
    · exact absurd ⟨same.1.symm, same.2.2 ▸ same.2.1, same.2.2.symm⟩ (sole r' old' ne')
  · rcases cases_of mem' with rfl | ⟨old', ne'⟩
    · exact absurd same (sole r old ne)
    · exact l.unique r old r' old' same

/-- `INSERT INTO product_downlink_ledger`, with no transfer. -/
def insertRow (l : TransferLedger) (key : RequestKey) (product : ProductRef) (now : ℕ) :
    Raises TransferLedger :=
  if fresh : l.downlinks.find? key = none then
    .ok { l with
      downlinks := l.downlinks.append key ⟨product, none, .admitted, now, now⟩ fresh
      unique := unique_append fresh rfl }
  else integrityError "UNIQUE constraint failed: product_downlink_ledger"

/-- `UPDATE product_downlink_ledger`, for one request. -/
def updateRow (l : TransferLedger) (key : RequestKey) (row : CorrelationRow) :
    Raises TransferLedger :=
  if row.updatedAtUs < row.createdAtUs then
    integrityError "CHECK constraint failed: updated_at_us >= created_at_us"
  else if sole : ∀ r ∈ l.downlinks.rows, r.1 ≠ key → ¬ r.2.SameTransfer row then
    .ok { l with downlinks := l.downlinks.set key row, unique := unique_set sole }
  else integrityError "UNIQUE constraint failed: product_downlink_ledger.transfer_id"

/-- `UPDATE product_downlink_pending_files`, for one observation. -/
def updatePending (l : TransferLedger) (file : FileIdentity) (row : PendingFile) :
    Raises TransferLedger :=
  if row.updatedAtUs < row.firstObservedAtUs then
    integrityError "CHECK constraint failed: updated_at_us >= first_observed_at_us"
  else if row.expiresAtUs < row.updatedAtUs then
    integrityError "CHECK constraint failed: expires_at_us >= updated_at_us"
  else .ok { l with pending := l.pending.set file row }

/-- Delete an expired observation. -/
def expire (l : TransferLedger) (row : FileIdentity × PendingFile) : TransferLedger :=
  { l with
    pending := l.pending.erase row.1
    audit := l.audit ++ [.expired row.1 row.2.transferState] }

/-- `_reconcile_pending_product_downlink_files_in_transaction`. -/
def reconcilePending (now : ℕ) (l : TransferLedger) : ℕ × TransferLedger :=
  let rows := l.pending.rows.filter fun row => row.2.expiresAtUs ≤ now
  (rows.length, rows.foldl expire l)

/-! ## Receipts -/

/-- A receipt may not name another transfer than the row has. -/
def checkNamed (existing named : Option U32) : Raises Unit :=
  match existing, named with
  | some t, some t' =>
      if t ≠ t' then
        ledgerError .ledgerIntegrity "downlink request was correlated with another transfer_id"
      else .ok ()
  | _, _ => .ok ()

/-- `normalized_transfer_id`: `int(existing_transfer)` of a row without a transfer raises. -/
def normalizedTransferId (existing named : Option U32) : Raises U32 :=
  match named with
  | some t => .ok t
  | none =>
      match existing with
      | some t => .ok t
      | none =>
          typeError ("int() argument must be a string, a bytes-like object or a real number, " ++
            "not 'NoneType'")

/-- The row that a transfer of a spacecraft is correlated with. -/
def owner (l : TransferLedger) (spacecraft : U64) (t : U32) :
    Option (RequestKey × CorrelationRow) :=
  l.downlinks.rows.find? fun row =>
    row.2.productRef.spacecraftInstanceId = spacecraft ∧ row.2.transferId = some t

/-- A receipt may not name a transfer of another request. -/
def checkOwner (l : TransferLedger) (key : RequestKey) (spacecraft : U64) (named : Option U32) :
    Raises Unit :=
  match named with
  | none => .ok ()
  | some t =>
      match l.owner spacecraft t with
      | none => .ok ()
      | some found =>
          if found.1 ≠ key then
            ledgerError .ledgerIntegrity
              "transfer_id is already correlated with another downlink request"
          else .ok ()

/-- The state of an observation that waits and has not expired. -/
def pendingState (l : TransferLedger) (now : ℕ) (file : FileIdentity) : Option ProgressState :=
  ((l.pending.find? file).filter fun row => row.expiresAtUs > now).map PendingFile.transferState

/-- `next_state` of a receipt. -/
def nextState (current candidate : ProgressState) (pending : Option ProgressState) :
    ProgressState :=
  let next := monotonicDownlinkState current candidate
  match pending with
  | none => next
  | some state => monotonicDownlinkState next state

/-- The deletion of the observation that a receipt merged. -/
def correlate (l : TransferLedger) (file : FileIdentity) (key : RequestKey) (next : ProgressState)
    (pending : Option ProgressState) : TransferLedger :=
  match pending with
  | none => l
  | some state =>
      { l with
        pending := l.pending.erase file
        audit := l.audit ++ [.correlated file state key next] }

/-- `update_product_downlink_transfer`. -/
def updateProductDownlinkTransfer (now : ℕ) (key : RequestKey) (transferId : Option U32)
    (transferState : ProgressState) (ledger : TransferLedger) : Raises (Bool × TransferLedger) :=
  let l := (ledger.reconcilePending now).2
  match l.row? key with
  | none => .ok (false, l)
  | some row => do
      checkNamed row.transferId transferId
      let normalized ← normalizedTransferId row.transferId transferId
      l.checkOwner key row.productRef.spacecraftInstanceId transferId
      let file : FileIdentity := ⟨row.productRef, normalized⟩
      let pending := l.pendingState now file
      let next := nextState row.transferState transferState pending
      let updated ← l.updateRow key { row with
        transferId := row.transferId.or transferId
        transferState := next
        updatedAtUs := now }
      .ok (true, updated.correlate file key next pending)

/-! ## Observations -/

/-- The row that is correlated with a transfer of a product. -/
def correlatedRow (l : TransferLedger) (file : FileIdentity) :
    Option (RequestKey × CorrelationRow) :=
  l.downlinks.rows.find? fun row =>
    row.2.productRef = file.productRef ∧ row.2.transferId = some file.transferId

/-- An observation without a correlated row waits, or is merged into the one that waits. -/
def deferFile (now : ℕ) (file : FileIdentity) (transferState : ProgressState)
    (l : TransferLedger) : Raises TransferLedger :=
  match l.pending.find? file with
  | none =>
      .ok { l with
        pending := l.pending.set file
          ⟨transferState, now, now, now + pendingFileObservationTtl⟩
        audit := l.audit ++ [.deferred file transferState] }
  | some row =>
      let next := monotonicDownlinkState row.transferState transferState
      if next ≠ row.transferState then
        l.updatePending file { row with transferState := next, updatedAtUs := now }
      else .ok l

/-- `update_product_downlink_file_state`. -/
def updateProductDownlinkFileState (now : ℕ) (product : ProductRef) (transferId : U32)
    (transferState : ProgressState) (ledger : TransferLedger) :
    Raises (Option RequestKey × TransferLedger) :=
  if transferState.ofFile = false then valueError "invalid APID 3 transfer state"
  else
    let l := (ledger.reconcilePending now).2
    match l.correlatedRow ⟨product, transferId⟩ with
    | none => do
        let deferred ← l.deferFile now ⟨product, transferId⟩ transferState
        .ok (none, deferred)
    | some (key, row) => do
        let updated ← l.updateRow key { row with
          transferState := monotonicDownlinkState row.transferState transferState
          updatedAtUs := now }
        .ok (some key, updated)

/-! ## What the statements do -/

variable {l l' : TransferLedger} {key : RequestKey} {row : CorrelationRow} {file : FileIdentity}
  {now : ℕ} {transferId : Option U32} {state : ProgressState}

theorem row?_of_insertRow {product : ProductRef} (inserted : l.insertRow key product now = .ok l') :
    l.row? key = none ∧
      (∀ k, l'.row? k = if k = key then some ⟨product, none, .admitted, now, now⟩ else l.row? k) ∧
      l'.pending = l.pending ∧ l'.audit = l.audit := by
  unfold insertRow at inserted
  split at inserted
  · rename_i fresh
    cases inserted
    exact ⟨fresh, fun k => Table.find?_append _ _ _ _ fresh, rfl, rfl⟩
  · cases inserted

theorem row?_of_updateRow (updated : l.updateRow key row = .ok l') :
    (∀ k, l'.row? k = if k = key then some row else l.row? k) ∧
      l'.pending = l.pending ∧ l'.audit = l.audit := by
  unfold updateRow at updated
  split at updated
  · cases updated
  split at updated
  · cases updated
    exact ⟨fun k => Table.find?_set _ _ _ _, rfl, rfl⟩
  · cases updated

theorem exists_updateRow (l : TransferLedger) (key : RequestKey) (row : CorrelationRow)
    (created : row.createdAtUs ≤ row.updatedAtUs)
    (sole : ∀ k r, l.row? k = some r → k ≠ key → ¬ r.SameTransfer row) :
    ∃ l', l.updateRow key row = .ok l' := by
  have sole' : ∀ r ∈ l.downlinks.rows, r.1 ≠ key → ¬ r.2.SameTransfer row :=
    fun r mem => sole r.1 r.2 (Table.mem_rows_iff.mp mem)
  rw [updateRow, if_neg (Nat.not_lt.mpr created), dif_pos sole']
  exact ⟨_, rfl⟩

/-- The rows of requests do not depend on what waits. -/
theorem downlinks_foldl_expire (rows : List (FileIdentity × PendingFile)) (l : TransferLedger) :
    (rows.foldl expire l).downlinks = l.downlinks := by
  induction rows generalizing l with
  | nil => rfl
  | cons head rest ih => exact ih (l.expire head)

theorem find?_foldl_expire (rows : List (FileIdentity × PendingFile)) (l : TransferLedger) :
    (rows.foldl expire l).pending.find? file =
      if file ∈ rows.map Prod.fst then none else l.pending.find? file := by
  induction rows generalizing l with
  | nil => rfl
  | cons head rest ih =>
      rw [List.foldl_cons, ih, List.map_cons]
      have erased : (l.expire head).pending.find? file =
          if file = head.1 then none else l.pending.find? file := Table.find?_erase _ _ _
      rw [erased]
      by_cases later : file ∈ rest.map Prod.fst
      · rw [if_pos later, if_pos (List.mem_cons_of_mem _ later)]
      · rw [if_neg later]
        by_cases same : file = head.1
        · rw [if_pos same, if_pos (same ▸ List.mem_cons_self)]
        · rw [if_neg same, if_neg (by simp [same, later])]

theorem audit_foldl_expire (rows : List (FileIdentity × PendingFile)) (l : TransferLedger) :
    (rows.foldl expire l).audit =
      l.audit ++ rows.map fun row => .expired row.1 row.2.transferState := by
  induction rows generalizing l with
  | nil => exact (List.append_nil _).symm
  | cons head rest ih =>
      rw [List.foldl_cons, ih, List.map_cons]
      exact List.append_assoc _ _ _

@[simp] theorem downlinks_reconcile : (l.reconcilePending now).2.downlinks = l.downlinks :=
  downlinks_foldl_expire _ l

@[simp] theorem row?_reconcile : (l.reconcilePending now).2.row? key = l.row? key := by
  rw [row?, downlinks_reconcile, row?]

/-- **A reconciliation** keeps the observations that have not expired. -/
theorem find?_pending_reconcile : (l.reconcilePending now).2.pending.find? file =
    (l.pending.find? file).filter fun row => row.expiresAtUs > now := by
  have folded : (l.reconcilePending now).2.pending.find? file = _ :=
    find?_foldl_expire (l.pending.rows.filter fun row => row.2.expiresAtUs ≤ now) l
  rw [folded]
  split
  · rename_i mem
    obtain ⟨row, chosen, rfl⟩ := List.mem_map.mp mem
    have stored := List.mem_filter.mp chosen
    rw [Table.mem_rows_iff.mp stored.1, Option.filter_some, if_neg]
    simpa using of_decide_eq_true stored.2
  · rename_i absent
    cases stored : l.pending.find? file with
    | none => rfl
    | some row =>
        rw [Option.filter_some, if_pos]
        by_contra expired
        refine absent (List.mem_map.mpr ⟨(file, row), List.mem_filter.mpr
          ⟨Table.mem_rows_iff.mpr stored, ?_⟩, rfl⟩)
        simpa using expired

/-- The audit entries a transaction adds. -/
def newAudit (l l' : TransferLedger) : List TransferAudit := l'.audit.drop l.audit.length

theorem newAudit_of_append (new : List TransferAudit) (appended : l'.audit = l.audit ++ new) :
    l.newAudit l' = new := by
  rw [newAudit, appended, List.drop_left]

theorem audit_reconcile (l : TransferLedger) (now : ℕ) :
    ∃ new, (l.reconcilePending now).2.audit = l.audit ++ new ∧
    ∀ entry ∈ new, ∃ file state, entry = .expired file state := by
  refine ⟨_, audit_foldl_expire _ l, fun entry mem => ?_⟩
  obtain ⟨row, -, rfl⟩ := List.mem_map.mp mem
  exact ⟨_, _, rfl⟩

/-! ### A receipt -/

theorem checkNamed_eq_ok_iff {existing named : Option U32} :
    checkNamed existing named = .ok () ↔ ∀ t t', existing = some t → named = some t' → t = t' := by
  unfold checkNamed
  constructor
  · rintro checked t t' rfl rfl
    by_contra differs
    dsimp only at checked
    rw [if_pos differs] at checked
    cases checked
  · intro agree
    split
    · rw [if_neg (not_not.mpr (agree _ _ rfl rfl))]
    · rfl

theorem normalizedTransferId_eq_ok {existing named : Option U32} {t : U32}
    (agree : checkNamed existing named = .ok ())
    (normalized : normalizedTransferId existing named = .ok t) : existing.or named = some t := by
  rw [checkNamed_eq_ok_iff] at agree
  unfold normalizedTransferId at normalized
  cases named with
  | some t' =>
      cases normalized
      cases existing with
      | none => rfl
      | some t' => rw [agree t' t rfl rfl, Option.some_or]
  | none =>
      cases existing with
      | none => cases normalized
      | some t' =>
          cases normalized
          rfl

theorem normalizedTransferId_of_or {existing named : Option U32} {t : U32}
    (transfer : existing.or named = some t) (named_eq : ∀ t', named = some t' → t' = t) :
    normalizedTransferId existing named = .ok t := by
  unfold normalizedTransferId
  cases named with
  | some t' => exact congrArg _ (named_eq t' rfl)
  | none =>
      rw [Option.or_none] at transfer
      rw [transfer]

theorem checkOwner_of_sole {spacecraft : U64}
    (sole : ∀ t k r, transferId = some t → l.row? k = some r →
      r.productRef.spacecraftInstanceId = spacecraft → r.transferId = some t → k = key) :
    l.checkOwner key spacecraft transferId = .ok () := by
  unfold checkOwner
  cases transferId with
  | none => rfl
  | some t =>
      dsimp only
      cases found : l.owner spacecraft t with
      | none => rfl
      | some r =>
          have owns := List.find?_some found
          have stored := Table.mem_rows_iff.mp (List.mem_of_find?_eq_some found)
          rw [decide_eq_true_iff] at owns
          dsimp only
          rw [if_neg (not_not.mpr (sole t r.1 r.2 rfl stored owns.1 owns.2))]

/-- What a receipt does that found its row. -/
structure Received (now : ℕ) (key : RequestKey) (transferId : Option U32) (state : ProgressState)
    (row : CorrelationRow) (t : U32) (l l' : TransferLedger) : Prop where
  transfer : row.transferId.or transferId = some t
  named : ∀ t', transferId = some t' → t' = t
  row? : ∀ k, l'.row? k = if k = key then
    some { row with
      transferId := some t
      transferState := nextState row.transferState state (l.pendingState now ⟨row.productRef, t⟩)
      updatedAtUs := now } else l.row? k
  pending : ∀ f, l'.pending.find? f = if f = ⟨row.productRef, t⟩ then none else
    (l.pending.find? f).filter fun waiting => waiting.expiresAtUs > now
  audit : ∀ entry ∈ l.newAudit l', (∃ file old, entry = .expired file old) ∨
    ∃ old next, entry = .correlated ⟨row.productRef, t⟩ old key next

theorem pendingState_reconcile :
    (l.reconcilePending now).2.pendingState now file = l.pendingState now file := by
  rw [pendingState, find?_pending_reconcile, Option.filter_filter, pendingState]
  simp only [Bool.and_self]

theorem row?_correlate {next : ProgressState} {pending : Option ProgressState} (k : RequestKey) :
    (l.correlate file key next pending).row? k = l.row? k := by
  cases pending <;> rfl

theorem find?_pending_correlate {next : ProgressState} {pending : Option ProgressState}
    (f : FileIdentity) : (l.correlate file key next pending).pending.find? f =
      if f = file ∧ pending ≠ none then none else l.pending.find? f := by
  cases pending with
  | none => rw [if_neg fun both => both.2 rfl, correlate]
  | some old =>
      simp only [ne_eq, reduceCtorEq, not_false_eq_true, and_true]
      exact Table.find?_erase _ _ _

theorem audit_correlate {next : ProgressState} {pending : Option ProgressState} :
    (l.correlate file key next pending).audit =
      l.audit ++ pending.toList.map fun old => .correlated file old key next := by
  cases pending with
  | none => exact (List.append_nil _).symm
  | some old => rfl

theorem pendingState_eq_none_iff : l.pendingState now file = none ↔
    ((l.pending.find? file).filter fun row => row.expiresAtUs > now) = none :=
  Option.map_eq_none_iff

/-- **A receipt** finds no row, or merges into its row. -/
theorem updateProductDownlinkTransfer_cases {found : Bool}
    (returned : l.updateProductDownlinkTransfer now key transferId state = .ok (found, l')) :
    (l.row? key = none ∧ found = false ∧ l' = (l.reconcilePending now).2) ∨
      ∃ row t, l.row? key = some row ∧ found = true ∧
        Received now key transferId state row t l l' := by
  dsimp only [updateProductDownlinkTransfer] at returned
  rw [row?_reconcile] at returned
  cases stored : l.row? key with
  | none =>
      rw [stored] at returned
      cases returned
      exact .inl ⟨rfl, rfl, rfl⟩
  | some row =>
      rw [stored] at returned
      dsimp only at returned
      obtain ⟨⟨⟩, agree, returned⟩ := bind_eq_ok_iff.mp returned
      obtain ⟨t, normalized, returned⟩ := bind_eq_ok_iff.mp returned
      obtain ⟨⟨⟩, -, returned⟩ := bind_eq_ok_iff.mp returned
      obtain ⟨updated, wrote, returned⟩ := bind_eq_ok_iff.mp returned
      cases returned
      have transfer := normalizedTransferId_eq_ok agree normalized
      obtain ⟨rows, pending, audit⟩ := row?_of_updateRow wrote
      rw [pendingState_reconcile] at rows ⊢
      refine .inr ⟨row, t, rfl, rfl, transfer, ?_, fun k => ?_, fun f => ?_, ?_⟩
      · rintro t' rfl
        cases normalized
        rfl
      · rw [row?_correlate, rows, row?_reconcile, transfer]
      · rw [find?_pending_correlate, pending, find?_pending_reconcile]
        by_cases same : f = ⟨row.productRef, t⟩
        · rw [if_pos same]
          cases waiting : l.pendingState now ⟨row.productRef, t⟩ with
          | none => rw [same, pendingState_eq_none_iff.mp waiting, ite_self]
          | some old => exact if_pos ⟨same, Option.some_ne_none old⟩
        · rw [if_neg same, if_neg fun both => same both.1]
      · obtain ⟨new, appended, expired⟩ := l.audit_reconcile now
        intro entry mem
        rw [newAudit_of_append (new ++ _)
          (by rw [audit_correlate, audit, appended, List.append_assoc])] at mem
        rcases List.mem_append.mp mem with mem | mem
        · exact .inl (expired entry mem)
        · obtain ⟨old, -, rfl⟩ := List.mem_map.mp mem
          exact .inr ⟨old, _, rfl⟩

/-- A receipt of a stored row that names its transfer, and no other request's, succeeds. -/
theorem exists_updateProductDownlinkTransfer (transferId : Option U32) (state : ProgressState)
    {t : U32} (stored : l.row? key = some row)
    (created : row.createdAtUs ≤ now) (transfer : row.transferId.or transferId = some t)
    (named : ∀ t', transferId = some t' → t' = t)
    (sole : ∀ k r, l.row? k = some r →
      r.productRef.spacecraftInstanceId = row.productRef.spacecraftInstanceId →
      r.transferId = some t → k = key) :
    ∃ l', l.updateProductDownlinkTransfer now key transferId state = .ok (true, l') := by
  have agree : checkNamed row.transferId transferId = .ok () := by
    rw [checkNamed_eq_ok_iff]
    intro t₁ t₂ existing names
    rw [existing, Option.some_or] at transfer
    rw [named t₂ names]
    exact Option.some.inj transfer
  obtain ⟨l', wrote⟩ := exists_updateRow (l.reconcilePending now).2 key
    { row with
      transferId := row.transferId.or transferId
      transferState := nextState row.transferState state (l.pendingState now ⟨row.productRef, t⟩)
      updatedAtUs := now } created fun k r found other same => by
    rw [row?_reconcile] at found
    exact other (sole k r found same.1 (same.2.2.trans transfer))
  dsimp only [updateProductDownlinkTransfer]
  rw [row?_reconcile, stored]
  dsimp only
  rw [agree, ok_bind, normalizedTransferId_of_or transfer named, ok_bind,
    checkOwner_of_sole fun t' k r names found craft owned => sole k r
      (row?_reconcile.symm.trans found) craft (named t' names ▸ owned),
    ok_bind, pendingState_reconcile, wrote, ok_bind]
  exact ⟨_, rfl⟩

/-- A receipt that omits the transfer of a row without one raises. -/
theorem updateProductDownlinkTransfer_of_unnamed (stored : l.row? key = some row)
    (without : row.transferId = none) : l.updateProductDownlinkTransfer now key none state =
      typeError ("int() argument must be a string, a bytes-like object or a real number, " ++
        "not 'NoneType'") := by
  dsimp only [updateProductDownlinkTransfer]
  rw [row?_reconcile, stored]
  dsimp only
  rw [without]
  rfl

/-! ### An observation -/

theorem correlatedRow_eq_some (found : l.correlatedRow file = some (key, row)) :
    l.row? key = some row ∧ row.productRef = file.productRef ∧
      row.transferId = some file.transferId := by
  have owns := List.find?_some found
  rw [decide_eq_true_iff] at owns
  exact ⟨Table.mem_rows_iff.mp (List.mem_of_find?_eq_some found), owns⟩

theorem correlatedRow_eq_none (absent : l.correlatedRow file = none) {k : RequestKey}
    {r : CorrelationRow} (stored : l.row? k = some r) (product : r.productRef = file.productRef) :
    r.transferId ≠ some file.transferId := fun transfer =>
  List.find?_eq_none.mp absent (k, r) (Table.mem_rows_iff.mpr stored)
    (decide_eq_true ⟨product, transfer⟩)

theorem correlatedRow_reconcile :
    (l.reconcilePending now).2.correlatedRow file = l.correlatedRow file := by
  rw [correlatedRow, downlinks_reconcile, correlatedRow]

/-- What an observation does that found its row. -/
structure Attached (now : ℕ) (file : FileIdentity) (state : ProgressState) (key : RequestKey)
    (row : CorrelationRow) (l l' : TransferLedger) : Prop where
  stored : l.row? key = some row
  product : row.productRef = file.productRef
  transfer : row.transferId = some file.transferId
  row? : ∀ k, l'.row? k = if k = key then
    some { row with
      transferState := monotonicDownlinkState row.transferState state
      updatedAtUs := now } else l.row? k
  pending : l'.pending = (l.reconcilePending now).2.pending
  audit : l'.audit = (l.reconcilePending now).2.audit

/-- What an observation does that found no row. -/
structure Deferred (now : ℕ) (file : FileIdentity) (state : ProgressState)
    (l l' : TransferLedger) : Prop where
  absent : ∀ k r, l.row? k = some r → r.productRef = file.productRef →
    r.transferId ≠ some file.transferId
  downlinks : l'.downlinks = l.downlinks
  others : ∀ f, f ≠ file → l'.pending.find? f =
    (l.pending.find? f).filter fun waiting => waiting.expiresAtUs > now
  first : (l.pending.find? file).filter (fun waiting => waiting.expiresAtUs > now) = none →
    l'.pending.find? file = some ⟨state, now, now, now + pendingFileObservationTtl⟩
  again : ∀ waiting, l.pending.find? file = some waiting → waiting.expiresAtUs > now →
    ∃ updatedAtUs, l'.pending.find? file = some { waiting with
      transferState := monotonicDownlinkState waiting.transferState state
      updatedAtUs := updatedAtUs }
  audit : ∀ entry ∈ l.newAudit l', (∃ f old, entry = .expired f old) ∨
    entry = .deferred file state

theorem row?_of_downlinks (same : l'.downlinks = l.downlinks) (k : RequestKey) :
    l'.row? k = l.row? k := by rw [row?, same, row?]

theorem updatePending_of_ok {waiting : PendingFile}
    (wrote : l.updatePending file waiting = .ok l') :
    l'.downlinks = l.downlinks ∧ l'.pending = l.pending.set file waiting ∧ l'.audit = l.audit := by
  unfold updatePending at wrote
  split at wrote
  · cases wrote
  split at wrote
  · cases wrote
  · cases wrote
    exact ⟨rfl, rfl, rfl⟩

theorem newAudit_reconcile (same : l'.audit = (l.reconcilePending now).2.audit)
    {entry : TransferAudit} (mem : entry ∈ l.newAudit l') : ∃ f old, entry = .expired f old := by
  obtain ⟨new, appended, expired⟩ := l.audit_reconcile now
  rw [newAudit_of_append new (same.trans appended)] at mem
  exact expired entry mem

theorem deferred_of_deferFile (absent : l.correlatedRow file = none)
    (deferred : (l.reconcilePending now).2.deferFile now file state = .ok l') :
    Deferred now file state l l' := by
  obtain ⟨new, appended, expired⟩ := l.audit_reconcile now
  have ofExpired {entry : TransferAudit} (mem : entry ∈ new) :
      (∃ f old, entry = .expired f old) ∨ entry = .deferred file state := .inl (expired entry mem)
  unfold deferFile at deferred
  rw [find?_pending_reconcile] at deferred
  cases waits : (l.pending.find? file).filter fun waiting => waiting.expiresAtUs > now with
  | none =>
      rw [waits] at deferred
      cases deferred
      refine ⟨fun k r => correlatedRow_eq_none absent, downlinks_reconcile, fun f other => ?_,
        fun _ => Table.find?_set_self _ _ _, fun waiting stored alive => ?_, fun entry mem => ?_⟩
      · exact (Table.find?_set_of_ne _ _ other).trans find?_pending_reconcile
      · rw [stored, Option.filter_some, if_pos (decide_eq_true alive)] at waits
        cases waits
      · rw [newAudit_of_append (new ++ [.deferred file state])
          (by rw [← List.append_assoc, ← appended])] at mem
        rcases List.mem_append.mp mem with mem | mem
        · exact ofExpired mem
        · exact .inr (List.mem_singleton.mp mem)
  | some waiting =>
      have alive := Option.filter_eq_some_iff.mp waits
      rw [waits] at deferred
      dsimp only at deferred
      have only {other : PendingFile} (stored : l.pending.find? file = some other) :
          other = waiting := Option.some.inj (stored.symm.trans alive.1)
      split at deferred
      · obtain ⟨downlinks, pending, audit⟩ := updatePending_of_ok deferred
        refine ⟨fun k r => correlatedRow_eq_none absent, downlinks.trans downlinks_reconcile,
          fun f other => ?_, fun none => ?_, fun other stored _ => ?_, fun entry mem => ?_⟩
        · rw [pending, Table.find?_set_of_ne _ _ other, find?_pending_reconcile]
        · rw [waits] at none
          cases none
        · rw [only stored, pending, Table.find?_set_self]
          exact ⟨_, rfl⟩
        · exact .inl (newAudit_reconcile audit mem)
      · rename_i same
        cases deferred
        refine ⟨fun k r => correlatedRow_eq_none absent, downlinks_reconcile,
          fun f _ => find?_pending_reconcile, fun none => ?_, fun other stored _ => ?_,
          fun entry mem => .inl (newAudit_reconcile rfl mem)⟩
        · rw [waits] at none
          cases none
        · rw [only stored, find?_pending_reconcile, waits, not_not.mp same]
          exact ⟨_, rfl⟩

/-- **An observation** is attached to the row of its transfer, or deferred. -/
theorem updateProductDownlinkFileState_cases {product : ProductRef} {t : U32}
    {answer : Option RequestKey}
    (returned : l.updateProductDownlinkFileState now product t state = .ok (answer, l')) :
    state.ofFile = true ∧
      ((answer = none ∧ Deferred now ⟨product, t⟩ state l l') ∨
        ∃ key row, answer = some key ∧ Attached now ⟨product, t⟩ state key row l l') := by
  dsimp only [updateProductDownlinkFileState] at returned
  split at returned
  · cases returned
  rename_i valid
  rw [correlatedRow_reconcile] at returned
  refine ⟨Bool.not_eq_false _ ▸ valid, ?_⟩
  cases found : l.correlatedRow ⟨product, t⟩ with
  | none =>
      rw [found] at returned
      obtain ⟨deferred, wrote, returned⟩ := bind_eq_ok_iff.mp returned
      cases returned
      exact .inl ⟨rfl, deferred_of_deferFile found wrote⟩
  | some correlated =>
      obtain ⟨key, row⟩ := correlated
      rw [found] at returned
      obtain ⟨updated, wrote, returned⟩ := bind_eq_ok_iff.mp returned
      cases returned
      obtain ⟨stored, owns, transfer⟩ := correlatedRow_eq_some found
      obtain ⟨rows, pending, audit⟩ := row?_of_updateRow wrote
      refine .inr ⟨key, row, rfl, stored, owns, transfer, fun k => ?_, pending, audit⟩
      rw [rows, row?_reconcile]

/-- An observation of a correlated transfer succeeds. -/
theorem updateProductDownlinkFileState_of_attached {product : ProductRef} {t : U32}
    (valid : state.ofFile = true) (stored : l.row? key = some row)
    (created : row.createdAtUs ≤ now) (owns : row.productRef = product)
    (transfer : row.transferId = some t) :
    ∃ l', l.updateProductDownlinkFileState now product t state = .ok (some key, l') := by
  cases found : l.correlatedRow ⟨product, t⟩ with
  | none => exact absurd transfer (correlatedRow_eq_none found stored owns)
  | some correlated =>
      obtain ⟨key', row'⟩ := correlated
      obtain ⟨stored', owns', transfer'⟩ := correlatedRow_eq_some found
      have same : row.SameTransfer row' :=
        ⟨by rw [owns, owns'], by rw [transfer]; exact Option.some_ne_none t,
          transfer.trans transfer'.symm⟩
      cases eq_of_sameTransfer stored stored' same
      cases Option.some.inj (stored.symm.trans stored')
      obtain ⟨l', wrote⟩ := exists_updateRow (l.reconcilePending now).2 key
        { row with
          transferState := monotonicDownlinkState row.transferState state
          updatedAtUs := now } created fun k r other ne twin => by
        rw [row?_reconcile] at other
        exact ne (eq_of_sameTransfer other stored twin)
      dsimp only [updateProductDownlinkFileState]
      rw [if_neg (by rw [valid]; decide), correlatedRow_reconcile, found]
      dsimp only
      rw [wrote, ok_bind]
      exact ⟨_, rfl⟩

/-- An observation of a transfer that no row is correlated with succeeds. -/
theorem updateProductDownlinkFileState_of_absent {product : ProductRef} {t : U32}
    (valid : state.ofFile = true)
    (absent : ∀ k r, l.row? k = some r → r.productRef = product → r.transferId ≠ some t)
    (observed : ∀ waiting, l.pending.find? ⟨product, t⟩ = some waiting →
      waiting.firstObservedAtUs ≤ now) :
    ∃ l', l.updateProductDownlinkFileState now product t state = .ok (none, l') := by
  have found : l.correlatedRow ⟨product, t⟩ = none := by
    cases found : l.correlatedRow ⟨product, t⟩ with
    | none => rfl
    | some correlated =>
        obtain ⟨stored, owns, transfer⟩ := correlatedRow_eq_some found
        exact absurd transfer (absent _ _ stored owns)
  have wrote : ∃ l', (l.reconcilePending now).2.deferFile now ⟨product, t⟩ state = .ok l' := by
    unfold deferFile
    rw [find?_pending_reconcile]
    cases waits : (l.pending.find? ⟨product, t⟩).filter
        fun waiting => waiting.expiresAtUs > now with
    | none => exact ⟨_, rfl⟩
    | some waiting =>
        obtain ⟨stored, alive⟩ := Option.filter_eq_some_iff.mp waits
        dsimp only
        split
        · rw [updatePending, if_neg (Nat.not_lt.mpr (observed waiting stored)),
            if_neg (Nat.not_lt.mpr (Nat.le_of_lt (of_decide_eq_true alive)))]
          exact ⟨_, rfl⟩
        · exact ⟨_, rfl⟩
  obtain ⟨l', wrote⟩ := wrote
  dsimp only [updateProductDownlinkFileState]
  rw [if_neg (by rw [valid]; decide), correlatedRow_reconcile, found]
  dsimp only
  rw [wrote, ok_bind]
  exact ⟨_, rfl⟩

end TransferLedger

/-! ## The ledger as a machine -/

/-- What happens to the tables. -/
inductive TransferEvent
  /-- `admit_product_downlink` records a new request. -/
  | admission (key : RequestKey) (product : ProductRef)
  /-- An APID 2 receipt. -/
  | receipt (key : RequestKey) (transferId : Option U32) (state : ProgressState)
  /-- An APID 3 observation. -/
  | observation (product : ProductRef) (transferId : U32) (state : ProgressState)
  /-- `reconcile_pending_product_downlink_files` -/
  | reconcile
  deriving DecidableEq

/-- An event and the instant of its transaction. -/
structure TimedTransferEvent where
  nowUs : ℕ
  event : TransferEvent
  deriving DecidableEq

/-- What a transaction returned. -/
inductive TransferAnswer
  | admitted
  | updated (found : Bool)
  | attached (key : Option RequestKey)
  | expired (count : ℕ)
  deriving DecidableEq

namespace TransferLedger

/-- One transaction. -/
def perform (l : TransferLedger) (e : TimedTransferEvent) :
    Raises (TransferAnswer × TransferLedger) :=
  match e.event with
  | .admission key product => do
      let inserted ← l.insertRow key product e.nowUs
      .ok (.admitted, inserted)
  | .receipt key transferId state => do
      let result ← l.updateProductDownlinkTransfer e.nowUs key transferId state
      .ok (.updated result.1, result.2)
  | .observation product transferId state => do
      let result ← l.updateProductDownlinkFileState e.nowUs product transferId state
      .ok (.attached result.1, result.2)
  | .reconcile =>
      let result := l.reconcilePending e.nowUs
      .ok (.expired result.1, result.2)

/-- The answer of a transaction, and the tables it committed or rolled back to. -/
def step (l : TransferLedger) (e : TimedTransferEvent) : TransferLedger × Raises TransferAnswer :=
  match l.perform e with
  | .ok (answer, committed) => (committed, .ok answer)
  | .error failure => (l, .error failure)

end TransferLedger

/-- The ledger as a machine over its transactions. -/
def transferMachine : Machine TransferLedger TimedTransferEvent (Raises TransferAnswer) where
  step l e := l.step e

end CubeNano

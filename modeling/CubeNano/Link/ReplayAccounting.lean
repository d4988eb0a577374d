import CubeNano.Link.ReplayManager

/-!
# The running totals of the replay manager

`ReplayManager` adjusts its used and its pinned bytes with every operation.  `Accounted` says
what they are meant to be: sums over the artifacts.  An operation keeps them so exactly when
it is `Accountable`, which is a condition on the manager before it and on its arguments.

## Main definitions

* `ReplayManager.Accounted`
* `ReplayOp.Accountable`

## Main statements

* `accounted_step_iff` — one operation
* `accounted_iff_accountable` — every run
-/

namespace CubeNano

open Effect

/-! ## What the totals are meant to be -/

/-- The bytes an artifact is accounted with: its reservation while it is open, then its own. -/
def ReplayArtifact.charge (maxArtifactBytes : ℕ) (artifact : ReplayArtifact) : ℤ :=
  if artifact.replayState = .evicted then 0
  else if artifact.status = .opened then maxArtifactBytes
  else artifact.totalBytes

/-- The bytes an artifact takes of the pin quota. -/
def ReplayArtifact.pinCharge (artifact : ReplayArtifact) : ℤ :=
  if artifact.replayState = .pinned then artifact.totalBytes else 0

namespace ReplayArtifact

variable {maxArtifactBytes : ℕ} {artifact : ReplayArtifact}

theorem charge_nonneg (artifact : ReplayArtifact) : 0 ≤ artifact.charge maxArtifactBytes := by
  unfold charge
  split
  · exact le_rfl
  split
  · exact Int.natCast_nonneg _
  · exact Int.natCast_nonneg _

theorem pinCharge_nonneg (artifact : ReplayArtifact) : 0 ≤ artifact.pinCharge := by
  unfold pinCharge
  split
  · exact Int.natCast_nonneg _
  · exact le_rfl

end ReplayArtifact

/-- The bytes of an artifact, as an integer. -/
def ReplayArtifact.bytes (artifact : ReplayArtifact) : ℤ := artifact.totalBytes

namespace ReplayManager

/-- The charge of the artifact of a run. -/
def chargeOf (m : ReplayManager) (runId : ℕ) : ℤ :=
  m.artifacts.weight (ReplayArtifact.charge m.maxArtifactBytes) runId

/-- The pin charge of the artifact of a run. -/
def pinChargeOf (m : ReplayManager) (runId : ℕ) : ℤ :=
  m.artifacts.weight ReplayArtifact.pinCharge runId

/-- The bytes of the artifact of a run. -/
def bytesOf (m : ReplayManager) (runId : ℕ) : ℤ := m.artifacts.weight ReplayArtifact.bytes runId

/-- **The totals are sums over the artifacts, within the cap and the quota.** -/
structure Accounted (m : ReplayManager) : Prop where
  used : m.usedBytes = m.artifacts.total (ReplayArtifact.charge m.maxArtifactBytes)
  used_le : m.usedBytes ≤ m.globalCapBytes
  pinned : m.pinnedBytes = m.artifacts.total ReplayArtifact.pinCharge
  pinned_nonneg : 0 ≤ m.pinnedBytes
  pinned_le : m.pinnedBytes ≤ m.pinQuotaBytes

/-! ## The condition -/

/-- Whether a run has an artifact in state `PRESENT`. -/
def isPresent (m : ReplayManager) (runId : ℕ) : Bool :=
  (m.artifacts.find? runId).any fun artifact => artifact.replayState = .present

/-- The artifacts of some runs take as many bytes as they are accounted with. -/
def Settled (m : ReplayManager) (runIds : List ℕ) : Prop :=
  (runIds.map m.bytesOf).sum = (runIds.map m.chargeOf).sum

/-- An open artifact can be finalized with these segments. -/
structure Finalizable (maxArtifactBytes : ℕ) (artifact : ReplayArtifact)
    (status : ArtifactStatus) (segments : List ReplaySegment) : Prop where
  /-- The bytes of a pinned artifact stay what they were when it was pinned. -/
  pinned : artifact.replayState = .pinned → totalBytes segments = artifact.totalBytes
  /-- Nothing is released of a reservation that was given up. -/
  evicted : artifact.replayState = .evicted → status = .final ∧ (computeTreeHash segments).isOk = false ∨
    maxArtifactBytes ≤ totalBytes segments
  /-- Nothing is released of a reservation that goes on. -/
  opened : artifact.replayState ≠ .evicted → status = .opened → maxArtifactBytes ≤ totalBytes segments
  /-- The segments fit the reservation. -/
  fits : artifact.replayState ≠ .evicted → status ≠ .opened →
    totalBytes segments ≤ maxArtifactBytes
  /-- The hash can be computed, or there is nothing to release after it. -/
  hash : artifact.replayState ≠ .evicted → status = .final →
    (computeTreeHash segments).isOk = false → maxArtifactBytes ≤ totalBytes segments

end ReplayManager

/-- **The condition under which an operation keeps the totals.** -/
def ReplayOp.Accountable (m : ReplayManager) : ReplayOp → Prop
  | .reserve runId _ => m.usedBytes + m.maxArtifactBytes > m.globalCapBytes ∨
      m.chargeOf runId = 0 ∧ m.pinChargeOf runId = 0
  | .finalize runId status segments _ => ∀ artifact, m.artifacts.find? runId = some artifact →
      artifact.status = .opened →
      ReplayManager.Finalizable m.maxArtifactBytes artifact status segments
  | .pin _ | .unpin _ => True
  | .evictOldest remove => ∀ runId, m.oldestUnpinned = some runId → (remove runId).isOk = true →
      m.Settled [runId]
  | .evict remove runId => m.isPresent runId = true → (remove runId).isOk = true →
      m.Settled [runId]
  | .evictExpired remove now finalDays incompleteDays =>
      0 < min (finalDays.getD m.retentionFinalDays)
        (incompleteDays.getD m.retentionIncompleteDays) →
      m.Settled ((m.expired now (finalDays.getD m.retentionFinalDays)
        (incompleteDays.getD m.retentionIncompleteDays)).takeWhile fun runId => (remove runId).isOk)

namespace ReplayManager

/-! ## Changes of one artifact -/

theorem chargeOf_le {m : ReplayManager} (accounted : m.Accounted) (runId : ℕ) :
    0 ≤ m.chargeOf runId ∧ m.chargeOf runId ≤ m.usedBytes := by
  have rest := Table.total_nonneg (show ∀ artifact : ReplayArtifact,
    0 ≤ artifact.charge m.maxArtifactBytes from ReplayArtifact.charge_nonneg)
    (m.artifacts.erase runId)
  rw [Table.total_erase, ← accounted.used] at rest
  unfold chargeOf
  refine ⟨?_, by omega⟩
  unfold Table.weight
  cases m.artifacts.find? runId with
  | none => exact le_rfl
  | some artifact => exact artifact.charge_nonneg

theorem pinChargeOf_le {m : ReplayManager} (accounted : m.Accounted) (runId : ℕ) :
    m.pinChargeOf runId ≤ m.pinnedBytes := by
  have rest := Table.total_nonneg ReplayArtifact.pinCharge_nonneg (m.artifacts.erase runId)
  rw [Table.total_erase, ← accounted.pinned] at rest
  unfold pinChargeOf
  omega

/-- A change of one artifact and of the totals. -/
theorem accounted_withArtifact_iff {m : ReplayManager} (accounted : m.Accounted) (runId : ℕ)
    (artifact : ReplayArtifact) (used pinned : ℤ) :
    Accounted { m.withArtifact runId artifact with usedBytes := used, pinnedBytes := pinned } ↔
      used = m.usedBytes - m.chargeOf runId + artifact.charge m.maxArtifactBytes ∧
        used ≤ m.globalCapBytes ∧
        pinned = m.pinnedBytes - m.pinChargeOf runId + artifact.pinCharge ∧
        0 ≤ pinned ∧ pinned ≤ m.pinQuotaBytes := by
  have charges := Table.total_set (ReplayArtifact.charge m.maxArtifactBytes) m.artifacts runId
    artifact
  have pinCharges := Table.total_set ReplayArtifact.pinCharge m.artifacts runId artifact
  rw [← accounted.used] at charges
  rw [← accounted.pinned] at pinCharges
  constructor
  · rintro ⟨h1, h2, h3, h4, h5⟩
    exact ⟨h1.trans charges, h2, h3.trans pinCharges, h4, h5⟩
  · rintro ⟨h1, h2, h3, h4, h5⟩
    exact ⟨h1.trans charges.symm, h2, h3.trans pinCharges.symm, h4, h5⟩

theorem chargeOf_eq {m : ReplayManager} {runId : ℕ} {artifact : ReplayArtifact}
    (found : m.artifacts.find? runId = some artifact) :
    m.chargeOf runId = artifact.charge m.maxArtifactBytes ∧
      m.pinChargeOf runId = artifact.pinCharge ∧ m.bytesOf runId = artifact.totalBytes :=
  ⟨Table.weight_of_find? found, Table.weight_of_find? found, Table.weight_of_find? found⟩

/-! ## Operations -/

theorem accounted_reserve_iff {m : ReplayManager} (accounted : m.Accounted) (runId : ℕ)
    (now : ℤ) : Accounted (finalState (reserveArtifact runId now m)) ↔
      ReplayOp.Accountable m (.reserve runId now) := by
  unfold reserveArtifact
  rw [get_bind]
  by_cases full : m.usedBytes + m.maxArtifactBytes > m.globalCapBytes
  · rw [if_pos full]
    exact iff_of_true accounted (.inl full)
  rw [if_neg full]
  change Accounted { m.withArtifact runId (openArtifact runId now) with
    usedBytes := m.usedBytes + m.maxArtifactBytes, pinnedBytes := m.pinnedBytes } ↔ _
  rw [accounted_withArtifact_iff accounted]
  have charge : (openArtifact runId now).charge m.maxArtifactBytes = m.maxArtifactBytes := rfl
  have pinCharge : (openArtifact runId now).pinCharge = 0 := rfl
  have quota := accounted.pinned_le
  have nonneg := accounted.pinned_nonneg
  unfold ReplayOp.Accountable
  rw [charge, pinCharge]
  constructor
  · rintro ⟨h1, -, h3, -, -⟩
    exact .inr ⟨by omega, by omega⟩
  · rintro (h | ⟨h1, h2⟩)
    · exact absurd h full
    · exact ⟨by omega, by omega, by omega, nonneg, quota⟩

theorem accounted_pin {m : ReplayManager} (accounted : m.Accounted) (runId : ℕ) :
    Accounted (finalState (pinArtifact runId m)) := by
  unfold pinArtifact
  rw [get_bind]
  cases found : m.artifacts.find? runId with
  | none => exact accounted
  | some artifact =>
      dsimp only
      cases state : artifact.replayState with
      | pinned => exact accounted
      | evicted => exact accounted
      | present =>
          dsimp only
          by_cases full : m.pinnedBytes + artifact.totalBytes > m.pinQuotaBytes
          · rw [if_pos full]
            exact accounted
          rw [if_neg full]
          change Accounted { m.withArtifact runId { artifact with replayState := .pinned } with
            usedBytes := m.usedBytes, pinnedBytes := m.pinnedBytes + artifact.totalBytes }
          rw [accounted_withArtifact_iff accounted, (chargeOf_eq found).1, (chargeOf_eq found).2.1]
          have nonneg := accounted.pinned_nonneg
          have cap := accounted.used_le
          unfold ReplayArtifact.charge ReplayArtifact.pinCharge
          simp only [state, reduceCtorEq, if_false, if_true]
          exact ⟨by omega, cap, by omega, by omega, by omega⟩

theorem accounted_unpin {m : ReplayManager} (accounted : m.Accounted) (runId : ℕ) :
    Accounted (finalState (unpinArtifact runId m)) := by
  unfold unpinArtifact
  rw [get_bind]
  cases found : m.artifacts.find? runId with
  | none => exact accounted
  | some artifact =>
      dsimp only
      by_cases state : artifact.replayState = .pinned
      · rw [if_neg (not_not.mpr state)]
        change Accounted { m.withArtifact runId { artifact with replayState := .present } with
          usedBytes := m.usedBytes, pinnedBytes := m.pinnedBytes - artifact.totalBytes }
        have share := pinChargeOf_le accounted runId
        rw [accounted_withArtifact_iff accounted, (chargeOf_eq found).1]
        rw [(chargeOf_eq found).2.1] at share ⊢
        have nonneg := accounted.pinned_nonneg
        have quota := accounted.pinned_le
        have cap := accounted.used_le
        unfold ReplayArtifact.charge
        unfold ReplayArtifact.pinCharge at share ⊢
        simp only [state, reduceCtorEq, if_false, if_true] at share ⊢
        exact ⟨by omega, cap, by omega, by omega, by omega⟩
      · rw [if_pos state]
        exact accounted

/-- The hash of an artifact: it cannot be computed, or it changes no charge. -/
theorem finalHash_cases (artifact : ReplayArtifact) :
    (∃ failure, finalHash artifact = .error failure ∧ artifact.status = .final ∧
        (computeTreeHash artifact.segments).isOk = false) ∨
      ∃ hashed, finalHash artifact = .ok hashed ∧
        ¬ (artifact.status = .final ∧ (computeTreeHash artifact.segments).isOk = false) ∧
          (∀ cap, hashed.charge cap = artifact.charge cap) ∧
            hashed.pinCharge = artifact.pinCharge := by
  unfold finalHash
  by_cases final : artifact.status = .final
  · rw [if_pos final]
    cases computeTreeHash artifact.segments with
    | error failure => exact .inl ⟨failure, rfl, final, rfl⟩
    | ok hash => exact .inr ⟨_, rfl, fun raised => Bool.noConfusion raised.2, fun _ => rfl, rfl⟩
  · rw [if_neg final]
    exact .inr ⟨_, rfl, fun raised => final raised.1, fun _ => rfl, rfl⟩

/-- What `finalize_artifact` leaves of an open artifact. -/
theorem finalState_finalizeArtifact {m : ReplayManager} {runId : ℕ} {artifact : ReplayArtifact}
    (found : m.artifacts.find? runId = some artifact) (opened : artifact.status = .opened)
    (status : ArtifactStatus) (segments : List ReplaySegment) (now : ℤ) :
    ∃ after, (∀ cap, after.charge cap = (finalized artifact status segments now).charge cap) ∧
      after.pinCharge = (finalized artifact status segments now).pinCharge ∧
      finalState (finalizeArtifact runId status segments now m) =
        { m.withArtifact runId after with
          usedBytes := if status = .final ∧ (computeTreeHash segments).isOk = false then m.usedBytes
            else if totalBytes segments < m.maxArtifactBytes then
              m.usedBytes - (m.maxArtifactBytes - totalBytes segments)
            else m.usedBytes
          pinnedBytes := m.pinnedBytes } := by
  unfold finalizeArtifact
  rw [get_bind, found]
  dsimp only
  rw [if_neg (not_not.mpr opened)]
  change ∃ after, _ ∧ _ ∧ finalState ((liftRaises (finalHash (finalized artifact status segments
    now)) >>= _) (m.withArtifact runId (finalized artifact status segments now))) = _
  rcases finalHash_cases (finalized artifact status segments now) with
    ⟨failure, raised, final⟩ | ⟨hashed, returned, final, charge, pinCharge⟩
  · rw [liftRaises_bind_of_error raised]
    change status = .final ∧ (computeTreeHash segments).isOk = false at final
    refine ⟨_, fun _ => rfl, rfl, ?_⟩
    rw [if_pos final]
    rfl
  · rw [liftRaises_bind_of_ok returned]
    change ¬ (status = .final ∧ (computeTreeHash segments).isOk = false) at final
    refine ⟨hashed, charge, pinCharge, ?_⟩
    rw [if_neg final]
    change releaseReservation (totalBytes segments) (m.withArtifact runId hashed) = _
    unfold releaseReservation
    change (if totalBytes segments < m.maxArtifactBytes then _ else _) = _
    by_cases short : totalBytes segments < m.maxArtifactBytes
    · rw [if_pos short, if_pos short]
      rfl
    · rw [if_neg short, if_neg short]
      rfl

/-- The totals after a finalization are right exactly when the artifact was finalizable. -/
theorem finalizable_iff (maxArtifactBytes : ℕ) (artifact : ReplayArtifact)
    (status : ArtifactStatus) (segments : List ReplaySegment) (used pinned : ℤ) :
    (if status = .final ∧ (computeTreeHash segments).isOk = false then used
          else if totalBytes segments < maxArtifactBytes then
            used - (maxArtifactBytes - totalBytes segments)
          else used) =
        used - (if artifact.replayState = .evicted then 0 else (maxArtifactBytes : ℤ)) +
          (if artifact.replayState = .evicted then 0
            else if status = .opened then (maxArtifactBytes : ℤ) else totalBytes segments) ∧
      pinned = pinned - (if artifact.replayState = .pinned then (artifact.totalBytes : ℤ) else 0) +
        (if artifact.replayState = .pinned then (totalBytes segments : ℤ) else 0) ↔
      Finalizable maxArtifactBytes artifact status segments := by
  constructor
  · rintro ⟨usedEq, pinnedEq⟩
    refine ⟨fun state => ?_, fun state => ?_, fun state opened => ?_, fun state ended => ?_,
      fun state final hash => ?_⟩
    · rw [if_pos state, if_pos state] at pinnedEq
      omega
    · rw [if_pos state, if_pos state] at usedEq
      by_cases raised : status = .final ∧ (computeTreeHash segments).isOk = false
      · exact .inl raised
      · rw [if_neg raised] at usedEq
        split at usedEq
        · omega
        · exact .inr (by omega)
    · rw [if_neg state, if_neg state, if_pos opened, if_neg (by rw [opened]; simp)] at usedEq
      split at usedEq
      · omega
      · omega
    · rw [if_neg state, if_neg state, if_neg ended] at usedEq
      split at usedEq
      · omega
      split at usedEq
      · omega
      · omega
    · rw [if_neg state, if_neg state, if_pos ⟨final, hash⟩, if_neg (by rw [final]; simp)] at usedEq
      omega
  · intro finalizable
    constructor
    · by_cases state : artifact.replayState = .evicted
      · rw [if_pos state, if_pos state]
        rcases finalizable.evicted state with raised | long
        · rw [if_pos raised]
          omega
        · rw [if_neg (Nat.not_lt.mpr long), ite_self]
          omega
      rw [if_neg state, if_neg state]
      by_cases opened : status = .opened
      · have long := finalizable.opened state opened
        rw [if_pos opened, if_neg (Nat.not_lt.mpr long), ite_self]
        omega
      rw [if_neg opened]
      have fits := finalizable.fits state opened
      by_cases raised : status = .final ∧ (computeTreeHash segments).isOk = false
      · have long := finalizable.hash state raised.1 raised.2
        rw [if_pos raised]
        omega
      · rw [if_neg raised]
        split
        · omega
        · omega
    · by_cases state : artifact.replayState = .pinned
      · have same := finalizable.pinned state
        rw [if_pos state, if_pos state]
        omega
      · rw [if_neg state, if_neg state]
        omega

theorem accounted_finalize_iff {m : ReplayManager} (accounted : m.Accounted) (runId : ℕ)
    (status : ArtifactStatus) (segments : List ReplaySegment) (now : ℤ) :
    Accounted (finalState (finalizeArtifact runId status segments now m)) ↔
      ReplayOp.Accountable m (.finalize runId status segments now) := by
  change _ ↔ ∀ artifact, m.artifacts.find? runId = some artifact → artifact.status = .opened →
    Finalizable m.maxArtifactBytes artifact status segments
  cases found : m.artifacts.find? runId with
  | none =>
      refine iff_of_true ?_ fun _ impossible => by cases impossible
      unfold finalizeArtifact
      rw [get_bind, found]
      exact accounted
  | some artifact =>
      by_cases opened : artifact.status = .opened
      · obtain ⟨after, charge, pinCharge, left⟩ :=
          finalState_finalizeArtifact found opened status segments now
        have charged : artifact.charge m.maxArtifactBytes =
            if artifact.replayState = .evicted then 0 else (m.maxArtifactBytes : ℤ) := by
          unfold ReplayArtifact.charge
          rw [if_pos opened]
        have exactly := finalizable_iff m.maxArtifactBytes artifact status segments m.usedBytes
          m.pinnedBytes
        rw [left, accounted_withArtifact_iff accounted, charge, pinCharge, (chargeOf_eq found).1,
          (chargeOf_eq found).2.1, charged]
        constructor
        · rintro ⟨used, -, pinned, -, -⟩ other same -
          cases same
          exact exactly.mp ⟨used, pinned⟩
        · intro finalizable
          obtain ⟨used, pinned⟩ := exactly.mpr (finalizable artifact rfl opened)
          refine ⟨used, ?_, pinned, accounted.pinned_nonneg, accounted.pinned_le⟩
          have cap := accounted.used_le
          split
          · exact cap
          split
          · omega
          · exact cap
      · refine iff_of_true ?_ fun other same isOpen => ?_
        · unfold finalizeArtifact
          rw [get_bind, found]
          dsimp only
          rw [if_pos opened]
          exact accounted
        · cases same
          exact absurd isOpen opened

/-! ## Evictions -/

/-- The manager after the eviction of the artifact of a run. -/
def evictRun (m : ReplayManager) (runId : ℕ) : ReplayManager :=
  match m.artifacts.find? runId with
  | none => m
  | some artifact => m.evicted runId artifact

theorem exists_of_isPresent {m : ReplayManager} {runId : ℕ} (present : m.isPresent runId = true) :
    ∃ artifact, m.artifacts.find? runId = some artifact ∧ artifact.replayState = .present := by
  unfold isPresent at present
  cases found : m.artifacts.find? runId with
  | none =>
      rw [found] at present
      cases present
  | some artifact =>
      rw [found] at present
      exact ⟨artifact, rfl, of_decide_eq_true present⟩

/-- `evict_artifact` of a present artifact: its directory is removed, or cannot be. -/
theorem evictArtifact_of_present {m : ReplayManager} {runId : ℕ} (present : m.isPresent runId = true)
    (remove : Removal) : evictArtifact remove runId m =
      match remove runId with
      | .ok () => .ok true (m.evictRun runId)
      | .error failure => .error failure m := by
  obtain ⟨artifact, found, state⟩ := exists_of_isPresent present
  unfold evictArtifact evictRun
  rw [get_bind, found]
  dsimp only
  rw [if_neg (not_not.mpr state)]
  cases removed : remove runId with
  | error failure => exact liftRaises_bind_of_error rfl _ _
  | ok _ => exact liftRaises_bind_of_ok rfl _ _

theorem evictArtifact_of_not_present {m : ReplayManager} {runId : ℕ}
    (missing : m.isPresent runId = false) (remove : Removal) :
    evictArtifact remove runId m = .ok false m := by
  unfold evictArtifact
  rw [get_bind]
  unfold isPresent at missing
  cases found : m.artifacts.find? runId with
  | none => rfl
  | some artifact =>
      rw [found] at missing
      dsimp only
      rw [if_pos (of_decide_eq_false missing)]
      rfl

/-- The eviction of one artifact leaves the others. -/
theorem find?_evictRun {m : ReplayManager} {runId other : ℕ} (differs : other ≠ runId) :
    (m.evictRun runId).artifacts.find? other = m.artifacts.find? other := by
  unfold evictRun
  cases m.artifacts.find? runId with
  | none => rfl
  | some artifact => exact Table.find?_set_of_ne _ _ differs

/-- What an eviction moves. -/
structure Evicts (runIds : List ℕ) (m m' : ReplayManager) : Prop where
  caps : m'.globalCapBytes = m.globalCapBytes ∧ m'.pinQuotaBytes = m.pinQuotaBytes ∧
    m'.maxArtifactBytes = m.maxArtifactBytes
  used : m'.usedBytes = m.usedBytes - (runIds.map m.bytesOf).sum
  charges : m'.artifacts.total (ReplayArtifact.charge m'.maxArtifactBytes) =
    m.artifacts.total (ReplayArtifact.charge m.maxArtifactBytes) - (runIds.map m.chargeOf).sum
  pinned : m'.pinnedBytes = m.pinnedBytes
  pinCharges : m'.artifacts.total ReplayArtifact.pinCharge =
    m.artifacts.total ReplayArtifact.pinCharge

theorem evicts_evictRun {m : ReplayManager} {runId : ℕ} (present : m.isPresent runId = true) :
    Evicts [runId] m (m.evictRun runId) := by
  obtain ⟨artifact, found, state⟩ := exists_of_isPresent present
  obtain ⟨charge, pinCharge, bytes⟩ := chargeOf_eq found
  have notPinned : artifact.pinCharge = 0 := if_neg (by rw [state]; simp)
  have left : m.evictRun runId = m.evicted runId artifact := by
    unfold evictRun
    rw [found]
  rw [left]
  refine ⟨⟨rfl, rfl, rfl⟩, ?_, ?_, rfl, ?_⟩
  · rw [List.map_singleton, List.sum_singleton, bytes]
    rfl
  · have moved := Table.total_set (ReplayArtifact.charge m.maxArtifactBytes) m.artifacts runId
      { artifact with replayState := .evicted }
    rw [List.map_singleton, List.sum_singleton]
    exact moved.trans (add_zero _)
  · have moved := Table.total_set ReplayArtifact.pinCharge m.artifacts runId
      { artifact with replayState := .evicted }
    have share : m.artifacts.weight ReplayArtifact.pinCharge runId = 0 := pinCharge.trans notPinned
    rw [share] at moved
    exact moved.trans (by rw [sub_zero]; exact add_zero _)

/-- The loop of `evict_expired` evicts artifacts until a directory cannot be removed. -/
theorem evicts_evictAll (remove : Removal) {runIds : List ℕ} (distinct : runIds.Nodup)
    {m : ReplayManager} (present : ∀ runId ∈ runIds, m.isPresent runId = true) :
    Evicts (runIds.takeWhile fun runId => (remove runId).isOk) m
      (finalState (evictAll remove runIds m)) := by
  induction runIds generalizing m with
  | nil => exact ⟨⟨rfl, rfl, rfl⟩, (sub_zero _).symm, (sub_zero _).symm, rfl, rfl⟩
  | cons runId rest ih =>
      rw [List.nodup_cons] at distinct
      rw [List.forall_mem_cons] at present
      have first := evictArtifact_of_present present.1 remove
      cases removed : remove runId with
      | error failure =>
          rw [removed] at first
          unfold evictAll
          rw [bind_of_error first, List.takeWhile_cons, if_neg (by rw [removed]; exact Bool.false_ne_true)]
          exact ⟨⟨rfl, rfl, rfl⟩, (sub_zero _).symm, (sub_zero _).symm, rfl, rfl⟩
      | ok _ =>
          rw [removed] at first
          have left : finalState (evictAll remove (runId :: rest) m) =
              finalState (evictAll remove rest (m.evictRun runId)) := by
            change finalState ((evictArtifact remove runId >>= fun done =>
              evictAll remove rest >>= fun others =>
                pure (if done then runId :: others else others)) m) = _
            rw [bind_of_ok first]
            exact finalState_bind_value _ _ _
          rw [left, List.takeWhile_cons, if_pos (by rw [removed]; rfl)]
          have one := evicts_evictRun present.1
          have same : ∀ other ∈ rest, (m.evictRun runId).artifacts.find? other =
              m.artifacts.find? other := fun other mem =>
            find?_evictRun fun equal => distinct.1 (equal ▸ mem)
          have others := ih distinct.2 (m := m.evictRun runId) fun other mem => by
            unfold isPresent
            rw [same other mem]
            exact present.2 other mem
          have sameSums (f : ReplayArtifact → ℤ) :
              (rest.takeWhile fun runId => (remove runId).isOk).map
                  ((m.evictRun runId).artifacts.weight f) =
                (rest.takeWhile fun runId => (remove runId).isOk).map (m.artifacts.weight f) := by
            refine List.map_congr_left fun other mem => ?_
            unfold Table.weight
            rw [same other (List.takeWhile_subset _ mem)]
          have charges : (rest.takeWhile fun runId => (remove runId).isOk).map
                (m.evictRun runId).chargeOf =
              (rest.takeWhile fun runId => (remove runId).isOk).map m.chargeOf := by
            have := sameSums (ReplayArtifact.charge m.maxArtifactBytes)
            unfold chargeOf
            rw [one.caps.2.2]
            exact this
          have single := one.used
          have singleCharge := one.charges
          rw [List.map_singleton, List.sum_singleton] at single singleCharge
          refine ⟨⟨others.caps.1.trans one.caps.1, others.caps.2.1.trans one.caps.2.1,
            others.caps.2.2.trans one.caps.2.2⟩, ?_, ?_, others.pinned.trans one.pinned,
            others.pinCharges.trans one.pinCharges⟩
          · rw [others.used, single, List.map_cons, List.sum_cons]
            unfold bytesOf
            rw [sameSums]
            abel
          · rw [others.charges, singleCharge, List.map_cons, List.sum_cons, charges]
            abel

/-- The totals after an eviction are right exactly when its artifacts were settled. -/
theorem Evicts.accounted_iff {runIds : List ℕ} {m m' : ReplayManager} (evicts : Evicts runIds m m')
    (accounted : m.Accounted) : m'.Accounted ↔ m.Settled runIds := by
  obtain ⟨⟨cap, quota, -⟩, used, charges, pinned, pinCharges⟩ := evicts
  have nonneg : 0 ≤ (runIds.map m.chargeOf).sum := List.sum_nonneg fun x mem => by
    obtain ⟨runId, -, rfl⟩ := List.mem_map.mp mem
    exact (chargeOf_le accounted runId).1
  have usedEq := accounted.used
  have usedLe := accounted.used_le
  unfold Settled
  constructor
  · intro after
    have usedEq' := after.used
    omega
  · intro settled
    refine ⟨by omega, by omega, ?_, ?_, ?_⟩
    · rw [pinned, pinCharges]
      exact accounted.pinned
    · rw [pinned]
      exact accounted.pinned_nonneg
    · rw [pinned, quota]
      exact accounted.pinned_le

theorem accounted_evict_iff {m : ReplayManager} (accounted : m.Accounted) (remove : Removal)
    (runId : ℕ) : Accounted (finalState (evictArtifact remove runId m)) ↔
      (m.isPresent runId = true → (remove runId).isOk = true → m.Settled [runId]) := by
  cases present : m.isPresent runId with
  | false =>
      rw [evictArtifact_of_not_present present]
      exact iff_of_true accounted fun impossible => by cases impossible
  | true =>
      rw [evictArtifact_of_present present]
      cases removed : remove runId with
      | error failure => exact iff_of_true accounted fun _ impossible => by cases impossible
      | ok _ =>
          have exactly := (evicts_evictRun present).accounted_iff accounted
          exact exactly.trans ⟨fun settled _ _ => settled, fun settled => settled rfl rfl⟩

/-- An artifact that is chosen by age is present. -/
theorem isPresent_of_mem {m : ReplayManager} {row : ℕ × ReplayArtifact}
    (mem : row ∈ m.presentArtifacts) : m.isPresent row.1 = true := by
  obtain ⟨stored, state⟩ := List.mem_filter.mp mem
  unfold isPresent
  rw [Table.mem_rows_iff.mp stored]
  exact state

theorem accounted_evictOldest_iff {m : ReplayManager} (accounted : m.Accounted)
    (remove : Removal) : Accounted (finalState (evictOldestUnpinned remove m)) ↔
      ReplayOp.Accountable m (.evictOldest remove) := by
  change _ ↔ ∀ runId, m.oldestUnpinned = some runId → (remove runId).isOk = true →
    m.Settled [runId]
  unfold evictOldestUnpinned
  rw [get_bind]
  cases oldest : m.oldestUnpinned with
  | none => exact iff_of_true accounted fun _ impossible => by cases impossible
  | some runId =>
      dsimp only
      have present : m.isPresent runId = true := by
        obtain ⟨row, first, rfl⟩ := Option.map_eq_some_iff.mp oldest
        exact isPresent_of_mem ((mem_sortByKey _).mp (List.mem_of_mem_head? first))
      have exactly := accounted_evict_iff accounted remove runId
      cases result : evictArtifact remove runId m with
      | error failure t =>
          rw [result] at exactly
          rw [bind_of_error result]
          exact exactly.trans ⟨fun h other same => Option.some.inj same ▸ h present,
            fun h _ => h runId rfl⟩
      | ok done t =>
          rw [result] at exactly
          rw [bind_of_ok result]
          exact exactly.trans ⟨fun h other same => Option.some.inj same ▸ h present,
            fun h _ => h runId rfl⟩

/-- The expired artifacts are present, each listed once. -/
theorem expired_present (m : ReplayManager) (now finalDays incompleteDays : ℤ) :
    (m.expired now finalDays incompleteDays).Nodup ∧
      ∀ runId ∈ m.expired now finalDays incompleteDays, m.isPresent runId = true := by
  unfold expired
  dsimp only
  constructor
  · refine ((sortByKey_perm _ _).map Prod.fst).nodup_iff.mpr ?_
    exact m.artifacts.nodup.sublist
      ((List.filter_sublist.trans List.filter_sublist).map Prod.fst)
  · intro runId mem
    obtain ⟨row, chosen, rfl⟩ := List.mem_map.mp mem
    exact isPresent_of_mem (List.mem_filter.mp ((mem_sortByKey _).mp chosen)).1

theorem accounted_evictExpired_iff {m : ReplayManager} (accounted : m.Accounted)
    (remove : Removal) (now : ℤ) (finalDays incompleteDays : Option ℤ) :
    Accounted (finalState (evictExpired remove now finalDays incompleteDays m)) ↔
      ReplayOp.Accountable m (.evictExpired remove now finalDays incompleteDays) := by
  unfold evictExpired ReplayOp.Accountable
  rw [get_bind]
  dsimp only
  by_cases refused : min (finalDays.getD m.retentionFinalDays)
      (incompleteDays.getD m.retentionIncompleteDays) ≤ 0
  · rw [if_pos refused]
    exact iff_of_true accounted fun positive => absurd refused (not_le.mpr positive)
  · rw [if_neg refused]
    obtain ⟨distinct, present⟩ := expired_present m now (finalDays.getD m.retentionFinalDays)
      (incompleteDays.getD m.retentionIncompleteDays)
    have exactly := (evicts_evictAll remove distinct present).accounted_iff accounted
    exact exactly.trans ⟨fun settled _ => settled, fun settled => settled (not_le.mp refused)⟩

end ReplayManager

/-! ## Runs -/

open ReplayManager

/-- **One operation keeps the totals exactly when it is accountable.** -/
theorem accounted_step_iff {m : ReplayManager} (accounted : m.Accounted) (op : ReplayOp) :
    (replayMachine.step m op).1.Accounted ↔ op.Accountable m := by
  change (finalState (op.program m)).Accounted ↔ _
  cases op with
  | reserve runId now =>
      change (finalState ((reserveArtifact runId now >>= fun _ => pure ()) m)).Accounted ↔ _
      rw [finalState_bind_pure]
      exact accounted_reserve_iff accounted runId now
  | finalize runId status segments now =>
      exact accounted_finalize_iff accounted runId status segments now
  | pin runId =>
      change (finalState ((pinArtifact runId >>= fun _ => pure ()) m)).Accounted ↔ _
      rw [finalState_bind_pure]
      exact iff_of_true (accounted_pin accounted runId) trivial
  | unpin runId => exact iff_of_true (accounted_unpin accounted runId) trivial
  | evictOldest remove =>
      change (finalState ((evictOldestUnpinned remove >>= fun _ => pure ()) m)).Accounted ↔ _
      rw [finalState_bind_pure]
      exact accounted_evictOldest_iff accounted remove
  | evict remove runId =>
      change (finalState ((evictArtifact remove runId >>= fun _ => pure ()) m)).Accounted ↔ _
      rw [finalState_bind_pure]
      exact accounted_evict_iff accounted remove runId
  | evictExpired remove now finalDays incompleteDays =>
      change (finalState ((evictExpired remove now finalDays incompleteDays >>=
        fun _ => pure ()) m)).Accounted ↔ _
      rw [finalState_bind_pure]
      exact accounted_evictExpired_iff accounted remove now finalDays incompleteDays

section Runs

variable (globalCapBytes pinQuotaBytes maxArtifactBytes : ℕ)
  (retentionFinalDays retentionIncompleteDays : ℤ)

theorem accounted_new : (ReplayManager.new globalCapBytes pinQuotaBytes maxArtifactBytes
    retentionFinalDays retentionIncompleteDays).Accounted :=
  ⟨rfl, Int.natCast_nonneg _, rfl, le_rfl, Int.natCast_nonneg _⟩

/-- **The totals of a new manager are right in every state of a run exactly when each of its
operations is accountable.** -/
theorem accounted_iff_accountable (ops : List ReplayOp) :
    replayMachine.AllSteps (fun m op => (replayMachine.step m op).1.Accounted)
        (ReplayManager.new globalCapBytes pinQuotaBytes maxArtifactBytes retentionFinalDays
          retentionIncompleteDays) ops ↔
      replayMachine.AllSteps (fun m op => op.Accountable m)
        (ReplayManager.new globalCapBytes pinQuotaBytes maxArtifactBytes retentionFinalDays
          retentionIncompleteDays) ops :=
  replayMachine.allSteps_iff_of_invariant ReplayManager.Accounted
    (fun _ op accounted => accounted_step_iff accounted op)
    (fun _ op accounted accountable => (accounted_step_iff accounted op).mpr accountable)
    (accounted_new globalCapBytes pinQuotaBytes maxArtifactBytes retentionFinalDays
      retentionIncompleteDays) ops

end Runs

/-! ## An open artifact that is evicted -/

/-- A run is reserved and its artifact evicted before it is finalized. -/
def evictedReservation : List ReplayOp := [.reserve 1 0, .evict (fun _ => .ok ()) 1]

/-- The reservation stays in the used bytes. -/
theorem not_accounted_of_evictedReservation :
    (replayMachine.exec (ReplayManager.new 100 100 10 30 7) evictedReservation).usedBytes = 10 ∧
      ¬ (replayMachine.exec (ReplayManager.new 100 100 10 30 7) evictedReservation).Accounted := by
  refine ⟨by decide, fun accounted => ?_⟩
  have used := accounted.used
  revert used
  decide

end CubeNano

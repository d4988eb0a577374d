import CubeNano.Lib.Machine
import CubeNano.Lib.SortByKey
import CubeNano.Lib.TableTotal
import CubeNano.Protocol.Exceptions
import CubeNano.Protocol.PyValue
import CubeNano.Protocol.Sha256
import Mathlib.Data.Prod.Lex

/-!
# Replay artifacts

`link_sim/replay_manager.py`: the manager of the recordings of simulation runs, with its two
running totals.

A method is an `EStateM` program over the manager.  The directories of the artifacts are an
input of a call: what removing one raises.

## Main definitions

* `ReplayArtifact`, `ReplayManager`
* `ReplayManager.reserveArtifact`, `.finalizeArtifact`, `.pinArtifact`, `.unpinArtifact`,
  `.evictArtifact`, `.evictOldestUnpinned`, `.evictExpired`
* `replayMachine` — the manager over any sequence of operations
-/

namespace CubeNano

/-! ## Artifacts -/

/-- `ReplayState`. -/
inductive ReplayState
  | present
  | pinned
  | evicted
  deriving DecidableEq, Repr

/-- `ArtifactStatus`. -/
inductive ArtifactStatus
  | opened
  | final
  | incompleteCrash
  | incompleteStorage
  deriving DecidableEq, Repr

/-- The value of the enumeration. -/
def ArtifactStatus.text : ArtifactStatus → String
  | opened => "OPEN"
  | final => "FINAL"
  | incompleteCrash => "INCOMPLETE_CRASH"
  | incompleteStorage => "INCOMPLETE_STORAGE"

/-- `ReplaySegment`; its file is read by no method of the manager. -/
structure ReplaySegment where
  index : ℤ
  sizeBytes : ℕ
  sha256 : Text
  deriving DecidableEq

/-- `ReplayArtifact`. -/
structure ReplayArtifact where
  simulationRunId : ℕ
  status : ArtifactStatus
  replayState : ReplayState
  segments : List ReplaySegment
  totalBytes : ℕ
  artifactSha256 : Option Text
  createdAtNs : ℤ
  finalizedAtNs : Option ℤ
  deriving DecidableEq

/-- The white space `bytes.fromhex` skips. -/
def isAsciiSpace (c : CodePoint) : Bool := c.val = 0x20 ∨ (0x09 ≤ c.val ∧ c.val ≤ 0x0D)

/-- `bytes.fromhex`. -/
def bytesFromHex : Text → Raises Bytes
  | [] => .ok []
  | [c] => if isAsciiSpace c then .ok []
      else valueError "non-hexadecimal number found in fromhex() arg"
  | c :: c' :: rest =>
      if isAsciiSpace c then bytesFromHex (c' :: rest)
      else
        match hexValue? c, hexValue? c' with
        | some high, some low => (bytesFromHex rest).map (UInt8.ofNat (16 * high + low) :: ·)
        | _, _ => valueError "non-hexadecimal number found in fromhex() arg"

/-- What a segment adds to the tree hash. -/
def ReplaySegment.hashed (segment : ReplaySegment) : Raises Bytes :=
  if segment.sizeBytes < 2 ^ 64 then
    (bytesFromHex segment.sha256).map (toBytesBE 8 segment.sizeBytes ++ ·)
  else overflowError "int too big to convert"

/-- `compute_tree_hash` of the segments of an artifact. -/
def computeTreeHash (segments : List ReplaySegment) : Raises Text := do
  let parts ← (sortByKey ReplaySegment.index segments).mapM ReplaySegment.hashed
  .ok (hexOfBytes (sha256 ("link-replay-v1\x00".toUTF8.toList ++ parts.flatten)))

/-- The bytes of some segments. -/
def totalBytes (segments : List ReplaySegment) : ℕ :=
  (segments.map ReplaySegment.sizeBytes).sum

/-! ## The manager -/

/-- `ReplayManager`. -/
structure ReplayManager where
  globalCapBytes : ℕ
  pinQuotaBytes : ℕ
  maxArtifactBytes : ℕ
  retentionFinalDays : ℤ
  retentionIncompleteDays : ℤ
  artifacts : Table ℕ ReplayArtifact
  usedBytes : ℤ
  pinnedBytes : ℤ

/-- A method of the manager. -/
abbrev ReplayProgram (α : Type) := EStateM PyException ReplayManager α

/-- What removing the directory of a run raises. -/
abbrev Removal := ℕ → Raises Unit

namespace ReplayManager

/-- A new manager. -/
def new (globalCapBytes pinQuotaBytes maxArtifactBytes : ℕ)
    (retentionFinalDays retentionIncompleteDays : ℤ) : ReplayManager :=
  ⟨globalCapBytes, pinQuotaBytes, maxArtifactBytes, retentionFinalDays, retentionIncompleteDays,
    .empty, 0, 0⟩

/-- The artifact of a run is another. -/
def withArtifact (m : ReplayManager) (runId : ℕ) (artifact : ReplayArtifact) : ReplayManager :=
  { m with artifacts := m.artifacts.set runId artifact }

/-- An artifact in state `OPEN`. -/
def openArtifact (runId : ℕ) (currentTimeNs : ℤ) : ReplayArtifact :=
  ⟨runId, .opened, .present, [], 0, none, currentTimeNs, none⟩

/-- `reserve_artifact`. -/
def reserveArtifact (runId : ℕ) (currentTimeNs : ℤ) : ReplayProgram Bool := do
  let m ← get
  if m.usedBytes + m.maxArtifactBytes > m.globalCapBytes then pure false
  else do
    set { m.withArtifact runId (openArtifact runId currentTimeNs) with
      usedBytes := m.usedBytes + m.maxArtifactBytes }
    pure true

/-- `Unknown artifact`. -/
def unknownArtifact {α : Type} (runId : ℕ) : Raises α :=
  valueError s!"Unknown artifact: 0x{hexDigits 16 runId}"

/-- The artifact `finalize_artifact` makes, but for its hash. -/
def finalized (artifact : ReplayArtifact) (status : ArtifactStatus)
    (segments : List ReplaySegment) (currentTimeNs : ℤ) : ReplayArtifact :=
  { artifact with
    status := status
    segments := segments
    totalBytes := totalBytes segments
    finalizedAtNs := some currentTimeNs }

/-- The hash of an artifact that is `FINAL`. -/
def finalHash (artifact : ReplayArtifact) : Raises ReplayArtifact :=
  if artifact.status = .final then
    (computeTreeHash artifact.segments).map fun hash => { artifact with artifactSha256 := some hash }
  else .ok artifact

/-- The unused part of a reservation is released. -/
def releaseReservation (actual : ℕ) (m : ReplayManager) : ReplayManager :=
  if actual < m.maxArtifactBytes then
    { m with usedBytes := m.usedBytes - (m.maxArtifactBytes - actual) }
  else m

/-- `finalize_artifact`. -/
def finalizeArtifact (runId : ℕ) (status : ArtifactStatus) (segments : List ReplaySegment)
    (currentTimeNs : ℤ) : ReplayProgram Unit := do
  let m ← get
  match m.artifacts.find? runId with
  | none => liftRaises (unknownArtifact runId)
  | some artifact =>
      if artifact.status ≠ .opened then
        liftRaises (valueError s!"Artifact not OPEN: ArtifactStatus.{artifact.status.text}")
      else do
        let artifact := finalized artifact status segments currentTimeNs
        set (m.withArtifact runId artifact)
        let hashed ← liftRaises (finalHash artifact)
        set ((m.withArtifact runId hashed).releaseReservation artifact.totalBytes)

/-- `pin_artifact`. -/
def pinArtifact (runId : ℕ) : ReplayProgram Bool := do
  let m ← get
  match m.artifacts.find? runId with
  | none => liftRaises (unknownArtifact runId)
  | some artifact =>
      match artifact.replayState with
      | .pinned => pure true
      | .evicted => liftRaises (valueError "Cannot pin evicted artifact")
      | .present =>
          if m.pinnedBytes + artifact.totalBytes > m.pinQuotaBytes then pure false
          else do
            set { m.withArtifact runId { artifact with replayState := .pinned } with
              pinnedBytes := m.pinnedBytes + artifact.totalBytes }
            pure true

/-- `unpin_artifact`. -/
def unpinArtifact (runId : ℕ) : ReplayProgram Unit := do
  let m ← get
  match m.artifacts.find? runId with
  | none => liftRaises (unknownArtifact runId)
  | some artifact =>
      if artifact.replayState ≠ .pinned then pure ()
      else
        set { m.withArtifact runId { artifact with replayState := .present } with
          pinnedBytes := m.pinnedBytes - artifact.totalBytes }

/-- The manager after the eviction of an artifact. -/
def evicted (m : ReplayManager) (runId : ℕ) (artifact : ReplayArtifact) : ReplayManager :=
  { m.withArtifact runId { artifact with replayState := .evicted } with
    usedBytes := m.usedBytes - artifact.totalBytes }

/-- `evict_artifact`. -/
def evictArtifact (remove : Removal) (runId : ℕ) : ReplayProgram Bool := do
  let m ← get
  match m.artifacts.find? runId with
  | none => pure false
  | some artifact =>
      if artifact.replayState ≠ .present then pure false
      else do
        liftRaises (remove runId)
        set (m.evicted runId artifact)
        pure true

/-- The artifacts in state `PRESENT`. -/
def presentArtifacts (m : ReplayManager) : List (ℕ × ReplayArtifact) :=
  m.artifacts.rows.filter fun row => row.2.replayState = .present

/-- The artifact `evict_oldest_unpinned` chooses. -/
def oldestUnpinned (m : ReplayManager) : Option ℕ :=
  ((sortByKey (fun row => row.2.createdAtNs) m.presentArtifacts).head?).map Prod.fst

/-- `evict_oldest_unpinned`. -/
def evictOldestUnpinned (remove : Removal) : ReplayProgram (Option ℕ) := do
  let m ← get
  match m.oldestUnpinned with
  | none => pure none
  | some runId => do
      let done ← evictArtifact remove runId
      pure (if done then some runId else none)

/-- `86_400_000_000_000`. -/
def dayNs : ℤ := 86400000000000

/-- Where the age of an artifact starts. -/
def ageStart (artifact : ReplayArtifact) : ℤ :=
  artifact.finalizedAtNs.getD artifact.createdAtNs

/-- The artifacts past their retention, in the order they are evicted. -/
def expired (m : ReplayManager) (currentTimeNs finalDays incompleteDays : ℤ) : List ℕ :=
  let candidates := m.presentArtifacts.filter fun row =>
    ageStart row.2 + (if row.2.status = .final then finalDays else incompleteDays) * dayNs ≤
      currentTimeNs
  (sortByKey (fun row : ℕ × ReplayArtifact => toLex (ageStart row.2, row.1)) candidates).map Prod.fst

/-- The loop of `evict_expired`. -/
def evictAll (remove : Removal) : List ℕ → ReplayProgram (List ℕ)
  | [] => pure []
  | runId :: rest => do
      let done ← evictArtifact remove runId
      let others ← evictAll remove rest
      pure (if done then runId :: others else others)

/-- `evict_expired`. -/
def evictExpired (remove : Removal) (currentTimeNs : ℤ)
    (finalRetentionDays incompleteRetentionDays : Option ℤ) : ReplayProgram (List ℕ) := do
  let m ← get
  let finalDays := finalRetentionDays.getD m.retentionFinalDays
  let incompleteDays := incompleteRetentionDays.getD m.retentionIncompleteDays
  if min finalDays incompleteDays ≤ 0 then
    liftRaises (valueError "replay retention days must be positive")
  else evictAll remove (m.expired currentTimeNs finalDays incompleteDays)

end ReplayManager

/-! ## Runs -/

/-- An operation on the manager. -/
inductive ReplayOp
  | reserve (runId : ℕ) (currentTimeNs : ℤ)
  | finalize (runId : ℕ) (status : ArtifactStatus) (segments : List ReplaySegment)
      (currentTimeNs : ℤ)
  | pin (runId : ℕ)
  | unpin (runId : ℕ)
  | evictOldest (remove : Removal)
  | evict (remove : Removal) (runId : ℕ)
  | evictExpired (remove : Removal) (currentTimeNs : ℤ)
      (finalRetentionDays incompleteRetentionDays : Option ℤ)

/-- The program of an operation, without its value. -/
def ReplayOp.program : ReplayOp → ReplayProgram Unit
  | reserve runId now => do let _ ← ReplayManager.reserveArtifact runId now
  | finalize runId status segments now => ReplayManager.finalizeArtifact runId status segments now
  | pin runId => do let _ ← ReplayManager.pinArtifact runId
  | unpin runId => ReplayManager.unpinArtifact runId
  | evictOldest remove => do let _ ← ReplayManager.evictOldestUnpinned remove
  | evict remove runId => do let _ ← ReplayManager.evictArtifact remove runId
  | evictExpired remove now finalDays incompleteDays => do
      let _ ← ReplayManager.evictExpired remove now finalDays incompleteDays

/-- The manager over any sequence of operations. -/
def replayMachine : Machine ReplayManager ReplayOp (Raises Unit) where
  step m op := (Effect.finalState (op.program m), outcome (op.program m))

end CubeNano

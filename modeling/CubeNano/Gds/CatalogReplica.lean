import CubeNano.Gds.CatalogBundle
import CubeNano.Lib.Machine
import CubeNano.Lib.Table
import CubeNano.Protocol.Utf8

/-!
# The catalog replica

`CatalogReplicaStore` of `gds/catalog.py` over its two tables.  Snapshots have the key
spacecraft, epoch and revision; scenes the key spacecraft, epoch, scene and scene revision,
and the catalog revision is a column of theirs.

An activation replaces the snapshot of its epoch and revision.  The rows that other
revisions of the epoch left behind stay, so a scene two revisions share has its key taken.

Columns that nothing reads are left out, as are the instants.

## Main definitions

* `CatalogTables`, `CatalogTables.activate`, `CatalogTables.markStale`, `catalogMachine`
* `CatalogTables.Consistent` — the invariant: every snapshot has the scenes of its bundle

## Main statements

* `catalogMachine_consistent` — every step keeps it
* `catalogClaims_iff` — the activations of a run work exactly when none meets a scene of
  another revision, and the metadata of their scenes can be written
-/

namespace CubeNano

/-! ## Rows -/

/-- `catalog_snapshots.state`. -/
inductive SnapshotState
  | staging
  | verified
  | retired
  | invalid
  deriving DecidableEq, Repr

/-- `scenes.state`. -/
inductive SceneState
  | active
  | stale
  | invalid
  | unsupported
  deriving DecidableEq, Repr

/-- A row of `catalog_snapshots`.  The digest is the hexadecimal text of its column. -/
structure SnapshotRow where
  snapshotSha256 : Text
  state : SnapshotState
  manifestJson : Text
  sourceBootId : Option U32
  sourceLinkSessionId : Option U64
  isActive : Bool
  deriving DecidableEq

/-- A row of `scenes`.  The digests are the hexadecimal texts of their columns. -/
structure SceneRow where
  catalogRevision : U32
  sourceSha256 : Text
  sidecarSha256 : Text
  metadataJson : Text
  state : SceneState
  invalidReason : Option String
  deriving DecidableEq

/-- The two tables. -/
structure CatalogTables where
  snapshots : Table (U64 × U32 × U32) SnapshotRow
  scenes : Table (U64 × U32 × U32 × U32) SceneRow
  deriving DecidableEq

/-- `CatalogStatus`. -/
structure CatalogStatus where
  spacecraftInstanceId : U64
  catalogEpoch : Option U32
  catalogRevision : Option U32
  snapshotSha256 : Option Text
  synced : Bool
  stale : Bool
  sceneCount : ℕ
  sourceBootId : Option U32
  linkSessionId : Option U64
  deriving DecidableEq

/-! ## Scene rows -/

/-- The keys of the metadata are texts. -/
def CatalogScene.TextKeys (scene : CatalogScene) : Prop :=
  scene.metadata.all (fun entry => entry.1.isStr) = true

instance CatalogScene.decidableTextKeys (scene : CatalogScene) : Decidable scene.TextKeys :=
  inferInstanceAs (Decidable (_ = true))

/-- `json.dumps(metadata, sort_keys=True, …)`, with the domain and the shape; keys that are
not texts cannot be sorted among them. -/
def sceneMetadata (scene : CatalogScene) : Raises Text :=
  if scene.TextKeys then
    .ok (dumpsText (.dict (dictUpdate scene.metadata [(strKey "domain", .dict scene.domain),
      (strKey "shape", .list (scene.shape.map .int))])))
  else typeError "'<' not supported between instances of different types"

/-- `scenes.state` of a capability. -/
def SceneCapability.sceneState : SceneCapability → SceneState
  | verified => .active
  | unsupported => .unsupported
  | invalid => .invalid

/-- The row of a scene. -/
def sceneRow (revision : U32) (scene : CatalogScene) : Raises SceneRow := do
  let metadata ← sceneMetadata scene
  .ok ⟨revision, scene.sourceSha256, scene.sidecarSha256, metadata, scene.capability.sceneState,
    if scene.capability = .invalid then some "CATALOG_INVALID" else none⟩

namespace CatalogTables

/-- The scene rows of a snapshot. -/
def ofSnapshot (i : U64) (epoch revision : U32) (key : U64 × U32 × U32 × U32) (row : SceneRow) :
    Bool :=
  key.1 = i && key.2.1 = epoch && row.catalogRevision = revision

/-- The two `DELETE`s; no scene refers to the deleted snapshot any more. -/
def deleteSnapshot (t : CatalogTables) (i : U64) (epoch revision : U32) : CatalogTables where
  snapshots := t.snapshots.erase (i, epoch, revision)
  scenes := t.scenes.filter fun key row => !ofSnapshot i epoch revision key row

/-- `INSERT INTO catalog_snapshots`. -/
def insertSnapshot (t : CatalogTables) (key : U64 × U32 × U32) (row : SnapshotRow) :
    Raises CatalogTables :=
  match t.snapshots.insert key row with
  | none => integrityError "UNIQUE constraint failed: catalog_snapshots"
  | some snapshots => .ok { t with snapshots }

/-- `INSERT INTO scenes`. -/
def insertScene (t : CatalogTables) (key : U64 × U32 × U32 × U32) (row : SceneRow) :
    Raises CatalogTables :=
  match t.scenes.insert key row with
  | none => integrityError "UNIQUE constraint failed: scenes"
  | some scenes => .ok { t with scenes }

/-- The loop over the scenes. -/
def insertScenes (t : CatalogTables) (i : U64) (epoch revision : U32) :
    List CatalogScene → Raises CatalogTables
  | [] => .ok t
  | scene :: rest => do
      let row ← sceneRow revision scene
      let inserted ← t.insertScene (i, epoch, scene.identity) row
      insertScenes inserted i epoch revision rest

/-- `UPDATE … SET state='RETIRED',is_active=0 … WHERE … is_active=1`. -/
def retireActive (t : CatalogTables) (i : U64) : CatalogTables :=
  { t with
    snapshots := t.snapshots.mapRows fun key row =>
      if key.1 = i && row.isActive then { row with state := .retired, isActive := false } else row }

/-- `UPDATE … SET state='VERIFIED',is_active=1 …`, with the index `uq_catalog_one_active`. -/
def verifySnapshot (t : CatalogTables) (key : U64 × U32 × U32) : Raises CatalogTables :=
  if t.snapshots.rows.any fun row => row.1.1 = key.1 && row.1 ≠ key && row.2.isActive then
    integrityError "UNIQUE constraint failed: catalog_snapshots.source_spacecraft_instance_id"
  else .ok { t with
    snapshots := t.snapshots.update key fun row =>
      { row with state := .verified, isActive := true } }

/-- `_status_in_transaction`. -/
def status (t : CatalogTables) (i : U64) : CatalogStatus :=
  match t.snapshots.rows.find? fun row => row.1.1 = i && row.2.isActive with
  | none => ⟨i, none, none, none, false, true, 0, none, none⟩
  | some (key, row) =>
      ⟨i, some key.2.1, some key.2.2, some row.snapshotSha256, row.state = .verified,
        row.state ≠ .verified,
        (t.scenes.rows.filter fun scene => ofSnapshot i key.2.1 key.2.2 scene.1 scene.2).length,
        row.sourceBootId, row.sourceLinkSessionId⟩

/-- The binding of an instant to a statement. -/
def checkInstant (instant : ℤ) : Raises Unit :=
  if instant < -(2 ^ 63) ∨ 2 ^ 63 ≤ instant then
    overflowError "Python int too large to convert to SQLite INTEGER"
  else .ok ()

/-- The statements of an activation. -/
def replaceSnapshot (t : CatalogTables) (i : U64) (bundle : CatalogBundle)
    (sourceBootId : Option U32) (linkSessionId : Option U64) (receivedAtUs : ℤ) :
    Raises CatalogTables := do
  let manifest ← utf8Decode bundle.rawBytes
  checkInstant receivedAtUs
  let staged ← (t.deleteSnapshot i bundle.epoch bundle.revision).insertSnapshot
    (i, bundle.epoch, bundle.revision)
    ⟨bundle.snapshotSha256, .staging, manifest, sourceBootId, linkSessionId, false⟩
  let filled ← staged.insertScenes i bundle.epoch bundle.revision bundle.scenes
  (filled.retireActive i).verifySnapshot (i, bundle.epoch, bundle.revision)

/-- The snapshot of the bundle is verified and active. -/
def alreadyActive (t : CatalogTables) (i : U64) (bundle : CatalogBundle) : Bool :=
  (t.snapshots.find? (i, bundle.epoch, bundle.revision)).any fun row =>
    row.snapshotSha256 = bundle.snapshotSha256 && row.state = .verified && row.isActive

/-- `activate`, of a bundle. -/
def activate (t : CatalogTables) (i : U64) (bundle : CatalogBundle) (sourceBootId : Option U32)
    (linkSessionId : Option U64) (receivedAtUs : ℤ) : Raises (CatalogStatus × CatalogTables) :=
  if receivedAtUs < 0 then valueError "received_at_us must be non-negative"
  else if t.alreadyActive i bundle then .ok (t.status i, t)
  else do
    let replaced ← t.replaceSnapshot i bundle sourceBootId linkSessionId receivedAtUs
    .ok (replaced.status i, replaced)

/-- `mark_stale`. -/
def markStale (t : CatalogTables) (i : U64) (atUs : ℤ) : Raises CatalogTables := do
  checkInstant atUs
  .ok (t.retireActive i)

/-- The tables of a new database. -/
def empty : CatalogTables := ⟨.empty, .empty⟩

end CatalogTables

/-- The calls; their instants are instants that the database holds. -/
inductive CatalogOp
  | activate (spacecraftInstanceId : U64) (bundle : ParsedBundle) (sourceBootId : Option U32)
      (linkSessionId : Option U64) (receivedAtUs : Fin (2 ^ 63))
  | markStale (spacecraftInstanceId : U64) (atUs : Fin (2 ^ 63))

/-- The store; a transaction that raises is rolled back. -/
def catalogMachine : Machine CatalogTables CatalogOp (Raises (Option CatalogStatus)) where
  step t op :=
    match op with
    | .activate i bundle boot session receivedAtUs =>
        match t.activate i bundle.toCatalogBundle boot session receivedAtUs.val with
        | .ok (status, activated) => (activated, .ok (some status))
        | .error failure => (t, .error failure)
    | .markStale i atUs =>
        match t.markStale i atUs.val with
        | .ok marked => (marked, .ok none)
        | .error failure => (t, .error failure)

/-! ## The statements -/

/-- The rows of a bundle. -/
def CatalogBundle.Stores (b : CatalogBundle) (identity : U32 × U32) (row : SceneRow) : Prop :=
  ∃ scene ∈ b.scenes, scene.identity = identity ∧ sceneRow b.revision scene = .ok row

theorem sceneRow_eq_ok {revision : U32} {scene : CatalogScene} {row : SceneRow}
    (made : sceneRow revision scene = .ok row) : scene.TextKeys ∧ row.catalogRevision = revision := by
  obtain ⟨metadata, dumped, made⟩ := bind_eq_ok_iff.mp made
  cases made
  unfold sceneMetadata at dumped
  split at dumped
  · rename_i texts
    exact ⟨texts, rfl⟩
  · cases dumped

theorem exists_sceneRow {scene : CatalogScene} (texts : scene.TextKeys) (revision : U32) :
    ∃ row, sceneRow revision scene = .ok row := by
  unfold sceneRow sceneMetadata
  rw [if_pos texts]
  exact ⟨_, rfl⟩

namespace CatalogTables

variable {t t' : CatalogTables} {i : U64} {epoch revision : U32}

/-- The scene rows of a snapshot. -/
def SceneOf (t : CatalogTables) (i : U64) (epoch revision : U32) (identity : U32 × U32)
    (row : SceneRow) : Prop :=
  t.scenes.find? (i, epoch, identity) = some row ∧ row.catalogRevision = revision

theorem insertScene_eq_ok {key : U64 × U32 × U32 × U32} {row : SceneRow}
    (done : t.insertScene key row = .ok t') : t.scenes.find? key = none ∧
      t'.snapshots = t.snapshots ∧ ∀ k, t'.scenes.find? k = if k = key then some row else
        t.scenes.find? k := by
  unfold insertScene at done
  split at done
  · cases done
  · rename_i scenes inserted
    cases done
    exact ⟨Table.fresh_of_insert inserted, rfl, fun k => Table.find?_insert inserted k⟩

/-- The loop inserts the rows of the scenes, where nothing was stored. -/
theorem insertScenes_eq_ok {scenes : List CatalogScene} :
    ∀ {t t' : CatalogTables}, t.insertScenes i epoch revision scenes = .ok t' →
      t'.snapshots = t.snapshots ∧
      (∀ scene ∈ scenes, scene.TextKeys ∧ t.scenes.find? (i, epoch, scene.identity) = none) ∧
      ∀ k row, t'.scenes.find? k = some row ↔ t.scenes.find? k = some row ∨
        ∃ scene ∈ scenes, k = (i, epoch, scene.identity) ∧ sceneRow revision scene = .ok row := by
  induction scenes with
  | nil =>
      rintro t t' ⟨⟩
      exact ⟨rfl, nofun, fun k row => ⟨.inl, fun here => here.resolve_right (by simp)⟩⟩
  | cons scene rest ih =>
      intro t t' done
      obtain ⟨row, made, done⟩ := bind_eq_ok_iff.mp done
      obtain ⟨inserted, insert, done⟩ := bind_eq_ok_iff.mp done
      obtain ⟨absent, sameSnapshots, after⟩ := insertScene_eq_ok insert
      obtain ⟨sameSnapshots', fresh, stored⟩ := ih done
      refine ⟨sameSnapshots'.trans sameSnapshots, fun other mem => ?_, fun k row' => ?_⟩
      · rcases List.mem_cons.mp mem with rfl | mem
        · exact ⟨(sceneRow_eq_ok made).1, absent⟩
        · obtain ⟨texts, missing⟩ := fresh other mem
          rw [after] at missing
          split at missing
          · cases missing
          · exact ⟨texts, missing⟩
      · rw [stored, after]
        constructor
        · rintro (here | ⟨other, mem, ofKey, madeOther⟩)
          · split at here
            · rename_i ofScene
              cases here
              exact .inr ⟨scene, List.mem_cons_self, ofScene, made⟩
            · exact .inl here
          · exact .inr ⟨other, List.mem_cons_of_mem _ mem, ofKey, madeOther⟩
        · rintro (here | ⟨other, mem, ofKey, madeOther⟩)
          · left
            rw [if_neg]
            · exact here
            · rintro rfl
              rw [absent] at here
              cases here
          · rcases List.mem_cons.mp mem with rfl | mem
            · left
              rw [if_pos ofKey, ← Except.ok.inj (made.symm.trans madeOther)]
            · exact .inr ⟨other, mem, ofKey, madeOther⟩

/-- It returns when the keys are free, and the metadata can be written. -/
theorem exists_insertScenes {scenes : List CatalogScene}
    (distinct : (scenes.map CatalogScene.identity).Nodup) :
    ∀ {t : CatalogTables}, (∀ scene ∈ scenes, scene.TextKeys ∧
      t.scenes.find? (i, epoch, scene.identity) = none) →
        ∃ t', t.insertScenes i epoch revision scenes = .ok t' := by
  induction scenes with
  | nil => exact fun _ => ⟨_, rfl⟩
  | cons scene rest ih =>
      intro t free
      rw [List.map_cons, List.nodup_cons] at distinct
      obtain ⟨texts, absent⟩ := free scene List.mem_cons_self
      obtain ⟨row, made⟩ := exists_sceneRow texts revision
      have inserted : t.insertScene (i, epoch, scene.identity) row =
          .ok { t with scenes := t.scenes.append _ row absent } := by
        rw [insertScene, Table.insert_of_fresh row absent]
      obtain ⟨t', done⟩ := ih distinct.2 (t := { t with scenes := t.scenes.append _ row absent })
        fun other mem => by
          refine ⟨(free other (List.mem_cons_of_mem _ mem)).1, ?_⟩
          show (t.scenes.append _ row absent).find? _ = none
          rw [Table.find?_append, if_neg]
          · exact (free other (List.mem_cons_of_mem _ mem)).2
          · intro same
            have same : other.identity = scene.identity := congrArg (fun k => k.2.2) same
            exact distinct.1 (same ▸ List.mem_map.mpr ⟨other, mem, rfl⟩)
      refine ⟨t', ?_⟩
      rw [insertScenes, made]
      show (t.insertScene (i, epoch, scene.identity) row >>= _) = _
      rw [inserted]
      exact done

/-- The scenes that are left after the deletion. -/
theorem find?_deleteSnapshot (t : CatalogTables) (key : U64 × U32 × U32 × U32) (row : SceneRow) :
    (t.deleteSnapshot i epoch revision).scenes.find? key = some row ↔
      t.scenes.find? key = some row ∧
        ¬ (key.1 = i ∧ key.2.1 = epoch ∧ row.catalogRevision = revision) := by
  show (t.scenes.filter _).find? key = some row ↔ _
  rw [Table.find?_filter, Option.filter_eq_some_iff]
  refine and_congr_right fun _ => ?_
  rw [Bool.not_eq_true', ← Bool.not_eq_true]
  refine not_congr ?_
  simp [ofSnapshot, and_assoc]

/-- After a retirement no snapshot of the spacecraft is active. -/
theorem find?_retireActive (t : CatalogTables) (key : U64 × U32 × U32) :
    (t.retireActive i).snapshots.find? key = (t.snapshots.find? key).map fun row =>
      if key.1 = i && row.isActive then { row with state := .retired, isActive := false } else row :=
  Table.find?_mapRows ..

theorem isActive_retireActive {key : U64 × U32 × U32} {row : SnapshotRow}
    (here : (t.retireActive i).snapshots.find? key = some row) (ofInstance : key.1 = i) :
    row.isActive = false := by
  rw [find?_retireActive] at here
  obtain ⟨old, -, rfl⟩ := Option.map_eq_some_iff.mp here
  rw [ofInstance]
  cases active : old.isActive with
  | false => simp [active]
  | true => simp

/-! ## An activation -/

/-- The scenes have keys that no other revision has taken, and metadata that can be
written. -/
def Room (t : CatalogTables) (i : U64) (b : CatalogBundle) : Prop :=
  ∀ scene ∈ b.scenes, scene.TextKeys ∧ ∀ row, t.scenes.find? (i, b.epoch, scene.identity) =
    some row → row.catalogRevision = b.revision

theorem room_iff {b : CatalogBundle} : t.Room i b ↔ ∀ scene ∈ b.scenes, scene.TextKeys ∧
    (t.deleteSnapshot i b.epoch b.revision).scenes.find? (i, b.epoch, scene.identity) = none := by
  refine forall₂_congr fun scene _ => and_congr_right fun _ => ?_
  rw [Option.eq_none_iff_forall_ne_some]
  refine forall_congr' fun row => ?_
  rw [Ne, find?_deleteSnapshot]
  simp

variable {b : ParsedBundle} {boot : Option U32} {session : Option U64} {receivedAtUs : ℤ}

/-- The row of a snapshot that was activated. -/
def activeRow (b : ParsedBundle) (manifest : Text) (boot : Option U32) (session : Option U64) :
    SnapshotRow :=
  ⟨b.snapshotSha256, .verified, manifest, boot, session, true⟩

/-- What an activation does to both tables. -/
structure Replaced (t : CatalogTables) (i : U64) (b : ParsedBundle) (boot : Option U32)
    (session : Option U64) (manifest : Text) (t' : CatalogTables) : Prop where
  decoded : utf8Decode b.rawBytes = .ok manifest
  snapshots : ∀ k, t'.snapshots.find? k = if k = (i, b.epoch, b.revision) then
    some (activeRow b manifest boot session) else (t.retireActive i).snapshots.find? k
  scenes : ∀ k row, t'.scenes.find? k = some row ↔
    (t.scenes.find? k = some row ∧
      ¬ (k.1 = i ∧ k.2.1 = b.epoch ∧ row.catalogRevision = b.revision)) ∨
    ∃ scene ∈ b.scenes, k = (i, b.epoch, scene.identity) ∧ sceneRow b.revision scene = .ok row

/-- An activation that returns had room, and replaces the snapshot. -/
theorem replaceSnapshot_eq_ok
    (done : t.replaceSnapshot i b.toCatalogBundle boot session receivedAtUs = .ok t') :
    t.Room i b.toCatalogBundle ∧ ∃ manifest, Replaced t i b boot session manifest t' := by
  obtain ⟨manifest, decoded, done⟩ := bind_eq_ok_iff.mp done
  obtain ⟨_, -, done⟩ := bind_eq_ok_iff.mp done
  obtain ⟨staged, insert, done⟩ := bind_eq_ok_iff.mp done
  obtain ⟨filled, loop, verify⟩ := bind_eq_ok_iff.mp done
  obtain ⟨sameSnapshots, free, stored⟩ := insertScenes_eq_ok loop
  have inserted : staged.scenes = (t.deleteSnapshot i b.epoch b.revision).scenes ∧
      ∀ k, staged.snapshots.find? k = if k = (i, b.epoch, b.revision) then
        some ⟨b.snapshotSha256, .staging, manifest, boot, session, false⟩
        else t.snapshots.find? k := by
    unfold insertSnapshot at insert
    split at insert
    · cases insert
    · rename_i snapshots inserted
      cases insert
      refine ⟨rfl, fun k => (Table.find?_insert inserted k).trans ?_⟩
      split
      · rfl
      · rename_i other
        exact (Table.find?_erase ..).trans (if_neg other)
  obtain ⟨sameScenes, snapshots⟩ := inserted
  unfold verifySnapshot at verify
  split at verify
  · cases verify
  cases verify
  rw [sameScenes] at free stored
  refine ⟨room_iff.mpr free, manifest, decoded, fun k => ?_, fun k row => ?_⟩
  · show (Table.update _ _ _).find? k = _
    rw [Table.find?_update, find?_retireActive, sameSnapshots, snapshots, find?_retireActive]
    split
    · rename_i same
      simp [activeRow]
    · rfl
  · exact (stored k row).trans (or_congr (find?_deleteSnapshot t k row) Iff.rfl)

/-- With room an activation returns. -/
theorem exists_replaceSnapshot (room : t.Room i b.toCatalogBundle) (boot : Option U32)
    (session : Option U64) (instant : 0 ≤ receivedAtUs ∧ receivedAtUs < 2 ^ 63) :
    ∃ t', t.replaceSnapshot i b.toCatalogBundle boot session receivedAtUs = .ok t' := by
  obtain ⟨⟨manifest, decoded⟩, -⟩ := b.checked
  have bound : checkInstant receivedAtUs = .ok () := by
    rw [checkInstant, if_neg]
    rintro (low | high)
    · exact absurd (Int.lt_of_le_of_lt instant.1 low) (by decide)
    · exact absurd instant.2 (not_lt.mpr high)
  have absent : (t.deleteSnapshot i b.epoch b.revision).snapshots.find?
      (i, b.epoch, b.revision) = none := by
    show (t.snapshots.erase _).find? _ = none
    rw [Table.find?_erase, if_pos rfl]
  obtain ⟨filled, loop⟩ : ∃ t', insertScenes { t.deleteSnapshot i b.epoch b.revision with
      snapshots := (t.deleteSnapshot i b.epoch b.revision).snapshots.append _
        ⟨b.snapshotSha256, .staging, manifest, boot, session, false⟩ absent }
      i b.epoch b.revision b.scenes = .ok t' :=
    exists_insertScenes b.distinct (room_iff.mp room)
  have alone : ¬ ((filled.retireActive i).snapshots.rows.any fun row =>
      row.1.1 = i && row.1 ≠ (i, b.epoch, b.revision) && row.2.isActive) = true := by
    intro other
    obtain ⟨row, mem, active⟩ := List.any_eq_true.mp other
    simp only [Bool.and_eq_true, decide_eq_true_eq] at active
    have inactive := isActive_retireActive (Table.mem_rows_iff.mp mem) active.1.1
    rw [active.2] at inactive
    cases inactive
  obtain ⟨after, verified⟩ : ∃ t', (filled.retireActive i).verifySnapshot
      (i, b.epoch, b.revision) = .ok t' := ⟨_, if_neg alone⟩
  refine ⟨after, ?_⟩
  unfold replaceSnapshot
  rw [decoded]
  show (checkInstant receivedAtUs >>= _) = _
  rw [bound]
  show (insertSnapshot _ _ _ >>= _) = _
  rw [insertSnapshot, Table.insert_of_fresh _ absent]
  show (insertScenes _ _ _ _ _ >>= _) = _
  rw [loop]
  exact verified

/-! ## The invariant -/

/-- The snapshot of a bundle, and it alone, is active for the spacecraft, and the scenes
stored for it are those of the bundle. -/
structure Activated (t : CatalogTables) (i : U64) (b : CatalogBundle) : Prop where
  active : ∀ k row, t.snapshots.find? k = some row → k.1 = i →
    (row.isActive = true ↔ k = (i, b.epoch, b.revision))
  snapshot : ∃ row, t.snapshots.find? (i, b.epoch, b.revision) = some row ∧
    row.snapshotSha256 = b.snapshotSha256 ∧ row.state = .verified
  scenes : ∀ identity row, t.SceneOf i b.epoch b.revision identity row ↔ b.Stores identity row

/-- Of a spacecraft one snapshot is active, and each has the scenes of the bundle it was made
from. -/
structure Consistent (t : CatalogTables) : Prop where
  oneActive : ∀ k k' row row', t.snapshots.find? k = some row → t.snapshots.find? k' = some row' →
    k.1 = k'.1 → row.isActive = true → row'.isActive = true → k = k'
  stored : ∀ k row, t.snapshots.find? k = some row → ∃ b : ParsedBundle,
    utf8Decode b.rawBytes = .ok row.manifestJson ∧
      ∀ identity r, t.SceneOf k.1 k.2.1 k.2.2 identity r ↔ b.Stores identity r

theorem consistent_empty : empty.Consistent := ⟨nofun, nofun⟩

/-- A snapshot that is active after a retirement was so before, of another spacecraft. -/
theorem active_of_retireActive {k : U64 × U32 × U32} {row : SnapshotRow}
    (here : (t.retireActive i).snapshots.find? k = some row) (active : row.isActive = true) :
    k.1 ≠ i ∧ t.snapshots.find? k = some row := by
  have other : k.1 ≠ i := by
    intro ofInstance
    rw [isActive_retireActive here ofInstance] at active
    cases active
  refine ⟨other, ?_⟩
  rw [find?_retireActive] at here
  obtain ⟨old, stored, rfl⟩ := Option.map_eq_some_iff.mp here
  simpa [other] using stored

theorem manifestJson_of_retireActive {k : U64 × U32 × U32} {row : SnapshotRow}
    (here : (t.retireActive i).snapshots.find? k = some row) :
    ∃ old, t.snapshots.find? k = some old ∧ old.manifestJson = row.manifestJson := by
  rw [find?_retireActive] at here
  obtain ⟨old, stored, rfl⟩ := Option.map_eq_some_iff.mp here
  refine ⟨old, stored, ?_⟩
  split
  · rfl
  · rfl

theorem Consistent.retireActive (consistent : t.Consistent) (i : U64) :
    (t.retireActive i).Consistent where
  oneActive k k' row row' here here' same active active' :=
    consistent.oneActive k k' row row' (active_of_retireActive here active).2
      (active_of_retireActive here' active').2 same active active'
  stored k row here := by
    obtain ⟨old, stored, same⟩ := manifestJson_of_retireActive here
    obtain ⟨b, decoded, scenes⟩ := consistent.stored k old stored
    exact ⟨b, same ▸ decoded, scenes⟩

variable {manifest : Text}

/-- The scenes of a snapshot after an activation: the bundle's, or the ones before. -/
theorem Replaced.sceneOf (replaced : Replaced t i b boot session manifest t')
    (k : U64 × U32 × U32) (identity : U32 × U32) (row : SceneRow) :
    t'.SceneOf k.1 k.2.1 k.2.2 identity row ↔
      if k = (i, b.epoch, b.revision) then b.Stores identity row
      else t.SceneOf k.1 k.2.1 k.2.2 identity row := by
  obtain ⟨k₁, k₂, k₃⟩ := k
  unfold SceneOf
  rw [replaced.scenes]
  constructor
  · rintro ⟨⟨here, kept⟩ | ⟨scene, mem, ofKey, made⟩, ofRevision⟩
    · rw [if_neg]
      · exact ⟨here, ofRevision⟩
      · rintro same
        cases same
        exact kept ⟨rfl, rfl, ofRevision⟩
    · simp only [Prod.mk.injEq] at ofKey
      obtain ⟨rfl, rfl, rfl⟩ := ofKey
      obtain rfl := ofRevision.symm.trans (sceneRow_eq_ok made).2
      rw [if_pos rfl]
      exact ⟨scene, mem, rfl, made⟩
  · intro here
    split at here
    · rename_i same
      cases same
      obtain ⟨scene, mem, rfl, made⟩ := here
      exact ⟨.inr ⟨scene, mem, rfl, made⟩, (sceneRow_eq_ok made).2⟩
    · rename_i other
      refine ⟨.inl ⟨here.1, ?_⟩, here.2⟩
      rintro ⟨rfl, rfl, ofRevision⟩
      exact other (by rw [← ofRevision, here.2])

theorem Replaced.consistent (replaced : Replaced t i b boot session manifest t')
    (consistent : t.Consistent) : t'.Consistent where
  oneActive k k' row row' here here' same active active' := by
    rw [replaced.snapshots] at here here'
    split at here
    · rename_i ofBundle
      split at here'
      · rename_i ofBundle'
        exact ofBundle.trans ofBundle'.symm
      · refine absurd ?_ (active_of_retireActive here' active').1
        rw [← same, ofBundle]
    · split at here'
      · rename_i ofBundle'
        refine absurd ?_ (active_of_retireActive here active).1
        rw [same, ofBundle']
      · exact (consistent.retireActive i).oneActive k k' row row' here here' same active active'
  stored k row here := by
    rw [replaced.snapshots] at here
    split at here
    · rename_i ofBundle
      cases here
      refine ⟨b, replaced.decoded, fun identity r => ?_⟩
      rw [replaced.sceneOf, if_pos ofBundle]
    · rename_i other
      obtain ⟨old, stored, same⟩ := manifestJson_of_retireActive here
      obtain ⟨b', decoded, scenes⟩ := consistent.stored k old stored
      refine ⟨b', same ▸ decoded, fun identity r => ?_⟩
      rw [replaced.sceneOf, if_neg other]
      exact scenes identity r

theorem Replaced.activated (replaced : Replaced t i b boot session manifest t') :
    t'.Activated i b.toCatalogBundle where
  active k row here ofInstance := by
    rw [replaced.snapshots] at here
    split at here
    · rename_i ofBundle
      cases here
      exact ⟨fun _ => ofBundle, fun _ => rfl⟩
    · rename_i other
      rw [isActive_retireActive here ofInstance]
      exact ⟨fun impossible => (by cases impossible), fun same => absurd same other⟩
  snapshot := ⟨_, (replaced.snapshots _).trans (if_pos rfl), rfl, rfl⟩
  scenes identity row := by
    have here := replaced.sceneOf (i, b.epoch, b.revision) identity row
    rw [if_pos rfl] at here
    exact here

/-! ## One step -/

/-- The bundle of the stored snapshot has the same scene rows. -/
def SameScenes (t : CatalogTables) (i : U64) (b : CatalogBundle) : Prop :=
  ∀ row, t.snapshots.find? (i, b.epoch, b.revision) = some row → ∀ b' : ParsedBundle,
    utf8Decode b'.rawBytes = .ok row.manifestJson →
      ∀ identity r, b'.Stores identity r ↔ b.Stores identity r

theorem alreadyActive_iff {b : CatalogBundle} : t.alreadyActive i b = true ↔
    ∃ row, t.snapshots.find? (i, b.epoch, b.revision) = some row ∧
      row.snapshotSha256 = b.snapshotSha256 ∧ row.state = .verified ∧ row.isActive = true := by
  unfold alreadyActive
  rw [Option.any_eq_true]
  simp [and_assoc]

/-- Bundles with one manifest are one. -/
theorem eq_of_manifest {b b' : ParsedBundle} (decoded : utf8Decode b.rawBytes = .ok manifest)
    (decoded' : utf8Decode b'.rawBytes = .ok manifest) : b = b' := by
  refine ParsedBundle.ext_of_rawBytes ?_
  have encoded := utf8Encode_of_utf8Decode decoded
  rw [utf8Encode_of_utf8Decode decoded'] at encoded
  exact (Except.ok.inj encoded).symm

/-- A snapshot that is active stays, with the scenes of its own bundle. -/
theorem activated_iff_sameScenes (consistent : t.Consistent)
    (already : t.alreadyActive i b.toCatalogBundle = true) :
    t.Activated i b.toCatalogBundle ↔ t.SameScenes i b.toCatalogBundle := by
  obtain ⟨row, here, digest, verified, active⟩ := alreadyActive_iff.mp already
  obtain ⟨b₀, decoded, scenes⟩ := consistent.stored _ row here
  constructor
  · intro activated row' here' b' decoded' identity r
    obtain rfl := Option.some.inj (here.symm.trans here')
    obtain rfl := eq_of_manifest decoded decoded'
    exact (scenes identity r).symm.trans (activated.scenes identity r)
  · intro same
    refine ⟨fun k row' here' ofInstance => ⟨fun active' => ?_, ?_⟩, ⟨row, here, digest, verified⟩,
      fun identity r => (scenes identity r).trans (same row here b₀ decoded identity r)⟩
    · exact consistent.oneActive k _ row' row here' here ofInstance active' active
    · rintro rfl
      obtain rfl := Option.some.inj (here.symm.trans here')
      exact active

/-- An activation that returns found its snapshot active, or replaced it. -/
theorem activate_eq_ok {status : CatalogStatus}
    (done : t.activate i b.toCatalogBundle boot session receivedAtUs = .ok (status, t')) :
    (t.alreadyActive i b.toCatalogBundle = true ∧ t' = t) ∨
      (t.Room i b.toCatalogBundle ∧ ∃ manifest, Replaced t i b boot session manifest t') := by
  unfold activate at done
  split at done
  · cases done
  split at done
  · rename_i already
    cases done
    exact .inl ⟨already, rfl⟩
  · obtain ⟨replaced, replace, done⟩ := bind_eq_ok_iff.mp done
    cases done
    exact .inr (replaceSnapshot_eq_ok replace)

end CatalogTables

open CatalogTables

/-- The claim about an activation: it returns, and its snapshot is the active one, with its
scenes. -/
def ActivationWorks (t : CatalogTables) : CatalogOp → Prop
  | .activate i b boot session receivedAtUs => ∃ status t',
      t.activate i b.toCatalogBundle boot session receivedAtUs.val = .ok (status, t') ∧
        t'.Activated i b.toCatalogBundle
  | .markStale _ _ => True

/-- An activation that finds its snapshot active under the same digest finds the same scenes;
any other has room for its own. -/
def ActivationFits (t : CatalogTables) : CatalogOp → Prop
  | .activate i b _ _ _ =>
      (t.alreadyActive i b.toCatalogBundle = true → t.SameScenes i b.toCatalogBundle) ∧
        (t.alreadyActive i b.toCatalogBundle = false → t.Room i b.toCatalogBundle)
  | .markStale _ _ => True

variable {t : CatalogTables}

/-- Every step keeps the invariant. -/
theorem catalogMachine_consistent (consistent : t.Consistent) (op : CatalogOp) :
    (catalogMachine.step t op).1.Consistent := by
  cases op with
  | activate i b boot session receivedAtUs =>
      dsimp only [catalogMachine]
      split
      · rename_i status activated done
        rcases activate_eq_ok done with ⟨-, rfl⟩ | ⟨-, manifest, replaced⟩
        · exact consistent
        · exact replaced.consistent consistent
      · exact consistent
  | markStale i atUs =>
      dsimp only [catalogMachine]
      split
      · rename_i marked done
        obtain ⟨_, -, done⟩ := bind_eq_ok_iff.mp done
        cases done
        exact consistent.retireActive i
      · exact consistent

/-- An activation works exactly when it fits. -/
theorem activationWorks_iff (consistent : t.Consistent) (op : CatalogOp) :
    ActivationWorks t op ↔ ActivationFits t op := by
  cases op with
  | markStale i atUs => exact Iff.rfl
  | activate i b boot session receivedAtUs =>
      have instant : (0 : ℤ) ≤ receivedAtUs.val ∧ (receivedAtUs.val : ℤ) < 2 ^ 63 :=
        ⟨Int.natCast_nonneg _, by exact_mod_cast receivedAtUs.isLt⟩
      unfold ActivationWorks ActivationFits CatalogTables.activate
      dsimp only
      rw [if_neg (not_lt.mpr instant.1)]
      cases already : t.alreadyActive i b.toCatalogBundle with
      | true =>
          rw [if_pos rfl, ← activated_iff_sameScenes consistent already]
          constructor
          · rintro ⟨status, t', done, activated⟩
            cases done
            exact ⟨fun _ => activated, nofun⟩
          · intro fits
            exact ⟨_, t, rfl, fits.1 rfl⟩
      | false =>
          rw [if_neg Bool.false_ne_true]
          constructor
          · rintro ⟨status, t', done, -⟩
            obtain ⟨replaced, replace, -⟩ := bind_eq_ok_iff.mp done
            exact ⟨nofun, fun _ => (replaceSnapshot_eq_ok replace).1⟩
          · intro fits
            obtain ⟨t', done⟩ := exists_replaceSnapshot (fits.2 rfl) boot session instant
            obtain ⟨-, manifest, replaced⟩ := replaceSnapshot_eq_ok done
            rw [done]
            exact ⟨_, t', rfl, replaced.activated⟩

/-- An activation that raises leaves both tables. -/
def RaiseKeeps (t : CatalogTables) (op : CatalogOp) : Prop :=
  ∀ failure, (catalogMachine.step t op).2 = .error failure → (catalogMachine.step t op).1 = t

theorem raiseKeeps (t : CatalogTables) (op : CatalogOp) : RaiseKeeps t op := by
  intro failure raised
  cases op with
  | activate i b boot session receivedAtUs =>
      dsimp only [catalogMachine] at raised ⊢
      split at raised
      · cases raised
      · rfl
  | markStale i atUs =>
      dsimp only [catalogMachine] at raised ⊢
      split at raised
      · cases raised
      · rfl

/-- What is claimed of a run over an empty replica. -/
structure CatalogClaims (inputs : List CatalogOp) : Prop where
  works : catalogMachine.AllSteps ActivationWorks .empty inputs
  raises : catalogMachine.AllSteps RaiseKeeps .empty inputs

/-- **Activations.**  In every run over an empty replica each activation works exactly when
each fits. -/
theorem catalogClaims_iff (inputs : List CatalogOp) :
    CatalogClaims inputs ↔ catalogMachine.AllSteps ActivationFits .empty inputs := by
  have agree := catalogMachine.allSteps_iff_of_invariant Consistent
    (fun _ op consistent => activationWorks_iff consistent op)
    (fun _ op consistent _ => catalogMachine_consistent consistent op) consistent_empty inputs
  refine ⟨fun claims => agree.mp claims.works, fun fits => ⟨agree.mpr fits, ?_⟩⟩
  exact catalogMachine.allSteps_of_invariant (fun _ => True) (fun _ _ _ => trivial)
    (fun t op _ _ => raiseKeeps t op) trivial fits

/-! ## A scene of two revisions -/

/-- A bundle of epoch 1 with one scene. -/
def sceneBundle (revision digest : String) : Bytes :=
  asciiBytes (
    Text.ofString "\x7b\"catalog_epoch\":1,\"catalog_revision\":" ++ Text.ofString revision ++
    Text.ofString ",\"scenes\":[\x7b\"capability\":\"VERIFIED\",\"scene_ref\":" ++
    Text.ofString "\x7b\"catalog_epoch\":1,\"scene_id\":7,\"scene_revision\":1\x7d," ++
    Text.ofString "\"shape\":[1,1,1],\"sidecar_sha256\":\"" ++ List.replicate 64 0x30 ++
    Text.ofString "\",\"source_sha256\":\"" ++ List.replicate 64 0x31 ++
    Text.ofString "\"\x7d],\"schema_version\":1,\"snapshot_sha256\":\"" ++
    Text.ofString digest ++ Text.ofString "\"\x7d\n")

/-- The first revision. -/
def firstRevision : Bytes :=
  sceneBundle "1" "37eb5c6e0c0b8b55787a8a9188586dcee49f8c8ae35c69b0fe2f351850277b64"

/-- The second revision, with the same scene. -/
def secondRevision : Bytes :=
  sceneBundle "2" "b8b9c718eefd2bddcfa1de7f4da2a5c7cac9e60a3515c5c96e8b929a6bd247d1"

/-- Epoch, revision and the identities of the scenes. -/
def CatalogBundle.identities (b : CatalogBundle) : U32 × U32 × List (U32 × U32) :=
  (b.epoch, b.revision, b.scenes.map CatalogScene.identity)

theorem firstRevision_parsed : (CatalogBundle.parse firstRevision).toOption.map
    CatalogBundle.identities = some (1, 1, [(7, 1)]) := by
  decide +kernel

theorem secondRevision_parsed : (CatalogBundle.parse secondRevision).toOption.map
    CatalogBundle.identities = some (1, 2, [(7, 1)]) := by
  decide +kernel

/-- The bundle of bytes that `parse` accepts. -/
theorem exists_parsedBundle {raw : Bytes} {identities : U32 × U32 × List (U32 × U32)}
    (parsed : (CatalogBundle.parse raw).toOption.map CatalogBundle.identities = some identities) :
    ∃ b : ParsedBundle, b.identities = identities := by
  obtain ⟨bundle, found, same⟩ := Option.map_eq_some_iff.mp parsed
  cases outcome : CatalogBundle.parse raw with
  | error failure =>
      rw [outcome] at found
      cases found
  | ok bundle' =>
      rw [outcome] at found
      cases found
      obtain ⟨b, rfl⟩ := ParsedBundle.exists_of_parse outcome
      exact ⟨b, same⟩

/-- After the first revision the second cannot be activated: the row of their scene is still
there. -/
theorem not_catalogClaims_of_sharedScene : ¬ ∀ inputs, CatalogClaims inputs := by
  intro always
  obtain ⟨first, ofFirst⟩ := exists_parsedBundle firstRevision_parsed
  obtain ⟨second, ofSecond⟩ := exists_parsedBundle secondRevision_parsed
  simp only [CatalogBundle.identities, Prod.mk.injEq] at ofFirst ofSecond
  have works := (always [.activate 7 first none none 0, .activate 7 second none none 0]).works
  obtain ⟨status, t, done, activated⟩ := works.1
  obtain ⟨status', t', done', -⟩ := works.2.1
  have step : (catalogMachine.step .empty (.activate 7 first none none 0)).1 = t := by
    dsimp only [catalogMachine]
    rw [done]
  rw [step] at done'
  -- the row of the first revision
  have stored : ∃ row, t.SceneOf 7 1 1 (7, 1) row := by
    obtain ⟨scene, mem, identity⟩ : ∃ scene ∈ first.scenes, scene.identity = (7, 1) := by
      rw [← List.mem_map, ofFirst.2.2]
      exact List.mem_singleton_self _
    rcases activate_eq_ok done with ⟨already, -⟩ | ⟨room, -⟩
    · cases already
    · obtain ⟨row, made⟩ := exists_sceneRow (room scene mem).1 first.revision
      have here := (activated.scenes (7, 1) row).mpr ⟨scene, mem, identity, made⟩
      rw [ofFirst.1, ofFirst.2.1] at here
      exact ⟨row, here⟩
  obtain ⟨row, here, revision⟩ := stored
  rcases activate_eq_ok done' with ⟨already, -⟩ | ⟨room, -⟩
  · obtain ⟨snapshot, found, -, -, active⟩ := alreadyActive_iff.mp already
    have same := (activated.active _ snapshot found rfl).mp active
    rw [ofFirst.2.1, ofSecond.2.1] at same
    have revisions : (2 : U32) = 1 := congrArg (fun k => k.2.2) same
    exact absurd revisions (by decide)
  · obtain ⟨scene, mem, identity⟩ : ∃ scene ∈ second.scenes, scene.identity = (7, 1) := by
      rw [← List.mem_map, ofSecond.2.2]
      exact List.mem_singleton_self _
    have taken := (room scene mem).2 row (by rw [ofSecond.1, identity]; exact here)
    rw [revision, ofSecond.2.1] at taken
    exact absurd taken (by decide)

end CubeNano

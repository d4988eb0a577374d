import CubeNano.Gds.CatalogReplica
import CubeNano.Lib.Keyset
import CubeNano.Protocol.PyNumbers

/-!
# Reading the catalog

`list_scenes` and `get_scene` of `gds/catalog.py`.  Both put a scene together from the columns
of its row and from the stored metadata; `get_scene` takes the domain and the shape out of the
metadata, `list_scenes` the domain only.  The cursor of `list_scenes` is a scene id, while the
scenes of a snapshot are told apart by scene id and revision.

SQLite orders the rows of a page by scene id; the order of the revisions of one scene is its
choice.

## Main definitions

* `CatalogTables.listScenes`, `CatalogTables.getScene`
* `CatalogTables.Follows` — the scenes of all pages, following `next_cursor`
* `CatalogTables.ActiveSnapshot.Browsable` — what is claimed of the active snapshot

## Main statements

* `CatalogTables.browsable_iff` — it holds exactly of snapshots without scenes; the pages have
  every scene once exactly when none of them ends between two revisions of a scene
-/

namespace CubeNano

/-! ## Scenes that are read -/

/-- Whether an entry has a key. -/
def hasKey (key : String) (entry : PyValue × PyValue) : Bool :=
  match entry.1 with
  | .str text => text = Text.ofString key
  | _ => false

/-- `entries.pop(key, …)`: the entries it leaves. -/
def dictPop (entries : PyDict) (key : String) : PyDict :=
  entries.filter fun entry => !hasKey key entry

/-- A `CatalogScene` from the database; its capability is a text. -/
structure ReadScene where
  sceneRef : SceneRef
  sourceSha256 : Text
  sidecarSha256 : Text
  shape : List ℤ
  capability : String
  domain : PyDict
  metadata : PyDict

/-- The identity of a scene in its catalog. -/
def ReadScene.identity (scene : ReadScene) : U32 × U32 :=
  (scene.sceneRef.sceneId, scene.sceneRef.sceneRevision)

/-- `left == right`. -/
def ReadScene.Same (left right : ReadScene) : Prop :=
  left.sceneRef = right.sceneRef ∧ left.sourceSha256 = right.sourceSha256 ∧
    left.sidecarSha256 = right.sidecarSha256 ∧ left.shape = right.shape ∧
    left.capability = right.capability ∧ pyEq (.dict left.domain) (.dict right.domain) = true ∧
    pyEq (.dict left.metadata) (.dict right.metadata) = true

/-- The texts of the capabilities. -/
def SceneCapability.name : SceneCapability → String
  | verified => "VERIFIED"
  | unsupported => "UNSUPPORTED"
  | invalid => "INVALID"

/-- A scene of a bundle, with the text of its capability. -/
def CatalogScene.reading (scene : CatalogScene) : ReadScene :=
  ⟨scene.sceneRef, scene.sourceSha256, scene.sidecarSha256, scene.shape, scene.capability.name,
    scene.domain, scene.metadata⟩

/-- `"VERIFIED" if state == "ACTIVE" else state`. -/
def SceneState.capability : SceneState → String
  | active => "VERIFIED"
  | stale => "STALE"
  | invalid => "INVALID"
  | unsupported => "UNSUPPORTED"

/-- `json.loads(metadata_json)`, of which `get` and `pop` are called. -/
def loadMetadata (row : SceneRow) : Raises PyDict :=
  match jsonLoads row.metadataJson with
  | .ok (.dict entries) => .ok entries
  | .ok _ => attributeError "object has no attribute 'get'"
  | .error failure => .error failure

/-- `tuple(int(item) for item in metadata.get("shape", ()))`. -/
def metadataShape (metadata : PyDict) : Raises (List ℤ) := do
  let items ← pyIter ((dictGet? metadata "shape").getD (.list []))
  items.mapM intOf

/-- `dict(metadata.pop("domain", {}))`. -/
def metadataDomain (metadata : PyDict) : Raises PyDict :=
  pyDict ((dictGet? metadata "domain").getD (.dict []))

/-- A scene as `list_scenes` reads it; the shape stays in the metadata. -/
def listedScene (ref : SceneRef) (row : SceneRow) : Raises ReadScene := do
  let metadata ← loadMetadata row
  let shape ← metadataShape metadata
  let domain ← metadataDomain metadata
  .ok ⟨ref, row.sourceSha256, row.sidecarSha256, shape, row.state.capability, domain,
    dictPop metadata "domain"⟩

/-- A scene as `get_scene` reads it. -/
def gotScene (ref : SceneRef) (row : SceneRow) : Raises ReadScene := do
  let metadata ← loadMetadata row
  let shape ← metadataShape metadata
  let domain ← metadataDomain (dictPop metadata "shape")
  .ok ⟨ref, row.sourceSha256, row.sidecarSha256, shape, row.state.capability, domain,
    dictPop (dictPop metadata "shape") "domain"⟩

/-- A row of `scenes` with its key. -/
abbrev KeyedScene := (U64 × U32 × U32 × U32) × SceneRow

/-- `scene_id`. -/
def KeyedScene.sceneId (scene : KeyedScene) : U32 := scene.1.2.2.1

/-- `scene_id` and `scene_revision`. -/
def KeyedScene.identity (scene : KeyedScene) : U32 × U32 := scene.1.2.2

/-- `SceneRef(catalog_epoch, scene_id, scene_revision)`. -/
def KeyedScene.ref (epoch : U32) (scene : KeyedScene) : SceneRef :=
  ⟨epoch, scene.identity.1, scene.identity.2⟩

namespace CatalogTables

/-- The rows of the scenes of a snapshot. -/
def sceneRows (t : CatalogTables) (i : U64) (epoch revision : U32) : List KeyedScene :=
  t.scenes.rows.filter fun scene => ofSnapshot i epoch revision scene.1 scene.2

/-- `list_scenes`. -/
def listScenes (order : KeyOrder KeyedScene.sceneId) (t : CatalogTables) (i : U64) (limit : ℤ)
    (afterSceneId : Option U32) : Raises (List ReadScene × Option U32 × CatalogStatus) :=
  if limit < 1 ∨ 1000 < limit then valueError "limit must be in [1, 1000]"
  else match (t.status i).catalogEpoch, (t.status i).catalogRevision with
    | some epoch, some revision => do
        let rows := order.page (t.sceneRows i epoch revision) limit.toNat afterSceneId
        let scenes ← rows.mapM fun row => listedScene (row.ref epoch) row.2
        let nextCursor := if (scenes.length : ℤ) = limit then
          scenes.getLast?.map fun scene => scene.sceneRef.sceneId else none
        .ok (scenes, nextCursor, t.status i)
    | _, _ => .ok ([], none, t.status i)

/-- What `get_scene` raises without a row. -/
def sceneMissing (t : CatalogTables) (i : U64) (ref : SceneRef) : Raises ReadScene :=
  if (t.status i).catalogEpoch ≠ some ref.catalogEpoch then
    catalogError "CATALOG_EPOCH_MISMATCH" "scene references an inactive catalog epoch"
  else catalogError "SCENE_NOT_FOUND" "scene is not in the active catalog"

/-- `get_scene`. -/
def getScene (t : CatalogTables) (i : U64) (ref : SceneRef) : Raises ReadScene :=
  match t.scenes.find? (i, ref.catalogEpoch, ref.sceneId, ref.sceneRevision) with
  | none => t.sceneMissing i ref
  | some row =>
      if (t.snapshots.find? (i, ref.catalogEpoch, row.catalogRevision)).any SnapshotRow.isActive then
        gotScene ref row
      else t.sceneMissing i ref

/-- The scenes of all pages, following `next_cursor` until it is null. -/
inductive Follows (order : KeyOrder KeyedScene.sceneId) (t : CatalogTables) (i : U64)
    (limit : ℤ) : Option U32 → List ReadScene → Prop
  | last {after : Option U32} {scenes : List ReadScene} {status : CatalogStatus}
      (page : t.listScenes order i limit after = .ok (scenes, none, status)) :
      Follows order t i limit after scenes
  | next {after : Option U32} {scenes rest : List ReadScene} {cursor : U32}
      {status : CatalogStatus}
      (page : t.listScenes order i limit after = .ok (scenes, some cursor, status))
      (follows : Follows order t i limit (some cursor) rest) :
      Follows order t i limit after (scenes ++ rest)

/-- The active snapshot of a spacecraft, and the bundle it was made from. -/
structure ActiveSnapshot (t : CatalogTables) where
  key : U64 × U32 × U32
  row : SnapshotRow
  bundle : ParsedBundle
  stored : t.snapshots.find? key = some row
  active : row.isActive = true
  manifest : utf8Decode bundle.rawBytes = .ok row.manifestJson

end CatalogTables

/-- The limits of `list_scenes`. -/
abbrev PageLimit := {limit : ℕ // 1 ≤ limit ∧ limit ≤ 1000}

namespace CatalogTables.ActiveSnapshot

variable {t : CatalogTables}

/-- The scenes of all pages of the active snapshot. -/
def Lists (c : ActiveSnapshot t) (order : KeyOrder KeyedScene.sceneId) (limit : PageLimit)
    (listed : List ReadScene) : Prop :=
  Follows order t c.key.1 limit.val none listed

/-- Following `next_cursor` yields every scene of the active snapshot once, in order, and each
scene is the one that `get_scene` returns and the one of the bundle. -/
def Browsable (c : ActiveSnapshot t) (order : KeyOrder KeyedScene.sceneId) (limit : PageLimit) :
    Prop :=
  ∃ listed, c.Lists order limit listed ∧
    listed.map ReadScene.identity = c.bundle.scenes.map CatalogScene.identity ∧
    ∀ scene ∈ listed, (∃ got, t.getScene c.key.1 scene.sceneRef = .ok got ∧ scene.Same got) ∧
      ∃ bundled ∈ c.bundle.scenes, scene.Same bundled.reading

end CatalogTables.ActiveSnapshot

/-! ## The two readers -/

theorem exists_of_dictGet? {entries : PyDict} {key : String} {value : PyValue}
    (found : dictGet? entries key = some value) : ∃ entry ∈ entries, hasKey key entry = true := by
  unfold dictGet? at found
  split at found
  · cases found
  · rename_i entry first
    exact ⟨entry, List.mem_of_find?_eq_some first, List.find?_some first⟩

/-- No text is two keys. -/
theorem hasKey_ne {key key' : String} (different : Text.ofString key ≠ Text.ofString key')
    {entry : PyValue × PyValue} (here : hasKey key entry = true) : hasKey key' entry = false := by
  obtain ⟨name, value⟩ := entry
  cases name with
  | str text =>
      have same : text = Text.ofString key := by simpa [hasKey] using here
      simpa [hasKey, same] using different
  | _ => cases here

/-- Metadata with a shape has one key less for `get_scene`. -/
theorem length_dictPop_shape {metadata : PyDict} {shape : PyValue}
    (found : dictGet? metadata "shape" = some shape) :
    (dictPop (dictPop metadata "shape") "domain").length < (dictPop metadata "domain").length := by
  obtain ⟨entry, mem, ofShape⟩ := exists_of_dictGet? found
  have notDomain : hasKey "domain" entry = false := hasKey_ne (by decide) ofShape
  have kept : entry ∈ dictPop metadata "domain" := by
    refine List.mem_filter.mpr ⟨mem, ?_⟩
    rw [notDomain]
    rfl
  have swapped : dictPop (dictPop metadata "shape") "domain" =
      dictPop (dictPop metadata "domain") "shape" := by
    unfold dictPop
    exact List.filter_comm ..
  rw [swapped]
  exact List.length_filter_lt_length_iff_exists.mpr ⟨entry, kept, by simp [ofShape]⟩

/-- The two readers differ in the metadata, or both find no shape. -/
theorem not_same_of_read {ref : SceneRef} {row : SceneRow} {listed got : ReadScene}
    (ofList : listedScene ref row = .ok listed) (ofGet : gotScene ref row = .ok got)
    (same : listed.Same got) : listed.shape = [] := by
  obtain ⟨metadata, loaded, ofList⟩ := bind_eq_ok_iff.mp ofList
  obtain ⟨shape, read, ofList⟩ := bind_eq_ok_iff.mp ofList
  obtain ⟨domain, -, ofList⟩ := bind_eq_ok_iff.mp ofList
  cases ofList
  obtain ⟨metadata', loaded', ofGet⟩ := bind_eq_ok_iff.mp ofGet
  obtain ⟨shape', -, ofGet⟩ := bind_eq_ok_iff.mp ofGet
  obtain ⟨domain', -, ofGet⟩ := bind_eq_ok_iff.mp ofGet
  cases ofGet
  obtain rfl := Except.ok.inj (loaded.symm.trans loaded')
  obtain ⟨-, -, -, -, -, -, sameMetadata⟩ := same
  cases found : dictGet? metadata "shape" with
  | none =>
      obtain ⟨items, iterated, read⟩ := bind_eq_ok_iff.mp read
      rw [found] at iterated
      cases iterated
      cases read
      rfl
  | some value =>
      have shorter := length_dictPop_shape found
      unfold pyEq at sameMetadata
      simp only [Bool.and_eq_true, decide_eq_true_eq] at sameMetadata
      omega

/-- The shape of a scene of a bundle has three sides. -/
theorem parseScene_shape {epoch : U32} {seen : List (U32 × U32)} {item : PyValue}
    {scene : CatalogScene} (done : parseScene epoch seen item = .ok scene) :
    scene.shape.length = 3 := by
  unfold parseScene at done
  split at done
  · obtain ⟨ref, -, done⟩ := bind_eq_ok_iff.mp done
    obtain ⟨digests, -, done⟩ := bind_eq_ok_iff.mp done
    obtain ⟨shape, read, done⟩ := bind_eq_ok_iff.mp done
    obtain ⟨capability, -, done⟩ := bind_eq_ok_iff.mp done
    obtain ⟨domain, -, done⟩ := bind_eq_ok_iff.mp done
    obtain ⟨metadata, -, done⟩ := bind_eq_ok_iff.mp done
    cases done
    obtain ⟨values, -, read⟩ := bind_eq_ok_iff.mp read
    obtain ⟨sides, -, read⟩ := bind_eq_ok_iff.mp read
    split at read
    · cases read
    · rename_i three
      cases read
      exact not_not.mp (not_or.mp three).1
  · cases done

theorem parseScenes_shape {epoch : U32} {items : List PyValue} :
    ∀ {seen : List (U32 × U32)} {scenes : List CatalogScene},
      parseScenes epoch seen items = .ok scenes → ∀ scene ∈ scenes, scene.shape.length = 3 := by
  induction items with
  | nil =>
      rintro seen scenes ⟨⟩
      exact nofun
  | cons item rest ih =>
      intro seen scenes done
      obtain ⟨scene, parsed, done⟩ := bind_eq_ok_iff.mp done
      obtain ⟨others, looped, done⟩ := bind_eq_ok_iff.mp done
      cases done
      exact List.forall_mem_cons.mpr ⟨parseScene_shape parsed, ih looped⟩

theorem ParsedBundle.shape_length (b : ParsedBundle) :
    ∀ scene ∈ b.scenes, scene.shape.length = 3 := by
  obtain ⟨-, scenes, items, looped, sorted⟩ := b.checked
  intro scene mem
  rw [sorted] at mem
  exact parseScenes_shape looped scene ((mem_sortByKey _).mp mem)

/-- The scenes of a bundle are in the order of their ids. -/
theorem ParsedBundle.ascending (b : ParsedBundle) :
    (b.scenes.map fun scene => scene.sceneRef.sceneId).Pairwise (· ≤ ·) := by
  obtain ⟨-, scenes, items, -, sorted⟩ := b.checked
  rw [sorted, List.pairwise_map]
  refine (pairwise_sortByKey _ scenes).imp fun {scene scene'} before => ?_
  rcases Prod.Lex.toLex_le_toLex.mp before with first | ⟨first, -⟩
  · exact le_of_lt first
  · exact le_of_eq first

namespace CatalogTables

variable {t : CatalogTables} {i : U64} {epoch revision : U32}

/-! ## The invariant -/

/-- The metadata of the scenes of every snapshot could be written. -/
def Written (t : CatalogTables) : Prop :=
  ∀ k row, t.snapshots.find? k = some row → ∀ b : ParsedBundle,
    utf8Decode b.rawBytes = .ok row.manifestJson → ∀ scene ∈ b.scenes, scene.TextKeys

theorem written_empty : empty.Written := nofun

theorem Written.retireActive (written : t.Written) (i : U64) : (t.retireActive i).Written := by
  intro k row here b decoded
  obtain ⟨old, stored, same⟩ := manifestJson_of_retireActive here
  exact written k old stored b (same ▸ decoded)

theorem Replaced.written {t' : CatalogTables} {b : ParsedBundle} {boot : Option U32}
    {session : Option U64} {manifest : Text} (replaced : Replaced t i b boot session manifest t')
    (room : t.Room i b.toCatalogBundle) (written : t.Written) : t'.Written := by
  intro k row here b' decoded scene mem
  rw [replaced.snapshots] at here
  split at here
  · cases here
    obtain rfl := eq_of_manifest decoded replaced.decoded
    exact (room scene mem).1
  · exact written.retireActive i k row here b' decoded scene mem

/-- Every step keeps it. -/
theorem catalogMachine_written (written : t.Written) (op : CatalogOp) :
    (catalogMachine.step t op).1.Written := by
  cases op with
  | activate i b boot session receivedAtUs =>
      dsimp only [catalogMachine]
      split
      · rename_i status activated done
        rcases activate_eq_ok done with ⟨-, rfl⟩ | ⟨room, manifest, replaced⟩
        · exact written
        · exact replaced.written room written
      · exact written
  | markStale i atUs =>
      dsimp only [catalogMachine]
      split
      · rename_i marked done
        obtain ⟨_, -, done⟩ := bind_eq_ok_iff.mp done
        cases done
        exact written.retireActive i
      · exact written

/-! ## The active snapshot -/

namespace ActiveSnapshot

/-- The rows of its scenes. -/
def rows (c : ActiveSnapshot t) : List KeyedScene := t.sceneRows c.key.1 c.key.2.1 c.key.2.2

theorem stores (c : ActiveSnapshot t) (consistent : t.Consistent) (identity : U32 × U32)
    (row : SceneRow) :
    t.SceneOf c.key.1 c.key.2.1 c.key.2.2 identity row ↔ c.bundle.Stores identity row := by
  obtain ⟨b, decoded, scenes⟩ := consistent.stored c.key c.row c.stored
  rw [eq_of_manifest c.manifest decoded]
  exact scenes identity row

/-- It is the snapshot of the status. -/
theorem status (c : ActiveSnapshot t) (consistent : t.Consistent) :
    (t.status c.key.1).catalogEpoch = some c.key.2.1 ∧
      (t.status c.key.1).catalogRevision = some c.key.2.2 := by
  unfold CatalogTables.status
  split
  · rename_i none
    have mem := Table.mem_rows_iff.mpr c.stored
    have inactive := List.find?_eq_none.mp none _ mem
    simp [c.active] at inactive
  · rename_i key row found
    have here := Table.mem_rows_iff.mp (List.mem_of_find?_eq_some found)
    have active := List.find?_some found
    simp only [Bool.and_eq_true, decide_eq_true_eq] at active
    rw [consistent.oneActive key c.key row c.row here c.stored active.1 active.2 c.active]
    exact ⟨rfl, rfl⟩

end ActiveSnapshot

theorem mem_sceneRows {row : KeyedScene} : row ∈ t.sceneRows i epoch revision ↔
    row.1 = (i, epoch, row.identity) ∧ t.SceneOf i epoch revision row.identity row.2 := by
  obtain ⟨⟨i', epoch', identity⟩, row⟩ := row
  unfold sceneRows SceneOf KeyedScene.identity
  rw [List.mem_filter, Table.mem_rows_iff]
  simp only [ofSnapshot, Bool.and_eq_true, decide_eq_true_eq, Prod.mk.injEq, and_true]
  constructor
  · rintro ⟨here, ⟨rfl, rfl⟩, ofRevision⟩
    exact ⟨⟨rfl, rfl⟩, here, ofRevision⟩
  · rintro ⟨⟨rfl, rfl⟩, here, ofRevision⟩
    exact ⟨here, ⟨rfl, rfl⟩, ofRevision⟩

/-- The rows of a snapshot have identities of their own. -/
theorem nodup_identities (t : CatalogTables) (i : U64) (epoch revision : U32) :
    ((t.sceneRows i epoch revision).map KeyedScene.identity).Nodup := by
  have keys : ((t.sceneRows i epoch revision).map Prod.fst).Nodup :=
    t.scenes.nodup.sublist (List.filter_sublist.map Prod.fst)
  have distinct := (List.Nodup.of_map _ keys).map_on (f := KeyedScene.identity) ?_
  · exact distinct
  · intro row mem row' mem' same
    refine List.inj_on_of_nodup_map keys mem mem' ?_
    rw [(mem_sceneRows.mp mem).1, (mem_sceneRows.mp mem').1, same]

/-- The rows of the active snapshot are the scenes of its bundle. -/
theorem ActiveSnapshot.identities_perm (c : ActiveSnapshot t) (consistent : t.Consistent)
    (written : t.Written) :
    (c.rows.map KeyedScene.identity).Perm (c.bundle.scenes.map CatalogScene.identity) := by
  refine (List.perm_ext_iff_of_nodup (nodup_identities ..) c.bundle.distinct).mpr fun identity => ?_
  rw [List.mem_map, List.mem_map]
  constructor
  · rintro ⟨row, mem, rfl⟩
    obtain ⟨scene, inBundle, same, -⟩ := (c.stores consistent _ _).mp (mem_sceneRows.mp mem).2
    exact ⟨scene, inBundle, same⟩
  · rintro ⟨scene, mem, rfl⟩
    obtain ⟨row, made⟩ := exists_sceneRow (written c.key c.row c.stored c.bundle c.manifest scene mem)
      c.bundle.revision
    have here := (c.stores consistent scene.identity row).mpr ⟨scene, mem, rfl, made⟩
    exact ⟨((c.key.1, c.key.2.1, scene.identity), row), mem_sceneRows.mpr ⟨rfl, here⟩, rfl⟩

/-! ## The pages -/

variable {order : KeyOrder KeyedScene.sceneId}

/-- The scenes that were read of rows. -/
def ListedOf (epoch : U32) : List KeyedScene → List ReadScene → Prop :=
  List.Forall₂ fun row scene => listedScene (row.ref epoch) row.2 = .ok scene

theorem listedScene_ref {ref : SceneRef} {row : SceneRow} {scene : ReadScene}
    (done : listedScene ref row = .ok scene) : scene.sceneRef = ref := by
  obtain ⟨metadata, -, done⟩ := bind_eq_ok_iff.mp done
  obtain ⟨shape, -, done⟩ := bind_eq_ok_iff.mp done
  obtain ⟨domain, -, done⟩ := bind_eq_ok_iff.mp done
  cases done
  rfl

theorem ListedOf.identities {rows : List KeyedScene} {scenes : List ReadScene}
    (listed : ListedOf epoch rows scenes) :
    scenes.map ReadScene.identity = rows.map KeyedScene.identity := by
  induction listed with
  | nil => rfl
  | cons read _ ih =>
      rw [List.map_cons, List.map_cons, ih, ReadScene.identity, listedScene_ref read]
      rfl

theorem listedOf_mapM {rows : List KeyedScene} : ∀ {scenes : List ReadScene},
    (rows.mapM fun row => listedScene (row.ref epoch) row.2) = .ok scenes →
      ListedOf epoch rows scenes := by
  induction rows with
  | nil =>
      rintro scenes ⟨⟩
      exact .nil
  | cons row rest ih =>
      intro scenes done
      rw [List.mapM_cons] at done
      obtain ⟨scene, read, done⟩ := bind_eq_ok_iff.mp done
      obtain ⟨others, looped, done⟩ := bind_eq_ok_iff.mp done
      cases done
      exact .cons read (ih looped)

/-- A page of `list_scenes` has the scenes of a page of rows, and its cursor. -/
theorem listScenes_eq_ok {limit : ℕ} {after cursor : Option U32} {scenes : List ReadScene}
    {status : CatalogStatus} (ofEpoch : (t.status i).catalogEpoch = some epoch)
    (ofRevision : (t.status i).catalogRevision = some revision)
    (done : t.listScenes order i limit after = .ok (scenes, cursor, status)) :
    ListedOf epoch (order.page (t.sceneRows i epoch revision) limit after) scenes ∧
      cursor =
        nextCursor KeyedScene.sceneId limit (order.page (t.sceneRows i epoch revision) limit after) := by
  unfold listScenes at done
  split at done
  · cases done
  rw [ofEpoch, ofRevision] at done
  obtain ⟨scenes', read, done⟩ := bind_eq_ok_iff.mp done
  cases done
  rw [Int.toNat_natCast] at read
  have listed := listedOf_mapM read
  refine ⟨listed, ?_⟩
  have identities := listed.identities
  have sameLength : scenes.length = (order.page (t.sceneRows i epoch revision) limit after).length :=
    listed.length_eq.symm
  have sameLast : (scenes.getLast?.map fun scene => scene.sceneRef.sceneId) =
      (order.page (t.sceneRows i epoch revision) limit after).getLast?.map KeyedScene.sceneId := by
    have last := congrArg (fun identities => (identities.map Prod.fst).getLast?) identities
    rw [List.map_map, List.map_map, List.getLast?_map, List.getLast?_map] at last
    exact last
  rw [nextCursor, ← sameLength, ← sameLast]
  simp

/-- Following the cursors reads the pages of the rows. -/
theorem Follows.pages {limit : ℕ} {after : Option U32} {listed : List ReadScene}
    (ofEpoch : (t.status i).catalogEpoch = some epoch)
    (ofRevision : (t.status i).catalogRevision = some revision)
    (follows : Follows order t i limit after listed) :
    ∃ rows, order.Pages (t.sceneRows i epoch revision) limit after rows ∧
      ListedOf epoch rows listed := by
  induction follows with
  | last page =>
      obtain ⟨listed, ends⟩ := listScenes_eq_ok ofEpoch ofRevision page
      exact ⟨_, .last ends.symm, listed⟩
  | next page follows ih =>
      obtain ⟨listed, goesOn⟩ := listScenes_eq_ok ofEpoch ofRevision page
      obtain ⟨rows, pages, others⟩ := ih
      exact ⟨_, .next goesOn.symm pages, List.rel_append listed others⟩

/-- The pages have every scene of the bundle once exactly when none of them ends between two
revisions of one scene. -/
theorem ActiveSnapshot.Lists.perm_iff {c : ActiveSnapshot t} {limit : PageLimit}
    {listed : List ReadScene} (lists : c.Lists order limit listed) (consistent : t.Consistent)
    (written : t.Written) :
    (listed.map ReadScene.identity).Perm (c.bundle.scenes.map CatalogScene.identity) ↔
      EndsBetween limit.val (c.bundle.scenes.map fun scene => scene.sceneRef.sceneId) := by
  obtain ⟨ofEpoch, ofRevision⟩ := c.status consistent
  obtain ⟨rows, pages, read⟩ := Follows.pages ofEpoch ofRevision lists
  have stored := c.identities_perm consistent written
  have all : c.rows.filter (beyond KeyedScene.sceneId none) = c.rows :=
    List.filter_eq_self.mpr fun _ _ => rfl
  have complete := pages.perm_iff limit.2.1
  have within := pages.subperm limit.2.1
  change rows.Perm (c.rows.filter _) ↔ EndsBetween _ ((sortByKey _ (c.rows.filter _)).map _)
    at complete
  change rows.Subperm (c.rows.filter _) at within
  rw [all] at complete within
  -- the keys of the sorted rows are the ids of the sorted scenes
  have keys : (sortByKey KeyedScene.sceneId c.rows).map KeyedScene.sceneId =
      c.bundle.scenes.map fun scene => scene.sceneRef.sceneId := by
    refine List.Perm.eq_of_pairwise (fun a b _ _ => le_antisymm)
      (List.pairwise_map.mpr (pairwise_sortByKey _ _)) c.bundle.ascending ?_
    have ids := stored.map Prod.fst
    rw [List.map_map, List.map_map] at ids
    exact ((sortByKey_perm _ _).map KeyedScene.sceneId).trans ids
  rw [keys] at complete
  rw [read.identities, ← stored.congr_right, ← complete]
  constructor
  · intro same
    refine within.perm_of_length_le ?_
    have lengths := same.length_eq
    rw [List.length_map, List.length_map] at lengths
    exact le_of_eq lengths.symm
  · exact fun same => same.map _

/-- A listed scene that is the one `get_scene` returns has no shape. -/
theorem shape_of_same (c : ActiveSnapshot t) {row : KeyedScene} (mem : row ∈ c.rows)
    {listed got : ReadScene} (read : listedScene (row.ref c.key.2.1) row.2 = .ok listed)
    (get : t.getScene c.key.1 listed.sceneRef = .ok got) (same : listed.Same got) :
    listed.shape = [] := by
  have here : t.scenes.find? (c.key.1, c.key.2.1, row.identity) = some row.2 :=
    (mem_sceneRows.mp mem).2.1
  have missing : ∀ ref, t.sceneMissing c.key.1 ref ≠ .ok got := by
    intro ref
    unfold sceneMissing
    split
    · exact nofun
    · exact nofun
  rw [listedScene_ref read] at get
  unfold getScene at get
  split at get
  · exact absurd get (missing _)
  · rename_i row' found
    obtain rfl := Option.some.inj (here.symm.trans found)
    split at get
    · exact not_same_of_read read get same
    · exact absurd get (missing _)

/-- No scene is listed as it is got and as it is in the bundle. -/
theorem ActiveSnapshot.Browsable.scenes_eq_nil {c : ActiveSnapshot t} {limit : PageLimit}
    (browsable : c.Browsable order limit) (consistent : t.Consistent) : c.bundle.scenes = [] := by
  obtain ⟨listed, lists, identities, same⟩ := browsable
  obtain ⟨ofEpoch, ofRevision⟩ := c.status consistent
  obtain ⟨rows, pages, read⟩ := Follows.pages ofEpoch ofRevision lists
  cases read with
  | nil => exact List.map_eq_nil_iff.mp identities.symm
  | @cons row scene rows scenes first rest =>
      obtain ⟨⟨got, get, sameGot⟩, bundled, inBundle, sameBundled⟩ := same scene List.mem_cons_self
      have mem : row ∈ c.rows :=
        (List.mem_filter.mp ((pages.subperm limit.2.1).subset List.mem_cons_self)).1
      have none := shape_of_same c mem first get sameGot
      have three := c.bundle.shape_length bundled inBundle
      rw [show bundled.shape = scene.shape from sameBundled.2.2.2.1.symm, none] at three
      cases three

/-- A snapshot without scenes has one empty page. -/
theorem ActiveSnapshot.browsable_of_scenes_eq_nil {c : ActiveSnapshot t} {limit : PageLimit}
    (none : c.bundle.scenes = []) (consistent : t.Consistent) (written : t.Written) :
    c.Browsable order limit := by
  obtain ⟨ofEpoch, ofRevision⟩ := c.status consistent
  have noRows : c.rows = [] := by
    have stored := c.identities_perm consistent written
    rw [none] at stored
    exact List.map_eq_nil_iff.mp stored.eq_nil
  have emptyPage : order.page c.rows limit.val Option.none = [] := by
    rw [noRows]
    exact (congrArg (List.take limit.val) (order.perm Option.none _).eq_nil).trans List.take_nil
  refine ⟨[], @CatalogTables.Follows.last order t c.key.1 limit.val Option.none []
    (t.status c.key.1) ?_, by rw [none]; rfl, nofun⟩
  have inRange : ¬ ((limit.val : ℤ) < 1 ∨ 1000 < (limit.val : ℤ)) := by
    obtain ⟨limit, positive, bounded⟩ := limit
    dsimp only
    omega
  unfold listScenes
  rw [if_neg inRange, ofEpoch, ofRevision]
  dsimp only
  change (order.page c.rows _ _).mapM _ >>= _ = _
  rw [Int.toNat_natCast, emptyPage]
  change Except.ok _ = _
  simp

/-- **Reading the catalog.**  After every run, the pages of the active snapshot have what is
claimed exactly when there are no scenes.  They have every scene once exactly when no page
ends between two revisions of one scene. -/
theorem browsable_iff (order : KeyOrder KeyedScene.sceneId) (inputs : List CatalogOp)
    (c : ActiveSnapshot (catalogMachine.exec .empty inputs)) (limit : PageLimit) :
    (c.Browsable order limit ↔ c.bundle.scenes = []) ∧
      ∀ listed, c.Lists order limit listed →
        ((listed.map ReadScene.identity).Perm (c.bundle.scenes.map CatalogScene.identity) ↔
          EndsBetween limit.val (c.bundle.scenes.map fun scene => scene.sceneRef.sceneId)) := by
  have consistent := catalogMachine.exec_invariant Consistent consistent_empty
    (fun _ op kept => catalogMachine_consistent kept op) inputs
  have written := catalogMachine.exec_invariant Written written_empty
    (fun _ op kept => catalogMachine_written kept op) inputs
  exact ⟨⟨fun browsable => browsable.scenes_eq_nil consistent,
      fun none => ActiveSnapshot.browsable_of_scenes_eq_nil none consistent written⟩,
    fun _ lists => lists.perm_iff consistent written⟩

/-! ## A catalog with one scene -/

/-- The first activation of a bundle makes its snapshot the active one. -/
theorem exists_activeSnapshot (i : U64) {b : ParsedBundle}
    (texts : ∀ scene ∈ b.scenes, scene.TextKeys) :
    ∃ c : ActiveSnapshot (catalogMachine.exec .empty [.activate i b none none 0]), c.bundle = b := by
  have room : empty.Room i b.toCatalogBundle := fun scene mem => ⟨texts scene mem, nofun⟩
  have fits : ActivationFits .empty (.activate i b none none 0) := ⟨nofun, fun _ => room⟩
  obtain ⟨status, t', done, -⟩ := (activationWorks_iff consistent_empty _).mpr fits
  have after : catalogMachine.exec .empty [.activate i b none none 0] = t' := by
    rw [Machine.exec_cons, Machine.exec_nil]
    dsimp only [catalogMachine]
    rw [done]
  rw [after]
  rcases activate_eq_ok done with ⟨already, -⟩ | ⟨-, manifest, replaced⟩
  · cases already
  · exact ⟨⟨(i, b.epoch, b.revision), activeRow b manifest none none, b,
      (replaced.snapshots _).trans (if_pos rfl), rfl, replaced.decoded⟩, rfl⟩

theorem firstRevision_scenes : (CatalogBundle.parse firstRevision).toOption.map
    (fun b => (b.scenes.length, b.scenes.all fun scene => decide scene.TextKeys)) =
      some (1, true) := by
  decide +kernel

/-- The scene of a catalog with one scene is not listed as it is got. -/
theorem not_browsable_of_scene : ¬ ∀ (order : KeyOrder KeyedScene.sceneId) inputs
    (c : ActiveSnapshot (catalogMachine.exec .empty inputs)) (limit : PageLimit),
      c.Browsable order limit := by
  intro always
  obtain ⟨bundle, parsed, same⟩ := Option.map_eq_some_iff.mp firstRevision_scenes
  obtain ⟨b, rfl⟩ : ∃ b : ParsedBundle, b.toCatalogBundle = bundle := by
    cases outcome : CatalogBundle.parse firstRevision with
    | error failure =>
        rw [outcome] at parsed
        cases parsed
    | ok bundle' =>
        rw [outcome] at parsed
        cases parsed
        exact ParsedBundle.exists_of_parse outcome
  simp only [Prod.mk.injEq, List.all_eq_true, decide_eq_true_eq] at same
  obtain ⟨c, ofBundle⟩ := exists_activeSnapshot 7 same.2
  have browsable := always (.sorted _) _ c ⟨100, by decide, by decide⟩
  have consistent := catalogMachine.exec_invariant Consistent consistent_empty
    (fun _ op kept => catalogMachine_consistent kept op) [.activate 7 b none none 0]
  rw [← ofBundle, browsable.scenes_eq_nil consistent] at same
  cases same.1

end CatalogTables

end CubeNano

import CubeNano.Lib.Plane
import CubeNano.Protocol.Command

/-!
# Scene windows

`SceneWindow`, `iter_patch_windows` and `build_padded_patch` of `sat_ai/roi.py`: the squares of a
grid anchored in the scene that meet a region of interest, and what is read of the scene for one
of them.  A scene is an array of three 16-bit bands, as `open_memmap_scene` admits it.

Read counters are not modelled.

## Main definitions

* `SceneWindow`, `PatchWindow`
* `iterPatchWindows`, `buildPaddedPatch`
* `PatchWindow.roiRect` — the part of the region of interest in a window

## Main statements

* `iterPatchWindows_tiles` — the windows tile the region of interest
* `buildPaddedPatch_eq` — what is read for a window of the scene
-/

namespace CubeNano

open GridTiling

/-! ## Regions of interest -/

namespace Roi

/-- `x_end`. -/
def xEnd (r : Roi) : ℕ := r.x.val + r.width.val

/-- `y_end`. -/
def yEnd (r : Roi) : ℕ := r.y.val + r.height.val

/-- The pixels of the scene in the region. -/
def rect (r : Roi) : Rect := ⟨r.y.val, r.yEnd, r.x.val, r.xEnd⟩

theorem area_rect (r : Roi) : r.rect.area = r.width.val * r.height.val := by
  simp only [Rect.area, rect, xEnd, yEnd, Nat.add_sub_cancel_left]

theorem area_pos (r : Roi) : 0 < r.width.val * r.height.val :=
  Nat.mul_pos (Nat.pos_of_ne_zero r.extent_pos.1) (Nat.pos_of_ne_zero r.extent_pos.2)

end Roi

/-! ## Windows -/

/-- `PatchWindow`. -/
structure PatchWindow where
  x : ℕ
  y : ℕ
  width : ℕ
  height : ℕ
  sceneWidth : ℕ
  sceneHeight : ℕ
  roiWeight : ℕ
  deriving DecidableEq

/-- The window at an origin of the grid. -/
def patchWindow (height width : ℕ) (roi : Roi) (patchSize y x : ℕ) : PatchWindow :=
  let sceneWidth := min patchSize (width - x)
  let sceneHeight := min patchSize (height - y)
  let intersectionWidth := min (x + sceneWidth) roi.xEnd - max x roi.x.val
  let intersectionHeight := min (y + sceneHeight) roi.yEnd - max y roi.y.val
  ⟨x, y, patchSize, patchSize, sceneWidth, sceneHeight, intersectionWidth * intersectionHeight⟩

/-- `iter_patch_windows`, for a scene of a height and a width. -/
def iterPatchWindows (height width : ℕ) (roi : Roi) (patchSize : ℤ) :
    Raises (List PatchWindow) :=
  if patchSize ≤ 0 then valueError "patch_size must be positive"
  else if width < roi.xEnd ∨ height < roi.yEnd then valueError "ROI exceeds scene bounds"
  else
    .ok ((starts roi.y.val roi.yEnd patchSize.toNat).flatMap fun y =>
      (starts roi.x.val roi.xEnd patchSize.toNat).map fun x =>
        patchWindow height width roi patchSize.toNat y x)

namespace PatchWindow

/-- The part of the region of interest in a window. -/
def roiRect (roi : Roi) (w : PatchWindow) : Rect :=
  ⟨max w.y roi.y.val, min (w.y + w.sceneHeight) roi.yEnd, max w.x roi.x.val,
    min (w.x + w.sceneWidth) roi.xEnd⟩

/-- What holds of a window of a scene: it is square, and begins within the scene. -/
structure InScene (height width : ℕ) (w : PatchWindow) : Prop where
  square : w.height = w.width
  columns : w.x + w.sceneWidth ≤ width ∧ 0 < w.sceneWidth ∧ w.sceneWidth ≤ w.width
  rows : w.y + w.sceneHeight ≤ height ∧ 0 < w.sceneHeight ∧ w.sceneHeight ≤ w.height

end PatchWindow

theorem iterPatchWindows_eq_ok_iff {height width : ℕ} {roi : Roi} {patchSize : ℤ}
    {windows : List PatchWindow} :
    iterPatchWindows height width roi patchSize = .ok windows ↔
      0 < patchSize ∧ (roi.xEnd ≤ width ∧ roi.yEnd ≤ height) ∧
        windows = (starts roi.y.val roi.yEnd patchSize.toNat).flatMap fun y =>
          (starts roi.x.val roi.xEnd patchSize.toNat).map fun x =>
            patchWindow height width roi patchSize.toNat y x := by
  unfold iterPatchWindows
  split
  · exact ⟨nofun, fun given => absurd given.1 (by omega)⟩
  split
  · exact ⟨nofun, fun given => absurd given.2.1 (by omega)⟩
  · constructor
    · intro returned
      cases returned
      exact ⟨by omega, by omega, rfl⟩
    · rintro ⟨-, -, rfl⟩
      rfl

/-- Every window begins in the scene. -/
theorem inScene_of_mem {height width : ℕ} {roi : Roi} {patchSize : ℤ}
    {windows : List PatchWindow} (given : iterPatchWindows height width roi patchSize = .ok windows)
    {w : PatchWindow} (mem : w ∈ windows) :
    w.InScene height width ∧ w.width = patchSize.toNat := by
  obtain ⟨positive, inside, rfl⟩ := iterPatchWindows_eq_ok_iff.mp given
  obtain ⟨y, memY, mem⟩ := List.mem_flatMap.mp mem
  obtain ⟨x, memX, rfl⟩ := List.mem_map.mp mem
  have size : 0 < patchSize.toNat := by omega
  obtain ⟨-, -, yLt⟩ := (mem_starts size).mp memY
  obtain ⟨-, -, xLt⟩ := (mem_starts size).mp memX
  refine ⟨⟨rfl, ?_, ?_⟩, rfl⟩
  · dsimp only [patchWindow]
    omega
  · dsimp only [patchWindow]
    omega

theorem map_roiRect {height width : ℕ} {roi : Roi} {patchSize : ℤ} {windows : List PatchWindow}
    (given : iterPatchWindows height width roi patchSize = .ok windows) :
    windows.map (PatchWindow.roiRect roi) =
      patches roi.rect patchSize.toNat patchSize.toNat := by
  obtain ⟨positive, ⟨columns, rows⟩, rfl⟩ := iterPatchWindows_eq_ok_iff.mp given
  have size : 0 < patchSize.toNat := by omega
  rw [patches, List.map_flatMap]
  refine List.flatMap_congr fun y memY => ?_
  rw [List.map_map]
  refine List.map_congr_left fun x memX => ?_
  obtain ⟨-, -, yLt⟩ := (mem_starts size).mp memY
  obtain ⟨-, -, xLt⟩ := (mem_starts size).mp memX
  have bottom : min (y + min patchSize.toNat (height - y)) roi.yEnd =
      min (y + patchSize.toNat) roi.yEnd := by omega
  have right : min (x + min patchSize.toNat (width - x)) roi.xEnd =
      min (x + patchSize.toNat) roi.xEnd := by omega
  simp only [Function.comp_apply, PatchWindow.roiRect, patchWindow, Roi.rect, bottom, right]

/-- **The windows tile the region of interest**, and the weight of each is the size of its part. -/
theorem iterPatchWindows_tiles {height width : ℕ} {roi : Roi} {patchSize : ℤ}
    {windows : List PatchWindow}
    (given : iterPatchWindows height width roi patchSize = .ok windows) :
    Tiles (windows.map (PatchWindow.roiRect roi)) roi.rect ∧
      ∀ w ∈ windows, w.roiWeight = (w.roiRect roi).area := by
  have positive := (iterPatchWindows_eq_ok_iff.mp given).1
  constructor
  · rw [map_roiRect given]
    exact tiles_patches ⟨by omega, by omega⟩ (roi.area_rect.symm ▸ roi.area_pos)
  · obtain ⟨-, -, rfl⟩ := iterPatchWindows_eq_ok_iff.mp given
    intro w mem
    obtain ⟨y, -, mem⟩ := List.mem_flatMap.mp mem
    obtain ⟨x, -, rfl⟩ := List.mem_map.mp mem
    rfl

/-! ## Scenes -/

/-- The three bands of a pixel. -/
abbrev Pixel := Fin 3 → UInt16

/-- `validity_kind`, with what it needs. -/
inductive Validity
  | allValid
  | mask (mask : Plane UInt8)
  | nodataValue (values : Fin 3 → UInt16) (anyBand : Bool)

/-- A mask has the shape of the source. -/
def Validity.Fits (source : Plane Pixel) : Validity → Prop
  | mask m => m.height = source.height ∧ m.width = source.width
  | _ => True

/-- `SceneWindow`. -/
structure SceneWindow where
  source : Plane Pixel
  validity : Validity
  fits : validity.Fits source

namespace SceneWindow

/-- `_validate_window`. -/
def validateWindow (scene : SceneWindow) (x y width height : ℕ) : Raises Unit :=
  if width = 0 ∨ height = 0 then
    valueError "scene window coordinates must be positive and in bounds"
  else if scene.source.width < x + width ∨ scene.source.height < y + height then
    valueError ("scene window [" ++ toString x ++ ", " ++ toString y ++ ", " ++ toString width ++
      ", " ++ toString height ++ "] exceeds (" ++ toString scene.source.height ++ ", " ++
      toString scene.source.width ++ ", 3)")
  else .ok ()

/-- `[y : y + height, x : x + width]`. -/
def slice (x y width height : ℕ) : Plane.Slice := ⟨y, y + height, x, x + width⟩

/-- `read_window`. -/
def readWindow (scene : SceneWindow) (x y width height : ℕ) : Raises (Plane Pixel) := do
  scene.validateWindow x y width height
  .ok (scene.source.view (slice x y width height))

/-- Whether a pixel has the values that stand for no data. -/
def isNodata (values : Fin 3 → UInt16) (anyBand : Bool) (pixel : Pixel) : Bool :=
  if anyBand then decide (∃ band, pixel band = values band)
  else decide (∀ band, pixel band = values band)

/-- `read_validity_window`, with the source window that was read. -/
def readValidityWindow (scene : SceneWindow) (x y width height : ℕ) (sourceWindow : Plane Pixel) :
    Raises (Plane Bool) := do
  scene.validateWindow x y width height
  match scene.validity with
  | .allValid => .ok (Plane.constant height width true)
  | .mask m =>
      let window := m.view (slice x y width height)
      .ok ⟨window.height, window.width, fun row column => window.cell row column = 1⟩
  | .nodataValue values anyBand =>
      .ok ⟨sourceWindow.height, sourceWindow.width,
        fun row column => !isNodata values anyBand (sourceWindow.cell row column)⟩

/-- Whether a pixel of the scene is valid. -/
def validAt (scene : SceneWindow) (row column : ℕ) : Bool :=
  match scene.validity with
  | .allValid => true
  | .mask m => m.cell row column = 1
  | .nodataValue values anyBand => !isNodata values anyBand (scene.source.cell row column)

end SceneWindow

/-- `target[slice] = other`, which raises when the shapes do not agree. -/
def assignSlice {α : Type} (target : Plane α) (s : Plane.Slice) (other : Plane α) :
    Raises (Plane α) :=
  match target.assign s other with
  | some assigned => .ok assigned
  | none => valueError "could not broadcast input array"

/-- `build_padded_patch`. -/
def buildPaddedPatch (scene : SceneWindow) (window : PatchWindow) :
    Raises (Plane Pixel × Plane Bool) := do
  let raw ← scene.readWindow window.x window.y window.sceneWidth window.sceneHeight
  let validity ← scene.readValidityWindow window.x window.y window.sceneWidth window.sceneHeight raw
  let patch ← assignSlice (Plane.constant window.height window.width fun _ => 0)
    ⟨0, window.sceneHeight, 0, window.sceneWidth⟩ raw
  let validPatch ← assignSlice (Plane.constant window.height window.width false)
    ⟨0, window.sceneHeight, 0, window.sceneWidth⟩ validity
  .ok (patch, validPatch)

/-! ## What is read for a window -/

/-- The part of a patch that is in the scene. -/
def PatchWindow.sceneRect (w : PatchWindow) : Rect := ⟨0, w.sceneHeight, 0, w.sceneWidth⟩

/-- The patch of a window: the scene, and zeros beyond its edge. -/
def SceneWindow.paddedPatch (scene : SceneWindow) (w : PatchWindow) : Plane Pixel :=
  (Plane.constant w.height w.width fun _ => 0).overlay w.sceneRect
    fun row column => scene.source.cell (w.y + row) (w.x + column)

/-- The validity of a window: that of the scene, and invalid beyond its edge. -/
def SceneWindow.paddedValidity (scene : SceneWindow) (w : PatchWindow) : Plane Bool :=
  (Plane.constant w.height w.width false).overlay w.sceneRect
    fun row column => scene.validAt (w.y + row) (w.x + column)

section Reading

variable {scene : SceneWindow} {w : PatchWindow}

theorem validateWindow_eq_ok (inScene : w.InScene scene.source.height scene.source.width) :
    scene.validateWindow w.x w.y w.sceneWidth w.sceneHeight = .ok () := by
  obtain ⟨-, columns, rows⟩ := inScene
  rw [SceneWindow.validateWindow, if_neg (by omega), if_neg (by omega)]

/-- A window of an array of the shape of the scene. -/
theorem view_slice {α : Type} {p : Plane α} (inScene : w.InScene p.height p.width) :
    p.view (SceneWindow.slice w.x w.y w.sceneWidth w.sceneHeight) =
      ⟨w.sceneHeight, w.sceneWidth, fun row column => p.cell (w.y + row) (w.x + column)⟩ := by
  obtain ⟨-, columns, rows⟩ := inScene
  let r : Rect := ⟨w.y, w.y + w.sceneHeight, w.x, w.x + w.sceneWidth⟩
  have selects : (SceneWindow.slice w.x w.y w.sceneWidth w.sceneHeight).rect p.height p.width = r :=
    Plane.Slice.rect_natCast (r := r) ⟨(Nat.le_add_right _ _).trans rows.1, rows.1⟩
      ⟨(Nat.le_add_right _ _).trans columns.1, columns.1⟩
  rw [Plane.view, selects]
  dsimp only [r]
  rw [Nat.add_sub_cancel_left, Nat.add_sub_cancel_left]

theorem readWindow_eq (inScene : w.InScene scene.source.height scene.source.width) :
    scene.readWindow w.x w.y w.sceneWidth w.sceneHeight =
      .ok ⟨w.sceneHeight, w.sceneWidth,
        fun row column => scene.source.cell (w.y + row) (w.x + column)⟩ := by
  rw [SceneWindow.readWindow, validateWindow_eq_ok inScene, view_slice inScene]
  rfl

theorem readValidityWindow_eq (inScene : w.InScene scene.source.height scene.source.width) :
    scene.readValidityWindow w.x w.y w.sceneWidth w.sceneHeight
        ⟨w.sceneHeight, w.sceneWidth,
          fun row column => scene.source.cell (w.y + row) (w.x + column)⟩ =
      .ok ⟨w.sceneHeight, w.sceneWidth,
        fun row column => scene.validAt (w.y + row) (w.x + column)⟩ := by
  rw [SceneWindow.readValidityWindow, validateWindow_eq_ok inScene]
  obtain ⟨source, validity, fits⟩ := scene
  cases validity with
  | allValid => rfl
  | mask m =>
      have inMask : w.InScene m.height m.width := by
        rw [fits.1, fits.2]
        exact inScene
      change Except.ok _ = _
      rw [view_slice inMask]
      rfl
  | nodataValue values anyBand => rfl

/-- An assignment to the corner of a patch. -/
theorem assignSlice_corner {α : Type} {height width : ℕ} (inScene : w.InScene height width)
    (fillValue : α) (value : ℕ → ℕ → α) :
    assignSlice (Plane.constant w.height w.width fillValue) ⟨0, w.sceneHeight, 0, w.sceneWidth⟩
        ⟨w.sceneHeight, w.sceneWidth, value⟩ =
      .ok ((Plane.constant w.height w.width fillValue).overlay w.sceneRect value) := by
  obtain ⟨-, columns, rows⟩ := inScene
  have selects : (⟨0, w.sceneHeight, 0, w.sceneWidth⟩ : Plane.Slice).rect w.height w.width =
      w.sceneRect :=
    Plane.Slice.rect_natCast (r := w.sceneRect) ⟨Nat.zero_le _, rows.2.2⟩
      ⟨Nat.zero_le _, columns.2.2⟩
  rw [assignSlice, Plane.assign_eq_some (r := w.sceneRect) selects rfl rfl]
  rfl

/-- **What is read for a window** of the scene. -/
theorem buildPaddedPatch_eq (inScene : w.InScene scene.source.height scene.source.width) :
    buildPaddedPatch scene w = .ok (scene.paddedPatch w, scene.paddedValidity w) := by
  rw [buildPaddedPatch, readWindow_eq inScene, ok_bind, readValidityWindow_eq inScene, ok_bind,
    assignSlice_corner inScene, ok_bind, assignSlice_corner inScene]
  rfl

end Reading

end CubeNano

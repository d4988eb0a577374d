import CubeNano.Results.DecisionSafety
import CubeNano.Results.InferenceAdapter
import Mathlib.Algebra.BigOperators.Ring.Finset
import Mathlib.Algebra.Order.BigOperators.Group.List

/-!
# The coverage of an inference run

What a result of `InferenceAdapter.run` says of the pixels of its artifact: the patches tile the
grid whatever the size of the batches, and the areas count the valid pixels except in a window that
the edge of the grid cuts and that is given to the model.

## Main definitions

* `InferenceAdapter.Answered`, `InferenceAdapter.sumsOf` — what the loops of `run` compute
* `InferenceRight` — what is to hold of a result

## Main statements

* `InferenceAdapter.runPatches_eq_ok_iff` — the results of `run`, without its batches
* `inference_counts_iff` — when the areas of a result count pixels
-/

namespace CubeNano

open GridTiling

namespace InferenceAdapter

variable (adapter : InferenceAdapter) (artifact : InferenceArtifact)

/-! ## The engine -/

/-- What the engine answers for a tensor, where it does. -/
def rawAnswer (tensor : Tensor PyFloat) : Bool × PyFloat :=
  match adapter.answer tensor with
  | .ok answer => answer
  | .error _ => (false, .nan)

/-- The prediction and the probability for a tensor. -/
def verdict (tensor : Tensor PyFloat) : Bool × ℚ :=
  ((adapter.rawAnswer tensor).1, (probability? (adapter.rawAnswer tensor).2).getD 0)

/-- The engine answers for a tensor with a probability. -/
def Judged (tensor : Tensor PyFloat) : Prop :=
  adapter.answer tensor = .ok (adapter.rawAnswer tensor) ∧
    (probability? (adapter.rawAnswer tensor).2).isSome = true

variable {adapter artifact}

theorem rawAnswer_eq {tensor : Tensor PyFloat} {answer : Bool × PyFloat}
    (given : adapter.answer tensor = .ok answer) : adapter.rawAnswer tensor = answer := by
  rw [rawAnswer, given]

theorem isFinite_of_probability {p : PyFloat} (given : (probability? p).isSome = true) :
    p.isFinite = true := by
  cases p with
  | finite value => rfl
  | infinite negative => exact nomatch given
  | nan => exact nomatch given

/-- The answers for some tensors. -/
theorem engineAnswers_eq_ok_iff {tensors : List (Tensor PyFloat)}
    {answers : List (Bool × PyFloat)} :
    adapter.engineAnswers tensors = .ok answers ↔
      (∀ tensor ∈ tensors, adapter.answer tensor = .ok (adapter.rawAnswer tensor)) ∧
        answers = tensors.map adapter.rawAnswer := by
  have mapped : adapter.engineAnswers tensors = .ok answers ↔
      tensors.mapM adapter.answer = .ok answers := by
    rw [engineAnswers]
    cases tensors.mapM adapter.answer with
    | ok answers' => exact Iff.rfl
    | error e =>
        dsimp only
        split
        · exact ⟨nofun, nofun⟩
        · exact Iff.rfl
  rw [mapped]
  constructor
  · intro answered
    refine ⟨fun tensor mem => ?_, ?_⟩
    · obtain ⟨answer, given⟩ := ExceptFold.exists_of_mapM_eq_ok answered mem
      rw [rawAnswer_eq given, given]
    · have same := (ExceptFold.mapM_eq_ok_iff.mp answered).imp fun _ _ given => rawAnswer_eq given
      rw [← List.forall₂_map_left_iff, List.forall₂_eq_eq_eq] at same
      exact same.symm
  · rintro ⟨each, rfl⟩
    exact ExceptFold.mapM_eq_ok_of_forall each

/-- **A batch** is answered exactly if every tensor is, and there is one on the first axis for each
patch. -/
theorem inferBatch_eq_ok_iff {tensors : List (Tensor PyFloat)} {out : List (Bool × ℚ)} :
    adapter.inferBatch tensors = .ok out ↔
      (∀ tensor ∈ tensors, adapter.Judged tensor) ∧
        tensors.length = (tensors.map fun tensor => tensor.shape.headD 0).sum ∧
        out = tensors.map adapter.verdict := by
  rw [inferBatch]
  constructor
  · intro returned
    obtain ⟨answers, answered, returned⟩ := bind_eq_ok_iff.mp returned
    obtain ⟨each, rfl⟩ := engineAnswers_eq_ok_iff.mp answered
    dsimp only at returned
    split at returned
    · exact nomatch returned
    split at returned
    · exact nomatch returned
    split at returned
    · exact nomatch returned
    rename_i counted _ within
    rw [Bool.not_eq_true, Bool.not_eq_false', List.all_eq_true] at within
    rw [List.length_map] at counted
    cases returned
    refine ⟨fun tensor mem => ⟨each tensor mem, within _ (List.mem_map_of_mem mem)⟩,
      not_not.mp counted, ?_⟩
    rw [List.map_map]
    rfl
  · rintro ⟨judged, counted, rfl⟩
    have answered := engineAnswers_eq_ok_iff.mpr ⟨fun tensor mem => (judged tensor mem).1, rfl⟩
    have within : ((tensors.map adapter.rawAnswer).all fun entry =>
        (probability? entry.2).isSome) = true := by
      refine List.all_eq_true.mpr fun answer mem => ?_
      obtain ⟨tensor, memTensor, rfl⟩ := List.mem_map.mp mem
      exact (judged tensor memTensor).2
    have finite : ((tensors.map adapter.rawAnswer).all fun entry => entry.2.isFinite) = true :=
      List.all_eq_true.mpr fun answer mem =>
        isFinite_of_probability (List.all_eq_true.mp within answer mem)
    rw [answered, ok_bind]
    dsimp only
    rw [List.length_map, if_neg (not_not.mpr counted), finite, if_neg (by simp), within,
      if_neg (by simp), List.map_map]
    rfl

/-! ## Batches -/

/-- The tensor of a patch that is given to the engine. -/
def tensorGiven (patch : AdaptedPatch) : Tensor PyFloat := patch.tensor.getD ⟨[], fun _ => .nan⟩

/-- The entry of `predictions` of a patch. -/
def entryOf (adapter : InferenceAdapter) (patch : AdaptedPatch) : (ℕ × ℕ) × Bool × ℚ :=
  ((patch.patchRow, patch.patchCol), adapter.verdict (tensorGiven patch))

/-- A patch that is ready is answered. -/
def Answered (adapter : InferenceAdapter) (patch : AdaptedPatch) : Prop :=
  adapter.Judged (tensorGiven patch) ∧ (tensorGiven patch).shape.headD 0 = 1

theorem filterMap_tensor {batch : List AdaptedPatch}
    (ready : ∀ patch ∈ batch, patch.isValid = true) :
    batch.filterMap AdaptedPatch.tensor = batch.map tensorGiven := by
  rw [← List.filterMap_eq_map]
  refine List.filterMap_congr fun patch mem => ?_
  obtain ⟨-, given⟩ := Bool.and_eq_true_iff.mp (ready patch mem)
  obtain ⟨tensor, same⟩ := Option.isSome_iff_exists.mp given
  rw [Function.comp_apply, tensorGiven, same, Option.getD_some]

/-- **One batch** of patches whose tensors have one length on the first axis. -/
theorem predictBatch_eq_ok_iff {batch : List AdaptedPatch} {lead : ℕ}
    (ready : ∀ patch ∈ batch, patch.isValid = true)
    (leads : ∀ patch ∈ batch, (tensorGiven patch).shape.headD 0 = lead) (nonempty : batch ≠ [])
    {out : List ((ℕ × ℕ) × Bool × ℚ)} :
    adapter.predictBatch batch = .ok out ↔
      (∀ patch ∈ batch, Answered adapter patch) ∧ out = batch.map (entryOf adapter) := by
  have sums : ((batch.map tensorGiven).map fun tensor => tensor.shape.headD 0).sum =
      batch.length * lead := by
    have same : batch.map ((fun tensor : Tensor PyFloat => tensor.shape.headD 0) ∘ tensorGiven) =
        batch.map fun _ => lead := List.map_congr_left leads
    rw [List.map_map, same, List.map_const', List.sum_replicate_nat]
  have positive : 0 < batch.length := List.length_pos_of_ne_nil nonempty
  have one : batch.length = batch.length * lead ↔ lead = 1 := by
    rw [eq_comm, Nat.mul_eq_left (Nat.ne_of_gt positive)]
  have zipped : (batch.zip ((batch.map tensorGiven).map adapter.verdict)).map (fun entry =>
      ((entry.1.patchRow, entry.1.patchCol), entry.2)) = batch.map (entryOf adapter) := by
    have pairs : (batch.map id).zip (batch.map (adapter.verdict ∘ tensorGiven)) = _ := List.zip_map'
    rw [List.map_id] at pairs
    rw [List.map_map, pairs, List.map_map]
    rfl
  rw [predictBatch, filterMap_tensor ready]
  constructor
  · intro returned
    obtain ⟨answers, answered, returned⟩ := bind_eq_ok_iff.mp returned
    obtain ⟨judged, counted, rfl⟩ := inferBatch_eq_ok_iff.mp answered
    rw [sums, List.length_map, one] at counted
    cases returned
    exact ⟨fun patch mem => ⟨judged _ (List.mem_map_of_mem mem), counted ▸ leads patch mem⟩, zipped⟩
  · rintro ⟨answered, rfl⟩
    have counted : lead = 1 := by
      obtain ⟨patch, mem⟩ := List.exists_mem_of_ne_nil batch nonempty
      rw [← leads patch mem, (answered patch mem).2]
    have judged : ∀ tensor ∈ batch.map tensorGiven, adapter.Judged tensor := by
      intro tensor mem
      obtain ⟨patch, memPatch, rfl⟩ := List.mem_map.mp mem
      exact (answered patch memPatch).1
    have inferred := inferBatch_eq_ok_iff.mpr ⟨judged, by rw [sums, List.length_map, one, counted],
      rfl⟩
    rw [inferred, ok_bind, zipped]

/-- **All batches**, whatever their size. -/
theorem predictAll_eq_ok_iff {ready : List AdaptedPatch} {lead : ℕ}
    (valid : ∀ patch ∈ ready, patch.isValid = true)
    (leads : ∀ patch ∈ ready, (tensorGiven patch).shape.headD 0 = lead)
    {out : List ((ℕ × ℕ) × Bool × ℚ)} :
    adapter.predictAll ready = .ok out ↔
      (∀ patch ∈ ready, Answered adapter patch) ∧ out = ready.map (entryOf adapter) := by
  have parts := Chunks.flatten_slices ready adapter.profile.batchSize
  have partwise : ∀ batch ∈ Chunks.slices ready adapter.profile.batchSize, ∀ out,
      adapter.predictBatch batch = .ok out ↔
        (∀ patch ∈ batch, Answered adapter patch) ∧ out = batch.map (entryOf adapter) := by
    intro batch mem out
    have among : ∀ patch ∈ batch, patch ∈ ready := fun patch here =>
      parts ▸ List.mem_flatten_of_mem mem here
    exact predictBatch_eq_ok_iff (fun patch here => valid patch (among patch here))
      (fun patch here => leads patch (among patch here)) (Chunks.ne_nil_of_mem_slices mem)
  have whole := @Chunks.mapM_flatten_eq_ok_iff _ _ _ _ _ _ id _ _ partwise out
  rw [List.map_id, parts] at whole
  exact whole

/-! ## Patches -/

/-- The length of the first axis of the tensor of a patch. -/
def leadOf (profile : ModelProfile) : ℕ :=
  (profile.tensorLayout.map (axisLength [(profile.patchSize.1 : ℕ), (profile.patchSize.2 : ℕ),
    profile.requiredBandOrder.length])).headD 0

/-- Whether a window is given to the model. -/
structure Usable (adapter : InferenceAdapter) (artifact : InferenceArtifact) (window : Rect) :
    Prop where
  padded : ¬ (adapter.IncompleteEdge window ∧ adapter.profile.paddingPolicy = .reject)
  some_valid : 0 < adapter.validFraction artifact window
  enough : adapter.minValidFraction ≤ adapter.validFraction artifact window

/-- What a patch says of its window. -/
structure PatchOf (adapter : InferenceAdapter) (artifact : InferenceArtifact)
    (place : ℕ × ℕ × Rect) (patch : AdaptedPatch) : Prop where
  key : (patch.patchRow, patch.patchCol) = (place.1, place.2.1)
  window : patch.modelWindow = place.2.2
  fraction : patch.validFraction = adapter.validFraction artifact place.2.2
  valid_iff : patch.isValid = true ↔ Usable adapter artifact place.2.2
  lead : patch.isValid = true → (tensorGiven patch).shape.headD 0 = leadOf adapter.profile

/-- The tensors have one length on the first axis. -/
theorem lead_tensorOf {image tensor : Tensor PyFloat}
    (given : adapter.tensorOf artifact image = .ok tensor) :
    tensor.shape.headD 0 = leadOf adapter.profile := by
  rw [tensorOf] at given
  split at given
  · exact nomatch given
  obtain ⟨normalized, normal, given⟩ := bind_eq_ok_iff.mp given
  dsimp only at given
  split at given
  · exact nomatch given
  rename_i sized
  split at given
  · exact nomatch given
  split at given
  · exact nomatch given
  cases given
  have shape := adapter.profile.shape_normalize _ _ normal
  rw [shape] at sized
  have sides : [image.shape.getD 0 0, image.shape.getD 1 0] =
      [(adapter.profile.patchSize.1 : ℕ), (adapter.profile.patchSize.2 : ℕ)] := not_not.mp sized
  rw [List.cons.injEq, List.cons.injEq] at sides
  have whole : normalized.shape = [(adapter.profile.patchSize.1 : ℕ),
      (adapter.profile.patchSize.2 : ℕ), adapter.profile.requiredBandOrder.length] := by
    rw [shape, selectBands, sides.1, sides.2.1]
  rw [leadOf, ← whole]
  rfl

/-- **What a patch says of its window.** -/
theorem patchOf_adaptWindow {place : ℕ × ℕ × Rect} {patch : AdaptedPatch}
    (given : adapter.adaptWindow artifact place.1 place.2.1 place.2.2 = .ok patch) :
    PatchOf adapter artifact place patch := by
  rw [adaptWindow] at given
  dsimp only at given
  split at given
  · rename_i rejected
    cases given
    exact ⟨rfl, rfl, rfl, ⟨nofun, fun usable => absurd rejected usable.padded⟩, nofun⟩
  rename_i padded
  split at given
  · rename_i few
    cases given
    refine ⟨rfl, rfl, rfl, ⟨nofun, fun usable => ?_⟩, nofun⟩
    rcases few with none | below
    · exact absurd usable.some_valid (not_lt.mpr none)
    · exact absurd usable.enough (not_le.mpr below)
  rename_i enough
  obtain ⟨tensor, made, given⟩ := bind_eq_ok_iff.mp given
  cases given
  rw [not_or, not_le, not_lt] at enough
  exact ⟨rfl, rfl, rfl, ⟨fun _ => ⟨padded, enough.1, enough.2⟩, fun _ => rfl⟩,
    fun _ => lead_tensorOf made⟩

/-- The patches of an artifact, one for each window. -/
theorem of_iterPatches {prepared : List AdaptedPatch}
    (given : adapter.iterPatches artifact = .ok prepared) :
    List.Forall₂ (PatchOf adapter artifact) (adapter.gridWindows artifact) prepared := by
  rw [iterPatches] at given
  obtain ⟨-, -, given⟩ := bind_eq_ok_iff.mp given
  exact (ExceptFold.mapM_eq_ok_iff.mp given).imp fun _ _ made => patchOf_adaptWindow made

/-! ## The windows of the grid -/

/-- The positions of evenly spaced numbers. -/
theorem zipIdx_range' (count step : ℕ) :
    (List.range' 0 count step).zipIdx = (List.range count).map fun i => (i * step, i) := by
  refine List.ext_getElem (by simp) fun i first second => ?_
  simp [Nat.mul_comm]

theorem range'_zero (count step : ℕ) :
    List.range' 0 count step = (List.range count).map fun i => i * step := by
  refine List.ext_getElem (by simp) fun i first second => ?_
  simp [Nat.mul_comm]

/-- The number of parts of an axis. -/
def partCount (length size : ℕ) : ℕ := (length + (size - 1)) / size

theorem starts_zero (length size : ℕ) :
    starts 0 length size = List.range' 0 (partCount length size) size := by
  rw [starts, partCount, Nat.zero_div, Nat.zero_mul, Nat.sub_zero]

/-- The cells of a grid, row by row. -/
def rowMajor (rows cols : ℕ) : List (ℕ × ℕ) :=
  (List.range rows).flatMap fun row => (List.range cols).map fun col => (row, col)

theorem nodup_rowMajor (rows cols : ℕ) : (rowMajor rows cols).Nodup := by
  refine List.nodup_flatMap.mpr ⟨fun row _ => ?_, ?_⟩
  · exact List.nodup_range.map fun _ _ same => (Prod.ext_iff.mp same).2
  · refine List.nodup_range.imp fun {row row'} different => ?_
    refine List.disjoint_left.mpr fun cell here there => different ?_
    obtain ⟨_, -, rfl⟩ := List.mem_map.mp here
    obtain ⟨_, -, same⟩ := List.mem_map.mp there
    exact (Prod.ext_iff.mp same).1.symm

/-- The windows come row by row. -/
theorem places_gridWindows :
    (adapter.gridWindows artifact).map (fun place => (place.1, place.2.1)) =
      rowMajor (partCount artifact.rows adapter.profile.patchSize.1)
        (partCount artifact.cols adapter.profile.patchSize.2) := by
  rw [gridWindows]
  dsimp only
  rw [starts_zero, starts_zero, zipIdx_range', zipIdx_range', List.map_flatMap, List.flatMap_map,
    rowMajor]
  refine List.flatMap_congr fun row _ => ?_
  rw [List.map_map, List.map_map]
  rfl

/-- The windows are those of the tiling of the grid. -/
theorem rects_gridWindows :
    (adapter.gridWindows artifact).map (fun place => place.2.2) =
      patches ⟨0, artifact.rows, 0, artifact.cols⟩ adapter.profile.patchSize.1
        adapter.profile.patchSize.2 := by
  rw [gridWindows, patches]
  dsimp only
  rw [starts_zero, starts_zero, zipIdx_range', zipIdx_range', List.map_flatMap, List.flatMap_map,
    range'_zero, range'_zero, List.flatMap_map]
  refine List.flatMap_congr fun row _ => ?_
  rw [List.map_map, List.map_map, List.map_map]
  refine List.map_congr_left fun col _ => ?_
  simp only [Function.comp_apply, Nat.max_zero]

/-- **The windows tile the grid.** -/
theorem tiles_gridWindows :
    Tiles ((adapter.gridWindows artifact).map fun place => place.2.2)
      ⟨0, artifact.rows, 0, artifact.cols⟩ := by
  rw [rects_gridWindows]
  refine tiles_patches ⟨adapter.profile.patchSize.1.pos, adapter.profile.patchSize.2.pos⟩ ?_
  exact Rect.area_pos_iff.mpr ⟨artifact.cols.pos, artifact.rows.pos⟩

/-! ## Sums -/

/-- Looking up the entry of an item, where items with one key have one entry. -/
theorem lookup_map {α β κ : Type} [BEq κ] [LawfulBEq κ] {key : α → κ} {value : α → β}
    {items : List α} {item : α} (mem : item ∈ items)
    (unique : ∀ other ∈ items, key other = key item → other = item) :
    (items.map fun other => (key other, value other)).lookup (key item) = some (value item) := by
  induction items with
  | nil => exact nomatch mem
  | cons first rest ih =>
      rw [List.map_cons, List.lookup_cons]
      by_cases same : key item = key first
      · rw [unique first List.mem_cons_self same.symm, beq_self_eq_true]
      · rw [beq_eq_false_iff_ne.mpr same]
        refine ih ?_ fun other memOther => unique other (List.mem_cons_of_mem _ memOther)
        exact (List.mem_cons.mp mem).resolve_left fun eq => same (congrArg key eq)

/-- What a patch adds to the sums. -/
def patchWeight (patch : AdaptedPatch) : ℚ := (patch.modelWindow.area : ℚ) * patch.validFraction

/-- The record of a patch that was answered. -/
def recordFor (adapter : InferenceAdapter) (patch : AdaptedPatch) : InferenceRecord :=
  adapter.recordOf patch
    (if patch.isValid then some (adapter.verdict (tensorGiven patch)) else none)

/-- The sums with a patch. -/
def addPatch (adapter : InferenceAdapter) (sums : RunSums) (patch : AdaptedPatch) : RunSums where
  validArea := sums.validArea + if patch.isValid then patchWeight patch else 0
  cloudArea := sums.cloudArea +
    if patch.isValid && (adapter.verdict (tensorGiven patch)).1 then patchWeight patch else 0
  records := sums.records ++ [recordFor adapter patch]

/-- The area of a patch is within the range of a double. -/
def HasArea (patch : AdaptedPatch) : Prop := finiteDouble patch.modelWindow.area 0 = true

/-- One patch of the loop. -/
theorem sumPatch_eq_ok_iff {predictions : List ((ℕ × ℕ) × Bool × ℚ)} {sums out : RunSums}
    {patch : AdaptedPatch}
    (predicted : patch.isValid = true →
      prediction predictions (patch.patchRow, patch.patchCol) =
        .ok (adapter.verdict (tensorGiven patch))) :
    adapter.sumPatch predictions sums patch = .ok out ↔
      HasArea patch ∧ out = addPatch adapter sums patch := by
  rw [sumPatch, floatOfInt, Int.natAbs_natCast]
  by_cases finite : finiteDouble patch.modelWindow.area 0
  · rw [if_pos finite, ok_bind]
    dsimp only
    cases valid : patch.isValid with
    | true =>
        rw [if_pos rfl, predicted valid, ok_bind]
        have added : addPatch adapter sums patch =
            { validArea := sums.validArea + patchWeight patch
              cloudArea := sums.cloudArea +
                if (adapter.verdict (tensorGiven patch)).1 then patchWeight patch else 0
              records := sums.records ++
                [adapter.recordOf patch (some (adapter.verdict (tensorGiven patch)))] } := by
          simp only [addPatch, recordFor, valid, if_true, Bool.true_and]
        rw [added]
        exact ⟨fun same => ⟨finite, (Except.ok.inj same).symm⟩, fun both => congrArg _ both.2.symm⟩
    | false =>
        rw [if_neg (by simp)]
        have added : addPatch adapter sums patch =
            { sums with records := sums.records ++ [adapter.recordOf patch none] } := by
          simp [addPatch, recordFor, valid]
        rw [added]
        exact ⟨fun same => ⟨finite, (Except.ok.inj same).symm⟩, fun both => congrArg _ both.2.symm⟩
  · rw [if_neg finite]
    exact ⟨fun raised => (by cases raised), fun both => absurd both.1 finite⟩

/-- **The loop over the patches.** -/
theorem foldlM_sumPatch {predictions : List ((ℕ × ℕ) × Bool × ℚ)} {patches : List AdaptedPatch}
    (predicted : ∀ patch ∈ patches, patch.isValid = true →
      prediction predictions (patch.patchRow, patch.patchCol) =
        .ok (adapter.verdict (tensorGiven patch))) {sums out : RunSums} :
    patches.foldlM (adapter.sumPatch predictions) sums = .ok out ↔
      (∀ patch ∈ patches, HasArea patch) ∧ out = patches.foldl (addPatch adapter) sums := by
  induction patches generalizing sums with
  | nil =>
      refine ⟨fun same => ⟨nofun, (Except.ok.inj same).symm⟩, fun both => ?_⟩
      exact congrArg Except.ok both.2.symm
  | cons patch rest ih =>
      obtain ⟨first, later⟩ := List.forall_mem_cons.mp predicted
      rw [List.foldlM_cons, List.foldl_cons, List.forall_mem_cons]
      constructor
      · intro returned
        obtain ⟨next, step, returned⟩ := bind_eq_ok_iff.mp returned
        obtain ⟨area, rfl⟩ := (sumPatch_eq_ok_iff first).mp step
        obtain ⟨areas, same⟩ := (ih later).mp returned
        exact ⟨⟨area, areas⟩, same⟩
      · rintro ⟨⟨area, areas⟩, same⟩
        have step : adapter.sumPatch predictions sums patch = .ok (addPatch adapter sums patch) :=
          (sumPatch_eq_ok_iff first).mpr ⟨area, rfl⟩
        rw [step, ok_bind]
        exact (ih later).mpr ⟨areas, same⟩

/-- The sums of the loop. -/
theorem foldl_addPatch (patches : List AdaptedPatch) (sums : RunSums) :
    patches.foldl (addPatch adapter) sums =
      ⟨sums.validArea + ((patches.filter AdaptedPatch.isValid).map patchWeight).sum,
        sums.cloudArea + ((patches.filter fun patch =>
          patch.isValid && (adapter.verdict (tensorGiven patch)).1).map patchWeight).sum,
        sums.records ++ patches.map (recordFor adapter)⟩ := by
  induction patches generalizing sums with
  | nil => simp
  | cons patch rest ih =>
      rw [List.foldl_cons, ih]
      simp only [addPatch, List.filter_cons, List.map_cons, RunSums.mk.injEq, List.append_assoc,
        List.singleton_append, and_true]
      constructor
      · split
        · rw [List.map_cons, List.sum_cons, add_assoc]
        · rw [add_zero]
      · split
        · rw [List.map_cons, List.sum_cons, add_assoc]
        · rw [add_zero]

theorem map_eq_map_of_forall₂ {α β γ : Type} {f : α → γ} {g : β → γ} {items : List α}
    {others : List β} (same : List.Forall₂ (fun a b => f a = g b) items others) :
    items.map f = others.map g := by
  induction same with
  | nil => rfl
  | cons first _ ih => rw [List.map_cons, List.map_cons, first, ih]

/-- The keys of the patches are those of the grid. -/
theorem keys_of_iterPatches {prepared : List AdaptedPatch}
    (given : adapter.iterPatches artifact = .ok prepared) :
    prepared.map (fun patch => (patch.patchRow, patch.patchCol)) =
      rowMajor (partCount artifact.rows adapter.profile.patchSize.1)
        (partCount artifact.cols adapter.profile.patchSize.2) := by
  rw [← places_gridWindows]
  exact (map_eq_map_of_forall₂ ((of_iterPatches given).imp fun _ _ of => of.key.symm)).symm

/-- The windows of the patches tile the grid. -/
theorem windows_of_iterPatches {prepared : List AdaptedPatch}
    (given : adapter.iterPatches artifact = .ok prepared) :
    prepared.map AdaptedPatch.modelWindow =
      (adapter.gridWindows artifact).map fun place => place.2.2 :=
  (map_eq_map_of_forall₂ ((of_iterPatches given).imp fun _ _ of => of.window.symm)).symm

/-- A prediction is found for every patch that was ready. -/
theorem prediction_eq {prepared : List AdaptedPatch}
    (given : adapter.iterPatches artifact = .ok prepared) {patch : AdaptedPatch}
    (mem : patch ∈ prepared) (valid : patch.isValid = true) :
    prediction ((prepared.filter AdaptedPatch.isValid).map (entryOf adapter))
      (patch.patchRow, patch.patchCol) = .ok (adapter.verdict (tensorGiven patch)) := by
  have nodup : (prepared.map fun patch => (patch.patchRow, patch.patchCol)).Nodup := by
    rw [keys_of_iterPatches given]
    exact nodup_rowMajor _ _
  have found : ((prepared.filter AdaptedPatch.isValid).reverse.map (entryOf adapter)).lookup
      (patch.patchRow, patch.patchCol) = some (adapter.verdict (tensorGiven patch)) := by
    refine @lookup_map _ _ _ _ _ (fun patch : AdaptedPatch => (patch.patchRow, patch.patchCol)) _ _
      patch (List.mem_reverse.mpr (List.mem_filter.mpr ⟨mem, valid⟩)) fun other memOther same => ?_
    have memPrepared := (List.mem_filter.mp (List.mem_reverse.mp memOther)).1
    exact List.inj_on_of_nodup_map nodup memPrepared mem same
  rw [prediction, ← List.map_reverse, found]

/-- **The results of `run`**: neither the batches nor their size matter. -/
theorem runPatches_eq_ok_iff {result : InferenceResult} :
    adapter.runPatches artifact = .ok result ↔
      ∃ prepared, adapter.iterPatches artifact = .ok prepared ∧
        (∀ patch ∈ prepared, patch.isValid = true → Answered adapter patch) ∧
        (∀ patch ∈ prepared, HasArea patch) ∧
        result = (prepared.foldl (addPatch adapter) ⟨0, 0, []⟩).result := by
  have ready {prepared : List AdaptedPatch} :
      ∀ patch ∈ prepared.filter AdaptedPatch.isValid, patch.isValid = true :=
    fun patch mem => (List.mem_filter.mp mem).2
  have leads {prepared : List AdaptedPatch}
      (given : adapter.iterPatches artifact = .ok prepared) :
      ∀ patch ∈ prepared.filter AdaptedPatch.isValid,
        (tensorGiven patch).shape.headD 0 = leadOf adapter.profile := by
    intro patch mem
    obtain ⟨memPrepared, valid⟩ := List.mem_filter.mp mem
    obtain ⟨place, -, of⟩ := ExceptFold.exists_of_forall₂_right (of_iterPatches given) memPrepared
    exact of.lead valid
  rw [runPatches]
  constructor
  · intro returned
    obtain ⟨-, -, returned⟩ := bind_eq_ok_iff.mp returned
    obtain ⟨prepared, given, returned⟩ := bind_eq_ok_iff.mp returned
    obtain ⟨predictions, predicted, returned⟩ := bind_eq_ok_iff.mp returned
    obtain ⟨sums, summed, returned⟩ := bind_eq_ok_iff.mp returned
    obtain ⟨answered, rfl⟩ := (predictAll_eq_ok_iff ready (leads given)).mp predicted
    obtain ⟨areas, rfl⟩ := (foldlM_sumPatch fun _ => prediction_eq given).mp summed
    cases returned
    refine ⟨prepared, given, fun patch mem valid => ?_, areas, rfl⟩
    exact answered patch (List.mem_filter.mpr ⟨mem, valid⟩)
  · rintro ⟨prepared, given, answered, areas, rfl⟩
    have compatible : adapter.checkCompatibility artifact = .ok () := by
      obtain ⟨_, checked, -⟩ := bind_eq_ok_iff.mp given
      exact checked
    have predicted := (predictAll_eq_ok_iff ready (leads given)).mpr
      ⟨fun patch mem => answered patch (List.mem_filter.mp mem).1 (List.mem_filter.mp mem).2, rfl⟩
    have summed : prepared.foldlM (adapter.sumPatch _) ⟨0, 0, []⟩ = _ :=
      (foldlM_sumPatch fun _ => prediction_eq given).mpr ⟨areas, rfl⟩
    rw [compatible, ok_bind, given, ok_bind, predicted, ok_bind, summed, ok_bind]

end InferenceAdapter

/-! ## What is to hold of a result -/

open InferenceAdapter

/-- Whether a record is valid. -/
def InferenceRecord.isValid (record : InferenceRecord) : Bool := record.inferenceStatus = "valid"

/-- Whether a record is valid and labelled cloud. -/
def InferenceRecord.isCloud (record : InferenceRecord) : Bool :=
  record.isValid && record.cloudLabel = some "cloud"

/-- The valid pixels in the windows of some records. -/
def validPixels (artifact : InferenceArtifact) (records : List InferenceRecord) :
    Finset (ℕ × ℕ) :=
  (covered (records.map InferenceRecord.modelWindow)).filter fun cell =>
    artifact.validity cell.1 cell.2 = artifact.validValue

/-- The entries of a record as the decision reads them. -/
structure Represents (record : InferenceRecord) (stored : PatchRecord) : Prop where
  status : dictGet stored.entries "inference_status" =
    .str (Text.ofString record.inferenceStatus)
  fraction : pyFloat (dictGet stored.entries "valid_fraction") =
    .ok (.finite record.validFraction)
  window : dictGet stored.entries "model_window" = .list [.int record.modelWindow.top,
    .int record.modelWindow.bottom, .int record.modelWindow.left, .int record.modelWindow.right]
  probability : ∀ p, record.cloudProbability = some p →
    pyFloat (dictGet stored.entries "cloud_probability") = .ok (.finite p)
  label : ∀ l, record.cloudLabel = some l →
    dictGet stored.entries "cloud_label" = .str (Text.ofString l)
  georef : dictGet? stored.entries "georef_valid" = some (.bool record.georefValid)

/-- The same adapter with batches of another size. -/
def InferenceAdapter.withBatchSize (adapter : InferenceAdapter) (size : ℕ+) : InferenceAdapter :=
  { adapter with profile := { adapter.profile with batchSize := size } }

/-- A result has one record for each patch of the grid, row by row, with windows that tile it; it
is the same for batches of every size; its areas count the valid pixels of its valid records; and
the decision finds the same areas where all are valid. -/
structure InferenceRight (adapter : InferenceAdapter) (artifact : InferenceArtifact)
    (result : InferenceResult) : Prop where
  keys : result.records.map (fun record => (record.patchRow, record.patchCol)) =
    rowMajor (partCount artifact.rows adapter.profile.patchSize.1)
      (partCount artifact.cols adapter.profile.patchSize.2)
  tiles : Tiles (result.records.map InferenceRecord.modelWindow)
    ⟨0, artifact.rows, 0, artifact.cols⟩
  batches : ∀ size, (adapter.withBatchSize size).run artifact = .ok (.inl result)
  validArea : result.validArea =
    ((validPixels artifact (result.records.filter InferenceRecord.isValid)).card : ℚ)
  coverage : result.cloudCoverage =
    if validPixels artifact (result.records.filter InferenceRecord.isValid) = ∅ then none
    else some (((validPixels artifact (result.records.filter InferenceRecord.isCloud)).card : ℚ) /
      (validPixels artifact (result.records.filter InferenceRecord.isValid)).card)
  decision : (∀ record ∈ result.records, record.isValid = true) →
    ∀ stored, List.Forall₂ Represents result.records stored →
      ∃ totals, assessRecords ⟨0, 0, true⟩ stored = .ok (.inl totals) ∧
        totals.validArea = result.validArea ∧
        result.cloudCoverage = some (totals.cloudArea / totals.validArea)

/-- No window that the edge of the grid cuts is given to the model: it is rejected, or has no valid
pixel, or too small a share of them. -/
def CutWindowsLeftOut (adapter : InferenceAdapter) (artifact : InferenceArtifact) : Prop :=
  ∀ window ∈ patches ⟨0, artifact.rows, 0, artifact.cols⟩ adapter.profile.patchSize.1
      adapter.profile.patchSize.2,
    adapter.IncompleteEdge window →
      adapter.profile.paddingPolicy = .reject ∨ validCount artifact window = 0 ∨
        adapter.validFraction artifact window < adapter.minValidFraction

section Coverage

variable {adapter : InferenceAdapter} {artifact : InferenceArtifact} {prepared : List AdaptedPatch}

/-- The record of a patch is valid exactly if the patch is. -/
theorem isValid_recordFor (patch : AdaptedPatch) :
    (recordFor adapter patch).isValid = patch.isValid := by
  rw [recordFor, InferenceRecord.isValid, recordOf]
  cases patch.isValid <;> simp

/-- The record of a patch is labelled cloud exactly if its tensor is. -/
theorem isCloud_recordFor (patch : AdaptedPatch) :
    (recordFor adapter patch).isCloud =
      (patch.isValid && (adapter.verdict (tensorGiven patch)).1) := by
  rw [InferenceRecord.isCloud, isValid_recordFor, recordFor, recordOf]
  cases patch.isValid with
  | false => rfl
  | true =>
      obtain ⟨cloud, probability⟩ := adapter.verdict (tensorGiven patch)
      cases cloud <;> simp

/-- The windows of patches tile the grid. -/
theorem tiles_windows (given : adapter.iterPatches artifact = .ok prepared) :
    Tiles (prepared.map AdaptedPatch.modelWindow) ⟨0, artifact.rows, 0, artifact.cols⟩ := by
  rw [windows_of_iterPatches given]
  exact tiles_gridWindows

/-- The windows of the selected records of some patches. -/
theorem windows_filter (select : InferenceRecord → Bool) :
    ((prepared.map (recordFor adapter)).filter select).map InferenceRecord.modelWindow =
      (prepared.filter fun patch => select (recordFor adapter patch)).map
        AdaptedPatch.modelWindow := by
  rw [List.filter_map, List.map_map]
  rfl

/-- The windows of patches are apart. -/
theorem apart_windows (given : adapter.iterPatches artifact = .ok prepared)
    (select : AdaptedPatch → Bool) :
    Apart ((prepared.filter select).map AdaptedPatch.modelWindow) :=
  (tiles_windows given).apart.sublist (List.filter_sublist.map _)

/-- The valid pixels in the windows of selected records, patch by patch. -/
theorem card_validPixels (given : adapter.iterPatches artifact = .ok prepared)
    (select : InferenceRecord → Bool) :
    (validPixels artifact ((prepared.map (recordFor adapter)).filter select)).card =
      ((prepared.filter fun patch => select (recordFor adapter patch)).map fun patch =>
        validCount artifact patch.modelWindow).sum := by
  rw [validPixels, windows_filter, card_filter_covered (apart_windows given _), List.map_map]
  rfl

/-- A window of the grid is not empty, and no larger than a patch. -/
theorem bounds_of_mem_patches {window : Rect}
    (mem : window ∈ patches ⟨0, artifact.rows, 0, artifact.cols⟩ adapter.profile.patchSize.1
      adapter.profile.patchSize.2) :
    (0 < window.bottom - window.top ∧
        window.bottom - window.top ≤ adapter.profile.patchSize.1) ∧
      0 < window.right - window.left ∧
        window.right - window.left ≤ adapter.profile.patchSize.2 := by
  have tiles : Tiles ((adapter.gridWindows artifact).map fun place => place.2.2) _ :=
    tiles_gridWindows
  rw [rects_gridWindows] at tiles
  obtain ⟨wide, tall⟩ := Rect.area_pos_iff.mp (tiles.positive window mem)
  obtain ⟨top, -, mem⟩ := List.mem_flatMap.mp mem
  obtain ⟨left, -, rfl⟩ := List.mem_map.mp mem
  dsimp only at wide tall ⊢
  omega

/-- A window is cut exactly if its area is below that of a patch. -/
theorem incompleteEdge_iff {window : Rect}
    (mem : window ∈ patches ⟨0, artifact.rows, 0, artifact.cols⟩ adapter.profile.patchSize.1
      adapter.profile.patchSize.2) :
    window.area ≤ adapter.fullArea ∧
      (adapter.IncompleteEdge window ↔ window.area < adapter.fullArea) := by
  obtain ⟨⟨tall, heightLe⟩, wide, widthLe⟩ := bounds_of_mem_patches mem
  rw [Rect.area, fullArea, Nat.mul_comm]
  refine ⟨Nat.mul_le_mul heightLe widthLe, fun cut => ?_, fun smaller => ?_⟩
  · rcases cut with rows | cols
    · exact Nat.mul_lt_mul_of_lt_of_le (by omega) widthLe (by omega)
    · exact Nat.mul_lt_mul_of_le_of_lt heightLe (by omega) (by omega)
  · by_contra complete
    rw [IncompleteEdge, not_or, not_not, not_not] at complete
    rw [complete.1, complete.2] at smaller
    exact absurd smaller (lt_irrefl _)

theorem fullArea_pos : (0 : ℚ) < adapter.fullArea := by
  rw [fullArea]
  exact_mod_cast Nat.mul_pos adapter.profile.patchSize.1.pos adapter.profile.patchSize.2.pos

/-- The weight of a patch is the share of its valid pixels that the window is of a patch. -/
theorem patchWeight_eq {place : ℕ × ℕ × Rect} {patch : AdaptedPatch}
    (of : PatchOf adapter artifact place patch) :
    patchWeight patch = (validCount artifact patch.modelWindow : ℚ) *
      ((patch.modelWindow.area : ℚ) / adapter.fullArea) := by
  rw [patchWeight, of.fraction, of.window, validFraction]
  ring

/-- The place of a patch. -/
theorem place_of_mem (given : adapter.iterPatches artifact = .ok prepared) {patch : AdaptedPatch}
    (mem : patch ∈ prepared) :
    ∃ place, PatchOf adapter artifact place patch ∧
      patch.modelWindow ∈ patches ⟨0, artifact.rows, 0, artifact.cols⟩
        adapter.profile.patchSize.1 adapter.profile.patchSize.2 := by
  obtain ⟨place, memPlace, of⟩ := ExceptFold.exists_of_forall₂_right (of_iterPatches given) mem
  refine ⟨place, of, ?_⟩
  rw [of.window, ← rects_gridWindows]
  exact List.mem_map_of_mem memPlace

/-- A patch weighs at most its valid pixels. -/
theorem patchWeight_le (given : adapter.iterPatches artifact = .ok prepared)
    {patch : AdaptedPatch} (mem : patch ∈ prepared) :
    patchWeight patch ≤ validCount artifact patch.modelWindow := by
  obtain ⟨place, of, inGrid⟩ := place_of_mem given mem
  rw [patchWeight_eq of]
  refine mul_le_of_le_one_right (Nat.cast_nonneg _) ?_
  rw [div_le_one fullArea_pos]
  exact_mod_cast (incompleteEdge_iff inGrid).1

/-- A valid patch weighs as much as its valid pixels exactly if its window is not cut. -/
theorem patchWeight_eq_iff (given : adapter.iterPatches artifact = .ok prepared)
    {patch : AdaptedPatch} (mem : patch ∈ prepared) (valid : patch.isValid = true) :
    patchWeight patch = validCount artifact patch.modelWindow ↔
      ¬ adapter.IncompleteEdge patch.modelWindow := by
  obtain ⟨place, of, inGrid⟩ := place_of_mem given mem
  have usable := of.valid_iff.mp valid
  have counted : (0 : ℚ) < validCount artifact patch.modelWindow := by
    have fraction := usable.some_valid
    rw [validFraction, ← of.window] at fraction
    exact (div_pos_iff_of_pos_right fullArea_pos).mp fraction
  rw [patchWeight_eq of, mul_eq_left₀ counted.ne', div_eq_one_iff_eq fullArea_pos.ne',
    (incompleteEdge_iff inGrid).2, not_lt, Nat.cast_inj]
  exact ⟨fun same => same.ge, fun le => Nat.le_antisymm (incompleteEdge_iff inGrid).1 le⟩

/-- Cut windows are left out exactly if no patch that is valid has one. -/
theorem cutWindowsLeftOut_iff (given : adapter.iterPatches artifact = .ok prepared) :
    CutWindowsLeftOut adapter artifact ↔
      ∀ patch ∈ prepared, patch.isValid = true → ¬ adapter.IncompleteEdge patch.modelWindow := by
  constructor
  · intro leftOut patch mem valid cut
    obtain ⟨place, of, inGrid⟩ := place_of_mem given mem
    have usable := of.valid_iff.mp valid
    rw [← of.window] at usable
    rcases leftOut _ inGrid cut with rejected | none | few
    · exact usable.padded ⟨cut, rejected⟩
    · have fraction := usable.some_valid
      rw [validFraction, none, Nat.cast_zero, zero_div] at fraction
      exact absurd fraction (lt_irrefl _)
    · exact absurd usable.enough (not_le.mpr few)
  · intro uncut window inGrid cut
    rw [← rects_gridWindows, ← windows_of_iterPatches given] at inGrid
    obtain ⟨patch, mem, rfl⟩ := List.mem_map.mp inGrid
    obtain ⟨place, of, -⟩ := place_of_mem given mem
    by_contra kept
    rw [not_or, not_or, not_lt] at kept
    refine uncut patch mem (of.valid_iff.mpr ?_) cut
    rw [← of.window]
    refine ⟨fun both => kept.1 both.2, ?_, kept.2.2⟩
    rw [validFraction]
    exact div_pos (by exact_mod_cast Nat.pos_of_ne_zero kept.2.1) fullArea_pos

/-- Some valid patches weigh as much as their valid pixels exactly if none of them is cut. -/
theorem sum_patchWeight_eq_iff (given : adapter.iterPatches artifact = .ok prepared) :
    ((prepared.filter AdaptedPatch.isValid).map patchWeight).sum =
        (((prepared.filter AdaptedPatch.isValid).map fun patch =>
          validCount artifact patch.modelWindow).sum : ℕ) ↔
      ∀ patch ∈ prepared, patch.isValid = true → ¬ adapter.IncompleteEdge patch.modelWindow := by
  rw [Nat.cast_list_sum, List.map_map]
  constructor
  · intro same patch mem valid
    rw [← patchWeight_eq_iff given mem valid]
    by_contra different
    refine absurd same (List.sum_lt_sum _ _ (fun other memOther => ?_) ⟨patch, ?_, ?_⟩).ne
    · exact patchWeight_le given (List.mem_filter.mp memOther).1
    · exact List.mem_filter.mpr ⟨mem, valid⟩
    · exact lt_of_le_of_ne (patchWeight_le given mem) different
  · intro uncut
    refine congrArg List.sum (List.map_congr_left fun patch mem => ?_)
    obtain ⟨memPrepared, valid⟩ := List.mem_filter.mp mem
    exact (patchWeight_eq_iff given memPrepared valid).mpr (uncut patch memPrepared valid)

/-- The weights of selected valid patches, none of which is cut. -/
theorem sum_patchWeight_of_uncut (given : adapter.iterPatches artifact = .ok prepared)
    (uncut : ∀ patch ∈ prepared, patch.isValid = true →
      ¬ adapter.IncompleteEdge patch.modelWindow) {select : AdaptedPatch → Bool}
    (valid : ∀ patch, select patch = true → patch.isValid = true) :
    ((prepared.filter select).map patchWeight).sum =
      (((prepared.filter select).map fun patch =>
        validCount artifact patch.modelWindow).sum : ℕ) := by
  rw [Nat.cast_list_sum, List.map_map]
  refine congrArg List.sum (List.map_congr_left fun patch mem => ?_)
  obtain ⟨memPrepared, selected⟩ := List.mem_filter.mp mem
  exact (patchWeight_eq_iff given memPrepared (valid patch selected)).mpr
    (uncut patch memPrepared (valid patch selected))

end Coverage

/-! ## The decision -/

section Decision

variable {record : InferenceRecord} {stored : PatchRecord}

/-- The window of a stored record. -/
theorem windowArea_of_represents (represents : Represents record stored) :
    windowArea stored.entries = floatOfInt record.modelWindow.area := by
  have bounds : windowBoundsOf (dictGet stored.entries "model_window") =
      .ok (record.modelWindow.top, record.modelWindow.bottom, record.modelWindow.left,
        record.modelWindow.right) := by
    rw [represents.window]
    rfl
  have area : max 0 ((record.modelWindow.bottom : ℤ) - record.modelWindow.top) *
      max 0 ((record.modelWindow.right : ℤ) - record.modelWindow.left) =
        (record.modelWindow.area : ℤ) := by
    have rows : max 0 ((record.modelWindow.bottom : ℤ) - record.modelWindow.top) =
        ((record.modelWindow.bottom - record.modelWindow.top : ℕ) : ℤ) := by omega
    have cols : max 0 ((record.modelWindow.right : ℤ) - record.modelWindow.left) =
        ((record.modelWindow.right - record.modelWindow.left : ℕ) : ℤ) := by omega
    rw [rows, cols, Rect.area, Nat.mul_comm, Nat.cast_mul]
  rw [windowArea, bounds, ok_bind]
  dsimp only
  rw [area]

/-- What holds of a record that a valid patch gave. -/
structure Counted (record : InferenceRecord) : Prop where
  status : record.inferenceStatus = "valid"
  fraction : 0 < record.validFraction ∧ record.validFraction ≤ 1
  area : finiteDouble record.modelWindow.area 0 = true
  probability : ∃ p, record.cloudProbability = some p ∧ 0 ≤ p ∧ p ≤ 1
  label : record.cloudLabel = some (if record.isCloud then "cloud" else "clear")
  georef : record.georefValid = true

theorem cloudLabel_text (cloud : Bool) :
    cloudLabel? (.str (Text.ofString (if cloud then "cloud" else "clear"))) = some cloud := by
  cases cloud <;> decide

/-- A stored record of a valid patch counts for the decision, with the weight of the patch. -/
theorem accepted_of_represents (counted : Counted record) (represents : Represents record stored) :
    PatchAccepted stored.entries ∧
      weightOf stored.entries = record.modelWindow.area * record.validFraction ∧
      isCloud stored.entries = record.isCloud ∧ isGeoreferenced stored.entries = true := by
  have window : windowArea stored.entries = .ok (.finite (record.modelWindow.area : ℤ)) := by
    rw [windowArea_of_represents represents, floatOfInt, Int.natAbs_natCast, if_pos counted.area]
  have label := represents.label _ counted.label
  obtain ⟨p, given, nonneg, small⟩ := counted.probability
  refine ⟨⟨?_, ⟨_, represents.fraction, counted.fraction⟩, ⟨_, window⟩,
    ⟨p, represents.probability p given, nonneg, small⟩, ?_⟩, ?_, ?_, ?_⟩
  · rw [represents.status, counted.status, inferenceValid]
    exact decide_eq_true rfl
  · rw [label, cloudLabel_text]
    rfl
  · rw [weightOf, areaOf, fractionOf, window, represents.fraction]
    norm_cast
  · rw [CubeNano.isCloud, label, cloudLabel_text]
    cases record.isCloud <;> rfl
  · rw [isGeoreferenced, represents.georef, counted.georef]
    rfl

/-- The sums over stored records that all count. -/
theorem sums_of_represents {records : List InferenceRecord} {stored : List PatchRecord}
    (counted : ∀ record ∈ records, Counted record)
    (represents : List.Forall₂ Represents records stored) :
    validAreaOf stored =
        (records.map fun record => (record.modelWindow.area : ℚ) * record.validFraction).sum ∧
      cloudAreaOf stored =
        ((records.filter InferenceRecord.isCloud).map fun record =>
          (record.modelWindow.area : ℚ) * record.validFraction).sum ∧
      (stored.all fun other => isGeoreferenced other.entries) = true := by
  induction represents with
  | nil => exact ⟨rfl, rfl, rfl⟩
  | cons first _ ih =>
      obtain ⟨here, later⟩ := List.forall_mem_cons.mp counted
      obtain ⟨-, weight, cloud, georef⟩ := accepted_of_represents here first
      obtain ⟨valid, cloudy, all⟩ := ih later
      refine ⟨?_, ?_, ?_⟩
      · rw [validAreaOf, List.map_cons, List.sum_cons, weight, ← validAreaOf, valid, List.map_cons,
          List.sum_cons]
      · rw [cloudAreaOf, List.map_cons, List.sum_cons, weight, cloud, ← cloudAreaOf, cloudy,
          List.filter_cons]
        split
        · rw [List.map_cons, List.sum_cons]
        · rw [zero_add]
      · rw [List.all_cons, georef, all, Bool.and_self]

/-- **The sums of the decision** over stored records that all count. -/
theorem assessRecords_of_represents {records : List InferenceRecord} {stored : List PatchRecord}
    (counted : ∀ record ∈ records, Counted record)
    (represents : List.Forall₂ Represents records stored) :
    assessRecords ⟨0, 0, true⟩ stored =
      .ok (.inl
        ⟨(records.map fun record => (record.modelWindow.area : ℚ) * record.validFraction).sum,
          ((records.filter InferenceRecord.isCloud).map fun record =>
            (record.modelWindow.area : ℚ) * record.validFraction).sum, true⟩) := by
  have accepted : ∀ other ∈ stored, PatchAccepted other.entries := by
    intro other mem
    obtain ⟨record, memRecord, here⟩ := ExceptFold.exists_of_forall₂_right represents mem
    exact (accepted_of_represents (counted record memRecord) here).1
  rcases assessRecords_cases ⟨0, 0, true⟩ stored with
    ⟨-, ends⟩ | ⟨before, other, after, split, -, refused, -⟩
  · obtain ⟨valid, cloudy, all⟩ := sums_of_represents counted represents
    rw [ends, totalsOf_eq, valid, cloudy, all, zero_add, zero_add, Bool.and_self]
  · exact absurd (accepted other (split ▸ List.mem_append_right _ List.mem_cons_self)) refused

end Decision

/-! ## When the areas count pixels -/

section Counts

variable {adapter : InferenceAdapter} {artifact : InferenceArtifact}

/-- A result of `run` is one of its body. -/
theorem run_eq_ok_iff {result : InferenceResult} :
    adapter.run artifact = .ok (.inl result) ↔ adapter.runPatches artifact = .ok result := by
  rw [run]
  cases adapter.runPatches artifact with
  | ok other =>
      constructor
      · intro same
        cases same
        rfl
      · intro same
        cases same
        rfl
  | error e =>
      obtain ⟨kind, message⟩ := e
      refine ⟨fun same => ?_, nofun⟩
      cases kind <;> exact nomatch same

/-- The size of the batches does not matter. -/
theorem runPatches_withBatchSize {result : InferenceResult}
    (returned : adapter.runPatches artifact = .ok result) (size : ℕ+) :
    (adapter.withBatchSize size).runPatches artifact = .ok result := by
  obtain ⟨prepared, given, answered, areas, same⟩ := runPatches_eq_ok_iff.mp returned
  exact runPatches_eq_ok_iff.mpr ⟨prepared, given, answered, areas, same⟩

theorem probability_mem {p : PyFloat} (given : (probability? p).isSome = true) :
    0 ≤ (probability? p).getD 0 ∧ (probability? p).getD 0 ≤ 1 := by
  obtain ⟨value, same⟩ := Option.isSome_iff_exists.mp given
  rw [same, Option.getD_some]
  cases p with
  | finite number =>
      rw [probability?] at same
      split at same
      · cases same
        assumption
      · exact nomatch same
  | infinite negative => exact nomatch same
  | nan => exact nomatch same

/-- The record of a valid patch counts for the decision. -/
theorem counted_recordFor {prepared : List AdaptedPatch}
    (given : adapter.iterPatches artifact = .ok prepared) {patch : AdaptedPatch}
    (mem : patch ∈ prepared) (valid : patch.isValid = true) (answered : Answered adapter patch)
    (area : HasArea patch) : Counted (recordFor adapter patch) := by
  obtain ⟨place, of, inGrid⟩ := place_of_mem given mem
  have usable := of.valid_iff.mp valid
  have few : validCount artifact place.2.2 ≤ adapter.fullArea := by
    rw [← of.window]
    refine (Finset.card_filter_le _ _).trans ?_
    rw [Rect.card_cells]
    exact (incompleteEdge_iff inGrid).1
  have cloud : (recordFor adapter patch).isCloud = _ := isCloud_recordFor patch
  rw [valid, Bool.true_and] at cloud
  refine
    { status := ?_
      fraction := ⟨?_, ?_⟩
      area := area
      probability := ⟨_, ?_, probability_mem answered.1.2⟩
      label := ?_
      georef := rfl }
  · rw [recordFor, recordOf, valid]
    rfl
  · change 0 < patch.validFraction
    rw [of.fraction]
    exact usable.some_valid
  · change patch.validFraction ≤ 1
    rw [of.fraction, validFraction, div_le_one fullArea_pos]
    exact_mod_cast few
  · rw [recordFor, recordOf, valid]
    rfl
  · rw [cloud, recordFor, recordOf, valid]
    rfl

/-- The result of some patches. -/
theorem result_eq (prepared : List AdaptedPatch) :
    let sums := prepared.foldl (addPatch adapter) ⟨0, 0, []⟩
    sums.result.records = prepared.map (recordFor adapter) ∧
      sums.result.validArea = ((prepared.filter AdaptedPatch.isValid).map patchWeight).sum ∧
      sums.result.cloudCoverage =
        if ((prepared.filter AdaptedPatch.isValid).map patchWeight).sum ≤ 0 then none
        else some (((prepared.filter fun patch => (recordFor adapter patch).isCloud).map
          patchWeight).sum / ((prepared.filter AdaptedPatch.isValid).map patchWeight).sum) := by
  have cloudy : (prepared.filter fun patch =>
      patch.isValid && (adapter.verdict (tensorGiven patch)).1) =
        prepared.filter fun patch => (recordFor adapter patch).isCloud :=
    List.filter_congr fun patch _ => (isCloud_recordFor patch).symm
  rw [foldl_addPatch, cloudy]
  simp only [RunSums.result, List.nil_append, zero_add]
  exact ⟨trivial, trivial, trivial⟩

/-- A grid whose patches are all valid has an area. -/
theorem sum_patchWeight_pos {prepared : List AdaptedPatch}
    (given : adapter.iterPatches artifact = .ok prepared)
    (valid : ∀ patch ∈ prepared, patch.isValid = true) : 0 < (prepared.map patchWeight).sum := by
  have nonempty : prepared ≠ [] := by
    rintro rfl
    have corner : ((0, 0) : ℕ × ℕ) ∈ (⟨0, artifact.rows, 0, artifact.cols⟩ : Rect).cells :=
      Rect.mem_cells.mpr ⟨⟨le_rfl, artifact.rows.pos⟩, le_rfl, artifact.cols.pos⟩
    obtain ⟨_, mem, -⟩ := ((tiles_windows given).covers _).mp corner
    exact nomatch mem
  refine List.sum_pos _ (fun weight mem => ?_) fun empty => nonempty (List.map_eq_nil_iff.mp empty)
  obtain ⟨patch, memPatch, rfl⟩ := List.mem_map.mp mem
  obtain ⟨place, of, inGrid⟩ := place_of_mem given memPatch
  have usable := of.valid_iff.mp (valid patch memPatch)
  obtain ⟨⟨tall, -⟩, wide, -⟩ := bounds_of_mem_patches inGrid
  rw [patchWeight, of.fraction]
  refine mul_pos ?_ usable.some_valid
  rw [Rect.area]
  exact_mod_cast Nat.mul_pos wide tall

/-- **When the areas of a result count pixels**: exactly where no window that the edge of the grid
cuts is given to the model. -/
theorem inference_counts_iff {result : InferenceResult}
    (returned : adapter.run artifact = .ok (.inl result)) :
    InferenceRight adapter artifact result ↔ CutWindowsLeftOut adapter artifact := by
  have ran := run_eq_ok_iff.mp returned
  obtain ⟨prepared, given, answered, areas, rfl⟩ := runPatches_eq_ok_iff.mp ran
  obtain ⟨records, validArea, coverage⟩ := @result_eq adapter prepared
  have selected : (prepared.filter fun patch => (recordFor adapter patch).isValid) =
      prepared.filter AdaptedPatch.isValid :=
    List.filter_congr fun patch _ => isValid_recordFor patch
  have validCard := card_validPixels given InferenceRecord.isValid
  have cloudCard := card_validPixels given InferenceRecord.isCloud
  rw [selected] at validCard
  rw [cutWindowsLeftOut_iff given, ← sum_patchWeight_eq_iff given]
  constructor
  · intro right
    rw [← validArea, right.validArea, records, validCard]
  · intro same
    have uncut := (sum_patchWeight_eq_iff given).mp same
    have cloudValid : ∀ patch, (recordFor adapter patch).isCloud = true →
        patch.isValid = true := by
      intro patch cloud
      rw [isCloud_recordFor, Bool.and_eq_true] at cloud
      exact cloud.1
    have cloudSum := sum_patchWeight_of_uncut given uncut cloudValid
    refine
      { keys := ?_
        tiles := ?_
        batches := fun size => run_eq_ok_iff.mpr (runPatches_withBatchSize ran size)
        validArea := ?_
        coverage := ?_
        decision := fun allValid stored represents => ?_ }
    · rw [records, List.map_map]
      exact keys_of_iterPatches given
    · rw [records, List.map_map]
      exact tiles_windows given
    · rw [validArea, same, records, validCard]
    · rw [coverage, same, cloudSum, ← validCard, ← cloudCard, records]
      refine if_congr ?_ rfl rfl
      rw [Nat.cast_nonpos, Finset.card_eq_zero]
    · rw [records] at allValid represents
      have valid : ∀ patch ∈ prepared, patch.isValid = true := fun patch mem => by
        rw [← @isValid_recordFor adapter]
        exact allValid _ (List.mem_map_of_mem mem)
      have all : prepared.filter AdaptedPatch.isValid = prepared := List.filter_eq_self.mpr valid
      have counted : ∀ record ∈ prepared.map (recordFor adapter), Counted record := by
        intro record mem
        obtain ⟨patch, memPatch, rfl⟩ := List.mem_map.mp mem
        exact counted_recordFor given memPatch (valid patch memPatch)
          (answered patch memPatch (valid patch memPatch)) (areas patch memPatch)
      have sums := assessRecords_of_represents counted represents
      rw [List.filter_map, List.map_map, List.map_map] at sums
      refine ⟨_, sums, ?_, ?_⟩
      · rw [validArea, all]
        rfl
      · rw [coverage, all, if_neg (not_le.mpr (sum_patchWeight_pos given valid))]
        rfl

end Counts

/-! ## A cut window -/

/-- An adapter for patches of two rows and columns whose engine finds every patch cloudy. -/
def cloudyAdapter (policy : PaddingPolicy) : InferenceAdapter where
  profile :=
    { requiredBandOrder := ["red"]
      tensorLayout := ['N', 'C', 'H', 'W']
      patchSize := (2, 2)
      batchSize := 1
      paddingPolicy := policy
      normalize := .ok
      shape_normalize := fun _ _ same => by cases same; rfl
      convert := id }
  acceptedOutputLayouts := ["YXC"]
  acceptedOutputDtypes := none
  acceptedSpatialSemantics := none
  minValidFraction := 0
  threshold := 1 / 2
  padValue := .finite 0
  minValidFraction_mem := by norm_num
  threshold_mem := by norm_num
  answer := fun _ => .ok (true, .finite 1)

/-- An artifact of some rows and two columns, all of whose pixels are valid. -/
def validArtifact (rows : ℕ+) : InferenceArtifact where
  rows := rows
  cols := 2
  sourceChannels := ["red"]
  outputLayout := "YXC"
  outputDtype := "float32"
  spatialSemantics := "image"
  profileFingerprint := []
  manifestFingerprint := []
  complete := true
  channels := 1
  image := fun _ _ _ => .finite 0
  castSample := id
  validity := fun _ _ => 1
  reason := fun _ _ => 0
  validValue := 1
  bits := [("border", 1)]

/-- What is measured of the result of an adapter. -/
theorem exists_result {adapter : InferenceAdapter} {artifact : InferenceArtifact} {α : Type}
    {measure : InferenceResult → α} {value : α}
    (measured : (adapter.runPatches artifact).toOption.map measure = some value) :
    ∃ result, adapter.run artifact = .ok (.inl result) ∧ measure result = value := by
  cases ran : adapter.runPatches artifact with
  | error e =>
      rw [ran] at measured
      exact nomatch measured
  | ok result =>
      rw [ran] at measured
      exact ⟨result, run_eq_ok_iff.mpr ran, Option.some.inj measured⟩

theorem inference_counts_iff_sample :
    ∃ result, (cloudyAdapter .reject).run (validArtifact 3) = .ok (.inl result) ∧
      result.validArea = 4 ∧
      InferenceRight (cloudyAdapter .reject) (validArtifact 3) result := by
  have area : ((cloudyAdapter .reject).runPatches (validArtifact 3)).toOption.map
      InferenceResult.validArea = some 4 := by
    decide +kernel
  obtain ⟨result, ran, four⟩ := exists_result area
  have leftOut : CutWindowsLeftOut (cloudyAdapter .reject) (validArtifact 3) :=
    fun _ _ _ => .inl rfl
  exact ⟨result, ran, four, (inference_counts_iff ran).mpr leftOut⟩

/-- Two valid pixels in the upper half of a patch weigh as much as one. -/
theorem not_inferenceRight_of_cut :
    ∃ result, (cloudyAdapter .edge).run (validArtifact 1) = .ok (.inl result) ∧
      result.validArea = 1 ∧
      (validPixels (validArtifact 1) (result.records.filter InferenceRecord.isValid)).card = 2 ∧
      ¬ InferenceRight (cloudyAdapter .edge) (validArtifact 1) result := by
  have measured : ((cloudyAdapter .edge).runPatches (validArtifact 1)).toOption.map
      (fun result => (result.validArea,
        (validPixels (validArtifact 1) (result.records.filter InferenceRecord.isValid)).card)) =
        some (1, 2) := by
    decide +kernel
  obtain ⟨result, ran, both⟩ := exists_result measured
  obtain ⟨area, pixels⟩ := Prod.ext_iff.mp both
  refine ⟨result, ran, area, pixels, fun right => ?_⟩
  have counts := right.validArea
  dsimp only at area pixels
  rw [area, pixels] at counts
  norm_num at counts

end CubeNano

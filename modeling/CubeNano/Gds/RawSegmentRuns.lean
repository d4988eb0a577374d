import CubeNano.Gds.RawSegments
import Mathlib.Data.List.TakeWhile

/-!
# What a raw segment keeps

The file of a run is the records that were completed, followed by a torn one.  A scan returns
the records up to the first that is larger than its own limit, and a repair cuts off the rest:
so nothing is lost exactly while every store that repairs the file has room for every record.

## Main definitions

* `RawRun.Intact` — what was acknowledged is readable and what was completed is found
* `RawOp.Respects` — the condition on an operation

## Main statements

* `scanFile_written`, `read_written`
* `intact_iff_respects` — every run
-/

namespace CubeNano

open Effect

/-! ## The bytes of a record -/

/-- The record of a payload on disk. -/
def recordBytes (payload : Bytes) : Bytes := rawHeader payload ++ payload

/-- The records of some payloads. -/
def written (payloads : List Bytes) : Bytes := payloads.flatMap recordBytes

/-- A payload that fits a header. -/
def Storable (payload : Bytes) : Prop := payload ≠ [] ∧ payload.length < 2 ^ 32

/-- What a crash leaves of a record. -/
def Torn (torn : Bytes) : Prop :=
  ∃ payload cut, Storable payload ∧ torn = (recordBytes payload).take cut ∧
    torn.length < (recordBytes payload).length

@[simp] theorem length_rawHeader (payload : Bytes) :
    (rawHeader payload).length = rawHeaderSize := by
  simp [rawHeader, rawMagic, rawHeaderSize]

@[simp] theorem length_recordBytes (payload : Bytes) :
    (recordBytes payload).length = rawHeaderSize + payload.length := by
  rw [recordBytes, List.length_append, length_rawHeader]

theorem written_cons (payload : Bytes) (rest : List Bytes) :
    written (payload :: rest) = recordBytes payload ++ written rest := List.flatMap_cons ..

theorem written_append (first second : List Bytes) :
    written (first ++ second) = written first ++ written second := List.flatMap_append ..

/-- The header of a payload that fits is unpacked to its fields. -/
theorem unpackRawHeader_rawHeader {payload : Bytes} (storable : Storable payload) :
    unpackRawHeader (rawHeader payload) =
      ⟨rawMagic, rawVersion, payload.length, crc32 payload⟩ := by
  have version : ((rawHeader payload).drop 4).take 1 = toBytesBE 1 rawVersion :=
    slice_append rfl (length_toBytesBE _ _)
  have length : ((rawHeader payload).drop 8).take 4 = toBytesBE 4 payload.length := by
    have split : rawHeader payload = (rawMagic ++ (toBytesBE 1 rawVersion ++ [0, 0, 0])) ++
        (toBytesBE 4 payload.length ++ toBytesBE 4 (crc32 payload)) := by
      unfold rawHeader
      simp only [List.append_assoc]
    rw [split]
    exact slice_append rfl (length_toBytesBE _ _)
  have crc : ((rawHeader payload).drop 12).take 4 = toBytesBE 4 (crc32 payload) := by
    have split : rawHeader payload = (rawMagic ++ (toBytesBE 1 rawVersion ++ ([0, 0, 0] ++
        toBytesBE 4 payload.length))) ++ (toBytesBE 4 (crc32 payload) ++ []) := by
      unfold rawHeader
      simp only [List.append_assoc, List.append_nil]
    rw [split]
    exact slice_append (by simp [rawMagic]) (length_toBytesBE _ _)
  unfold unpackRawHeader
  rw [version, length, crc, fromBytesBE_toBytesBE (by decide),
    fromBytesBE_toBytesBE (by simpa using storable.2),
    fromBytesBE_toBytesBE (by simpa using crc32_lt payload)]
  rfl

section Store

variable (store : RawSegmentStore) {payload : Bytes}

/-- A record at the front is found, unless it is larger than the limit. -/
theorem scanRecord?_record (storable : Storable payload) (offset : ℕ) (rest : Bytes) :
    store.scanRecord? offset (recordBytes payload ++ rest) =
      if payload.length ≤ store.maxRecordBytes then
        some (RawRecord.of store.path offset payload, rest) else none := by
  have header : (recordBytes payload ++ rest).take rawHeaderSize = rawHeader payload := by
    rw [recordBytes, List.append_assoc]
    exact List.take_left' (length_rawHeader payload)
  have body : (recordBytes payload ++ rest).drop rawHeaderSize = payload ++ rest := by
    rw [recordBytes, List.append_assoc]
    exact List.drop_left' (length_rawHeader payload)
  have behind : (recordBytes payload ++ rest).drop (rawHeaderSize + payload.length) = rest :=
    List.drop_left' (length_recordBytes payload)
  have positive : 0 < payload.length := List.length_pos_iff.mpr storable.1
  unfold RawSegmentStore.scanRecord?
  dsimp only
  rw [header, unpackRawHeader_rawHeader storable]
  dsimp only
  rw [if_neg (not_not.mpr (length_rawHeader payload)), body, List.take_left' rfl, behind,
    if_neg (not_not.mpr rfl), if_neg (not_not.mpr rfl)]
  by_cases fits : payload.length ≤ store.maxRecordBytes
  · rw [if_pos fits, if_neg]
    rintro (h | h | h | h)
    · exact h rfl
    · exact h rfl
    · omega
    · omega
  · rw [if_neg fits, if_pos]
    exact .inr (.inr (.inr (not_le.mp fits)))

/-- A torn record is not found. -/
theorem scanRecord?_torn {torn : Bytes} (h : Torn torn) (offset : ℕ) :
    store.scanRecord? offset torn = none := by
  obtain ⟨payload, cut, storable, rfl, short⟩ := h
  have cutShort : cut < rawHeaderSize + payload.length := by
    rw [List.length_take, length_recordBytes] at short
    omega
  unfold RawSegmentStore.scanRecord?
  dsimp only
  by_cases whole : rawHeaderSize ≤ cut
  · have header : ((recordBytes payload).take cut).take rawHeaderSize = rawHeader payload := by
      rw [List.take_take, min_eq_left whole, recordBytes]
      exact List.take_left' (length_rawHeader payload)
    rw [header, unpackRawHeader_rawHeader storable]
    dsimp only
    rw [if_neg (not_not.mpr (length_rawHeader payload))]
    split
    · rfl
    · rw [if_pos]
      rw [List.length_take, List.length_drop, List.length_take, length_recordBytes]
      omega
  · rw [if_pos]
    rw [List.length_take, List.length_take, length_recordBytes]
    omega

/-- The records of some payloads, the first of them at an offset. -/
def recordsAt (path : Text) : (offset : ℕ) → List Bytes → List RawRecord
  | _, [] => []
  | offset, payload :: rest =>
      RawRecord.of path offset payload ::
        recordsAt path (offset + (rawHeaderSize + payload.length)) rest

/-- The payloads before the first that is larger than a limit. -/
def withinLimit (limit : ℕ) (payloads : List Bytes) : List Bytes :=
  payloads.takeWhile fun payload => payload.length ≤ limit

/-- **A scan finds the records before the first that is too large for the store.** -/
theorem scanFrom_written {torn : Bytes} (hTorn : Torn torn) {payloads : List Bytes}
    (storable : ∀ payload ∈ payloads, Storable payload) {fuel : ℕ} (offset : ℕ)
    (enough : (written payloads ++ torn).length ≤ fuel) :
    store.scanFrom fuel offset (written payloads ++ torn) =
      (recordsAt store.path offset (withinLimit store.maxRecordBytes payloads),
        offset + (written (withinLimit store.maxRecordBytes payloads)).length) := by
  induction payloads generalizing fuel offset with
  | nil =>
      cases fuel with
      | zero => rfl
      | succ fuel =>
          unfold RawSegmentStore.scanFrom
          rw [show written [] ++ torn = torn from rfl, scanRecord?_torn store hTorn]
          rfl
  | cons payload rest ih =>
      rw [List.forall_mem_cons] at storable
      rw [written_cons, List.append_assoc] at enough ⊢
      rw [List.length_append, length_recordBytes] at enough
      have size : rawHeaderSize = 16 := rfl
      cases fuel with
      | zero => omega
      | succ fuel =>
          unfold RawSegmentStore.scanFrom withinLimit
          rw [scanRecord?_record store storable.1, List.takeWhile_cons]
          by_cases fits : payload.length ≤ store.maxRecordBytes
          · have later := @ih storable.2 fuel
              (offset + (RawRecord.of store.path offset payload).length) (by omega)
            rw [if_pos fits, if_pos (decide_eq_true fits), written_cons, List.length_append,
              length_recordBytes, ← Nat.add_assoc offset]
            dsimp only
            rw [later]
            rfl
          · rw [if_neg fits, if_neg (by rwa [decide_eq_true_eq])]
            rfl

theorem scanFile_written {torn : Bytes} (hTorn : Torn torn) {payloads : List Bytes}
    (storable : ∀ payload ∈ payloads, Storable payload) :
    store.scanFile (written payloads ++ torn) =
      (recordsAt store.path 0 (withinLimit store.maxRecordBytes payloads),
        (written (withinLimit store.maxRecordBytes payloads)).length) := by
  unfold RawSegmentStore.scanFile
  rw [scanFrom_written store hTorn storable 0 le_rfl, Nat.zero_add]

/-- The bytes of the records within a limit come first. -/
theorem take_written (limit : ℕ) (payloads : List Bytes) (torn : Bytes) :
    (written payloads ++ torn).take (written (withinLimit limit payloads)).length =
      written (withinLimit limit payloads) := by
  have split := List.takeWhile_append_dropWhile (p := fun payload : Bytes =>
    decide (payload.length ≤ limit)) (l := payloads)
  change withinLimit limit payloads ++ _ = payloads at split
  rw [← congrArg written split, written_append, List.append_assoc]
  exact List.take_left' rfl

/-- **A repair keeps these records and nothing else.** -/
theorem scan_repair_written {torn : Bytes} (hTorn : Torn torn) {payloads : List Bytes}
    (storable : ∀ payload ∈ payloads, Storable payload) :
    store.scan true none (some (written payloads ++ torn)) =
      .ok (recordsAt store.path 0 (withinLimit store.maxRecordBytes payloads))
        (some (written (withinLimit store.maxRecordBytes payloads))) := by
  have found := scanFile_written store hTorn storable
  unfold RawSegmentStore.scan
  rw [get_bind]
  dsimp only
  rw [liftRaises_bind_of_ok (show RawSegmentStore.repairPlan _ none = _ from rfl), found]
  change EStateM.Result.ok _ (some ((written payloads ++ torn).take _)) = _
  rw [take_written]

theorem withinLimit_eq_self_iff {limit : ℕ} {payloads : List Bytes} :
    withinLimit limit payloads = payloads ↔ ∀ payload ∈ payloads, payload.length ≤ limit := by
  rw [withinLimit, List.takeWhile_eq_self_iff]
  simp only [decide_eq_true_eq]

/-- **A record is read back, whatever is behind it.** -/
theorem read_written (storable : Storable payload) (before : List Bytes) (after : Bytes) :
    store.read (RawRecord.of store.path (written before).length payload)
      (some (written before ++ (recordBytes payload ++ after))) = .ok payload := by
  have front : (written before ++ (recordBytes payload ++ after)).drop (written before).length =
      rawHeader payload ++ (payload ++ after) := by
    rw [List.drop_left' rfl, recordBytes, List.append_assoc]
  have header : ((written before ++ (recordBytes payload ++ after)).drop
      (written before).length).take rawHeaderSize = rawHeader payload := by
    rw [front]
    exact List.take_left' (length_rawHeader payload)
  have body : ((written before ++ (recordBytes payload ++ after)).drop
      ((written before).length + rawHeaderSize)).take payload.length = payload := by
    rw [← List.drop_drop, front, List.drop_left' (length_rawHeader payload)]
    exact List.take_left' rfl
  unfold RawSegmentStore.read RawRecord.of
  dsimp only
  rw [header, unpackRawHeader_rawHeader storable]
  dsimp only
  rw [body, if_neg (not_not.mpr rfl), if_neg (not_not.mpr (length_rawHeader payload)),
    if_neg (by simp), if_neg (by simp), if_neg (not_not.mpr rfl)]

end Store

/-! ## What an append does to the file -/

/-- A store with room for every record. -/
def Room (limit : ℕ) (payloads : List Bytes) : Prop :=
  ∀ payload ∈ payloads, payload.length ≤ limit

theorem torn_nil : Torn [] :=
  ⟨[0], 0, ⟨by decide, by decide⟩, rfl, by rw [length_recordBytes]; exact Nat.succ_pos _⟩

theorem length_withinLimit_eq_iff {limit : ℕ} {payloads : List Bytes} :
    (withinLimit limit payloads).length = payloads.length ↔ Room limit payloads := by
  rw [Room, ← withinLimit_eq_self_iff]
  constructor
  · intro same
    exact (List.takeWhile_prefix _).eq_of_length same
  · intro same
    rw [same]

theorem mem_of_mem_withinLimit {limit : ℕ} {payloads : List Bytes} {payload : Bytes}
    (mem : payload ∈ withinLimit limit payloads) : payload ∈ payloads :=
  (List.takeWhile_prefix _).subset mem

@[simp] theorem length_recordsAt (path : Text) (offset : ℕ) (payloads : List Bytes) :
    (recordsAt path offset payloads).length = payloads.length := by
  induction payloads generalizing offset with
  | nil => rfl
  | cons payload rest ih => exact congrArg Nat.succ (ih _)

theorem stop_of (path : Text) (offset : ℕ) (payload : Bytes) :
    (RawRecord.of path offset payload).stop = offset + (rawHeaderSize + payload.length) := rfl

/-- The file of a run: some records and a torn one, or no file. -/
def Holds (payloads : List Bytes) (file : Option Bytes) : Prop :=
  file = none ∧ payloads = [] ∨ ∃ torn, Torn torn ∧ file = some (written payloads ++ torn)

theorem holds_written (payloads : List Bytes) : Holds payloads (some (written payloads)) :=
  .inr ⟨[], torn_nil, by rw [List.append_nil]⟩

section Append

variable (store : RawSegmentStore) {payload : Bytes} {payloads : List Bytes} {file : Option Bytes}

/-- **A scan of such a file, with a repair.** -/
theorem scan_repair_holds (storable : ∀ p ∈ payloads, Storable p) (holds : Holds payloads file) :
    store.scan true none file =
      .ok (recordsAt store.path 0 (withinLimit store.maxRecordBytes payloads))
        (file.map fun _ => written (withinLimit store.maxRecordBytes payloads)) := by
  rcases holds with ⟨rfl, rfl⟩ | ⟨torn, hTorn, rfl⟩
  · rfl
  · exact scan_repair_written store hTorn storable

theorem prepareAppend_refused (file : Option Bytes)
    (refused : payload = [] ∨ store.maxRecordBytes < payload.length) :
    ∃ e, store.prepareAppend payload file = .error e file := by
  unfold RawSegmentStore.prepareAppend
  by_cases empty : payload = []
  · rw [if_pos empty]
    exact ⟨_, rfl⟩
  · rw [if_neg empty, if_pos (refused.resolve_left empty)]
    exact ⟨_, rfl⟩

/-- **The repair of an append keeps the records within the store's limit.** -/
theorem prepareAppend_holds (storable : ∀ p ∈ payloads, Storable p) (holds : Holds payloads file)
    (notEmpty : payload ≠ []) (fits : payload.length ≤ store.maxRecordBytes) :
    if payload.length < 2 ^ 32 then
      store.prepareAppend payload file = .ok (recordBytes payload)
        (some (written (withinLimit store.maxRecordBytes payloads)))
    else ∃ e, store.prepareAppend payload file = .error e
        (some (written (withinLimit store.maxRecordBytes payloads))) := by
  have repaired : (file.map fun _ => written (withinLimit store.maxRecordBytes payloads)).getD [] =
      written (withinLimit store.maxRecordBytes payloads) := by
    rcases holds with ⟨rfl, rfl⟩ | ⟨torn, -, rfl⟩
    · rfl
    · rfl
  have reaches : store.prepareAppend payload file =
      (do let header ← liftRaises (packRawHeader payload); pure (header ++ payload) :
        RawProgram Bytes) (some (written (withinLimit store.maxRecordBytes payloads))) := by
    unfold RawSegmentStore.prepareAppend
    rw [if_neg notEmpty, if_neg (not_lt.mpr fits),
      bind_of_ok (scan_repair_holds store storable holds), modify_bind, repaired]
  rw [reaches]
  unfold packRawHeader
  split
  · rfl
  · exact ⟨_, rfl⟩

end Append

/-! ## The condition -/

variable {path : Text}

/-- **What is acknowledged stays readable, and what is completed is found.** -/
structure RawRun.Intact (path : Text) (run : RawRun) : Prop where
  readable : ∀ entry ∈ run.acknowledged, ∀ limit,
    (RawRun.storeOf path limit).read entry.1 run.file = .ok entry.2
  kept : ∀ entry ∈ run.acknowledged, entry.1.stop ≤ (run.file.getD []).length
  /-- By a store with room for every record. -/
  found : ∀ limit : ℕ+, Room limit run.completed →
    ∃ file, (RawRun.storeOf path limit).scan true none run.file =
      .ok (recordsAt path 0 run.completed) file

/-- What an operation keeps. -/
structure RawRun.Preserved (path : Text) (run : RawRun) (op : RawOp) : Prop where
  intact : ((rawMachine path).step run op).1.Intact path
  /-- A scan that repairs the file returns the records that were completed. -/
  returned : ∀ limit, op = .scan limit true none →
    ∃ file, (RawRun.storeOf path limit).scan true none run.file =
      .ok (recordsAt path 0 run.completed) file

/-- **The condition under which an operation loses nothing**: a store that repairs the file has
room for every record, and a committed offset is behind every acknowledged one. -/
def RawOp.Respects (path : Text) (run : RawRun) : RawOp → Prop
  | .append limit payload | .crash limit payload _ =>
      payload = [] ∨ limit < payload.length ∨ Room limit run.completed
  | .scan _ false _ => True
  | .scan limit true none => Room limit run.completed
  | .scan limit true (some stop) => ∀ data, run.file = some data →
      (RawSegmentStore.repairPlan ((RawRun.storeOf path limit).scanFile data)
        (some stop)).isOk = true → ∀ entry ∈ run.acknowledged, entry.1.stop ≤ stop

/-- The invariant of a run that loses nothing. -/
structure RawRun.Sound (path : Text) (run : RawRun) : Prop where
  storable : ∀ payload ∈ run.completed, Storable payload
  holds : Holds run.completed run.file
  acknowledged : ∀ entry ∈ run.acknowledged, ∃ before after,
    run.completed = before ++ entry.2 :: after ∧
      entry.1 = RawRecord.of path (written before).length entry.2

namespace RawRun

theorem sound_start : Sound path ⟨none, [], []⟩ :=
  ⟨fun _ mem => (List.not_mem_nil mem).elim, .inl ⟨rfl, rfl⟩,
    fun _ mem => (List.not_mem_nil mem).elim⟩

/-- In such a state a store with room for every record finds them. -/
theorem Sound.found {run : RawRun} (sound : run.Sound path) {limit : ℕ+}
    (room : Room limit run.completed) :
    ∃ file, (storeOf path limit).scan true none run.file =
      .ok (recordsAt path 0 run.completed) file := by
  have repaired := scan_repair_holds (storeOf path limit) sound.storable sound.holds
  rw [show (storeOf path limit).maxRecordBytes = (limit : ℕ) from rfl,
    withinLimit_eq_self_iff.mpr room] at repaired
  exact ⟨_, repaired⟩

theorem Sound.intact {run : RawRun} (sound : run.Sound path) : run.Intact path := by
  have placed : ∀ entry ∈ run.acknowledged, ∃ before behind, Storable entry.2 ∧
      run.file = some (written before ++ (recordBytes entry.2 ++ behind)) ∧
      entry.1 = RawRecord.of path (written before).length entry.2 := by
    intro entry mem
    obtain ⟨before, after, completed, record⟩ := sound.acknowledged entry mem
    have storable : Storable entry.2 :=
      sound.storable entry.2 (completed ▸ List.mem_append_right _ List.mem_cons_self)
    rcases sound.holds with ⟨-, none⟩ | ⟨torn, -, file⟩
    · rw [none] at completed
      exact absurd completed (by simp)
    · refine ⟨before, written after ++ torn, storable, ?_, record⟩
      rw [file, completed, written_append, written_cons, List.append_assoc, List.append_assoc]
  refine ⟨fun entry mem limit => ?_, fun entry mem => ?_, fun limit room => sound.found room⟩
  · obtain ⟨before, behind, storable, file, record⟩ := placed entry mem
    rw [file, record]
    exact read_written (storeOf path limit) storable before behind
  · obtain ⟨before, behind, -, file, record⟩ := placed entry mem
    rw [file, record, stop_of, Option.getD_some, List.length_append, List.length_append,
      length_recordBytes]
    omega

/-- As many records are on disk as were completed. -/
theorem Intact.length_eq {run : RawRun} (intact : run.Intact path) {payloads : List Bytes}
    (storable : ∀ p ∈ payloads, Storable p) (holds : Holds payloads run.file)
    (sub : ∀ p ∈ payloads, p ∈ run.completed) : payloads.length = run.completed.length := by
  obtain ⟨limit, room⟩ : ∃ limit : ℕ+, Room limit run.completed := by
    refine ⟨⟨run.completed.flatten.length + 1, Nat.succ_pos _⟩, fun p mem => ?_⟩
    exact le_trans (List.sublist_flatten_of_mem mem).length_le (Nat.le_succ _)
  obtain ⟨file, found⟩ := intact.found limit room
  rw [scan_repair_holds (storeOf path limit) storable holds,
    show (storeOf path limit).maxRecordBytes = (limit : ℕ) from rfl,
    withinLimit_eq_self_iff.mpr fun p mem => room p (sub p mem)] at found
  injection found with records
  have lengths := congrArg List.length records
  rwa [length_recordsAt, length_recordsAt] at lengths

/-! ## Appends, crashes and repairs -/

/-- What an operation that repairs the file leaves: the records within the store's limit, and
those it adds. -/
structure Grown (path : Text) (limit : ℕ+) (run next : RawRun) (grow : List Bytes) : Prop where
  completed : next.completed = run.completed ++ grow
  storable : ∀ payload ∈ grow, Storable payload
  holds : Holds (withinLimit limit run.completed ++ grow) next.file
  acknowledged : ∀ entry ∈ next.acknowledged, entry ∈ run.acknowledged ∨
    grow = [entry.2] ∧
      entry.1 = RawRecord.of path (written (withinLimit limit run.completed)).length entry.2

namespace Grown

variable {limit : ℕ+} {run next : RawRun} {grow : List Bytes}

/-- With room for every record nothing is lost. -/
theorem sound (grown : Grown path limit run next grow) (before : run.Sound path)
    (room : Room limit run.completed) : next.Sound path := by
  have all : withinLimit limit run.completed = run.completed := withinLimit_eq_self_iff.mpr room
  refine ⟨?_, ?_, ?_⟩
  · intro payload mem
    rw [grown.completed, List.mem_append] at mem
    exact mem.elim (before.storable payload) (grown.storable payload)
  · have holds := grown.holds
    rwa [all, ← grown.completed] at holds
  · intro entry mem
    rcases grown.acknowledged entry mem with old | ⟨new, record⟩
    · obtain ⟨first, after, completed, record⟩ := before.acknowledged entry old
      refine ⟨first, after ++ grow, ?_, record⟩
      rw [grown.completed, completed, List.append_assoc, List.cons_append]
    · refine ⟨run.completed, [], ?_, ?_⟩
      · rw [grown.completed, new]
      · rwa [all] at record

/-- **Nothing is lost exactly if the store has room for every record.** -/
theorem intact_iff (grown : Grown path limit run next grow) (before : run.Sound path) :
    next.Intact path ↔ Room limit run.completed := by
  constructor
  · intro intact
    have storable : ∀ payload ∈ withinLimit limit run.completed ++ grow, Storable payload :=
      fun payload mem => (List.mem_append.mp mem).elim
        (fun old => before.storable payload (mem_of_mem_withinLimit old)) (grown.storable payload)
    have same := intact.length_eq storable grown.holds fun payload mem => by
      rw [grown.completed]
      exact List.mem_append.mpr ((List.mem_append.mp mem).imp_left mem_of_mem_withinLimit)
    rw [grown.completed, List.length_append, List.length_append] at same
    exact length_withinLimit_eq_iff.mp (Nat.add_right_cancel same)
  · intro room
    exact (grown.sound before room).intact

end Grown

variable {run : RawRun}

/-- An append that is refused before it touches the file. -/
theorem append_refused {limit : ℕ+} {payload : Bytes}
    (refused : payload = [] ∨ limit < payload.length) : run.append path limit payload = run := by
  obtain ⟨e, prepared⟩ := prepareAppend_refused (storeOf path limit) run.file refused
  unfold append RawSegmentStore.append
  rw [bind_of_error prepared]

theorem crash_refused {limit : ℕ+} {payload : Bytes} {cut : ℕ}
    (refused : payload = [] ∨ limit < payload.length) :
    run.crash path limit payload cut = run := by
  obtain ⟨e, prepared⟩ := prepareAppend_refused (storeOf path limit) run.file refused
  unfold crash RawSegmentStore.crashedAppend
  rw [bind_of_error prepared]

/-- An append that fails after its repair. -/
theorem grown_repaired (limit : ℕ+) : Grown path limit run
    { run with file := some (written (withinLimit limit run.completed)) } [] where
  completed := (List.append_nil _).symm
  storable := fun _ mem => (List.not_mem_nil mem).elim
  holds := by
    rw [List.append_nil]
    exact holds_written _
  acknowledged := fun _ mem => .inl mem

theorem append_grown (sound : run.Sound path) {limit : ℕ+} {payload : Bytes}
    (accepted : ¬(payload = [] ∨ limit < payload.length)) :
    ∃ grow, Grown path limit run (run.append path limit payload) grow := by
  rw [not_or, not_lt] at accepted
  have prepared := prepareAppend_holds (storeOf path limit) sound.storable sound.holds
    accepted.1 accepted.2
  unfold append RawSegmentStore.append
  split at prepared
  · rename_i short
    rw [bind_of_ok prepared]
    refine ⟨[payload], rfl, ?_, ?_, ?_⟩
    · intro other mem
      rw [List.mem_singleton.mp mem]
      exact ⟨accepted.1, short⟩
    · have holds := holds_written (withinLimit limit run.completed ++ [payload])
      rwa [written_append, show written [payload] = recordBytes payload from
        List.append_nil _] at holds
    · intro entry mem
      rcases List.mem_append.mp mem with old | new
      · exact .inl old
      · rw [List.mem_singleton.mp new]
        exact .inr ⟨rfl, rfl⟩
  · obtain ⟨e, prepared⟩ := prepared
    rw [bind_of_error prepared]
    exact ⟨[], grown_repaired limit⟩

theorem crash_grown (cut : ℕ) (sound : run.Sound path) {limit : ℕ+} {payload : Bytes}
    (accepted : ¬(payload = [] ∨ limit < payload.length)) :
    ∃ grow, Grown path limit run (run.crash path limit payload cut) grow := by
  rw [not_or, not_lt] at accepted
  have prepared := prepareAppend_holds (storeOf path limit) sound.storable sound.holds
    accepted.1 accepted.2
  unfold crash RawSegmentStore.crashedAppend
  split at prepared
  · rename_i short
    rw [bind_of_ok prepared]
    have storable : Storable payload := ⟨accepted.1, short⟩
    by_cases whole : (recordBytes payload).length ≤ cut
    · refine ⟨[payload], ?_, ?_, ?_, fun entry mem => .inl mem⟩
      · exact if_pos (decide_eq_true whole)
      · intro other mem
        rw [List.mem_singleton.mp mem]
        exact storable
      · have holds := holds_written (withinLimit limit run.completed ++ [payload])
        rw [written_append, show written [payload] = recordBytes payload from
          List.append_nil _, ← List.take_of_length_le whole] at holds
        exact holds
    · refine ⟨[], ?_, fun _ mem => (List.not_mem_nil mem).elim, ?_, fun entry mem => .inl mem⟩
      · rw [List.append_nil]
        exact if_neg (by rwa [decide_eq_true_eq])
      · rw [List.append_nil]
        refine .inr ⟨(recordBytes payload).take cut, ⟨payload, cut, storable, rfl, ?_⟩, rfl⟩
        rw [List.length_take]
        omega
  · obtain ⟨e, prepared⟩ := prepared
    rw [bind_of_error prepared]
    exact ⟨[], grown_repaired limit⟩

theorem repair_grown (sound : run.Sound path) (limit : ℕ+) :
    Grown path limit run (run.scan path limit true none) [] := by
  unfold scan
  rw [scan_repair_holds (storeOf path limit) sound.storable sound.holds]
  refine ⟨(List.append_nil _).symm, fun _ mem => (List.not_mem_nil mem).elim, ?_,
    fun entry mem => .inl mem⟩
  rw [List.append_nil]
  rcases sound.holds with ⟨noFile, none⟩ | ⟨torn, -, file⟩
  · rw [noFile, none]
    exact .inl ⟨rfl, rfl⟩
  · rw [file]
    exact holds_written _

/-- A scan without a repair changes nothing. -/
theorem scan_noRepair (limit : ℕ+) (committedOffset : Option ℕ) :
    run.scan path limit false committedOffset = run := by
  have kept : finalState ((storeOf path limit).scan false committedOffset run.file) = run.file := by
    unfold RawSegmentStore.scan
    rw [get_bind]
    cases file : run.file with
    | none => rfl
    | some data =>
        dsimp only
        cases plan : RawSegmentStore.repairPlan ((storeOf path limit).scanFile data)
          committedOffset with
        | error e => rfl
        | ok found => rfl
  unfold scan
  cases result : (storeOf path limit).scan false committedOffset run.file with
  | error e file =>
      rw [result] at kept
      rw [show file = run.file from kept]
  | ok records file =>
      rw [result] at kept
      rw [show file = run.file from kept]

/-! ## Repairs at a committed offset -/

/-- A record boundary is the end of the first records. -/
theorem exists_first_of_boundary {path : Text} {offset stop : ℕ} {payloads : List Bytes}
    (boundary : stop = offset ∨ stop ∈ (recordsAt path offset payloads).map RawRecord.stop) :
    ∃ first rest, payloads = first ++ rest ∧ stop = offset + (written first).length := by
  rcases boundary with rfl | mem
  · exact ⟨[], payloads, rfl, rfl⟩
  · induction payloads generalizing offset with
    | nil => exact (List.not_mem_nil mem).elim
    | cons payload rest ih =>
        rw [recordsAt, List.map_cons, List.mem_cons, stop_of] at mem
        rcases mem with rfl | later
        · refine ⟨[payload], rest, rfl, ?_⟩
          rw [written_cons, List.length_append, length_recordBytes]
          rfl
        · obtain ⟨first, last, rfl, rfl⟩ := ih later
          refine ⟨payload :: first, last, rfl, ?_⟩
          rw [written_cons, List.length_append, length_recordBytes]
          omega

/-- The payloads up to the end of the first records. -/
theorem payloadsUpTo_written (offset : ℕ) (first rest : List Bytes) :
    payloadsUpTo (offset + (written first).length) offset (first ++ rest) = first := by
  induction first generalizing offset with
  | nil =>
      cases rest with
      | nil => rfl
      | cons payload rest =>
          have size : rawHeaderSize = 16 := rfl
          rw [show written [] = [] from rfl, List.length_nil, List.nil_append, payloadsUpTo]
          exact if_neg (by omega)
  | cons payload first ih =>
      have later := ih (offset + (rawHeaderSize + payload.length))
      have same : offset + (written (payload :: first)).length =
          offset + (rawHeaderSize + payload.length) + (written first).length := by
        rw [written_cons, List.length_append, length_recordBytes]
        omega
      rw [same, List.cons_append, payloadsUpTo, if_pos (Nat.le_add_right _ _), later]

/-- A record that ends within the first records is one of them. -/
theorem exists_eq_append_of_stop_le {before after first rest : List Bytes} {payload : Bytes}
    (same : before ++ payload :: after = first ++ rest)
    (within : (written before).length + (rawHeaderSize + payload.length) ≤
      (written first).length) : ∃ behind, first = before ++ payload :: behind := by
  have size : rawHeaderSize = 16 := rfl
  rcases List.append_eq_append_iff.mp same with ⟨behind, rfl, rest⟩ | ⟨behind, rfl, -⟩
  · cases behind with
    | nil =>
        rw [List.append_nil] at within
        omega
    | cons other behind =>
        rw [List.cons_append] at rest
        injection rest with head
        exact ⟨behind, by rw [head]⟩
  · rw [written_append, List.length_append] at within
    omega

/-- What a repair at a committed offset keeps. -/
theorem repairPlan_some {found plan : List RawRecord × ℕ} {stop : ℕ}
    (ok : RawSegmentStore.repairPlan found (some stop) = .ok plan) :
    plan.2 = stop ∧ (stop = found.2 ∨ stop = 0 ∨ stop ∈ found.1.map RawRecord.stop) := by
  change (if stop > found.2 then _ else if stop < found.2 then
    if stop ∉ found.1.map RawRecord.stop ∧ stop ≠ 0 then _ else
      Except.ok (found.1.filter fun record => record.stop ≤ stop, stop)
    else Except.ok found) = Except.ok plan at ok
  by_cases beyond : stop > found.2
  · rw [if_pos beyond] at ok
    cases ok
  · rw [if_neg beyond] at ok
    by_cases before : stop < found.2
    · rw [if_pos before] at ok
      by_cases boundary : stop ∉ found.1.map RawRecord.stop ∧ stop ≠ 0
      · rw [if_pos boundary] at ok
        cases ok
      · rw [if_neg boundary] at ok
        cases ok
        rw [not_and_or, not_not, not_not] at boundary
        exact ⟨rfl, .inr boundary.symm⟩
    · rw [if_neg before] at ok
      cases ok
      have same : stop = found.2 := by omega
      exact ⟨same.symm, .inl same⟩

/-- **A repair at a committed offset keeps the records before it.** -/
theorem committedRepair_sound_iff (sound : run.Sound path) (limit : ℕ+) (stop : ℕ) :
    ((run.scan path limit true (some stop)).Intact path ↔
      RawOp.Respects path run (.scan limit true (some stop))) ∧
    (RawOp.Respects path run (.scan limit true (some stop)) →
      (run.scan path limit true (some stop)).Sound path) := by
  suffices split : (RawOp.Respects path run (.scan limit true (some stop)) →
      (run.scan path limit true (some stop)).Sound path) ∧
      ((run.scan path limit true (some stop)).Intact path →
        RawOp.Respects path run (.scan limit true (some stop))) from
    ⟨⟨split.2, fun respects => (split.1 respects).intact⟩, split.1⟩
  rcases sound.holds with ⟨noFile, none⟩ | ⟨torn, hTorn, file⟩
  · have unchanged : run.scan path limit true (some stop) = run := by
      unfold scan RawSegmentStore.scan
      rw [noFile, none]
      change (⟨Option.none, [], run.acknowledged⟩ : RawRun) = run
      rw [← noFile, ← none]
    rw [unchanged]
    refine ⟨fun _ => sound, fun _ data some => ?_⟩
    rw [noFile] at some
    cases some
  have scanned := scanFile_written (storeOf path limit) hTorn sound.storable
  cases plan : RawSegmentStore.repairPlan
    ((storeOf path limit).scanFile (written run.completed ++ torn)) (some stop) with
  | error e =>
      have unchanged : run.scan path limit true (some stop) = run := by
        unfold scan RawSegmentStore.scan
        rw [get_bind, file]
        dsimp only
        rw [plan]
        change (⟨some (written run.completed ++ torn), run.completed, run.acknowledged⟩ : RawRun) =
          run
        rw [← file]
      rw [unchanged]
      refine ⟨fun _ => sound, fun _ data some ok => ?_⟩
      rw [file] at some
      cases some
      rw [plan] at ok
      cases ok
  | ok kept =>
      obtain ⟨cut, boundary⟩ := repairPlan_some plan
      rw [scanned] at boundary
      obtain ⟨first, rest, completed, stopEq⟩ : ∃ first rest, run.completed = first ++ rest ∧
          stop = (written first).length := by
        have whole := List.takeWhile_append_dropWhile (p := fun payload : Bytes =>
          decide (payload.length ≤ (limit : ℕ))) (l := run.completed)
        rcases boundary with all | boundary
        · exact ⟨_, _, whole.symm, all⟩
        · obtain ⟨first, rest, within, stopEq⟩ := exists_first_of_boundary boundary
          refine ⟨first, rest ++ run.completed.dropWhile fun payload : Bytes =>
            decide (payload.length ≤ (limit : ℕ)), ?_, stopEq.trans (Nat.zero_add _)⟩
          rw [← List.append_assoc, ← within]
          exact whole.symm
      have next : run.scan path limit true (some stop) =
          ⟨some (written first), first, run.acknowledged⟩ := by
        unfold scan RawSegmentStore.scan
        rw [get_bind, file]
        dsimp only
        rw [plan]
        change (⟨some ((written run.completed ++ torn).take kept.2),
          payloadsUpTo stop 0 run.completed, run.acknowledged⟩ : RawRun) = _
        have upTo := payloadsUpTo_written 0 first rest
        rw [Nat.zero_add] at upTo
        rw [cut, stopEq, completed, upTo, written_append, List.append_assoc,
          List.take_left' rfl]
      rw [next]
      constructor
      · intro respects
        have before := respects _ file (by rw [plan]; rfl)
        refine ⟨fun p mem => sound.storable p ?_, holds_written first, fun entry mem => ?_⟩
        · rw [completed]
          exact List.mem_append_left _ mem
        · obtain ⟨older, after, places, record⟩ := sound.acknowledged entry mem
          have within := before entry mem
          rw [record, stop_of, stopEq] at within
          obtain ⟨behind, same⟩ := exists_eq_append_of_stop_le (places.symm.trans completed) within
          exact ⟨older, behind, same, record⟩
      · intro intact data _ _ entry mem
        rw [stopEq]
        exact intact.kept entry mem

/-! ## Every run -/

/-- **An operation loses nothing exactly if it meets the condition.** -/
theorem preserved_iff (sound : run.Sound path) (op : RawOp) :
    (Preserved path run op ↔ op.Respects path run) ∧
      (op.Respects path run → ((rawMachine path).step run op).1.Sound path) := by
  suffices split : (op.Respects path run → ((rawMachine path).step run op).1.Sound path) ∧
      (((rawMachine path).step run op).1.Intact path → op.Respects path run) by
    refine ⟨⟨fun preserved => split.2 preserved.intact, fun respects => ?_⟩, split.1⟩
    refine ⟨(split.1 respects).intact, ?_⟩
    rintro limit rfl
    exact sound.found respects
  cases op with
  | append limit payload =>
      by_cases refused : payload = [] ∨ limit < payload.length
      · have same : ((rawMachine path).step run (.append limit payload)).1 = run :=
          append_refused refused
        rw [same]
        exact ⟨fun _ => sound, fun _ => or_assoc.mp (.inl refused)⟩
      · obtain ⟨grow, grown⟩ := append_grown sound refused
        have room : RawOp.Respects path run (.append limit payload) ↔
            Room limit run.completed :=
          ⟨fun respects => (or_assoc.mpr respects).resolve_left refused, fun room => .inr (.inr room)⟩
        rw [room]
        exact ⟨grown.sound sound, (grown.intact_iff sound).mp⟩
  | crash limit payload cut =>
      by_cases refused : payload = [] ∨ limit < payload.length
      · have same : ((rawMachine path).step run (.crash limit payload cut)).1 = run :=
          crash_refused refused
        rw [same]
        exact ⟨fun _ => sound, fun _ => or_assoc.mp (.inl refused)⟩
      · obtain ⟨grow, grown⟩ := crash_grown cut sound refused
        have room : RawOp.Respects path run (.crash limit payload cut) ↔
            Room limit run.completed :=
          ⟨fun respects => (or_assoc.mpr respects).resolve_left refused, fun room => .inr (.inr room)⟩
        rw [room]
        exact ⟨grown.sound sound, (grown.intact_iff sound).mp⟩
  | scan limit repair committedOffset =>
      cases repair with
      | false =>
          have same : ((rawMachine path).step run (.scan limit false committedOffset)).1 = run :=
            scan_noRepair limit committedOffset
          rw [same]
          exact ⟨fun _ => sound, fun _ => trivial⟩
      | true =>
          cases committedOffset with
          | none =>
              have grown := repair_grown sound limit
              exact ⟨grown.sound sound, (grown.intact_iff sound).mp⟩
          | some stop =>
              have repaired := committedRepair_sound_iff sound limit stop
              exact ⟨repaired.2, repaired.1.mp⟩

end RawRun

/-- **A run of stores on a file loses nothing exactly if every operation meets the
condition.** -/
theorem preserved_iff_respects (path : Text) (ops : List RawOp) :
    (rawMachine path).AllSteps (RawRun.Preserved path) ⟨none, [], []⟩ ops ↔
      (rawMachine path).AllSteps (fun run op => op.Respects path run) ⟨none, [], []⟩ ops :=
  (rawMachine path).allSteps_iff_of_invariant (RawRun.Sound path)
    (fun _ op sound => (RawRun.preserved_iff sound op).1)
    (fun _ op sound => (RawRun.preserved_iff sound op).2) RawRun.sound_start ops

/-- A record of two bytes is cut off by the append of a store whose records have one. -/
theorem not_preserved_of_smallerLimit :
    ¬(rawMachine (Text.ofString "f")).AllSteps (RawRun.Preserved (Text.ofString "f"))
      ⟨none, [], []⟩ [.append 2 [7, 7], .append 1 [7]] := by
  rintro ⟨-, second, -⟩
  have start : RawRun.Sound (Text.ofString "f") ⟨none, [], []⟩ := RawRun.sound_start
  have sound := (RawRun.preserved_iff start (.append 2 [7, 7])).2
    (.inr (.inr fun _ mem => (List.not_mem_nil mem).elim))
  rcases (RawRun.preserved_iff sound (.append 1 [7])).1.mp second with empty | large | room
  · cases empty
  · exact absurd large (by decide)
  · exact absurd (room [7, 7] (by decide)) (by decide)

end CubeNano

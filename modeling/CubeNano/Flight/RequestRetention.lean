import CubeNano.Flight.JournalFrames
import CubeNano.Lib.Intervals
import CubeNano.Lib.Machine
import CubeNano.Protocol.PyNumbers
import Mathlib.Data.List.Fold

/-!
# Retired requests

`compact_request` of `flight/journal.py` deletes the full record of a request and keeps its
identifier in a range of retired ones.  `record_command` does not look at these ranges.

## Main definitions

* `SatelliteJournal.compactRequest`, `retire`
* `RetentionCall`, `requestRetentionMachine` — the calls of `record_command` and `compact_request`
* `fullRecord`, `Compacted` — what a run has recorded and compacted
* `RetentionHolds` — the ranges and the answers of `lookup_request` after a run

## Main statements

* `perm_retire` — retiring a request absorbs one identifier into the ranges of its ground
* `retentionHolds` — the ranges are those of the compacted requests, and no request is new again
-/

namespace CubeNano

/-! ## `compact_request` -/

/-- The states that may be compacted. -/
def RecordState.terminal : RecordState → Bool
  | .executed | .dispatched | .commandRejected | .executionFailed => true
  | .other _ => false

namespace SatelliteJournal

/-- Whether the job of a dispatched request and its product are done. -/
def jobDone (j : SatelliteJournal) (key : RequestKey) : Bool :=
  match j.getJob key with
  | none => false
  | some job =>
      job.state.terminal &&
        (j.getProduct job.productRef).any fun row => row.state = .ready || row.state = .failed

/-- Whether the transfer of a dispatched request is done. -/
def transferDone (j : SatelliteJournal) (result : PyDict) : Raises Bool := do
  let transferId ← intOf ((dictGet? result "transfer_id").getD (.int (-1)))
  let _ ← bindColumn (.int transferId)
  .ok (j.transfers.rows.any fun entry => entry.1.val = transferId &&
    match entry.2.state with
    | .of state => state.terminal
    | .queued => false)

/-- Whether the work of a dispatched request is done. -/
def relatedTerminal (j : SatelliteJournal) (key : RequestKey) (row : CommandRecord) :
    Raises Bool :=
  match row.opcode with
  | .sceneAnalyze | .roiRequest => .ok (j.jobDone key)
  | .productRequestDownlink => j.transferDone row.result
  | _ => .ok false

/-- Whether the work of a terminal request is done. -/
def workDone (j : SatelliteJournal) (key : RequestKey) (row : CommandRecord) : Raises Bool :=
  if row.state = .dispatched then j.relatedTerminal key row else .ok true

end SatelliteJournal

/-- Whether a range overlaps or adjoins a request. -/
def RetiredRange.near (key : RequestKey) (range : RetiredRange) : Bool :=
  range.groundInstanceId = key.groundInstanceId &&
    (key.requestId.val - 1 ≤ range.endRequestId && range.startRequestId ≤ key.requestId.val + 1)

/-- The range of a request and the ranges near it. -/
def retiredSpan (key : RequestKey) (ranges : List RetiredRange) : RetiredRange :=
  let found := ranges.filter (·.near key)
  ⟨key.groundInstanceId,
    found.foldl (fun start range => min start range.startRequestId) key.requestId.val,
    found.foldl (fun end' range => max end' range.endRequestId) key.requestId.val⟩

/-- The part of `compact_request` that retires the identifier. -/
def retire (key : RequestKey) (ranges : List RetiredRange) : Raises (List RetiredRange) :=
  let span := retiredSpan key ranges
  let others := ranges.filter fun range => !range.near key
  if others.any fun range => range.groundInstanceId = span.groundInstanceId &&
      range.startRequestId = span.startRequestId then
    integrityError ("UNIQUE constraint failed: retired_request_ranges.ground_instance_id, " ++
      "retired_request_ranges.start_request_id")
  else .ok (others ++ [span])

/-- `compact_request`. -/
def SatelliteJournal.compactRequest (j : SatelliteJournal) (key : RequestKey) :
    Raises SatelliteJournal :=
  match j.commands.find? key with
  | none => valueError "request is not in the full journal"
  | some row =>
      if row.state.terminal then do
        let done ← j.workDone key row
        if done then do
          let retired ← retire key j.retired
          .ok { j with commands := j.commands.erase key, retired := retired }
        else valueError "dispatched request still has nonterminal related work"
      else valueError "only terminal command records may be compacted"

/-! ## Runs -/

/-- A call that records or compacts a request. -/
inductive RetentionCall
  | recordCommand (key : RequestKey) (opcode : CommandOpcode) (digest : Text) (payload : PyDict)
      (state : RecordState) (result : PyDict)
  | compactRequest (key : RequestKey)

/-- One call. -/
def RetentionCall.apply (j : SatelliteJournal) : RetentionCall → Raises SatelliteJournal
  | recordCommand key opcode digest payload state result =>
      j.recordCommand key opcode digest payload state result
  | compactRequest key => j.compactRequest key

/-- The journal as a machine of these calls; a call that raises is rolled back. -/
def requestRetentionMachine : Machine SatelliteJournal RetentionCall Bool where
  step j call :=
    match call.apply j with
    | .ok j' => (j', true)
    | .error _ => (j, false)

/-- The calls of a run, with whether they returned. -/
abbrev RetentionLog := List (RetentionCall × Bool)

/-- What a call that returned does to the full record of a request: its digest and result. -/
def recordStep (key : RequestKey) (record : Option (Text × PyDict)) :
    RetentionCall × Bool → Option (Text × PyDict)
  | (.recordCommand key' _ digest _ _ result, true) =>
      if key' = key then some (digest, result) else record
  | (.compactRequest key', true) => if key' = key then none else record
  | _ => record

/-- The full record of a request: recorded and not compacted since. -/
def fullRecord (log : RetentionLog) (key : RequestKey) : Option (Text × PyDict) :=
  log.foldl (recordStep key) none

/-- A request that was compacted. -/
def Compacted (log : RetentionLog) (key : RequestKey) : Prop :=
  (RetentionCall.compactRequest key, true) ∈ log

/-- A request that was recorded. -/
def WasRecorded (log : RetentionLog) (key : RequestKey) : Prop :=
  ∃ opcode digest payload state result,
    (RetentionCall.recordCommand key opcode digest payload state result, true) ∈ log

/-- **The retired ranges and the answers after a run.** -/
structure RetentionHolds (log : RetentionLog) (j : SatelliteJournal) : Prop where
  /-- The ranges of a ground instance are disjoint and do not adjoin. -/
  separated : j.retired.Pairwise fun range range' =>
    range.groundInstanceId = range'.groundInstanceId →
      range.endRequestId + 1 < range'.startRequestId ∨
        range'.endRequestId + 1 < range.startRequestId
  /-- Together they are the compacted requests. -/
  union : ∀ instance' i, (∃ range ∈ j.retired, range.groundInstanceId = instance' ∧
      range.startRequestId ≤ i ∧ i ≤ range.endRequestId) ↔
    ∃ key, Compacted log key ∧ key.groundInstanceId = instance' ∧ key.requestId.val = i
  /-- `RETIRED` answers for the compacted requests without a full record. -/
  retired : ∀ key digest, j.lookupRequest key digest = .retired ↔
    Compacted log key ∧ fullRecord log key = none
  /-- `DUPLICATE` answers for the full record of the digest. -/
  duplicate : ∀ key digest cached, j.lookupRequest key digest = .duplicate cached ↔
    fullRecord log key = some (digest, cached)
  /-- `CONFLICT` answers for the full record of another digest. -/
  conflict : ∀ key digest, j.lookupRequest key digest = .conflict ↔
    ∃ digest' cached, fullRecord log key = some (digest', cached) ∧ digest' ≠ digest
  /-- `NEW` answers for all others. -/
  new : ∀ key digest, j.lookupRequest key digest = .new ↔
    ¬ Compacted log key ∧ fullRecord log key = none
  /-- A recorded request is never new again. -/
  neverNew : ∀ key digest, WasRecorded log key → j.lookupRequest key digest ≠ .new

/-! ## The ranges of one ground instance -/

/-- A range as an interval that does not contain its end. -/
def RetiredRange.interval (range : RetiredRange) : ℕ × ℕ :=
  (range.startRequestId, range.endRequestId + 1)

/-- The intervals of a ground instance. -/
def rangesOf (instance' : U64) (ranges : List RetiredRange) : List (ℕ × ℕ) :=
  (ranges.filter fun range => range.groundInstanceId = instance').map RetiredRange.interval

theorem near_iff (key : RequestKey) (range : RetiredRange) :
    range.near key = (decide (range.groundInstanceId = key.groundInstanceId) &&
      Intervals.touches key.requestId.val (key.requestId.val + 1) range.interval) := by
  unfold RetiredRange.near Intervals.touches RetiredRange.interval
  congr 1
  rw [Bool.eq_iff_iff, Bool.and_eq_true, decide_eq_true_iff, decide_eq_true_iff,
    decide_eq_true_iff]
  omega

/-- The ranges near a request are the touched intervals. -/
theorem map_filter_near (key : RequestKey) (ranges : List RetiredRange) :
    (ranges.filter (·.near key)).map RetiredRange.interval =
      Intervals.touching key.requestId.val (key.requestId.val + 1)
        (rangesOf key.groundInstanceId ranges) := by
  unfold Intervals.touching rangesOf
  rw [List.filter_map, List.filter_filter]
  congr 1
  refine List.filter_congr fun range _ => ?_
  rw [near_iff, Bool.and_comm]
  rfl

theorem rangesOf_filter_near (key : RequestKey) (ranges : List RetiredRange) :
    rangesOf key.groundInstanceId (ranges.filter fun range => !range.near key) =
      (rangesOf key.groundInstanceId ranges).filter fun r =>
        !Intervals.touches key.requestId.val (key.requestId.val + 1) r := by
  unfold rangesOf
  rw [List.filter_map, List.filter_filter, List.filter_filter]
  congr 1
  refine List.filter_congr fun range _ => ?_
  rw [near_iff]
  by_cases own : range.groundInstanceId = key.groundInstanceId <;> simp [own]

theorem rangesOf_filter_near_of_ne {key : RequestKey} {instance' : U64}
    (other : instance' ≠ key.groundInstanceId) (ranges : List RetiredRange) :
    rangesOf instance' (ranges.filter fun range => !range.near key) =
      rangesOf instance' ranges := by
  unfold rangesOf
  rw [List.filter_filter]
  congr 1
  refine List.filter_congr fun range _ => ?_
  by_cases own : range.groundInstanceId = instance'
  · simp [RetiredRange.near, own, other]
  · simp [own]

/-- The range that takes the place of the ranges near a request. -/
theorem interval_retiredSpan (key : RequestKey) (ranges : List RetiredRange) :
    (retiredSpan key ranges).interval =
      (Intervals.spanStart key.requestId.val (Intervals.touching key.requestId.val
          (key.requestId.val + 1) (rangesOf key.groundInstanceId ranges)),
        Intervals.spanEnd (key.requestId.val + 1) (Intervals.touching key.requestId.val
          (key.requestId.val + 1) (rangesOf key.groundInstanceId ranges))) := by
  rw [← map_filter_near]
  generalize found : ranges.filter (·.near key) = near
  have start : ∀ first, near.foldl (fun start range => min start range.startRequestId) first =
      Intervals.spanStart first (near.map RetiredRange.interval) := by
    intro first
    unfold Intervals.spanStart
    rw [List.map_map, ← List.foldl_eq_foldr, List.foldl_map]
    rfl
  have end' : ∀ last, near.foldl (fun end' range => max end' range.endRequestId) last + 1 =
      Intervals.spanEnd (last + 1) (near.map RetiredRange.interval) := by
    intro last
    unfold Intervals.spanEnd
    rw [List.map_map, ← List.foldl_eq_foldr, List.foldl_map]
    clear found start
    induction near generalizing last with
    | nil => rfl
    | cons range rest ih =>
        rw [List.foldl_cons, List.foldl_cons, ih, ← Nat.add_max_add_right]
        rfl
  unfold retiredSpan
  rw [← start, ← end', found]
  rfl

/-- **Retiring a request absorbs its identifier** into the ranges of its ground instance. -/
theorem perm_retire {key : RequestKey} {ranges ranges' : List RetiredRange}
    (retired : retire key ranges = .ok ranges') {l : List (ℕ × ℕ)}
    (perm : (rangesOf key.groundInstanceId ranges).Perm l) :
    (rangesOf key.groundInstanceId ranges').Perm
      (Intervals.absorb key.requestId.val (key.requestId.val + 1) l) := by
  dsimp only [retire] at retired
  split at retired
  · cases retired
  cases retired
  have last : rangesOf key.groundInstanceId [retiredSpan key ranges] =
      [(retiredSpan key ranges).interval] := by
    simp [rangesOf, retiredSpan]
  have split : rangesOf key.groundInstanceId
      ((ranges.filter fun range => !range.near key) ++ [retiredSpan key ranges]) =
      rangesOf key.groundInstanceId (ranges.filter fun range => !range.near key) ++
        [(retiredSpan key ranges).interval] := by
    rw [← last]
    unfold rangesOf
    rw [List.filter_append, List.map_append]
  have touched := perm.filter (Intervals.touches key.requestId.val (key.requestId.val + 1))
  have span : (retiredSpan key ranges).interval =
      (Intervals.spanStart key.requestId.val
          (Intervals.touching key.requestId.val (key.requestId.val + 1) l),
        Intervals.spanEnd (key.requestId.val + 1)
          (Intervals.touching key.requestId.val (key.requestId.val + 1) l)) := by
    rw [interval_retiredSpan]
    unfold Intervals.spanStart Intervals.spanEnd Intervals.touching
    rw [(touched.map Prod.fst).foldr_eq, (touched.map Prod.snd).foldr_eq]
  rw [split, rangesOf_filter_near, span]
  refine List.perm_append_comm.trans ?_
  exact ((perm.filter _).cons _).trans (Intervals.perm_insertRow _ _).symm

/-- The ranges of other ground instances stay. -/
theorem rangesOf_retire_of_ne {key : RequestKey} {ranges ranges' : List RetiredRange}
    (retired : retire key ranges = .ok ranges') {instance' : U64}
    (other : instance' ≠ key.groundInstanceId) :
    rangesOf instance' ranges' = rangesOf instance' ranges := by
  dsimp only [retire] at retired
  split at retired
  · cases retired
  cases retired
  have foreign : rangesOf instance' [retiredSpan key ranges] = [] := by
    simp [rangesOf, retiredSpan, other.symm]
  have split : rangesOf instance'
      ((ranges.filter fun range => !range.near key) ++ [retiredSpan key ranges]) =
      rangesOf instance' (ranges.filter fun range => !range.near key) ++
        rangesOf instance' [retiredSpan key ranges] := by
    unfold rangesOf
    rw [List.filter_append, List.map_append]
  rw [split, foreign, List.append_nil, rangesOf_filter_near_of_ne other]

/-! ## The invariant -/

/-- What the journal holds of a run. -/
structure Retained (log : RetentionLog) (j : SatelliteJournal) : Prop where
  records : ∀ key, (j.commands.find? key).map (fun row => (row.digest, row.result)) =
    fullRecord log key
  ranges : ∀ instance', ∃ l, (rangesOf instance' j.retired).Perm l ∧ Intervals.Separated l ∧
    Intervals.Proper l ∧ ∀ i, Intervals.Covers l i ↔
      ∃ key, Compacted log key ∧ key.groundInstanceId = instance' ∧ key.requestId.val = i
  known : ∀ key, WasRecorded log key → Compacted log key ∨ fullRecord log key ≠ none

theorem fullRecord_concat (log : RetentionLog) (entry : RetentionCall × Bool) (key : RequestKey) :
    fullRecord (log ++ [entry]) key = recordStep key (fullRecord log key) entry := by
  unfold fullRecord
  rw [List.foldl_append]
  rfl

theorem compacted_concat (log : RetentionLog) (entry : RetentionCall × Bool) (key : RequestKey) :
    Compacted (log ++ [entry]) key ↔ Compacted log key ∨ entry = (.compactRequest key, true) := by
  unfold Compacted
  rw [List.mem_append, List.mem_singleton, eq_comm (a := entry)]

/-- **Everything a compaction can do.** -/
theorem SatelliteJournal.compactRequest_eq_ok {j j' : SatelliteJournal} {key : RequestKey}
    (compacted : j.compactRequest key = .ok j') :
    ∃ row retired, j.commands.find? key = some row ∧ retire key j.retired = .ok retired ∧
      j' = { j with commands := j.commands.erase key, retired := retired } := by
  unfold SatelliteJournal.compactRequest at compacted
  split at compacted
  · cases compacted
  rename_i row found
  split at compacted
  · obtain ⟨done, -, compacted⟩ := bind_eq_ok_iff.mp compacted
    split at compacted
    · obtain ⟨retired, absorbed, compacted⟩ := bind_eq_ok_iff.mp compacted
      cases compacted
      exact ⟨row, retired, found, absorbed, rfl⟩
    · cases compacted
  · cases compacted

namespace Retained

variable {log : RetentionLog} {j : SatelliteJournal}

/-- A call that is rolled back. -/
theorem rolledBack (retained : Retained log j) (call : RetentionCall) :
    Retained (log ++ [(call, false)]) j := by
  have sameRecords (key : RequestKey) :
      fullRecord (log ++ [(call, false)]) key = fullRecord log key := by
    rw [fullRecord_concat]
    cases call <;> rfl
  have sameCompacted (key : RequestKey) :
      Compacted (log ++ [(call, false)]) key ↔ Compacted log key := by
    rw [compacted_concat]
    exact or_iff_left fun same => by cases (Prod.mk.inj same).2
  refine ⟨fun key => ?_, fun instance' => ?_, fun key recorded => ?_⟩
  · rw [sameRecords]
    exact retained.records key
  · obtain ⟨l, perm, separated, proper, covers⟩ := retained.ranges instance'
    refine ⟨l, perm, separated, proper, fun i => (covers i).trans ?_⟩
    simp only [sameCompacted]
  · obtain ⟨opcode, digest, payload, state, result, mem⟩ := recorded
    rw [sameRecords, sameCompacted]
    refine retained.known key ⟨opcode, digest, payload, state, result, ?_⟩
    rcases List.mem_append.mp mem with old | new
    · exact old
    · cases List.mem_singleton.mp new

/-- A request is recorded. -/
theorem record (retained : Retained log j) {j' : SatelliteJournal} {key : RequestKey}
    {opcode : CommandOpcode} {digest : Text} {payload result : PyDict} {state : RecordState}
    (recorded : j.recordCommand key opcode digest payload state result = .ok j') :
    Retained (log ++ [(.recordCommand key opcode digest payload state result, true)]) j' := by
  obtain ⟨commands, inserted, rfl⟩ := SatelliteJournal.recordCommand_eq_ok recorded
  have nowRecord (key' : RequestKey) :
      fullRecord (log ++ [(.recordCommand key opcode digest payload state result, true)]) key' =
        if key = key' then some (digest, result) else fullRecord log key' :=
    fullRecord_concat log _ key'
  have sameCompacted (key' : RequestKey) :
      Compacted (log ++ [(.recordCommand key opcode digest payload state result, true)]) key' ↔
        Compacted log key' := by
    rw [compacted_concat]
    exact or_iff_left fun same => by cases (Prod.mk.inj same).1
  refine ⟨fun key' => ?_, fun instance' => ?_, fun key' recorded => ?_⟩
  · rw [nowRecord, Table.find?_insert inserted key']
    by_cases same : key' = key
    · subst same
      rw [if_pos rfl, if_pos rfl]
      rfl
    · rw [if_neg same, if_neg (Ne.symm same)]
      exact retained.records key'
  · obtain ⟨l, perm, separated, proper, covers⟩ := retained.ranges instance'
    refine ⟨l, perm, separated, proper, fun i => (covers i).trans ?_⟩
    simp only [sameCompacted]
  · rw [nowRecord, sameCompacted]
    by_cases same : key = key'
    · rw [if_pos same]
      exact .inr (Option.some_ne_none _)
    · rw [if_neg same]
      obtain ⟨opcode', digest', payload', state', result', mem⟩ := recorded
      refine retained.known key' ⟨opcode', digest', payload', state', result', ?_⟩
      rcases List.mem_append.mp mem with old | new
      · exact old
      · cases List.mem_singleton.mp new
        exact (same rfl).elim

/-- A request is compacted. -/
theorem compact (retained : Retained log j) {j' : SatelliteJournal} {key : RequestKey}
    (compacted : j.compactRequest key = .ok j') :
    Retained (log ++ [(.compactRequest key, true)]) j' := by
  obtain ⟨row, retired, found, absorbed, rfl⟩ := SatelliteJournal.compactRequest_eq_ok compacted
  have nowRecord (key' : RequestKey) :
      fullRecord (log ++ [(.compactRequest key, true)]) key' =
        if key = key' then none else fullRecord log key' :=
    fullRecord_concat log _ key'
  have nowCompacted (key' : RequestKey) :
      Compacted (log ++ [(.compactRequest key, true)]) key' ↔ Compacted log key' ∨ key' = key := by
    rw [compacted_concat, Prod.mk.injEq, RetentionCall.compactRequest.injEq, and_iff_left rfl,
      eq_comm]
  refine ⟨fun key' => ?_, fun instance' => ?_, fun key' recorded => ?_⟩
  · rw [nowRecord, Table.find?_erase]
    by_cases same : key' = key
    · rw [if_pos same, if_pos same.symm]
      rfl
    · rw [if_neg same, if_neg (Ne.symm same)]
      exact retained.records key'
  · obtain ⟨l, perm, separated, proper, covers⟩ := retained.ranges instance'
    by_cases own : instance' = key.groundInstanceId
    · subst own
      refine ⟨_, perm_retire absorbed perm,
        Intervals.separated_absorb (Nat.lt_succ_self _) proper separated,
        Intervals.proper_absorb (Nat.lt_succ_self _) proper, fun i => ?_⟩
      rw [Intervals.covers_absorb, covers i]
      constructor
      · rintro (⟨key', before, ofInstance, ofId⟩ | only)
        · exact ⟨key', (nowCompacted key').mpr (.inl before), ofInstance, ofId⟩
        · exact ⟨key, (nowCompacted key).mpr (.inr rfl), rfl, by omega⟩
      · rintro ⟨key', now, ofInstance, ofId⟩
        rcases (nowCompacted key').mp now with before | rfl
        · exact .inl ⟨key', before, ofInstance, ofId⟩
        · exact .inr (by omega)
    · rw [rangesOf_retire_of_ne absorbed own]
      refine ⟨l, perm, separated, proper, fun i => (covers i).trans ?_⟩
      constructor
      · rintro ⟨key', before, ofInstance, ofId⟩
        exact ⟨key', (nowCompacted key').mpr (.inl before), ofInstance, ofId⟩
      · rintro ⟨key', now, ofInstance, ofId⟩
        rcases (nowCompacted key').mp now with before | rfl
        · exact ⟨key', before, ofInstance, ofId⟩
        · exact (own ofInstance.symm).elim
  · rw [nowRecord, nowCompacted]
    by_cases same : key = key'
    · exact .inl (.inr same.symm)
    · rw [if_neg same]
      obtain ⟨opcode, digest, payload, state, result, mem⟩ := recorded
      have before : WasRecorded log key' := by
        refine ⟨opcode, digest, payload, state, result, ?_⟩
        rcases List.mem_append.mp mem with old | new
        · exact old
        · cases List.mem_singleton.mp new
      exact (retained.known key' before).imp_left .inl

/-- **One call keeps the invariant.** -/
theorem step (retained : Retained log j) (call : RetentionCall) :
    Retained (log ++ [(call, (requestRetentionMachine.step j call).2)])
      (requestRetentionMachine.step j call).1 := by
  unfold requestRetentionMachine
  dsimp only
  cases result : call.apply j with
  | error failure => exact retained.rolledBack call
  | ok j' =>
      cases call with
      | recordCommand key opcode digest payload state result' => exact retained.record result
      | compactRequest key => exact retained.compact result

/-- Whether a request is in a retired range. -/
theorem inRange_iff (retained : Retained log j) (instance' : U64) (i : ℕ) :
    (∃ range ∈ j.retired, range.groundInstanceId = instance' ∧
      range.startRequestId ≤ i ∧ i ≤ range.endRequestId) ↔
    ∃ key, Compacted log key ∧ key.groundInstanceId = instance' ∧ key.requestId.val = i := by
  obtain ⟨l, perm, -, -, covers⟩ := retained.ranges instance'
  rw [← covers i]
  constructor
  · rintro ⟨range, mem, ofInstance, lower, upper⟩
    refine ⟨range.interval, perm.subset (List.mem_map_of_mem ?_), lower, Nat.lt_succ_of_le upper⟩
    exact List.mem_filter.mpr ⟨mem, decide_eq_true ofInstance⟩
  · rintro ⟨interval, mem, lower, upper⟩
    obtain ⟨range, inside, rfl⟩ := List.mem_map.mp (perm.mem_iff.mpr mem)
    obtain ⟨mem, ofInstance⟩ := List.mem_filter.mp inside
    exact ⟨range, mem, of_decide_eq_true ofInstance, lower, Nat.le_of_lt_succ upper⟩

/-- Ranges of one ground instance are apart. -/
theorem apart (retained : Retained log j) : j.retired.Pairwise fun range range' =>
    range.groundInstanceId = range'.groundInstanceId →
      range.endRequestId + 1 < range'.startRequestId ∨
        range'.endRequestId + 1 < range.startRequestId := by
  have ofInstance (instance' : U64) :
      (j.retired.filter fun range => range.groundInstanceId = instance').Pairwise
        fun range range' => range.endRequestId + 1 < range'.startRequestId ∨
          range'.endRequestId + 1 < range.startRequestId := by
    obtain ⟨l, perm, separated, -⟩ := retained.ranges instance'
    have apart : l.Pairwise fun r r' => r.2 < r'.1 ∨ r'.2 < r.1 := separated.imp .inl
    rw [← perm.pairwise_iff (fun either => either.symm)] at apart
    exact List.pairwise_map.mp apart
  refine List.pairwise_iff_forall_sublist.mpr fun {range range'} sublist same => ?_
  have inside := (sublist.filter fun other =>
    decide (other.groundInstanceId = range'.groundInstanceId))
  have both : [range, range'].filter
      (fun other => decide (other.groundInstanceId = range'.groundInstanceId)) =
        [range, range'] := by
    simp [same]
  rw [both] at inside
  exact List.pairwise_iff_forall_sublist.mp (ofInstance range'.groundInstanceId) inside

/-- What `lookup_request` answers, by the run. -/
theorem lookupRequest_cases (retained : Retained log j) (key : RequestKey) (digest : Text) :
    (∃ digest' cached, fullRecord log key = some (digest', cached) ∧
      j.lookupRequest key digest = if digest' ≠ digest then .conflict else .duplicate cached) ∨
    (fullRecord log key = none ∧ Compacted log key ∧ j.lookupRequest key digest = .retired) ∨
    (fullRecord log key = none ∧ ¬ Compacted log key ∧ j.lookupRequest key digest = .new) := by
  have record := retained.records key
  unfold SatelliteJournal.lookupRequest
  cases found : j.commands.find? key with
  | some row =>
      rw [found] at record
      exact .inl ⟨row.digest, row.result, record.symm, rfl⟩
  | none =>
      rw [found] at record
      have inRange : (j.retired.any fun range => range.groundInstanceId = key.groundInstanceId ∧
          range.startRequestId ≤ key.requestId.val ∧
            key.requestId.val ≤ range.endRequestId) = true ↔ Compacted log key := by
        rw [List.any_eq_true]
        simp only [decide_eq_true_eq]
        rw [retained.inRange_iff]
        constructor
        · rintro ⟨key', compacted, ofInstance, ofId⟩
          obtain ⟨instance', requestId⟩ := key
          obtain ⟨instance'', requestId'⟩ := key'
          cases ofInstance
          cases Fin.ext ofId
          exact compacted
        · exact fun compacted => ⟨key, compacted, rfl, rfl⟩
      right
      dsimp only
      by_cases compacted : Compacted log key
      · exact .inl ⟨record.symm, compacted, if_pos (inRange.mpr compacted)⟩
      · exact .inr ⟨record.symm, compacted, if_neg fun inside => compacted (inRange.mp inside)⟩

end Retained

/-- The journal without requests. -/
def SatelliteJournal.withoutRequests (j : SatelliteJournal) : SatelliteJournal :=
  { j with commands := .empty, retired := [] }

theorem retained_start (j : SatelliteJournal) : Retained [] j.withoutRequests := by
  refine ⟨fun key => rfl, fun instance' => ⟨[], .refl _, .nil, ?_, fun i => ?_⟩, ?_⟩
  · intro r mem
    cases mem
  · refine iff_of_false (Intervals.covers_nil i) ?_
    rintro ⟨key, compacted, -⟩
    cases compacted
  · rintro key ⟨opcode, digest, payload, state, result, mem⟩
    cases mem

/-- **The ranges are those of the compacted requests, and no request is new again.** -/
theorem retentionHolds (j : SatelliteJournal) (calls : List RetentionCall) :
    RetentionHolds (requestRetentionMachine.log j.withoutRequests calls)
      (requestRetentionMachine.exec j.withoutRequests calls) := by
  have retained := requestRetentionMachine.run_invariant (fun j log => Retained log j)
    (retained_start j) (fun j log call retained => retained.step call) calls
  refine ⟨retained.apart, retained.inRange_iff, ?_, ?_, ?_, ?_, ?_⟩
  · intro key digest
    rcases retained.lookupRequest_cases key digest with
      ⟨digest', cached, full, answer⟩ | ⟨none, compacted, answer⟩ | ⟨none, fresh, answer⟩
    · rw [answer, full]
      by_cases same : digest' = digest <;> simp [same]
    · simp [answer, none, compacted]
    · simp [answer, fresh]
  · intro key digest cached'
    rcases retained.lookupRequest_cases key digest with
      ⟨digest', cached, full, answer⟩ | ⟨none, compacted, answer⟩ | ⟨none, fresh, answer⟩
    · rw [answer, full]
      by_cases same : digest' = digest <;> simp [same]
    · simp [answer, none]
    · simp [answer, none]
  · intro key digest
    rcases retained.lookupRequest_cases key digest with
      ⟨digest', cached, full, answer⟩ | ⟨none, compacted, answer⟩ | ⟨none, fresh, answer⟩
    · rw [answer, full]
      by_cases same : digest' = digest <;> simp [same]
    · simp [answer, none]
    · simp [answer, none]
  · intro key digest
    rcases retained.lookupRequest_cases key digest with
      ⟨digest', cached, full, answer⟩ | ⟨none, compacted, answer⟩ | ⟨none, fresh, answer⟩
    · rw [answer, full]
      by_cases same : digest' = digest <;> simp [same]
    · simp [answer, compacted]
    · simp [answer, none, fresh]
  · intro key digest recorded isNew
    rcases retained.lookupRequest_cases key digest with
      ⟨digest', cached, full, answer⟩ | ⟨none, compacted, answer⟩ | ⟨none, fresh, answer⟩
    · rw [answer] at isNew
      by_cases same : digest' = digest <;> simp [same] at isNew
    · rw [answer] at isNew
      cases isNew
    · rcases retained.known key recorded with compacted | full
      · exact fresh compacted
      · exact full none

/-- Whether `RETIRED` answers exactly for the compacted requests. -/
def RetiredExactly (j : SatelliteJournal) (calls : List RetentionCall) : Prop :=
  ∀ key digest, (requestRetentionMachine.exec j calls).lookupRequest key digest = .retired ↔
    Compacted (requestRetentionMachine.log j calls) key

/-- A compacted request may be recorded again, and then its full record answers. -/
theorem not_retiredExactly_of_recordedAgain : ¬ RetiredExactly SatelliteJournal.initial
    [.recordCommand ⟨1, 0⟩ .jobGetStatus [] [] .executed [], .compactRequest ⟨1, 0⟩,
      .recordCommand ⟨1, 0⟩ .jobGetStatus [] [] .executed []] := by
  intro exactly
  have compacted : Compacted (requestRetentionMachine.log SatelliteJournal.initial
      [.recordCommand ⟨1, 0⟩ .jobGetStatus [] [] .executed [], .compactRequest ⟨1, 0⟩,
        .recordCommand ⟨1, 0⟩ .jobGetStatus [] [] .executed []]) ⟨1, 0⟩ :=
    .tail _ (.head _)
  have answer := (exactly ⟨1, 0⟩ []).mpr compacted
  cases answer

end CubeNano

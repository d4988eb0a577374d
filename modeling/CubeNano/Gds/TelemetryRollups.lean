import CubeNano.Gds.CatalogBundle
import CubeNano.Lib.Machine
import CubeNano.Lib.RunningSummary
import CubeNano.Lib.Table
import CubeNano.Protocol.PyNumbers

/-!
# Telemetry rollups

`TelemetryStore` of `gds/telemetry.py`.  A sample is stored under the key of its frame; a
stored key turns the sample into a duplicate or a conflict.  Every new sample also updates
the rollup of its source, channel and minute.

Numbers are exact, where the code has floats.  The value of a sample stands beside its text in
the table, for the statements.  The audit record of a conflict is left out.

## Main definitions

* `TelemetrySample.normalize`, `TelemetryTables.ingestInTransaction`, `telemetryMachine`
* `RollupRow.Summarises`, `TelemetryTables.Summarised`
* `TelemetryTables.MeanFits` — the mean can be carried on

## Main statements

* `rollupsRight_iff` — the rollups of a run are right exactly when every step meets `MeanFits`
* `ingestBatch_eq_ok` — a batch is its samples, one after another
-/

namespace CubeNano

/-! ## `_json_value` -/

/-- The number of a key. -/
def keyNumber : PyValue → ℚ
  | .int n => n
  | .bool value => if value then 1 else 0
  | .float _ literal =>
      match floatOfLiteral literal with
      | .finite value => value
      | _ => 0
  | _ => 0

/-- Whether `sorted` can compare the keys. -/
def keysSortable (entries : PyDict) : Bool :=
  let isNumber (key : PyValue) : Bool :=
    match key with
    | .int _ => true
    | .bool _ => true
    | .float _ _ => true
    | _ => false
  entries.length ≤ 1 || (entries.all fun entry => entry.1.isStr) ||
    entries.all fun entry => isNumber entry.1

/-- The order of two keys that `sorted` can compare. -/
def keyLe : PyValue → PyValue → Bool
  | .str key, .str key' => Text.le key key'
  | key, key' => keyNumber key ≤ keyNumber key'

/-- A number that `json.dumps(…, allow_nan=False)` writes. -/
def floatText (finite : Bool) (literal : Text) : Raises Text :=
  if finite then .ok literal else valueError "Out of range float values are not JSON compliant"

/-- The text of a key. -/
def keyText : PyValue → Raises Text
  | .str text => .ok text
  | .int n => .ok (intText n)
  | .bool value => .ok (Text.ofString (if value then "true" else "false"))
  | .none => .ok (Text.ofString "null")
  | .float finite literal => floatText finite literal
  | _ => typeError "keys must be str, int, float, bool or None"

mutual

/-- `_json_value`: bytes become their hexadecimal text. -/
def auditText : PyValue → Raises Text
  | .none => .ok (Text.ofString "null")
  | .bool value => .ok (Text.ofString (if value then "true" else "false"))
  | .int n => .ok (intText n)
  | .float finite literal => floatText finite literal
  | .bytes data => .ok (quoteText (hexOfBytes data))
  | .str text => .ok (quoteText text)
  | .list items => do
      let parts ← auditItems items
      .ok (0x5B :: (joinComma parts ++ [0x5D]))
  | .dict entries =>
      if keysSortable entries then do
        let members ← auditEntries entries
        let sorted := members.insertionSort fun m m' => keyLe m.1 m'.1 = true
        .ok (0x7B :: (joinComma (sorted.map Prod.snd) ++ [0x7D]))
      else typeError "'<' not supported between instances of different types"

/-- The items of a list. -/
def auditItems : List PyValue → Raises (List Text)
  | [] => .ok []
  | item :: rest => do
      let part ← auditText item
      let parts ← auditItems rest
      .ok (part :: parts)

/-- The members of an object, each with its key. -/
def auditEntries : List (PyValue × PyValue) → Raises (List (PyValue × Text))
  | [] => .ok []
  | (key, value) :: rest => do
      let name ← keyText key
      let text ← auditText value
      let members ← auditEntries rest
      .ok ((key, quoteText name ++ 0x3A :: text) :: members)

end

/-! ## Samples -/

/-- `TELEMETRY_BUCKET_US`. -/
def telemetryBucketUs : ℕ := 60000000

/-- The directions of the link. -/
inductive TelemetryDirection
  | uplink
  | downlink
  deriving DecidableEq, Repr

/-- `TelemetrySample`, as it is passed in. -/
structure TelemetrySample where
  sourceSpacecraftInstanceId : ℤ
  sourceBootId : ℤ
  simulationRunId : ℤ
  direction : Text
  linkSessionId : ℤ
  linkFrameId : ℤ
  copyIndex : ℤ
  sampleOrdinal : ℤ
  apid : ℤ
  channelId : ℤ
  receivedAtUs : ℤ
  rawValue : Bytes
  decodedValue : PyValue
  satelliteTimeUs : Option ℤ
  sourceRetentionRevision : ℤ

/-- A sample that `_normalize` returned. -/
structure CheckedSample where
  sourceSpacecraftInstanceId : U64
  sourceBootId : U32
  simulationRunId : U64
  direction : TelemetryDirection
  linkSessionId : U64
  linkFrameId : U64
  copyIndex : U32
  sampleOrdinal : U32
  apid : U16
  channelId : U32
  receivedAtUs : ℕ
  rawValue : Bytes
  decodedValue : PyValue
  satelliteTimeUs : Option ℤ
  sourceRetentionRevision : ℕ

/-- `checked_uint`. -/
def checkedUint (bits : ℕ) (value : ℤ) (label : String) : Raises (Fin (2 ^ bits)) :=
  if h : value.toNat < 2 ^ bits ∧ 0 ≤ value then .ok ⟨value.toNat, h.1⟩
  else valueError s!"{label} must be in [0, {2 ^ bits - 1}]"

namespace TelemetrySample

/-- `direction.upper()`, as one of the directions. -/
def direction? (direction : Text) : Option TelemetryDirection :=
  if direction.flatMap upperPoint = Text.ofString "UPLINK" then some .uplink
  else if direction.flatMap upperPoint = Text.ofString "DOWNLINK" then some .downlink
  else none

/-- `isinstance(value, float) and not math.isfinite(value)`. -/
def isSpecialFloat : PyValue → Bool
  | .float finite literal =>
      match floatOfLiteral literal with
      | .finite _ => !finite
      | _ => true
  | _ => false

/-- The checked fields of a sample whose direction, times and values are in order. -/
def checkFields (s : TelemetrySample) (direction : TelemetryDirection) : Raises CheckedSample := do
  let source ← checkedUint 64 s.sourceSpacecraftInstanceId "source_spacecraft_instance_id"
  let boot ← checkedUint 32 s.sourceBootId "source_boot_id"
  let run ← checkedUint 64 s.simulationRunId "simulation_run_id"
  let session ← checkedUint 64 s.linkSessionId "link_session_id"
  let frame ← checkedUint 64 s.linkFrameId "link_frame_id"
  let copy ← checkedUint 32 s.copyIndex "copy_index"
  let ordinal ← checkedUint 32 s.sampleOrdinal "sample_ordinal"
  let apid ← checkedUint 16 s.apid "apid"
  let channel ← checkedUint 32 s.channelId "channel_id"
  .ok ⟨source, boot, run, direction, session, frame, copy, ordinal, apid, channel,
    s.receivedAtUs.toNat, s.rawValue, s.decodedValue, s.satelliteTimeUs,
    s.sourceRetentionRevision.toNat⟩

/-- `_normalize`; of a sample that it returned it returns the same one. -/
def normalize (s : TelemetrySample) : Raises CheckedSample :=
  match direction? s.direction with
  | none => valueError "telemetry direction must be UPLINK or DOWNLINK"
  | some direction =>
      if s.receivedAtUs < 0 ∨ s.sourceRetentionRevision < 0 then
        valueError "telemetry timestamps/revision must be non-negative"
      else if s.rawValue = [] then valueError "telemetry raw_value must not be empty"
      else if isSpecialFloat s.decodedValue then
        valueError "telemetry decoded value must be finite"
      else s.checkFields direction

end TelemetrySample

/-- `TelemetryIngestResult.key`. -/
abbrev SampleKey := U64 × U64 × TelemetryDirection × U64 × U32 × U32

/-- The source, the channel and the start of the minute. -/
abbrev RollupKey := U64 × U32 × ℕ

namespace CheckedSample

/-- `_key`. -/
def key (c : CheckedSample) : SampleKey :=
  (c.sourceSpacecraftInstanceId, c.simulationRunId, c.direction, c.linkFrameId, c.copyIndex,
    c.sampleOrdinal)

/-- The key of the rollup of a sample. -/
def rollupKey (c : CheckedSample) : RollupKey :=
  (c.sourceSpacecraftInstanceId, c.channelId,
    c.receivedAtUs / telemetryBucketUs * telemetryBucketUs)

/-- The number of a sample, if it has one. -/
def numeric? (c : CheckedSample) : Option ℚ :=
  match c.decodedValue with
  | .int n => some n
  | .float _ literal =>
      match floatOfLiteral literal with
      | .finite value => some value
      | _ => none
  | _ => none

/-- `float(sample.decoded_value)` of a number, `None` of anything else. -/
def numeric (c : CheckedSample) : Raises (Option ℚ) :=
  match c.decodedValue with
  | .int n => do
      let _ ← floatOfInt n
      .ok c.numeric?
  | _ => .ok c.numeric?

end CheckedSample

/-! ## The tables -/

/-- A row of `telemetry_samples`: the columns of its sample, with the text of the value and the
digest of the bytes. -/
structure SampleRow where
  sample : CheckedSample
  decodedValueJson : Text
  payloadSha256 : Bytes

/-- A row of `telemetry_rollups`. -/
structure RollupRow where
  sampleCount : ℕ
  minValue : Option ℚ
  maxValue : Option ℚ
  meanValue : Option ℚ
  lastValueJson : Text
  sourceRetentionRevision : ℕ
  deriving DecidableEq

/-- The two tables. -/
structure TelemetryTables where
  samples : Table SampleKey SampleRow
  rollups : Table RollupKey RollupRow

/-- `TelemetryIngestResult`. -/
structure TelemetryIngestResult where
  inserted : Bool
  duplicate : Bool
  key : SampleKey
  deriving DecidableEq

/-- `raise TelemetryConflictError(…)`, a `RuntimeError`. -/
def telemetryConflict {α : Type} : Raises α :=
  .error ⟨.runtimeError, "telemetry dedupe key already contains different bytes"⟩

/-- The binding of an integer to a statement. -/
def checkSqliteInteger (value : ℤ) : Raises Unit :=
  if value < -(2 ^ 63) ∨ 2 ^ 63 ≤ value then
    overflowError "Python int too large to convert to SQLite INTEGER"
  else .ok ()

/-- The first rollup of a minute. -/
def RollupRow.first (numeric : Option ℚ) (decodedJson : Text) (revision : ℕ) : RollupRow :=
  ⟨1, numeric, numeric, numeric, decodedJson, revision⟩

/-- The rollup after one more sample. -/
def RollupRow.next (rollup : RollupRow) (numeric : Option ℚ) (decodedJson : Text)
    (revision : ℕ) : RollupRow where
  sampleCount := rollup.sampleCount + 1
  minValue := numeric.elim rollup.minValue fun v =>
    some (rollup.minValue.elim v fun m => min m v)
  maxValue := numeric.elim rollup.maxValue fun v =>
    some (rollup.maxValue.elim v fun m => max m v)
  meanValue := numeric.elim rollup.meanValue fun v =>
    some (rollup.meanValue.elim v fun m =>
      (m * rollup.sampleCount + v) / (rollup.sampleCount + 1 : ℕ))
  lastValueJson := decodedJson
  sourceRetentionRevision := max rollup.sourceRetentionRevision revision

namespace TelemetryTables

/-- The tables of a new database. -/
def empty : TelemetryTables := ⟨.empty, .empty⟩

/-- `INSERT INTO telemetry_samples`, with the bounds of its columns. -/
def insertSample (t : TelemetryTables) (c : CheckedSample) (decodedJson : Text) :
    Raises TelemetryTables := do
  checkSqliteInteger (c.satelliteTimeUs.getD 0)
  checkSqliteInteger c.receivedAtUs
  if 2047 < c.apid.val then integrityError "CHECK constraint failed: apid BETWEEN 0 AND 2047"
  else match t.samples.insert c.key ⟨c, decodedJson, sha256 c.rawValue⟩ with
    | none => integrityError "UNIQUE constraint failed: telemetry_samples"
    | some samples => .ok { t with samples }

/-- The rollup of a sample that was stored. -/
def updateRollup (t : TelemetryTables) (c : CheckedSample) (decodedJson : Text) :
    Raises TelemetryTables := do
  let numeric ← c.numeric
  checkSqliteInteger c.sourceRetentionRevision
  let row := (t.rollups.find? c.rollupKey).elim
    (RollupRow.first numeric decodedJson c.sourceRetentionRevision)
    fun rollup => rollup.next numeric decodedJson c.sourceRetentionRevision
  .ok { t with rollups := t.rollups.set c.rollupKey row }

/-- `_ingest_in_transaction`, of a sample that is normalized. -/
def ingestInTransaction (t : TelemetryTables) (c : CheckedSample) :
    Raises (TelemetryIngestResult × TelemetryTables) := do
  let decodedJson ← auditText c.decodedValue
  match t.samples.find? c.key with
  | some existing =>
      if existing.sample.rawValue = c.rawValue ∧ existing.payloadSha256 = sha256 c.rawValue ∧
          existing.decodedValueJson = decodedJson then .ok (⟨false, true, c.key⟩, t)
      else telemetryConflict
  | none => do
      let stored ← t.insertSample c decodedJson
      let rolled ← stored.updateRollup c decodedJson
      .ok (⟨true, false, c.key⟩, rolled)

/-- `ingest`: the sample is normalized inside the transaction. -/
def ingest (t : TelemetryTables) (s : TelemetrySample) :
    Raises (TelemetryIngestResult × TelemetryTables) := do
  let c ← s.normalize
  t.ingestInTransaction c

/-- The samples of a batch, in one transaction. -/
def ingestAll (t : TelemetryTables) :
    List CheckedSample → Raises (List TelemetryIngestResult × TelemetryTables)
  | [] => .ok ([], t)
  | c :: rest => do
      let ingested ← t.ingestInTransaction c
      let others ← ingestAll ingested.2 rest
      .ok (ingested.1 :: others.1, others.2)

/-- `ingest_batch`. -/
def ingestBatch (t : TelemetryTables) (samples : List TelemetrySample) :
    Raises (List TelemetryIngestResult × TelemetryTables) := do
  if 1 ≤ samples.length ∧ samples.length ≤ 100 then do
    let normalized ← samples.mapM TelemetrySample.normalize
    t.ingestAll normalized
  else valueError "telemetry batch must contain 1..100 samples"

end TelemetryTables

/-- The store, fed one sample at a time; a transaction that raises is rolled back. -/
def telemetryMachine : Machine TelemetryTables TelemetrySample (Raises TelemetryIngestResult) where
  step t s :=
    match t.ingest s with
    | .ok (result, ingested) => (ingested, .ok result)
    | .error failure => (t, .error failure)

/-! ## What is claimed -/

/-- A rollup that summarises the values of its samples; `none` is a value that is no number. -/
structure RollupRow.Summarises (row : RollupRow) (values : List (Option ℚ)) : Prop where
  sampleCount : row.sampleCount = values.length
  minValue : row.minValue = values.reduceOption.min?
  maxValue : row.maxValue = values.reduceOption.max?
  meanValue : row.meanValue = mean? values.reduceOption

/-- The sample can be written. -/
structure CheckedSample.Storable (c : CheckedSample) : Prop where
  json : ∃ text, auditText c.decodedValue = .ok text
  satelliteTime : checkSqliteInteger (c.satelliteTimeUs.getD 0) = .ok ()
  receivedAt : checkSqliteInteger c.receivedAtUs = .ok ()
  apid : c.apid.val ≤ 2047
  float : c.numeric = .ok c.numeric?
  revision : checkSqliteInteger c.sourceRetentionRevision = .ok ()

namespace TelemetryTables

/-- The values of the stored samples of a rollup. -/
def bucketValues (t : TelemetryTables) (k : RollupKey) : List (Option ℚ) :=
  (t.samples.rows.filter fun row => row.2.sample.rollupKey = k).map fun row =>
    row.2.sample.numeric?

/-- Every rollup summarises its samples, and no other rollup is there. -/
structure Summarised (t : TelemetryTables) : Prop where
  summarises : ∀ k row, t.rollups.find? k = some row → row.Summarises (t.bucketValues k)
  absent_iff : ∀ k, t.rollups.find? k = none ↔ t.bucketValues k = []

/-- After a sample every rollup is right, and a stored key changed none. -/
structure RollupsRight (t : TelemetryTables) (s : TelemetrySample) : Prop where
  summarised : (telemetryMachine.step t s).1.Summarised
  repeated : ∀ c, s.normalize = .ok c → (t.samples.find? c.key).isSome = true →
    (telemetryMachine.step t s).1.rollups = t.rollups

/-- A new number that comes after a value that is none, and after a number, is the mean. -/
def MeanFits (t : TelemetryTables) (s : TelemetrySample) : Prop :=
  ∀ c v, s.normalize = .ok c → c.Storable → t.samples.find? c.key = none → c.numeric? = some v →
    none ∈ t.bucketValues c.rollupKey →
      ∀ m, mean? (t.bucketValues c.rollupKey).reduceOption = some m → v = m

end TelemetryTables

/-! ## One rollup -/

theorem RollupRow.first_summarises (numeric : Option ℚ) (decodedJson : Text) (revision : ℕ) :
    (first numeric decodedJson revision).Summarises [numeric] := by
  cases numeric with
  | none => exact ⟨rfl, rfl, rfl, rfl⟩
  | some v => exact ⟨rfl, rfl, rfl, (mean?_singleton v).symm⟩

/-- Every value is a number exactly when there are as many numbers as values. -/
theorem length_reduceOption_eq_iff {values : List (Option ℚ)} :
    values.reduceOption.length = values.length ↔ none ∉ values := by
  rw [List.reduceOption_length_eq_iff]
  constructor
  · intro numbers here
    cases numbers none here
  · intro absent value mem
    cases value with
    | none => exact absurd mem absent
    | some _ => rfl

/-- The next rollup is right unless a number joins numbers and other values. -/
theorem RollupRow.Summarises.next_iff {row : RollupRow} {values : List (Option ℚ)}
    (right : row.Summarises values) (numeric : Option ℚ) (decodedJson : Text) (revision : ℕ) :
    (row.next numeric decodedJson revision).Summarises (values ++ [numeric]) ↔
      ∀ v, numeric = some v → none ∈ values → ∀ m, mean? values.reduceOption = some m → v = m := by
  have count : row.sampleCount + 1 = (values ++ [numeric]).length := by
    rw [right.sampleCount, List.length_append, List.length_singleton]
  cases numeric with
  | none =>
      have same : (values ++ [none]).reduceOption = values.reduceOption := by
        rw [List.reduceOption_append]
        exact List.append_nil _
      refine iff_of_true ⟨count, ?_, ?_, ?_⟩ nofun
      · exact right.minValue.trans (congrArg List.min? same.symm)
      · exact right.maxValue.trans (congrArg List.max? same.symm)
      · exact right.meanValue.trans (congrArg mean? same.symm)
  | some v =>
      have longer : (values ++ [some v]).reduceOption = values.reduceOption ++ [v] :=
        List.reduceOption_append ..
      have least : (row.next (some v) decodedJson revision).minValue =
          (values ++ [some v]).reduceOption.min? := by
        rw [longer, min?_concat, ← right.minValue]
        rfl
      have greatest : (row.next (some v) decodedJson revision).maxValue =
          (values ++ [some v]).reduceOption.max? := by
        rw [longer, max?_concat, ← right.maxValue]
        rfl
      -- what is left is the mean
      have onlyMean : (row.next (some v) decodedJson revision).Summarises (values ++ [some v]) ↔
          mean? (values.reduceOption ++ [v]) =
            some (row.meanValue.elim v fun m =>
              (m * row.sampleCount + v) / (row.sampleCount + 1 : ℕ)) := by
        rw [← longer]
        exact ⟨fun summarises => summarises.meanValue.symm,
          fun mean => ⟨count, least, greatest, mean.symm⟩⟩
      rw [onlyMean, right.meanValue, right.sampleCount]
      cases mean : mean? values.reduceOption with
      | none =>
          rw [mean?_eq_none_iff.mp mean]
          exact iff_of_true (mean?_singleton v) nofun
      | some m =>
          have updated := mean?_concat_iff (v := v) mean (List.reduceOption_length_le values)
          rw [length_reduceOption_eq_iff] at updated
          refine updated.trans ?_
          constructor
          · rintro (numbers | same) _ ⟨⟩ here _ ⟨⟩
            · exact absurd here numbers
            · exact same
          · intro fits
            by_cases here : none ∈ values
            · exact .inr (fits v rfl here m rfl)
            · exact .inl here

/-! ## One sample -/

namespace TelemetryTables

variable {t t' : TelemetryTables} {c : CheckedSample}

/-- What a new sample does to both tables. -/
structure Inserted (t : TelemetryTables) (c : CheckedSample) (t' : TelemetryTables) : Prop where
  samples : ∃ row : SampleRow, row.sample = c ∧ t'.samples.rows = t.samples.rows ++ [(c.key, row)]
  rollups : ∃ decodedJson, t'.rollups = t.rollups.set c.rollupKey
    ((t.rollups.find? c.rollupKey).elim
      (.first c.numeric? decodedJson c.sourceRetentionRevision)
      fun rollup => rollup.next c.numeric? decodedJson c.sourceRetentionRevision)

theorem numeric_eq_ok {numeric : Option ℚ} (done : c.numeric = .ok numeric) :
    numeric = c.numeric? := by
  unfold CheckedSample.numeric at done
  split at done
  · obtain ⟨_, -, done⟩ := bind_eq_ok_iff.mp done
    exact (Except.ok.inj done).symm
  · exact (Except.ok.inj done).symm

/-- A sample that is stored under its key changes nothing. -/
theorem ingestInTransaction_stored {result : TelemetryIngestResult}
    (stored : (t.samples.find? c.key).isSome = true)
    (done : t.ingestInTransaction c = .ok (result, t')) : t' = t := by
  obtain ⟨decodedJson, -, done⟩ := bind_eq_ok_iff.mp done
  obtain ⟨existing, found⟩ := Option.isSome_iff_exists.mp stored
  rw [found] at done
  dsimp only at done
  split at done
  · cases done
    rfl
  · cases done

/-- A new sample that is ingested can be written, and is inserted. -/
theorem ingestInTransaction_new {result : TelemetryIngestResult}
    (new : t.samples.find? c.key = none)
    (done : t.ingestInTransaction c = .ok (result, t')) : c.Storable ∧ t.Inserted c t' := by
  obtain ⟨decodedJson, json, done⟩ := bind_eq_ok_iff.mp done
  rw [new] at done
  obtain ⟨stored, insert, done⟩ := bind_eq_ok_iff.mp done
  obtain ⟨rolled, update, done⟩ := bind_eq_ok_iff.mp done
  cases done
  obtain ⟨_, satelliteTime, insert⟩ := bind_eq_ok_iff.mp insert
  obtain ⟨_, receivedAt, insert⟩ := bind_eq_ok_iff.mp insert
  split at insert
  · cases insert
  rename_i apid
  rw [Table.insert_of_fresh _ new] at insert
  cases insert
  obtain ⟨numeric, float, update⟩ := bind_eq_ok_iff.mp update
  obtain ⟨_, revision, update⟩ := bind_eq_ok_iff.mp update
  cases update
  obtain rfl := numeric_eq_ok float
  exact ⟨⟨⟨decodedJson, json⟩, satelliteTime, receivedAt, not_lt.mp apid, float, revision⟩,
    ⟨⟨_, rfl, rfl⟩, ⟨decodedJson, rfl⟩⟩⟩

/-- A new sample that can be written is ingested. -/
theorem exists_ingestInTransaction (new : t.samples.find? c.key = none) (storable : c.Storable) :
    ∃ result t', t.ingestInTransaction c = .ok (result, t') := by
  obtain ⟨⟨decodedJson, json⟩, satelliteTime, receivedAt, apid, float, revision⟩ := storable
  obtain ⟨stored, inserted⟩ : ∃ stored, t.insertSample c decodedJson = .ok stored := by
    unfold insertSample
    rw [satelliteTime, receivedAt, Table.insert_of_fresh _ new]
    exact ⟨_, if_neg (not_lt.mpr apid)⟩
  obtain ⟨rolled, updated⟩ : ∃ rolled, stored.updateRollup c decodedJson = .ok rolled := by
    unfold updateRollup
    rw [float, revision]
    exact ⟨_, rfl⟩
  refine ⟨⟨true, false, c.key⟩, rolled, bind_eq_ok_iff.mpr ⟨decodedJson, json, ?_⟩⟩
  rw [new]
  exact bind_eq_ok_iff.mpr ⟨stored, inserted, bind_eq_ok_iff.mpr ⟨rolled, updated, rfl⟩⟩

theorem Inserted.bucketValues (inserted : t.Inserted c t') (k : RollupKey) :
    t'.bucketValues k =
      t.bucketValues k ++ if c.rollupKey = k then [c.numeric?] else [] := by
  obtain ⟨row, rfl, rows⟩ := inserted.samples
  unfold TelemetryTables.bucketValues
  rw [rows, List.filter_append, List.map_append]
  congr 1
  by_cases same : row.sample.rollupKey = k
  · simp [same]
  · simp [same]

/-- After a new sample the rollups are right exactly when the mean could be carried on. -/
theorem Inserted.summarised_iff (inserted : t.Inserted c t') (right : t.Summarised) :
    t'.Summarised ↔ ∀ v, c.numeric? = some v → none ∈ t.bucketValues c.rollupKey →
      ∀ m, mean? (t.bucketValues c.rollupKey).reduceOption = some m → v = m := by
  obtain ⟨decodedJson, rollups⟩ := inserted.rollups
  have values := inserted.bucketValues
  have other : ∀ k, k ≠ c.rollupKey →
      t'.rollups.find? k = t.rollups.find? k ∧ t'.bucketValues k = t.bucketValues k := by
    intro k different
    rw [rollups, Table.find?_set_of_ne _ _ different, values, if_neg different.symm,
      List.append_nil]
    exact ⟨rfl, rfl⟩
  have here : t'.bucketValues c.rollupKey = t.bucketValues c.rollupKey ++ [c.numeric?] := by
    rw [values, if_pos rfl]
  have stored := congrArg (Table.find? · c.rollupKey) rollups
  rw [Table.find?_set_self] at stored
  -- the other rollups stay right, so one rollup decides
  have onlyHere : t'.Summarised ↔ ∀ row, t'.rollups.find? c.rollupKey = some row →
      row.Summarises (t'.bucketValues c.rollupKey) := by
    refine ⟨fun summarised => summarised.summarises c.rollupKey, fun summarises => ⟨?_, ?_⟩⟩
    · intro k row found
      by_cases same : k = c.rollupKey
      · subst same
        exact summarises row found
      · obtain ⟨sameRollup, sameValues⟩ := other k same
        rw [sameValues]
        exact right.summarises k row (sameRollup ▸ found)
    · intro k
      by_cases same : k = c.rollupKey
      · subst same
        rw [here]
        refine iff_of_false (fun absent => ?_) (by simp)
        rw [absent] at stored
        cases stored
      · obtain ⟨sameRollup, sameValues⟩ := other k same
        rw [sameRollup, sameValues]
        exact right.absent_iff k
  rw [onlyHere, here]
  rw [stored]
  simp only [Option.some.injEq, forall_eq']
  cases before : t.rollups.find? c.rollupKey with
  | none =>
      rw [(right.absent_iff _).mp before]
      exact iff_of_true (RollupRow.first_summarises ..)
        fun _ _ mem => absurd mem List.not_mem_nil
  | some row => exact (right.summarises _ row before).next_iff ..

/-! ## One step -/

theorem step_eq {s : TelemetrySample} {result : TelemetryIngestResult}
    (normalized : s.normalize = .ok c) (done : t.ingestInTransaction c = .ok (result, t')) :
    (telemetryMachine.step t s).1 = t' := by
  have ingested : t.ingest s = .ok (result, t') := bind_eq_ok_iff.mpr ⟨c, normalized, done⟩
  dsimp only [telemetryMachine]
  rw [ingested]

/-- A step ingests a sample, or leaves both tables. -/
theorem step_cases (t : TelemetryTables) (s : TelemetrySample) :
    (∃ c result, s.normalize = .ok c ∧
      t.ingestInTransaction c = .ok (result, (telemetryMachine.step t s).1)) ∨
    ((∀ c result t', s.normalize = .ok c → t.ingestInTransaction c ≠ .ok (result, t')) ∧
      (telemetryMachine.step t s).1 = t) := by
  cases ingested : t.ingest s with
  | ok outcome =>
      obtain ⟨result, t'⟩ := outcome
      obtain ⟨c, normalized, done⟩ := bind_eq_ok_iff.mp ingested
      exact .inl ⟨c, result, normalized, (step_eq normalized done).symm ▸ done⟩
  | error failure =>
      refine .inr ⟨fun c result t' normalized done => ?_, ?_⟩
      · rw [TelemetryTables.ingest, normalized] at ingested
        exact absurd (ingested.symm.trans done) nofun
      · dsimp only [telemetryMachine]
        rw [ingested]

/-- While the rollups are right, they stay right exactly when the mean fits. -/
theorem rollupsRight_step_iff (right : t.Summarised) (s : TelemetrySample) :
    t.RollupsRight s ↔ t.MeanFits s := by
  rcases step_cases t s with ⟨c, result, normalized, done⟩ | ⟨raises, same⟩
  · have sole : ∀ c', s.normalize = .ok c' → c' = c := fun c' normalized' =>
      Except.ok.inj (normalized'.symm.trans normalized)
    cases found : t.samples.find? c.key with
    | some row =>
        have same := ingestInTransaction_stored (by rw [found]; rfl) done
        refine iff_of_true ⟨same.symm ▸ right, fun _ _ _ => congrArg rollups same⟩ ?_
        intro c' v normalized' _ new
        rw [sole c' normalized', found] at new
        cases new
    | none =>
        obtain ⟨storable, inserted⟩ := ingestInTransaction_new found done
        have summarised := inserted.summarised_iff right
        constructor
        · intro claimed c' v normalized'
          obtain rfl := sole c' normalized'
          exact fun _ _ => summarised.mp claimed.summarised v
        · intro fits
          refine ⟨summarised.mpr fun v => fits c v normalized storable found, ?_⟩
          intro c' normalized' stored
          rw [sole c' normalized', found] at stored
          cases stored
  · refine iff_of_true ⟨same.symm ▸ right, fun _ _ _ => congrArg rollups same⟩ ?_
    intro c v normalized storable new
    obtain ⟨result, t', done⟩ := exists_ingestInTransaction new storable
    exact absurd done (raises c result t' normalized)

theorem summarised_empty : empty.Summarised := ⟨nofun, fun _ => ⟨fun _ => rfl, fun _ => rfl⟩⟩

/-- **Rollups.**  In every run the rollups are right after every sample exactly when every
sample meets `MeanFits`. -/
theorem rollupsRight_iff (inputs : List TelemetrySample) :
    telemetryMachine.AllSteps RollupsRight .empty inputs ↔
      telemetryMachine.AllSteps MeanFits .empty inputs :=
  telemetryMachine.allSteps_iff_of_invariant Summarised
    (fun _ s right => rollupsRight_step_iff right s)
    (fun _ s right fits => ((rollupsRight_step_iff right s).mpr fits).summarised)
    summarised_empty inputs

/-- A sample of frame `frame`, received at the start of the first minute. -/
def minuteSample (frame : ℤ) (value : PyValue) : TelemetrySample :=
  ⟨7, 1, 3, Text.ofString "DOWNLINK", 2, frame, 0, 0, 0x100, 9, 0, [0x01], value, none, 0⟩

/-- Of a text and the numbers 0 and 3 the mean is `1`, not `3/2`. -/
theorem not_rollupsRight_of_text :
    ¬ ∀ inputs, telemetryMachine.AllSteps RollupsRight .empty inputs := by
  intro always
  let inputs := [minuteSample 1 (.str (Text.ofString "a")), minuteSample 2 (.int 0),
    minuteSample 3 (.int 3)]
  have right : (telemetryMachine.exec .empty inputs).Summarised :=
    (always inputs).2.2.1.summarised
  have values : (telemetryMachine.exec .empty inputs).bucketValues (7, 9, 0) =
      [none, some 0, some 3] := by
    decide +kernel
  have mean : ((telemetryMachine.exec .empty inputs).rollups.find? (7, 9, 0)).map
      RollupRow.meanValue = some (some 1) := by
    decide +kernel
  obtain ⟨row, found, ofRow⟩ := Option.map_eq_some_iff.mp mean
  have claimed := (right.summarises _ row found).meanValue
  rw [values, ofRow] at claimed
  exact absurd claimed (by decide +kernel)

/-! ## Batches -/

/-- A batch that returns leaves what its samples leave, one after another. -/
theorem ingestBatch_eq_ok {samples : List TelemetrySample} {results : List TelemetryIngestResult}
    (done : t.ingestBatch samples = .ok (results, t')) :
    t' = telemetryMachine.exec t samples := by
  unfold ingestBatch at done
  split at done
  swap
  · cases done
  obtain ⟨normalized, normalize, done⟩ := bind_eq_ok_iff.mp done
  clear * - normalize done
  induction samples generalizing t results normalized with
  | nil =>
      cases normalize
      cases done
      rfl
  | cons s rest ih =>
      rw [List.mapM_cons] at normalize
      obtain ⟨c, checked, normalize⟩ := bind_eq_ok_iff.mp normalize
      obtain ⟨others, looped, normalize⟩ := bind_eq_ok_iff.mp normalize
      cases normalize
      obtain ⟨⟨result, ingested⟩, first, done⟩ := bind_eq_ok_iff.mp done
      obtain ⟨⟨results', after⟩, next, done⟩ := bind_eq_ok_iff.mp done
      cases done
      rw [Machine.exec_cons, step_eq checked first]
      exact ih others looped next

end TelemetryTables

end CubeNano

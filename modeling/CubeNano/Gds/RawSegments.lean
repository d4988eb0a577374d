import CubeNano.Lib.Machine
import CubeNano.Protocol.Exceptions
import CubeNano.Protocol.PyValue
import CubeNano.Protocol.Sha256
import Mathlib.Data.PNat.Defs

/-!
# Raw frame segments

`gds/raw_segments.py`: an append-only file of records.  Every append first scans the file and
cuts off what it cannot parse.

The state of a program is the file: its bytes, if it exists.

## Main definitions

* `crc32`
* `RawSegmentStore.append`, `.scan`, `.read`
* `rawMachine` — appends, crashes and scans of stores on one file
-/

namespace CubeNano

/-! ## Checksums -/

/-- One step of the reflected CRC-32 register. -/
def crc32Shift (crc : ℕ) : ℕ := if crc % 2 = 1 then (crc / 2) ^^^ 0xEDB88320 else crc / 2

/-- One byte of the CRC-32. -/
def crc32Step (crc : ℕ) (byte : UInt8) : ℕ :=
  crc32Shift (crc32Shift (crc32Shift (crc32Shift (crc32Shift (crc32Shift (crc32Shift (crc32Shift
    (crc ^^^ byte.toNat))))))))

/-- `zlib.crc32`. -/
def crc32 (data : Bytes) : ℕ := foldRegister crc32Step 0xFFFFFFFF data ^^^ 0xFFFFFFFF

example : crc32 [0x31, 0x32, 0x33, 0x34, 0x35, 0x36, 0x37, 0x38, 0x39] = 0xCBF43926 := by decide

theorem crc32Shift_lt {crc : ℕ} (fits : crc < 2 ^ 32) : crc32Shift crc < 2 ^ 32 := by
  unfold crc32Shift
  split
  · exact Nat.xor_lt_two_pow (by omega) (by decide)
  · omega

theorem crc32_lt (data : Bytes) : crc32 data < 2 ^ 32 := by
  unfold crc32
  rw [foldRegister_eq_foldl]
  refine Nat.xor_lt_two_pow (List.foldlRecOn data crc32Step (motive := fun crc => crc < 2 ^ 32)
    (by decide) fun crc fits byte _ => ?_) (by decide)
  have start : crc ^^^ byte.toNat < 2 ^ 32 :=
    Nat.xor_lt_two_pow fits (lt_trans byte.toNat_lt (by decide))
  unfold crc32Step
  iterate 8 refine crc32Shift_lt ?_
  exact start

/-! ## Records -/

/-- `MAGIC`. -/
def rawMagic : Bytes := [0x47, 0x44, 0x53, 0x52]

/-- `VERSION`. -/
def rawVersion : ℕ := 1

/-- `HEADER.size`. -/
def rawHeaderSize : ℕ := 16

/-- The header of a payload whose length fits. -/
def rawHeader (payload : Bytes) : Bytes :=
  rawMagic ++ (toBytesBE 1 rawVersion ++ ([0, 0, 0] ++
    (toBytesBE 4 payload.length ++ toBytesBE 4 (crc32 payload))))

/-- `HEADER.pack` of a payload's header. -/
def packRawHeader (payload : Bytes) : Raises Bytes :=
  if payload.length < 2 ^ 32 then .ok (rawHeader payload)
  else .error ⟨.structError, "'I' format requires 0 <= number <= 4294967295"⟩

/-- What `HEADER.unpack` returns. -/
structure RawHeader where
  magic : Bytes
  version : ℕ
  payloadLength : ℕ
  expectedCrc : ℕ
  deriving DecidableEq

/-- `HEADER.unpack`. -/
def unpackRawHeader (header : Bytes) : RawHeader where
  magic := header.take 4
  version := fromBytesBE ((header.drop 4).take 1)
  payloadLength := fromBytesBE ((header.drop 8).take 4)
  expectedCrc := fromBytesBE ((header.drop 12).take 4)

/-- `RawRecord`. -/
structure RawRecord where
  path : Text
  offset : ℕ
  length : ℕ
  payloadLength : ℕ
  payloadSha256 : Text
  deriving DecidableEq

/-- The record of a payload at an offset. -/
def RawRecord.of (path : Text) (offset : ℕ) (payload : Bytes) : RawRecord :=
  ⟨path, offset, rawHeaderSize + payload.length, payload.length, hexOfBytes (sha256 payload)⟩

/-- Where a record ends. -/
def RawRecord.stop (record : RawRecord) : ℕ := record.offset + record.length

/-! ## The store -/

/-- `RawSegmentStore`. -/
structure RawSegmentStore where
  path : Text
  maxRecordBytes : ℕ
  maxRecordBytes_pos : 0 < maxRecordBytes

/-- A method of a store, on its file. -/
abbrev RawProgram (α : Type) := EStateM PyException (Option Bytes) α

/-- `raise RawSegmentError(message)`. -/
def rawSegmentError {α : Type} (message : String) : Raises α := .error ⟨.rawSegmentError, message⟩

namespace RawSegmentStore

variable (store : RawSegmentStore)

/-- The record at the front of the data, and what follows it. -/
def scanRecord? (offset : ℕ) (data : Bytes) : Option (RawRecord × Bytes) :=
  let header := data.take rawHeaderSize
  if header.length ≠ rawHeaderSize then none
  else
    let fields := unpackRawHeader header
    if fields.magic ≠ rawMagic ∨ fields.version ≠ rawVersion ∨ fields.payloadLength ≤ 0 ∨
        fields.payloadLength > store.maxRecordBytes then none
    else
      let payload := (data.drop rawHeaderSize).take fields.payloadLength
      if payload.length ≠ fields.payloadLength then none
      else if crc32 payload ≠ fields.expectedCrc then none
      else some (RawRecord.of store.path offset payload,
        data.drop (rawHeaderSize + fields.payloadLength))

/-- The loop of `scan`: the records, and where the last of them ends.  A record has at least
one byte, so the bytes of the file bound the rounds. -/
def scanFrom : (fuel offset : ℕ) → Bytes → List RawRecord × ℕ
  | 0, offset, _ => ([], offset)
  | fuel + 1, offset, data =>
      match store.scanRecord? offset data with
      | none => ([], offset)
      | some (record, rest) =>
          let later := scanFrom fuel (offset + record.length) rest
          (record :: later.1, later.2)

/-- The records of a file and `good_offset`. -/
def scanFile (data : Bytes) : List RawRecord × ℕ := store.scanFrom data.length 0 data

/-- The records `scan` returns and `repair_offset`. -/
def repairPlan (found : List RawRecord × ℕ) : Option ℕ → Raises (List RawRecord × ℕ)
  | none => .ok found
  | some committed =>
      if committed > found.2 then
        rawSegmentError "committed_offset is beyond the last valid raw record boundary"
      else if committed < found.2 then
        if committed ∉ found.1.map RawRecord.stop ∧ committed ≠ 0 then
          rawSegmentError "committed_offset is not a raw record boundary"
        else .ok (found.1.filter fun record => record.stop ≤ committed, committed)
      else .ok found

/-- `scan`; a `committed_offset` that is not a natural number is refused before. -/
def scan (repair : Bool) (committedOffset : Option ℕ) : RawProgram (List RawRecord) := do
  match ← get with
  | none => pure []
  | some data => do
      let (records, repairOffset) ← liftRaises (repairPlan (store.scanFile data) committedOffset)
      set (some (if repair then data.take repairOffset else data))
      pure records

/-- `append` up to the write: the file is repaired and open; the bytes to write. -/
def prepareAppend (payload : Bytes) : RawProgram Bytes := do
  if payload = [] then liftRaises (valueError "raw payload must not be empty")
  else if payload.length > store.maxRecordBytes then
    liftRaises (valueError "raw payload is larger than the segment record limit")
  else do
    let _ ← store.scan true none
    modify fun file => some (file.getD [])
    let header ← liftRaises (packRawHeader payload)
    pure (header ++ payload)

/-- `append`. -/
def append (payload : Bytes) : RawProgram RawRecord := do
  let bytes ← store.prepareAppend payload
  let file ← get
  set (some (file.getD [] ++ bytes))
  pure (RawRecord.of store.path (file.getD []).length payload)

/-- An append that a crash ends after some of its bytes: whether all of them are on disk. -/
def crashedAppend (payload : Bytes) (cut : ℕ) : RawProgram Bool := do
  let bytes ← store.prepareAppend payload
  let file ← get
  set (some (file.getD [] ++ bytes.take cut))
  pure (bytes.length ≤ cut)

/-- `read`. -/
def read (record : RawRecord) (file : Option Bytes) : Raises Bytes :=
  if record.path ≠ store.path then rawSegmentError "record belongs to another segment"
  else
    match file with
    | none => .error ⟨.osError, "No such file or directory"⟩
    | some data =>
        let header := (data.drop record.offset).take rawHeaderSize
        if header.length ≠ rawHeaderSize then rawSegmentError "raw record header is truncated"
        else
          let fields := unpackRawHeader header
          if fields.magic ≠ rawMagic ∨ fields.version ≠ rawVersion ∨
              fields.payloadLength ≠ record.payloadLength then
            rawSegmentError "raw record header does not match reference"
          else
            let payload := (data.drop (record.offset + rawHeaderSize)).take fields.payloadLength
            if payload.length ≠ fields.payloadLength ∨ crc32 payload ≠ fields.expectedCrc then
              rawSegmentError "raw record CRC check failed"
            else if hexOfBytes (sha256 payload) ≠ record.payloadSha256 then
              rawSegmentError "raw record SHA-256 check failed"
            else .ok payload

end RawSegmentStore

/-! ## Runs -/

/-- An operation of a store with some limit on the file. -/
inductive RawOp
  | append (limit : ℕ+) (payload : Bytes)
  /-- The process dies during an append. -/
  | crash (limit : ℕ+) (payload : Bytes) (cut : ℕ)
  | scan (limit : ℕ+) (repair : Bool) (committedOffset : Option ℕ)

/-- The file during a run. -/
structure RawRun where
  file : Option Bytes
  /-- The payloads of the appends that were completed on disk, in order. -/
  completed : List Bytes
  /-- What the appends that returned have returned, with their payloads. -/
  acknowledged : List (RawRecord × Bytes)

/-- The payloads whose records end at or before an offset. -/
def payloadsUpTo (stop : ℕ) : (offset : ℕ) → List Bytes → List Bytes
  | _, [] => []
  | offset, payload :: rest =>
      let next := offset + (rawHeaderSize + payload.length)
      if next ≤ stop then payload :: payloadsUpTo stop next rest else []

namespace RawRun

variable (path : Text) (run : RawRun)

/-- A store on the file. -/
def storeOf (limit : ℕ+) : RawSegmentStore := ⟨path, limit, limit.pos⟩

/-- An append. -/
def append (limit : ℕ+) (payload : Bytes) : RawRun :=
  match (storeOf path limit).append payload run.file with
  | .error _ file => { run with file := file }
  | .ok record file => ⟨file, run.completed ++ [payload], run.acknowledged ++ [(record, payload)]⟩

/-- An append during which the process dies. -/
def crash (limit : ℕ+) (payload : Bytes) (cut : ℕ) : RawRun :=
  match (storeOf path limit).crashedAppend payload cut run.file with
  | .error _ file => { run with file := file }
  | .ok whole file =>
      { run with
        file := file
        completed := if whole then run.completed ++ [payload] else run.completed }

/-- A scan; a repair at a committed offset gives up the records after it. -/
def scan (limit : ℕ+) (repair : Bool) (committedOffset : Option ℕ) : RawRun :=
  match (storeOf path limit).scan repair committedOffset run.file with
  | .error _ file => { run with file := file }
  | .ok _ file =>
      { run with
        file := file
        completed := match repair, committedOffset with
          | true, some stop => payloadsUpTo stop 0 run.completed
          | _, _ => run.completed }

end RawRun

/-- The stores on a file over any sequence of operations. -/
def rawMachine (path : Text) : Machine RawRun RawOp Unit where
  step run
    | .append limit payload => (run.append path limit payload, ())
    | .crash limit payload cut => (run.crash path limit payload cut, ())
    | .scan limit repair committedOffset => (run.scan path limit repair committedOffset, ())

end CubeNano

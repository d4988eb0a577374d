import CubeNano.Lib.Intervals
import CubeNano.Lib.Machine
import CubeNano.Lib.Table
import CubeNano.Protocol.FileIntegrity
import CubeNano.Protocol.FilePacket
import CubeNano.Protocol.ProductRef

/-!
# File reassembly

`gds/file_reassembly.py`: the ground puts the packets of a file epoch together in a
staged part file and records which bytes have arrived.

`FilePacketReassembler` holds the epochs it knows, the two index tables (packets by
sequence and covered ranges by start, of every epoch), the part files, and, when they
are attached, the durable writer's `file_reassemblies` table and the storage guard.  A
method is an `EStateM` program: what it changed before it raised stays changed.

The storage guard reads the clock and the disk usage, which are inputs of a call
(`StorageReadings`).  The attached product store is a function that verifies and
publishes a staged file or raises.

## Main definitions

* `FileEpochKey`, `ReassemblyState`, `FilePacketReassembler`
* `readStart` — the validation of a START payload
* `FilePacketReassembler.start`, `.data`, `.endFile`, `.cancel`, `.receive`
* `reassemblyMachine` — a sequence of packets, as a machine
-/

namespace CubeNano

/-- `FileEpochKey`. -/
structure FileEpochKey where
  spacecraftInstanceId : U64
  linkSessionId : U64
  fileEpochId : U64
  nonzero : fileEpochId ≠ 0
  deriving DecidableEq

/-- `FileEpochKey(...)`. -/
def FileEpochKey.new (spacecraftInstanceId linkSessionId fileEpochId : U64) :
    Raises FileEpochKey :=
  if h : fileEpochId ≠ 0 then .ok ⟨spacecraftInstanceId, linkSessionId, fileEpochId, h⟩
  else valueError "file_epoch_id must be non-zero for a FilePacket epoch"

/-- The states of an epoch. -/
inductive EpochPhase
  | receiving
  | verified
  | incomplete
  | checksumFailed
  | canceled
  deriving DecidableEq, Repr

/-- `_State`, less its key and part path, which the tables are indexed by. -/
structure ReassemblyState where
  transferId : U32
  productRef : ProductRef
  expectedSize : ℕ
  expectedFileChecksum : U32
  expectedBundleSha256 : Text
  sourceName : Text
  destinationName : Text
  state : EpochPhase
  startPayload : Bytes
  terminalReason : Option String
  createdAtUs : ℕ
  updatedAtUs : ℕ
  reservationId : Option ℕ
  bytesReceived : ℤ
  terminalPacketType : Option FilePacketType
  terminalSequenceIndex : Option ℕ
  terminalPayloadSha256 : Option Bytes

/-- `ReassemblyResult`. -/
structure ReassemblyResult where
  key : FileEpochKey
  state : EpochPhase
  transferId : Option U32
  productRef : Option ProductRef
  bytesReceived : ℤ
  expectedSize : Option ℕ
  reason : Option String
  product : Option PyValue

/-! ## START payloads -/

/-- What a valid START payload says. -/
structure StartMetadata where
  source : Text
  destination : Text
  fileSize : ℕ
  checksum : U32
  productRef : ProductRef
  transferId : U32
  bundleSha256 : Text

/-- The fields of a destination path. -/
structure DestinationPath where
  boot : Text
  product : Text
  transfer : Text
  sha : Text

/-- `b/{boot:08x}/{product:08x}.tar`. -/
def sourcePath (r : ProductRef) : Text :=
  Text.ofString "b/" ++ hexText 8 r.originBootId.val ++ Text.ofString "/"
    ++ hexText 8 r.productId.val ++ Text.ofString ".tar"

/-- `p/{boot}/{product}/{transfer}/{sha}.tar`. -/
def DestinationPath.text (p : DestinationPath) : Text :=
  Text.ofString "p/" ++ p.boot ++ Text.ofString "/" ++ p.product ++ Text.ofString "/" ++ p.transfer
    ++ Text.ofString "/" ++ p.sha ++ Text.ofString ".tar"

/-- `_DESTINATION_RE.fullmatch`. -/
def matchDestination? (text : Text) : Option DestinationPath :=
  let p : DestinationPath := ⟨(text.drop 2).take 8, (text.drop 11).take 8, (text.drop 20).take 8,
    (text.drop 29).take 64⟩
  if text = p.text ∧ text.length = 97 ∧ (p.boot ++ p.product ++ p.transfer ++ p.sha).all isLowerHex
  then some p
  else none

/-- `raise FileReassemblyError("INVALID_START", ...)`. -/
def invalidStart {α : Type} (message : String) : Raises α :=
  fileReassemblyError "INVALID_START" message

/-- The `json.loads` part of `_read_start`; only a text that is no UTF-8 or no JSON is
an invalid START, other exceptions pass. -/
def readStartJson (payload : Bytes) : Raises PyValue :=
  match (do jsonLoads (← utf8Decode payload)) with
  | .ok value => .ok value
  | .error ⟨.unicodeDecodeError, _⟩ => invalidStart "START payload is not UTF-8 JSON"
  | .error ⟨.jsonDecodeError, _⟩ => invalidStart "START payload is not UTF-8 JSON"
  | .error failure => .error failure

/-- The names of the fields of a START. -/
def startFields : List String :=
  ["source", "destination", "file_size", "checksum", "product_ref", "transfer_id"]

/-- The identity fields, with `TypeError` and `ValueError` turned into an invalid START. -/
def readStartIdentity (entries : List (PyValue × PyValue)) :
    Raises (ProductRef × ℤ × ℤ × U32) :=
  match (do
    let productRef ← ProductRef.fromDict ((dictGet? entries "product_ref").getD .none)
    let size ← pyInt ((dictGet? entries "file_size").getD .none)
    let checksum ← pyInt ((dictGet? entries "checksum").getD .none)
    let transferId ← checkedU32 ((dictGet? entries "transfer_id").getD .none) "transfer_id"
    Except.ok (productRef, size, checksum, transferId) : Raises (ProductRef × ℤ × ℤ × U32)) with
  | .ok identity => .ok identity
  | .error _ => invalidStart "START identity fields are invalid"

/-- The paths of a START.  `str` of a JSON value that is no string is no path: it
starts with a digit, a sign, a bracket, a brace or a capital letter. -/
def readStartPaths (entries : List (PyValue × PyValue)) (productRef : ProductRef)
    (transferId : U32) : Raises (Text × DestinationPath) :=
  match dictGet? entries "source", dictGet? entries "destination" with
  | some (.str source), destination =>
      if source ≠ sourcePath productRef then
        fileReassemblyError "INVALID_START_PATH" "START source path is not canonical"
      else
        match destination with
        | some (.str destination) =>
            match matchDestination? destination with
            | none => fileReassemblyError "INVALID_START_PATH" "START destination path is not canonical"
            | some path =>
                if hexNumber path.boot ≠ productRef.originBootId.val ∨
                    hexNumber path.product ≠ productRef.productId.val ∨
                    hexNumber path.transfer ≠ transferId.val then
                  fileReassemblyError "INVALID_START_PATH"
                    "START destination path is not canonical"
                else .ok (source, path)
        | _ => fileReassemblyError "INVALID_START_PATH" "START destination path is not canonical"
  | _, _ => fileReassemblyError "INVALID_START_PATH" "START source path is not canonical"

/-- `_read_start`. -/
def readStart (payload : Bytes) : Raises StartMetadata := do
  match ← readStartJson payload with
  | .dict entries => do
      let canonical ← canonicalJson (.dict entries)
      if canonical ≠ payload then invalidStart "START payload must be canonical JSON"
      else if ¬ (stringKeys entries).Perm (startFields.map Text.ofString) then
        invalidStart "START payload has an unexpected field set"
      else do
        let (productRef, size, checksum, transferId) ← readStartIdentity entries
        if size < 0 ∨ size > 0xFFFFFFFF then invalidStart "START file_size must fit U32"
        else do
          let checksum ← checkedU32 (.int checksum) "checksum"
          let (source, path) ← readStartPaths entries productRef transferId
          if size = 0 then invalidStart "empty product bundles are not supported"
          else .ok ⟨source, path.text, size.toNat, checksum, productRef, transferId, path.sha⟩
  | _ => invalidStart "START payload must be canonical JSON"

/-! ## Part files -/

/-- `stream.seek(offset); stream.read(length)`. -/
def readAt (file : Bytes) (offset length : ℕ) : Bytes := (file.drop offset).take length

/-- `stream.seek(offset); stream.write(data)`: a gap behind the end is filled with zeros. -/
def writeAt (file : Bytes) (offset : ℕ) (data : Bytes) : Bytes :=
  file.take offset ++ List.replicate (offset - file.length) 0 ++ data
    ++ file.drop (offset + data.length)

/-! ## Storage reservations -/

/-- A row of `storage_reservations` on the guard's volume. -/
structure StorageReservation where
  owner : Text
  reservedBytes : ℕ
  active : Bool
  expiresAtUs : ℕ

/-- `StorageGuard` with its table. -/
structure StorageGuard where
  hardWatermarkBytes : ℕ
  reservations : Table ℕ StorageReservation
  nextReservationId : ℕ

/-- What the guard's clock and usage provider return during a call. -/
structure StorageReadings where
  nowUs : ℕ
  usedBytes : ℕ

namespace StorageGuard

/-- The time to live of a reservation: one hour. -/
def ttlUs : ℕ := 3600000000

/-- The expiry at the start of `reserve`. -/
def expire (g : StorageGuard) (nowUs : ℕ) : StorageGuard :=
  { g with
    reservations := g.reservations.mapRows fun _ row =>
      if row.active ∧ row.expiresAtUs ≤ nowUs then { row with active := false } else row }

/-- The bytes of the active reservations. -/
def activeBytes (g : StorageGuard) : ℕ :=
  ((g.reservations.rows.filter fun row => row.2.active).map fun row => row.2.reservedBytes).sum

/-- `reserve`: the reservation, or `none` for `StorageFullError`, which rolls back. -/
def reserve (g : StorageGuard) (readings : StorageReadings) (owner : Text) (reservedBytes : ℕ) :
    Option (ℕ × StorageGuard) :=
  let g' := g.expire readings.nowUs
  if readings.usedBytes + g'.activeBytes + reservedBytes ≥ g'.hardWatermarkBytes then none
  else
    some (g'.nextReservationId,
      { g' with
        reservations := g'.reservations.set g'.nextReservationId
          ⟨owner, reservedBytes, true, readings.nowUs + ttlUs⟩
        nextReservationId := g'.nextReservationId + 1 })

/-- `release`. -/
def release (g : StorageGuard) (reservationId : ℕ) : StorageGuard :=
  { g with reservations := g.reservations.update reservationId fun row => { row with active := false } }

end StorageGuard

/-! ## The reassembler -/

/-- A row of `file_reassembly_packets`. -/
structure PacketRow where
  offset : ℕ
  length : ℕ
  sha256 : Bytes
  deriving DecidableEq

/-- `FilePacketReassembler`. -/
structure FilePacketReassembler where
  maxBundleBytes : ℕ
  productStore : Option (ReassemblyState → Bytes → Raises PyValue)
  storageGuard : Option StorageGuard
  /-- The table `file_reassemblies` of the durable writer. -/
  writer : Option (Table FileEpochKey ReassemblyState)
  states : Table FileEpochKey ReassemblyState
  /-- `file_reassembly_packets`, by epoch. -/
  packetIndex : FileEpochKey → Table ℕ PacketRow
  /-- `file_reassembly_ranges`, by epoch, in the order of the primary key. -/
  rangeIndex : FileEpochKey → List (ℕ × ℕ)
  /-- The files under the staging root. -/
  parts : FileEpochKey → Option Bytes

/-- A method of the reassembler. -/
abbrev ReassemblyProgram (α : Type) := EStateM PyException FilePacketReassembler α

/-- `_result`. -/
def ReassemblyState.result (st : ReassemblyState) (key : FileEpochKey) (product : Option PyValue) :
    ReassemblyResult :=
  ⟨key, st.state, some st.transferId, some st.productRef, st.bytesReceived, some st.expectedSize,
    st.terminalReason, product⟩

/-- `_is_duplicate_terminal`. -/
def ReassemblyState.isDuplicateTerminal (st : ReassemblyState) (packet : FilePacket) : Bool :=
  st.terminalPacketType = some packet.packetType ∧
    st.terminalSequenceIndex = some packet.sequenceIndex ∧
    st.terminalPayloadSha256 = some (sha256 packet.payload)

/-- The mark an END or CANCEL leaves. -/
def ReassemblyState.markTerminal (st : ReassemblyState) (packet : FilePacket) (receivedAtUs : ℕ) :
    ReassemblyState :=
  { st with
    terminalPacketType := some packet.packetType
    terminalSequenceIndex := some packet.sequenceIndex
    terminalPayloadSha256 := some (sha256 packet.payload)
    updatedAtUs := receivedAtUs }

/-- `_MAX_OVERLAP_ROWS`. -/
def maxOverlapRows : ℕ := maxFileDataPerFrame + 2

namespace FilePacketReassembler

/-- A reassembler that has received nothing. -/
def initial (maxBundleBytes : ℕ) (productStore : Option (ReassemblyState → Bytes → Raises PyValue))
    (storageGuard : Option StorageGuard) (durable : Bool) : FilePacketReassembler where
  maxBundleBytes := maxBundleBytes
  productStore := productStore
  storageGuard := storageGuard
  writer := if durable then some .empty else none
  states := .empty
  packetIndex := fun _ => .empty
  rangeIndex := fun _ => []
  parts := fun _ => none

/-- Assignment to the in-memory state of an epoch. -/
def setState (key : FileEpochKey) (st : ReassemblyState) : ReassemblyProgram Unit :=
  modify fun r => { r with states := r.states.set key st }

/-- `IntegrityError` of a violated `CHECK`, `UNIQUE` or `PRIMARY KEY`. -/
def constraintFailed {α : Type} : Raises α := .error ⟨.integrityError, "constraint failed"⟩

/-! ### Persistence -/

/-- `_clear_index_metadata`. -/
def clearIndex (r : FilePacketReassembler) (key : FileEpochKey) : FilePacketReassembler :=
  { r with
    packetIndex := Function.update r.packetIndex key .empty
    rangeIndex := Function.update r.rangeIndex key [] }

/-- The `UPDATE` of an epoch's durable row, if it has one; the row's `CHECK` keeps
`updated_at_us` from falling below `created_at_us`. -/
def updateRow (rows : Table FileEpochKey ReassemblyState) (key : FileEpochKey)
    (f : ReassemblyState → ReassemblyState) : Raises (Table FileEpochKey ReassemblyState) :=
  match rows.find? key with
  | none => .ok rows
  | some row =>
      if (f row).updatedAtUs < (f row).createdAtUs then constraintFailed
      else .ok (rows.set key (f row))

/-- `_persist_start`: the row's key and its transfer are unique. -/
def persistStart (key : FileEpochKey) (st : ReassemblyState) : ReassemblyProgram Unit := do
  let r ← get
  match r.writer with
  | none => pure ()
  | some rows =>
      if rows.rows.any fun row =>
          row.1.spacecraftInstanceId = key.spacecraftInstanceId ∧ row.2.transferId = st.transferId
      then liftRaises constraintFailed
      else
        match rows.insert key st with
        | none => liftRaises constraintFailed
        | some rows => set { r with writer := some rows }

/-- `_persist_state` with `clear_metadata`: one transaction. -/
def persistState (key : FileEpochKey) (st : ReassemblyState) : ReassemblyProgram Unit := do
  let r ← get
  match r.writer with
  | none => set (r.clearIndex key)
  | some rows =>
      let rows ← liftRaises (updateRow rows key fun _ => st)
      set { r.clearIndex key with writer := some rows }

/-- The durable part of `_persist_data_packet`. -/
def updateProgress (writer : Option (Table FileEpochKey ReassemblyState)) (key : FileEpochKey)
    (bytesReceived : ℤ) (updatedAtUs : ℕ) : Raises (Option (Table FileEpochKey ReassemblyState)) :=
  match writer with
  | none => .ok none
  | some rows =>
      (updateRow rows key fun row =>
        { row with bytesReceived := bytesReceived, updatedAtUs := updatedAtUs }).map some

/-- `_persist_data_packet`: one transaction over ranges, packets and the durable row. -/
def persistDataPacket (key : FileEpochKey) (sequenceIndex : ℕ) (row : PacketRow)
    (oldRanges : List (ℕ × ℕ)) (mergedStart mergedEnd : ℕ) (bytesReceived : ℤ)
    (updatedAtUs : ℕ) : ReassemblyProgram Unit := do
  let r ← get
  let kept := (r.rangeIndex key).filter fun range => range ∉ oldRanges
  if mergedStart ∈ kept.map Prod.fst then liftRaises constraintFailed
  else
    match (r.packetIndex key).insert sequenceIndex row with
    | none => liftRaises constraintFailed
    | some packets => do
        let writer ← liftRaises (updateProgress r.writer key bytesReceived updatedAtUs)
        set { r with
          writer := writer
          packetIndex := Function.update r.packetIndex key packets
          rangeIndex := Function.update r.rangeIndex key
            (Intervals.insertRow (mergedStart, mergedEnd) kept) }

/-- `_remove_part`. -/
def removePart (key : FileEpochKey) : ReassemblyProgram Unit :=
  modify fun r => { r with parts := Function.update r.parts key none }

/-- `_release_state`. -/
def releaseState (key : FileEpochKey) (st : ReassemblyState) : ReassemblyProgram ReassemblyState := do
  let r ← get
  match st.reservationId, r.storageGuard with
  | some reservationId, some storage =>
      let released := { st with reservationId := none }
      set { r with
        storageGuard := some (storage.release reservationId)
        writer := r.writer.map fun (rows : Table FileEpochKey ReassemblyState) =>
          rows.update key fun row => { row with reservationId := none }
        states := r.states.update key fun _ => released }
      pure released
  | _, _ => pure st

/-- The end of an epoch: state, durable row and index, reservation, part file. -/
def closeEpoch (key : FileEpochKey) (st : ReassemblyState) (product : Option PyValue) :
    ReassemblyProgram ReassemblyResult := do
  setState key st
  persistState key st
  let st ← releaseState key st
  removePart key
  pure (st.result key product)

/-! ### START -/

/-- Whether another epoch of the spacecraft is receiving. -/
def transferBusy (r : FilePacketReassembler) (key : FileEpochKey) : Bool :=
  r.states.rows.any fun row =>
    row.1.spacecraftInstanceId = key.spacecraftInstanceId ∧ row.2.state = .receiving

/-- The owner of an epoch's reservation. -/
def reservationOwner (key : FileEpochKey) : Text :=
  Text.ofString "file-reassembly:" ++ hexText 16 key.spacecraftInstanceId.val ++ Text.ofString ":"
    ++ hexText 16 key.linkSessionId.val ++ Text.ofString ":" ++ hexText 16 key.fileEpochId.val

/-- The reservation for a new epoch. -/
def reserveStorage (readings : StorageReadings) (key : FileEpochKey) (size : ℕ) :
    ReassemblyProgram (Option ℕ) := do
  let r ← get
  match r.storageGuard with
  | none => pure none
  | some storage =>
      match storage.reserve readings (reservationOwner key) size with
      | none =>
          liftRaises (fileReassemblyError "STORAGE_FULL"
            "storage reservation would cross hard watermark")
      | some (reservationId, storage) => do
          set { r with storageGuard := some storage }
          pure (some reservationId)

/-- The release of the reservation of an epoch that could not be staged. -/
def dropReservation (reservationId : Option ℕ) : ReassemblyProgram Unit :=
  modify fun r =>
    match reservationId, r.storageGuard with
    | some reservationId, some storage =>
        { r with storageGuard := some (storage.release reservationId) }
    | _, _ => r

/-- `part_path.open("xb")`: the file must not exist. -/
def createPart (key : FileEpochKey) (reservationId : Option ℕ) : ReassemblyProgram Unit := do
  let r ← get
  match r.parts key with
  | some _ => do
      dropReservation reservationId
      liftRaises (fileReassemblyError "STAGING_OPEN_FAILED"
        "unable to create the bounded reassembly file")
  | none => set { r with parts := Function.update r.parts key (some []) }

/-- The state of a new epoch. -/
def newState (m : StartMetadata) (payload : Bytes) (receivedAtUs : ℕ) (reservationId : Option ℕ) :
    ReassemblyState where
  transferId := m.transferId
  productRef := m.productRef
  expectedSize := m.fileSize
  expectedFileChecksum := m.checksum
  expectedBundleSha256 := m.bundleSha256
  sourceName := m.source
  destinationName := m.destination
  state := .receiving
  startPayload := payload
  terminalReason := none
  createdAtUs := receivedAtUs
  updatedAtUs := receivedAtUs
  reservationId := reservationId
  bytesReceived := 0
  terminalPacketType := none
  terminalSequenceIndex := none
  terminalPayloadSha256 := none

/-- A new epoch enters the table; without a durable writer the local index is cleared. -/
def enterEpoch (r : FilePacketReassembler) (key : FileEpochKey) (st : ReassemblyState) :
    FilePacketReassembler :=
  let cleared := if r.writer.isNone then r.clearIndex key else r
  { cleared with states := cleared.states.set key st }

/-- The registration of a new epoch. -/
def registerEpoch (key : FileEpochKey) (st : ReassemblyState) : ReassemblyProgram Unit := do
  modify fun r => r.enterEpoch key st
  tryCatch (persistStart key st) fun _ => do
    modify fun r => { r with states := r.states.erase key }
    let _ ← releaseState key st
    removePart key
    liftRaises (fileReassemblyError "DURABLE_STATE_FAILED" "unable to persist reassembly state")

/-- `_start` from the storage reservation on. -/
def openEpoch (readings : StorageReadings) (key : FileEpochKey) (m : StartMetadata)
    (payload : Bytes) (receivedAtUs : ℕ) : ReassemblyProgram ReassemblyResult := do
  let reservationId ← reserveStorage readings key m.fileSize
  createPart key reservationId
  let st := newState m payload receivedAtUs reservationId
  registerEpoch key st
  pure (st.result key none)

/-- The checks of `_start` that read the state: the stored epoch a repeated START
belongs to, or none. -/
def startChecks (r : FilePacketReassembler) (key : FileEpochKey) (m : StartMetadata)
    (payload : Bytes) : Raises (Option ReassemblyState) :=
  if m.productRef.spacecraftInstanceId ≠ key.spacecraftInstanceId then
    fileReassemblyError "PRODUCT_TARGET_INSTANCE_MISMATCH"
      "START ProductRef instance differs from source instance"
  else
    match r.states.find? key with
    | some existing =>
        if existing.startPayload = payload then .ok (some existing)
        else fileReassemblyError "START_CONFLICT" "duplicate START differs from the active epoch"
    | none =>
        if r.transferBusy key then
          fileReassemblyError "TRANSFER_BUSY" "another global FilePacket attempt is still receiving"
        else if m.fileSize > r.maxBundleBytes then
          fileReassemblyError "BUNDLE_TOO_LARGE" "START file_size exceeds the configured bundle limit"
        else if m.fileSize > 0xFFFFFFFF then
          fileReassemblyError "BUNDLE_TOO_LARGE" "START file_size exceeds FilePacket U32 range"
        else .ok none

/-- `_start`. -/
def start (readings : StorageReadings) (packet : FilePacket) (key : FileEpochKey)
    (receivedAtUs : ℕ) : ReassemblyProgram ReassemblyResult := do
  if packet.sequenceIndex ≠ 0 ∨ packet.offset ≠ 0 then
    liftRaises (invalidStart "START must use sequenceIndex=0 and offset=0")
  else do
    let m ← liftRaises (readStart packet.payload)
    let r ← get
    match ← liftRaises (r.startChecks key m packet.payload) with
    | some existing => pure (existing.result key none)
    | none => openEpoch readings key m packet.payload receivedAtUs

/-! ### DATA -/

/-- `_overlap_ranges`. -/
def overlapRanges (r : FilePacketReassembler) (key : FileEpochKey) (start finish : ℕ) :
    Raises (List (ℕ × ℕ)) :=
  let rows := (Intervals.touching start finish (r.rangeIndex key)).take (maxOverlapRows + 1)
  if rows.length > maxOverlapRows then
    fileReassemblyError "REASSEMBLY_METADATA_LIMIT" "DATA packet touches too many persisted ranges"
  else .ok rows

/-- `part_path.open(...)` and its content. -/
def openPart (r : FilePacketReassembler) (key : FileEpochKey) : Raises Bytes :=
  match r.parts key with
  | none => .error ⟨.osError, "No such file or directory"⟩
  | some file => .ok file

/-- The stored bytes of a covered range differ from the packet's. -/
def conflicts (file : Bytes) (packet : FilePacket) (range : ℕ × ℕ) : Bool :=
  let overlapStart := max range.1 packet.offset
  let overlapEnd := min range.2 (packet.offset + packet.payload.length)
  overlapStart < overlapEnd ∧
    readAt file overlapStart (overlapEnd - overlapStart) ≠
      readAt packet.payload (overlapStart - packet.offset) (overlapEnd - overlapStart)

/-- A DATA packet whose sequence index is stored. -/
def repeatedData (r : FilePacketReassembler) (key : FileEpochKey) (old : PacketRow)
    (packet : FilePacket) : Raises Unit :=
  if old ≠ ⟨packet.offset, packet.payload.length, sha256 packet.payload⟩ then
    fileReassemblyError "FILE_PACKET_CONFLICT" "duplicate DATA sequence differs"
  else do
    let file ← r.openPart key
    if readAt file packet.offset packet.payload.length ≠ packet.payload then
      fileReassemblyError "FILE_PACKET_CONFLICT" "duplicate DATA bytes differ"
    else .ok ()

/-- The part file and the ranges a new DATA packet merges with. -/
def newData (r : FilePacketReassembler) (key : FileEpochKey) (packet : FilePacket) :
    Raises (Bytes × List (ℕ × ℕ)) := do
  let ranges ← r.overlapRanges key packet.offset (packet.offset + packet.payload.length)
  let file ← r.openPart key
  if ranges.any (conflicts file packet) then
    fileReassemblyError "FILE_PACKET_CONFLICT" "overlapping DATA bytes differ"
  else .ok (file, ranges)

/-- The write and the bookkeeping of a new DATA packet. -/
def storeData (key : FileEpochKey) (st : ReassemblyState) (packet : FilePacket) (receivedAtUs : ℕ)
    (file : Bytes) (ranges : List (ℕ × ℕ)) : ReassemblyProgram ReassemblyResult := do
  let finish := packet.offset + packet.payload.length
  modify fun r =>
    { r with
      parts := Function.update r.parts key (some (writeAt file packet.offset packet.payload)) }
  let mergedStart := Intervals.spanStart packet.offset ranges
  let mergedEnd := Intervals.spanEnd finish ranges
  let previousCoverage := (ranges.map fun range => (range.2 : ℤ) - range.1).sum
  let bytesReceived := st.bytesReceived + ((mergedEnd : ℤ) - mergedStart - previousCoverage)
  persistDataPacket key packet.sequenceIndex
    ⟨packet.offset, packet.payload.length, sha256 packet.payload⟩ ranges mergedStart mergedEnd
    bytesReceived receivedAtUs
  let st := { st with bytesReceived := bytesReceived, updatedAtUs := receivedAtUs }
  setState key st
  pure (st.result key none)

/-- `_data`. -/
def data (key : FileEpochKey) (st : ReassemblyState) (packet : FilePacket) (receivedAtUs : ℕ) :
    ReassemblyProgram ReassemblyResult := do
  if packet.sequenceIndex = 0 then
    liftRaises (fileReassemblyError "INVALID_DATA" "DATA sequenceIndex must be greater than zero")
  else if packet.offset > st.expectedSize ∨ packet.payload = [] ∨
      packet.payload.length > st.expectedSize - packet.offset then
    liftRaises (fileReassemblyError "DATA_RANGE_INVALID" "DATA range is outside START file size")
  else do
    let r ← get
    match (r.packetIndex key).find? packet.sequenceIndex with
    | some old => do
        liftRaises (r.repeatedData key old packet)
        pure (st.result key none)
    | none => do
        let (file, ranges) ← liftRaises (r.newData key packet)
        storeData key st packet receivedAtUs file ranges

/-! ### END and CANCEL -/

/-- `_next_sequence`. -/
def nextSequence (r : FilePacketReassembler) (key : FileEpochKey) : ℕ :=
  ((r.packetIndex key).rows.map Prod.fst).foldr max 0 + 1

/-- `_coverage_complete`. -/
def coverageComplete (r : FilePacketReassembler) (key : FileEpochKey) (st : ReassemblyState) : Bool :=
  st.bytesReceived = st.expectedSize ∧ (r.rangeIndex key).take 2 = [(0, st.expectedSize)]

/-- The final verification of a staged file; the product store's summary, if any. -/
def verify (r : FilePacketReassembler) (key : FileEpochKey) (st : ReassemblyState)
    (packet : FilePacket) : Raises (Option PyValue) := do
  let file ← r.openPart key
  let integrity ← streamFileIntegrity file (some st.expectedSize)
  if integrity.size ≠ st.expectedSize then
    productVerificationError "FILE_SIZE_MISMATCH"
      "reassembled file size differs from START metadata"
  else if fromBytesBE packet.payload ≠ integrity.cfdpChecksum ∨
      integrity.cfdpChecksum ≠ st.expectedFileChecksum.val then
    productVerificationError "FILE_CHECKSUM_MISMATCH" "END checksum does not match file"
  else if integrity.sha256 ≠ st.expectedBundleSha256 then
    productVerificationError "BUNDLE_SHA_MISMATCH" "START bundle SHA does not match file"
  else
    match r.productStore with
    | none => .ok none
    | some publish => (publish st file).map some

/-- The reason a failed verification leaves; exceptions that `_end` does not catch
have none. -/
def failureReason (failure : PyException) : Option String :=
  match failure.kind with
  | .productVerificationError code => some code
  | .fileReassemblyError code => some code
  | .valueError => some "PRODUCT_VERIFY_FAILED"
  | .osError => some "PRODUCT_VERIFY_FAILED"
  | .unicodeDecodeError => some "PRODUCT_VERIFY_FAILED"
  | .jsonDecodeError => some "PRODUCT_VERIFY_FAILED"
  | _ => none

/-- `_end`. -/
def endFile (key : FileEpochKey) (st : ReassemblyState) (packet : FilePacket) (receivedAtUs : ℕ) :
    ReassemblyProgram ReassemblyResult := do
  let r ← get
  if packet.sequenceIndex ≠ r.nextSequence key ∨ packet.offset ≠ st.expectedSize ∨
      packet.payload.length ≠ 4 then
    liftRaises (fileReassemblyError "INVALID_END"
      "END must use the next sequence and exact file size")
  else
    let st := st.markTerminal packet receivedAtUs
    if r.coverageComplete key st then
      match r.verify key st packet with
      | .ok product => closeEpoch key { st with state := .verified, terminalReason := none } product
      | .error failure =>
          match failureReason failure with
          | some reason =>
              closeEpoch key { st with state := .checksumFailed, terminalReason := some reason } none
          | none => do
              setState key st
              liftRaises (.error failure)
    else closeEpoch key { st with state := .incomplete, terminalReason := some "GAP" } none

/-- `_cancel`. -/
def cancel (key : FileEpochKey) (st : ReassemblyState) (packet : FilePacket) (receivedAtUs : ℕ) :
    ReassemblyProgram ReassemblyResult := do
  let r ← get
  if packet.sequenceIndex ≠ r.nextSequence key then
    liftRaises (fileReassemblyError "INVALID_CANCEL" "CANCEL must use the next sequence")
  else
    closeEpoch key
      { st.markTerminal packet receivedAtUs with
        state := .canceled
        terminalReason := some "REMOTE_CANCEL" } none

/-! ### Reception -/

/-- `receive`, once the key was built. -/
def receive (readings : StorageReadings) (packet : FilePacket) (key : FileEpochKey)
    (receivedAtUs : ℕ) : ReassemblyProgram ReassemblyResult := do
  if packet.packetType = .start then start readings packet key receivedAtUs
  else do
    let r ← get
    match r.states.find? key with
    | none => pure ⟨key, .incomplete, none, none, 0, none, some "MISSING_START", none⟩
    | some st =>
        if st.state ≠ .receiving then
          if st.isDuplicateTerminal packet then pure (st.result key none)
          else
            liftRaises (fileReassemblyError "FILE_PACKET_CONFLICT"
              "packet arrived after terminal epoch")
        else
          match packet.packetType with
          | .data => data key st packet receivedAtUs
          | .endOfFile => endFile key st packet receivedAtUs
          | _ => cancel key st packet receivedAtUs

end FilePacketReassembler

/-! ## Runs -/

/-- One packet at the reassembler. -/
structure FileArrival where
  packet : FilePacket
  key : FileEpochKey
  receivedAtUs : ℕ
  readings : StorageReadings

/-- The result of a method, with the state it left. -/
def reassemblyStep (r : FilePacketReassembler) (a : FileArrival) :
    EStateM.Result PyException FilePacketReassembler ReassemblyResult :=
  FilePacketReassembler.receive a.readings a.packet a.key a.receivedAtUs r

/-- The reassembler as a machine over arriving packets. -/
def reassemblyMachine : Machine FilePacketReassembler FileArrival (Raises ReassemblyResult) where
  step r a := (Effect.finalState (reassemblyStep r a), outcome (reassemblyStep r a))

end CubeNano

import CubeNano.Flight.TmCounters
import CubeNano.Protocol.Ccsds
import CubeNano.Protocol.FileIntegrity
import CubeNano.Protocol.FilePacket
import CubeNano.Protocol.ProductRef

/-!
# File downlink

`flight/file_downlink.py`: the coordinator of the one global file transfer.  It leases
one frame at a time and goes on only when the frame's completion is reported.

A method is an `EStateM` program over the coordinator and the journal's counter tables,
from which an attached allocator draws.  The file system is an input of a call; the
transfer callback is a function of the coordinator that may raise.

## Main definitions

* `FileDownlinkCoordinator`, `ActiveTransfer`, `FrameLease`
* `FileDownlinkCoordinator.start`, `.nextFrame`, `.enqueueNext`, `.completeFrame`,
  `.cooldownTick`
* `FileDownlinkCoordinator.packets` — the packets of a transfer whose frames all complete
-/

namespace CubeNano

/-- `TransferState`. -/
inductive TransferState
  | idle
  | sending
  | cancelRequested
  | cancelDraining
  | aborting
  | cooldown
  | sendCompleted
  | sendFailed
  | canceled
  deriving DecidableEq, Repr

/-- `TERMINAL_TRANSFER_STATES`. -/
def TransferState.terminal : TransferState → Bool
  | sendCompleted => true
  | sendFailed => true
  | canceled => true
  | _ => false

/-- A file of the disk. -/
structure BundleFile where
  device : ℕ
  inode : ℕ
  mtimeNs : ℕ
  content : Bytes

/-- `_BundleStamp`. -/
structure BundleStamp where
  device : ℕ
  inode : ℕ
  size : ℕ
  mtimeNs : ℕ
  deriving DecidableEq

/-- The disk during a call. -/
abbrev Disk := Text → Option BundleFile

/-- `_bundle_stamp` of a file that exists. -/
def BundleFile.stamp (file : BundleFile) : BundleStamp :=
  ⟨file.device, file.inode, file.content.length, file.mtimeNs⟩

/-- The file at a path. -/
def Disk.open (disk : Disk) (path : Text) : Raises BundleFile :=
  match disk path with
  | none => .error ⟨.osError, "No such file or directory"⟩
  | some file => .ok file

/-- `FrameLease`. -/
structure FrameLease where
  attemptEpoch : ℕ
  leaseId : ℕ
  transferId : U32
  packet : FilePacket
  frame : Bytes
  orderingKey : Option ℕ
  deriving DecidableEq

/-- `ActiveTransfer`. -/
structure ActiveTransfer where
  transferId : U32
  productRef : ProductRef
  bundlePath : Text
  bundleSize : ℕ
  bundleSha256 : Text
  bundleChecksum : ℕ
  bundleStamp : BundleStamp
  attemptEpoch : ℕ
  state : TransferState
  nextOffset : ℕ
  nextFileSequence : ℕ
  packetSequence : ℕ
  currentLease : Option FrameLease
  outputGateOpen : Bool
  abortReason : Option String
  epochClosed : Bool
  cooldownTicks : ℕ
  terminalAfterCooldown : Option TransferState

/-- `FileDownlinkCoordinator`. -/
structure FileDownlinkCoordinator where
  tmFileApid : ℕ
  spacecraftId : ℕ
  requiredCooldownTicks : ℕ
  stateCallback : U32 → TransferState → Option String → Raises Unit
  /-- The virtual channel of the attached counter allocator. -/
  tmCounterAllocator : Option ℕ
  active : Option ActiveTransfer
  closedAttempts : List U32
  nextAttemptEpoch : ℕ
  nextLeaseId : ℕ

/-- What a method of the coordinator reads and writes. -/
structure DownlinkState where
  coordinator : FileDownlinkCoordinator
  /-- The counter tables of the journal. -/
  counters : TmCounterTables

/-- A method of the coordinator. -/
abbrev DownlinkProgram (α : Type) := EStateM PyException DownlinkState α

namespace FileDownlinkCoordinator

/-- `SUCCESS_STATUSES`. -/
def successStatuses : List String :=
  ["OK", "SUCCESS", "FRAME_ACCEPTED", "UDP_SENT", "LINK_CONSUMED"]

/-- Assignment to the active transfer. -/
def setActive (active : ActiveTransfer) : DownlinkProgram Unit :=
  modify fun s => { s with coordinator := { s.coordinator with active := some active } }

/-- `_transition`. -/
def transition (active : ActiveTransfer) (state : TransferState) (reason : Option String) :
    DownlinkProgram ActiveTransfer := do
  let active := { active with state := state, abortReason := reason.or active.abortReason }
  setActive active
  let s ← get
  liftRaises (s.coordinator.stateCallback active.transferId state reason)
  pure active

/-- The checks of `start` and the new transfer. -/
def openTransfer (c : FileDownlinkCoordinator) (disk : Disk) (transferId : U32)
    (productRef : ProductRef) (path : Text) : Raises ActiveTransfer :=
  if (c.active.map fun active => !active.state.terminal).getD false then
    runtimeError "TRANSFER_BUSY"
  else if transferId ∈ c.closedAttempts then runtimeError "TRANSFER_RETIRED"
  else
    match disk path with
    | none => .error ⟨.osError, "bundle does not exist"⟩
    | some file =>
        if file.stamp.size > 0xFFFFFFFF then
          valueError "bundle exceeds FilePacket U32 offset range"
        else
          let integrity := streamBundleIntegrity file.content
          if integrity.size ≠ file.stamp.size then runtimeError "BUNDLE_MUTATED"
          else
            .ok ⟨transferId, productRef, path, integrity.size, integrity.sha256,
              integrity.cfdpChecksum, file.stamp, c.nextAttemptEpoch, .sending, 0, 0, 0, none, true,
              none, false, 0, none⟩

/-- `start`. -/
def start (disk : Disk) (transferId : U32) (productRef : ProductRef) (path : Text) :
    DownlinkProgram ActiveTransfer := do
  let s ← get
  let active ← liftRaises (s.coordinator.openTransfer disk transferId productRef path)
  modify fun s =>
    { s with
      coordinator := { s.coordinator with
        nextAttemptEpoch := s.coordinator.nextAttemptEpoch + 1
        active := some active } }
  transition active .sending none

/-- `_active_for`. -/
def activeFor (c : FileDownlinkCoordinator) (transferId : U32) : Raises ActiveTransfer :=
  match c.active with
  | none => runtimeError "TRANSFER_NOT_ACTIVE"
  | some active =>
      if active.transferId ≠ transferId then runtimeError "TRANSFER_NOT_ACTIVE" else .ok active

/-- `b/{boot:08x}/{product:08x}.tar`. -/
def source (active : ActiveTransfer) : Text :=
  Text.ofString "b/" ++ hexText 8 active.productRef.originBootId.val ++ Text.ofString "/"
    ++ hexText 8 active.productRef.productId.val ++ Text.ofString ".tar"

/-- `p/{boot:08x}/{product:08x}/{transfer:08x}/{sha256}.tar`. -/
def destination (active : ActiveTransfer) : Text :=
  Text.ofString "p/" ++ hexText 8 active.productRef.originBootId.val ++ Text.ofString "/"
    ++ hexText 8 active.productRef.productId.val ++ Text.ofString "/"
    ++ hexText 8 active.transferId.val ++ Text.ofString "/" ++ active.bundleSha256
    ++ Text.ofString ".tar"

/-- The metadata of a START, in the order of the source. -/
def startMetadata (active : ActiveTransfer) : PyValue :=
  .dict [(strKey "source", .str (source active)),
    (strKey "destination", .str (destination active)),
    (strKey "file_size", .int active.bundleSize),
    (strKey "checksum", .int active.bundleChecksum),
    (strKey "product_ref", active.productRef.asDict),
    (strKey "transfer_id", .int active.transferId.val)]

/-- `_start_packet`. -/
def startPacket (active : ActiveTransfer) : Raises FilePacket := do
  let metadata ← canonicalJson (startMetadata active)
  FilePacket.new .start 0 0 metadata

/-- `_read_data`. -/
def readData (disk : Disk) (active : ActiveTransfer) : Raises Bytes := do
  let file ← disk.open active.bundlePath
  if file.stamp ≠ active.bundleStamp then runtimeError "BUNDLE_MUTATED"
  else
    let payload := (file.content.drop active.nextOffset).take
      (min maxFileDataPerFrame (active.bundleSize - active.nextOffset))
    if payload = [] then runtimeError "BUNDLE_TRUNCATED" else .ok payload

/-- `_next_packet`; a requested cancellation is noted before its packet is built. -/
def nextPacket (disk : Disk) (active : ActiveTransfer) :
    DownlinkProgram (Option FilePacket × ActiveTransfer) := do
  if !active.outputGateOpen || active.state = .aborting || active.state = .cooldown ||
      active.state.terminal then
    pure (none, active)
  else do
    let file ← liftRaises (disk.open active.bundlePath)
    if file.stamp ≠ active.bundleStamp then liftRaises (runtimeError "BUNDLE_MUTATED")
    else if active.nextFileSequence = 0 then do
      let packet ← liftRaises (startPacket active)
      pure (some packet, active)
    else if active.state = .cancelRequested ∧ active.nextOffset < active.bundleSize then do
      let active ← transition active .cancelDraining none
      let packet ← liftRaises (FilePacket.new .cancel active.nextFileSequence active.nextOffset
        "MISSION_CANCEL".toUTF8.toList)
      pure (some packet, active)
    else if active.nextOffset < active.bundleSize then do
      let payload ← liftRaises (readData disk active)
      let packet ← liftRaises
        (FilePacket.new .data active.nextFileSequence active.nextOffset payload)
      pure (some packet, active)
    else do
      let packet ← liftRaises (FilePacket.new .endOfFile active.nextFileSequence active.bundleSize
        (toBytesBE 4 active.bundleChecksum))
      pure (some packet, active)

/-- `tm_counter_allocator(tm_file_apid)`, if one is attached. -/
def allocateCounters : DownlinkProgram (Option TmFrameCounters) := do
  let s ← get
  match s.coordinator.tmCounterAllocator with
  | none => pure none
  | some virtualChannel => do
      let (counters, tables) ← liftRaises
        (s.counters.allocateTmFrameCounters s.coordinator.tmFileApid virtualChannel)
      set { s with counters := tables }
      pure (some counters)

/-- The TM frame of an application payload. -/
def encodeFrame (c : FileDownlinkCoordinator) (active : ActiveTransfer) (application : Bytes) :
    Option TmFrameCounters → Raises Bytes
  | none => do
      let spacePacket ← encodeSpacePacket c.tmFileApid application active.packetSequence
      encodeTmFrame spacePacket c.spacecraftId 0 0 0
  | some counters => do
      let spacePacket ← encodeSpacePacket c.tmFileApid application counters.packetSequence
      encodeTmFrame spacePacket c.spacecraftId counters.virtualChannelId
        counters.masterChannelCount counters.virtualChannelCount

/-- `next_frame`. -/
def nextFrame (disk : Disk) (transferId : U32) : DownlinkProgram (Option FrameLease) := do
  let s ← get
  let active ← liftRaises (s.coordinator.activeFor transferId)
  if active.currentLease.isSome then liftRaises (runtimeError "FRAME_IN_FLIGHT")
  else
    match ← nextPacket disk active with
    | (none, _) => pure none
    | (some packet, active) => do
        let counters ← allocateCounters
        let s ← get
        let frame ← liftRaises (s.coordinator.encodeFrame active (encodeFilePacket packet) counters)
        let lease : FrameLease := ⟨active.attemptEpoch, s.coordinator.nextLeaseId,
          active.transferId, packet, frame, counters.map TmFrameCounters.master⟩
        set { s with
          coordinator := { s.coordinator with
            nextLeaseId := s.coordinator.nextLeaseId + 1
            active := some { active with currentLease := some lease } } }
        pure (some lease)

/-- The lease of a frame that the queue refused is given up. -/
def dropLease (lease : FrameLease) : DownlinkProgram Unit := do
  let s ← get
  match s.coordinator.active with
  | none => pure ()
  | some active =>
      if active.currentLease = some lease then setActive { active with currentLease := none }
      else pure ()

/-- `enqueue_next`; `enqueueFile` is the scheduler's `enqueue_file`, which queues the frame
or raises. -/
def enqueueNext (disk : Disk) (enqueueFile : Bytes → Option ℕ → Raises ℕ) (transferId : U32) :
    DownlinkProgram (Option ℕ) := do
  match ← nextFrame disk transferId with
  | none => pure none
  | some lease =>
      match enqueueFile lease.frame lease.orderingKey with
      | .ok item => pure (some item)
      | .error failure => do
          dropLease lease
          throw failure

/-- A completed frame of an active transfer, by the type of its packet. -/
def advanceTransfer (active : ActiveTransfer) (packet : FilePacket) :
    DownlinkProgram Unit := do
  let active := { active with
    packetSequence := (active.packetSequence + 1) % 16384
    nextFileSequence := packet.sequenceIndex + 1 }
  match packet.packetType with
  | .start => setActive active
  | .data => setActive { active with nextOffset := packet.offset + packet.payload.length }
  | .endOfFile => do
      let _ ← transition { active with
        outputGateOpen := false
        epochClosed := true
        terminalAfterCooldown := some .sendCompleted } .cooldown none
  | .cancel => do
      let _ ← transition { active with
        outputGateOpen := false
        epochClosed := true
        terminalAfterCooldown := some .canceled } .cooldown none

/-- `complete_frame`. -/
def completeFrame (lease : FrameLease) (status : String) : DownlinkProgram Bool := do
  let s ← get
  match s.coordinator.active with
  | none => pure false
  | some active =>
      if active.attemptEpoch ≠ lease.attemptEpoch ∨ active.transferId ≠ lease.transferId then
        pure false
      else
        match active.currentLease with
        | none => pure false
        | some current =>
            if current.leaseId ≠ lease.leaseId then pure false
            else do
              let active := { active with currentLease := none }
              setActive active
              if active.state = .aborting then pure true
              else if status.toUpper ∉ successStatuses then do
                let _ ← transition { active with
                  outputGateOpen := false
                  terminalAfterCooldown := some .sendFailed } .aborting (some s!"LINK_{status}")
                pure true
              else do
                advanceTransfer active lease.packet
                pure true

/-- `begin_abort`. -/
def beginAbort (transferId : U32) (reason : String) : DownlinkProgram Unit := do
  let s ← get
  let active ← liftRaises (s.coordinator.activeFor transferId)
  if active.state.terminal then pure ()
  else do
    let _ ← transition { active with
      outputGateOpen := false
      terminalAfterCooldown := some .sendFailed } .aborting (some reason)

/-- `close_abort_fence`. -/
def closeAbortFence (transferId : U32) : DownlinkProgram Unit := do
  let s ← get
  let active ← liftRaises (s.coordinator.activeFor transferId)
  if active.state ≠ .aborting then liftRaises (runtimeError "TRANSFER_NOT_ABORTING")
  else if active.currentLease.isSome then liftRaises (runtimeError "BUFFER_STILL_IN_FLIGHT")
  else do
    let _ ← transition { active with epochClosed := true } .cooldown active.abortReason

/-- `cooldown_tick`. -/
def cooldownTick (transferId : U32) : DownlinkProgram TransferState := do
  let s ← get
  let active ← liftRaises (s.coordinator.activeFor transferId)
  if active.state ≠ .cooldown then pure active.state
  else if !active.epochClosed then liftRaises (runtimeError "FILE_EPOCH_NOT_CLOSED")
  else do
    let active := { active with cooldownTicks := active.cooldownTicks + 1 }
    setActive active
    if active.cooldownTicks ≥ s.coordinator.requiredCooldownTicks then do
      let active ← transition active (active.terminalAfterCooldown.getD .sendFailed)
        active.abortReason
      modify fun s =>
        { s with
          coordinator := { s.coordinator with
            closedAttempts := active.transferId :: s.coordinator.closedAttempts } }
      pure active.state
    else pure active.state

/-- `cancel`. -/
def cancel (transferId : U32) : DownlinkProgram String := do
  let s ← get
  let active ← liftRaises (s.coordinator.activeFor transferId)
  if active.state.terminal then pure "ALREADY_TERMINAL"
  else if active.state = .aborting ∨ active.state = .cooldown ∨ active.state = .cancelDraining then
    pure "CANCEL_REQUESTED"
  else if active.state = .sending then do
    let _ ← transition active .cancelRequested none
    pure "CANCEL_REQUESTED"
  else pure "CANCEL_REQUESTED"

end FileDownlinkCoordinator

end CubeNano

import CubeNano.Lib.Machine
import CubeNano.Lib.Serial
import CubeNano.Lib.Table
import CubeNano.Protocol.Ccsds
import CubeNano.Protocol.FilePacket
import CubeNano.Protocol.PyValue
import CubeNano.Protocol.Sha256

/-!
# The ground TM counter ledger

`TmCounterLedger.observe` of `gds/tm.py`: the ground side classifies every
decoded TM packet by three modular counters before its payload may act.  The
ledger's SQL tables are a `Table` each, with the columns of their primary keys
as the key type; one `observe` is one transaction, so a call that raises leaves
the ledger as it was.

## Main definitions

* `advance` — the half-window classification of one counter
* `TmCounterLedger.classify` — the part of `observe` behind the fences
* `TmCounterLedger.observe` — the whole transaction
* `ledgerMachine` — the ledger as a machine over decoded packets
-/

namespace CubeNano

/-- The `direction` of a validated transport envelope. -/
inductive LinkDirection
  | uplink
  | downlink
  deriving DecidableEq, Repr

/-- `ValidatedTransportEnvelope`: the identity captured at transport validation. -/
structure ValidatedTransportEnvelope where
  sourceSpacecraftInstanceId : U64
  senderBootId : U32
  linkSessionId : U64
  linkGeneration : U64
  simulationRunId : U64
  linkFrameId : U64
  senderFrameId : U64
  fileEpochId : U64
  copyIndex : U32
  receivedAtUs : ℕ
  direction : LinkDirection
  frameBytes : Bytes
  frameBytes_ne_nil : frameBytes ≠ []

/-- `TmPacketKind`. -/
inductive TmPacketKind
  | telemetry
  | eventAck
  | file
  deriving DecidableEq, Repr

/-- `DecodedTmPacket`. -/
structure DecodedTmPacket where
  envelope : ValidatedTransportEnvelope
  frame : TmFrame
  apid : ℕ
  descriptor : ℕ
  kind : TmPacketKind
  applicationPayload : Bytes
  message : Option PyValue
  filePacket : Option FilePacket

/-- `TmCounterStatus`. -/
inductive TmCounterStatus
  | baseline
  | inOrder
  | rollover
  | gap
  | duplicate
  | staleGeneration
  | staleSession
  | staleCounter
  | counterConflict
  deriving DecidableEq, Repr

/-- `TmCounterStatus.accepted`. -/
def TmCounterStatus.accepted : TmCounterStatus → Bool
  | baseline | inOrder | rollover | gap => true
  | _ => false

/-- `TmCounterObservation`. -/
structure TmCounterObservation where
  status : TmCounterStatus
  masterGap : ℕ := 0
  virtualGap : ℕ := 0
  packetGap : ℕ := 0
  fileGap : ℕ := 0
  deriving DecidableEq, Repr

/-- The relation of a counter to the last one accepted. -/
inductive CounterRelation
  | baseline
  | duplicate
  | inOrder
  | rollover
  | gap
  | stale
  deriving DecidableEq, Repr

/-- `TmCounterLedger._advance`. -/
def advance (previous current modulus : ℕ) : CounterRelation × ℕ :=
  if current = previous then (.duplicate, 0)
  else
    let delta := Serial.delta modulus previous current
    if delta = 1 then
      (if previous = modulus - 1 ∧ current = 0 then .rollover else .inOrder, 0)
    -- More than half a modulus is an old counter; the ambiguous half-modulus
    -- point fails closed too.
    else if 1 < delta ∧ delta < modulus / 2 then (.gap, delta - 1)
    else (.stale, 0)

/-! ## The tables -/

/-- Primary key of `tm_counter_observations`. -/
structure ObservationKey where
  source : U64
  simulationRun : U64
  linkFrame : U64
  copyIndex : U32
  deriving DecidableEq

/-- A row of `tm_counter_observations`. -/
structure ObservationRow where
  linkGeneration : U64
  linkSession : U64
  apid : ℕ
  frameSha256 : Bytes
  observation : TmCounterObservation
  receivedAtUs : ℕ
  deriving DecidableEq

/-- A row of `tm_source_generations`. -/
structure SourceGeneration where
  activeLinkGeneration : U64
  activeLinkSession : U64
  updatedAtUs : ℕ
  deriving DecidableEq

/-- Primary key of `tm_channel_counter_states`. -/
structure ChannelKey where
  source : U64
  linkGeneration : U64
  linkSession : U64
  senderBoot : U32
  virtualChannel : ℕ
  deriving DecidableEq

/-- A row of `tm_channel_counter_states`. -/
structure ChannelCounterState where
  lastMasterChannelCount : ℕ
  lastVirtualChannelCount : ℕ
  masterEpoch : ℕ
  virtualEpoch : ℕ
  lastLinkFrame : U64
  updatedAtUs : ℕ
  deriving DecidableEq

/-- Primary key of `tm_packet_counter_states`. -/
structure PacketKey where
  channel : ChannelKey
  apid : ℕ
  deriving DecidableEq

/-- A row of `tm_packet_counter_states`. -/
structure PacketCounterState where
  lastPacketSequence : ℕ
  packetEpoch : ℕ
  lastLinkFrame : U64
  updatedAtUs : ℕ
  deriving DecidableEq

/-- Primary key of `tm_counter_states`. -/
structure FileCounterKey where
  packet : PacketKey
  fileEpoch : U64
  deriving DecidableEq

/-- A row of `tm_counter_states`. -/
structure FileCounterState where
  lastMasterChannelCount : ℕ
  lastVirtualChannelCount : ℕ
  lastPacketSequence : ℕ
  lastFileSequence : Option ℕ
  masterEpoch : ℕ
  virtualEpoch : ℕ
  packetEpoch : ℕ
  fileEpoch : ℕ
  lastLinkFrame : U64
  updatedAtUs : ℕ
  deriving DecidableEq

/-- The five tables `observe` reads and writes. -/
structure TmCounterLedger where
  observations : Table ObservationKey ObservationRow
  generations : Table U64 SourceGeneration
  channels : Table ChannelKey ChannelCounterState
  packets : Table PacketKey PacketCounterState
  files : Table FileCounterKey FileCounterState

namespace DecodedTmPacket

/-- The key an observation of this packet is recorded under. -/
def observationKey (d : DecodedTmPacket) : ObservationKey :=
  ⟨d.envelope.sourceSpacecraftInstanceId, d.envelope.simulationRunId, d.envelope.linkFrameId,
    d.envelope.copyIndex⟩

/-- `channel_params`. -/
def channelKey (d : DecodedTmPacket) : ChannelKey :=
  ⟨d.envelope.sourceSpacecraftInstanceId, d.envelope.linkGeneration, d.envelope.linkSessionId,
    d.envelope.senderBootId, d.frame.virtualChannelId⟩

/-- `packet_params`. -/
def packetKey (d : DecodedTmPacket) : PacketKey := ⟨d.channelKey, d.apid⟩

/-- `file_state_params`: only FILE packets are scoped by their file epoch. -/
def fileKey (d : DecodedTmPacket) : FileCounterKey :=
  ⟨d.packetKey, if d.kind = .file then d.envelope.fileEpochId else 0⟩

/-- `frame_sha256`. -/
def frameSha256 (d : DecodedTmPacket) : Bytes := sha256 d.envelope.frameBytes

end DecodedTmPacket

namespace TmCounterLedger

/-- A ledger without rows. -/
def empty : TmCounterLedger := ⟨.empty, .empty, .empty, .empty, .empty⟩

/-- `_increment_epoch`. -/
def incrementEpoch (value : ℕ) (label : String) : Raises ℕ :=
  if value ≥ 0xFFFFFFFF then
    runtimeError s!"{label} epoch exhausted; rebind the spacecraft instance"
  else .ok (value + 1)

/-- The epoch after an accepted counter: only a `ROLLOVER` moves it. -/
def nextEpoch (relation : CounterRelation) (epoch : ℕ) (label : String) : Raises ℕ :=
  if relation = .rollover then incrementEpoch epoch label else .ok epoch

/-- `insert_observation`. -/
def insertObservation (l : TmCounterLedger) (d : DecodedTmPacket)
    (observation : TmCounterObservation) : TmCounterLedger :=
  let row : ObservationRow :=
    ⟨d.envelope.linkGeneration, d.envelope.linkSessionId, d.apid, d.frameSha256, observation,
      d.envelope.receivedAtUs⟩
  { l with observations := l.observations.set d.observationKey row }

/-- The relations and gaps of the master and virtual counters, with their epochs. -/
def channelRelations (l : TmCounterLedger) (d : DecodedTmPacket) :
    ((CounterRelation × ℕ) × ℕ) × ((CounterRelation × ℕ) × ℕ) :=
  match l.channels.find? d.channelKey with
  | none => (((.baseline, 0), 0), ((.baseline, 0), 0))
  | some state =>
      ((advance state.lastMasterChannelCount d.frame.masterChannelCount 256, state.masterEpoch),
        (advance state.lastVirtualChannelCount d.frame.virtualChannelCount 256,
          state.virtualEpoch))

/-- The relation and gap of the packet counter, with its epoch. -/
def packetRelation (l : TmCounterLedger) (d : DecodedTmPacket) : (CounterRelation × ℕ) × ℕ :=
  match l.packets.find? d.packetKey with
  | none => ((.baseline, 0), 0)
  | some state =>
      (advance state.lastPacketSequence d.frame.packet.sequenceCount 16384, state.packetEpoch)

/-- The status of an accepted packet. -/
def acceptedStatus (relations : List CounterRelation) : TmCounterStatus :=
  if .gap ∈ relations then .gap
  else if .rollover ∈ relations then .rollover
  else if ∀ relation ∈ relations, relation = .baseline then .baseline
  else .inOrder

/-- The FilePacket part of an accepted observation: the file gap and the row of
`tm_counter_states`, a high-watermark because DATA may arrive out of order. -/
def observeFile (l : TmCounterLedger) (d : DecodedTmPacket)
    (masterEpoch virtualEpoch packetEpoch : ℕ) : ℕ × Table FileCounterKey FileCounterState :=
  match d.filePacket with
  | none => (0, l.files)
  | some filePacket =>
      let sequence := filePacket.sequenceIndex
      let row (last : Option ℕ) (fileEpoch : ℕ) : FileCounterState :=
        ⟨d.frame.masterChannelCount, d.frame.virtualChannelCount, d.frame.packet.sequenceCount,
          last, masterEpoch, virtualEpoch, packetEpoch, fileEpoch, d.envelope.linkFrameId,
          d.envelope.receivedAtUs⟩
      match l.files.find? d.fileKey with
      | none => (0, l.files.set d.fileKey (row (some sequence) 0))
      | some state =>
          match state.lastFileSequence with
          | none => (0, l.files.set d.fileKey (row (some sequence) state.fileEpoch))
          | some previous =>
              if sequence > previous then
                (sequence - previous - 1,
                  l.files.set d.fileKey (row (some sequence) state.fileEpoch))
              else (0, l.files.set d.fileKey (row (some previous) state.fileEpoch))

/-- `observe` behind the observation key and the generation fence. -/
def classify (l : TmCounterLedger) (d : DecodedTmPacket) :
    Raises (TmCounterObservation × TmCounterLedger) :=
  let (((masterRelation, masterGap), masterEpoch), ((virtualRelation, virtualGap), virtualEpoch)) :=
    l.channelRelations d
  let ((packetRelation, packetGap), packetEpoch) := l.packetRelation d
  let relations := [masterRelation, virtualRelation, packetRelation]
  if ∀ relation ∈ relations, relation = .duplicate then
    .ok (⟨.duplicate, 0, 0, 0, 0⟩, l.insertObservation d ⟨.duplicate, 0, 0, 0, 0⟩)
  else if .stale ∈ relations ∨ .duplicate ∈ relations then
    .ok (⟨.staleCounter, 0, 0, 0, 0⟩, l.insertObservation d ⟨.staleCounter, 0, 0, 0, 0⟩)
  else do
    let masterEpoch' ← nextEpoch masterRelation masterEpoch "TM master counter"
    let virtualEpoch' ← nextEpoch virtualRelation virtualEpoch "TM virtual counter"
    let packetEpoch' ← nextEpoch packetRelation packetEpoch "TM packet counter"
    let (fileGap, files) := l.observeFile d masterEpoch' virtualEpoch' packetEpoch'
    let observation : TmCounterObservation :=
      ⟨acceptedStatus relations, masterGap, virtualGap, packetGap, fileGap⟩
    let l' : TmCounterLedger :=
      { l with
        channels := l.channels.set d.channelKey
          ⟨d.frame.masterChannelCount, d.frame.virtualChannelCount, masterEpoch', virtualEpoch',
            d.envelope.linkFrameId, d.envelope.receivedAtUs⟩
        packets := l.packets.set d.packetKey
          ⟨d.frame.packet.sequenceCount, packetEpoch', d.envelope.linkFrameId,
            d.envelope.receivedAtUs⟩
        files := files }
    .ok (observation, l'.insertObservation d observation)

/-- The generation fence: the refusal of an old generation or a foreign session,
or the ledger with the packet's generation established. -/
def fence (l : TmCounterLedger) (d : DecodedTmPacket) : TmCounterStatus ⊕ TmCounterLedger :=
  let source := d.envelope.sourceSpacecraftInstanceId
  let generation := d.envelope.linkGeneration
  let session := d.envelope.linkSessionId
  let row : SourceGeneration := ⟨generation, session, d.envelope.receivedAtUs⟩
  let established : TmCounterLedger := { l with generations := l.generations.set source row }
  match l.generations.find? source with
  | none => .inr established
  | some active =>
      if generation < active.activeLinkGeneration then .inl .staleGeneration
      else if generation = active.activeLinkGeneration ∧ session ≠ active.activeLinkSession then
        .inl .staleSession
      else if generation > active.activeLinkGeneration then .inr established
      else .inr l

/-- `TmCounterLedger.observe`. -/
def observe (l : TmCounterLedger) (d : DecodedTmPacket) :
    Raises (TmCounterObservation × TmCounterLedger) :=
  if d.envelope.direction ≠ .downlink then
    valueError "TM counters accept DOWNLINK frames only"
  else
    match l.observations.find? d.observationKey with
    | some previous =>
        if previous.frameSha256 ≠ d.frameSha256 then .ok (⟨.counterConflict, 0, 0, 0, 0⟩, l)
        else .ok (⟨.duplicate, 0, 0, 0, 0⟩, l)
    | none =>
        match l.fence d with
        | .inl refusal => .ok (⟨refusal, 0, 0, 0, 0⟩, l.insertObservation d ⟨refusal, 0, 0, 0, 0⟩)
        | .inr l' => l'.classify d

end TmCounterLedger

/-- The ledger as a machine: a call that raises rolls its transaction back. -/
def ledgerMachine : Machine TmCounterLedger DecodedTmPacket (Raises TmCounterObservation) where
  step l d :=
    match l.observe d with
    | .ok (observation, l') => (l', .ok observation)
    | .error failure => (l, .error failure)

/-- Whether a result is an accepted observation. -/
def isAccepted : Raises TmCounterObservation → Bool
  | .ok observation => observation.status.accepted
  | .error _ => false

end CubeNano

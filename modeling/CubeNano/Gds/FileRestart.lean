import CubeNano.Gds.FileEpochs

/-!
# File reassembly across restarts of the ground

The constructor of `FilePacketReassembler` reloads the epochs of `file_reassemblies` that
are still receiving, releases the reservations no epoch owns any more and cancels the
epochs that have been idle for too long.

A ground is a machine over packets, runs of `reconcile` and restarts.  A restart keeps the
tables of the writer and what it finds under the staging root, and forgets the epochs in
memory.

## Main definitions

* `FilePacketReassembler.reconcile`, `FilePacketReassembler.restart`
* `groundMachine` — packets, reconciliations and restarts
* `FilePacketReassembler.RowFrame` — which durable rows a program may change

## Main statements

* `FilePacketReassembler.rowFrame_receive` — a packet changes no durable row but its epoch's
-/

namespace CubeNano

/-- The timeout of the reassembler, and whether a clock was injected. -/
structure ReassemblyLimits where
  reassemblyTimeoutUs : ℕ
  clockInjected : Bool

namespace FilePacketReassembler

/-! ## Reconciliation -/

/-- One turn of the loop of `reconcile`: whether the epoch expired. -/
def expireEpoch (limits : ReassemblyLimits) (now : ℕ) (epoch : FileEpochKey × ReassemblyState) :
    ReassemblyProgram Bool := do
  let st := epoch.2
  if st.state ≠ .receiving ∨ (st.updatedAtUs = 0 ∧ limits.clockInjected = false) ∨
      st.updatedAtUs + limits.reassemblyTimeoutUs > now then pure false
  else do
    let st := { st with
      state := .canceled
      terminalReason := some "REASSEMBLY_TIMEOUT"
      updatedAtUs := now }
    setState epoch.1 st
    persistState epoch.1 st
    let _ ← releaseState epoch.1 st
    removePart epoch.1
    pure true

/-- The loop of `reconcile`: the keys of the expired epochs. -/
def expireEpochs (limits : ReassemblyLimits) (now : ℕ) :
    List (FileEpochKey × ReassemblyState) → ReassemblyProgram (List FileEpochKey)
  | [] => pure []
  | epoch :: rest => do
      let expired ← expireEpoch limits now epoch
      let others ← expireEpochs limits now rest
      pure (if expired then epoch.1 :: others else others)

/-- `reconcile`; the guard reads its own clock. -/
def reconcile (limits : ReassemblyLimits) (readings : StorageReadings) (now : ℕ) :
    ReassemblyProgram (List FileEpochKey) := do
  modify fun r => { r with storageGuard := r.storageGuard.map (·.expire readings.nowUs) }
  let r ← get
  expireEpochs limits now r.states.rows

/-! ## The constructor -/

/-- One turn of the loop of `_load_durable_states`. -/
def loadEpoch (row : FileEpochKey × ReassemblyState) : ReassemblyProgram Unit := do
  setState row.1 row.2
  let r ← get
  match r.parts row.1 with
  | some _ => pure ()
  | none => do
      let st := { row.2 with state := .canceled, terminalReason := some "STAGING_MISSING" }
      setState row.1 st
      persistState row.1 st
      let _ ← releaseState row.1 st
      pure ()

/-- The loop of `_load_durable_states`. -/
def loadEpochs : List (FileEpochKey × ReassemblyState) → ReassemblyProgram Unit
  | [] => pure ()
  | row :: rest => do
      loadEpoch row
      loadEpochs rest

/-- `_load_durable_states`: the rows that are still receiving. -/
def loadDurableStates : ReassemblyProgram Unit := do
  let r ← get
  match r.writer with
  | none => pure ()
  | some rows => loadEpochs (rows.rows.filter fun row => row.2.state = .receiving)

/-- The owners of the reservations of the receiving epochs. -/
def activeOwners (r : FilePacketReassembler) : List Text :=
  (r.states.rows.filter fun epoch =>
    epoch.2.state = .receiving ∧ epoch.2.reservationId.isSome).map fun epoch =>
      reservationOwner epoch.1

/-- `_release_orphaned_reservations`: the active reservations of reassembly epochs that no
receiving epoch owns. -/
def releaseOrphanedReservations (r : FilePacketReassembler) : FilePacketReassembler :=
  match r.writer, r.storageGuard with
  | some _, some storage =>
      let orphans := storage.reservations.rows.filter fun row =>
        row.2.active ∧ (Text.ofString "file-reassembly:").isPrefixOf row.2.owner ∧
          row.2.owner ∉ r.activeOwners
      { r with
        storageGuard := some (orphans.foldl (fun storage row => storage.release row.1) storage) }
  | _, _ => r

/-- `FilePacketReassembler.__init__` over the tables and files of an earlier process. -/
def construct (limits : ReassemblyLimits) (readings : StorageReadings) (now : ℕ) :
    ReassemblyProgram (List FileEpochKey) := do
  loadDurableStates
  modify releaseOrphanedReservations
  reconcile limits readings now

/-- What a restart finds: the tables of the writer, and the staged files of the moment. -/
def found (parts : FileEpochKey → Option Bytes) (r : FilePacketReassembler) :
    FilePacketReassembler :=
  { r with states := .empty, parts := parts }

end FilePacketReassembler

/-! ## The ground as a machine -/

/-- What happens to the ground. -/
inductive GroundEvent
  | arrival (a : FileArrival)
  | reconcile (readings : StorageReadings) (now : ℕ)
  | restart (parts : FileEpochKey → Option Bytes) (readings : StorageReadings) (now : ℕ)

namespace GroundEvent

/-- The ground restarts. -/
def IsRestart : GroundEvent → Prop
  | .restart _ _ _ => True
  | _ => False

/-- A START of the epoch arrives. -/
def Starts (key : FileEpochKey) : GroundEvent → Prop
  | .arrival a => a.key = key ∧ a.packet.packetType = .start
  | _ => False

/-- The state after an event, however it ended. -/
def next (limits : ReassemblyLimits) (r : FilePacketReassembler) :
    GroundEvent → FilePacketReassembler
  | .arrival a => Effect.finalState (reassemblyStep r a)
  | .reconcile readings now =>
      Effect.finalState (FilePacketReassembler.reconcile limits readings now r)
  | .restart parts readings now =>
      Effect.finalState (FilePacketReassembler.construct limits readings now (r.found parts))

end GroundEvent

/-- The ground as a machine over its events. -/
def groundMachine (limits : ReassemblyLimits) : Machine FilePacketReassembler GroundEvent Unit where
  step r e := (e.next limits r, ())

/-! ## Durable rows -/

/-- A START payload that may open the epoch. -/
def Opens (key : FileEpochKey) (payload : Bytes) : Prop :=
  ∃ m, readStart payload = .ok m ∧ m.productRef.spacecraftInstanceId = key.spacecraftInstanceId

namespace FilePacketReassembler

open Effect

/-- The durable row of an epoch. -/
def rowOf (r : FilePacketReassembler) (key : FileEpochKey) : Option ReassemblyState :=
  r.writer.bind fun rows => rows.find? key

/-- Since `r` no durable row but that of the epoch changed, and what is recorded of the epoch
came with a START payload of its own. -/
structure RowFrame (key : FileEpochKey) (r s : FilePacketReassembler) : Prop where
  others : ∀ other, other ≠ key → s.rowOf other = r.rowOf other
  durable : s.writer.isSome = r.writer.isSome
  state : ∀ st, s.states.find? key = some st → Opens key st.startPayload
  row : ∀ st, s.rowOf key = some st → Opens key st.startPayload

variable {key : FileEpochKey} {r s : FilePacketReassembler} {st : ReassemblyState}

namespace RowFrame

/-- A change that leaves the tables of epochs alone. -/
theorem of_same (frame : RowFrame key r s) {t : FilePacketReassembler}
    (states : t.states = s.states) (writer : t.writer = s.writer) : RowFrame key r t where
  others other ne := by
    rw [rowOf, writer]
    exact frame.others other ne
  durable := (congrArg _ writer).trans frame.durable
  state := by
    rw [states]
    exact frame.state
  row := by
    rw [rowOf, writer]
    exact frame.row

/-- A change of the durable row of the epoch. -/
theorem withWriter (frame : RowFrame key r s) {t : FilePacketReassembler}
    {rows rows' : Table FileEpochKey ReassemblyState} (states : t.states = s.states)
    (before : s.writer = some rows) (after : t.writer = some rows')
    (others : ∀ other, other ≠ key → rows'.find? other = rows.find? other)
    (own : ∀ st, rows'.find? key = some st → Opens key st.startPayload) : RowFrame key r t where
  others other ne := by
    have old := frame.others other ne
    rw [rowOf, before] at old
    rw [rowOf, after]
    exact (others other ne).trans old
  durable := by
    rw [after, ← frame.durable, before]
    rfl
  state := by
    rw [states]
    exact frame.state
  row := by
    rw [rowOf, after]
    exact own

/-- A change of the state of the epoch in memory. -/
theorem withStates (frame : RowFrame key r s) {t : FilePacketReassembler}
    (writer : t.writer = s.writer)
    (own : ∀ st, t.states.find? key = some st → Opens key st.startPayload) : RowFrame key r t where
  others other ne := by
    rw [rowOf, writer]
    exact frame.others other ne
  durable := (congrArg _ writer).trans frame.durable
  state := own
  row := by
    rw [rowOf, writer]
    exact frame.row

end RowFrame

theorem find?_of_updateRow {rows rows' : Table FileEpochKey ReassemblyState}
    {f : ReassemblyState → ReassemblyState} (updated : updateRow rows key f = .ok rows')
    (k : FileEpochKey) :
    rows'.find? k = if k = key then (rows.find? key).map f else rows.find? k := by
  unfold updateRow at updated
  cases stored : rows.find? key with
  | none =>
      rw [stored] at updated
      cases updated
      split
      · rename_i same
        rw [same, stored]
        rfl
      · rfl
  | some row =>
      rw [stored] at updated
      dsimp only at updated
      split at updated
      · cases updated
      · cases updated
        rw [Table.find?_set]
        rfl

/-- A row written for the epoch. -/
theorem opens_of_updateRow {rows rows' : Table FileEpochKey ReassemblyState}
    {f : ReassemblyState → ReassemblyState} (updated : updateRow rows key f = .ok rows')
    (own : ∀ row, rows.find? key = some row → Opens key (f row).startPayload) :
    ∀ st, rows'.find? key = some st → Opens key st.startPayload := by
  intro st found
  rw [find?_of_updateRow updated, if_pos rfl] at found
  obtain ⟨row, stored, rfl⟩ := Option.map_eq_some_iff.mp found
  exact own row stored

theorem RowFrame.own (frame : RowFrame key r s) {rows : Table FileEpochKey ReassemblyState}
    (writer : s.writer = some rows) {row : ReassemblyState} (stored : rows.find? key = some row) :
    Opens key row.startPayload := frame.row row (by rw [rowOf, writer]; exact stored)

/-! ### The parts of the methods -/

theorem rowFrame_setState (opens : Opens key st.startPayload) :
    Keeps (RowFrame key r) (setState key st) :=
  Keeps.modify fun s frame => frame.withStates rfl fun st' found => by
    rw [Table.find?_set_self] at found
    cases found
    exact opens

theorem rowFrame_removePart : Keeps (RowFrame key r) (removePart key) :=
  Keeps.modify fun _ frame => frame.of_same rfl rfl

theorem rowFrame_persistState (opens : Opens key st.startPayload) :
    Keeps (RowFrame key r) (persistState key st) := by
  refine Triple.reading fun s frame => ?_
  cases writer : s.writer with
  | none => exact Triple.set fun _ _ => frame.of_same rfl rfl
  | some rows =>
      dsimp only
      cases updated : updateRow rows key fun _ => st with
      | error failure => exact Triple.raise fun _ h => h
      | ok rows' =>
          exact Triple.set fun _ _ => frame.withWriter rfl writer rfl
            (fun other ne => by rw [find?_of_updateRow updated, if_neg ne])
            (opens_of_updateRow updated fun _ _ => opens)

theorem rowFrame_persistStart (opens : Opens key st.startPayload) :
    Keeps (RowFrame key r) (persistStart key st) := by
  refine Triple.reading fun s frame => ?_
  cases writer : s.writer with
  | none => exact Keeps.pure _
  | some rows =>
      dsimp only
      split
      · exact keeps_liftRaises _ _
      cases inserted : rows.insert key st with
      | none => exact keeps_liftRaises _ _
      | some rows' =>
          refine Triple.set fun _ _ => frame.withWriter rfl writer rfl
            (fun other ne => by rw [Table.find?_insert inserted, if_neg ne]) fun st' found => ?_
          rw [Table.find?_insert inserted, if_pos rfl] at found
          cases found
          exact opens

theorem rowFrame_persistDataPacket (sequenceIndex : ℕ) (row : PacketRow)
    (oldRanges : List (ℕ × ℕ)) (mergedStart mergedEnd : ℕ) (bytesReceived : ℤ)
    (updatedAtUs : ℕ) :
    Keeps (RowFrame key r) (persistDataPacket key sequenceIndex row oldRanges mergedStart mergedEnd
      bytesReceived updatedAtUs) := by
  refine Triple.reading fun s frame => ?_
  dsimp only
  split
  · exact keeps_liftRaises _ _
  split
  · exact keeps_liftRaises _ _
  cases writer : s.writer with
  | none =>
      refine Triple.set fun _ _ => frame.of_same rfl ?_
      exact writer.symm
  | some rows =>
      unfold updateProgress
      dsimp only
      cases updated : updateRow rows key fun row =>
          { row with bytesReceived := bytesReceived, updatedAtUs := updatedAtUs } with
      | error failure => exact Triple.raise fun _ h => h
      | ok rows' =>
          exact Triple.set fun _ _ => frame.withWriter rfl writer rfl
            (fun other ne => by rw [find?_of_updateRow updated, if_neg ne])
            (opens_of_updateRow updated fun row stored => by
              have opens : Opens key row.startPayload := frame.own writer stored
              exact opens)

theorem rowFrame_releaseState (opens : Opens key st.startPayload) :
    Keeps (RowFrame key r) (releaseState key st) := by
  refine Triple.reading fun s frame => ?_
  split
  · rename_i reservationId storage _ _
    refine Triple.bind (R := fun _ => RowFrame key r) (Triple.set fun _ _ => ?_) fun _ =>
      Keeps.pure _
    have memory : RowFrame key r { s with
        states := s.states.update key fun _ => { st with reservationId := none } } :=
      frame.withStates rfl fun st' found => by
        rw [Table.find?_update, if_pos rfl] at found
        obtain ⟨old, -, rfl⟩ := Option.map_eq_some_iff.mp found
        exact opens
    cases writer : s.writer with
    | none => exact memory.of_same rfl writer.symm
    | some rows =>
        refine memory.withWriter rfl writer rfl
          (fun other ne => by rw [Table.find?_update, if_neg ne]) fun st' found => ?_
        rw [Table.find?_update, if_pos rfl] at found
        obtain ⟨row, stored, rfl⟩ := Option.map_eq_some_iff.mp found
        have opens : Opens key row.startPayload := frame.own writer stored
        exact opens
  · exact Keeps.pure _

/-! ### The methods -/

theorem rowFrame_closeEpoch (opens : Opens key st.startPayload) (product : Option PyValue) :
    Keeps (RowFrame key r) (closeEpoch key st product) :=
  (rowFrame_setState opens).bind fun _ => (rowFrame_persistState opens).bind fun _ =>
    (rowFrame_releaseState opens).bind fun _ => rowFrame_removePart.bind fun _ => Keeps.pure _

theorem rowFrame_reserveStorage (readings : StorageReadings) (size : ℕ) :
    Keeps (RowFrame key r) (reserveStorage readings key size) := by
  intro s frame
  rcases reserveStorage_cases readings size s with
    ⟨failure, raised⟩ | ⟨reservationId, storageGuard, returned⟩
  · rw [raised]
    exact frame
  · rw [returned]
    exact frame.of_same rfl rfl

theorem rowFrame_createPart (reservationId : Option ℕ) :
    Keeps (RowFrame key r) (createPart key reservationId) := by
  intro s frame
  rcases createPart_cases reservationId s with ⟨failure, storageGuard, raised⟩ | returned
  · rw [raised]
    exact frame.of_same rfl rfl
  · rw [returned]
    exact frame.of_same rfl rfl

theorem rowFrame_registerEpoch (opens : Opens key st.startPayload) :
    Keeps (RowFrame key r) (registerEpoch key st) := by
  refine Keeps.bind (Keeps.modify fun s frame => ?_) fun _ =>
    (rowFrame_persistStart opens).tryCatch fun _ => ?_
  · refine frame.withStates ?_ fun st' found => ?_
    · unfold enterEpoch
      split <;> rfl
    · have entered : (s.enterEpoch key st).states = s.states.set key st := by
        unfold enterEpoch
        split <;> rfl
      rw [entered, Table.find?_set_self] at found
      cases found
      exact opens
  · refine Keeps.bind (Keeps.modify fun s frame => ?_) fun _ =>
      (rowFrame_releaseState opens).bind fun _ => rowFrame_removePart.bind fun _ =>
        keeps_liftRaises _ _
    refine frame.withStates rfl fun st' found => ?_
    rw [Table.find?_erase, if_pos rfl] at found
    cases found

/-- A START that passed the checks and is new may open the epoch. -/
theorem opens_of_startChecks {m : StartMetadata} {payload : Bytes} {found : Option ReassemblyState}
    (parsed : readStart payload = .ok m) (checked : s.startChecks key m payload = .ok found) :
    Opens key payload := by
  refine ⟨m, parsed, ?_⟩
  unfold startChecks at checked
  by_cases same : m.productRef.spacecraftInstanceId = key.spacecraftInstanceId
  · exact same
  · rw [if_pos same] at checked
    cases checked

theorem rowFrame_start (readings : StorageReadings) (packet : FilePacket) (receivedAtUs : ℕ) :
    Keeps (RowFrame key r) (start readings packet key receivedAtUs) := by
  unfold start
  split
  · exact keeps_liftRaises _ _
  refine Triple.bind (triple_liftRaises_known _) fun m => Triple.ofFact fun parsed =>
    Triple.reading fun s frame => Triple.bind (triple_liftRaises_known _) fun found =>
      Triple.ofFact fun checked => ?_
  cases found with
  | some existing => exact Keeps.pure _
  | none =>
      have opens := opens_of_startChecks parsed checked
      exact (rowFrame_reserveStorage readings m.fileSize).bind fun reservationId =>
        (rowFrame_createPart reservationId).bind fun _ =>
          (rowFrame_registerEpoch (by exact opens)).bind fun _ => Keeps.pure _

theorem rowFrame_data (opens : Opens key st.startPayload) (packet : FilePacket)
    (receivedAtUs : ℕ) : Keeps (RowFrame key r) (data key st packet receivedAtUs) := by
  unfold data
  split
  · exact keeps_liftRaises _ _
  split
  · exact keeps_liftRaises _ _
  refine Triple.reading fun s frame => ?_
  split
  · exact (keeps_liftRaises _ _).bind fun _ => Keeps.pure _
  · refine (keeps_liftRaises _ _).bind fun read => ?_
    refine Keeps.bind (Keeps.modify fun _ frame => frame.of_same rfl rfl) fun _ =>
      (rowFrame_persistDataPacket _ _ _ _ _ _ _).bind fun _ => ?_
    exact Keeps.bind (rowFrame_setState (by exact opens)) fun _ => Keeps.pure _

theorem rowFrame_endFile (opens : Opens key st.startPayload) (packet : FilePacket)
    (receivedAtUs : ℕ) : Keeps (RowFrame key r) (endFile key st packet receivedAtUs) := by
  intro s frame
  rcases endFile_cases s key st packet receivedAtUs with
    ⟨failure, refused⟩ | ⟨phase, reason, product, -, closes⟩ | ⟨failure, raised⟩
  · rw [refused]
    exact frame
  · rw [closes]
    exact rowFrame_closeEpoch (by exact opens) product s frame
  · rw [raised]
    have marked : Opens key (st.markTerminal packet receivedAtUs).startPayload := opens
    exact rowFrame_setState marked s frame

theorem rowFrame_cancel (opens : Opens key st.startPayload) (packet : FilePacket)
    (receivedAtUs : ℕ) : Keeps (RowFrame key r) (cancel key st packet receivedAtUs) := by
  refine Triple.reading fun s frame => ?_
  split
  · exact keeps_liftRaises _ _
  · exact rowFrame_closeEpoch (by exact opens) none

/-- **A packet changes no durable row but that of its epoch.** -/
theorem rowFrame_receive (readings : StorageReadings) (packet : FilePacket) (receivedAtUs : ℕ) :
    Keeps (RowFrame key r) (receive readings packet key receivedAtUs) := by
  unfold receive
  split
  · exact rowFrame_start readings packet receivedAtUs
  refine Triple.reading fun s frame => ?_
  cases known : s.states.find? key with
  | none => exact Keeps.pure _
  | some st =>
      have opens := frame.state st known
      dsimp only
      split
      · split
        · exact Keeps.pure _
        · exact keeps_liftRaises _ _
      · cases packet.packetType with
        | data => exact rowFrame_data opens packet receivedAtUs
        | endOfFile => exact rowFrame_endFile opens packet receivedAtUs
        | start => exact rowFrame_cancel opens packet receivedAtUs
        | cancel => exact rowFrame_cancel opens packet receivedAtUs

end FilePacketReassembler

end CubeNano

import CubeNano.Gds.FileCoverage

/-!
# Runs of the reassembler

A packet changes only its own epoch.  A START opens an unknown epoch empty, DATA packets
keep it staged, and END and CANCEL close it, so in every run every receiving epoch is
staged with exactly the DATA packets it accepted.

## Main definitions

* `SameEpoch`, `OnlyEpoch` — the frame of a method
* `RunStaged` — the invariant of a run

## Main statements

* `runStaged_of_run` — every run keeps the invariant
* `dataCoverage_of_run` — the ranges, the byte count and the file of a receiving epoch
  are those of the packets it accepted, and a rejected packet leaves them alone
-/

namespace CubeNano

/-! ## Epochs do not disturb each other -/

/-- Two states agree on an epoch. -/
structure SameEpoch (key : FileEpochKey) (r r' : FilePacketReassembler) : Prop where
  state : r'.states.find? key = r.states.find? key
  index : r'.packetIndex key = r.packetIndex key
  ranges : r'.rangeIndex key = r.rangeIndex key
  part : r'.parts key = r.parts key

/-- Only the epoch `key` may have changed since `r`. -/
def OnlyEpoch (key : FileEpochKey) (r r' : FilePacketReassembler) : Prop :=
  ∀ other, other ≠ key → SameEpoch other r r'

namespace FilePacketReassembler

open Effect

variable {key : FileEpochKey} {r : FilePacketReassembler}

/-! ### What the parts of START and END do -/

theorem persistState_cases (st : ReassemblyState) (s : FilePacketReassembler) :
    (∃ failure, persistState key st s = .error failure s) ∨
      ∃ writer, persistState key st s = .ok ⟨⟩ { s.clearIndex key with writer := writer } := by
  unfold persistState
  rw [get_bind]
  cases s.writer with
  | none => exact .inr ⟨s.writer, rfl⟩
  | some rows =>
      cases updated : updateRow rows key fun _ => st with
      | error failure =>
          simp only [updated]
          exact .inl ⟨failure, rfl⟩
      | ok rows' =>
          simp only [updated]
          exact .inr ⟨some rows', rfl⟩

theorem persistStart_cases (st : ReassemblyState) (s : FilePacketReassembler) :
    (∃ failure, persistStart key st s = .error failure s) ∨
      ∃ writer, persistStart key st s = .ok ⟨⟩ { s with writer := writer } := by
  unfold persistStart
  rw [get_bind]
  cases s.writer with
  | none => exact .inr ⟨s.writer, rfl⟩
  | some rows =>
      dsimp only
      split
      · exact .inl ⟨_, rfl⟩
      · cases rows.insert key st with
        | none => exact .inl ⟨_, rfl⟩
        | some rows' => exact .inr ⟨some rows', rfl⟩

/-- The release of a reservation, if there is one and a guard to release it. -/
theorem releaseState_cases (st : ReassemblyState) (s : FilePacketReassembler) :
    releaseState key st s = .ok st s ∨
      ∃ storageGuard writer, releaseState key st s =
        .ok { st with reservationId := none }
          { s with
            storageGuard := storageGuard
            writer := writer
            states := s.states.update key fun _ => { st with reservationId := none } } := by
  unfold releaseState
  rw [get_bind]
  cases st.reservationId with
  | none => exact .inl rfl
  | some reservationId =>
      cases s.storageGuard with
      | none => exact .inl rfl
      | some storage => exact .inr ⟨_, _, rfl⟩

theorem reserveStorage_cases (readings : StorageReadings) (size : ℕ) (s : FilePacketReassembler) :
    (∃ failure, reserveStorage readings key size s = .error failure s) ∨
      ∃ reservationId storageGuard, reserveStorage readings key size s =
        .ok reservationId { s with storageGuard := storageGuard } := by
  unfold reserveStorage
  rw [get_bind]
  cases s.storageGuard with
  | none => exact .inr ⟨none, s.storageGuard, rfl⟩
  | some storage =>
      cases reserved : storage.reserve readings (reservationOwner key) size with
      | none =>
          simp only [reserved]
          exact .inl ⟨_, rfl⟩
      | some reservation =>
          simp only [reserved]
          exact .inr ⟨_, _, rfl⟩

theorem createPart_cases (reservationId : Option ℕ) (s : FilePacketReassembler) :
    (∃ failure storageGuard, createPart key reservationId s =
        .error failure { s with storageGuard := storageGuard }) ∨
      createPart key reservationId s =
        .ok ⟨⟩ { s with parts := Function.update s.parts key (some []) } := by
  unfold createPart
  rw [get_bind]
  cases s.parts key with
  | none => exact .inr rfl
  | some old =>
      refine .inl ⟨⟨.fileReassemblyError "STAGING_OPEN_FAILED",
        "unable to create the bounded reassembly file"⟩, ?_⟩
      dsimp only [dropReservation]
      rw [modify_bind]
      cases reservationId with
      | none => exact ⟨s.storageGuard, rfl⟩
      | some reservationId =>
          cases s.storageGuard with
          | none => exact ⟨s.storageGuard, rfl⟩
          | some storage => exact ⟨some (storage.release reservationId), rfl⟩

/-! ### Frames -/

/-- A program that only ever changes one epoch's records keeps what it changed before. -/
theorem onlyEpoch_of_step {α : Type} {x : ReassemblyProgram α}
    (h : ∀ s, OnlyEpoch key s (finalState (x s))) : Keeps (OnlyEpoch key r) x := by
  intro s before
  have both : OnlyEpoch key r (finalState (x s)) := fun other ne =>
    have first := before other ne
    have next := h s other ne
    ⟨next.state.trans first.state, next.index.trans first.index,
      next.ranges.trans first.ranges, next.part.trans first.part⟩
  cases result : x s with
  | ok a t =>
      rw [result] at both
      exact both
  | error e t =>
      rw [result] at both
      exact both

theorem onlyEpoch_refl (s : FilePacketReassembler) : OnlyEpoch key s s :=
  fun _ _ => ⟨rfl, rfl, rfl, rfl⟩

theorem onlyEpoch_setState (st : ReassemblyState) :
    Keeps (OnlyEpoch key r) (setState key st) :=
  onlyEpoch_of_step fun s _ ne => ⟨Table.find?_set_of_ne s.states st ne, rfl, rfl, rfl⟩

theorem onlyEpoch_removePart : Keeps (OnlyEpoch key r) (removePart key) :=
  onlyEpoch_of_step fun _ _ ne => ⟨rfl, rfl, rfl, Function.update_of_ne ne _ _⟩

theorem onlyEpoch_persistState (st : ReassemblyState) :
    Keeps (OnlyEpoch key r) (persistState key st) := by
  refine onlyEpoch_of_step fun s => ?_
  rcases @persistState_cases key st s with ⟨failure, raised⟩ | ⟨writer, returned⟩
  · rw [raised]
    exact onlyEpoch_refl s
  · rw [returned]
    exact fun _ ne => ⟨rfl, Function.update_of_ne ne _ _, Function.update_of_ne ne _ _, rfl⟩

theorem onlyEpoch_persistStart (st : ReassemblyState) :
    Keeps (OnlyEpoch key r) (persistStart key st) := by
  refine onlyEpoch_of_step fun s => ?_
  rcases @persistStart_cases key st s with ⟨failure, raised⟩ | ⟨writer, returned⟩
  · rw [raised]
    exact onlyEpoch_refl s
  · rw [returned]
    exact fun _ _ => ⟨rfl, rfl, rfl, rfl⟩

theorem onlyEpoch_releaseState (st : ReassemblyState) :
    Keeps (OnlyEpoch key r) (releaseState key st) := by
  refine onlyEpoch_of_step fun s => ?_
  rcases @releaseState_cases key st s with same | ⟨storageGuard, writer, released⟩
  · rw [same]
    exact onlyEpoch_refl s
  · rw [released]
    exact fun other ne =>
      ⟨(Table.find?_update s.states key other _).trans (if_neg ne), rfl, rfl, rfl⟩

theorem onlyEpoch_closeEpoch (st : ReassemblyState) (product : Option PyValue) :
    Keeps (OnlyEpoch key r) (closeEpoch key st product) :=
  (onlyEpoch_setState st).bind fun _ => (onlyEpoch_persistState st).bind fun _ =>
    (onlyEpoch_releaseState st).bind fun _ => onlyEpoch_removePart.bind fun _ => Keeps.pure _

theorem onlyEpoch_reserveStorage (readings : StorageReadings) (size : ℕ) :
    Keeps (OnlyEpoch key r) (reserveStorage readings key size) := by
  refine onlyEpoch_of_step fun s => ?_
  rcases @reserveStorage_cases key readings size s with
    ⟨failure, raised⟩ | ⟨reservationId, storageGuard, returned⟩
  · rw [raised]
    exact onlyEpoch_refl s
  · rw [returned]
    exact fun _ _ => ⟨rfl, rfl, rfl, rfl⟩

theorem onlyEpoch_createPart (reservationId : Option ℕ) :
    Keeps (OnlyEpoch key r) (createPart key reservationId) := by
  refine onlyEpoch_of_step fun s => ?_
  rcases @createPart_cases key reservationId s with
    ⟨failure, storageGuard, raised⟩ | returned
  · rw [raised]
    exact fun _ _ => ⟨rfl, rfl, rfl, rfl⟩
  · rw [returned]
    exact fun _ ne => ⟨rfl, rfl, rfl, Function.update_of_ne ne _ _⟩

theorem onlyEpoch_registerEpoch (st : ReassemblyState) :
    Keeps (OnlyEpoch key r) (registerEpoch key st) := by
  refine Keeps.bind (onlyEpoch_of_step fun s => ?_) fun _ =>
    (onlyEpoch_persistStart st).tryCatch fun _ => ?_
  · change OnlyEpoch key s (s.enterEpoch key st)
    intro other ne
    unfold enterEpoch
    split
    · exact ⟨Table.find?_set_of_ne s.states st ne, Function.update_of_ne ne _ _,
        Function.update_of_ne ne _ _, rfl⟩
    · exact ⟨Table.find?_set_of_ne s.states st ne, rfl, rfl, rfl⟩
  · refine Keeps.bind (onlyEpoch_of_step fun s other ne => ⟨?_, rfl, rfl, rfl⟩) fun _ =>
      (onlyEpoch_releaseState st).bind fun _ => onlyEpoch_removePart.bind fun _ =>
        keeps_liftRaises _ _
    exact (Table.find?_erase s.states key other).trans (if_neg ne)

theorem onlyEpoch_start (readings : StorageReadings) (packet : FilePacket) (receivedAtUs : ℕ) :
    Keeps (OnlyEpoch key r) (start readings packet key receivedAtUs) := by
  unfold start
  split
  · exact keeps_liftRaises _ _
  refine (keeps_liftRaises _ _).bind fun m => Triple.withState fun s before => ?_
  have entry : ∀ t, t = s → OnlyEpoch key r t := fun t same => same ▸ before
  refine Triple.weaken ?_ entry (fun _ _ h => h) fun _ _ h => h
  refine Keeps.bind (keeps_liftRaises _ _) fun found => ?_
  cases found with
  | some existing => exact Keeps.pure _
  | none =>
      exact (onlyEpoch_reserveStorage readings m.fileSize).bind fun reservationId =>
        (onlyEpoch_createPart reservationId).bind fun _ =>
          (onlyEpoch_registerEpoch _).bind fun _ => Keeps.pure _

theorem onlyEpoch_data (st : ReassemblyState) (packet : FilePacket) (receivedAtUs : ℕ) :
    Keeps (OnlyEpoch key r) (data key st packet receivedAtUs) := by
  intro s before
  have wrote (file : Bytes) : OnlyEpoch key r (s.written key file packet) := fun other ne =>
    have same := before other ne
    ⟨same.state, same.index, same.ranges, (Function.update_of_ne ne _ _).trans same.part⟩
  rcases data_cases s key st packet receivedAtUs with
    ⟨failure, raised⟩ | ⟨-, ⟨file, -, -, -, returned⟩ | ⟨file, ranges, -, -, stores⟩⟩
  · rw [raised]
    exact before
  · rw [returned]
    exact before
  · rw [stores]
    rcases storeData_cases s key st packet receivedAtUs file ranges with
      ⟨failure, raised⟩ | ⟨packets, writer, st', -, -, returned⟩
    · rw [raised]
      exact wrote file
    · rw [returned]
      intro other ne
      have same := wrote file other ne
      exact ⟨(Table.find?_set_of_ne s.states st' ne).trans same.state,
        (Function.update_of_ne ne _ _).trans same.index,
        (Function.update_of_ne ne _ _).trans same.ranges, same.part⟩

/-- The three ways an END can end: refused with nothing changed, closing the epoch, or
raising what the product store raised. -/
theorem endFile_cases (s : FilePacketReassembler) (key : FileEpochKey) (st : ReassemblyState)
    (packet : FilePacket) (receivedAtUs : ℕ) :
    (∃ failure, endFile key st packet receivedAtUs s = .error failure s) ∨
      (∃ phase reason product, phase ≠ .receiving ∧ endFile key st packet receivedAtUs s =
        closeEpoch key
          { st.markTerminal packet receivedAtUs with state := phase, terminalReason := reason }
          product s) ∨
      ∃ failure, endFile key st packet receivedAtUs s =
        .error failure { s with states := s.states.set key (st.markTerminal packet receivedAtUs) } := by
  unfold endFile
  rw [get_bind]
  split
  · exact .inl ⟨_, rfl⟩
  refine .inr ?_
  dsimp only
  split
  · cases s.verify key (st.markTerminal packet receivedAtUs) packet with
    | ok product => exact .inl ⟨.verified, none, product, by decide, rfl⟩
    | error failure =>
        cases caught : failureReason failure with
        | some reason =>
            simp only [caught]
            exact .inl ⟨.checksumFailed, some reason, none, by decide, rfl⟩
        | none =>
            simp only [caught]
            exact .inr ⟨failure, rfl⟩
  · exact .inl ⟨.incomplete, some "GAP", none, by decide, rfl⟩

theorem onlyEpoch_endFile (st : ReassemblyState) (packet : FilePacket) (receivedAtUs : ℕ) :
    Keeps (OnlyEpoch key r) (endFile key st packet receivedAtUs) := by
  intro s before
  rcases endFile_cases s key st packet receivedAtUs with
    ⟨failure, refused⟩ | ⟨phase, reason, product, -, closes⟩ | ⟨failure, raised⟩
  · rw [refused]
    exact before
  · rw [closes]
    exact onlyEpoch_closeEpoch _ product s before
  · rw [raised]
    exact onlyEpoch_setState (st.markTerminal packet receivedAtUs) s before

theorem onlyEpoch_cancel (st : ReassemblyState) (packet : FilePacket) (receivedAtUs : ℕ) :
    Keeps (OnlyEpoch key r) (cancel key st packet receivedAtUs) := by
  refine onlyEpoch_of_step fun s => ?_
  have refl := @onlyEpoch_refl key s
  unfold cancel
  rw [get_bind]
  split
  · exact refl
  · exact (onlyEpoch_closeEpoch _ _).finalState refl

/-- **A packet changes no epoch but its own.** -/
theorem onlyEpoch_receive (readings : StorageReadings) (packet : FilePacket) (receivedAtUs : ℕ) :
    Keeps (OnlyEpoch key r) (receive readings packet key receivedAtUs) := by
  unfold receive
  split
  · exact onlyEpoch_start readings packet receivedAtUs
  refine onlyEpoch_of_step fun s => ?_
  rw [get_bind]
  cases s.states.find? key with
  | none => exact onlyEpoch_refl s
  | some st =>
      dsimp only
      split
      · split
        · exact onlyEpoch_refl s
        · exact onlyEpoch_refl s
      · have refl := @onlyEpoch_refl key s
        cases packet.packetType with
        | data => exact (onlyEpoch_data st packet receivedAtUs).finalState refl
        | endOfFile => exact (onlyEpoch_endFile st packet receivedAtUs).finalState refl
        | start => exact (onlyEpoch_cancel st packet receivedAtUs).finalState refl
        | cancel => exact (onlyEpoch_cancel st packet receivedAtUs).finalState refl

/-! ### The epoch of a packet -/

/-- The reassembler knows nothing of an epoch. -/
def NoEpoch (key : FileEpochKey) (s : FilePacketReassembler) : Prop :=
  s.states.find? key = none ∧ s.packetIndex key = .empty ∧ s.rangeIndex key = []

/-- The epoch has the state `st`, its part file is empty and nothing is indexed. -/
def NewEpoch (key : FileEpochKey) (st : ReassemblyState) (s : FilePacketReassembler) : Prop :=
  s.states.find? key = some st ∧ s.packetIndex key = .empty ∧ s.rangeIndex key = [] ∧
    s.parts key = some []

theorem staged_of_newEpoch {st : ReassemblyState} {s : FilePacketReassembler} (new : NewEpoch key st s)
    (count : st.bytesReceived = 0) : EpochStaged s key st [] [] := by
  obtain ⟨-, index, ranges, part⟩ := new
  constructor
  · exact part
  · exact Nat.zero_le _
  · simp
  · simp
  · simp
  · simp [index]
  · rw [ranges]
    exact List.Pairwise.nil
  · simp [ranges, Intervals.Proper]
  · simp [ranges]
  · simp [ranges, count, Intervals.total]

/-- A closed epoch has its terminal state, also when the transaction failed. -/
theorem closeEpoch_phase (st : ReassemblyState) (product : Option PyValue) :
    Triple (fun _ => True) (closeEpoch key st product)
      (fun _ s => ∃ st', s.states.find? key = some st' ∧ st'.state = st.state)
      fun _ s => ∃ st', s.states.find? key = some st' ∧ st'.state = st.state := by
  have written : Triple (fun _ => True) (setState key st)
      (fun _ s => ∃ st', s.states.find? key = some st' ∧ st'.state = st.state)
      (fun _ s => ∃ st', s.states.find? key = some st' ∧ st'.state = st.state) :=
    Triple.modify fun s _ => ⟨st, Table.find?_set_self _ _ _, rfl⟩
  refine written.bind fun _ => Keeps.bind ?persist fun _ => Keeps.bind ?release fun _ =>
    Keeps.bind (Keeps.modify fun _ h => h) fun _ => Keeps.pure _
  case persist =>
    intro s known
    rcases @persistState_cases key st s with ⟨failure, raised⟩ | ⟨writer, returned⟩
    · rw [raised]
      exact known
    · rw [returned]
      exact known
  case release =>
    rintro s ⟨st', found, phase⟩
    rcases @releaseState_cases key st s with same | ⟨storageGuard, writer, released⟩
    · rw [same]
      exact ⟨st', found, phase⟩
    · rw [released]
      refine ⟨{ st with reservationId := none }, ?_, rfl⟩
      exact (Table.find?_update s.states key key _).trans (by rw [if_pos rfl, found]; rfl)

theorem keeps_reserveStorage (readings : StorageReadings) (size : ℕ) :
    Keeps (NoEpoch key) (reserveStorage readings key size) := by
  intro s unknown
  rcases @reserveStorage_cases key readings size s with
    ⟨failure, raised⟩ | ⟨reservationId, storageGuard, returned⟩
  · rw [raised]
    exact unknown
  · rw [returned]
    exact unknown

theorem createPart_triple (reservationId : Option ℕ) :
    Triple (NoEpoch key) (createPart key reservationId)
      (fun _ s => NoEpoch key s ∧ s.parts key = some []) (fun _ => NoEpoch key) := by
  intro s unknown
  rcases @createPart_cases key reservationId s with
    ⟨failure, storageGuard, raised⟩ | returned
  · rw [raised]
    exact unknown
  · rw [returned]
    exact ⟨unknown, Function.update_self _ _ _⟩

theorem registerEpoch_triple (st : ReassemblyState) :
    Triple (fun s => NoEpoch key s ∧ s.parts key = some []) (registerEpoch key st)
      (fun _ => NewEpoch key st) (fun _ => NoEpoch key) := by
  have entered : Triple (fun s => NoEpoch key s ∧ s.parts key = some [])
      (modify (fun r => r.enterEpoch key st) : ReassemblyProgram Unit)
      (fun _ => NewEpoch key st) (fun _ => NoEpoch key) := by
    refine Triple.modify fun s ⟨⟨_, index, ranges⟩, part⟩ => ?_
    unfold enterEpoch
    split
    · exact ⟨Table.find?_set_self _ _ _, Function.update_self _ _ _, Function.update_self _ _ _,
        part⟩
    · exact ⟨Table.find?_set_self _ _ _, index, ranges, part⟩
  have erased : Triple (NewEpoch key st)
      (modify (fun r => { r with states := r.states.erase key }) : ReassemblyProgram Unit)
      (fun _ => NoEpoch key) (fun _ => NoEpoch key) := by
    refine Triple.modify fun s ⟨_, index, ranges, _⟩ => ⟨?_, index, ranges⟩
    exact (Table.find?_erase s.states key key).trans (if_pos rfl)
  have released : Keeps (NoEpoch key) (releaseState key st) := by
    rintro s ⟨unknown, index, ranges⟩
    rcases @releaseState_cases key st s with same | ⟨storageGuard, writer, released⟩
    · rw [same]
      exact ⟨unknown, index, ranges⟩
    · rw [released]
      refine ⟨?_, index, ranges⟩
      exact (Table.find?_update s.states key key _).trans (by rw [if_pos rfl, unknown]; rfl)
  have removed : Keeps (NoEpoch key) (removePart key) := Keeps.modify fun _ h => h
  refine entered.bind fun _ => Triple.tryCatch (R := fun _ => NewEpoch key st) ?_ fun _ =>
    erased.bind fun _ => Triple.bind released fun _ => Triple.bind removed fun _ =>
      Triple.raise fun _ h => h
  intro s new
  rcases @persistStart_cases key st s with ⟨failure, raised⟩ | ⟨writer, returned⟩
  · rw [raised]
    exact new
  · rw [returned]
    exact new

/-- **A START of an unknown epoch** opens it empty, or leaves it unknown. -/
theorem start_triple (readings : StorageReadings) (packet : FilePacket) (receivedAtUs : ℕ) :
    Triple (NoEpoch key) (start readings packet key receivedAtUs)
      (fun _ s => ∃ st, st.bytesReceived = 0 ∧ NewEpoch key st s) (fun _ => NoEpoch key) := by
  unfold start
  split
  · exact Triple.raise fun _ h => h
  refine Triple.bind (R := fun _ => NoEpoch key) (keeps_liftRaises _ _) fun m =>
    Triple.withState fun s unknown => ?_
  have entry : ∀ t, t = s → NoEpoch key t := fun t same => same ▸ unknown
  refine Triple.weaken ?_ entry (fun _ _ h => h) fun _ _ h => h
  cases checked : s.startChecks key m packet.payload with
  | error failure => exact Triple.raise fun _ h => h
  | ok found =>
      have new : found = none := by
        unfold startChecks at checked
        rw [unknown.1] at checked
        split at checked
        · cases checked
        · dsimp only at checked
          split at checked
          · cases checked
          · split at checked
            · cases checked
            · split at checked
              · cases checked
              · cases checked
                rfl
      subst new
      change Triple _ (openEpoch readings key m packet.payload receivedAtUs) _ _
      refine Triple.bind (R := fun _ => NoEpoch key) (keeps_reserveStorage readings m.fileSize)
        fun reservationId => Triple.bind (createPart_triple reservationId) fun _ =>
          Triple.bind (registerEpoch_triple _) fun _ =>
            Triple.pure fun s new => ⟨_, rfl, new⟩

/-- A START of a known epoch changes nothing. -/
theorem finalState_start_of_known (readings : StorageReadings) (packet : FilePacket)
    (receivedAtUs : ℕ) {s : FilePacketReassembler} {st : ReassemblyState}
    (known : s.states.find? key = some st) :
    finalState (start readings packet key receivedAtUs s) = s := by
  unfold start
  split
  · rfl
  cases parsed : readStart packet.payload with
  | error failure => rw [liftRaises_bind_of_error rfl]; rfl
  | ok m =>
      rw [liftRaises_bind_of_ok rfl, get_bind]
      cases checked : s.startChecks key m packet.payload with
      | error failure => rfl
      | ok found =>
          unfold startChecks at checked
          rw [known] at checked
          split at checked
          · cases checked
          · dsimp only at checked
            split at checked
            · cases checked
              rfl
            · cases checked

/-! ### Reception by a known epoch -/

section Known

variable (readings : StorageReadings) {packet : FilePacket} (receivedAtUs : ℕ) {st : ReassemblyState}

theorem receive_data (type : packet.packetType = .data) (known : r.states.find? key = some st)
    (receiving : st.state = .receiving) :
    receive readings packet key receivedAtUs r = data key st packet receivedAtUs r := by
  unfold receive
  rw [if_neg (by rw [type]; decide), get_bind, known]
  dsimp only
  rw [if_neg (not_not.mpr receiving), type]

theorem receive_endFile (type : packet.packetType = .endOfFile)
    (known : r.states.find? key = some st) (receiving : st.state = .receiving) :
    receive readings packet key receivedAtUs r = endFile key st packet receivedAtUs r := by
  unfold receive
  rw [if_neg (by rw [type]; decide), get_bind, known]
  dsimp only
  rw [if_neg (not_not.mpr receiving), type]

theorem receive_cancel (type : packet.packetType = .cancel)
    (known : r.states.find? key = some st) (receiving : st.state = .receiving) :
    receive readings packet key receivedAtUs r = cancel key st packet receivedAtUs r := by
  unfold receive
  rw [if_neg (by rw [type]; decide), get_bind, known]
  dsimp only
  rw [if_neg (not_not.mpr receiving), type]

/-- A packet of an unknown epoch is answered and forgotten. -/
theorem receive_of_unknown (notStart : packet.packetType ≠ .start)
    (unknown : r.states.find? key = none) : receive readings packet key receivedAtUs r =
      .ok ⟨key, .incomplete, none, none, 0, none, some "MISSING_START", none⟩ r := by
  unfold receive
  rw [if_neg notStart, get_bind, unknown]
  rfl

/-- A packet of a closed epoch changes nothing. -/
theorem finalState_receive_of_closed (notStart : packet.packetType ≠ .start)
    (known : r.states.find? key = some st) (closed : st.state ≠ .receiving) :
    finalState (receive readings packet key receivedAtUs r) = r := by
  unfold receive
  rw [if_neg notStart, get_bind, known]
  dsimp only
  rw [if_pos closed]
  split
  · rfl
  · rfl

/-- END and CANCEL close the epoch or leave its records alone. -/
theorem closing_cases {s : FilePacketReassembler} (known : s.states.find? key = some st)
    {x : ReassemblyProgram ReassemblyResult}
    (method : x = endFile key st packet receivedAtUs ∨ x = cancel key st packet receivedAtUs) :
    ∃ st', (finalState (x s)).states.find? key = some st' ∧
      (st'.state = .receiving → st'.expectedSize = st.expectedSize ∧
        st'.bytesReceived = st.bytesReceived ∧
        (finalState (x s)).packetIndex = s.packetIndex ∧
        (finalState (x s)).rangeIndex = s.rangeIndex ∧ (finalState (x s)).parts = s.parts) := by
  have closes (st' : ReassemblyState) (product : Option PyValue) (terminal : st'.state ≠ .receiving) :
      ∃ st'', (finalState (closeEpoch key st' product s)).states.find? key = some st'' ∧
        st''.state ≠ .receiving := by
    obtain ⟨st'', found, phase⟩ := Triple.finalState (closeEpoch_phase st' product) (s := s) trivial
    exact ⟨st'', found, phase ▸ terminal⟩
  rcases method with rfl | rfl
  · rcases endFile_cases s key st packet receivedAtUs with
      ⟨failure, refused⟩ | ⟨phase, reason, product, terminal, closed⟩ | ⟨failure, raised⟩
    · rw [refused]
      exact ⟨st, known, fun _ => ⟨rfl, rfl, rfl, rfl, rfl⟩⟩
    · rw [closed]
      obtain ⟨st', found, terminal⟩ := closes
        { st.markTerminal packet receivedAtUs with state := phase, terminalReason := reason } product
        terminal
      exact ⟨st', found, fun receiving => absurd receiving terminal⟩
    · rw [raised]
      exact ⟨_, Table.find?_set_self _ _ _, fun _ => ⟨rfl, rfl, rfl, rfl, rfl⟩⟩
  · unfold cancel
    rw [get_bind]
    split
    · exact ⟨st, known, fun _ => ⟨rfl, rfl, rfl, rfl, rfl⟩⟩
    · obtain ⟨st', found, terminal⟩ := closes { st.markTerminal packet receivedAtUs with
        state := .canceled
        terminalReason := some "REMOTE_CANCEL" } none EpochPhase.noConfusion
      exact ⟨st', found, fun receiving => absurd receiving terminal⟩

end Known

end FilePacketReassembler

/-! ## The invariant of a run -/

theorem acceptedData_concat (key : FileEpochKey)
    (log : List (FileArrival × Raises ReassemblyResult)) (a : FileArrival)
    (output : Raises ReassemblyResult) :
    acceptedData key (log ++ [(a, output)]) = acceptedData key log ++
      if a.key = key ∧ a.packet.packetType = .data ∧ Accepted output then [a.packet] else [] := by
  unfold acceptedData
  rw [List.filter_append, List.map_append, List.filter_cons]
  split
  · rename_i taken
    rw [if_pos (of_decide_eq_true taken)]
    rfl
  · rename_i left
    rw [if_neg (of_decide_eq_false (Bool.eq_false_iff.mpr left))]
    rfl

/-- **The invariant of a run.**  Nothing is known of an epoch, or it has a state and, as
long as it receives, it is staged with the DATA packets it accepted. -/
def RunStaged (r : FilePacketReassembler) (log : List (FileArrival × Raises ReassemblyResult)) :
    Prop :=
  ∀ key, (FilePacketReassembler.NoEpoch key r ∧ acceptedData key log = []) ∨
    ∃ st, r.states.find? key = some st ∧
      (st.state = .receiving → ∃ file, EpochStaged r key st (acceptedData key log) file)

theorem runStaged_initial (maxBundleBytes : ℕ)
    (productStore : Option (ReassemblyState → Bytes → Raises PyValue))
    (storageGuard : Option StorageGuard) (durable : Bool) :
    RunStaged (.initial maxBundleBytes productStore storageGuard durable) [] :=
  fun _ => .inl ⟨⟨rfl, rfl, rfl⟩, rfl⟩

namespace FilePacketReassembler

open Effect

variable {key : FileEpochKey} {r : FilePacketReassembler} {st : ReassemblyState}
  {accepted : List FilePacket} {file : Bytes}

/-- **What a DATA packet does to a staged epoch.**  A refused packet leaves tables, state and
covered bytes; another one joins the accepted packets. -/
theorem data_staged (staged : EpochStaged r key st accepted file)
    (known : r.states.find? key = some st) (packet : FilePacket) (receivedAtUs : ℕ) :
    (∃ failure r' file', data key st packet receivedAtUs r = .error failure r' ∧
        r'.states = r.states ∧ r'.packetIndex = r.packetIndex ∧ r'.rangeIndex = r.rangeIndex ∧
        (∀ i, Intervals.Covers (r.rangeIndex key) i → file'[i]? = file[i]?) ∧
        EpochStaged r' key st accepted file') ∨
      ∃ st' r' file', data key st packet receivedAtUs r = .ok (st'.result key none) r' ∧
        r'.states.find? key = some st' ∧ st'.state = st.state ∧
        EpochStaged r' key st' (accepted ++ [packet]) file' := by
  rcases data_cases r key st packet receivedAtUs with ⟨failure, refused⟩ |
    ⟨admissible, ⟨file', part, stored, bytes, returned⟩ | ⟨file', ranges, fresh, checked, stores⟩⟩
  · exact .inl ⟨failure, r, file, refused, rfl, rfl, rfl, fun _ _ => rfl, staged⟩
  · obtain rfl : file = file' := Option.some.inj (staged.part.symm.trans part)
    exact .inr ⟨st, r, file, returned, known, rfl, staged.again stored bytes⟩
  · obtain ⟨sameRanges, -, part, scanned⟩ := newData_eq_ok_iff.mp checked
    obtain rfl : file = file' := Option.some.inj (staged.part.symm.trans part)
    rw [sameRanges] at scanned
    rw [stores]
    rcases storeData_cases r key st packet receivedAtUs file ranges with
      ⟨failure, raised⟩ | ⟨packets, writer, st', inserted, same, returned⟩
    · exact .inl ⟨failure, _, _, raised, rfl, rfl, rfl,
        fun i covered => getElem?_written staged scanned covered,
        staged_written staged admissible scanned⟩
    · subst same
      refine .inr ⟨_, _, writeAt file packet.offset packet.payload, returned,
        Table.find?_set_self _ _ _, rfl, ?_⟩
      apply staged_stored staged admissible fresh checked writer inserted
      · rfl
      · rfl
      · rfl
      · rfl
      · rfl

/-- What one packet does to its own epoch. -/
theorem staged_step {log : List (FileArrival × Raises ReassemblyResult)} (a : FileArrival)
    (before : (NoEpoch a.key r ∧ acceptedData a.key log = []) ∨
      ∃ st, r.states.find? a.key = some st ∧
        (st.state = .receiving → ∃ file, EpochStaged r a.key st (acceptedData a.key log) file)) :
    (NoEpoch a.key (finalState (reassemblyStep r a)) ∧
        acceptedData a.key (log ++ [(a, outcome (reassemblyStep r a))]) = []) ∨
      ∃ st, (finalState (reassemblyStep r a)).states.find? a.key = some st ∧
        (st.state = .receiving → ∃ file, EpochStaged (finalState (reassemblyStep r a)) a.key st
          (acceptedData a.key (log ++ [(a, outcome (reassemblyStep r a))])) file) := by
  have unchanged (notData : ¬ (a.packet.packetType = .data ∧
      Accepted (outcome (reassemblyStep r a)))) :
      acceptedData a.key (log ++ [(a, outcome (reassemblyStep r a))]) =
        acceptedData a.key log := by
    rw [acceptedData_concat, if_neg fun taken => notData taken.2, List.append_nil]
  by_cases start_ : a.packet.packetType = .start
  · have notData : ¬ a.packet.packetType = .data := by
      rw [start_]
      decide
    rw [unchanged fun taken => notData taken.1]
    have dispatched : reassemblyStep r a = start a.readings a.packet a.key a.receivedAtUs r := by
      unfold reassemblyStep receive
      rw [if_pos start_]
    rw [dispatched]
    rcases before with ⟨unknown, none⟩ | ⟨st, known, staged⟩
    · have opened := @start_triple a.key a.readings a.packet a.receivedAtUs r unknown
      cases result : start a.readings a.packet a.key a.receivedAtUs r with
      | ok value r' =>
          rw [result] at opened
          obtain ⟨st, count, new⟩ := opened
          exact .inr ⟨st, new.1, fun _ => ⟨[], none ▸ staged_of_newEpoch new count⟩⟩
      | error failure r' =>
          rw [result] at opened
          exact .inl ⟨opened, none⟩
    · rw [finalState_start_of_known a.readings a.packet a.receivedAtUs known]
      exact .inr ⟨st, known, staged⟩
  rcases before with ⟨unknown, none⟩ | ⟨st, known, staged⟩
  · have answered : reassemblyStep r a = _ :=
      receive_of_unknown a.readings a.receivedAtUs start_ unknown.1
    have notAccepted : ¬ Accepted (outcome (reassemblyStep r a)) := by
      rw [answered]
      exact EpochPhase.noConfusion
    rw [unchanged fun taken => notAccepted taken.2, answered]
    exact .inl ⟨unknown, none⟩
  right
  by_cases receiving : st.state = .receiving
  · obtain ⟨file, staged⟩ := staged receiving
    cases type : a.packet.packetType with
    | start => exact absurd type start_
    | data =>
        have dispatched : reassemblyStep r a = _ :=
          receive_data a.readings a.receivedAtUs type known receiving
        rw [acceptedData_concat]
        rcases data_staged staged known a.packet a.receivedAtUs with
          ⟨failure, r', file', refused, states, -, -, -, staged'⟩ |
            ⟨st', r', file', returned, known', state, staged'⟩
        · rw [dispatched, refused, if_neg fun taken => taken.2.2, List.append_nil]
          refine ⟨st, ?_, fun _ => ⟨file', staged'⟩⟩
          change r'.states.find? a.key = some st
          rw [states, known]
        · have taken : Accepted (outcome (reassemblyStep r a)) := by
            rw [dispatched, returned]
            exact state.trans receiving
          rw [if_pos ⟨rfl, type, taken⟩, dispatched, returned]
          exact ⟨st', known', fun _ => ⟨file', staged'⟩⟩
    | endOfFile =>
        rw [unchanged (by rw [type]; exact fun taken => FilePacketType.noConfusion taken.1)]
        have dispatched : reassemblyStep r a = _ :=
          receive_endFile a.readings a.receivedAtUs type known receiving
        rw [dispatched]
        have method :
            endFile a.key st a.packet a.receivedAtUs = endFile a.key st a.packet a.receivedAtUs ∨
              endFile a.key st a.packet a.receivedAtUs = cancel a.key st a.packet a.receivedAtUs :=
          .inl rfl
        obtain ⟨st', known', open_⟩ := closing_cases a.receivedAtUs known method
        refine ⟨st', known', fun receiving' => ?_⟩
        obtain ⟨size, count, index, ranges, parts⟩ := open_ receiving'
        exact ⟨file, staged.frame (congrFun index _) (congrFun ranges _) (congrFun parts _) size
          count⟩
    | cancel =>
        rw [unchanged (by rw [type]; exact fun taken => FilePacketType.noConfusion taken.1)]
        have dispatched : reassemblyStep r a = _ :=
          receive_cancel a.readings a.receivedAtUs type known receiving
        rw [dispatched]
        have method :
            cancel a.key st a.packet a.receivedAtUs = endFile a.key st a.packet a.receivedAtUs ∨
              cancel a.key st a.packet a.receivedAtUs = cancel a.key st a.packet a.receivedAtUs :=
          .inr rfl
        obtain ⟨st', known', open_⟩ := closing_cases a.receivedAtUs known method
        refine ⟨st', known', fun receiving' => ?_⟩
        obtain ⟨size, count, index, ranges, parts⟩ := open_ receiving'
        exact ⟨file, staged.frame (congrFun index _) (congrFun ranges _) (congrFun parts _) size
          count⟩
  · have same : finalState (reassemblyStep r a) = r :=
      finalState_receive_of_closed a.readings a.receivedAtUs start_ known receiving
    rw [same]
    exact ⟨st, known, fun receiving' => absurd receiving' receiving⟩

end FilePacketReassembler

/-- One packet keeps the invariant. -/
theorem runStaged_step (r : FilePacketReassembler)
    (log : List (FileArrival × Raises ReassemblyResult)) (a : FileArrival)
    (staged : RunStaged r log) :
    RunStaged (reassemblyMachine.step r a).1 (log ++ [(a, (reassemblyMachine.step r a).2)]) := by
  intro key
  by_cases own : key = a.key
  · subst own
    exact FilePacketReassembler.staged_step a (staged a.key)
  · have frame : SameEpoch key r (Effect.finalState (reassemblyStep r a)) :=
      Effect.Keeps.finalState (FilePacketReassembler.onlyEpoch_receive a.readings a.packet
        a.receivedAtUs) (FilePacketReassembler.onlyEpoch_refl r) key own
    rw [acceptedData_concat, if_neg fun taken => own taken.1.symm, List.append_nil]
    rcases staged key with ⟨⟨unknown, index, ranges⟩, none⟩ | ⟨st, known, staged⟩
    · exact .inl ⟨⟨frame.state.trans unknown, frame.index.trans index, frame.ranges.trans ranges⟩,
        none⟩
    · refine .inr ⟨st, frame.state.trans known, fun receiving => ?_⟩
      obtain ⟨file, staged⟩ := staged receiving
      exact ⟨file, staged.frame frame.index frame.ranges frame.part rfl rfl⟩

/-- **Every run keeps the invariant.** -/
theorem runStaged_of_run (maxBundleBytes : ℕ)
    (productStore : Option (ReassemblyState → Bytes → Raises PyValue))
    (storageGuard : Option StorageGuard) (durable : Bool) (arrivals : List FileArrival) :
    RunStaged
      (reassemblyMachine.exec (.initial maxBundleBytes productStore storageGuard durable) arrivals)
      (reassemblyMachine.log (.initial maxBundleBytes productStore storageGuard durable) arrivals) :=
  reassemblyMachine.run_invariant RunStaged
    (runStaged_initial maxBundleBytes productStore storageGuard durable) runStaged_step arrivals

/-! ## Coverage of a receiving epoch -/

/-- What the stored ranges, the byte count and the part file of an epoch say about the
packets it accepted. -/
structure CoverageExact (r : FilePacketReassembler) (key : FileEpochKey) (st : ReassemblyState)
    (accepted : List FilePacket) : Prop where
  /-- The ranges are in order, disjoint and not adjacent. -/
  apart : (r.rangeIndex key).Pairwise fun range range' => range.2 < range'.1
  inside : ∀ range ∈ r.rangeIndex key, range.1 < range.2 ∧ range.2 ≤ st.expectedSize
  union : {i | ∃ range ∈ r.rangeIndex key, range.1 ≤ i ∧ i < range.2} =
    {i | ∃ packet ∈ accepted, packet.Carries i}
  bytesReceived : st.bytesReceived = Set.ncard {i | ∃ packet ∈ accepted, packet.Carries i}
  file : ∃ file, r.parts key = some file ∧ ∀ packet ∈ accepted, ∀ i, packet.Carries i →
    file[i]? = packet.payload[i - packet.offset]?

/-- What a rejected DATA packet leaves alone: the state with its byte count, the packet
index, the ranges, and every covered byte of the part file. -/
structure DataLeftAlone (key : FileEpochKey) (r r' : FilePacketReassembler) : Prop where
  state : r'.states.find? key = r.states.find? key
  index : r'.packetIndex key = r.packetIndex key
  ranges : r'.rangeIndex key = r.rangeIndex key
  file : ∃ file file', r.parts key = some file ∧ r'.parts key = some file' ∧
    ∀ i, Intervals.Covers (r.rangeIndex key) i → file'[i]? = file[i]?

theorem EpochStaged.coverageExact {r : FilePacketReassembler} {key : FileEpochKey}
    {st : ReassemblyState} {accepted : List FilePacket} {file : Bytes}
    (staged : EpochStaged r key st accepted file) : CoverageExact r key st accepted where
  apart := staged.separated
  inside range mem := by
    have nonempty := staged.proper range mem
    have last := staged.lt_size_of_covers (i := range.2 - 1) ⟨range, mem, by omega, by omega⟩
    exact ⟨nonempty, by omega⟩
  union := Set.ext staged.union
  bytesReceived := by
    rw [staged.counted, Intervals.total_eq_ncard staged.proper staged.separated]
    exact congrArg (fun covered => ((Set.ncard covered : ℕ) : ℤ)) (Set.ext staged.union)
  file := by
    refine ⟨file, staged.part, fun packet mem i carried => ?_⟩
    obtain ⟨lower, upper⟩ := carried
    have agree := readAt_eq_iff.mp (staged.bytes packet mem) (i - packet.offset) (by omega)
    rwa [Nat.add_sub_cancel' lower] at agree

/-- **Coverage of a receiving epoch.**  In every state a run of packets reaches, the ranges
of a receiving epoch are the union of the DATA packets it accepted, its byte count is the
length of that union, and its part file carries every accepted packet; a DATA packet that
is rejected there changes none of this. -/
theorem dataCoverage_of_run (maxBundleBytes : ℕ)
    (productStore : Option (ReassemblyState → Bytes → Raises PyValue))
    (storageGuard : Option StorageGuard) (durable : Bool) (arrivals : List FileArrival)
    {r : FilePacketReassembler} {log : List (FileArrival × Raises ReassemblyResult)}
    (reached : r = reassemblyMachine.exec
      (.initial maxBundleBytes productStore storageGuard durable) arrivals)
    (logged : log = reassemblyMachine.log
      (.initial maxBundleBytes productStore storageGuard durable) arrivals)
    {key : FileEpochKey} {st : ReassemblyState} (known : r.states.find? key = some st)
    (receiving : st.state = .receiving) :
    CoverageExact r key st (acceptedData key log) ∧
      ∀ a, a.key = key → a.packet.packetType = .data →
        ¬ Accepted (reassemblyMachine.step r a).2 →
          DataLeftAlone key r (reassemblyMachine.step r a).1 := by
  have invariant := runStaged_of_run maxBundleBytes productStore storageGuard durable arrivals
  rw [← reached, ← logged] at invariant
  obtain ⟨file, staged⟩ : ∃ file, EpochStaged r key st (acceptedData key log) file := by
    rcases invariant key with ⟨⟨unknown, -⟩, -⟩ | ⟨st', known', staged⟩
    · rw [unknown] at known
      cases known
    · obtain rfl : st' = st := Option.some.inj (known'.symm.trans known)
      exact staged receiving
  refine ⟨staged.coverageExact, ?_⟩
  rintro a rfl type rejected
  have dispatched : reassemblyStep r a = _ :=
    FilePacketReassembler.receive_data a.readings a.receivedAtUs type known receiving
  change ¬ Accepted (outcome (reassemblyStep r a)) at rejected
  change DataLeftAlone a.key r (Effect.finalState (reassemblyStep r a))
  rw [dispatched] at rejected ⊢
  rcases FilePacketReassembler.data_staged staged known a.packet a.receivedAtUs with
    ⟨failure, r', file', refused, states, index, ranges, same, staged'⟩ |
      ⟨st', r', file', returned, -, state, -⟩
  · rw [refused]
    exact ⟨congrArg (Table.find? · a.key) states, congrFun index _, congrFun ranges _,
      file, file', staged.part, staged'.part, same⟩
  · rw [returned] at rejected
    exact absurd (state.trans receiving) rejected

/-! ### A sample run -/

/-- The START payload of a six-byte bundle. -/
def sampleStartPayload : Bytes :=
  let productRef : ProductRef := ⟨7, 1, 2⟩
  let destination : DestinationPath := ⟨hexText 8 1, hexText 8 2, hexText 8 3, hexText 64 4⟩
  ((canonicalJson (.dict [(strKey "checksum", .int 0), (strKey "destination", .str destination.text),
    (strKey "file_size", .int 6), (strKey "product_ref", productRef.asDict),
    (strKey "source", .str (sourcePath productRef)),
    (strKey "transfer_id", .int 3)])).toOption).getD []

/-- START and two DATA packets that overlap in one byte, the later one first. -/
def sampleArrivals : List FileArrival :=
  ([FilePacket.new .start 0 0 sampleStartPayload, FilePacket.new .data 2 3 [4, 5, 6],
    FilePacket.new .data 1 0 [1, 2, 3, 4]].filterMap Except.toOption).map
      fun packet => ⟨packet, ⟨7, 1, 1, by decide⟩, 10, ⟨10, 0⟩⟩

theorem dataCoverage_of_sampleArrivals : ∃ st,
    (reassemblyMachine.exec (.initial 1000 none none true) sampleArrivals).states.find?
        ⟨7, 1, 1, by decide⟩ = some st ∧ st.bytesReceived = 6 ∧
      CoverageExact (reassemblyMachine.exec (.initial 1000 none none true) sampleArrivals)
        ⟨7, 1, 1, by decide⟩ st (acceptedData ⟨7, 1, 1, by decide⟩
          (reassemblyMachine.log (.initial 1000 none none true) sampleArrivals)) := by
  have computed : ((reassemblyMachine.exec (.initial 1000 none none true)
      sampleArrivals).states.find? ⟨7, 1, 1, by decide⟩).map
        (fun st => (st.state, st.bytesReceived)) = some (.receiving, 6) := by
    decide +kernel
  obtain ⟨st, known, same⟩ := Option.map_eq_some_iff.mp computed
  obtain ⟨receiving, count⟩ := Prod.mk.inj same
  exact ⟨st, known, count, (dataCoverage_of_run 1000 none none true sampleArrivals rfl rfl known
    receiving).1⟩

end CubeNano

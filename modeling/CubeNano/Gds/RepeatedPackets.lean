import CubeNano.Gds.FileRestart

/-!
# Repeated file packets after a restart

An epoch that has ended stays as it ended until the ground restarts.  A restart reloads only
the epochs that receive, so it forgets the others: their durable rows stay, and refuse a new
START, while an END or CANCEL is taken for a packet without a START.

## Main definitions

* `FilePacketReassembler.Ended` — an epoch in its terminal state
* `FilePacketReassembler.Repeats` — a packet that repeats the START of an epoch or what ended it

## Main statements

* `answersRepeated_iff` — a repeated packet is answered by the terminal result exactly if the
  ground was not restarted since
-/

namespace CubeNano

namespace FilePacketReassembler

open Effect

variable {key : FileEpochKey} {r s : FilePacketReassembler} {st : ReassemblyState}

/-! ## Invariants of the ground -/

/-- What is recorded of the epochs came with STARTs of theirs, and the ground has durable rows
or none as at its start. -/
structure Sound (durable : Bool) (r : FilePacketReassembler) : Prop where
  durable : r.writer.isSome = durable
  state : ∀ key st, r.states.find? key = some st → Opens key st.startPayload
  row : ∀ key st, r.rowOf key = some st → Opens key st.startPayload

variable {durable : Bool}

theorem RowFrame.refl (sound : Sound durable r) (key : FileEpochKey) : RowFrame key r r :=
  ⟨fun _ _ => rfl, rfl, sound.state key, sound.row key⟩

theorem Sound.frame (sound : Sound durable r) (only : OnlyEpoch key r s)
    (frame : RowFrame key r s) : Sound durable s where
  durable := frame.durable.trans sound.durable
  state other st found := by
    by_cases same : other = key
    · exact same ▸ frame.state st (same ▸ found)
    · exact sound.state other st ((only other same).state.symm.trans found)
  row other st found := by
    by_cases same : other = key
    · exact same ▸ frame.row st (same ▸ found)
    · exact sound.row other st ((frame.others other same).symm.trans found)

/-- An invariant of the ground that a change of one of certain epochs keeps; the other epochs
neither receive nor have a row that does. -/
structure GroundInvariant (durable : Bool) (Free : FileEpochKey → Prop)
    (I : FilePacketReassembler → Prop) : Prop where
  sound : ∀ r, I r → Sound durable r
  guard : ∀ r storageGuard, I r → I { r with storageGuard := storageGuard }
  frame : ∀ key r s, Free key → I r → OnlyEpoch key r s → RowFrame key r s → I s
  receiving : ∀ r key st, I r → r.states.find? key = some st → st.state = .receiving → Free key
  receivingRow : ∀ r key st, I r → r.rowOf key = some st → st.state = .receiving → Free key

namespace GroundInvariant

variable {Free : FileEpochKey → Prop} {I : FilePacketReassembler → Prop}

/-- A program that changes the records of one free epoch. -/
theorem keeps (inv : GroundInvariant durable Free I) (free : Free key) {α : Type}
    {x : ReassemblyProgram α} (only : ∀ r, Keeps (OnlyEpoch key r) x)
    (rows : ∀ r, Keeps (RowFrame key r) x) : Keeps I x := by
  intro s holds
  have only := only s s (onlyEpoch_refl s)
  have rows := rows s s (RowFrame.refl (inv.sound s holds) key)
  cases result : x s with
  | ok a t =>
      rw [result] at only rows
      exact inv.frame key s t free holds only rows
  | error e t =>
      rw [result] at only rows
      exact inv.frame key s t free holds only rows

theorem keeps_expireEpoch (inv : GroundInvariant durable Free I) (limits : ReassemblyLimits)
    (now : ℕ) (epoch : FileEpochKey × ReassemblyState)
    (free : epoch.2.state = .receiving → Free epoch.1 ∧ Opens epoch.1 epoch.2.startPayload) :
    Keeps I (expireEpoch limits now epoch) := by
  obtain ⟨key, st⟩ := epoch
  unfold expireEpoch
  dsimp only at free ⊢
  split
  · exact Keeps.pure _
  · rename_i due
    obtain ⟨free, opens⟩ := free (by
      by_contra closed
      exact due (.inl closed))
    refine inv.keeps free (fun r => ?_) fun r => ?_
    · exact (onlyEpoch_setState _).bind fun _ => (onlyEpoch_persistState _).bind fun _ =>
        (onlyEpoch_releaseState _).bind fun _ => onlyEpoch_removePart.bind fun _ => Keeps.pure _
    · exact (rowFrame_setState (by exact opens)).bind fun _ =>
        (rowFrame_persistState (by exact opens)).bind fun _ =>
          (rowFrame_releaseState (by exact opens)).bind fun _ => rowFrame_removePart.bind fun _ =>
            Keeps.pure _

theorem keeps_expireEpochs (inv : GroundInvariant durable Free I) (limits : ReassemblyLimits)
    (now : ℕ) (epochs : List (FileEpochKey × ReassemblyState))
    (free : ∀ epoch ∈ epochs, epoch.2.state = .receiving →
      Free epoch.1 ∧ Opens epoch.1 epoch.2.startPayload) :
    Keeps I (expireEpochs limits now epochs) := by
  induction epochs with
  | nil => exact Keeps.pure _
  | cons epoch rest ih =>
      rw [List.forall_mem_cons] at free
      exact (inv.keeps_expireEpoch limits now epoch free.1).bind fun _ =>
        (ih free.2).bind fun _ => Keeps.pure _

/-- **`reconcile` keeps the invariant.** -/
theorem keeps_reconcile (inv : GroundInvariant durable Free I) (limits : ReassemblyLimits)
    (readings : StorageReadings) (now : ℕ) : Keeps I (reconcile limits readings now) := by
  refine Keeps.bind (Keeps.modify fun r holds => inv.guard r _ holds) fun _ =>
    Triple.reading fun r holds => inv.keeps_expireEpochs limits now r.states.rows ?_
  intro epoch mem receiving
  have known := Table.mem_rows_iff.mp mem
  exact ⟨inv.receiving r epoch.1 epoch.2 holds known receiving,
    (inv.sound r holds).state epoch.1 epoch.2 known⟩

theorem keeps_loadEpoch (inv : GroundInvariant durable Free I)
    (row : FileEpochKey × ReassemblyState) (free : Free row.1)
    (opens : Opens row.1 row.2.startPayload) : Keeps I (loadEpoch row) := by
  refine inv.keeps free (fun r => ?_) fun r => ?_
  · refine (onlyEpoch_setState _).bind fun _ => Triple.reading fun s only => ?_
    split
    · exact Keeps.pure _
    · exact (onlyEpoch_setState _).bind fun _ => (onlyEpoch_persistState _).bind fun _ =>
        (onlyEpoch_releaseState _).bind fun _ => Keeps.pure _
  · refine (rowFrame_setState opens).bind fun _ => Triple.reading fun s frame => ?_
    split
    · exact Keeps.pure _
    · exact (rowFrame_setState (by exact opens)).bind fun _ =>
        (rowFrame_persistState (by exact opens)).bind fun _ =>
          (rowFrame_releaseState (by exact opens)).bind fun _ => Keeps.pure _

theorem keeps_loadEpochs (inv : GroundInvariant durable Free I)
    (rows : List (FileEpochKey × ReassemblyState))
    (free : ∀ row ∈ rows, Free row.1 ∧ Opens row.1 row.2.startPayload) :
    Keeps I (loadEpochs rows) := by
  induction rows with
  | nil => exact Keeps.pure _
  | cons row rest ih =>
      rw [List.forall_mem_cons] at free
      exact (inv.keeps_loadEpoch row free.1.1 free.1.2).bind fun _ => ih free.2

/-- **The constructor keeps the invariant.** -/
theorem keeps_construct (inv : GroundInvariant durable Free I) (limits : ReassemblyLimits)
    (readings : StorageReadings) (now : ℕ) : Keeps I (construct limits readings now) := by
  have load : Keeps I loadDurableStates := by
    refine Triple.reading fun r holds => ?_
    cases writer : r.writer with
    | none => exact Keeps.pure _
    | some rows =>
        refine inv.keeps_loadEpochs _ fun row mem => ?_
        obtain ⟨mem, receiving⟩ := List.mem_filter.mp mem
        have stored : r.rowOf row.1 = some row.2 := by
          rw [rowOf, writer]
          exact Table.mem_rows_iff.mp mem
        exact ⟨inv.receivingRow r row.1 row.2 holds stored (of_decide_eq_true receiving),
          (inv.sound r holds).row row.1 row.2 stored⟩
  refine load.bind fun _ => Keeps.bind (Keeps.modify fun r holds => ?_) fun _ =>
    inv.keeps_reconcile limits readings now
  unfold releaseOrphanedReservations
  split
  · exact inv.guard r _ holds
  · exact holds

/-- **A packet of a free epoch keeps the invariant.** -/
theorem arrival (inv : GroundInvariant durable Free I) (a : FileArrival) (free : Free a.key)
    (holds : I r) : I (finalState (reassemblyStep r a)) :=
  (inv.keeps free (fun _ => onlyEpoch_receive a.readings a.packet a.receivedAtUs)
    fun _ => rowFrame_receive a.readings a.packet a.receivedAtUs).finalState holds

end GroundInvariant

theorem sound_invariant : GroundInvariant durable (fun _ => True) (Sound durable) where
  sound _ sound := sound
  guard _ _ sound := ⟨sound.durable, sound.state, sound.row⟩
  frame _ _ _ _ sound only frame := sound.frame only frame
  receiving _ _ _ _ _ _ := trivial
  receivingRow _ _ _ _ _ _ := trivial

/-! ## An epoch that has ended -/

/-- The durable row of the epoch is terminal, if the ground has durable rows. -/
def RowEnded (key : FileEpochKey) (r : FilePacketReassembler) : Prop :=
  r.writer.isSome = true → ∃ row, r.rowOf key = some row ∧ row.state ≠ .receiving

/-- The epoch has ended: its state is terminal, and so is its durable row. -/
structure Ended (key : FileEpochKey) (st : ReassemblyState) (r : FilePacketReassembler) : Prop where
  known : r.states.find? key = some st
  terminal : st.state ≠ .receiving
  row : RowEnded key r

/-- The ground no longer knows the epoch, whose durable row is terminal. -/
structure Forgotten (key : FileEpochKey) (r : FilePacketReassembler) : Prop where
  unknown : r.states.find? key = none
  row : RowEnded key r

theorem RowEnded.of_same (ended : RowEnded key r) (row : s.rowOf key = r.rowOf key)
    (durable : s.writer.isSome = r.writer.isSome) : RowEnded key s := fun some_ => by
  rw [row]
  exact ended (durable ▸ some_)

/-- The release of a reservation keeps the durable row terminal. -/
theorem RowEnded.released (ended : RowEnded key r) (writer : s.writer = r.writer.map
    fun (rows : Table FileEpochKey ReassemblyState) =>
      rows.update key fun row => { row with reservationId := none }) : RowEnded key s := by
  intro durable
  rw [writer, Option.isSome_map] at durable
  obtain ⟨row, stored, closed⟩ := ended durable
  obtain ⟨rows, before, stored⟩ := Option.bind_eq_some_iff.mp stored
  refine ⟨{ row with reservationId := none }, ?_, closed⟩
  rw [rowOf, writer, before]
  show (rows.update key _).find? key = _
  rw [Table.find?_update, if_pos rfl, stored]
  rfl

theorem RowEnded.terminal (ended : RowEnded key r) (found : r.rowOf key = some st) :
    st.state ≠ .receiving := by
  obtain ⟨row, stored, terminal⟩ := ended (by
    unfold rowOf at found
    cases writer : r.writer with
    | none =>
        rw [writer] at found
        cases found
    | some rows => rfl)
  rw [found] at stored
  cases stored
  exact terminal

/-- As long as only other epochs change, the epoch stays as it ended. -/
theorem ended_invariant (key : FileEpochKey) (st : ReassemblyState) :
    GroundInvariant durable (· ≠ key) fun r => Sound durable r ∧ Ended key st r where
  sound _ h := h.1
  guard r g h := ⟨sound_invariant.guard r g h.1, h.2.known, h.2.terminal, h.2.row⟩
  frame other r s ne h only frame :=
    ⟨h.1.frame only frame, (only key ne.symm).state.trans h.2.known, h.2.terminal,
      h.2.row.of_same (frame.others key ne.symm) frame.durable⟩
  receiving r other st' h known receiving same := by
    rw [same, h.2.known] at known
    cases known
    exact h.2.terminal receiving
  receivingRow r other st' h found receiving same := by
    rw [same] at found
    exact h.2.row.terminal found receiving

/-- As long as only other epochs change, a forgotten epoch stays forgotten. -/
theorem forgotten_invariant (key : FileEpochKey) :
    GroundInvariant durable (· ≠ key) fun r => Sound durable r ∧ Forgotten key r where
  sound _ h := h.1
  guard r g h := ⟨sound_invariant.guard r g h.1, h.2.unknown, h.2.row⟩
  frame other r s ne h only frame :=
    ⟨h.1.frame only frame, (only key ne.symm).state.trans h.2.unknown,
      h.2.row.of_same (frame.others key ne.symm) frame.durable⟩
  receiving r other st' h known receiving same := by
    rw [same, h.2.unknown] at known
    cases known
  receivingRow r other st' h found receiving same := by
    rw [same] at found
    exact h.2.row.terminal found receiving

/-- A packet of an ended epoch changes nothing. -/
theorem finalState_receive_of_ended (ended : Ended key st r) (readings : StorageReadings)
    (packet : FilePacket) (receivedAtUs : ℕ) :
    finalState (receive readings packet key receivedAtUs r) = r := by
  by_cases type : packet.packetType = .start
  · unfold receive
    rw [if_pos type]
    exact finalState_start_of_known readings packet receivedAtUs ended.known
  · exact finalState_receive_of_closed readings receivedAtUs type ended.known ended.terminal

/-! ### A START of a forgotten epoch -/

theorem forgotten_of_guard (forgotten : Forgotten key s) {t : FilePacketReassembler}
    (states : t.states = s.states) (writer : t.writer = s.writer) : Forgotten key t where
  unknown := by
    rw [states]
    exact forgotten.unknown
  row := forgotten.row.of_same (by rw [rowOf, rowOf, writer]) (congrArg _ writer)

/-- The durable table refuses a second row of the epoch. -/
theorem persistStart_of_rowEnded (st : ReassemblyState) (ended : RowEnded key s)
    (durable : s.writer.isSome = true) :
    ∃ failure, persistStart key st s = .error failure s := by
  obtain ⟨row, stored, -⟩ := ended durable
  cases writer : s.writer with
  | none =>
      rw [writer] at durable
      cases durable
  | some rows =>
      rw [rowOf, writer] at stored
      unfold persistStart
      rw [get_bind, writer]
      dsimp only
      split
      · exact ⟨_, rfl⟩
      · rw [Table.insert_of_stored st stored]
        exact ⟨_, rfl⟩

/-- The epoch is forgotten by a ground with durable rows. -/
def Refused (key : FileEpochKey) (s : FilePacketReassembler) : Prop :=
  Forgotten key s ∧ s.writer.isSome = true

theorem Refused.of_same (refused : Refused key s) {t : FilePacketReassembler}
    (states : t.states = s.states) (writer : t.writer = s.writer) : Refused key t :=
  ⟨forgotten_of_guard refused.1 states writer, (congrArg _ writer).trans refused.2⟩

theorem refused_releaseState : Keeps (Refused key) (releaseState key st) := by
  refine Triple.reading fun s ⟨⟨unknown, ended⟩, durable⟩ => ?_
  split
  · refine Keeps.bind (Triple.set fun _ _ => ⟨⟨?_, ended.released rfl⟩,
      Option.isSome_map.trans durable⟩) fun _ => Keeps.pure _
    exact (Table.find?_update s.states key key _).trans (by rw [if_pos rfl, unknown]; rfl)
  · exact Keeps.pure _

theorem registerEpoch_of_refused (st : ReassemblyState) :
    Triple (Refused key) (registerEpoch key st) (fun _ _ => False) fun _ => Refused key := by
  refine Triple.bind (R := fun _ s => RowEnded key s ∧ s.writer.isSome = true)
    (Triple.modify fun s refused => ?_) fun _ =>
      Triple.tryCatch (R := fun _ s => RowEnded key s ∧ s.writer.isSome = true) ?_ fun _ => ?_
  · obtain ⟨forgotten, durable⟩ := refused
    have writer : (s.enterEpoch key st).writer = s.writer := by
      unfold enterEpoch
      split <;> rfl
    exact ⟨forgotten.row.of_same (by rw [rowOf, rowOf, writer]) (congrArg _ writer),
      (congrArg _ writer).trans durable⟩
  · rintro s ⟨ended, durable⟩
    obtain ⟨failure, raised⟩ := persistStart_of_rowEnded st ended durable
    rw [raised]
    exact ⟨ended, durable⟩
  · refine Triple.bind (R := fun _ => Refused key) (Triple.modify fun s row => ?_)
      fun _ => Triple.bind (R := fun _ => Refused key) refused_releaseState fun _ =>
        Triple.bind (R := fun _ => Refused key)
          (Triple.modify fun s refused => refused.of_same rfl rfl) fun _ =>
            Triple.raise fun _ h => h
    obtain ⟨ended, durable⟩ := row
    exact ⟨⟨(Table.find?_erase s.states key key).trans (if_pos rfl), ended⟩, durable⟩

/-- The checks of a START of an epoch the ground does not know. -/
theorem startChecks_of_unknown {m : StartMetadata} {payload : Bytes}
    {found : Option ReassemblyState} (unknown : s.states.find? key = none)
    (checked : s.startChecks key m payload = .ok found) : found = none := by
  unfold startChecks at checked
  rw [unknown] at checked
  split at checked
  · cases checked
  dsimp only at checked
  split at checked
  · cases checked
  split at checked
  · cases checked
  split at checked
  · cases checked
  · cases checked
    rfl

/-- **A START of a forgotten epoch is refused** by a ground with durable rows, and forgotten. -/
theorem start_of_refused (readings : StorageReadings) (packet : FilePacket) (receivedAtUs : ℕ) :
    Triple (Refused key) (start readings packet key receivedAtUs) (fun _ _ => False)
      fun _ => Refused key := by
  unfold start
  split
  · exact Triple.raise fun _ h => h
  refine Triple.bind (triple_liftRaises_known _) fun m => Triple.ofFact fun _ =>
    Triple.reading fun s refused => Triple.bind (triple_liftRaises_known _) fun found =>
      Triple.ofFact fun checked => ?_
  obtain rfl := startChecks_of_unknown refused.1.unknown checked
  refine Triple.bind (R := fun _ => Refused key) (fun t refused => ?_) fun reservationId =>
    Triple.bind (R := fun _ => Refused key) (fun t refused => ?_) fun _ =>
      Triple.bind (R := fun _ _ => False) (registerEpoch_of_refused _) fun _ =>
        Triple.pure fun _ h => h
  · rcases reserveStorage_cases readings m.fileSize t with
      ⟨failure, raised⟩ | ⟨reservationId, storageGuard, returned⟩
    · rw [raised]
      exact refused
    · rw [returned]
      exact refused.of_same rfl rfl
  · rcases createPart_cases reservationId t with ⟨failure, storageGuard, raised⟩ | returned
    · rw [raised]
      exact refused.of_same rfl rfl
    · rw [returned]
      exact refused.of_same rfl rfl

/-- A START of an unknown epoch is never answered by a terminal result. -/
theorem start_of_unknown (readings : StorageReadings) (packet : FilePacket) (receivedAtUs : ℕ) :
    Triple (fun s => s.states.find? key = none) (start readings packet key receivedAtUs)
      (fun result _ => result.state = .receiving) fun _ _ => True := by
  unfold start
  split
  · exact Triple.raise fun _ _ => trivial
  refine Triple.bind (Triple.weaken (triple_liftRaises_known _) (fun _ h => h) (fun _ _ h => h)
    fun _ _ _ => trivial) fun m => Triple.ofFact fun _ => Triple.reading fun s unknown =>
      Triple.bind (Triple.weaken (triple_liftRaises_known _) (fun _ h => h) (fun _ _ h => h)
        fun _ _ _ => trivial) fun found => Triple.ofFact fun checked => ?_
  obtain rfl := startChecks_of_unknown unknown checked
  have any {α : Type} (x : ReassemblyProgram α) (P : FilePacketReassembler → Prop) :
      Triple P x (fun _ _ => True) fun _ _ => True := by
    intro t _
    cases x t <;> trivial
  exact Triple.bind (any _ _) fun _ => Triple.bind (any _ _) fun _ => Triple.bind (any _ _)
    fun _ => Triple.pure fun _ _ => rfl

/-! ## Repeated packets -/

/-- The packet repeats the START of the epoch, or the END or CANCEL that ended it. -/
def Repeats (st : ReassemblyState) (packet : FilePacket) : Prop :=
  (packet.packetType = .start ∧ packet.sequenceIndex = 0 ∧ packet.offset = 0 ∧
      packet.payload = st.startPayload) ∨
    (packet.packetType ≠ .start ∧ st.terminalPacketType = some packet.packetType ∧
      st.terminalSequenceIndex = some packet.sequenceIndex ∧
      st.terminalPayloadSha256 = some (sha256 packet.payload))

/-- **A ground that knows the ended epoch** answers a repeated packet by its terminal result. -/
theorem receive_of_ended (sound : Sound durable r) (ended : Ended key st r) {packet : FilePacket}
    (repeats : Repeats st packet) (readings : StorageReadings) (receivedAtUs : ℕ) :
    receive readings packet key receivedAtUs r = .ok (st.result key none) r := by
  unfold receive
  rcases repeats with ⟨type, sequence, offset, payload⟩ | ⟨type, same, sequence, digest⟩
  · obtain ⟨m, parsed, target⟩ := sound.state key st ended.known
    have checked : r.startChecks key m packet.payload = .ok (some st) := by
      unfold startChecks
      rw [if_neg (not_not.mpr target), ended.known]
      dsimp only
      rw [if_pos payload.symm]
    rw [if_pos type]
    unfold start
    rw [if_neg (by rintro (h | h) <;> exact h (by assumption)),
      liftRaises_bind_of_ok (payload ▸ parsed), get_bind, liftRaises_bind_of_ok checked]
    rfl
  · have duplicate : st.isDuplicateTerminal packet = true :=
      decide_eq_true ⟨same, sequence, digest⟩
    rw [if_neg type, get_bind, ended.known]
    dsimp only
    rw [if_pos ended.terminal, if_pos duplicate]
    rfl

/-- **A ground that has forgotten the epoch** answers no packet by its terminal result. -/
theorem receive_of_forgotten (forgotten : Forgotten key r) (terminal : st.state ≠ .receiving)
    (packet : FilePacket) (readings : StorageReadings) (receivedAtUs : ℕ) :
    outcome (receive readings packet key receivedAtUs r) ≠ .ok (st.result key none) := by
  by_cases type : packet.packetType = .start
  · have answer := start_of_unknown readings packet receivedAtUs r forgotten.unknown
    unfold receive
    rw [if_pos type]
    cases result : start readings packet key receivedAtUs r with
    | error failure t => exact fun same => nomatch same
    | ok value t =>
        rw [result] at answer
        intro same
        rw [Except.ok.inj same] at answer
        exact terminal answer
  · rw [receive_of_unknown readings receivedAtUs type forgotten.unknown]
    intro same
    have transfer := congrArg ReassemblyResult.transferId (Except.ok.inj same)
    cases transfer

end FilePacketReassembler

/-! ## Runs -/

open FilePacketReassembler

/-- Whether an event is a restart. -/
instance GroundEvent.decidableIsRestart : DecidablePred GroundEvent.IsRestart
  | .restart _ _ _ => isTrue trivial
  | .arrival _ => isFalse id
  | .reconcile _ _ => isFalse id

section Steps

variable {durable : Bool} {limits : ReassemblyLimits} {key : FileEpochKey} {st : ReassemblyState}
  {r : FilePacketReassembler} {e : GroundEvent}

/-- What a restart finds is as sound as what it left. -/
theorem sound_found (sound : Sound durable r) (parts : FileEpochKey → Option Bytes) :
    Sound durable (r.found parts) :=
  ⟨sound.durable, fun _ _ known => (nomatch known), sound.row⟩

theorem sound_next (sound : Sound durable r) : Sound durable (e.next limits r) := by
  cases e with
  | arrival a => exact sound_invariant.arrival a trivial sound
  | reconcile readings now =>
      exact (sound_invariant.keeps_reconcile limits readings now).finalState sound
  | restart parts readings now =>
      exact (sound_invariant.keeps_construct limits readings now).finalState
        (sound_found sound parts)

/-- Without a restart an ended epoch stays as it ended. -/
theorem ended_next (sound : Sound durable r) (ended : Ended key st r) (runs : ¬ e.IsRestart) :
    Ended key st (e.next limits r) := by
  cases e with
  | arrival a =>
      by_cases same : a.key = key
      · have unchanged : GroundEvent.next limits r (.arrival a) = r := by
          obtain ⟨packet, key', receivedAtUs, readings⟩ := a
          cases same
          exact finalState_receive_of_ended ended readings packet receivedAtUs
        rw [unchanged]
        exact ended
      · exact ((ended_invariant key st).arrival a same ⟨sound, ended⟩).2
  | reconcile readings now =>
      exact (((ended_invariant key st).keeps_reconcile limits readings now).finalState
        ⟨sound, ended⟩).2
  | restart parts readings now => exact absurd trivial runs

/-- A restart forgets an ended epoch. -/
theorem forgotten_restart (sound : Sound durable r) (row : RowEnded key r)
    (restarts : e.IsRestart) : Forgotten key (e.next limits r) := by
  cases e with
  | restart parts readings now =>
      exact (((forgotten_invariant key).keeps_construct limits readings now).finalState
        ⟨sound_found sound parts, rfl, row⟩).2
  | arrival a => exact restarts.elim
  | reconcile readings now => exact restarts.elim

/-- A forgotten epoch stays forgotten; a ground without durable rows could take it up again. -/
theorem forgotten_next (sound : Sound durable r) (forgotten : Forgotten key r)
    (refuses : durable = true ∨ ¬ e.Starts key) : Forgotten key (e.next limits r) := by
  cases e with
  | arrival a =>
      by_cases same : a.key = key
      · obtain ⟨packet, key', receivedAtUs, readings⟩ := a
        cases same
        by_cases type : packet.packetType = .start
        · have durable : r.writer.isSome = true :=
            sound.durable.trans (refuses.resolve_right fun kept => kept ⟨rfl, type⟩)
          have refused : Refused key' (Effect.finalState
              (start readings packet key' receivedAtUs r)) :=
            Effect.Triple.finalState (Effect.Triple.weaken
              (start_of_refused readings packet receivedAtUs) (fun _ h => h)
              (fun _ _ h => h.elim) fun _ _ h => h) ⟨forgotten, durable⟩
          show Forgotten key' (Effect.finalState (receive readings packet key' receivedAtUs r))
          unfold receive
          rw [if_pos type]
          exact refused.1
        · show Forgotten key' (Effect.finalState (receive readings packet key' receivedAtUs r))
          rw [receive_of_unknown readings receivedAtUs type forgotten.unknown]
          exact forgotten
      · exact ((forgotten_invariant key).arrival a same ⟨sound, forgotten⟩).2
  | reconcile readings now =>
      exact (((forgotten_invariant key).keeps_reconcile limits readings now).finalState
        ⟨sound, forgotten⟩).2
  | restart parts readings now => exact forgotten_restart sound forgotten.row trivial

end Steps

/-- No START of the epoch comes in after a restart. -/
def NotReopened (key : FileEpochKey) : List GroundEvent → Prop
  | [] => True
  | e :: rest => (e.IsRestart → ∀ e' ∈ rest, ¬ e'.Starts key) ∧ NotReopened key rest

section Runs

variable {durable : Bool} {limits : ReassemblyLimits} {key : FileEpochKey} {st : ReassemblyState}
  {r : FilePacketReassembler}

/-- A run without restarts. -/
theorem ended_exec (limits : ReassemblyLimits) (sound : Sound durable r) (ended : Ended key st r) {later : List GroundEvent}
    (runs : ∀ e ∈ later, ¬ e.IsRestart) :
    Sound durable ((groundMachine limits).exec r later) ∧
      Ended key st ((groundMachine limits).exec r later) :=
  (groundMachine limits).exec_invariant_of_forall
    (fun r => Sound durable r ∧ Ended key st r) (fun e => ¬ e.IsRestart) ⟨sound, ended⟩
    (fun _ _ runs h => ⟨sound_next h.1, ended_next h.1 h.2 runs⟩) later runs

/-- A run that goes on after a restart. -/
theorem forgotten_exec (sound : Sound durable r) (forgotten : Forgotten key r)
    {later : List GroundEvent} (refuses : ∀ e ∈ later, durable = true ∨ ¬ e.Starts key) :
    Forgotten key ((groundMachine limits).exec r later) :=
  ((groundMachine limits).exec_invariant_of_forall
    (fun r => Sound durable r ∧ Forgotten key r) (fun e => durable = true ∨ ¬ e.Starts key)
    ⟨sound, forgotten⟩ (fun _ _ refuses h => ⟨sound_next h.1, forgotten_next h.1 h.2 refuses⟩)
    later refuses).2

/-- A run with a restart. -/
theorem forgotten_of_restart (sound : Sound durable r) (ended : Ended key st r)
    {later : List GroundEvent} (restarts : ∃ e ∈ later, e.IsRestart)
    (closed : durable = true ∨ NotReopened key later) :
    Forgotten key ((groundMachine limits).exec r later) := by
  induction later generalizing r with
  | nil =>
      obtain ⟨e, mem, -⟩ := restarts
      exact absurd mem List.not_mem_nil
  | cons e rest ih =>
      rw [Machine.exec_cons]
      by_cases first : e.IsRestart
      · exact forgotten_exec (sound_next sound) (forgotten_restart sound ended.row first)
          fun e' mem => closed.imp_right fun kept => kept.1 first e' mem
      · refine ih (sound_next sound) (ended_next sound ended first) ?_
          (closed.imp_right And.right)
        obtain ⟨e', mem, restart⟩ := restarts
        rcases List.mem_cons.mp mem with rfl | mem
        · exact absurd restart first
        · exact ⟨e', mem, restart⟩

end Runs

/-- **Repeated packets and restarts.**  Once an epoch has ended, its repeated START and the
repeated END or CANCEL that ended it are answered by its terminal result exactly if the ground
was not restarted since.  (A ground without durable rows may receive the epoch once more after
a restart.) -/
theorem answersRepeated_iff (limits : ReassemblyLimits) (maxBundleBytes : ℕ)
    (productStore : Option (ReassemblyState → Bytes → Raises PyValue))
    (storageGuard : Option StorageGuard) (durable : Bool) (earlier later : List GroundEvent)
    {r : FilePacketReassembler} (reached : r = (groundMachine limits).exec
      (.initial maxBundleBytes productStore storageGuard durable) earlier)
    {key : FileEpochKey} {st : ReassemblyState} (ended : Ended key st r)
    (closed : durable = true ∨ NotReopened key later) {packet : FilePacket}
    (repeats : Repeats st packet) (readings : StorageReadings) (receivedAtUs : ℕ) :
    outcome (receive readings packet key receivedAtUs ((groundMachine limits).exec r later)) =
      .ok (st.result key none) ↔ ∀ e ∈ later, ¬ e.IsRestart := by
  have sound : Sound durable r := by
    rw [reached]
    refine (groundMachine limits).exec_invariant (Sound durable) ⟨?_, ?_, ?_⟩
      (fun _ _ sound => sound_next sound) earlier
    · cases durable <;> rfl
    · exact fun _ _ known => (nomatch known)
    · intro key row found
      obtain ⟨rows, writer, stored⟩ := Option.bind_eq_some_iff.mp found
      cases durable with
      | false => cases writer
      | true =>
          cases writer
          cases stored
  constructor
  · intro answered e mem restart
    exact receive_of_forgotten (forgotten_of_restart sound ended ⟨e, mem, restart⟩ closed)
      ended.terminal packet readings receivedAtUs answered
  · intro runs
    obtain ⟨sound, ended⟩ := ended_exec limits sound ended runs
    rw [receive_of_ended sound ended repeats readings receivedAtUs]
    rfl

/-! ### A canceled epoch -/

/-- The CANCEL of the sample epoch. -/
def sampleCancel : FilePacket := (FilePacket.new .cancel 1 0 []).toOption.get (by decide)

theorem one_ne_zero_u64 : (1 : U64) ≠ 0 := by decide

/-- The key of the sample epoch. -/
def sampleEpoch : FileEpochKey := ⟨7, 1, 1, one_ne_zero_u64⟩

/-- Its START and its CANCEL. -/
def sampleCanceled : List GroundEvent :=
  (sampleArrivals.take 1 ++ [FileArrival.mk sampleCancel sampleEpoch 11 ⟨11, 0⟩]).map .arrival

/-- The ground's timeout of a day, and its injected clock. -/
def sampleLimits : ReassemblyLimits := ⟨24 * 3600000000, true⟩

/-- A ground with durable rows, after both. -/
def sampleGround : FilePacketReassembler :=
  (groundMachine sampleLimits).exec (.initial 1000 none none true) sampleCanceled

/-- A restart that finds no staged file. -/
def sampleRestart : GroundEvent := .restart (fun _ => none) ⟨12, 0⟩ 12

theorem sampleGround_ended : ∃ st, Ended sampleEpoch st sampleGround ∧ Repeats st sampleCancel ∧
    st.terminalReason = some "REMOTE_CANCEL" := by
  have memory : (sampleGround.states.find? sampleEpoch).map
      (fun st => (st.state, st.isDuplicateTerminal sampleCancel, st.terminalReason)) =
        some (.canceled, true, some "REMOTE_CANCEL") := by decide +kernel
  have durable : (sampleGround.rowOf sampleEpoch).map (fun row => row.state) = some .canceled := by
    decide +kernel
  obtain ⟨st, known, same⟩ := Option.map_eq_some_iff.mp memory
  obtain ⟨row, stored, closed⟩ := Option.map_eq_some_iff.mp durable
  obtain ⟨state, repeated, reason⟩ := (by simpa using same : st.state = .canceled ∧
    st.isDuplicateTerminal sampleCancel = true ∧ st.terminalReason = some "REMOTE_CANCEL")
  exact ⟨st, ⟨known, by rw [state]; decide, fun _ => ⟨row, stored, by rw [closed]; decide⟩⟩,
    .inr ⟨by decide, of_decide_eq_true repeated⟩, reason⟩

/-- After a restart the repeated CANCEL is answered as a packet without a START. -/
theorem not_answersRepeated_of_restart :
    ∃ st, Ended sampleEpoch st sampleGround ∧ Repeats st sampleCancel ∧
      (outcome (receive ⟨13, 0⟩ sampleCancel sampleEpoch 13
        ((groundMachine sampleLimits).exec sampleGround [sampleRestart]))).map
          (fun result => (result.state, result.reason)) = .ok (.incomplete, some "MISSING_START") ∧
      outcome (receive ⟨13, 0⟩ sampleCancel sampleEpoch 13
        ((groundMachine sampleLimits).exec sampleGround [sampleRestart])) ≠
          .ok (st.result sampleEpoch none) := by
  obtain ⟨st, ended, repeats, reason⟩ := sampleGround_ended
  have missing : (outcome (receive ⟨13, 0⟩ sampleCancel sampleEpoch 13
      ((groundMachine sampleLimits).exec sampleGround [sampleRestart]))).map
        (fun result => (result.state, result.reason)) = .ok (.incomplete, some "MISSING_START") := by
    decide +kernel
  refine ⟨st, ended, repeats, missing, fun same => ?_⟩
  rw [same] at missing
  have reasons := congrArg Prod.snd (Except.ok.inj missing)
  rw [show ((st.result sampleEpoch none).state, (st.result sampleEpoch none).reason).2 =
    st.terminalReason from rfl, reason] at reasons
  exact absurd reasons (by decide)

theorem answersRepeated_iff_sample :
    ∃ st, Ended sampleEpoch st sampleGround ∧
      (outcome (receive ⟨13, 0⟩ sampleCancel sampleEpoch 13
        ((groundMachine sampleLimits).exec sampleGround [])) =
          .ok (st.result sampleEpoch none) ↔ ∀ e ∈ ([] : List GroundEvent), ¬ e.IsRestart) ∧
      (outcome (receive ⟨13, 0⟩ sampleCancel sampleEpoch 13
        ((groundMachine sampleLimits).exec sampleGround [sampleRestart])) =
          .ok (st.result sampleEpoch none) ↔ ∀ e ∈ [sampleRestart], ¬ e.IsRestart) := by
  obtain ⟨st, ended, repeats, -⟩ := sampleGround_ended
  exact ⟨st, ended,
    answersRepeated_iff sampleLimits 1000 none none true sampleCanceled [] rfl ended (.inl rfl)
      repeats ⟨13, 0⟩ 13,
    answersRepeated_iff sampleLimits 1000 none none true sampleCanceled [sampleRestart] rfl ended
      (.inl rfl) repeats ⟨13, 0⟩ 13⟩

end CubeNano

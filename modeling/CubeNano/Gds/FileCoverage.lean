import CubeNano.Gds.FileReassembly

/-!
# What a receiving epoch has stored

While an epoch receives, four records describe the same thing: the packet index, the
range table, the byte count and the part file.  `EpochStaged` says how they hang
together with the list of DATA packets the epoch accepted, and one DATA packet keeps it.

## Main definitions

* `acceptedData` — the DATA packets of an epoch that a run accepted
* `EpochStaged` — what the records of a receiving epoch say about them

## Main statements

* `FilePacketReassembler.data_cases` — the three ways a DATA packet can end
* `FilePacketReassembler.staged_stored` — a stored packet joins the accepted ones
* `FilePacketReassembler.staged_written` — a failed transaction leaves the epoch as it was
-/

namespace CubeNano

/-! ## Reading and writing a file -/

theorem getElem?_readAt (file : Bytes) (offset length i : ℕ) :
    (readAt file offset length)[i]? = if i < length then file[offset + i]? else none := by
  unfold readAt
  rw [List.getElem?_take]
  split
  · rw [List.getElem?_drop]
  · rfl

/-- A read returns the data exactly if the file carries it there. -/
theorem readAt_eq_iff {file data : Bytes} {offset : ℕ} :
    readAt file offset data.length = data ↔
      ∀ i < data.length, file[offset + i]? = data[i]? := by
  constructor
  · intro same i inside
    have this := getElem?_readAt file offset data.length i
    rw [same, if_pos inside] at this
    exact this.symm
  · intro agree
    apply List.ext_getElem?
    intro i
    rw [getElem?_readAt]
    split
    · exact agree i ‹_›
    · rw [List.getElem?_eq_none (by omega)]

theorem length_writeAt (file data : Bytes) (offset : ℕ) :
    (writeAt file offset data).length = max file.length (offset + data.length) := by
  simp only [writeAt, List.length_append, List.length_take, List.length_replicate,
    List.length_drop]
  omega

/-- The written bytes. -/
theorem getElem?_writeAt_of_mem {file data : Bytes} {offset i : ℕ} (lower : offset ≤ i)
    (upper : i < offset + data.length) : (writeAt file offset data)[i]? = data[i - offset]? := by
  have front : (file.take offset ++ List.replicate (offset - file.length) 0).length = offset := by
    simp only [List.length_append, List.length_take, List.length_replicate]
    omega
  unfold writeAt
  rw [List.getElem?_append_left (by rw [List.length_append, front]; omega),
    List.getElem?_append_right (by omega), front]

/-- The bytes a write leaves alone. -/
theorem getElem?_writeAt_of_notMem {file data : Bytes} {offset i : ℕ}
    (outside : i < offset ∨ offset + data.length ≤ i) (present : i < file.length) :
    (writeAt file offset data)[i]? = file[i]? := by
  have front : (file.take offset ++ List.replicate (offset - file.length) 0).length = offset := by
    simp only [List.length_append, List.length_take, List.length_replicate]
    omega
  unfold writeAt
  rcases outside with before | behind
  · rw [List.append_assoc, List.append_assoc, List.getElem?_append_left
      (by rw [List.length_take]; omega), List.getElem?_take, if_pos before]
  · rw [List.getElem?_append_right (by rw [List.length_append, front]; omega),
      List.length_append, front, List.getElem?_drop]
    congr 1
    omega

/-! ## Accepted packets -/

/-- The packet carries byte `i` of the file. -/
def FilePacket.Carries (packet : FilePacket) (i : ℕ) : Prop :=
  packet.offset ≤ i ∧ i < packet.offset + packet.payload.length

/-- The row of a DATA packet in `file_reassembly_packets`. -/
def FilePacket.row (packet : FilePacket) : PacketRow :=
  ⟨packet.offset, packet.payload.length, sha256 packet.payload⟩

/-- The call returned and the epoch goes on receiving. -/
def Accepted : Raises ReassemblyResult → Prop
  | .ok result => result.state = .receiving
  | .error _ => False

instance (outcome : Raises ReassemblyResult) : Decidable (Accepted outcome) := by
  unfold Accepted
  split <;> infer_instance

/-- The DATA packets of an epoch that a run accepted. -/
def acceptedData (key : FileEpochKey) (log : List (FileArrival × Raises ReassemblyResult)) :
    List FilePacket :=
  (log.filter fun entry =>
    entry.1.key = key ∧ entry.1.packet.packetType = .data ∧ Accepted entry.2).map
      fun entry => entry.1.packet

/-- **What the records of a receiving epoch say.**  `file` is its part file and
`accepted` the DATA packets it accepted. -/
structure EpochStaged (r : FilePacketReassembler) (key : FileEpochKey) (st : ReassemblyState)
    (accepted : List FilePacket) (file : Bytes) : Prop where
  part : r.parts key = some file
  length_le : file.length ≤ st.expectedSize
  fits : ∀ packet ∈ accepted, packet.payload ≠ [] ∧
    packet.offset + packet.payload.length ≤ st.expectedSize
  bytes : ∀ packet ∈ accepted,
    readAt file packet.offset packet.payload.length = packet.payload
  rows : ∀ packet ∈ accepted, (r.packetIndex key).find? packet.sequenceIndex = some packet.row
  rowsFrom : ∀ sequenceIndex row, (r.packetIndex key).find? sequenceIndex = some row →
    ∃ packet ∈ accepted, packet.sequenceIndex = sequenceIndex
  separated : Intervals.Separated (r.rangeIndex key)
  proper : Intervals.Proper (r.rangeIndex key)
  union : ∀ i, Intervals.Covers (r.rangeIndex key) i ↔ ∃ packet ∈ accepted, packet.Carries i
  counted : st.bytesReceived = Intervals.total (r.rangeIndex key)

namespace EpochStaged

variable {r r' : FilePacketReassembler} {key : FileEpochKey} {st : ReassemblyState}
  {accepted : List FilePacket} {file : Bytes}

/-- A covered byte is in the file. -/
theorem lt_length_of_covers (staged : EpochStaged r key st accepted file) {i : ℕ}
    (covered : Intervals.Covers (r.rangeIndex key) i) : i < file.length := by
  obtain ⟨packet, mem, lower, upper⟩ := (staged.union i).mp covered
  have agree := readAt_eq_iff.mp (staged.bytes packet mem) (i - packet.offset) (by omega)
  rw [Nat.add_sub_cancel' lower, List.getElem?_eq_getElem (by omega : _ < packet.payload.length)]
    at agree
  exact (List.getElem?_eq_some_iff.mp agree).1

/-- A covered byte lies inside the file's announced size. -/
theorem lt_size_of_covers (staged : EpochStaged r key st accepted file) {i : ℕ}
    (covered : Intervals.Covers (r.rangeIndex key) i) : i < st.expectedSize :=
  (staged.lt_length_of_covers covered).trans_le staged.length_le

/-- A change of the file that no covered byte notices. -/
theorem withFile (staged : EpochStaged r key st accepted file) {file' : Bytes}
    (index : r'.packetIndex key = r.packetIndex key) (ranges : r'.rangeIndex key = r.rangeIndex key)
    (part : r'.parts key = some file') (length_le : file'.length ≤ st.expectedSize)
    (same : ∀ i, Intervals.Covers (r.rangeIndex key) i → file'[i]? = file[i]?) :
    EpochStaged r' key st accepted file' where
  part := part
  length_le := length_le
  fits := staged.fits
  bytes packet mem := by
    refine readAt_eq_iff.mpr fun i inside => ?_
    rw [same _ ((staged.union _).mpr ⟨packet, mem, Nat.le_add_right _ _, by omega⟩)]
    exact readAt_eq_iff.mp (staged.bytes packet mem) i inside
  rows packet mem := by rw [index]; exact staged.rows packet mem
  rowsFrom := by rw [index]; exact staged.rowsFrom
  separated := by rw [ranges]; exact staged.separated
  proper := by rw [ranges]; exact staged.proper
  union := by rw [ranges]; exact staged.union
  counted := by rw [ranges]; exact staged.counted

/-- The records of an epoch that nothing changed. -/
theorem frame (staged : EpochStaged r key st accepted file) {st' : ReassemblyState}
    (index : r'.packetIndex key = r.packetIndex key) (ranges : r'.rangeIndex key = r.rangeIndex key)
    (part : r'.parts key = r.parts key) (size : st'.expectedSize = st.expectedSize)
    (count : st'.bytesReceived = st.bytesReceived) : EpochStaged r' key st' accepted file where
  part := part.trans staged.part
  length_le := size ▸ staged.length_le
  fits := by rw [size]; exact staged.fits
  bytes := staged.bytes
  rows packet mem := by rw [index]; exact staged.rows packet mem
  rowsFrom := by rw [index]; exact staged.rowsFrom
  separated := by rw [ranges]; exact staged.separated
  proper := by rw [ranges]; exact staged.proper
  union := by rw [ranges]; exact staged.union
  counted := by rw [ranges, count]; exact staged.counted

/-- A stored row is that of an accepted packet with the same bytes of the file. -/
theorem exists_of_stored (staged : EpochStaged r key st accepted file) {packet : FilePacket}
    (stored : (r.packetIndex key).find? packet.sequenceIndex = some packet.row) :
    ∃ first ∈ accepted, first.offset = packet.offset ∧
      first.payload.length = packet.payload.length := by
  obtain ⟨first, mem, sameSequence⟩ := staged.rowsFrom _ _ stored
  have sameRow : some first.row = some packet.row := by
    rw [← staged.rows first mem, sameSequence, stored]
  simp only [Option.some.injEq, FilePacket.row, PacketRow.mk.injEq] at sameRow
  exact ⟨first, mem, sameRow.1, sameRow.2.1⟩

/-- A packet the epoch already stores may be counted again. -/
theorem again (staged : EpochStaged r key st accepted file) {packet : FilePacket}
    (stored : (r.packetIndex key).find? packet.sequenceIndex = some packet.row)
    (bytes : readAt file packet.offset packet.payload.length = packet.payload) :
    EpochStaged r key st (accepted ++ [packet]) file := by
  obtain ⟨first, memFirst, sameOffset, sameLength⟩ := staged.exists_of_stored stored
  have each {P : FilePacket → Prop} (old : ∀ p ∈ accepted, P p) (new : P packet) :
      ∀ p ∈ accepted ++ [packet], P p := by
    intro p mem
    rcases List.mem_append.mp mem with mem | mem
    · exact old p mem
    · exact List.mem_singleton.mp mem ▸ new
  refine { staged with
    fits := each staged.fits ?_
    bytes := each staged.bytes bytes
    rows := each staged.rows stored
    rowsFrom := fun sequenceIndex row found => ?_
    union := fun i => (staged.union i).trans ⟨?_, ?_⟩ }
  · have fits := staged.fits first memFirst
    rw [← List.length_pos_iff] at fits ⊢
    omega
  · obtain ⟨p, mem, same⟩ := staged.rowsFrom sequenceIndex row found
    exact ⟨p, List.mem_append_left _ mem, same⟩
  · rintro ⟨p, mem, carries⟩
    exact ⟨p, List.mem_append_left _ mem, carries⟩
  · rintro ⟨p, mem, carries⟩
    rcases List.mem_append.mp mem with mem | mem
    · exact ⟨p, mem, carries⟩
    · obtain rfl := List.mem_singleton.mp mem
      exact ⟨first, memFirst, by unfold FilePacket.Carries at *; omega⟩

end EpochStaged

/-! ## One DATA packet -/

namespace FilePacketReassembler

variable {r : FilePacketReassembler} {key : FileEpochKey} {st : ReassemblyState} {packet : FilePacket}
  {receivedAtUs : ℕ}

/-- The range and payload checks of `_data`. -/
def DataAdmissible (st : ReassemblyState) (packet : FilePacket) : Prop :=
  packet.sequenceIndex ≠ 0 ∧ packet.payload ≠ [] ∧
    packet.offset + packet.payload.length ≤ st.expectedSize

theorem openPart_eq_ok_iff {file : Bytes} :
    r.openPart key = .ok file ↔ r.parts key = some file := by
  unfold openPart
  cases r.parts key with
  | none =>
      constructor
      · rintro ⟨⟩
      · rintro ⟨⟩
  | some content => simp

/-- A packet under a stored sequence index is the stored one, in the table and in the file. -/
theorem repeatedData_eq_ok {old : PacketRow} (h : r.repeatedData key old packet = .ok ()) :
    ∃ file, r.parts key = some file ∧ old = packet.row ∧
      readAt file packet.offset packet.payload.length = packet.payload := by
  unfold repeatedData at h
  split at h
  · cases h
  rename_i sameRow
  obtain ⟨file, opened, h⟩ := bind_eq_ok_iff.mp h
  split at h
  · cases h
  rename_i sameBytes
  exact ⟨file, openPart_eq_ok_iff.mp opened, not_not.mp sameRow, not_not.mp sameBytes⟩

theorem newData_eq_ok_iff {file : Bytes} {ranges : List (ℕ × ℕ)} :
    r.newData key packet = .ok (file, ranges) ↔
      ranges = Intervals.touching packet.offset (packet.offset + packet.payload.length)
          (r.rangeIndex key) ∧
        ranges.length ≤ maxOverlapRows ∧ r.parts key = some file ∧
        ∀ range ∈ ranges, conflicts file packet range = false := by
  generalize touched : Intervals.touching packet.offset (packet.offset + packet.payload.length)
    (r.rangeIndex key) = touchedRanges
  have overlap : r.overlapRanges key packet.offset (packet.offset + packet.payload.length) =
      if touchedRanges.length ≤ maxOverlapRows then .ok touchedRanges
      else fileReassemblyError "REASSEMBLY_METADATA_LIMIT"
        "DATA packet touches too many persisted ranges" := by
    unfold overlapRanges
    simp only [touched, List.length_take]
    by_cases few : touchedRanges.length ≤ maxOverlapRows
    · rw [if_neg (by omega), if_pos few, List.take_of_length_le (by omega)]
    · rw [if_pos (by omega), if_neg few]
  unfold newData
  rw [overlap]
  constructor
  · intro h
    obtain ⟨ranges', h1, h2⟩ := bind_eq_ok_iff.mp h
    split at h1
    · rename_i few
      cases h1
      obtain ⟨file', h3, h4⟩ := bind_eq_ok_iff.mp h2
      split at h4
      · cases h4
      · rename_i clean
        cases h4
        refine ⟨rfl, few, openPart_eq_ok_iff.mp h3, fun range mem => ?_⟩
        by_contra conflict
        exact clean (List.any_eq_true.mpr ⟨range, mem, by simpa using conflict⟩)
    · cases h1
  · rintro ⟨rfl, few, present, clean⟩
    rw [if_pos few]
    have agree : ¬ ranges.any (conflicts file packet) = true := by
      rw [List.any_eq_true]
      rintro ⟨range, mem, conflict⟩
      rw [clean range mem] at conflict
      cases conflict
    simp [bind, Except.bind, openPart_eq_ok_iff.mpr present, agree]

/-- **The three ways a DATA packet can end**: refused with nothing changed, recognized as
stored, or passed on to be stored. -/
theorem data_cases (r : FilePacketReassembler) (key : FileEpochKey) (st : ReassemblyState)
    (packet : FilePacket) (receivedAtUs : ℕ) :
    (∃ failure, data key st packet receivedAtUs r = .error failure r) ∨
      DataAdmissible st packet ∧
        ((∃ file, r.parts key = some file ∧
            (r.packetIndex key).find? packet.sequenceIndex = some packet.row ∧
            readAt file packet.offset packet.payload.length = packet.payload ∧
            data key st packet receivedAtUs r = .ok (st.result key none) r) ∨
          ∃ file ranges, (r.packetIndex key).find? packet.sequenceIndex = none ∧
            r.newData key packet = .ok (file, ranges) ∧
            data key st packet receivedAtUs r =
              storeData key st packet receivedAtUs file ranges r) := by
  unfold data
  split
  · exact .inl ⟨_, rfl⟩
  rename_i positive
  split
  · exact .inl ⟨_, rfl⟩
  rename_i inside
  have admissible : DataAdmissible st packet := by
    simp only [not_or, not_lt, gt_iff_lt] at inside
    exact ⟨positive, inside.2.1, by omega⟩
  refine or_iff_not_imp_left.mpr fun returned => ⟨admissible, ?_⟩
  rw [Effect.get_bind] at returned ⊢
  cases found : (r.packetIndex key).find? packet.sequenceIndex with
  | some old =>
      left
      rw [found] at returned
      cases repeated : r.repeatedData key old packet with
      | error failure =>
          exact absurd ⟨failure, liftRaises_bind_of_error repeated _ r⟩ returned
      | ok _ =>
          obtain ⟨file, present, sameRow, sameBytes⟩ := repeatedData_eq_ok repeated
          exact ⟨file, present, by rw [sameRow], sameBytes, liftRaises_bind_of_ok repeated _ r⟩
  | none =>
      right
      rw [found] at returned
      cases checked : r.newData key packet with
      | error failure => exact absurd ⟨failure, liftRaises_bind_of_error checked _ r⟩ returned
      | ok value =>
          obtain ⟨file, ranges⟩ := value
          exact ⟨file, ranges, rfl, rfl, rfl⟩

/-- The part file after the write. -/
def written (r : FilePacketReassembler) (key : FileEpochKey) (file : Bytes) (packet : FilePacket) :
    FilePacketReassembler :=
  { r with parts := Function.update r.parts key (some (writeAt file packet.offset packet.payload)) }

/-- The byte count `_data` computes. -/
def newCount (st : ReassemblyState) (packet : FilePacket) (ranges : List (ℕ × ℕ)) : ℤ :=
  st.bytesReceived + ((Intervals.spanEnd (packet.offset + packet.payload.length) ranges : ℤ)
    - Intervals.spanStart packet.offset ranges
    - (ranges.map fun range => (range.2 : ℤ) - range.1).sum)

/-- The tables after the transaction. -/
def stored (r : FilePacketReassembler) (key : FileEpochKey) (packet : FilePacket)
    (ranges : List (ℕ × ℕ)) (packets : Table ℕ PacketRow)
    (writer : Option (Table FileEpochKey ReassemblyState)) : FilePacketReassembler :=
  { r with
    writer := writer
    packetIndex := Function.update r.packetIndex key packets
    rangeIndex := Function.update r.rangeIndex key
      (Intervals.insertRow (Intervals.spanStart packet.offset ranges,
          Intervals.spanEnd (packet.offset + packet.payload.length) ranges)
        ((r.rangeIndex key).filter fun range => range ∉ ranges)) }

/-- **The two ways storing can end**: the transaction fails and only the file was written,
or tables and state follow. -/
theorem storeData_cases (r : FilePacketReassembler) (key : FileEpochKey) (st : ReassemblyState)
    (packet : FilePacket) (receivedAtUs : ℕ) (file : Bytes) (ranges : List (ℕ × ℕ)) :
    (∃ failure, storeData key st packet receivedAtUs file ranges r =
        .error failure (r.written key file packet)) ∨
      ∃ packets writer st',
        (r.packetIndex key).insert packet.sequenceIndex packet.row = some packets ∧
        st' = { st with bytesReceived := newCount st packet ranges, updatedAtUs := receivedAtUs } ∧
        storeData key st packet receivedAtUs file ranges r =
          .ok (st'.result key none)
            { (r.written key file packet).stored key packet ranges packets writer with
              states := r.states.set key st' } := by
  have transaction (r : FilePacketReassembler) :
      (∃ failure, persistDataPacket key packet.sequenceIndex packet.row ranges
          (Intervals.spanStart packet.offset ranges)
          (Intervals.spanEnd (packet.offset + packet.payload.length) ranges)
          (newCount st packet ranges) receivedAtUs r = .error failure r) ∨
        ∃ packets writer, (r.packetIndex key).insert packet.sequenceIndex packet.row = some packets ∧
          persistDataPacket key packet.sequenceIndex packet.row ranges
            (Intervals.spanStart packet.offset ranges)
            (Intervals.spanEnd (packet.offset + packet.payload.length) ranges)
            (newCount st packet ranges) receivedAtUs r =
              .ok () (r.stored key packet ranges packets writer) := by
    unfold persistDataPacket
    rw [Effect.get_bind]
    split
    · exact .inl ⟨_, rfl⟩
    cases inserted : (r.packetIndex key).insert packet.sequenceIndex packet.row with
    | none => exact .inl ⟨_, rfl⟩
    | some packets =>
        cases updated : updateProgress r.writer key (newCount st packet ranges) receivedAtUs with
        | error failure => exact .inl ⟨failure, rfl⟩
        | ok writer => exact .inr ⟨packets, writer, rfl, rfl⟩
  unfold storeData
  rw [Effect.modify_bind]
  rcases transaction (r.written key file packet) with ⟨failure, raised⟩ | ⟨packets, writer, inserted, done⟩
  · exact .inl ⟨failure, Effect.bind_of_error raised⟩
  · refine .inr ⟨packets, writer, _, inserted, rfl, ?_⟩
    exact (Effect.bind_of_ok done).trans rfl

variable {accepted : List FilePacket} {file : Bytes}

/-- No covered byte notices the write of a packet that passed the conflict scan. -/
theorem getElem?_written (staged : EpochStaged r key st accepted file)
    (scanned : ∀ range ∈ Intervals.touching packet.offset (packet.offset + packet.payload.length)
      (r.rangeIndex key), conflicts file packet range = false)
    {i : ℕ} (covered : Intervals.Covers (r.rangeIndex key) i) :
    (writeAt file packet.offset packet.payload)[i]? = file[i]? := by
  have present := staged.lt_length_of_covers covered
  by_cases carried : packet.Carries i
  · obtain ⟨lower, upper⟩ := carried
    obtain ⟨range, mem, starts, ends⟩ := covered
    have scan := scanned range (Intervals.mem_touching.mpr ⟨mem, by omega, by omega⟩)
    generalize hs : max range.1 packet.offset = overlapStart
    generalize he : min range.2 (packet.offset + packet.payload.length) = overlapEnd
    simp only [conflicts, hs, he, decide_eq_false_iff_not, not_and, not_not] at scan
    -- the scan compared byte `i` of the file with byte `i - offset` of the packet
    have bytes := congrArg (fun b : Bytes => b[i - overlapStart]?) (scan (by omega))
    simp only [getElem?_readAt] at bytes
    rw [if_pos (by omega), if_pos (by omega)] at bytes
    rw [getElem?_writeAt_of_mem lower upper]
    calc packet.payload[i - packet.offset]?
        = packet.payload[overlapStart - packet.offset + (i - overlapStart)]? := by
          congr 1
          omega
      _ = file[overlapStart + (i - overlapStart)]? := bytes.symm
      _ = file[i]? := by
          congr 1
          omega
  · refine getElem?_writeAt_of_notMem ?_ present
    unfold FilePacket.Carries at carried
    omega

/-- A failed transaction leaves the epoch as it was. -/
theorem staged_written (staged : EpochStaged r key st accepted file)
    (admissible : DataAdmissible st packet)
    (scanned : ∀ range ∈ Intervals.touching packet.offset (packet.offset + packet.payload.length)
      (r.rangeIndex key), conflicts file packet range = false) :
    EpochStaged (r.written key file packet) key st accepted
      (writeAt file packet.offset packet.payload) := by
  refine staged.withFile rfl rfl (Function.update_self _ _ _) ?_
    fun i covered => getElem?_written staged scanned covered
  rw [length_writeAt]
  exact max_le staged.length_le admissible.2.2

/-- **A stored packet joins the accepted ones.** -/
theorem staged_stored (staged : EpochStaged r key st accepted file)
    (admissible : DataAdmissible st packet)
    (fresh : (r.packetIndex key).find? packet.sequenceIndex = none)
    {ranges : List (ℕ × ℕ)} (checked : r.newData key packet = .ok (file, ranges))
    {packets : Table ℕ PacketRow} (writer : Option (Table FileEpochKey ReassemblyState))
    (inserted : (r.packetIndex key).insert packet.sequenceIndex packet.row = some packets)
    {r' : FilePacketReassembler} (parts : r'.parts = (r.written key file packet).parts)
    (index : r'.packetIndex = (r.stored key packet ranges packets writer).packetIndex)
    (table : r'.rangeIndex = (r.stored key packet ranges packets writer).rangeIndex)
    {st' : ReassemblyState} (size : st'.expectedSize = st.expectedSize)
    (count : st'.bytesReceived = newCount st packet ranges) :
    EpochStaged r' key st' (accepted ++ [packet]) (writeAt file packet.offset packet.payload) := by
  obtain ⟨rfl, -, -, scanned⟩ := newData_eq_ok_iff.mp checked
  have after := staged_written staged admissible scanned
  obtain ⟨-, nonempty, inside⟩ := admissible
  have positive : packet.offset < packet.offset + packet.payload.length := by
    rw [← List.length_pos_iff] at nonempty
    omega
  have each {P : FilePacket → Prop} (old : ∀ p ∈ accepted, P p) (new : P packet) :
      ∀ p ∈ accepted ++ [packet], P p := by
    intro p mem
    rcases List.mem_append.mp mem with mem | mem
    · exact old p mem
    · exact List.mem_singleton.mp mem ▸ new
  have absorbed : r'.rangeIndex key =
      Intervals.absorb packet.offset (packet.offset + packet.payload.length) (r.rangeIndex key) := by
    rw [table]
    change Function.update _ _ _ _ = _
    rw [Function.update_self, Intervals.filter_notMem_touching]
    rfl
  have lookup (sequenceIndex : ℕ) : (r'.packetIndex key).find? sequenceIndex =
      if sequenceIndex = packet.sequenceIndex then some packet.row
      else (r.packetIndex key).find? sequenceIndex := by
    rw [index]
    change (Function.update r.packetIndex key packets key).find? sequenceIndex = _
    rw [Function.update_self, Table.find?_insert inserted]
  constructor
  · rw [parts]
    exact Function.update_self _ _ _
  · rw [size]
    exact after.length_le
  · rw [size]
    exact each staged.fits ⟨nonempty, inside⟩
  · refine each after.bytes (readAt_eq_iff.mpr fun i inside => ?_)
    rw [getElem?_writeAt_of_mem (Nat.le_add_right _ _) (by omega), Nat.add_sub_cancel_left]
  · refine each (fun p mem => ?_) ?_
    · rw [lookup, if_neg, staged.rows p mem]
      intro same
      have stored := staged.rows p mem
      rw [same, fresh] at stored
      cases stored
    · rw [lookup, if_pos rfl]
  · intro sequenceIndex row found
    rw [lookup] at found
    split at found
    · exact ⟨packet, by simp, (‹_› : sequenceIndex = _).symm⟩
    · obtain ⟨p, mem, same⟩ := staged.rowsFrom sequenceIndex row found
      exact ⟨p, List.mem_append_left _ mem, same⟩
  · rw [absorbed]
    exact Intervals.separated_absorb positive staged.proper staged.separated
  · rw [absorbed]
    exact Intervals.proper_absorb positive staged.proper
  · intro i
    rw [absorbed, Intervals.covers_absorb, staged.union]
    constructor
    · rintro (⟨p, mem, carries⟩ | carries)
      · exact ⟨p, List.mem_append_left _ mem, carries⟩
      · exact ⟨packet, by simp, carries⟩
    · rintro ⟨p, mem, carries⟩
      rcases List.mem_append.mp mem with mem | mem
      · exact .inl ⟨p, mem, carries⟩
      · exact .inr (List.mem_singleton.mp mem ▸ carries)
  · have balance := Intervals.total_absorb packet.offset (packet.offset + packet.payload.length)
      (r.rangeIndex key)
    have properTouched : Intervals.Proper (Intervals.touching packet.offset
        (packet.offset + packet.payload.length) (r.rangeIndex key)) :=
      fun range mem => staged.proper range (Intervals.mem_touching.mp mem).1
    have lower := Intervals.spanStart_le_self packet.offset (Intervals.touching packet.offset
      (packet.offset + packet.payload.length) (r.rangeIndex key))
    have upper := Intervals.self_le_spanEnd (packet.offset + packet.payload.length)
      (Intervals.touching packet.offset (packet.offset + packet.payload.length) (r.rangeIndex key))
    rw [count, absorbed, newCount, Intervals.total_cast properTouched, staged.counted]
    omega

end FilePacketReassembler

end CubeNano

import CubeNano.Lib.Machine
import CubeNano.Lib.Table
import CubeNano.Protocol.Exceptions
import Mathlib.Tactic.Ring

/-!
# Durable TM counters

The three counter tables of the onboard journal (`flight/journal.py`): the
master channel, one row per virtual channel and one row per APID.  A row keeps
the next count and its epoch; a count that reached the modulus is handed out as
zero of the next epoch.

The extended value of a handed-out counter is `epoch * modulus + count`.  Each
row hands out consecutive extended values (`CounterRow.consume_spec`), which is
what makes a received count readable as a residue of the flight side's true
counter.
-/

namespace CubeNano

/-- One row of a modular counter table.  The fields' bounds are its `CHECK`s. -/
structure CounterRow (modulus : ℕ) where
  nextCount : ℕ
  epoch : ℕ
  nextCount_le : nextCount ≤ modulus
  epoch_le : epoch ≤ 0xFFFFFFFF
  modulus_pos : 0 < modulus

namespace CounterRow

variable {modulus : ℕ}

/-- A fresh row. -/
def zero (modulus_pos : 0 < modulus) : CounterRow modulus :=
  ⟨0, 0, Nat.zero_le _, by decide, modulus_pos⟩

/-- The extended value the row hands out next. -/
def extended (row : CounterRow modulus) : ℕ := row.epoch * modulus + row.nextCount

/-- `_consume_modular_counter`: the count and epoch handed out, and the row left. -/
def consume (row : CounterRow modulus) (label : String) : Raises ((ℕ × ℕ) × CounterRow modulus) :=
  if row.nextCount = modulus then
    if exhausted : row.epoch ≥ 0xFFFFFFFF then
      runtimeError s!"{label} epoch exhausted; migrate spacecraft instance"
    else
      .ok ((0, row.epoch + 1),
        ⟨1, row.epoch + 1, row.modulus_pos, by omega, row.modulus_pos⟩)
  else if room : row.nextCount < modulus then
    .ok ((row.nextCount, row.epoch),
      ⟨row.nextCount + 1, row.epoch, room, row.epoch_le, row.modulus_pos⟩)
  else
    -- excluded by the row's `CHECK`; kept so that the function is total
    runtimeError s!"{label} counter row is invalid"

/-- **Everything `consume` can do.**  It hands out the row's extended value,
as a count below the modulus and an epoch, and moves the row by one. -/
theorem consume_spec {row next : CounterRow modulus} {label : String} {count epoch : ℕ}
    (h : row.consume label = .ok ((count, epoch), next)) :
    count < modulus ∧ epoch * modulus + count = row.extended ∧
      next.extended = row.extended + 1 := by
  unfold consume at h
  split at h
  · rename_i full
    split at h
    · cases h
    · cases h
      refine ⟨row.modulus_pos, ?_, ?_⟩
      · simp only [extended, full]
        ring
      · simp only [extended, full]
        ring
  · split at h
    · rename_i room
      cases h
      exact ⟨room, rfl, by simp only [extended]; omega⟩
    · cases h

end CounterRow

/-- `TmFrameCounters`: one durable allocation for a TM packet and its frame. -/
structure TmFrameCounters where
  apid : ℕ
  virtualChannelId : ℕ
  packetSequence : ℕ
  packetSequenceEpoch : ℕ
  masterChannelCount : ℕ
  masterChannelEpoch : ℕ
  virtualChannelCount : ℕ
  virtualChannelEpoch : ℕ
  deriving DecidableEq

namespace TmFrameCounters

/-- The true master-channel counter of an allocation. -/
def master (c : TmFrameCounters) : ℕ := c.masterChannelEpoch * 256 + c.masterChannelCount

/-- The true virtual-channel counter of an allocation. -/
def virtual (c : TmFrameCounters) : ℕ := c.virtualChannelEpoch * 256 + c.virtualChannelCount

/-- The true packet counter of an allocation. -/
def packet (c : TmFrameCounters) : ℕ := c.packetSequenceEpoch * 16384 + c.packetSequence

end TmFrameCounters

/-- The tables `tm_master_counter`, `tm_virtual_counters` and `tm_packet_counters`. -/
structure TmCounterTables where
  master : CounterRow 256
  virtual : Table ℕ (CounterRow 256)
  packet : Table ℕ (CounterRow 16384)

namespace TmCounterTables

/-- The tables of a new journal. -/
def initial : TmCounterTables := ⟨.zero (by decide), .empty, .empty⟩

/-- The virtual-channel row after `INSERT OR IGNORE`. -/
def virtualRow (t : TmCounterTables) (vcid : ℕ) : CounterRow 256 :=
  (t.virtual.find? vcid).getD (.zero (by decide))

/-- The packet row after `INSERT OR IGNORE`. -/
def packetRow (t : TmCounterTables) (apid : ℕ) : CounterRow 16384 :=
  (t.packet.find? apid).getD (.zero (by decide))

/-- `allocate_tm_frame_counters`.  The transaction commits all three rows or,
when one epoch is exhausted, none. -/
def allocateTmFrameCounters (t : TmCounterTables) (apid virtualChannelId : ℕ) :
    Raises (TmFrameCounters × TmCounterTables) :=
  if apid > 0x7FF then valueError "TM APID must be an integer in [0, 2047]"
  else if virtualChannelId > 7 then
    valueError "TM virtual_channel_id must be an integer in [0, 7]"
  else do
    let ((master, masterEpoch), masterNext) ← t.master.consume "TM master counter"
    let ((virtual, virtualEpoch), virtualNext) ←
      (t.virtualRow virtualChannelId).consume "TM virtual counter"
    let ((packet, packetEpoch), packetNext) ← (t.packetRow apid).consume "TM packet sequence"
    .ok (⟨apid, virtualChannelId, packet, packetEpoch, master, masterEpoch, virtual, virtualEpoch⟩,
      ⟨masterNext, t.virtual.set virtualChannelId virtualNext, t.packet.set apid packetNext⟩)

/-- `allocate_tm_packet_sequence`: a packet sequence without a frame. -/
def allocateTmPacketSequence (t : TmCounterTables) (apid : ℕ) :
    Raises ((ℕ × ℕ) × TmCounterTables) :=
  if apid > 0x7FF then valueError "TM APID must be an integer in [0, 2047]"
  else do
    let (value, next) ← (t.packetRow apid).consume "TM packet sequence"
    .ok (value, { t with packet := t.packet.set apid next })

/-- **Everything an allocation can do**: it hands out the extended values the
three rows held, as counts below their moduli, and moves each row by one. -/
theorem allocateTmFrameCounters_spec {t t' : TmCounterTables} {apid vcid : ℕ} {c : TmFrameCounters}
    (h : t.allocateTmFrameCounters apid vcid = .ok (c, t')) :
    (c.apid = apid ∧ c.virtualChannelId = vcid) ∧
    (c.masterChannelCount < 256 ∧ c.virtualChannelCount < 256 ∧ c.packetSequence < 16384) ∧
    (c.master = t.master.extended ∧ c.virtual = (t.virtualRow vcid).extended ∧
      c.packet = (t.packetRow apid).extended) ∧
    (t'.master.extended = t.master.extended + 1 ∧
      (t'.virtualRow vcid).extended = (t.virtualRow vcid).extended + 1 ∧
      (t'.packetRow apid).extended = (t.packetRow apid).extended + 1) := by
  unfold allocateTmFrameCounters at h
  split at h
  · cases h
  split at h
  · cases h
  obtain ⟨⟨⟨master, masterEpoch⟩, masterNext⟩, hmaster, h⟩ := bind_eq_ok_iff.mp h
  obtain ⟨⟨⟨virtual, virtualEpoch⟩, virtualNext⟩, hvirtual, h⟩ := bind_eq_ok_iff.mp h
  obtain ⟨⟨⟨packet, packetEpoch⟩, packetNext⟩, hpacket, h⟩ := bind_eq_ok_iff.mp h
  cases h
  obtain ⟨masterLt, masterEq, masterStep⟩ := CounterRow.consume_spec hmaster
  obtain ⟨virtualLt, virtualEq, virtualStep⟩ := CounterRow.consume_spec hvirtual
  obtain ⟨packetLt, packetEq, packetStep⟩ := CounterRow.consume_spec hpacket
  refine ⟨⟨rfl, rfl⟩, ⟨masterLt, virtualLt, packetLt⟩, ⟨masterEq, virtualEq, packetEq⟩,
    masterStep, ?_, ?_⟩
  · simpa [virtualRow] using virtualStep
  · simpa [packetRow] using packetStep

end TmCounterTables

/-- The journal's frame allocator as a machine over `(apid, virtual_channel_id)`
requests; a request that raises leaves the tables as they were. -/
def tmAllocator : Machine TmCounterTables (ℕ × ℕ) (Raises TmFrameCounters) where
  step t request :=
    match t.allocateTmFrameCounters request.1 request.2 with
    | .ok (counters, t') => (t', .ok counters)
    | .error failure => (t, .error failure)

/-- The frames numbered by a run of the allocator. -/
def allocated (t : TmCounterTables) (requests : List (ℕ × ℕ)) : List TmFrameCounters :=
  (tmAllocator.log t requests).filterMap fun entry => entry.2.toOption

/-- Every allocated count fits its field. -/
theorem counts_lt_of_mem_allocated {t : TmCounterTables} {requests : List (ℕ × ℕ)}
    {c : TmFrameCounters} (mem : c ∈ allocated t requests) :
    c.masterChannelCount < 256 ∧ c.virtualChannelCount < 256 ∧ c.packetSequence < 16384 := by
  induction requests generalizing t with
  | nil => simp [allocated] at mem
  | cons request rest ih =>
      cases step : t.allocateTmFrameCounters request.1 request.2 with
      | error failure =>
          refine ih (t := t) ?_
          simpa [allocated, tmAllocator, step, Except.toOption] using mem
      | ok result =>
          obtain ⟨counters, t'⟩ := result
          have split : c = counters ∨ c ∈ allocated t' rest := by
            simpa [allocated, tmAllocator, step, Except.toOption] using mem
          rcases split with rfl | later
          · exact (TmCounterTables.allocateTmFrameCounters_spec step).2.1
          · exact ih later

end CubeNano

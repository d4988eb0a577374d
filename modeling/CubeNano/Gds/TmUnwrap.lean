import CubeNano.Flight.TmCounters
import CubeNano.Gds.TmAcceptance
import Mathlib.Data.List.Chain

/-!
# Unwrapped counters

The ground ledger keeps an epoch beside each modular counter, meant to follow
the epoch of the flight side's durable counter.  The journal's epoch moves on
every wrap; the ledger's only when it sees the frame that carries count zero.

A run is fed to the ledger as `NumberedFrame`s: decoded packets together with
the allocation that numbered them.  `LedgerTracks` is the invariant of such a
run, one `Serial.Tracked` for each counter; the main result reads off it when
the unwrapped counters agree.

## Main definitions

* `NumberedFrame` — a received packet with the allocation that numbered it
* `acceptedCounters` — the allocations of the accepted frames of a run
* `FewMissing` — the gap bound between successively accepted frames
* `FollowsTrueCounter` — a stored epoch and count agree with the true counter
-/

namespace CubeNano

/-- A received packet together with the allocation that numbered its frame. -/
structure NumberedFrame where
  packet : DecodedTmPacket
  counters : TmFrameCounters

namespace NumberedFrame

/-- The packet travels on one packet channel and carries its allocation's counts,
APID and virtual channel. -/
structure CarriedOn (key : PacketKey) (f : NumberedFrame) : Prop where
  packetKey : f.packet.packetKey = key
  apid : f.packet.apid = f.counters.apid
  virtualChannel : f.packet.frame.virtualChannelId = f.counters.virtualChannelId
  master : f.packet.frame.masterChannelCount = f.counters.masterChannelCount
  virtual : f.packet.frame.virtualChannelCount = f.counters.virtualChannelCount
  packetSequence : f.packet.frame.packet.sequenceCount = f.counters.packetSequence

end NumberedFrame

/-- The ledger as a machine over numbered frames; the allocation is not read. -/
def numberedMachine : Machine TmCounterLedger NumberedFrame (Raises TmCounterObservation) where
  step l f := ledgerMachine.step l f.packet

/-- The allocations of the accepted entries of a log. -/
def acceptedIn (log : List (NumberedFrame × Raises TmCounterObservation)) :
    List TmFrameCounters :=
  (log.filter fun entry => isAccepted entry.2).map fun entry => entry.1.counters

/-- The allocations of the frames a run accepted, in order of acceptance. -/
def acceptedCounters (l : TmCounterLedger) (frames : List NumberedFrame) : List TmFrameCounters :=
  acceptedIn (numberedMachine.log l frames)

/-- The number of counter values strictly between two true values. -/
def missing (u v : ℕ) : ℕ := max u v - min u v - 1

/-- Fewer than 127 frames and fewer than 8191 packets are missing between two
successively accepted frames. -/
def FewMissing (c d : TmFrameCounters) : Prop :=
  missing c.master d.master < 127 ∧ missing c.virtual d.virtual < 127 ∧
    missing c.packet d.packet < 8191

/-- No counter passes its modulus between two successively accepted frames,
except by the single step onto zero. -/
def CrossesModuliByStep (c d : TmFrameCounters) : Prop :=
  Serial.CrossesByStep 256 c.master d.master ∧ Serial.CrossesByStep 256 c.virtual d.virtual ∧
    Serial.CrossesByStep 16384 c.packet d.packet

instance (c d : TmFrameCounters) : Decidable (FewMissing c d) :=
  inferInstanceAs (Decidable (_ ∧ _ ∧ _))

instance (c d : TmFrameCounters) : Decidable (CrossesModuliByStep c d) :=
  inferInstanceAs (Decidable (_ ∧ _ ∧ _))

/-- The stored unwrapped counter moved from its baseline as the true counter did,
and the stored epoch counts the wraps of the true counter. -/
def FollowsTrueCounter (modulus : ℕ) (stored : ℕ × ℕ) (first last : ℕ) : Prop :=
  ((stored.2 * modulus + stored.1 : ℕ) : ℤ) - (first % modulus : ℕ) = (last : ℤ) - first ∧
    stored.2 + first / modulus = last / modulus

instance (modulus : ℕ) (stored : ℕ × ℕ) (first last : ℕ) :
    Decidable (FollowsTrueCounter modulus stored first last) :=
  inferInstanceAs (Decidable (_ ∧ _))

/-- The three stored counters of a packet channel follow the true counters. -/
def LedgerFollows (l : TmCounterLedger) (key : PacketKey) (first last : TmFrameCounters) : Prop :=
  ∃ channel packet, l.channels.find? key.channel = some channel ∧
    l.packets.find? key = some packet ∧
    FollowsTrueCounter 256 channel.master first.master last.master ∧
    FollowsTrueCounter 256 channel.virtual first.virtual last.virtual ∧
    FollowsTrueCounter 16384 packet.packet first.packet last.packet

/-! ## One counter -/

/-- A move of fewer than half a modulus, in either direction, that a counter
accepts leads forward. -/
theorem forward_of_delta_lt_half {m u v : ℕ} (even : m / 2 + m / 2 = m)
    (few : missing u v < m / 2 - 1) (moved : 0 < Serial.delta m (u % m) (v % m))
    (near : Serial.delta m (u % m) (v % m) < m / 2) : u < v := by
  unfold missing at few
  by_contra backward
  have pos : 0 < m := by omega
  -- going back by `u - v` is going forward by `m - (u - v)`, more than half
  have there := Serial.delta_mod_eq_sub (m := m) (not_lt.mp backward) (by omega)
  by_cases same : u = v
  · subst same
    simp at moved
  have journey : Serial.travelled m (v % m) [u % m] = u - v := by
    simpa [Serial.travelled] using there
  have back : Serial.delta m (Serial.arrival (v % m) [u % m]) (v % m) =
      m - Serial.travelled m (v % m) [u % m] :=
    Serial.delta_return (by omega) (by omega)
  rw [journey] at back
  change Serial.delta m (u % m) (v % m) = _ at back
  omega

/-- One accepted count keeps the stored counter in step with the history of true
values. -/
theorem tracked_accept {m u v count epoch first : ℕ} {history : List ℕ} {stored : ℕ × ℕ}
    (even : m / 2 + m / 2 = m) (tracked : Serial.Tracked m history stored.1 stored.2 first u)
    (carried : count = v % m) (few : missing u v < m / 2 - 1)
    (accepted : CounterAccepted m (some stored) count epoch) :
    Serial.Tracked m (history ++ [v]) count epoch first v := by
  obtain ⟨previous, before⟩ := stored
  obtain rfl : previous = u % m := tracked.count_eq
  subst carried
  cases accepted with
  | forward moved near =>
      have forward := forward_of_delta_lt_half even few moved near
      have close : v - u < m := by
        unfold missing at few
        omega
      have pos : 0 < m := by omega
      have single : (u % m = m - 1 ∧ v % m = 0) ↔ (v = u + 1 ∧ v % m < u % m) := by
        have distance := Serial.delta_mod_eq_sub forward.le close
        have ru := Nat.mod_lt u pos
        have rv := Nat.mod_lt v pos
        have hu := Nat.div_add_mod u m
        have hv := Nat.div_add_mod v m
        have quotient := Serial.div_eq_of_near pos forward.le close
        constructor
        · rintro ⟨full, zero⟩
          have falls : v % m < u % m := by omega
          rw [if_pos falls] at quotient
          rw [quotient, Nat.mul_add, Nat.mul_one] at hv
          exact ⟨by omega, falls⟩
        · rintro ⟨next, falls⟩
          rw [if_pos falls] at quotient
          rw [quotient, Nat.mul_add, Nat.mul_one] at hv
          exact ⟨by omega, by omega⟩
      have stepped := tracked.step pos forward close
      rwa [if_congr single.symm rfl rfl] at stepped

/-! ## One observation -/

/-- The stored rows of a packet channel are in step with the accepted frames. -/
structure TracksFrom (key : PacketKey) (l : TmCounterLedger) (accepted : List TmFrameCounters)
    (first last : TmFrameCounters) : Prop where
  head : accepted.head? = some first
  getLast : accepted.getLast? = some last
  channel : ∃ row, l.channels.find? key.channel = some row ∧
    Serial.Tracked 256 (accepted.map TmFrameCounters.master) row.master.1 row.master.2
      first.master last.master ∧
    Serial.Tracked 256 (accepted.map TmFrameCounters.virtual) row.virtual.1 row.virtual.2
      first.virtual last.virtual
  packet : ∃ row, l.packets.find? key = some row ∧
    Serial.Tracked 16384 (accepted.map TmFrameCounters.packet) row.packet.1 row.packet.2
      first.packet last.packet

/-- **The invariant of a run on one packet channel**: no rows before the first
accepted frame, rows in step with the accepted frames from then on. -/
def LedgerTracks (key : PacketKey) (l : TmCounterLedger) (accepted : List TmFrameCounters) :
    Prop :=
  (accepted = [] ∧ l.channels.find? key.channel = none ∧ l.packets.find? key = none) ∨
    ∃ first last, TracksFrom key l accepted first last

/-- The counts of an allocation are the residues of its true counters. -/
structure TmFrameCounters.Modular (c : TmFrameCounters) : Prop where
  master : c.masterChannelCount = c.master % 256
  virtual : c.virtualChannelCount = c.virtual % 256
  packet : c.packetSequence = c.packet % 16384

theorem modular_of_mem_allocated {t : TmCounterTables} {requests : List (ℕ × ℕ)}
    {c : TmFrameCounters} (mem : c ∈ allocated t requests) : c.Modular := by
  obtain ⟨masterLt, virtualLt, packetLt⟩ := counts_lt_of_mem_allocated mem
  refine ⟨?_, ?_, ?_⟩
  · rw [TmFrameCounters.master, Nat.mul_comm, Nat.mul_add_mod, Nat.mod_eq_of_lt masterLt]
  · rw [TmFrameCounters.virtual, Nat.mul_comm, Nat.mul_add_mod, Nat.mod_eq_of_lt virtualLt]
  · rw [TmFrameCounters.packet, Nat.mul_comm, Nat.mul_add_mod, Nat.mod_eq_of_lt packetLt]

theorem LedgerTracks.accept {key : PacketKey} {l l' : TmCounterLedger} {f : NumberedFrame}
    {accepted : List TmFrameCounters} (tracks : LedgerTracks key l accepted)
    (carried : f.CarriedOn key) (modular : f.counters.Modular)
    (few : ∀ last ∈ accepted.getLast?, FewMissing last f.counters)
    (acceptance : TmCounterLedger.Acceptance l f.packet l') :
    LedgerTracks key l' (accepted ++ [f.counters]) := by
  obtain ⟨masterEpoch, virtualEpoch, packetEpoch, hmaster, hvirtual, hpacket, channels, packets⟩ :=
    acceptance.counters
  have channelKey : f.packet.channelKey = key.channel := by rw [← carried.packetKey]; rfl
  have masterCount := carried.master.trans modular.master
  have virtualCount := carried.virtual.trans modular.virtual
  have packetCount := carried.packetSequence.trans modular.packet
  rw [channelKey] at hmaster hvirtual channels
  rw [carried.packetKey] at hpacket packets
  refine .inr ?_
  rcases tracks with ⟨rfl, noChannel, noPacket⟩ | ⟨first, last, tracks⟩
  · rw [noChannel] at hmaster hvirtual
    rw [noPacket] at hpacket
    cases hmaster
    cases hvirtual
    cases hpacket
    refine ⟨f.counters, f.counters, rfl, rfl, ⟨_, channels ▸ Table.find?_set_self _ _ _, ?_, ?_⟩,
      ⟨_, packets ▸ Table.find?_set_self _ _ _, ?_⟩⟩
    · simpa [ChannelCounterState.master, masterCount] using
        Serial.tracked_start 256 f.counters.master
    · simpa [ChannelCounterState.virtual, virtualCount] using
        Serial.tracked_start 256 f.counters.virtual
    · simpa [PacketCounterState.packet, packetCount] using
        Serial.tracked_start 16384 f.counters.packet
  · obtain ⟨channelRow, channelStored, masterTracked, virtualTracked⟩ := tracks.channel
    obtain ⟨packetRow, packetStored, packetTracked⟩ := tracks.packet
    obtain ⟨fewMaster, fewVirtual, fewPacket⟩ := few last tracks.getLast
    rw [channelStored] at hmaster hvirtual
    rw [packetStored] at hpacket
    refine ⟨first, f.counters, ?_, by simp,
      ⟨_, channels ▸ Table.find?_set_self _ _ _, ?_, ?_⟩,
      ⟨_, packets ▸ Table.find?_set_self _ _ _, ?_⟩⟩
    · rw [List.head?_append, tracks.head, Option.some_or]
    · rw [List.map_append]
      exact tracked_accept (by decide) masterTracked masterCount fewMaster hmaster
    · rw [List.map_append]
      exact tracked_accept (by decide) virtualTracked virtualCount fewVirtual hvirtual
    · rw [List.map_append]
      exact tracked_accept (by decide) packetTracked packetCount fewPacket hpacket

theorem LedgerTracks.congr {key : PacketKey} {l l' : TmCounterLedger}
    {accepted : List TmFrameCounters} (tracks : LedgerTracks key l accepted)
    (channels : l'.channels = l.channels) (packets : l'.packets = l.packets) :
    LedgerTracks key l' accepted := by
  rcases tracks with ⟨rfl, noChannel, noPacket⟩ | ⟨first, last, tracks⟩
  · exact .inl ⟨rfl, channels ▸ noChannel, packets ▸ noPacket⟩
  · exact .inr ⟨first, last, tracks.head, tracks.getLast, channels ▸ tracks.channel,
      packets ▸ tracks.packet⟩

/-! ## Runs -/

theorem acceptedIn_concat (log : List (NumberedFrame × Raises TmCounterObservation))
    (entry : NumberedFrame × Raises TmCounterObservation) :
    acceptedIn (log ++ [entry]) =
      acceptedIn log ++ if isAccepted entry.2 then [entry.1.counters] else [] := by
  unfold acceptedIn
  rw [List.filter_append, List.map_append]
  cases h : isAccepted entry.2 <;> simp [h]

/-- **The run lemma.**  After every run on one packet channel whose accepted
frames miss few numbers, the stored rows are in step with the accepted frames. -/
theorem ledgerTracks_exec {l : TmCounterLedger} {key : PacketKey} {frames : List NumberedFrame}
    (freshChannel : l.channels.find? key.channel = none)
    (freshPacket : l.packets.find? key = none)
    (carried : ∀ f ∈ frames, f.CarriedOn key) (modular : ∀ f ∈ frames, f.counters.Modular)
    (few : (acceptedCounters l frames).IsChain FewMissing) :
    LedgerTracks key (numberedMachine.exec l frames) (acceptedCounters l frames) := by
  have invariant := numberedMachine.run_invariant (s := l)
    (fun state past => (∀ f ∈ past.map Prod.fst, f.CarriedOn key ∧ f.counters.Modular) →
      (acceptedIn past).IsChain FewMissing → LedgerTracks key state (acceptedIn past))
    (fun _ _ => .inl ⟨rfl, freshChannel, freshPacket⟩) ?_ frames
  · refine invariant (fun f mem => ?_) few
    rw [Machine.log_map_fst] at mem
    exact ⟨carried f mem, modular f mem⟩
  intro state past f ih allowed chain
  rw [acceptedIn_concat] at chain ⊢
  have before := ih (fun g mem => allowed g (by simp [List.mem_append, mem]))
    (List.isChain_append.mp chain).1
  have this := allowed f (by simp)
  change LedgerTracks key (ledgerMachine.step state f.packet).1 _
  cases observed : state.observe f.packet with
  | error failure =>
      have step : ledgerMachine.step state f.packet = (state, .error failure) := by
        simp [ledgerMachine, observed]
      simpa [numberedMachine, step, isAccepted] using before
  | ok result =>
      obtain ⟨observation, state'⟩ := result
      have step : ledgerMachine.step state f.packet = (state', .ok observation) := by
        simp [ledgerMachine, observed]
      rw [show numberedMachine.step state f = _ from step] at chain ⊢
      rw [step]
      rcases TmCounterLedger.observe_cases observed with ⟨accepted, acceptance⟩ | ⟨refused, refusal⟩
      · simp only [isAccepted, accepted, if_true] at chain ⊢
        refine before.accept this.1 this.2 (fun last mem => ?_) acceptance
        exact (List.isChain_append.mp chain).2.2 last mem f.counters (by simp)
      · simp only [isAccepted, refused, Bool.false_eq_true, if_false, List.append_nil]
        exact before.congr refusal.channels refusal.packets

/-! ## The unwrapped counters -/

theorem followsTrueCounter_iff {m first last : ℕ} {stored : ℕ × ℕ} {history : List ℕ}
    (pos : 0 < m) (tracked : Serial.Tracked m history stored.1 stored.2 first last) :
    FollowsTrueCounter m stored first last ↔ history.IsChain (Serial.CrossesByStep m) := by
  unfold FollowsTrueCounter
  rw [tracked.unwrapped_eq_iff pos, tracked.epoch_eq_iff, and_self]

/-- A chain of conjunctions is a conjunction of chains. -/
theorem isChain_crossesModuliByStep (accepted : List TmFrameCounters) :
    accepted.IsChain CrossesModuliByStep ↔
      (accepted.map TmFrameCounters.master).IsChain (Serial.CrossesByStep 256) ∧
      (accepted.map TmFrameCounters.virtual).IsChain (Serial.CrossesByStep 256) ∧
      (accepted.map TmFrameCounters.packet).IsChain (Serial.CrossesByStep 16384) := by
  induction accepted with
  | nil => simp
  | cons c rest ih =>
      cases rest with
      | nil => simp
      | cons d rest =>
          simp only [List.map_cons, List.isChain_cons_cons] at ih ⊢
          rw [ih, CrossesModuliByStep]
          exact ⟨fun ⟨⟨a, b, c⟩, x, y, z⟩ => ⟨⟨a, x⟩, ⟨b, y⟩, c, z⟩,
            fun ⟨⟨a, x⟩, ⟨b, y⟩, c, z⟩ => ⟨⟨a, b, c⟩, x, y, z⟩⟩

/-- **When the ledger's unwrapped counters are the true ones.**  Feed a ledger
without rows for a packet channel any sequence of that channel's frames, numbered
by the flight journal, of which few are missing between successively accepted
ones.  The stored unwrapped counters, and the stored epochs, follow the true
counters from their baseline exactly when no counter passed its modulus between
two accepted frames other than by the single step onto zero. -/
theorem ledgerFollows_iff {l : TmCounterLedger} {key : PacketKey} {journal : TmCounterTables}
    {requests : List (ℕ × ℕ)} {frames : List NumberedFrame} {first last : TmFrameCounters}
    (freshChannel : l.channels.find? key.channel = none)
    (freshPacket : l.packets.find? key = none)
    (numbered : ∀ f ∈ frames, f.counters ∈ allocated journal requests ∧ f.CarriedOn key)
    (few : (acceptedCounters l frames).IsChain FewMissing)
    (head : (acceptedCounters l frames).head? = some first)
    (getLast : (acceptedCounters l frames).getLast? = some last) :
    LedgerFollows (numberedMachine.exec l frames) key first last ↔
      (acceptedCounters l frames).IsChain CrossesModuliByStep := by
  have tracks := ledgerTracks_exec freshChannel freshPacket (fun f mem => (numbered f mem).2)
    (fun f mem => modular_of_mem_allocated (numbered f mem).1) few
  rcases tracks with ⟨none, -, -⟩ | ⟨first', last', tracks⟩
  · rw [none] at head
    cases head
  obtain rfl : first' = first := Option.some.inj (tracks.head.symm.trans head)
  obtain rfl : last' = last := Option.some.inj (tracks.getLast.symm.trans getLast)
  obtain ⟨channel, channelStored, masterTracked, virtualTracked⟩ := tracks.channel
  obtain ⟨packet, packetStored, packetTracked⟩ := tracks.packet
  rw [isChain_crossesModuliByStep, ← followsTrueCounter_iff (by decide) masterTracked,
    ← followsTrueCounter_iff (by decide) virtualTracked,
    ← followsTrueCounter_iff (by decide) packetTracked]
  constructor
  · rintro ⟨channel', packet', channelStored', packetStored', follows⟩
    obtain rfl : channel' = channel := Option.some.inj (channelStored'.symm.trans channelStored)
    obtain rfl : packet' = packet := Option.some.inj (packetStored'.symm.trans packetStored)
    exact follows
  · exact fun follows => ⟨channel, packet, channelStored, packetStored, follows⟩

/-! ## A wrap inside a gap -/

/-- A one-byte telemetry packet with given counts. -/
def beacon (linkFrame : U64) (master virtual : Fin 256) (sequence : Fin 16384) :
    DecodedTmPacket where
  envelope := ⟨7, 1, 1, 1, 1, linkFrame, linkFrame, 0, 0, 0, .downlink, [0x01], by decide⟩
  frame := ⟨7, 0, master, virtual,
    ⟨1, sequence, [0x01], 0, false, 3, by decide, Nat.le_of_lt_succ sequence.isLt, by decide,
      by decide, by decide, by decide⟩,
    3, by decide, by decide, Nat.le_of_lt_succ master.isLt, Nat.le_of_lt_succ virtual.isLt,
    by decide⟩
  apid := 1
  descriptor := 1
  kind := .telemetry
  applicationPayload := []
  message := none
  filePacket := none

/-- The packet channel of every `beacon`. -/
def beaconChannel : PacketKey := ⟨⟨7, 1, 1, 1, 0⟩, 1⟩

/-- The allocation with a given true packet counter of a journal that serves one
APID on one virtual channel. -/
def allocation (n : ℕ) : TmFrameCounters :=
  ⟨1, 0, n % 16384, n / 16384, n % 256, n / 256, n % 256, n / 256⟩

/-- Frames 255 and 257 arrive; 256, which carries count zero, was lost. -/
def wrapInsideGap : List NumberedFrame :=
  [⟨beacon 1 255 255 255, allocation 255⟩, ⟨beacon 2 1 1 257, allocation 257⟩]

/-- Frames 255 and 256 arrive. -/
def wrapByStep : List NumberedFrame :=
  [⟨beacon 1 255 255 255, allocation 255⟩, ⟨beacon 2 0 0 256, allocation 256⟩]

/-- **A wrap inside a gap leaves the epoch behind.**  Both frames are accepted
and a single one is missing, yet the stored master counter moved from 255 to 1. -/
theorem not_ledgerFollows_of_wrapInsideGap :
    (∀ f ∈ wrapInsideGap, f.counters ∈ allocated .initial (List.replicate 258 (1, 0)) ∧
      f.CarriedOn beaconChannel) ∧
    acceptedCounters .empty wrapInsideGap = [allocation 255, allocation 257] ∧
    FewMissing (allocation 255) (allocation 257) ∧
    ¬ LedgerFollows (numberedMachine.exec .empty wrapInsideGap) beaconChannel (allocation 255)
      (allocation 257) := by
  refine ⟨?_, by decide +kernel, by decide, ?_⟩
  · intro f mem
    rcases List.mem_pair.mp mem with rfl | rfl
    · exact ⟨by decide +kernel, rfl, rfl, rfl, rfl, rfl, rfl⟩
    · exact ⟨by decide +kernel, rfl, rfl, rfl, rfl, rfl, rfl⟩
  · rintro ⟨channel, -, stored, -, follows, -⟩
    have row : (numberedMachine.exec .empty wrapInsideGap).channels.find? beaconChannel.channel =
        some ⟨1, 1, 0, 0, 2, 0⟩ := by decide +kernel
    obtain rfl : channel = ⟨1, 1, 0, 0, 2, 0⟩ := Option.some.inj (stored.symm.trans row)
    exact absurd follows (by decide)

/-- With the frame that carries count zero among the accepted ones, the epoch
follows. -/
theorem ledgerFollows_wrapByStep :
    LedgerFollows (numberedMachine.exec .empty wrapByStep) beaconChannel (allocation 255)
      (allocation 256) := by
  have accepted : acceptedCounters .empty wrapByStep = [allocation 255, allocation 256] := by
    decide +kernel
  have numbered : ∀ f ∈ wrapByStep,
      f.counters ∈ allocated .initial (List.replicate 258 (1, 0)) ∧ f.CarriedOn beaconChannel := by
    intro f mem
    rcases List.mem_pair.mp mem with rfl | rfl
    · exact ⟨by decide +kernel, rfl, rfl, rfl, rfl, rfl, rfl⟩
    · exact ⟨by decide +kernel, rfl, rfl, rfl, rfl, rfl, rfl⟩
  refine (ledgerFollows_iff rfl rfl numbered ?_ (by rw [accepted]; rfl)
    (by rw [accepted]; rfl)).mpr ?_
  · rw [accepted]
    decide
  · rw [accepted]
    decide

end CubeNano

import CubeNano.Gds.Tm

/-!
# What one observation can do

The inversion lemmas of `TmCounterLedger.observe`.  Every run-level result about
the ledger is derived from the two structures below and none of them opens
`observe` again.

## Main definitions

* `CounterAccepted` — what accepting a count does to one counter
* `TmCounterLedger.Acceptance` — everything an accepting observation did
* `TmCounterLedger.Refusal` — everything a refusing observation did
-/

namespace CubeNano

/-- **What accepting a count does to one counter.**  The first count is the
baseline of epoch zero.  A later one lies less than half a modulus ahead of the
last, and only the single step onto zero moves the epoch. -/
inductive CounterAccepted (modulus : ℕ) : Option (ℕ × ℕ) → ℕ → ℕ → Prop
  | baseline (count : ℕ) : CounterAccepted modulus none count 0
  | forward {previous epoch count : ℕ} (moved : 0 < Serial.delta modulus previous count)
      (near : Serial.delta modulus previous count < modulus / 2) :
      CounterAccepted modulus (some (previous, epoch)) count
        (epoch + if previous = modulus - 1 ∧ count = 0 then 1 else 0)

/-- A relation that `classify` accepts. -/
def CounterRelation.fresh (relation : CounterRelation) : Prop :=
  relation ≠ .duplicate ∧ relation ≠ .stale

/-- A fresh relation of `advance` means a move below half a modulus, and
`ROLLOVER` is the move from the last count onto zero. -/
theorem advance_of_fresh {previous current modulus : ℕ} (wide : 4 ≤ modulus)
    (fresh : (advance previous current modulus).1.fresh) :
    0 < Serial.delta modulus previous current ∧
    Serial.delta modulus previous current < modulus / 2 ∧
    ((advance previous current modulus).1 = .rollover ↔ previous = modulus - 1 ∧ current = 0) := by
  have half : 2 ≤ modulus / 2 := by omega
  by_cases same : current = previous
  · have duplicate : advance previous current modulus = (.duplicate, 0) := if_pos same
    exact absurd (congrArg Prod.fst duplicate) fresh.1
  have differ : advance previous current modulus = _ := if_neg same
  rw [differ] at fresh ⊢
  by_cases one : Serial.delta modulus previous current = 1
  · refine ⟨by omega, by omega, ?_⟩
    rw [if_pos one]
    by_cases wraps : previous = modulus - 1 ∧ current = 0
    · simp only [wraps, and_self, if_true]
    · simp only [if_neg wraps, reduceCtorEq, false_iff]
      exact wraps
  · rw [if_neg one] at fresh ⊢
    by_cases gap : 1 < Serial.delta modulus previous current ∧
        Serial.delta modulus previous current < modulus / 2
    · refine ⟨by omega, gap.2, ?_⟩
      have notWrap : ¬(previous = modulus - 1 ∧ current = 0) := by
        rintro ⟨rfl, rfl⟩
        apply one
        have shift : ((0 : ℕ) : ℤ) - ((modulus - 1 : ℕ) : ℤ) = 1 + modulus * (-1) := by omega
        rw [Serial.delta, shift, Int.add_mul_emod_self_left,
          Int.emod_eq_of_lt (by omega) (by omega)]
        rfl
      simp only [if_pos gap, reduceCtorEq, false_iff]
      exact notWrap
    · rw [if_neg gap] at fresh
      exact absurd rfl fresh.2

/-- The epoch that follows an accepted relation. -/
theorem counterAccepted_of_advance {previous current modulus gap epoch epoch' : ℕ}
    {relation : CounterRelation} {label : String} (wide : 4 ≤ modulus)
    (related : advance previous current modulus = (relation, gap)) (fresh : relation.fresh)
    (moved : TmCounterLedger.nextEpoch relation epoch label = .ok epoch') :
    CounterAccepted modulus (some (previous, epoch)) current epoch' := by
  have relation_eq : (advance previous current modulus).1 = relation := congrArg Prod.fst related
  obtain ⟨pos, near, wraps⟩ := advance_of_fresh wide (relation_eq ▸ fresh)
  rw [relation_eq] at wraps
  have epoch_eq : epoch' = epoch + if previous = modulus - 1 ∧ current = 0 then 1 else 0 := by
    unfold TmCounterLedger.nextEpoch at moved
    split at moved
    · rename_i rollover
      unfold TmCounterLedger.incrementEpoch at moved
      split at moved
      · cases moved
      · cases moved
        rw [if_pos (wraps.mp rollover)]
    · rename_i still
      cases moved
      rw [if_neg (fun wrap => still (wraps.mpr wrap)), Nat.add_zero]
  rw [epoch_eq]
  exact .forward pos near

/-- The master counter of a stored row with its epoch. -/
def ChannelCounterState.master (state : ChannelCounterState) : ℕ × ℕ :=
  (state.lastMasterChannelCount, state.masterEpoch)

/-- The virtual counter of a stored row with its epoch. -/
def ChannelCounterState.virtual (state : ChannelCounterState) : ℕ × ℕ :=
  (state.lastVirtualChannelCount, state.virtualEpoch)

/-- The packet counter of a stored row with its epoch. -/
def PacketCounterState.packet (state : PacketCounterState) : ℕ × ℕ :=
  (state.lastPacketSequence, state.packetEpoch)

namespace TmCounterLedger

/-- The source's generation row admits the packet and names its session. -/
def Established (l : TmCounterLedger) (d : DecodedTmPacket) : Prop :=
  ∃ row, l.generations.find? d.envelope.sourceSpacecraftInstanceId = some row ∧
    row.activeLinkGeneration = d.envelope.linkGeneration ∧
    row.activeLinkSession = d.envelope.linkSessionId

/-- The packet's generation is older than the active one of its source. -/
def Outdated (l : TmCounterLedger) (d : DecodedTmPacket) : Prop :=
  ∃ row, l.generations.find? d.envelope.sourceSpacecraftInstanceId = some row ∧
    d.envelope.linkGeneration < row.activeLinkGeneration

/-- The packet's session is not the active session of its generation. -/
def ForeignSession (l : TmCounterLedger) (d : DecodedTmPacket) : Prop :=
  ∃ row, l.generations.find? d.envelope.sourceSpacecraftInstanceId = some row ∧
    d.envelope.linkGeneration = row.activeLinkGeneration ∧
    d.envelope.linkSessionId ≠ row.activeLinkSession

/-- The generation rows of `l'` are those of `l`, but for the packet's source,
whose row has moved to the packet's generation. -/
structure GenerationsMoved (l l' : TmCounterLedger) (d : DecodedTmPacket) : Prop where
  established : Established l' d
  elsewhere : ∀ source, source ≠ d.envelope.sourceSpacecraftInstanceId →
    l'.generations.find? source = l.generations.find? source
  notOutdated : ¬ Outdated l d
  notForeign : ¬ ForeignSession l d

/-- **Everything an accepting observation did.** -/
structure Acceptance (l : TmCounterLedger) (d : DecodedTmPacket) (l' : TmCounterLedger) : Prop where
  downlink : d.envelope.direction = .downlink
  unseen : l.observations.find? d.observationKey = none
  generations : GenerationsMoved l l' d
  counters : ∃ masterEpoch virtualEpoch packetEpoch,
    CounterAccepted 256 ((l.channels.find? d.channelKey).map ChannelCounterState.master)
      d.frame.masterChannelCount masterEpoch ∧
    CounterAccepted 256 ((l.channels.find? d.channelKey).map ChannelCounterState.virtual)
      d.frame.virtualChannelCount virtualEpoch ∧
    CounterAccepted 16384 ((l.packets.find? d.packetKey).map PacketCounterState.packet)
      d.frame.packet.sequenceCount packetEpoch ∧
    l'.channels = l.channels.set d.channelKey
      ⟨d.frame.masterChannelCount, d.frame.virtualChannelCount, masterEpoch, virtualEpoch,
        d.envelope.linkFrameId, d.envelope.receivedAtUs⟩ ∧
    l'.packets = l.packets.set d.packetKey
      ⟨d.frame.packet.sequenceCount, packetEpoch, d.envelope.linkFrameId,
        d.envelope.receivedAtUs⟩

/-- **Everything a refusing observation did**: no counter moved, and the source's
generation moved only for a packet that got past the fence. -/
structure Refusal (l : TmCounterLedger) (d : DecodedTmPacket) (status : TmCounterStatus)
    (l' : TmCounterLedger) : Prop where
  channels : l'.channels = l.channels
  packets : l'.packets = l.packets
  files : l'.files = l.files
  generations : (l'.generations = l.generations ∧
      (l.observations.find? d.observationKey ≠ none ∨ Outdated l d ∨
        status = .staleSession ∧ ForeignSession l d)) ∨
    GenerationsMoved l l' d

/-! ## The fence -/

/-- A packet the fence refuses is outdated or of a foreign session. -/
theorem fence_inl {l : TmCounterLedger} {d : DecodedTmPacket} {refusal : TmCounterStatus}
    (h : l.fence d = .inl refusal) :
    refusal.accepted = false ∧ (Outdated l d ∨ refusal = .staleSession ∧ ForeignSession l d) := by
  unfold fence at h
  cases active : l.generations.find? d.envelope.sourceSpacecraftInstanceId with
  | none => simp [active] at h
  | some row =>
      simp only [active] at h
      split at h
      · rename_i old
        cases h
        exact ⟨rfl, .inl ⟨row, active, old⟩⟩
      split at h
      · rename_i foreign
        cases h
        exact ⟨rfl, .inr ⟨rfl, row, active, foreign⟩⟩
      split at h <;> cases h

/-- A packet that gets past the fence moves the generation row of its source to
its own generation and session, and touches nothing else. -/
theorem fence_inr {l l' : TmCounterLedger} {d : DecodedTmPacket} (h : l.fence d = .inr l') :
    GenerationsMoved l l' d ∧ l'.channels = l.channels ∧ l'.packets = l.packets ∧
      l'.files = l.files ∧ l'.observations = l.observations := by
  unfold fence at h
  cases active : l.generations.find? d.envelope.sourceSpacecraftInstanceId with
  | none =>
      simp only [active] at h
      cases h
      refine ⟨⟨⟨_, Table.find?_set_self _ _ _, rfl, rfl⟩,
        fun source other => Table.find?_set_of_ne _ _ other, ?_, ?_⟩, rfl, rfl, rfl, rfl⟩
      · rintro ⟨row, stored, -⟩
        rw [active] at stored
        cases stored
      · rintro ⟨row, stored, -⟩
        rw [active] at stored
        cases stored
  | some row =>
      simp only [active] at h
      split at h
      · cases h
      rename_i notOld
      split at h
      · cases h
      rename_i notForeign
      have current : ¬ Outdated l d := by
        rintro ⟨row', stored, old⟩
        rw [active] at stored
        cases stored
        exact notOld old
      have own : ¬ ForeignSession l d := by
        rintro ⟨row', stored, foreign⟩
        rw [active] at stored
        cases stored
        exact notForeign foreign
      split at h
      · cases h
        exact ⟨⟨⟨_, Table.find?_set_self _ _ _, rfl, rfl⟩,
          fun source other => Table.find?_set_of_ne _ _ other, current, own⟩, rfl, rfl, rfl, rfl⟩
      · rename_i notNew
        cases h
        have same : d.envelope.linkGeneration = row.activeLinkGeneration :=
          Fin.le_antisymm (Fin.not_lt.mp notNew) (Fin.not_lt.mp notOld)
        refine ⟨⟨⟨row, active, same.symm, ?_⟩, fun _ _ => rfl, current, own⟩, rfl, rfl, rfl, rfl⟩
        by_contra differs
        exact notForeign ⟨same, fun h => differs h.symm⟩

/-! ## The counters -/

/-- What `classify` did when it accepted. -/
theorem classify_accepted {l l' : TmCounterLedger} {d : DecodedTmPacket}
    {o : TmCounterObservation} (h : l.classify d = .ok (o, l'))
    (accepted : o.status.accepted = true) :
    l'.generations = l.generations ∧
    ∃ masterEpoch virtualEpoch packetEpoch,
      CounterAccepted 256 ((l.channels.find? d.channelKey).map ChannelCounterState.master)
        d.frame.masterChannelCount masterEpoch ∧
      CounterAccepted 256 ((l.channels.find? d.channelKey).map ChannelCounterState.virtual)
        d.frame.virtualChannelCount virtualEpoch ∧
      CounterAccepted 16384 ((l.packets.find? d.packetKey).map PacketCounterState.packet)
        d.frame.packet.sequenceCount packetEpoch ∧
      l'.channels = l.channels.set d.channelKey
        ⟨d.frame.masterChannelCount, d.frame.virtualChannelCount, masterEpoch, virtualEpoch,
          d.envelope.linkFrameId, d.envelope.receivedAtUs⟩ ∧
      l'.packets = l.packets.set d.packetKey
        ⟨d.frame.packet.sequenceCount, packetEpoch, d.envelope.linkFrameId,
          d.envelope.receivedAtUs⟩ := by
  unfold classify at h
  cases hc : l.channelRelations d with
  | mk master virtual =>
  obtain ⟨⟨masterRelation, masterGap⟩, masterEpoch⟩ := master
  obtain ⟨⟨virtualRelation, virtualGap⟩, virtualEpoch⟩ := virtual
  cases hp : l.packetRelation d with
  | mk packet packetEpoch =>
  obtain ⟨packetRelation, packetGap⟩ := packet
  simp only [hc, hp] at h
  split at h
  · cases h
    cases accepted
  split at h
  · cases h
    cases accepted
  rename_i refused
  obtain ⟨masterEpoch', hmaster, h⟩ := bind_eq_ok_iff.mp h
  obtain ⟨virtualEpoch', hvirtual, h⟩ := bind_eq_ok_iff.mp h
  obtain ⟨packetEpoch', hpacket, h⟩ := bind_eq_ok_iff.mp h
  cases h
  simp only [List.mem_cons, List.not_mem_nil, or_false, not_or] at refused
  obtain ⟨⟨masterStale, virtualStale, packetStale⟩, masterDup, virtualDup, packetDup⟩ := refused
  refine ⟨rfl, masterEpoch', virtualEpoch', packetEpoch', ?_, ?_, ?_, rfl, rfl⟩
  · cases stored : l.channels.find? d.channelKey with
    | none =>
        simp only [channelRelations, stored, Prod.mk.injEq] at hc
        obtain ⟨⟨⟨rfl, -⟩, rfl⟩, -⟩ := hc
        cases hmaster
        exact .baseline _
    | some state =>
        simp only [channelRelations, stored, Prod.mk.injEq] at hc
        obtain ⟨⟨relation, rfl⟩, -⟩ := hc
        exact counterAccepted_of_advance (by decide) relation
          ⟨Ne.symm masterDup, Ne.symm masterStale⟩ hmaster
  · cases stored : l.channels.find? d.channelKey with
    | none =>
        simp only [channelRelations, stored, Prod.mk.injEq] at hc
        obtain ⟨-, ⟨rfl, -⟩, rfl⟩ := hc
        cases hvirtual
        exact .baseline _
    | some state =>
        simp only [channelRelations, stored, Prod.mk.injEq] at hc
        obtain ⟨-, relation, rfl⟩ := hc
        exact counterAccepted_of_advance (by decide) relation
          ⟨Ne.symm virtualDup, Ne.symm virtualStale⟩ hvirtual
  · cases stored : l.packets.find? d.packetKey with
    | none =>
        simp only [TmCounterLedger.packetRelation, stored, Prod.mk.injEq] at hp
        obtain ⟨⟨rfl, -⟩, rfl⟩ := hp
        cases hpacket
        exact .baseline _
    | some state =>
        simp only [TmCounterLedger.packetRelation, stored, Prod.mk.injEq] at hp
        obtain ⟨relation, rfl⟩ := hp
        exact counterAccepted_of_advance (by decide) relation
          ⟨Ne.symm packetDup, Ne.symm packetStale⟩ hpacket

/-- The status of a list of relations without a refused one is an accepted one. -/
theorem acceptedStatus_accepted (relations : List CounterRelation) :
    (acceptedStatus relations).accepted = true := by
  unfold acceptedStatus
  split
  · rfl
  split
  · rfl
  split <;> rfl

/-- What `classify` did when it refused. -/
theorem classify_refused {l l' : TmCounterLedger} {d : DecodedTmPacket}
    {o : TmCounterObservation} (h : l.classify d = .ok (o, l'))
    (refused : o.status.accepted = false) :
    l'.generations = l.generations ∧ l'.channels = l.channels ∧ l'.packets = l.packets ∧
      l'.files = l.files := by
  unfold classify at h
  cases hc : l.channelRelations d with
  | mk master virtual =>
  obtain ⟨⟨masterRelation, masterGap⟩, masterEpoch⟩ := master
  obtain ⟨⟨virtualRelation, virtualGap⟩, virtualEpoch⟩ := virtual
  cases hp : l.packetRelation d with
  | mk packet packetEpoch =>
  obtain ⟨packetRelation, packetGap⟩ := packet
  simp only [hc, hp] at h
  split at h
  · cases h
    exact ⟨rfl, rfl, rfl, rfl⟩
  split at h
  · cases h
    exact ⟨rfl, rfl, rfl, rfl⟩
  obtain ⟨masterEpoch', -, h⟩ := bind_eq_ok_iff.mp h
  obtain ⟨virtualEpoch', -, h⟩ := bind_eq_ok_iff.mp h
  obtain ⟨packetEpoch', -, h⟩ := bind_eq_ok_iff.mp h
  cases h
  rw [acceptedStatus_accepted] at refused
  cases refused

/-! ## The transaction -/

theorem GenerationsMoved.congr {l l' l'' : TmCounterLedger} {d : DecodedTmPacket}
    (moved : GenerationsMoved l l' d) (same : l''.generations = l'.generations) :
    GenerationsMoved l l'' d where
  established := by simpa only [Established, same] using moved.established
  elsewhere := by simpa only [same] using moved.elsewhere
  notOutdated := moved.notOutdated
  notForeign := moved.notForeign

/-- **An observation that returns accepts or refuses**, and the two structures
say all it did to the counters and the fence. -/
theorem observe_cases {l l' : TmCounterLedger} {d : DecodedTmPacket} {o : TmCounterObservation}
    (h : l.observe d = .ok (o, l')) :
    (o.status.accepted = true ∧ Acceptance l d l') ∨
      (o.status.accepted = false ∧ Refusal l d o.status l') := by
  unfold observe at h
  split at h
  · cases h
  rename_i direction
  cases seen : l.observations.find? d.observationKey with
  | some previous =>
      simp only [seen] at h
      have repeated : l.observations.find? d.observationKey ≠ none := by simp [seen]
      split at h
      · cases h
        exact .inr ⟨rfl, rfl, rfl, rfl, .inl ⟨rfl, .inl repeated⟩⟩
      · cases h
        exact .inr ⟨rfl, rfl, rfl, rfl, .inl ⟨rfl, .inl repeated⟩⟩
  | none =>
      simp only [seen] at h
      cases passed : l.fence d with
      | inl refusal =>
          simp only [passed] at h
          cases h
          obtain ⟨refused, behind⟩ := fence_inl passed
          exact .inr ⟨refused, rfl, rfl, rfl, .inl ⟨rfl, .inr behind⟩⟩
      | inr m =>
          simp only [passed] at h
          obtain ⟨moved, channels, packets, files, -⟩ := fence_inr passed
          cases accepted : o.status.accepted with
          | true =>
              obtain ⟨generations, counters⟩ := classify_accepted h accepted
              rw [channels, packets] at counters
              exact .inl ⟨rfl, not_not.mp direction, seen, moved.congr generations, counters⟩
          | false =>
              obtain ⟨generations, sameChannels, samePackets, sameFiles⟩ :=
                classify_refused h accepted
              exact .inr ⟨rfl, sameChannels.trans channels, samePackets.trans packets,
                sameFiles.trans files, .inr (moved.congr generations)⟩

end TmCounterLedger

end CubeNano

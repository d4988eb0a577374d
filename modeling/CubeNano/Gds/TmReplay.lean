import CubeNano.Gds.TmUnwrap

/-!
# Replay protection and the generation fence

Two safety properties of a run of `TmCounterLedger.observe`, over delayed,
duplicated and reordered frames:

* a frame accepted once is not accepted again while at most half a modulus of
  packet sequences has been accepted on its APID since;
* the fence never goes back: once an observation was recorded, no lower
  generation of its source is accepted, and no other session of the generation
  it established.

The second is about *recorded* observations.  A repeated link-frame copy is
answered from its first observation, before its generation is looked at.

## Main definitions

* `acceptedSequences` — the packet sequences a log accepted on a packet channel
* `FenceAt` — the source's generation row is at least at a given generation
-/

namespace CubeNano

/-- The packet sequences accepted on one packet channel, in order. -/
def acceptedSequences (key : PacketKey)
    (log : List (DecodedTmPacket × Raises TmCounterObservation)) : List ℕ :=
  (log.filter fun entry => isAccepted entry.2 ∧ entry.1.packetKey = key).map
    fun entry => entry.1.frame.packet.sequenceCount

/-- Two packets carry the same three counts. -/
structure SameCounts (d d' : DecodedTmPacket) : Prop where
  master : d'.frame.masterChannelCount = d.frame.masterChannelCount
  virtual : d'.frame.virtualChannelCount = d.frame.virtualChannelCount
  packet : d'.frame.packet.sequenceCount = d.frame.packet.sequenceCount

/-- One step of the ledger: the observation returned, or nothing changed. -/
theorem ledgerMachine_step_cases (l : TmCounterLedger) (d : DecodedTmPacket) :
    (∃ failure, ledgerMachine.step l d = (l, .error failure)) ∨
      ∃ o l', l.observe d = .ok (o, l') ∧ ledgerMachine.step l d = (l', .ok o) := by
  cases h : l.observe d with
  | error failure => exact .inl ⟨failure, by simp [ledgerMachine, h]⟩
  | ok result => exact .inr ⟨result.1, result.2, rfl, by simp [ledgerMachine, h]⟩

/-- An accepted step did what `Acceptance` says. -/
theorem acceptance_of_isAccepted {l : TmCounterLedger} {d : DecodedTmPacket}
    (accepted : isAccepted (ledgerMachine.step l d).2 = true) :
    TmCounterLedger.Acceptance l d (ledgerMachine.step l d).1 := by
  rcases ledgerMachine_step_cases l d with ⟨failure, step⟩ | ⟨o, l', observed, step⟩
  · rw [step] at accepted
    cases accepted
  · rw [step] at accepted ⊢
    rcases TmCounterLedger.observe_cases observed with ⟨-, acceptance⟩ | ⟨refused, -⟩
    · exact acceptance
    · exact absurd accepted (by simp [isAccepted, refused])

/-! ## The packet counter over a run -/

/-- The stored packet sequence is the last one accepted. -/
def LastSequence (key : PacketKey) (sequence : ℕ) (l : TmCounterLedger) : Prop :=
  ∃ row, l.packets.find? key = some row ∧ row.lastPacketSequence = sequence

theorem LastSequence.of_acceptance {l l' : TmCounterLedger} {d : DecodedTmPacket}
    (acceptance : TmCounterLedger.Acceptance l d l') :
    LastSequence d.packetKey d.frame.packet.sequenceCount l' := by
  obtain ⟨_, _, _, -, -, -, -, packets⟩ := acceptance.counters
  exact ⟨_, packets ▸ Table.find?_set_self _ _ _, rfl⟩

/-- One step moves the stored sequence of a channel exactly when it accepts a
packet on it. -/
theorem LastSequence.step {key : PacketKey} {sequence : ℕ} {l : TmCounterLedger}
    (last : LastSequence key sequence l) (d : DecodedTmPacket) :
    LastSequence key
      (if isAccepted (ledgerMachine.step l d).2 ∧ d.packetKey = key then
        d.frame.packet.sequenceCount else sequence)
      (ledgerMachine.step l d).1 := by
  rcases ledgerMachine_step_cases l d with ⟨failure, step⟩ | ⟨o, l', observed, step⟩
  · rw [step]
    simpa [isAccepted] using last
  rw [step]
  rcases TmCounterLedger.observe_cases observed with ⟨accepted, acceptance⟩ | ⟨refused, refusal⟩
  · by_cases same : d.packetKey = key
    · subst same
      simpa [isAccepted, accepted] using LastSequence.of_acceptance acceptance
    · obtain ⟨_, _, _, -, -, -, -, packets⟩ := acceptance.counters
      obtain ⟨row, stored, eq⟩ := last
      refine ⟨row, ?_, by simpa [same] using eq⟩
      rw [packets, Table.find?_set_of_ne _ _ (Ne.symm same), stored]
  · have kept : ¬(isAccepted (Except.ok o) = true ∧ d.packetKey = key) := by
      simp [isAccepted, refused]
    rw [if_neg kept]
    obtain ⟨row, stored, eq⟩ := last
    exact ⟨row, refusal.packets ▸ stored, eq⟩

theorem acceptedSequences_concat (key : PacketKey)
    (log : List (DecodedTmPacket × Raises TmCounterObservation))
    (entry : DecodedTmPacket × Raises TmCounterObservation) :
    acceptedSequences key (log ++ [entry]) = acceptedSequences key log ++
      if isAccepted entry.2 ∧ entry.1.packetKey = key then [entry.1.frame.packet.sequenceCount]
      else [] := by
  unfold acceptedSequences
  rw [List.filter_append, List.map_append]
  by_cases h : isAccepted entry.2 ∧ entry.1.packetKey = key
  · simp [h]
  · simp [h]

/-- Over a run the stored sequence is where the accepted ones arrived. -/
theorem LastSequence.exec {key : PacketKey} {sequence : ℕ} {l : TmCounterLedger}
    (last : LastSequence key sequence l) (packets : List DecodedTmPacket) :
    LastSequence key
      (Serial.arrival sequence (acceptedSequences key (ledgerMachine.log l packets)))
      (ledgerMachine.exec l packets) := by
  refine ledgerMachine.run_invariant
    (fun state past =>
      LastSequence key (Serial.arrival sequence (acceptedSequences key past)) state)
    last ?_ packets
  intro state past d ih
  have step := ih.step d
  rw [acceptedSequences_concat]
  by_cases h : isAccepted (ledgerMachine.step state d).2 ∧ d.packetKey = key
  · rw [if_pos h] at step ⊢
    rwa [Serial.arrival_concat]
  · rw [if_neg h] at step ⊢
    rwa [List.append_nil]

/-- A sequence that was accepted is not fresh again before more than half a
modulus of sequences has been accepted. -/
theorem not_accepted_of_travelled_le {start epoch epoch' : ℕ} {stops : List ℕ}
    (lt : start < 16384) (bounded : ∀ stop ∈ stops, stop < 16384)
    (few : Serial.travelled 16384 start stops ≤ 8192) :
    ¬ CounterAccepted 16384 (some (Serial.arrival start stops, epoch)) start epoch' := by
  rintro (_ | ⟨moved, near⟩)
  by_cases still : Serial.travelled 16384 start stops = 0
  · rw [Serial.arrival_eq_of_travelled_eq_zero lt bounded still, Serial.delta_self] at moved
    exact absurd moved (lt_irrefl 0)
  · rw [Serial.delta_return (by omega) (by omega)] at near
    omega

/-! ## The fence over a run -/

/-- The source's active generation is at least `generation`, and at that
generation its session is one of `sessions`. -/
def FenceAt (source generation : U64) (sessions : U64 → Prop) (l : TmCounterLedger) : Prop :=
  ∃ row, l.generations.find? source = some row ∧ generation ≤ row.activeLinkGeneration ∧
    (row.activeLinkGeneration = generation → sessions row.activeLinkSession)

theorem FenceAt.moved {source generation : U64} {sessions : U64 → Prop} {l l' : TmCounterLedger}
    {d : DecodedTmPacket} (fence : FenceAt source generation sessions l)
    (moved : TmCounterLedger.GenerationsMoved l l' d) :
    FenceAt source generation sessions l' := by
  obtain ⟨row, stored, above, session⟩ := fence
  by_cases own : source = d.envelope.sourceSpacecraftInstanceId
  · subst own
    obtain ⟨row', stored', generation', session'⟩ := moved.established
    have notOld : row.activeLinkGeneration ≤ row'.activeLinkGeneration := by
      rw [generation']
      exact Fin.not_lt.mp fun old => moved.notOutdated ⟨row, stored, old⟩
    refine ⟨row', stored', Fin.le_trans above notOld, fun same => ?_⟩
    have unmoved : row.activeLinkGeneration = row'.activeLinkGeneration :=
      Fin.le_antisymm notOld (same ▸ above)
    have sameSession : row'.activeLinkSession = row.activeLinkSession := by
      by_contra differs
      exact moved.notForeign ⟨row, stored, by rw [unmoved, generation'],
        fun h => differs (session'.trans h)⟩
    rw [sameSession]
    exact session (unmoved.trans same)
  · exact ⟨row, (moved.elsewhere source own).trans stored, above, session⟩

/-- No observation takes the fence back. -/
theorem FenceAt.step {source generation : U64} {sessions : U64 → Prop} {l : TmCounterLedger}
    (fence : FenceAt source generation sessions l) (d : DecodedTmPacket) :
    FenceAt source generation sessions (ledgerMachine.step l d).1 := by
  rcases ledgerMachine_step_cases l d with ⟨failure, step⟩ | ⟨o, l', observed, step⟩
  · rwa [step]
  rw [step]
  rcases TmCounterLedger.observe_cases observed with ⟨-, acceptance⟩ | ⟨-, refusal⟩
  · exact fence.moved acceptance.generations
  · rcases refusal.generations with ⟨same, -⟩ | moved
    · obtain ⟨row, stored, rest⟩ := fence
      exact ⟨row, same ▸ stored, rest⟩
    · exact fence.moved moved

theorem FenceAt.exec {source generation : U64} {sessions : U64 → Prop} {l : TmCounterLedger}
    (fence : FenceAt source generation sessions l) (packets : List DecodedTmPacket) :
    FenceAt source generation sessions (ledgerMachine.exec l packets) :=
  ledgerMachine.exec_invariant _ fence (fun _ d h => h.step d) packets

/-- A recorded observation leaves the fence at its generation at least, and at
its session unless it was refused for a foreign one. -/
theorem fenceAt_of_recorded {l l' : TmCounterLedger} {d : DecodedTmPacket}
    {o : TmCounterObservation} (observed : l.observe d = .ok (o, l'))
    (unseen : l.observations.find? d.observationKey = none) :
    FenceAt d.envelope.sourceSpacecraftInstanceId d.envelope.linkGeneration
      (fun session => o.status ≠ .staleSession → session = d.envelope.linkSessionId) l' := by
  have established (moved : TmCounterLedger.GenerationsMoved l l' d) : FenceAt
      d.envelope.sourceSpacecraftInstanceId d.envelope.linkGeneration
      (fun session => o.status ≠ .staleSession → session = d.envelope.linkSessionId) l' := by
    obtain ⟨row, stored, generation, session⟩ := moved.established
    exact ⟨row, stored, generation ▸ Fin.le_refl _, fun _ _ => session⟩
  rcases TmCounterLedger.observe_cases observed with ⟨-, acceptance⟩ | ⟨-, refusal⟩
  · exact established acceptance.generations
  rcases refusal.generations with ⟨same, seen | outdated | foreign⟩ | moved
  · exact absurd unseen seen
  · obtain ⟨row, stored, old⟩ := outdated
    exact ⟨row, same ▸ stored, Fin.le_of_lt old, fun h => absurd old (h ▸ Fin.lt_irrefl _)⟩
  · obtain ⟨status, row, stored, generation, -⟩ := foreign
    exact ⟨row, same ▸ stored, generation ▸ Fin.le_refl _, fun _ h => absurd status h⟩
  · exact established moved

/-- An accepted packet is of the active generation and its session. -/
theorem generation_of_acceptance {source generation : U64} {sessions : U64 → Prop}
    {l l' : TmCounterLedger} {d : DecodedTmPacket} (fence : FenceAt source generation sessions l)
    (own : d.envelope.sourceSpacecraftInstanceId = source)
    (acceptance : TmCounterLedger.Acceptance l d l') :
    generation ≤ d.envelope.linkGeneration ∧
      (d.envelope.linkGeneration = generation → sessions d.envelope.linkSessionId) := by
  obtain ⟨row, stored, above, session⟩ := fence.moved acceptance.generations
  obtain ⟨row', stored', generation', session'⟩ := acceptance.generations.established
  subst own
  obtain rfl : row' = row := Option.some.inj (stored'.symm.trans stored)
  exact ⟨generation' ▸ above, fun same => session' ▸ session (generation'.trans same)⟩

/-! ## The two properties of a run -/

/-- **Replays are refused and the fence holds.**  In every run of observations,
look at any packet `d` and a later packet `d'`.

If `d` was accepted and `d'` carries the same counts on the same channel, then
`d'` is refused while at most 8192 packet sequences have been accepted on the
channel since.  If the observation of `d` was recorded and `d'` has the same
source, then `d'` is refused when its generation is lower, and when it belongs to
another session of the generation that `d` got past the fence with. -/
theorem replay_refused_and_fence_holds (l : TmCounterLedger) (before after : List DecodedTmPacket)
    (d d' : DecodedTmPacket) :
    let earlier := ledgerMachine.exec l before
    let observed := ledgerMachine.step earlier d
    let later := ledgerMachine.exec observed.1 after
    (isAccepted observed.2 = true → d'.packetKey = d.packetKey → SameCounts d d' →
      Serial.travelled 16384 d.frame.packet.sequenceCount
        (acceptedSequences d.packetKey (ledgerMachine.log observed.1 after)) ≤ 8192 →
      isAccepted (ledgerMachine.step later d').2 = false) ∧
    (∀ o, observed.2 = .ok o → earlier.observations.find? d.observationKey = none →
      d'.envelope.sourceSpacecraftInstanceId = d.envelope.sourceSpacecraftInstanceId →
      (d'.envelope.linkGeneration < d.envelope.linkGeneration ∨
        o.status ≠ .staleSession ∧ d'.envelope.linkGeneration = d.envelope.linkGeneration ∧
          d'.envelope.linkSessionId ≠ d.envelope.linkSessionId) →
      isAccepted (ledgerMachine.step later d').2 = false) := by
  intro earlier observed later
  refine ⟨fun accepted channel same few => ?_, fun o returned unseen source behind => ?_⟩
  · by_contra replayed
    have acceptance := acceptance_of_isAccepted (Bool.eq_true_of_not_eq_false replayed)
    obtain ⟨_, _, _, -, -, counter, -, -⟩ := acceptance.counters
    obtain ⟨row, stored, last⟩ :=
      (LastSequence.of_acceptance (acceptance_of_isAccepted accepted)).exec after
    rw [channel, stored, Option.map_some, PacketCounterState.packet, last, same.packet] at counter
    refine not_accepted_of_travelled_le ?_ ?_ few counter
    · exact Nat.lt_succ_of_le d.frame.packet.sequenceCount_le
    · intro stop mem
      obtain ⟨entry, -, rfl⟩ := List.mem_map.mp mem
      exact Nat.lt_succ_of_le entry.1.frame.packet.sequenceCount_le
  · by_contra admitted
    have acceptance := acceptance_of_isAccepted (Bool.eq_true_of_not_eq_false admitted)
    rcases ledgerMachine_step_cases earlier d with ⟨failure, step⟩ | ⟨o', l', recorded, step⟩
    · rw [show observed = _ from step] at returned
      cases returned
    obtain rfl : o' = o := by
      rw [show observed = _ from step] at returned
      exact Except.ok.inj returned
    have fence := (fenceAt_of_recorded recorded unseen).exec after
    have state : l' = observed.1 := by rw [show observed = _ from step]
    rw [state] at fence
    obtain ⟨above, session⟩ := generation_of_acceptance fence source acceptance
    rcases behind with old | ⟨passed, same, foreign⟩
    · exact absurd old (Fin.not_lt.mpr above)
    · exact foreign (session same passed)

/-- The packet as sent on a link of another generation. -/
def DecodedTmPacket.onGeneration (d : DecodedTmPacket) (generation : U64) : DecodedTmPacket :=
  { d with envelope := { d.envelope with linkGeneration := generation } }

/-- A frame accepted, one more accepted, the first repeated under a new link
frame; and a generation established, then a lower one tried. -/
theorem replay_refused_after_one_more :
    isAccepted (ledgerMachine.step
      (ledgerMachine.exec .empty [beacon 1 5 5 5, beacon 2 6 6 6]) (beacon 3 5 5 5)).2 = false ∧
    isAccepted (ledgerMachine.step
      (ledgerMachine.exec .empty [(beacon 1 5 5 5).onGeneration 4]) (beacon 2 6 6 6)).2 = false :=
  ⟨(replay_refused_and_fence_holds .empty [] [beacon 2 6 6 6] (beacon 1 5 5 5)
      (beacon 3 5 5 5)).1 (by decide +kernel) rfl ⟨rfl, rfl, rfl⟩ (by decide +kernel),
    (replay_refused_and_fence_holds .empty [] [] ((beacon 1 5 5 5).onGeneration 4)
      (beacon 2 6 6 6)).2 ⟨.baseline, 0, 0, 0, 0⟩ (by decide +kernel) rfl rfl
      (.inl (by decide))⟩

/-- **A repeated copy does not raise the fence.**  A generation that is seen only
in a repeated link-frame copy is not recorded, so a lower one is still accepted
afterwards. -/
theorem not_fence_of_repeated_copy :
    ¬ ∀ (l : TmCounterLedger) (before after : List DecodedTmPacket) (d d' : DecodedTmPacket),
      let observed := ledgerMachine.step (ledgerMachine.exec l before) d
      (∃ o, observed.2 = .ok o) →
      d'.envelope.sourceSpacecraftInstanceId = d.envelope.sourceSpacecraftInstanceId →
      d'.envelope.linkGeneration < d.envelope.linkGeneration →
      isAccepted (ledgerMachine.step (ledgerMachine.exec observed.1 after) d').2 = false := by
  intro claim
  have refused := claim .empty [beacon 1 5 5 5] [] ((beacon 1 5 5 5).onGeneration 5)
    (beacon 2 6 6 6) ⟨⟨.duplicate, 0, 0, 0, 0⟩, by decide +kernel⟩ rfl (by decide)
  have accepted : isAccepted (ledgerMachine.step (ledgerMachine.exec (ledgerMachine.step
      (ledgerMachine.exec .empty [beacon 1 5 5 5]) ((beacon 1 5 5 5).onGeneration 5)).1 [])
      (beacon 2 6 6 6)).2 = true := by
    decide +kernel
  rw [refused] at accepted
  cases accepted

end CubeNano

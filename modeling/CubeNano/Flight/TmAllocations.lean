import CubeNano.Flight.TmCounters
import CubeNano.Protocol.PyValue

/-!
# Runs of the TM counter allocators

`allocate_tm_frame_counters` and `allocate_tm_packet_sequence` of `flight/journal.py` as
transactions on the three counter tables, called in any order with any arguments, with restarts
between the calls.  A call that is cut off before its commit leaves the tables as a restart finds
them; one that is cut off later has handed out its values.

## Main definitions

* `transaction`, `consumeModularCounter`, `frameTransaction`, `packetTransaction`
* `tmJournal` — the calls and restarts as a machine
* `TmCounter` — the master channel, a virtual channel or an APID
* `handed` — the extended values of a counter that a run handed out

## Main statements

* `tmJournal_step` — everything a call can do
* `tmCounters_consecutive` — the values of every counter count from zero
-/

namespace CubeNano

open TmCounterTables

/-! ## Transactions -/

/-- A part of a transaction: it writes to the tables as it goes, also when it raises. -/
abbrev TmProgram (α : Type) := EStateM PyException TmCounterTables α

/-- `transaction`: what raises is rolled back. -/
def transaction {α : Type} (body : TmProgram α) : TmProgram α := fun t =>
  match body t with
  | .ok value t' => .ok value t'
  | .error failure _ => .error failure t

/-- `_consume_modular_counter` of the row that `row` selects. -/
def consumeModularCounter {modulus : ℕ} (row : TmCounterTables → CounterRow modulus)
    (update : TmCounterTables → CounterRow modulus → TmCounterTables) (label : String) :
    TmProgram (ℕ × ℕ) := fun t =>
  match (row t).consume label with
  | .ok (value, next) => .ok value (update t next)
  | .error failure => .error failure t

/-- The insertion of a missing packet row. -/
def insertPacketRow (apid : ℕ) : TmProgram Unit :=
  modify fun t => { t with packet := t.packet.set apid (t.packetRow apid) }

/-- The insertion of a missing virtual-channel row. -/
def insertVirtualRow (vcid : ℕ) : TmProgram Unit :=
  modify fun t => { t with virtual := t.virtual.set vcid (t.virtualRow vcid) }

/-- The packet sequence of an APID. -/
def consumePacketSequence (apid : ℕ) : TmProgram (ℕ × ℕ) :=
  consumeModularCounter (fun t => t.packetRow apid)
    (fun t next => { t with packet := t.packet.set apid next }) "TM packet sequence"

/-- The transaction of `allocate_tm_frame_counters`. -/
def frameTransaction (apid vcid : ℕ) : TmProgram TmFrameCounters :=
  transaction do
    insertPacketRow apid
    insertVirtualRow vcid
    let (master, masterEpoch) ← consumeModularCounter TmCounterTables.master
      (fun t next => { t with master := next }) "TM master counter"
    let (virtual, virtualEpoch) ← consumeModularCounter (fun t => t.virtualRow vcid)
      (fun t next => { t with virtual := t.virtual.set vcid next }) "TM virtual counter"
    let (packet, packetEpoch) ← consumePacketSequence apid
    pure ⟨apid, vcid, packet, packetEpoch, master, masterEpoch, virtual, virtualEpoch⟩

/-- The transaction of `allocate_tm_packet_sequence`. -/
def packetTransaction (apid : ℕ) : TmProgram (ℕ × ℕ) :=
  transaction do
    insertPacketRow apid
    consumePacketSequence apid

/-- `_validate_tm_apid`. -/
def validateTmApid : PyValue → Raises ℕ
  | .int n =>
      if 0 ≤ n ∧ n ≤ 0x7FF then .ok n.toNat
      else valueError "TM APID must be an integer in [0, 2047]"
  | _ => valueError "TM APID must be an integer in [0, 2047]"

/-- `_validate_tm_vcid`. -/
def validateTmVcid : PyValue → Raises ℕ
  | .int n =>
      if 0 ≤ n ∧ n ≤ 7 then .ok n.toNat
      else valueError "TM virtual_channel_id must be an integer in [0, 7]"
  | _ => valueError "TM virtual_channel_id must be an integer in [0, 7]"

/-! ## Runs -/

/-- A call, or a restart of the flight software. -/
inductive TmCall
  | frame (apid virtualChannelId : PyValue)
  | packet (apid : PyValue)
  | restart

/-- What a call hands out. -/
inductive TmHandout
  | frame (counters : TmFrameCounters)
  | packet (apid sequence epoch : ℕ)

/-- The counter tables when the journal is opened: `CREATE TABLE IF NOT EXISTS` and the master
row, unless it is there. -/
def openCounterTables (stored : Option TmCounterTables) : TmCounterTables :=
  stored.getD TmCounterTables.initial

/-- One call as a program. -/
def TmCall.program : TmCall → TmProgram (Option TmHandout)
  | .frame apid virtualChannelId => do
      let apid ← liftRaises (validateTmApid apid)
      let vcid ← liftRaises (validateTmVcid virtualChannelId)
      let counters ← frameTransaction apid vcid
      pure (some (.frame counters))
  | .packet apid => do
      let apid ← liftRaises (validateTmApid apid)
      let value ← packetTransaction apid
      pure (some (.packet apid value.1 value.2))
  | .restart => do
      modify fun t => openCounterTables (some t)
      pure none

/-- The calls and restarts, with what each hands out or raises. -/
def tmJournal : Machine TmCounterTables TmCall (Raises (Option TmHandout)) where
  step t call := (Effect.finalState (call.program t), outcome (call.program t))

/-- What a run from a new journal handed out. -/
def handouts (calls : List TmCall) : List TmHandout :=
  (tmJournal.log (openCounterTables none) calls).filterMap fun entry =>
    entry.2.toOption.bind id

/-! ## Counters -/

/-- One of the counters. -/
inductive TmCounter
  | master
  | virtual (vcid : ℕ)
  | packet (apid : ℕ)
  deriving DecidableEq

/-- The extended value that a counter hands out next. -/
def TmCounterTables.next (t : TmCounterTables) : TmCounter → ℕ
  | .master => t.master.extended
  | .virtual vcid => (t.virtualRow vcid).extended
  | .packet apid => (t.packetRow apid).extended

/-- The extended values of a call, with the counters they belong to. -/
def TmHandout.values : TmHandout → List (TmCounter × ℕ)
  | .frame c =>
      [(.master, c.master), (.virtual c.virtualChannelId, c.virtual), (.packet c.apid, c.packet)]
  | .packet apid sequence epoch => [(.packet apid, epoch * 16384 + sequence)]

/-- The extended values of a counter in a call. -/
def TmHandout.of (counter : TmCounter) (given : TmHandout) : List ℕ :=
  (given.values.filter fun entry => entry.1 = counter).map Prod.snd

/-- The extended values of a counter that were handed out, in order. -/
def handed (counter : TmCounter) (given : List TmHandout) : List ℕ :=
  given.flatMap (TmHandout.of counter)

/-! ## What a call can do -/

/-- The values that move the counters from `t` to `t'`: of every counter the next one, or none. -/
def Moved (t t' : TmCounterTables) (values : TmCounter → List ℕ) : Prop :=
  ∀ counter, (values counter = [] ∧ t'.next counter = t.next counter) ∨
    values counter = [t.next counter] ∧ t'.next counter = t.next counter + 1

theorem eq_of_transaction_error {α : Type} {body : TmProgram α} {t t' : TmCounterTables}
    {failure : PyException} (raised : transaction body t = .error failure t') : t' = t := by
  unfold transaction at raised
  split at raised
  · cases raised
  · cases raised
    rfl

theorem transaction_eq_ok_iff {α : Type} {body : TmProgram α} {t t' : TmCounterTables} {value : α} :
    transaction body t = .ok value t' ↔ body t = .ok value t' := by
  unfold transaction
  cases body t with
  | ok _ _ => exact Iff.rfl
  | error _ _ => exact ⟨nofun, nofun⟩

/-- The tables after one counter has moved by one. -/
def MovedAt (counter : TmCounter) (t t' : TmCounterTables) : Prop :=
  ∀ other, t'.next other = if other = counter then t.next counter + 1 else t.next other

theorem MovedAt.self {counter : TmCounter} {t t' : TmCounterTables} (moved : MovedAt counter t t') :
    t'.next counter = t.next counter + 1 := by rw [moved, if_pos rfl]

theorem MovedAt.of_ne {counter : TmCounter} {t t' : TmCounterTables}
    (moved : MovedAt counter t t') (other : TmCounter) (different : other ≠ counter) :
    t'.next other = t.next other := by rw [moved, if_neg different]

/-- A counter hands out its extended value and moves by one. -/
theorem consumeModularCounter_eq_ok {modulus : ℕ} {row : TmCounterTables → CounterRow modulus}
    {update : TmCounterTables → CounterRow modulus → TmCounterTables} {label : String}
    {counter : TmCounter} (selects : ∀ t, (row t).extended = t.next counter)
    (writes : ∀ t next other, (update t next).next other =
      if other = counter then next.extended else t.next other)
    {t t' : TmCounterTables} {value : ℕ × ℕ}
    (done : consumeModularCounter row update label t = .ok value t') :
    value.2 * modulus + value.1 = t.next counter ∧ MovedAt counter t t' := by
  unfold consumeModularCounter at done
  split at done
  · rename_i result next consumed
    cases done
    obtain ⟨-, extended, moved⟩ := CounterRow.consume_spec consumed
    refine ⟨extended.trans (selects t), fun other => ?_⟩
    rw [writes, moved, selects]
  · cases done

theorem next_insertPacketRow (t : TmCounterTables) (apid : ℕ) (counter : TmCounter) :
    ({ t with packet := t.packet.set apid (t.packetRow apid) } : TmCounterTables).next counter =
      t.next counter := by
  cases counter with
  | master => rfl
  | virtual vcid => rfl
  | packet apid' =>
      simp only [next, packetRow, Table.find?_set]
      split
      · rename_i same
        rw [same]
        rfl
      · rfl

theorem next_insertVirtualRow (t : TmCounterTables) (vcid : ℕ) (counter : TmCounter) :
    ({ t with virtual := t.virtual.set vcid (t.virtualRow vcid) } : TmCounterTables).next counter =
      t.next counter := by
  cases counter with
  | master => rfl
  | packet apid => rfl
  | virtual vcid' =>
      simp only [next, virtualRow, Table.find?_set]
      split
      · rename_i same
        rw [same]
        rfl
      · rfl

theorem next_setMaster (t : TmCounterTables) (row : CounterRow 256) (counter : TmCounter) :
    ({ t with master := row } : TmCounterTables).next counter =
      if counter = .master then row.extended else t.next counter := by
  cases counter <;> rfl

theorem next_setVirtual (t : TmCounterTables) (vcid : ℕ) (row : CounterRow 256)
    (counter : TmCounter) :
    ({ t with virtual := t.virtual.set vcid row } : TmCounterTables).next counter =
      if counter = .virtual vcid then row.extended else t.next counter := by
  cases counter with
  | master => rfl
  | packet apid => rfl
  | virtual vcid' =>
      simp only [next, virtualRow, Table.find?_set, TmCounter.virtual.injEq]
      split <;> rfl

theorem next_setPacket (t : TmCounterTables) (apid : ℕ) (row : CounterRow 16384)
    (counter : TmCounter) :
    ({ t with packet := t.packet.set apid row } : TmCounterTables).next counter =
      if counter = .packet apid then row.extended else t.next counter := by
  cases counter with
  | master => rfl
  | virtual vcid => rfl
  | packet apid' =>
      simp only [next, packetRow, Table.find?_set, TmCounter.packet.injEq]
      split <;> rfl

/-- The insertion of missing rows moves no counter. -/
theorem next_inserted {apid vcid : ℕ} {t t₁ t₂ : TmCounterTables}
    (first : insertPacketRow apid t = .ok () t₁) (second : insertVirtualRow vcid t₁ = .ok () t₂)
    (counter : TmCounter) : t₂.next counter = t.next counter := by
  cases first
  cases second
  exact (next_insertVirtualRow _ vcid counter).trans (next_insertPacketRow t apid counter)

/-- A frame takes the next value of its three counters. -/
theorem frameTransaction_eq_ok {apid vcid : ℕ} {t t' : TmCounterTables} {c : TmFrameCounters}
    (done : frameTransaction apid vcid t = .ok c t') :
    Moved t t' fun counter => (TmHandout.frame c).of counter := by
  obtain ⟨⟨⟩, t₁, first, done⟩ := Effect.bind_eq_ok_iff.mp (transaction_eq_ok_iff.mp done)
  obtain ⟨⟨⟩, t₂, second, done⟩ := Effect.bind_eq_ok_iff.mp done
  have inserted := next_inserted first second
  obtain ⟨⟨master, masterEpoch⟩, t₃, hmaster, done⟩ := Effect.bind_eq_ok_iff.mp done
  obtain ⟨⟨virtual, virtualEpoch⟩, t₄, hvirtual, done⟩ := Effect.bind_eq_ok_iff.mp done
  obtain ⟨⟨packet, packetEpoch⟩, t₅, hpacket, done⟩ := Effect.bind_eq_ok_iff.mp done
  cases done
  obtain ⟨masterEq, masterStep⟩ := consumeModularCounter_eq_ok (fun _ => rfl) next_setMaster hmaster
  obtain ⟨virtualEq, virtualStep⟩ := consumeModularCounter_eq_ok (fun _ => rfl)
    (fun t => next_setVirtual t vcid) hvirtual
  obtain ⟨packetEq, packetStep⟩ := consumeModularCounter_eq_ok (fun _ => rfl)
    (fun t => next_setPacket t apid) hpacket
  have masterValue : masterEpoch * 256 + master = t.next .master := masterEq.trans (inserted _)
  have virtualValue : virtualEpoch * 256 + virtual = t.next (.virtual vcid) := by
    rw [virtualEq, masterStep.of_ne (.virtual vcid) nofun, inserted]
  have packetValue : packetEpoch * 16384 + packet = t.next (.packet apid) := by
    rw [packetEq, virtualStep.of_ne (.packet apid) nofun, masterStep.of_ne (.packet apid) nofun,
      inserted]
  intro counter
  cases counter with
  | master =>
      refine .inr ⟨congrArg (fun value => [value]) masterValue, ?_⟩
      rw [packetStep.of_ne .master nofun, virtualStep.of_ne .master nofun, masterStep.self, inserted]
  | virtual vcid' =>
      rw [packetStep.of_ne (.virtual vcid') nofun]
      by_cases same : vcid' = vcid
      · subst same
        refine .inr ⟨?_, ?_⟩
        · rw [← virtualValue]
          simp [TmHandout.of, TmHandout.values, TmFrameCounters.virtual]
        · rw [virtualStep.self, masterStep.of_ne (.virtual vcid') nofun, inserted]
      · refine .inl ⟨?_, ?_⟩
        · simp [TmHandout.of, TmHandout.values, Ne.symm same]
        · rw [virtualStep.of_ne _ fun equal => same (TmCounter.virtual.inj equal),
            masterStep.of_ne (.virtual vcid') nofun, inserted]
  | packet apid' =>
      by_cases same : apid' = apid
      · subst same
        refine .inr ⟨?_, ?_⟩
        · rw [← packetValue]
          simp [TmHandout.of, TmHandout.values, TmFrameCounters.packet]
        · rw [packetStep.self, virtualStep.of_ne (.packet apid') nofun,
            masterStep.of_ne (.packet apid') nofun, inserted]
      · refine .inl ⟨?_, ?_⟩
        · simp [TmHandout.of, TmHandout.values, Ne.symm same]
        · rw [packetStep.of_ne _ fun equal => same (TmCounter.packet.inj equal),
            virtualStep.of_ne (.packet apid') nofun, masterStep.of_ne (.packet apid') nofun, inserted]

/-- A packet takes the next value of its APID. -/
theorem packetTransaction_eq_ok {apid : ℕ} {t t' : TmCounterTables} {value : ℕ × ℕ}
    (done : packetTransaction apid t = .ok value t') :
    Moved t t' fun counter => (TmHandout.packet apid value.1 value.2).of counter := by
  obtain ⟨⟨⟩, t₁, first, done⟩ := Effect.bind_eq_ok_iff.mp (transaction_eq_ok_iff.mp done)
  cases first
  obtain ⟨packetEq, packetStep⟩ := consumeModularCounter_eq_ok (fun _ => rfl)
    (fun t => next_setPacket t apid) done
  have inserted := next_insertPacketRow t apid
  intro counter
  by_cases same : counter = .packet apid
  · subst same
    refine .inr ⟨?_, packetStep.self.trans (congrArg (· + 1) (inserted _))⟩
    rw [← inserted, ← packetEq]
    simp [TmHandout.of, TmHandout.values]
  · refine .inl ⟨?_, (packetStep.of_ne _ same).trans (inserted _)⟩
    simp [TmHandout.of, TmHandout.values, Ne.symm same]

/-! ## Runs of calls -/

/-- How the tables stand after a call that returned. -/
def AfterCall (t : TmCounterTables) (given : Option TmHandout) (t' : TmCounterTables) : Prop :=
  match given with
  | some handout => Moved t t' fun counter => handout.of counter
  | none => t' = t

theorem triple_transaction {α : Type} {body : TmProgram α} {t : TmCounterTables}
    {Q : α → TmCounterTables → Prop}
    (returned : ∀ value t', transaction body t = .ok value t' → Q value t') :
    Effect.Triple (fun s => s = t) (transaction body) Q fun _ s => s = t := by
  rintro s rfl
  cases done : transaction body s with
  | ok value t' => exact returned value t' done
  | error failure t' => exact eq_of_transaction_error done

/-- A call moves what it hands out, and one that raises moves nothing. -/
theorem TmCall.program_spec (call : TmCall) (t : TmCounterTables) :
    Effect.Triple (fun s => s = t) call.program (AfterCall t) fun _ s => s = t := by
  cases call with
  | frame apid virtualChannelId =>
      refine (triple_liftRaises _).bind fun apid => Effect.Triple.ofFact fun _ => ?_
      refine (triple_liftRaises _).bind fun vcid => Effect.Triple.ofFact fun _ => ?_
      refine (triple_transaction fun c t' => frameTransaction_eq_ok).bind fun c => ?_
      exact Effect.Triple.pure fun t' moved => moved
  | packet apid =>
      refine (triple_liftRaises _).bind fun apid => Effect.Triple.ofFact fun _ => ?_
      refine (triple_transaction fun value t' => packetTransaction_eq_ok).bind fun value => ?_
      exact Effect.Triple.pure fun t' moved => moved
  | restart =>
      rintro s rfl
      rfl

/-- **Everything a call can do**: it takes the next value of each of its counters, or it moves
none. -/
theorem tmJournal_step (t : TmCounterTables) (call : TmCall) :
    (∃ given, (tmJournal.step t call).2 = .ok given ∧
      AfterCall t given (tmJournal.step t call).1) ∨
    ∃ failure, (tmJournal.step t call).2 = .error failure ∧ (tmJournal.step t call).1 = t := by
  have spec := call.program_spec t t rfl
  change (∃ given, outcome (call.program t) = .ok given ∧
    AfterCall t given (Effect.finalState (call.program t))) ∨
    ∃ failure, outcome (call.program t) = .error failure ∧
      Effect.finalState (call.program t) = t
  cases result : call.program t with
  | ok given t' =>
      rw [result] at spec
      exact .inl ⟨given, rfl, spec⟩
  | error failure t' =>
      rw [result] at spec
      exact .inr ⟨failure, rfl, spec⟩

/-- What was handed out of every counter, and where it stands. -/
def HandedBefore (t : TmCounterTables) (log : List (TmCall × Raises (Option TmHandout))) : Prop :=
  ∀ counter, handed counter (log.filterMap fun entry => entry.2.toOption.bind id) =
    List.range (t.next counter)

theorem handedBefore_step {t : TmCounterTables}
    {past : List (TmCall × Raises (Option TmHandout))} (before : HandedBefore t past)
    (call : TmCall) :
    HandedBefore (tmJournal.step t call).1 (past ++ [(call, (tmJournal.step t call).2)]) := by
  intro counter
  have earlier := before counter
  rw [List.filterMap_append, handed, List.flatMap_append]
  change handed counter _ ++ _ = _
  rw [earlier]
  rcases tmJournal_step t call with ⟨given, returned, after⟩ | ⟨failure, raised, same⟩
  · rw [returned]
    cases given with
    | none =>
        have same : (tmJournal.step t call).1 = t := after
        rw [same]
        exact List.append_nil _
    | some handout =>
        have values : [(call, (.ok (some handout) : Raises (Option TmHandout)))].filterMap
            (fun entry => entry.2.toOption.bind id) = [handout] := rfl
        rw [values, List.flatMap_singleton]
        rcases after counter with ⟨nothing, same⟩ | ⟨one, moved⟩
        · dsimp only at nothing
          rw [nothing, same, List.append_nil]
        · dsimp only at one
          rw [one, moved, List.range_succ]
  · rw [raised, same]
    exact List.append_nil _

theorem next_initial (counter : TmCounter) : (openCounterTables none).next counter = 0 := by
  have zero {modulus : ℕ} (positive : 0 < modulus) : (CounterRow.zero positive).extended = 0 := by
    simp [CounterRow.zero, CounterRow.extended]
  cases counter with
  | master => exact zero _
  | virtual vcid => exact zero _
  | packet apid => exact zero _

/-- **The values of every counter count from zero**: the master channel, each virtual channel and
each APID hand out consecutive extended values in order, each of them once, over every sequence of
calls and restarts; and a call that raises moves none of the counters. -/
theorem tmCounters_consecutive (calls : List TmCall) :
    (∀ counter, ∃ count, handed counter (handouts calls) = List.range count) ∧
    (∀ counter, (handed counter (handouts calls)).Nodup) ∧
    ∀ call failure,
      (tmJournal.step (tmJournal.exec (openCounterTables none) calls) call).2 = .error failure →
        (tmJournal.step (tmJournal.exec (openCounterTables none) calls) call).1 =
          tmJournal.exec (openCounterTables none) calls := by
  have start : HandedBefore (openCounterTables none) [] := by
    intro counter
    rw [next_initial]
    rfl
  have inOrder := tmJournal.run_invariant HandedBefore start
    (fun t past call before => handedBefore_step before call) calls
  refine ⟨fun counter => ⟨_, inOrder counter⟩, fun counter => ?_, fun call failure raised => ?_⟩
  · have all : handed counter (handouts calls) = List.range _ := inOrder counter
    rw [all]
    exact List.nodup_range
  · rcases tmJournal_step (tmJournal.exec (openCounterTables none) calls) call with
      ⟨given, returned, -⟩ | ⟨-, -, same⟩
    · exact nomatch raised.symm.trans returned
    · exact same

end CubeNano

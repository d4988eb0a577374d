import CubeNano.Flight.StockRouter
import CubeNano.Gds.LeaseFence
import CubeNano.Gds.KeyRegistry
import CubeNano.Protocol.CommandRoundTrip
import CubeNano.Protocol.Jcs

/-!
# What the satellite executes is what was admitted

An admitted command is stored in three forms: the canonical semantic body, the argument
bytes and the mission digest.  A claim reads the payload from the body again, an attempt
encodes the claimed command into a TC frame, and the satellite decodes that frame.  The
three forms agree from the admission on and never change, so in every run the frame of
every attempt is decoded as the admitted command.

## Main definitions

* `SemanticIdempotency.build` — the end of `build_semantic_idempotency`
* `CommandRow.Seals` — a command that agrees with what is stored of it
* `LedgerOp.Frozen` — an admission with a semantic body that was built so

## Main statements

* `Ledger.transact_sealed` — commands are stored sealed
* `RequestStep.contents_eq` — no transaction changes what is stored of a command
* `attempt_carries_admitted` — the frames of a whole run
-/

namespace CubeNano

/-! ## Semantic bodies -/

/-- The end of `build_semantic_idempotency`: the payload is the one the canonical text is
read as, not the one that was written. -/
def SemanticIdempotency.build (normalized : PyValue) (deliveryMode : DeliveryMode)
    (expiresAtUs : Option ℤ) : Raises SemanticIdempotency := do
  let canonical ← jcsCanonicalJson normalized
  let payload ← Ledger.payloadOfBody canonical
  .ok ⟨payload, deliveryMode, expiresAtUs, canonical, sha256 canonical⟩

/-- The payload is the one of the canonical body. -/
def SemanticIdempotency.Frozen (s : SemanticIdempotency) : Prop :=
  Ledger.payloadOfBody s.canonicalJcs = .ok s.payload

theorem SemanticIdempotency.frozen_of_build {normalized : PyValue} {deliveryMode : DeliveryMode}
    {expiresAtUs : Option ℤ} {s : SemanticIdempotency}
    (built : build normalized deliveryMode expiresAtUs = .ok s) : s.Frozen := by
  obtain ⟨canonical, -, built⟩ := bind_eq_ok_iff.mp built
  obtain ⟨payload, read, built⟩ := bind_eq_ok_iff.mp built
  cases built
  exact read

/-- The semantic body an operation admits. -/
def LedgerOp.semantic? : LedgerOp → Option SemanticIdempotency
  | .admitCommand request => some request.semantic
  | .admitProductDownlink request => some request.semantic
  | _ => none

/-- An admission admits a frozen body. -/
def LedgerOp.Frozen (op : LedgerOp) : Prop := ∀ s, op.semantic? = some s → s.Frozen

/-! ## Sealed commands -/

/-- A command agrees with what is stored of it. -/
structure CommandRow.Seals (c : CommandRow) (key : RequestKey) (command : Command) : Prop where
  opcode : command.opcode = c.opcode
  target : command.target = c.targetSpacecraftInstanceId
  requestKey : command.requestKey = key
  arguments : command.argumentBytes = .ok c.missionArguments
  digest : CubeNano.missionDigest command = .ok c.missionDigest

/-- The stored body, arguments and digest are those of one command. -/
def CommandRow.Sealed (c : CommandRow) (key : RequestKey) : Prop :=
  ∃ payload, Ledger.payloadOfBody c.semanticBodyJcs = .ok payload ∧
    c.Seals key ⟨c.opcode, c.targetSpacecraftInstanceId, key, payload⟩

/-- What is stored of a command beside its state. -/
def CommandRow.contents (c : CommandRow) :
    CommandOpcode × U64 × Bytes × Bytes × Text :=
  (c.opcode, c.targetSpacecraftInstanceId, c.semanticBodyJcs, c.missionArguments, c.missionDigest)

/-- **No transaction changes what is stored of a command.** -/
theorem RequestStep.contents_eq {cfg : LedgerConfig} {l : Ledger} {now : ℕ} {op : LedgerOp}
    {result : Raises LedgerResult} {key : RequestKey} {r r' : Request}
    (step : RequestStep cfg l now op result key r r') :
    r'.command.contents = r.command.contents := by
  cases step <;> rfl

theorem CommandRow.Seals.of_contents {c c' : CommandRow} {key : RequestKey} {command : Command}
    (seals : c.Seals key command) (same : c'.contents = c.contents) : c'.Seals key command := by
  simp only [CommandRow.contents, Prod.mk.injEq] at same
  obtain ⟨opcode, target, -, arguments, digest⟩ := same
  exact ⟨opcode ▸ seals.opcode, target ▸ seals.target, seals.requestKey,
    arguments ▸ seals.arguments, digest ▸ seals.digest⟩

theorem CommandRow.Sealed.of_contents {c c' : CommandRow} {key : RequestKey}
    (sealed : c.Sealed key) (same : c'.contents = c.contents) : c'.Sealed key := by
  obtain ⟨payload, read, seals⟩ := sealed
  have seals' := seals.of_contents same
  simp only [CommandRow.contents, Prod.mk.injEq] at same
  obtain ⟨opcode, target, body, -, -⟩ := same
  refine ⟨payload, body ▸ read, ?_⟩
  rw [opcode, target]
  exact seals'

namespace Ledger

variable {cfg : LedgerConfig} {l l' : Ledger} {now : ℕ} {op : LedgerOp} {key : RequestKey}

/-! ## Admissions -/

/-- An admission stores a sealed command under the key it returns. -/
theorem insertRequest_sealed {draws : ℕ → U64} {epoch : U64} {principal idempotencyKey : String}
    {semantic : SemanticIdempotency} {target : U64} {opcode : CommandOpcode} {expiry : ℕ}
    {contactAvailable : Bool} {admission : AdmissionResult}
    (done : l.insertRequest now draws epoch principal idempotencyKey semantic target opcode expiry
      contactAvailable = .ok (admission, l')) (frozen : semantic.Frozen) :
    ∃ r : Request, Admitted l l' admission.requestKey r ∧
      r.command.Sealed admission.requestKey ∧
      admission.missionDigestHex = r.command.missionDigest ∧
      admission.targetSpacecraftInstanceId = r.command.targetSpacecraftInstanceId := by
  obtain ⟨⟨key, allocated⟩, allocate, done⟩ := bind_eq_ok_iff.mp done
  obtain ⟨arguments, encoded, done⟩ := bind_eq_ok_iff.mp done
  obtain ⟨digest, digested, done⟩ := bind_eq_ok_iff.mp done
  simp only at done
  obtain ⟨withCommand, first, done⟩ := bind_eq_ok_iff.mp done
  obtain ⟨withOutbox, second, done⟩ := bind_eq_ok_iff.mp done
  cases done
  exact ⟨_, (insertPair_eq_ok first second).of_records (allocateInTransaction_frame allocate)
    (.refl _), ⟨semantic.payload, frozen, rfl, rfl, rfl, encoded, digested⟩, rfl, rfl⟩

/-- What an admission returns is what is stored: its key, digest and target. -/
structure Returns (l' : Ledger) (admission : AdmissionResult) : Prop where
  stored : ∃ c, l'.commands.find? admission.requestKey = some c ∧
    admission.missionDigestHex = c.missionDigest ∧
    admission.targetSpacecraftInstanceId = c.targetSpacecraftInstanceId

theorem Admitted.find?_self {r : Request} (admitted : Admitted l l' key r) :
    l'.commands.find? key = some r.command := by
  rw [admitted.commands, if_pos rfl]

/-- An admission replays a stored command or stores a sealed one. -/
theorem admitCommand_sealed {capacity : ℕ} {request : AdmitRequest} {admission : AdmissionResult}
    (done : l.admitCommand capacity request now = .ok (admission, l'))
    (frozen : request.semantic.Frozen) :
    Returns l' admission ∧
      (l' = l ∨ ∃ k r, Admitted l l' k r ∧ r.command.Sealed k) := by
  obtain ⟨metadata, -, ways⟩ := admitCommand_cases done
  rcases ways with ⟨key, c, o, live, -, -, rfl, rfl⟩ | ⟨kept, expiry, -, retired, -, insert⟩
  · obtain ⟨stored, -⟩ := findLive_eq_some live
    exact ⟨⟨c, stored, rfl, rfl⟩, .inl rfl⟩
  · obtain ⟨r, admitted, sealed, digest, target⟩ := insertRequest_sealed insert frozen
    have whole := admitted.of_records (checkRetiredKey_frame retired) (.refl _)
    exact ⟨⟨r.command, whole.find?_self, digest, target⟩, .inr ⟨_, r, whole, sealed⟩⟩

theorem admitNewDownlink_sealed {capacity ordinal : ℕ} {request : DownlinkRequest}
    {admission : AdmissionResult}
    (done : l.admitNewDownlink capacity request ordinal now = .ok (admission, l'))
    (frozen : request.semantic.Frozen) :
    Returns l' admission ∧
      (l' = l ∨ ∃ k r, Admitted l l' k r ∧ r.command.Sealed k) := by
  obtain ⟨metadata, expiry, inserted, -, -, insert, record⟩ := admitNewDownlink_inserts done
  obtain ⟨r, admitted, sealed, digest, target⟩ := insertRequest_sealed insert frozen
  have whole := admitted.of_records (.refl _) (insertDownlink_frame record)
  exact ⟨⟨r.command, whole.find?_self, digest, target⟩, .inr ⟨_, r, whole, sealed⟩⟩

/-- A downlink admission too. -/
theorem admitProductDownlink_sealed {capacity : ℕ} {request : DownlinkRequest}
    {admission : AdmissionResult}
    (done : l.admitProductDownlink capacity request now = .ok (admission, l'))
    (frozen : request.semantic.Frozen) :
    Returns l' admission ∧
      (l' = l ∨ ∃ k r, Admitted l l' k r ∧ r.command.Sealed k) := by
  unfold admitProductDownlink at done
  split at done
  · cases done
  split at done
  · exact admitNewDownlink_sealed done frozen
  split at done
  · rename_i command _
    split at done
    · cases done
      exact ⟨⟨_, command, rfl, rfl⟩, .inl rfl⟩
    · exact admitNewDownlink_sealed done frozen
  · exact admitNewDownlink_sealed done frozen

/-- A stored command was stored before, or is sealed. -/
theorem transact_sealed {value : LedgerResult} (done : l.transact cfg now op = .ok (value, l'))
    (sound : l.Sound) (frozen : op.Frozen) {r : Request} (absent : l.request? key = none)
    (present : l'.request? key = some r) : r.command.Sealed key := by
  have new (ways : l' = l ∨ ∃ k r, Admitted l l' k r ∧ r.command.Sealed k) :
      r.command.Sealed key := by
    rcases ways with rfl | ⟨k, r', admitted, sealed⟩
    · rw [absent] at present
      cases present
    · rw [admitted.eq_of_new absent present]
      by_cases same : key = k
      · rw [same]
        exact sealed
      · have stored := (request?_eq_some_iff.mp present).1
        have row := (request?_eq_some_iff.mp present).2
        rw [admitted.commands, if_neg same] at stored
        rw [admitted.outbox, if_neg same] at row
        rw [request?_eq_some_iff.mpr ⟨stored, row⟩] at absent
        cases absent
  have cannot (keys : SameKeys l l') : False := by
    have same : (l'.request? key).isSome = (l.request? key).isSome := by
      rw [request?_isSome, request?_isSome, keys.commands, keys.outbox]
    rw [absent, present] at same
    cases same
  cases op with
  | admitCommand request =>
      obtain ⟨_, done, -⟩ := yields_eq_ok done
      exact new (admitCommand_sealed done (frozen _ rfl)).2
  | admitProductDownlink request =>
      obtain ⟨_, done, -⟩ := yields_eq_ok done
      exact new (admitProductDownlink_sealed done (frozen _ rfl)).2
  | _ => exact (cannot (transact_sameKeys done sound rfl)).elim

/-- A stored command stays, with its contents. -/
theorem Change.keeps {result : Raises LedgerResult} (change : Change cfg l now op result l')
    (sound : l.Sound) {c : CommandRow} (stored : l.commands.find? key = some c) :
    ∃ c', l'.commands.find? key = some c' ∧ c'.contents = c.contents := by
  obtain ⟨o, here⟩ := sound.request?_of_command stored
  obtain ⟨r', moved, step⟩ := change.requests key _ here
  exact ⟨r'.command, (request?_eq_some_iff.mp moved).1, step.contents_eq⟩

/-! ## Claims and attempts -/

/-- The command of a granted lease is the stored one, read from its body. -/
theorem claim_command {policy : OutboxPolicy} {key? : Option RequestKey}
    {binding? : Option LinkBinding} {owner : String} {lease : OutboxLease}
    (done : l.claim policy key? binding? owner now = .ok (some lease, l')) :
    ∃ c o payload, l.commands.find? lease.requestKey = some c ∧
      l.outbox.find? lease.requestKey = some o ∧ payloadOfBody c.semanticBodyJcs = .ok payload ∧
      lease.command = ⟨c.opcode, o.targetSpacecraftInstanceId, lease.requestKey, payload⟩ := by
  unfold claim at done
  split at done
  · cases done
  rename_i key o due
  split at done
  · rename_i c s command _
    obtain ⟨leased, update, done⟩ := bind_eq_ok_iff.mp done
    obtain ⟨payload, read, done⟩ := bind_eq_ok_iff.mp done
    cases done
    exact ⟨c, o, payload, command, (dueRow_eq_some due).1, read, rfl⟩
  · cases done

/-- A granted lease carries the sealed command. -/
theorem claim_seals {policy : OutboxPolicy} {key? : Option RequestKey}
    {binding? : Option LinkBinding} {owner : String} {lease : OutboxLease}
    (done : l.claim policy key? binding? owner now = .ok (some lease, l')) (sound : l.Sound)
    (sealed : ∀ k c, l.commands.find? k = some c → c.Sealed k) :
    ∃ c, l.commands.find? lease.requestKey = some c ∧
      c.Seals lease.requestKey lease.command := by
  obtain ⟨c, o, payload, stored, row, read, same⟩ := claim_command done
  have target := (sound.consistent _ ⟨c, o⟩ (request?_eq_some_iff.mpr ⟨stored, row⟩)).target
  obtain ⟨payload', read', seals⟩ := sealed _ c stored
  obtain rfl : payload = payload' := Except.ok.inj (read.symm.trans read')
  refine ⟨c, stored, ?_⟩
  rw [same]
  show c.Seals lease.requestKey ⟨c.opcode, (Request.mk c o).outbox.targetSpacecraftInstanceId,
    lease.requestKey, payload⟩
  rw [target]
  exact seals

end Ledger

/-- A command is decoded as one with the same opcode, target, key, arguments and digest. -/
theorem decodeCommand_seals {c : CommandRow} {key : RequestKey} {command : Command} {data : Bytes}
    (seals : c.Seals key command) (written : encodeCommand command = .ok data) :
    ∃ command', decodeCommand data = .ok command' ∧ c.Seals key command' := by
  obtain ⟨payload, writtenPayload, same⟩ := encodeCommand_eq_ok.mp written
  obtain ⟨payload', read, -⟩ := decodePayload_of_encodePayload writtenPayload
  have decoded : decodeCommand data =
      .ok ⟨command.opcode, command.target, command.requestKey, payload'⟩ :=
    decodeCommand_eq_ok.mpr ⟨payload, read, same.symm⟩
  have written' := encodeCommand_of_decodeCommand decoded
  refine ⟨_, decoded, seals.opcode, seals.target, seals.requestKey, ?_, ?_⟩
  · obtain ⟨arguments, encoded, first⟩ := bind_eq_ok_iff.mp written
    obtain ⟨arguments', encoded', second⟩ := bind_eq_ok_iff.mp written'
    have sameArguments : arguments' = arguments :=
      List.append_cancel_left ((Except.ok.inj second).trans (Except.ok.inj first).symm)
    rw [encoded', sameArguments, ← encoded]
    exact seals.arguments
  · have digest := seals.digest
    have preimages := (missionPreimage_eq_iff written written').mpr rfl
    unfold missionDigest at digest ⊢
    rw [← preimages]
    exact digest

/-- The wire profile and the mission profile of the satellite agree. -/
def TcWireProfile.tcProfile (profile : TcWireProfile) : TcProfile where
  spacecraftId := profile.spacecraftId
  tcVirtualChannel := profile.virtualChannelId
  tcApid := profile.tcApid

/-- What the frame of an attempt says. -/
structure CarriesCommand (profile : TcWireProfile) (attempt : AttemptRecord) (command : Command) :
    Prop where
  handled : profile.tcProfile.dispatchTcFrame attempt.encodedTc = .ok (.command command)
  frame : ∃ f, TcTypeBdFrame.decode attempt.encodedTc = .ok f ∧
    f.packet.apid = attempt.apid ∧ f.packet.sequenceCount = attempt.packetSequence ∧
    f.sequenceNumber = attempt.frameSequence

/-- An encoded command is handled by the satellite, under the numbers it was encoded with. -/
theorem TcWireProfile.handled_of_encode {profile : TcWireProfile} {c : CommandRow}
    {key : RequestKey} {command : Command} {packetSequence frameSequence : ℕ} {data : Bytes}
    (seals : c.Seals key command)
    (encoded : profile.encode command packetSequence frameSequence = .ok data) :
    ∃ command', c.Seals key command' ∧
      profile.tcProfile.dispatchTcFrame data = .ok (.command command') ∧
      ∃ f, TcTypeBdFrame.decode data = .ok f ∧ f.packet.apid = profile.tcApid ∧
        f.packet.sequenceCount = packetSequence ∧ f.sequenceNumber = frameSequence := by
  obtain ⟨payload, written, encoded⟩ := bind_eq_ok_iff.mp encoded
  obtain ⟨packet, made, framed⟩ := bind_eq_ok_iff.mp encoded
  obtain ⟨command', read, seals'⟩ := decodeCommand_seals seals written
  have fields : packet.apid = profile.tcApid ∧ packet.sequenceCount = packetSequence ∧
      packet.payload = payload ∧ packet.packetType = 1 ∧
      packet.secondaryHeaderPresent = false ∧ packet.sequenceFlags = 3 := by
    unfold SpacePacket.new at made
    repeat' split at made
    all_goals first
      | cases made
        exact ⟨rfl, rfl, rfl, rfl, rfl, rfl⟩
      | cases made
  obtain ⟨apid, count, inside, packetType, header, flags⟩ := fields
  have handled := TcProfile.dispatchTcFrame_of_encode framed packetType header flags
    (inside ▸ read)
  refine ⟨command', seals', ?_, _, TcTypeBdFrame.decode_encode framed, apid, count, rfl⟩
  rw [← handled, tcProfile, apid]

namespace Ledger

variable {cfg : LedgerConfig} {l l' : Ledger} {now : ℕ}

/-- **An attempt carries the command of its lease.** -/
theorem prepareAttempt_carries {policy : OutboxPolicy} {lease : OutboxLease}
    {profile : TcWireProfile} {binding? : Option LinkBinding} {attempt : AttemptRecord}
    {c : CommandRow} (seals : c.Seals lease.requestKey lease.command)
    (done : l.prepareAttempt policy lease profile binding? now = .ok (attempt, l')) :
    attempt.requestKey = lease.requestKey ∧
      ∃ command, c.Seals attempt.requestKey command ∧ CarriesCommand profile attempt command := by
  unfold prepareAttempt at done
  split at done
  · cases done
  obtain ⟨o, -, done⟩ := bind_eq_ok_iff.mp done
  obtain ⟨allocation, allocated, done⟩ := bind_eq_ok_iff.mp done
  obtain ⟨encodedTc, encoded, done⟩ := bind_eq_ok_iff.mp done
  obtain ⟨inserted, insert, done⟩ := bind_eq_ok_iff.mp done
  split at done
  · cases done
  cases done
  obtain ⟨command, seals', handled, f, decoded, apid, count, number⟩ :=
    TcWireProfile.handled_of_encode seals encoded
  exact ⟨rfl, command, seals', handled, f, decoded, apid, count, number⟩

end Ledger

/-! ## Runs -/

/-- The admission a transaction returned. -/
def admissionReturned : Raises LedgerResult → Option AdmissionResult
  | .ok (.admission result) => some result
  | _ => none

/-- What holds along a run with frozen admissions. -/
structure SealedRun (l : Ledger) (log : List ((ℕ × LedgerOp) × Raises LedgerResult)) : Prop where
  sound : l.Sound
  commands : ∀ k c, l.commands.find? k = some c → c.Sealed k
  leases : ∀ entry ∈ log, ∀ lease, leaseOf entry.2 = some lease →
    ∃ c, l.commands.find? lease.requestKey = some c ∧ c.Seals lease.requestKey lease.command
  admissions : ∀ entry ∈ log, ∀ admission, admissionReturned entry.2 = some admission →
    Ledger.Returns l admission

namespace SealedRun

variable {cfg : LedgerConfig} {l : Ledger}
  {log : List ((ℕ × LedgerOp) × Raises LedgerResult)}

/-- A lease that a transaction returns carries a stored command. -/
theorem lease_of_transact {now : ℕ} {op : LedgerOp} {value : LedgerResult} {l' : Ledger}
    {lease : OutboxLease} (done : l.transact cfg now op = .ok (value, l'))
    (granted : leaseOf (.ok value) = some lease) (sound : l.Sound)
    (sealed : ∀ k c, l.commands.find? k = some c → c.Sealed k) :
    ∃ c, l.commands.find? lease.requestKey = some c ∧
      c.Seals lease.requestKey lease.command := by
  have isLease : value = .lease (some lease) := by
    cases value with
    | lease lease? =>
        obtain rfl : lease? = some lease := granted
        rfl
    | _ => cases granted
  rw [isLease] at done
  obtain ⟨key?, binding?, owner, -, claimed⟩ := Ledger.claim_of_transact done
  exact Ledger.claim_seals claimed sound sealed

/-- An admission that a transaction returns is of a stored command. -/
theorem admission_of_transact {now : ℕ} {op : LedgerOp} {value : LedgerResult} {l' : Ledger}
    {admission : AdmissionResult} (done : l.transact cfg now op = .ok (value, l'))
    (returned : admissionReturned (.ok value) = some admission) (frozen : op.Frozen) :
    Ledger.Returns l' admission := by
  cases op with
  | admitCommand request =>
      obtain ⟨_, done, rfl⟩ := Ledger.yields_eq_ok done
      cases returned
      exact (Ledger.admitCommand_sealed done (frozen _ rfl)).1
  | admitProductDownlink request =>
      obtain ⟨_, done, rfl⟩ := Ledger.yields_eq_ok done
      cases returned
      exact (Ledger.admitProductDownlink_sealed done (frozen _ rfl)).1
  | markSent lease attempt =>
      change Ledger.yields (fun _ => .done) (l.markSent cfg.policy lease attempt now) = _ at done
      obtain ⟨_, -, rfl⟩ := Ledger.yields_eq_ok done
      cases returned
  | markNotSent lease attempt reason =>
      change Ledger.yields (fun _ => .done) (l.markNotSent lease attempt reason now) = _ at done
      obtain ⟨_, -, rfl⟩ := Ledger.yields_eq_ok done
      cases returned
  | _ =>
      obtain ⟨_, -, rfl⟩ := Ledger.yields_eq_ok done
      cases returned

/-- One step of a run. -/
theorem step (run : SealedRun l log) (input : ℕ × LedgerOp) (frozen : input.2.Frozen) :
    SealedRun ((gdsMachine cfg).step l input).1
      (log ++ [(input, ((gdsMachine cfg).step l input).2)]) := by
  have change := gdsMachine_change cfg run.sound input
  have keeps {k : RequestKey} {c : CommandRow} (stored : l.commands.find? k = some c) :=
    change.keeps run.sound stored
  refine ⟨change.sound run.sound, fun k c' stored => ?_, fun entry mem lease granted => ?_,
    fun entry mem admission returned => ?_⟩
  · cases here : l.request? k with
    | some r =>
        obtain ⟨c, found, same⟩ := keeps (Ledger.request?_eq_some_iff.mp here).1
        obtain rfl : c = c' := Option.some.inj (found.symm.trans stored)
        exact (run.commands k _ (Ledger.request?_eq_some_iff.mp here).1).of_contents same
    | none =>
        obtain ⟨o, present⟩ := (change.sound run.sound).request?_of_command stored
        rcases gdsMachine_step cfg l input with ⟨value, l', done, stepped⟩ | ⟨_, -, stepped⟩
        · rw [stepped] at present
          exact Ledger.transact_sealed done run.sound frozen here present
        · rw [stepped, here] at present
          cases present
  · have before : ∃ c, l.commands.find? lease.requestKey = some c ∧
        c.Seals lease.requestKey lease.command := by
      rcases List.mem_append.mp mem with earlier | now
      · exact run.leases entry earlier lease granted
      obtain rfl := List.mem_singleton.mp now
      rcases gdsMachine_step cfg l input with ⟨value, l', done, stepped⟩ | ⟨_, -, stepped⟩
      · rw [stepped] at granted
        exact lease_of_transact done granted run.sound run.commands
      · rw [stepped] at granted
        cases granted
    obtain ⟨c, stored, seals⟩ := before
    obtain ⟨c', stored', same⟩ := keeps stored
    exact ⟨c', stored', seals.of_contents same⟩
  · rcases List.mem_append.mp mem with earlier | now
    · obtain ⟨c, stored, digest, target⟩ := (run.admissions entry earlier admission returned).stored
      obtain ⟨c', stored', same⟩ := keeps stored
      simp only [CommandRow.contents, Prod.mk.injEq] at same
      exact ⟨c', stored', digest.trans same.2.2.2.2.symm, target.trans same.2.1.symm⟩
    · obtain rfl := List.mem_singleton.mp now
      rcases gdsMachine_step cfg l input with ⟨value, l', done, stepped⟩ | ⟨_, -, stepped⟩
      · rw [stepped] at returned ⊢
        exact admission_of_transact done returned frozen
      · rw [stepped] at returned
        cases returned

end SealedRun

theorem sealedRun_of_unused (cfg : LedgerConfig) {start : Ledger} (unused : start.Unused)
    (inputs : List (ℕ × LedgerOp)) (frozen : ∀ input ∈ inputs, input.2.Frozen) :
    SealedRun ((gdsMachine cfg).exec start inputs) ((gdsMachine cfg).log start inputs) := by
  have holds := (gdsMachine cfg).run_invariant (s := start)
    (fun l log => (∀ entry ∈ log, entry.1.2.Frozen) → SealedRun l log) (fun _ =>
      { sound := unused.sound
        commands := fun k c stored => by
          rw [unused.commands] at stored
          cases stored
        leases := fun _ mem => by cases mem
        admissions := fun _ mem => by cases mem })
    (fun l log input run frozen => (run fun entry mem =>
      frozen entry (List.mem_append_left _ mem)).step input
        (frozen (input, _) (List.mem_append_right _ (List.mem_singleton_self _)))) inputs
  refine holds fun entry mem => frozen entry.1 ?_
  rw [← (gdsMachine cfg).log_map_fst start inputs]
  exact List.mem_map_of_mem mem

/-- **What is sent up is what was admitted.**  In every run of the ledger whose admissions
carry bodies as `build_semantic_idempotency` makes them, an attempt prepared with a lease
that a claim of the run granted is a TC frame which the satellite of that profile decodes,
routes and hands on as a command: one with the key, target, opcode and argument bytes that
are stored for the request and the digest that every admission of the request returned.  The
frame has the APID, packet count and frame number recorded with the attempt. -/
theorem attempt_carries_admitted (cfg : LedgerConfig) {start : Ledger} (unused : start.Unused)
    {inputs : List (ℕ × LedgerOp)} (frozen : ∀ input ∈ inputs, input.2.Frozen)
    {lease : OutboxLease}
    (granted : ∃ entry ∈ (gdsMachine cfg).log start inputs, leaseOf entry.2 = some lease)
    {now : ℕ} {profile : TcWireProfile} {binding? : Option LinkBinding} {attempt : AttemptRecord}
    (prepared : ((gdsMachine cfg).step ((gdsMachine cfg).exec start inputs)
      (now, .prepareAttempt lease profile binding?)).2 = .ok (.attempt attempt)) :
    ∃ command c, ((gdsMachine cfg).exec start inputs).commands.find? attempt.requestKey = some c ∧
      c.Seals attempt.requestKey command ∧ CarriesCommand profile attempt command ∧
      ∀ entry ∈ (gdsMachine cfg).log start inputs, ∀ admission,
        admissionReturned entry.2 = some admission → admission.requestKey = attempt.requestKey →
          missionDigest command = .ok admission.missionDigestHex ∧
            command.target = admission.targetSpacecraftInstanceId := by
  have run := sealedRun_of_unused cfg unused inputs frozen
  obtain ⟨entry, mem, ofClaim⟩ := granted
  obtain ⟨c, stored, seals⟩ := run.leases entry mem lease ofClaim
  rcases gdsMachine_step cfg ((gdsMachine cfg).exec start inputs)
    (now, .prepareAttempt lease profile binding?) with ⟨value, l', done, stepped⟩ | ⟨_, -, stepped⟩
  · rw [stepped] at prepared
    obtain ⟨record, done, same⟩ := Ledger.yields_eq_ok done
    obtain rfl : record = attempt :=
      LedgerResult.attempt.inj (same.symm.trans (Except.ok.inj prepared))
    obtain ⟨sameKey, command, seals', carries⟩ := Ledger.prepareAttempt_carries seals done
    refine ⟨command, c, sameKey ▸ stored, seals', carries, fun entry mem admission returned key => ?_⟩
    obtain ⟨c', stored', digest, target⟩ := (run.admissions entry mem admission returned).stored
    rw [key, sameKey, stored] at stored'
    obtain rfl := Option.some.inj stored'
    exact ⟨digest ▸ seals'.digest, target ▸ seals'.target⟩
  · rw [stepped] at prepared
    cases prepared

/-- The attempt a transaction returned. -/
def attemptOf : Raises LedgerResult → Option AttemptRecord
  | .ok (.attempt attempt) => some attempt
  | _ => none

theorem attemptOf_eq_some {result : Raises LedgerResult} {attempt : AttemptRecord}
    (returned : attemptOf result = some attempt) : result = .ok (.attempt attempt) := by
  cases result with
  | error failure => cases returned
  | ok value =>
      cases value with
      | attempt other =>
          cases returned
          rfl
      | _ => cases returned

theorem sceneRequest_frozen : sceneRequest.semantic.Frozen := by
  have read : (Ledger.payloadOfBody sceneBody).toOption.map List.length = some 0 := by
    decide +kernel
  cases payload : Ledger.payloadOfBody sceneBody with
  | error failure =>
      rw [payload] at read
      cases read
  | ok entries =>
      rw [payload] at read
      rw [SemanticIdempotency.Frozen, sceneRequest, payload,
        List.length_eq_zero_iff.mp (Option.some.inj read)]

/-- A run that admits and claims the request for the scene catalogue, and an attempt. -/
theorem attempt_carries_admitted_scene : ∃ attempt command c,
    ((gdsMachine ⟨defaultOutboxPolicy, 16⟩).exec .migrated
      (firstClaim "dispatcher")).commands.find? attempt.requestKey = some c ∧
    c.Seals attempt.requestKey command ∧ CarriesCommand sceneProfile attempt command := by
  have frozen : ∀ input ∈ firstClaim "dispatcher", input.2.Frozen := by
    intro input mem s admits
    simp only [firstClaim, openingInputs, List.cons_append, List.nil_append, List.mem_cons,
      List.not_mem_nil, or_false] at mem
    rcases mem with rfl | rfl | rfl | rfl
    · cases admits
    · cases admits
    · cases admits
      exact sceneRequest_frozen
    · cases admits
  have run : (grantedLeases .migrated (firstClaim "dispatcher")).any (fun lease =>
      (attemptOf ((gdsMachine ⟨defaultOutboxPolicy, 16⟩).step
        ((gdsMachine ⟨defaultOutboxPolicy, 16⟩).exec .migrated (firstClaim "dispatcher"))
        (1100000, .prepareAttempt lease sceneProfile none)).2).isSome) = true := by
    decide +kernel
  obtain ⟨lease, granted, found⟩ := List.any_eq_true.mp run
  obtain ⟨attempt, returned⟩ := Option.isSome_iff_exists.mp found
  obtain ⟨command, c, stored, seals, carries, -⟩ := attempt_carries_admitted
    ⟨defaultOutboxPolicy, 16⟩ Ledger.unused_migrated frozen (mem_grantedLeases.mp granted)
    (attemptOf_eq_some returned)
  exact ⟨attempt, command, c, stored, seals, carries⟩

/-! ## Requests that have ended -/

/-- What a run makes of a request: what is stored of its command and its terms stay, attempts are
only added, and once it has ended it stays as it is. -/
structure Request.Continues (r r' : Request) : Prop where
  contents : r'.command.contents = r.command.contents
  terms : r.outbox.SameTerms r'.outbox
  attempts : r.outbox.attemptCount ≤ r'.outbox.attemptCount
  settled : r.outbox.state.nonterminal = false → r' = r

theorem Request.Continues.refl (r : Request) : r.Continues r := ⟨rfl, ⟨rfl, rfl⟩, le_rfl, fun _ => rfl⟩

theorem Request.Continues.trans {r r' r'' : Request} (first : r.Continues r')
    (second : r'.Continues r'') : r.Continues r'' where
  contents := second.contents.trans first.contents
  terms := ⟨second.terms.target.trans first.terms.target,
    second.terms.expiry.trans first.terms.expiry⟩
  attempts := first.attempts.trans second.attempts
  settled ended := by
    obtain rfl := first.settled ended
    exact second.settled ended

/-- One transaction moves a request only while it has not ended. -/
theorem RequestStep.continues {cfg : LedgerConfig} {l : Ledger} {now : ℕ} {op : LedgerOp}
    {result : Raises LedgerResult} {key : RequestKey} {r r' : Request}
    (step : RequestStep cfg l now op result key r r') : r.Continues r' := by
  have moves {c : CommandRow} {o : OutboxRow} (open_ : r.outbox.state.nonterminal = true)
      (contents : c.contents = r.command.contents) (terms : r.outbox.SameTerms o)
      (attempts : r.outbox.attemptCount ≤ o.attemptCount) : r.Continues ⟨c, o⟩ :=
    ⟨contents, terms, attempts, fun ended => by
      rw [open_] at ended
      cases ended⟩
  cases step with
  | idle => exact .refl r
  | deadline sent terms _ attempts => exact moves (by rw [sent]; rfl) rfl terms attempts.ge
  | waits nonterminal terms _ attempts => exact moves nonterminal rfl terms attempts.ge
  | fails nonterminal terms _ attempts => exact moves nonterminal rfl terms attempts.ge
  | claimed _ _ pending terms _ attempts =>
      exact moves (by rw [pending]; rfl) rfl terms attempts.ge
  | counted dispatching terms _ _ attempts =>
      exact moves (by rw [dispatching]; rfl) rfl terms (attempts ▸ Nat.le_succ _)
  | sent _ _ held terms _ attempts =>
      exact moves (by rw [(Ledger.heldBy_iff.mp held).1]; rfl) rfl terms attempts.ge
  | acked nonterminal terms _ attempts => exact moves nonterminal rfl terms attempts.ge

/-- **A request that has ended is never touched again.**  Whatever transactions follow, a stored
request stays stored, with its command's opcode, target, body, arguments and digest and with its
expiry; its count of attempts never goes back; and once it is acknowledged, expired or failed,
both of its rows stay exactly as they are. -/
theorem request_settled (cfg : LedgerConfig) {l : Ledger} (sound : l.Sound) {key : RequestKey}
    {r : Request} (stored : l.request? key = some r) (inputs : List (ℕ × LedgerOp)) :
    ∃ r', ((gdsMachine cfg).exec l inputs).request? key = some r' ∧ r.Continues r' := by
  induction inputs generalizing l r with
  | nil => exact ⟨r, stored, .refl r⟩
  | cons input rest ih =>
      have change := gdsMachine_change cfg sound input
      obtain ⟨r', moved, step⟩ := change.requests key r stored
      obtain ⟨r'', later, continues⟩ := ih (change.sound sound) moved
      exact ⟨r'', later, step.continues.trans continues⟩

theorem request_settled_firstClaim : ∃ key r r',
    ((gdsMachine ⟨defaultOutboxPolicy, 16⟩).exec .migrated
      (firstClaim "dispatcher")).request? key = some r ∧
    ((gdsMachine ⟨defaultOutboxPolicy, 16⟩).exec ((gdsMachine ⟨defaultOutboxPolicy, 16⟩).exec
      .migrated (firstClaim "dispatcher")) (secondClaim "dispatcher")).request? key = some r' ∧
    r.Continues r' := by
  have sound := ((gdsMachine ⟨defaultOutboxPolicy, 16⟩).exec_invariant Ledger.Sound
    Ledger.unused_migrated.sound
    fun l input sound => (gdsMachine_change _ sound input).sound sound) (firstClaim "dispatcher")
  have known : (((gdsMachine ⟨defaultOutboxPolicy, 16⟩).exec .migrated
      (firstClaim "dispatcher")).commands.rows.any fun row =>
        (((gdsMachine ⟨defaultOutboxPolicy, 16⟩).exec .migrated
          (firstClaim "dispatcher")).request? row.1).isSome) = true := by
    decide +kernel
  obtain ⟨⟨key, c⟩, -, found⟩ := List.any_eq_true.mp known
  obtain ⟨r, stored⟩ := Option.isSome_iff_exists.mp found
  obtain ⟨r', later, continues⟩ := request_settled ⟨defaultOutboxPolicy, 16⟩ sound stored
    (secondClaim "dispatcher")
  exact ⟨key, r, r', stored, later, continues⟩

end CubeNano

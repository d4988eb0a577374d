import CubeNano.Gds.LedgerEntries

/-!
# Commands and outbox rows in step

Whatever transactions run, at whatever times, every command keeps exactly one outbox
row; the states of the two agree, only a leased row has an owner, and a request that
has ended stays as it is.

## Main definitions

* `Ledger.InStep` — commands and outbox rows of one ledger agree
* `openingInputs`, `sceneLease`, `sceneAttempt` — a request for concrete runs

## Main statements

* `RequestStep.eq_of_terminal` — a step leaves a request that has ended alone
* `ledger_inStep` — the agreement in every reachable state, and rows that have ended
  stay as they are
-/

namespace CubeNano

/-! ## The agreement -/

/-- Every command has one outbox row, every outbox row a command, and the two agree. -/
structure Ledger.InStep (l : Ledger) : Prop where
  oneRow : ∀ k c, l.commands.find? k = some c →
    ∃ o, l.outbox.rows.filter (fun row => row.1 = k) = [(k, o)]
  ofCommand : ∀ k o, l.outbox.find? k = some o → ∃ c, l.commands.find? k = some c
  admitted_iff : ∀ k c o, l.commands.find? k = some c → l.outbox.find? k = some o →
    (o.state.nonterminal = true ↔ c.commandState = .admitted)
  acked_iff : ∀ k c o, l.commands.find? k = some c → l.outbox.find? k = some o →
    (o.state = .acked ↔ c.commandState = .acked)
  failed_iff : ∀ k c o, l.commands.find? k = some c → l.outbox.find? k = some o →
    (o.state = .expired ∨ o.state = .deliveryFailed ↔ c.commandState = .failed)
  leased_iff : ∀ k o, l.outbox.find? k = some o →
    (o.leaseOwner.isSome = true ↔ o.state = .dispatching)

/-- The rows of a sound ledger are in step. -/
theorem Ledger.Sound.inStep {l : Ledger} (sound : l.Sound) : l.InStep := by
  have both (k : RequestKey) (c : CommandRow) (o : OutboxRow)
      (command : l.commands.find? k = some c) (outbox : l.outbox.find? k = some o) :
      (⟨c, o⟩ : Request).Consistent :=
    sound.consistent k ⟨c, o⟩ (request?_eq_some_iff.mpr ⟨command, outbox⟩)
  have commandOf (k : RequestKey) (o : OutboxRow) (outbox : l.outbox.find? k = some o) :
      ∃ c, l.commands.find? k = some c := by
    obtain ⟨c, here⟩ := sound.request?_of_outbox outbox
    exact ⟨c, (request?_eq_some_iff.mp here).1⟩
  refine ⟨fun k c command => ?_, commandOf, fun k c o command outbox => ?_,
    fun k c o command outbox => ?_, fun k c o command outbox => ?_, fun k o outbox => ?_⟩
  · have stored : (l.outbox.find? k).isSome = true := by
      rw [← sound.paired, command]
      rfl
    obtain ⟨o, outbox⟩ := Option.isSome_iff_exists.mp stored
    exact ⟨o, Table.filter_key_eq_singleton outbox⟩
  · exact (both k c o command outbox).admitted_iff
  · exact (both k c o command outbox).acked_iff
  · exact (both k c o command outbox).failed_iff
  · obtain ⟨c, command⟩ := commandOf k o outbox
    exact (both k c o command outbox).leased_iff

/-- A step leaves a request that has ended alone. -/
theorem RequestStep.eq_of_terminal {cfg : LedgerConfig} {l : Ledger} {now : ℕ} {op : LedgerOp}
    {result : Raises LedgerResult} {key : RequestKey} {r r' : Request}
    (step : RequestStep cfg l now op result key r r')
    (ended : r.outbox.state.nonterminal = false) : r' = r := by
  have alive {s : OutboxState} (state : r.outbox.state = s) (nonterminal : s.nonterminal = true) :
      False := by
    rw [state, nonterminal] at ended
    cases ended
  have nonterminal (still : r.outbox.state.nonterminal = true) : False := alive rfl still
  cases step with
  | idle => rfl
  | deadline sent => exact (alive sent rfl).elim
  | waits still => exact (nonterminal still).elim
  | fails still => exact (nonterminal still).elim
  | claimed granted ofKey pending => exact (alive pending rfl).elim
  | counted dispatching => exact (alive dispatching rfl).elim
  | sent marks ofKey held => exact (alive (Ledger.heldBy_iff.mp held).1 rfl).elim
  | acked still => exact (nonterminal still).elim

/-- **Commands and outbox rows in step.**  In every state any transactions reach from
a database without commands, commands and outbox rows agree, and a row that has ended
is the same after any further transactions. -/
theorem ledger_inStep (cfg : LedgerConfig) {start : Ledger} (unused : start.Unused)
    (inputs : List (ℕ × LedgerOp)) :
    ((gdsMachine cfg).exec start inputs).InStep ∧
      ∀ k o, ((gdsMachine cfg).exec start inputs).outbox.find? k = some o →
        o.state.nonterminal = false → ∀ later,
          ((gdsMachine cfg).exec start (inputs ++ later)).outbox.find? k = some o := by
  have sound := (requestEntries cfg).sound_exec unused.sound inputs
  refine ⟨sound.inStep, fun k o outbox ended later => ?_⟩
  obtain ⟨c, command⟩ := sound.inStep.ofCommand k o outbox
  have here : ((gdsMachine cfg).exec start inputs).request? k = some ⟨c, o⟩ :=
    Ledger.request?_eq_some_iff.mpr ⟨command, outbox⟩
  obtain ⟨r', found, kept⟩ := (requestEntries cfg).evolves
    (fun r r' => r.outbox.state.nonterminal = false → r' = r) (fun _ _ => True)
    (fun _ _ => rfl)
    (fun r r' r'' first second terminal => by
      obtain rfl := first terminal
      exact second terminal)
    (fun _ _ _ _ _ _ _ step terminal => step.eq_of_terminal terminal) sound here later
    (Machine.allSteps_of_forall (fun _ _ => trivial) _ _)
  obtain rfl := kept ended
  rw [Machine.exec_append]
  exact (Ledger.request?_eq_some_iff.mp found).2

/-! ## A request for concrete runs -/

/-- A policy with a limit of attempts and the other defaults. -/
def policyWithLimit (maxAttempts : ℕ) (valid : 1 ≤ maxAttempts ∧ maxAttempts ≤ 0xFFFFFFFF) :
    OutboxPolicy :=
  { defaultOutboxPolicy with maxAttempts := maxAttempts, maxAttempts_valid := valid }

/-- The link of a spacecraft in contact. -/
def sceneLink : LinkBinding := ⟨1, 1, 1, .contactOpen⟩

/-- The semantic body of the request. -/
def sceneBody : Bytes :=
  asciiBytes (Text.ofString ("\x7b\"delivery_mode\":\"immediate\",\"expires_at\":\"1970-01-01T00:01:00Z\"," ++
    "\"opcode\":65538,\"payload\":\x7b\x7d," ++
      "\"target_spacecraft_instance_id\":\"0000000000000001\"\x7d"))

/-- A request for the scene catalogue that expires after one minute. -/
def sceneRequest : AdmitRequest where
  idempotencyKey := "scene-catalog"
  principal := "operator"
  semantic := ⟨[], .immediate, some 60000000, sceneBody, sha256 sceneBody⟩
  targetSpacecraftInstanceId := 1
  opcode := .sceneRequestCatalog
  contactAvailable := true
  preAdmissionCheck := .ok ()
  draws := fun _ => 13

/-- The key the request gets. -/
def sceneKey : RequestKey := ⟨12, 1⟩

/-- The command of the request. -/
def sceneCommand : Command := ⟨.sceneRequestCatalog, 1, sceneKey, []⟩

/-- Namespace, link and request. -/
def openingInputs : List (ℕ × LedgerOp) :=
  [(0, .initializeKeys fun i => if i = 0 then 11 else 12), (0, .bind sceneLink),
    (0, .admitCommand sceneRequest)]

/-- The lease of a claim of the request. -/
def sceneLease (owner : String) (claimedAt attemptCount : ℕ) : OutboxLease where
  requestKey := sceneKey
  targetSpacecraftInstanceId := 1
  leaseOwner := owner
  leaseExpiresAtUs := claimedAt + 10000000
  effectiveExpiresAtUs := 60000000
  attemptCount := attemptCount
  opcode := .sceneRequestCatalog
  missionArguments := toBytesBE 8 1 ++ sceneKey.asWire
  command := sceneCommand
  binding := sceneLink

/-- The wire profile of its attempts. -/
def sceneProfile : TcWireProfile where
  profileId := "tc-type-bd"
  profileSha256 := "0000000000000000000000000000000000000000000000000000000000000000"
  spacecraftId := 1
  virtualChannelId := 1
  tcApid := 10
  profileId_nonempty := by decide
  sha256_length := by decide
  sha256_hex := by decide
  spacecraftId_le := by decide
  virtualChannelId_le := by decide
  tcApid_le := by decide

/-- The record of its attempt with a number; the frames are numbered from 0. -/
def sceneAttempt (number createdAt : ℕ) : AttemptRecord :=
  let encodedTc := (sceneProfile.encode sceneCommand (number - 1) (number - 1)).toOption.getD []
  { attemptId := number
    requestKey := sceneKey
    targetSpacecraftInstanceId := 1
    attemptNumber := number
    apid := 10
    packetSequence := number - 1
    sequenceEpoch := 0
    rollover := false
    linkGeneration := 1
    linkSessionId := 1
    encodedTc := encodedTc
    createdAtUs := createdAt
    frameSequence := number - 1
    tcProfileId := sceneProfile.profileId
    tcProfileSha256 := sceneProfile.profileSha256
    spacePacketType := 1
    spacePacketSequenceFlags := 3
    encodedTcSha256 := hexOfBytes (sha256 encodedTc) }

/-- The theorem applies to a request that is acknowledged after its first attempt. -/
theorem ledger_inStep_acked :
    ((gdsMachine ⟨defaultOutboxPolicy, 16⟩).exec .migrated (openingInputs ++
      [(1000000, .claim none none "dispatcher"),
        (1100000, .prepareAttempt (sceneLease "dispatcher" 1000000 0) sceneProfile none),
        (1200000, .markSent (sceneLease "dispatcher" 1000000 0) (sceneAttempt 1 1100000)),
        (2000000, .ingestAck sceneKey true none (some ⟨1, 1, 1⟩))])).InStep :=
  (ledger_inStep ⟨defaultOutboxPolicy, 16⟩ Ledger.unused_migrated _).1

end CubeNano

import CubeNano.Gds.KeyRegistry

/-!
# Admissions under idempotency keys

Within the retention period of an idempotency key, a second admission under it gets the
command of the first, or an exception: `IDEMPOTENCY_CONFLICT` when the bodies differ, and
`IDEMPOTENCY_KEY_RETIRED` when the command has been pruned.  Whatever else runs, and with
any clock, different keys get different commands.

## Main definitions

* `Ledger.Remembers` — a ledger knows the command of a marker, live or pruned
* `AdmitRequest.WithinRetention` — an admission comes before a marker has run out
* `Repeats` — what a second admission under a key gets

## Main statements

* `Ledger.KeyWay.remembers` — the ways of a transaction keep what is remembered
* `admissions_by_idempotencyKey` — repeated and different keys over all runs
-/

namespace CubeNano

/-- Same principal, same idempotency key. -/
def AdmitRequest.SameKey (a b : AdmitRequest) : Prop :=
  a.principal = b.principal ∧ a.idempotencyKey = b.idempotencyKey

/-- The digest is the one `build_semantic_idempotency` takes of the canonical body. -/
def SemanticIdempotency.Built (semantic : SemanticIdempotency) : Prop :=
  semantic.digest = sha256 semantic.canonicalJcs

/-- No admission under the key comes when the marker of the key has run out. -/
def AdmitRequest.WithinRetention (request : AdmitRequest) (l : Ledger)
    (input : ℕ × RetentionOp) : Prop :=
  ∀ other, input.2 = .ofAdmission other → request.SameKey other → ∀ epoch row,
    l.epoch? = some epoch →
      l.retiredKeys.find? (epoch, request.principal, request.idempotencyKey) = some row →
        input.1 < row.retainedUntilUs

namespace Ledger

variable {cfg : LedgerConfig} {l l' : Ledger} {now : ℕ} {key : RequestKey} {op : RetentionOp}

/-! ## Markers and commands -/

/-- A sound ledger with at most one command for each marker, all under issued keys. -/
structure Keyed (l : Ledger) : Prop where
  sound : l.Sound
  unique : ∀ k c k' c', l.commands.find? k = some c → l.commands.find? k' = some c' →
    c.marker = c'.marker → k = k'
  issued : ∀ k c, l.commands.find? k = some c → l.Issued k

theorem Unused.keyed (unused : l.Unused) : l.Keyed := by
  have nothing (k : RequestKey) (c : CommandRow) : l.commands.find? k ≠ some c := by
    rw [unused.commands]
    exact fun stored => nomatch stored
  exact ⟨unused.sound, fun k c _ _ stored => absurd stored (nothing k c),
    fun k c stored => absurd stored (nothing k c)⟩

/-- A command after a transaction that keeps the keys was there before. -/
theorem KeepsKeys.before (keeps : KeepsKeys l l') {k : RequestKey} {c' : CommandRow}
    (stored : l'.commands.find? k = some c') :
    ∃ c, l.commands.find? k = some c ∧ c.identity = c'.identity := by
  have same := keeps.commands k
  rw [stored] at same
  exact Option.map_eq_some_iff.mp same.symm

/-- A command before a transaction that keeps the keys is there afterwards. -/
theorem KeepsKeys.after (keeps : KeepsKeys l l') {k : RequestKey} {c : CommandRow}
    (stored : l.commands.find? k = some c) :
    ∃ c', l'.commands.find? k = some c' ∧ c'.identity = c.identity := by
  have same := keeps.commands k
  rw [stored] at same
  exact Option.map_eq_some_iff.mp same

/-- The ways of a transaction keep a ledger keyed. -/
theorem KeyWay.keyed (way : KeyWay l l' now op) (sound : l'.Sound) (keyed : l.Keyed) :
    l'.Keyed := by
  cases way with
  | keeps keeps =>
      refine ⟨sound, fun k c k' c' stored stored' same => ?_, fun k c stored => ?_⟩
      · obtain ⟨d, before, identity⟩ := keeps.before stored
        obtain ⟨d', before', identity'⟩ := keeps.before stored'
        have marker : d.marker = c.marker := congrArg Prod.fst identity
        have marker' : d'.marker = c'.marker := congrArg Prod.fst identity'
        exact keyed.unique k d k' d' before before' (marker.trans (same.trans marker'.symm))
      · obtain ⟨d, before, -⟩ := keeps.before stored
        exact keeps.issued k (keyed.issued k d before)
  | admits request key new ofRequest principal idempotencyKey admits =>
      refine ⟨sound, fun k c k' c' stored stored' same => ?_, fun k c stored => ?_⟩
      · rw [admits.commands] at stored stored'
        split at stored
        · rename_i here
          split at stored'
          · rename_i here'
            exact here.trans here'.symm
          · cases stored
            exact absurd same.symm (admits.notLive k' c' stored')
        · split at stored'
          · cases stored'
            exact absurd same (admits.notLive k c stored)
          · exact keyed.unique k c k' c' stored stored' same
      · rw [admits.commands] at stored
        split at stored
        · rename_i here
          exact here ▸ admits.issuedNow
        · exact admits.issued k (keyed.issued k c stored)
  | retires key c retires =>
      have before {k : RequestKey} {d : CommandRow} (stored : l'.commands.find? k = some d) :
          l.commands.find? k = some d := by
        rw [retires.commands] at stored
        split at stored
        · cases stored
        · exact stored
      exact ⟨sound, fun k d k' d' stored stored' => keyed.unique k d k' d' (before stored)
        (before stored'), fun k d stored => retires.issued k (keyed.issued k d (before stored))⟩

/-- The command of a marker: stored, or pruned and known by the retained marker. -/
structure Remembers (l : Ledger) (marker : Marker) (key : RequestKey) (digest : Bytes) : Prop where
  epoch : l.epoch? = some marker.1
  issued : l.Issued key
  known : (∃ c, l.commands.find? key = some c ∧ c.identity = (marker, digest)) ∨
    (∃ retainedUntil, l.retiredKeys.find? marker = some ⟨digest, key, retainedUntil⟩) ∧
      l.commands.find? key = none ∧
        ∀ k c, l.commands.find? k = some c → c.marker ≠ marker

/-- **What is remembered stays.**  Within the retention period a transaction keeps what
is remembered of a marker. -/
theorem KeyWay.remembers {marker : Marker} {digest : Bytes} (way : KeyWay l l' now op)
    (keyed : l.Keyed) (remembers : l.Remembers marker key digest)
    (retained : ∀ request, op = .ofAdmission request → request.principal = marker.2.1 →
      request.idempotencyKey = marker.2.2 → ∀ row, l.retiredKeys.find? marker = some row →
        now < row.retainedUntilUs) :
    l'.Remembers marker key digest := by
  obtain ⟨epoch, issued, known⟩ := remembers
  cases way with
  | keeps keeps =>
      refine ⟨keeps.epoch _ epoch, keeps.issued key issued, ?_⟩
      rcases known with ⟨c, stored, identity⟩ | ⟨⟨retainedUntil, row⟩, pruned, noOther⟩
      · obtain ⟨c', after, same⟩ := keeps.after stored
        exact .inl ⟨c', after, same.trans identity⟩
      · refine .inr ⟨⟨retainedUntil, keeps.retiredKeys ▸ row⟩, ?_, fun k c' stored => ?_⟩
        · have same := keeps.commands key
          rw [pruned] at same
          exact Option.map_eq_none_iff.mp same
        · obtain ⟨c, before, same⟩ := keeps.before stored
          have sameMarker : c.marker = c'.marker := congrArg Prod.fst same
          exact sameMarker ▸ noOther k c before
  | admits request new c ofRequest principal idempotencyKey admits =>
      have other : key ≠ new := fun same => admits.fresh (same ▸ issued)
      refine ⟨admits.epoch _ epoch, admits.issued key issued, ?_⟩
      rcases known with ⟨c', stored, identity⟩ | ⟨⟨retainedUntil, row⟩, pruned, noOther⟩
      · refine .inl ⟨c', ?_, identity⟩
        rw [admits.commands, if_neg other]
        exact stored
      · have differs : c.marker ≠ marker := by
          -- the marker stands in the way of an admission under its key
          intro same
          have before := retained request ofRequest
            (principal.symm.trans (congrArg (fun m : Marker => m.2.1) same))
            (idempotencyKey.symm.trans (congrArg (fun m : Marker => m.2.2) same)) _ row
          exact absurd (admits.runOut _ (same ▸ row)) (Nat.not_le.mpr before)
        refine .inr ⟨⟨retainedUntil, ?_⟩, ?_, fun k d stored => ?_⟩
        · rw [admits.retiredKeys, if_neg differs.symm]
          exact row
        · rw [admits.commands, if_neg other]
          exact pruned
        · rw [admits.commands] at stored
          split at stored
          · cases stored
            exact differs
          · exact noOther k d stored
  | retires pruned c retires =>
      refine ⟨retires.epoch _ epoch, retires.issued key issued, ?_⟩
      obtain ⟨until_, retiredKeys⟩ := retires.retiredKeys
      rcases known with ⟨c', stored, identity⟩ | ⟨⟨retainedUntil, row⟩, gone, noOther⟩
      · by_cases same : key = pruned
        · subst same
          obtain rfl : c' = c := Option.some.inj (stored.symm.trans retires.live)
          have ofMarker : c'.marker = marker := congrArg Prod.fst identity
          have ofDigest : c'.httpDigest = digest := congrArg Prod.snd identity
          refine .inr ⟨⟨until_, ?_⟩, ?_, fun k d stored' => ?_⟩
          · rw [retiredKeys, if_pos ofMarker.symm, ofDigest]
          · rw [retires.commands, if_pos rfl]
          · rw [retires.commands] at stored'
            split at stored'
            · cases stored'
            · rename_i differs
              intro same
              exact differs (keyed.unique k d key c' stored' stored (same.trans ofMarker.symm))
        · refine .inl ⟨c', ?_, identity⟩
          rw [retires.commands, if_neg same]
          exact stored
      · have differs : c.marker ≠ marker := noOther pruned c retires.live
        refine .inr ⟨⟨retainedUntil, ?_⟩, ?_, fun k d stored => ?_⟩
        · rw [retiredKeys, if_neg differs.symm]
          exact row
        · rw [retires.commands, gone, ite_self]
        · rw [retires.commands] at stored
          split at stored
          · cases stored
          · exact noOther k d stored

/-! ## A second admission -/

/-- The key and the principal of a request are valid. -/
structure ValidNames (request : AdmitRequest) : Prop where
  idempotencyKey : validateIdempotencyKey request.idempotencyKey = .ok request.idempotencyKey
  principal : validatePrincipal request.principal = .ok request.principal

/-- An admission that succeeds has valid names. -/
theorem ValidNames.of_admitCommand {capacity : ℕ} {request : AdmitRequest}
    {admission : AdmissionResult × Ledger}
    (done : l.admitCommand capacity request now = .ok admission) : ValidNames request := by
  obtain ⟨idempotencyKey, validKey, done⟩ := bind_eq_ok_iff.mp done
  obtain ⟨principal, validPrincipal, done⟩ := bind_eq_ok_iff.mp done
  obtain rfl := validateIdempotencyKey_eq_ok validKey
  obtain rfl := validatePrincipal_eq_ok validPrincipal
  exact ⟨validKey, validPrincipal⟩

/-- An admission under the marker of a live command. -/
theorem admitCommand_of_live {capacity : ℕ} {request : AdmitRequest} {metadata : MetadataRow}
    {c : CommandRow} {o : OutboxRow} (valid : ValidNames request)
    (initialized : l.metadata = some metadata)
    (live : l.findLive metadata.gdsInstallationEpoch request.principal request.idempotencyKey =
      some (key, c)) (outbox : l.outbox.find? key = some o) :
    l.admitCommand capacity request now =
      if c.httpDigest ≠ request.semantic.digest then
        ledgerError .idempotencyConflict
          "Idempotency-Key was already used with another semantic body"
      else .ok (resultFromRow key c o true, l) := by
  unfold findLive at live
  unfold Ledger.admitCommand
  rw [valid.idempotencyKey, valid.principal]
  simp only [initialized, live, outbox, Bind.bind, Except.bind]

/-- An admission under the marker of a pruned command, before the marker has run out. -/
theorem admitCommand_of_retired {capacity : ℕ} {request : AdmitRequest} {metadata : MetadataRow}
    {row : RetiredKeyRow} (valid : ValidNames request)
    (initialized : l.metadata = some metadata)
    (absent : l.findLive metadata.gdsInstallationEpoch request.principal request.idempotencyKey =
      none)
    (stored : l.retiredKeys.find? (metadata.gdsInstallationEpoch, request.principal,
      request.idempotencyKey) = some row) (retained : now < row.retainedUntilUs) :
    l.admitCommand capacity request now =
      if row.httpDigest ≠ request.semantic.digest then
        ledgerError .idempotencyConflict
          "retained Idempotency-Key has another semantic digest"
      else
        ledgerError .idempotencyKeyRetired
          "Idempotency-Key metadata is retained but its command was pruned" := by
  unfold findLive at absent
  unfold Ledger.admitCommand
  rw [valid.idempotencyKey, valid.principal]
  simp only [initialized, absent, checkRetiredKey, stored, Bind.bind, Except.bind,
    if_neg (Nat.not_le.mpr retained)]
  by_cases differs : row.httpDigest ≠ request.semantic.digest
  · rw [if_pos differs, if_pos differs]
    rfl
  · rw [if_neg differs, if_neg differs]
    rfl

/-- Nothing is found under a marker that no command has. -/
theorem findLive_of_unused {epoch : U64} {principal idempotencyKey : String}
    (unused : ∀ k c, l.commands.find? k = some c →
      c.marker ≠ (epoch, principal, idempotencyKey)) :
    l.findLive epoch principal idempotencyKey = none := by
  cases found : l.findLive epoch principal idempotencyKey with
  | none => rfl
  | some row =>
      obtain ⟨stored, marker⟩ := findLive_eq_some found
      exact absurd marker (unused _ _ stored)

/-- A stored command is found under its marker. -/
theorem Keyed.findLive (keyed : l.Keyed) {c : CommandRow}
    (stored : l.commands.find? key = some c) :
    l.findLive c.gdsInstallationEpoch c.principal c.idempotencyKey = some (key, c) := by
  cases found : l.findLive c.gdsInstallationEpoch c.principal c.idempotencyKey with
  | none => exact absurd rfl (findLive_eq_none found stored)
  | some row =>
      obtain ⟨other, marker⟩ := findLive_eq_some found
      obtain ⟨k, d⟩ := row
      obtain rfl : k = key := keyed.unique _ _ _ _ other stored marker
      rw [stored] at other
      cases other
      rfl

/-- What an admission gets that repeats one with a digest, whose command has a key. -/
structure RepeatGets (l : Ledger) (key : RequestKey) (digest : Bytes) (request : AdmitRequest)
    (outcome : Raises (AdmissionResult × Ledger)) : Prop where
  conflict : digest ≠ request.semantic.digest →
    ∃ message, outcome = ledgerError .idempotencyConflict message
  replay : digest = request.semantic.digest → (l.commands.find? key).isSome = true →
    ∃ admission, outcome = .ok (admission, l) ∧ admission.requestKey = key
  retired : digest = request.semantic.digest → (l.commands.find? key).isSome = false →
    ∃ message, outcome = ledgerError .idempotencyKeyRetired message

/-- **A second admission under a remembered marker**, before the marker has run out. -/
theorem Remembers.admitCommand {request : AdmitRequest} {epoch : U64} {digest : Bytes}
    (remembers : l.Remembers (epoch, request.principal, request.idempotencyKey) key digest)
    (keyed : l.Keyed) (valid : ValidNames request) (capacity : ℕ)
    (retained : ∀ row, l.retiredKeys.find? (epoch, request.principal, request.idempotencyKey) =
      some row → now < row.retainedUntilUs) :
    RepeatGets l key digest request (l.admitCommand capacity request now) := by
  obtain ⟨known, -, known'⟩ := remembers
  obtain ⟨metadata, initialized, rfl⟩ := Option.map_eq_some_iff.mp known
  rcases known' with ⟨c, stored, identity⟩ | ⟨⟨retainedUntil, row⟩, pruned, noOther⟩
  · have marker : c.marker = _ := congrArg Prod.fst identity
    obtain rfl : c.httpDigest = digest := congrArg Prod.snd identity
    simp only [CommandRow.marker, Prod.mk.injEq] at marker
    obtain ⟨o, here⟩ := keyed.sound.request?_of_command stored
    have live := keyed.findLive stored
    rw [marker.1, marker.2.1, marker.2.2] at live
    rw [admitCommand_of_live valid initialized live (request?_eq_some_iff.mp here).2]
    refine ⟨fun differs => ?_, fun same _ => ?_, fun _ absent => ?_⟩
    · rw [if_pos differs]
      exact ⟨_, rfl⟩
    · rw [if_neg (not_not.mpr same)]
      exact ⟨_, rfl, rfl⟩
    · rw [stored] at absent
      cases absent
  · rw [admitCommand_of_retired valid initialized (findLive_of_unused noOther) row
      (retained _ row)]
    refine ⟨fun differs => ?_, fun _ live => ?_, fun same _ => ?_⟩
    · rw [if_pos differs]
      exact ⟨_, rfl⟩
    · rw [pruned] at live
      cases live
    · rw [if_neg (not_not.mpr same)]
      exact ⟨_, rfl⟩

end Ledger

/-! ## Runs -/

variable {cfg : LedgerConfig} {l : Ledger}

/-- A step keeps a ledger keyed. -/
theorem retentionMachine_keyed (cfg : LedgerConfig) (l : Ledger) (input : ℕ × RetentionOp)
    (keyed : l.Keyed) : ((retentionMachine cfg).step l input).1.Keyed := by
  rcases retentionMachine_step cfg l input with ⟨result, l', done, stepped⟩ |
    ⟨failure, -, stepped⟩
  · rw [stepped]
    obtain ⟨way, sound⟩ := Ledger.retain_ways done keyed.sound
    exact way.keyed sound keyed
  · rw [stepped]
    exact keyed

/-- A step within the retention period keeps what is remembered. -/
theorem retentionMachine_remembers {request : AdmitRequest} {epoch : U64} {key : RequestKey}
    {digest : Bytes} {input : ℕ × RetentionOp} (keyed : l.Keyed)
    (remembers : l.Remembers (epoch, request.principal, request.idempotencyKey) key digest)
    (within : request.WithinRetention l input) :
    ((retentionMachine cfg).step l input).1.Remembers
      (epoch, request.principal, request.idempotencyKey) key digest := by
  rcases retentionMachine_step cfg l input with ⟨result, l', done, stepped⟩ |
    ⟨failure, -, stepped⟩
  · rw [stepped]
    refine (Ledger.retain_ways done keyed.sound).1.remembers keyed remembers ?_
    intro other admits samePrincipal sameKey row stored
    exact within other admits ⟨samePrincipal.symm, sameKey.symm⟩ epoch row remembers.epoch stored
  · rw [stepped]
    exact remembers

/-- An `admit` of the machine. -/
theorem retentionMachine_ofAdmission (cfg : LedgerConfig) (l : Ledger) (now : ℕ)
    (request : AdmitRequest) :
    (retentionMachine cfg).step l (now, .ofAdmission request) =
      l.settle ((l.admitCommand cfg.outboxCapacity request now).map fun r =>
        (.ledger (.admission r.1), r.2)) := by
  show l.settle ((Ledger.yields .admission (l.admitCommand cfg.outboxCapacity request now)).map
    fun r => (.ledger r.1, r.2)) = _
  unfold Ledger.yields
  cases l.admitCommand cfg.outboxCapacity request now <;> rfl

/-- An `admit` that returns an admission. -/
theorem admitCommand_of_returned {now : ℕ} {request : AdmitRequest} {admission : AdmissionResult}
    (returned : ((retentionMachine cfg).step l (now, .ofAdmission request)).2 =
      .ok (.ledger (.admission admission))) :
    l.admitCommand cfg.outboxCapacity request now =
      .ok (admission, ((retentionMachine cfg).step l (now, .ofAdmission request)).1) := by
  rw [retentionMachine_ofAdmission] at returned ⊢
  cases done : l.admitCommand cfg.outboxCapacity request now with
  | error failure =>
      rw [done] at returned
      cases returned
  | ok value =>
      rw [done] at returned
      obtain ⟨result, l'⟩ := value
      cases returned
      rfl

/-- From an admission on its command is remembered. -/
theorem remembers_of_admitCommand {l' : Ledger} {capacity now : ℕ} {request : AdmitRequest}
    {admission : AdmissionResult} (keyed : l.Keyed)
    (done : l.admitCommand capacity request now = .ok (admission, l')) :
    ∃ epoch, l'.Remembers (epoch, request.principal, request.idempotencyKey)
      admission.requestKey request.semantic.digest := by
  obtain ⟨epoch, known, c, marker, digest, ways⟩ := Ledger.admitCommand_keys done
  have identity : c.identity =
      ((epoch, request.principal, request.idempotencyKey), request.semantic.digest) := by
    rw [CommandRow.identity, marker, digest]
  refine ⟨epoch, ?_⟩
  rcases ways with ⟨rfl, stored⟩ | admits
  · exact ⟨known, keyed.issued _ c stored, .inl ⟨c, stored, identity⟩⟩
  · refine ⟨admits.epoch _ known, admits.issuedNow, .inl ⟨c, ?_, identity⟩⟩
    rw [admits.commands, if_pos rfl]

/-- What a second admission gets, in the ledger before it, when the first one returned a
key. -/
def Settlement := Ledger → AdmitRequest → AdmitRequest → RequestKey → Raises RetentionResult → Prop

/-- In every run, within the retention period of its idempotency key, a second admission
under the key of a first one is settled. -/
def RepeatsSettle (cfg : LedgerConfig) (start : Ledger) (Settled : Settlement) : Prop :=
  ∀ before now first admission,
    ((retentionMachine cfg).step ((retentionMachine cfg).exec start before)
      (now, .ofAdmission first)).2 = .ok (.ledger (.admission admission)) →
    ∀ between later second, first.SameKey second → first.semantic.Built → second.semantic.Built →
      (retentionMachine cfg).AllSteps first.WithinRetention
        ((retentionMachine cfg).exec start (before ++ [(now, .ofAdmission first)]))
        (between ++ [(later, .ofAdmission second)]) →
      Settled ((retentionMachine cfg).exec start (before ++ [(now, .ofAdmission first)] ++ between))
        first second admission.requestKey
        ((retentionMachine cfg).step
          ((retentionMachine cfg).exec start (before ++ [(now, .ofAdmission first)] ++ between))
          (later, .ofAdmission second)).2

/-- The second admission returns the key of the first when the bodies are equal, and
raises `IDEMPOTENCY_CONFLICT` when they differ. -/
def settledAlike : Settlement := fun _ first second key outcome =>
  (first.semantic.canonicalJcs = second.semantic.canonicalJcs →
    ∃ admission, outcome = .ok (.ledger (.admission admission)) ∧ admission.requestKey = key) ∧
  (first.semantic.canonicalJcs ≠ second.semantic.canonicalJcs →
    sha256 first.semantic.canonicalJcs ≠ sha256 second.semantic.canonicalJcs →
    ∃ message, outcome = ledgerError .idempotencyConflict message)

/-- As `settledAlike`, but when the command has been pruned, an equal body raises
`IDEMPOTENCY_KEY_RETIRED`. -/
def settledByCommand : Settlement := fun l first second key outcome =>
  (first.semantic.canonicalJcs = second.semantic.canonicalJcs →
    (l.commands.find? key).isSome = true →
    ∃ admission, outcome = .ok (.ledger (.admission admission)) ∧ admission.requestKey = key) ∧
  (first.semantic.canonicalJcs = second.semantic.canonicalJcs →
    (l.commands.find? key).isSome = false →
    ∃ message, outcome = ledgerError .idempotencyKeyRetired message) ∧
  (first.semantic.canonicalJcs ≠ second.semantic.canonicalJcs →
    sha256 first.semantic.canonicalJcs ≠ sha256 second.semantic.canonicalJcs →
    ∃ message, outcome = ledgerError .idempotencyConflict message)

/-- The request and the key of an admission in a log. -/
def admissionOf : (ℕ × RetentionOp) × Raises RetentionResult → Option (AdmitRequest × RequestKey)
  | ((_, .transact (.admitCommand request) _), .ok (.ledger (.admission admission))) =>
      some (request, admission.requestKey)
  | _ => none

/-- In every run, admissions under different idempotency keys have different commands. -/
def KeysApart (cfg : LedgerConfig) (start : Ledger) : Prop :=
  ∀ inputs, ∀ e ∈ (retentionMachine cfg).log start inputs,
    ∀ e' ∈ (retentionMachine cfg).log start inputs, ∀ request key request' key',
      admissionOf e = some (request, key) → admissionOf e' = some (request', key') →
        ¬ request.SameKey request' → key ≠ key'

/-- A step that raises changes no table. -/
def RaisesRollBack (cfg : LedgerConfig) : Prop :=
  ∀ l input failure, ((retentionMachine cfg).step l input).2 = .error failure →
    ((retentionMachine cfg).step l input).1 = l

/-- The ways of a repeated admission in terms of the bodies. -/
theorem settledByCommand_of_gets {key : RequestKey} {first second : AdmitRequest}
    {outcome : Raises (AdmissionResult × Ledger)} (built : first.semantic.Built)
    (built' : second.semantic.Built)
    (gets : l.RepeatGets key first.semantic.digest second outcome) :
    settledByCommand l first second key
      (l.settle (outcome.map fun r => (.ledger (.admission r.1), r.2))).2 := by
  have digests (equal : first.semantic.canonicalJcs = second.semantic.canonicalJcs) :
      first.semantic.digest = second.semantic.digest := by
    rw [built, built', equal]
  refine ⟨fun equal live => ?_, fun equal pruned => ?_, fun _ differ => ?_⟩
  · obtain ⟨admission, rfl, ofKey⟩ := gets.replay (digests equal) live
    exact ⟨admission, rfl, ofKey⟩
  · obtain ⟨message, rfl⟩ := gets.retired (digests equal) pruned
    exact ⟨message, rfl⟩
  · have differ' : first.semantic.digest ≠ second.semantic.digest := by
      rw [built, built']
      exact differ
    obtain ⟨message, rfl⟩ := gets.conflict differ'
    exact ⟨message, rfl⟩

/-- Repeated admissions are settled by the stored command. -/
theorem repeatsSettle (cfg : LedgerConfig) {start : Ledger} (unused : start.Unused) :
    RepeatsSettle cfg start settledByCommand := by
  intro before now first admission returned between later second same built built' within
  let m := retentionMachine cfg
  have keyedAfter (inputs : List (ℕ × RetentionOp)) : (m.exec start inputs).Keyed :=
    m.exec_invariant Ledger.Keyed unused.keyed (retentionMachine_keyed cfg) inputs
  have done := admitCommand_of_returned returned
  obtain ⟨epoch, remembers⟩ := remembers_of_admitCommand (keyedAfter before) done
  rw [← Machine.exec_concat] at remembers
  obtain ⟨meanwhile, last⟩ := (m.allSteps_append _ _ _ _).mp within
  rw [← Machine.exec_append] at last
  -- the command is remembered up to the second admission
  have kept := m.exec_invariant_of_allSteps
    (fun l => l.Keyed ∧ l.Remembers (epoch, first.principal, first.idempotencyKey)
      admission.requestKey first.semantic.digest)
    ⟨keyedAfter _, remembers⟩ (fun l input within kept =>
      ⟨retentionMachine_keyed cfg l input kept.1,
        retentionMachine_remembers kept.1 kept.2 within⟩) between meanwhile
  rw [← Machine.exec_append] at kept
  have valid : Ledger.ValidNames second := by
    have ofFirst := Ledger.ValidNames.of_admitCommand done
    exact ⟨same.2 ▸ ofFirst.idempotencyKey, same.1 ▸ ofFirst.principal⟩
  have again : Ledger.Remembers (m.exec start (before ++ [(now, .ofAdmission first)] ++ between))
      (epoch, second.principal, second.idempotencyKey) admission.requestKey
        first.semantic.digest := same.1 ▸ same.2 ▸ kept.2
  have retained (row : RetiredKeyRow)
      (stored : (m.exec start (before ++ [(now, .ofAdmission first)] ++ between)).retiredKeys.find?
        (epoch, second.principal, second.idempotencyKey) = some row) :
      later < row.retainedUntilUs := by
    rw [← same.1, ← same.2] at stored
    exact last.1 second rfl same epoch row again.epoch stored
  have gets := again.admitCommand kept.1 valid cfg.outboxCapacity retained
  rw [retentionMachine_ofAdmission]
  exact settledByCommand_of_gets built built' gets

/-! ## Different keys -/

/-- The admissions of a log: issued keys, and a stored command has the names of the
admissions that returned it. -/
structure Logged (l : Ledger) (log : List ((ℕ × RetentionOp) × Raises RetentionResult)) :
    Prop where
  keyed : l.Keyed
  issued : ∀ e ∈ log, ∀ request key, admissionOf e = some (request, key) → l.Issued key
  named : ∀ e ∈ log, ∀ request key, admissionOf e = some (request, key) →
    ∀ c, l.commands.find? key = some c →
      c.principal = request.principal ∧ c.idempotencyKey = request.idempotencyKey
  apart : ∀ e ∈ log, ∀ e' ∈ log, ∀ request key request', admissionOf e = some (request, key) →
    admissionOf e' = some (request', key) → request.SameKey request'

/-- An entry of a log with an admission. -/
theorem eq_admit_of_admissionOf {entry : (ℕ × RetentionOp) × Raises RetentionResult}
    {request : AdmitRequest} {key : RequestKey} (here : admissionOf entry = some (request, key)) :
    ∃ now admission, entry = ((now, .ofAdmission request), .ok (.ledger (.admission admission))) ∧
      admission.requestKey = key := by
  unfold admissionOf at here
  split at here
  · cases here
    exact ⟨_, _, rfl, rfl⟩
  · cases here

/-- Issued keys stay issued. -/
theorem Ledger.KeyWay.issued {l' : Ledger} {now : ℕ} {op : RetentionOp}
    (way : Ledger.KeyWay l l' now op) {key : RequestKey} (issued : l.Issued key) :
    l'.Issued key := by
  cases way with
  | keeps keeps => exact keeps.issued key issued
  | admits request new c ofRequest principal idempotencyKey admits =>
      exact admits.issued key issued
  | retires pruned c retires => exact retires.issued key issued

/-- A command under a key that had been issued was there before, with its marker. -/
theorem Ledger.KeyWay.before {l' : Ledger} {now : ℕ} {op : RetentionOp}
    (way : Ledger.KeyWay l l' now op) {key : RequestKey} (issued : l.Issued key) {c' : CommandRow}
    (stored : l'.commands.find? key = some c') :
    ∃ c, l.commands.find? key = some c ∧ c.marker = c'.marker := by
  cases way with
  | keeps keeps =>
      obtain ⟨c, before, identity⟩ := keeps.before stored
      exact ⟨c, before, congrArg Prod.fst identity⟩
  | admits request new c ofRequest principal idempotencyKey admits =>
      have other : key ≠ new := fun same => admits.fresh (same ▸ issued)
      rw [admits.commands, if_neg other] at stored
      exact ⟨c', stored, rfl⟩
  | retires pruned c retires =>
      rw [retires.commands] at stored
      split at stored
      · cases stored
      · exact ⟨c', stored, rfl⟩

/-- Commands with one marker have the same names. -/
theorem CommandRow.names_of_marker {c c' : CommandRow} (same : c.marker = c'.marker) :
    c'.principal = c.principal ∧ c'.idempotencyKey = c.idempotencyKey :=
  ⟨(congrArg (fun m : Marker => m.2.1) same).symm, (congrArg (fun m : Marker => m.2.2) same).symm⟩

/-- What the log says of an admission stays true in a step. -/
theorem Logged.earlier {log : List ((ℕ × RetentionOp) × Raises RetentionResult)}
    (logged : Logged l log) (input : ℕ × RetentionOp)
    {e : (ℕ × RetentionOp) × Raises RetentionResult} (mem : e ∈ log) {request : AdmitRequest}
    {key : RequestKey} (here : admissionOf e = some (request, key)) :
    ((retentionMachine cfg).step l input).1.Issued key ∧
      ∀ c, ((retentionMachine cfg).step l input).1.commands.find? key = some c →
        c.principal = request.principal ∧ c.idempotencyKey = request.idempotencyKey := by
  have issued := logged.issued e mem request key here
  have named := logged.named e mem request key here
  rcases retentionMachine_step cfg l input with ⟨result, l', done, stepped⟩ |
    ⟨failure, -, stepped⟩
  · rw [stepped]
    obtain ⟨way, -⟩ := Ledger.retain_ways done logged.keyed.sound
    refine ⟨way.issued issued, fun c' stored => ?_⟩
    obtain ⟨c, before, same⟩ := way.before issued stored
    obtain ⟨principal, idempotencyKey⟩ := CommandRow.names_of_marker same
    rw [principal, idempotencyKey]
    exact named c before
  · rw [stepped]
    exact ⟨issued, named⟩

/-- A new admission of the log returns an issued key, whose command has its names, and an
earlier admission with that key has them too. -/
theorem Logged.latest {log : List ((ℕ × RetentionOp) × Raises RetentionResult)}
    (logged : Logged l log) {now : ℕ} {request : AdmitRequest} {admission : AdmissionResult}
    (returned : ((retentionMachine cfg).step l (now, .ofAdmission request)).2 =
      .ok (.ledger (.admission admission))) :
    ((retentionMachine cfg).step l (now, .ofAdmission request)).1.Issued admission.requestKey ∧
      (∀ c, ((retentionMachine cfg).step l (now, .ofAdmission request)).1.commands.find?
          admission.requestKey = some c →
        c.principal = request.principal ∧ c.idempotencyKey = request.idempotencyKey) ∧
      ∀ e ∈ log, ∀ earlier, admissionOf e = some (earlier, admission.requestKey) →
        earlier.SameKey request := by
  have done := admitCommand_of_returned returned
  obtain ⟨epoch, -, c, marker, -, ways⟩ := Ledger.admitCommand_keys done
  have names : c.principal = request.principal ∧ c.idempotencyKey = request.idempotencyKey :=
    ⟨congrArg (fun m : Marker => m.2.1) marker, congrArg (fun m : Marker => m.2.2) marker⟩
  rcases ways with ⟨same, stored⟩ | admits
  · rw [same]
    refine ⟨logged.keyed.issued _ c stored, fun c' here => ?_, fun e mem earlier here => ?_⟩
    · rw [stored] at here
      cases here
      exact names
    · obtain ⟨principal, idempotencyKey⟩ := logged.named e mem earlier _ here c stored
      exact ⟨principal.symm.trans names.1, idempotencyKey.symm.trans names.2⟩
  · refine ⟨admits.issuedNow, fun c' here => ?_, fun e mem earlier here => ?_⟩
    · rw [admits.commands, if_pos rfl] at here
      cases here
      exact names
    · exact absurd (logged.issued e mem earlier _ here) admits.fresh

theorem AdmitRequest.SameKey.symm {a b : AdmitRequest} (same : a.SameKey b) : b.SameKey a :=
  ⟨same.1.symm, same.2.symm⟩

theorem Logged.step {log : List ((ℕ × RetentionOp) × Raises RetentionResult)}
    (logged : Logged l log) (input : ℕ × RetentionOp) :
    Logged ((retentionMachine cfg).step l input).1
      (log ++ [(input, ((retentionMachine cfg).step l input).2)]) := by
  have latest (request : AdmitRequest) (key : RequestKey)
      (here : admissionOf (input, ((retentionMachine cfg).step l input).2) =
        some (request, key)) :
      ((retentionMachine cfg).step l input).1.Issued key ∧
        (∀ c, ((retentionMachine cfg).step l input).1.commands.find? key = some c →
          c.principal = request.principal ∧ c.idempotencyKey = request.idempotencyKey) ∧
        ∀ e ∈ log, ∀ earlier, admissionOf e = some (earlier, key) → earlier.SameKey request := by
    obtain ⟨now, admission, same, rfl⟩ := eq_admit_of_admissionOf here
    obtain ⟨rfl, returned⟩ := Prod.mk.inj same
    exact logged.latest returned
  refine ⟨retentionMachine_keyed cfg l input logged.keyed, fun e mem request key here => ?_,
    fun e mem request key here => ?_, fun e mem e' mem' request key request' here here' => ?_⟩
  · rcases List.mem_append.mp mem with old | new
    · exact (logged.earlier input old here).1
    · rw [List.mem_singleton.mp new] at here
      exact (latest request key here).1
  · rcases List.mem_append.mp mem with old | new
    · exact (logged.earlier input old here).2
    · rw [List.mem_singleton.mp new] at here
      exact (latest request key here).2.1
  · rcases List.mem_append.mp mem with old | new
    · rcases List.mem_append.mp mem' with old' | new'
      · exact logged.apart e old e' old' request key request' here here'
      · rw [List.mem_singleton.mp new'] at here'
        exact (latest request' key here').2.2 e old request here
    · rw [List.mem_singleton.mp new] at here
      rcases List.mem_append.mp mem' with old' | new'
      · exact ((latest request key here).2.2 e' old' request' here').symm
      · rw [List.mem_singleton.mp new', here] at here'
        cases here'
        exact ⟨rfl, rfl⟩

/-- Different keys are kept apart. -/
theorem keysApart (cfg : LedgerConfig) {start : Ledger} (unused : start.Unused) :
    KeysApart cfg start := by
  intro inputs e mem e' mem' request key request' key' here here' differ same
  have logged := (retentionMachine cfg).run_invariant (s := start) Logged
    ⟨unused.keyed, by simp, by simp, by simp⟩ (fun _ _ input logged => logged.step input) inputs
  exact differ (logged.apart e mem e' mem' request key request' here (same ▸ here'))

/-- A step that raises changes nothing. -/
theorem raisesRollBack (cfg : LedgerConfig) : RaisesRollBack cfg := by
  intro l input failure raised
  rcases retentionMachine_step cfg l input with ⟨result, l', -, stepped⟩ |
    ⟨other, -, stepped⟩
  · rw [stepped] at raised
    cases raised
  · rw [stepped]

/-- **Admissions by idempotency key.**  In every run from a database without commands,
with any clock: within its retention period a repeated key is settled by the stored
command, different keys get different commands, and a step that raises changes nothing. -/
theorem admissions_by_idempotencyKey (cfg : LedgerConfig) {start : Ledger}
    (unused : start.Unused) :
    RepeatsSettle cfg start settledByCommand ∧ KeysApart cfg start ∧ RaisesRollBack cfg :=
  ⟨repeatsSettle cfg unused, keysApart cfg unused, raisesRollBack cfg⟩

/-! ## A pruned command -/

/-- Namespace and link. -/
def openingRetention : List (ℕ × RetentionOp) :=
  [(0, .transact (.initializeKeys fun i => if i = 0 then 11 else 12) rfl),
    (0, .transact (.bind sceneLink) rfl)]

/-- The request expires and is pruned with a day of retention. -/
def pruningInputs : List (ℕ × RetentionOp) :=
  [(60000000, .transact .reconcile rfl), (70000000, .retire sceneKey 86400000000)]

/-- The key an operation returned. -/
def returnedKey : Raises RetentionResult → Option RequestKey
  | .ok (.ledger (.admission admission)) => some admission.requestKey
  | _ => none

theorem returnedKey_eq_some {outcome : Raises RetentionResult} {key : RequestKey}
    (returned : returnedKey outcome = some key) :
    ∃ admission, outcome = .ok (.ledger (.admission admission)) ∧ admission.requestKey = key := by
  unfold returnedKey at returned
  split at returned
  · cases returned
    exact ⟨_, rfl, rfl⟩
  · cases returned

/-- An admission comes within the retention period if no marker has run out. -/
theorem AdmitRequest.withinRetention_of_all {request : AdmitRequest} {input : ℕ × RetentionOp}
    (all : l.retiredKeys.rows.all (fun row => input.1 < row.2.retainedUntilUs) = true) :
    request.WithinRetention l input := by
  intro other admits same epoch row known stored
  exact of_decide_eq_true (List.all_eq_true.mp all _ (Table.mem_rows_iff.mpr stored))

theorem sceneRequest_built : sceneRequest.semantic.Built := by
  simp only [SemanticIdempotency.Built, sceneRequest]

/-- The first admission of the request returns its key. -/
theorem sceneRequest_returned : ∃ admission,
    ((retentionMachine ⟨defaultOutboxPolicy, 16⟩).step
      ((retentionMachine ⟨defaultOutboxPolicy, 16⟩).exec .migrated openingRetention)
      (0, .ofAdmission sceneRequest)).2 = .ok (.ledger (.admission admission)) ∧
    admission.requestKey = sceneKey := by
  refine returnedKey_eq_some ?_
  decide +kernel

/-- Its second admission comes within the retention period. -/
theorem sceneRequest_withinRetention :
    (retentionMachine ⟨defaultOutboxPolicy, 16⟩).AllSteps sceneRequest.WithinRetention
      ((retentionMachine ⟨defaultOutboxPolicy, 16⟩).exec .migrated
        (openingRetention ++ [(0, .ofAdmission sceneRequest)]))
      (pruningInputs ++ [(80000000, .ofAdmission sceneRequest)]) := by
  have all : (retentionMachine ⟨defaultOutboxPolicy, 16⟩).AllSteps
      (fun l input => l.retiredKeys.rows.all (fun row => input.1 < row.2.retainedUntilUs) = true)
      ((retentionMachine ⟨defaultOutboxPolicy, 16⟩).exec .migrated
        (openingRetention ++ [(0, .ofAdmission sceneRequest)]))
      (pruningInputs ++ [(80000000, .ofAdmission sceneRequest)]) := by
    decide +kernel
  exact (retentionMachine _).allSteps_of_invariant (fun _ => True) (fun _ _ _ => trivial)
    (fun _ _ _ => AdmitRequest.withinRetention_of_all) trivial all

/-- The theorem applies to the pruned command: the second admission is refused. -/
theorem admissions_by_idempotencyKey_pruned : ∃ message,
    ((retentionMachine ⟨defaultOutboxPolicy, 16⟩).step
      ((retentionMachine ⟨defaultOutboxPolicy, 16⟩).exec .migrated
        (openingRetention ++ [(0, .ofAdmission sceneRequest)] ++ pruningInputs))
      (80000000, .ofAdmission sceneRequest)).2 = ledgerError .idempotencyKeyRetired message := by
  obtain ⟨admission, returned, key⟩ := sceneRequest_returned
  have pruned : (((retentionMachine ⟨defaultOutboxPolicy, 16⟩).exec .migrated
      (openingRetention ++ [(0, .ofAdmission sceneRequest)] ++ pruningInputs)).commands.find?
        sceneKey).isSome = false := by
    decide +kernel
  refine ((admissions_by_idempotencyKey ⟨defaultOutboxPolicy, 16⟩ Ledger.unused_migrated).1
    openingRetention 0 sceneRequest admission returned pruningInputs 80000000 sceneRequest
    ⟨rfl, rfl⟩ sceneRequest_built sceneRequest_built sceneRequest_withinRetention).2.1 rfl ?_
  rw [key]
  exact pruned

/-- An equal body does not get the key of a command that has been pruned, although the
marker is still retained. -/
theorem not_settledAlike_of_pruned :
    ¬ ∀ (cfg : LedgerConfig) (start : Ledger), start.Unused →
      RepeatsSettle cfg start settledAlike := by
  intro always
  obtain ⟨admission, returned, key⟩ := sceneRequest_returned
  obtain ⟨again, replayed, -⟩ := (always ⟨defaultOutboxPolicy, 16⟩ _ Ledger.unused_migrated
    openingRetention 0 sceneRequest admission returned pruningInputs 80000000 sceneRequest
    ⟨rfl, rfl⟩ sceneRequest_built sceneRequest_built sceneRequest_withinRetention).1 rfl
  have refused : (returnedKey ((retentionMachine ⟨defaultOutboxPolicy, 16⟩).step
      ((retentionMachine ⟨defaultOutboxPolicy, 16⟩).exec .migrated
        (openingRetention ++ [(0, .ofAdmission sceneRequest)] ++ pruningInputs))
      (80000000, .ofAdmission sceneRequest)).2).isSome = false := by
    decide +kernel
  rw [replayed] at refused
  cases refused

end CubeNano

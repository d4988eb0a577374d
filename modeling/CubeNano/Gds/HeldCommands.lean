import CubeNano.Gds.ContactChanges

/-!
# Held commands and open contact

`post_commands` looks the contact of the target up and admits in a transaction of its
own, so contact may open between the two.  Contact is opened by `set_contact_state`,
which releases what waits for it, and by `register_instance` and `bind`, which do not.
A command for the next contact left behind in this way waits for another contact.

## Main definitions

* `PostingState`, `PostingOp`, `postingMachine` — the ledger with the calls of
  `post_commands` between their two steps
* `Ledger.NoneLeftBehind` — no live command for the next contact waits behind an open one
* `leavesNoneBehind` — a step that opens no contact before a command that waits for it

## Main statements

* `noneLeftBehind_of_leavesNoneBehind` — runs whose steps all meet the condition
* `not_noneLeftBehind_of_staleLookup` — contact opens between lookup and admission
-/

namespace CubeNano

/-! ## The two steps of a post -/

/-- `GDSApi._contact_available`: the spacecraft is bound and its contact is open. -/
def Ledger.contactAvailable (l : Ledger) (target : U64) : Bool :=
  (l.instances.find? target).any fun s =>
    s.state = .active && s.linkSessionId.isSome && s.contactState.isOpen

/-- A call of `post_commands` that looked the contact of its target up. -/
structure ContactLookup where
  targetSpacecraftInstanceId : U64
  contactAvailable : Bool
  deriving DecidableEq

/-- The ledger and the calls that have not admitted yet. -/
structure PostingState where
  ledger : Ledger
  lookups : Table ℕ ContactLookup

/-- A call looks contact up, a call admits with what it found, or another transaction runs. -/
inductive PostingOp
  | lookUp (call : ℕ) (target : U64)
  | post (call : ℕ) (request : AdmitRequest)
  | transact (op : LedgerOp)

namespace PostingState

/-- The transaction of a step; the admission of a call takes target and contact from its
lookup. -/
def transaction? (s : PostingState) : PostingOp → Option LedgerOp
  | .lookUp _ _ => none
  | .post call request => (s.lookups.find? call).map fun found => .admitCommand
      { request with
        targetSpacecraftInstanceId := found.targetSpacecraftInstanceId
        contactAvailable := found.contactAvailable }
  | .transact op => some op

/-- The calls between their two steps. -/
def nextLookups (s : PostingState) : PostingOp → Table ℕ ContactLookup
  | .lookUp call target => s.lookups.set call ⟨target, s.ledger.contactAvailable target⟩
  | .post call _ => s.lookups.erase call
  | .transact _ => s.lookups

end PostingState

/-- The database server and the calls of `post_commands`. -/
def postingMachine (cfg : LedgerConfig) :
    Machine PostingState (ℕ × PostingOp) (Option (Raises LedgerResult)) where
  step s input :=
    match s.transaction? input.2 with
    | none => (⟨s.ledger, s.nextLookups input.2⟩, none)
    | some op =>
        let next := (gdsMachine cfg).step s.ledger (input.1, op)
        (⟨next.1, s.nextLookups input.2⟩, some next.2)

/-- What a step of the calls makes of the ledger. -/
theorem postingMachine_ledger (cfg : LedgerConfig) (s : PostingState) (input : ℕ × PostingOp) :
    ((postingMachine cfg).step s input).1.ledger =
      ((s.transaction? input.2).elim s.ledger fun op =>
        ((gdsMachine cfg).step s.ledger (input.1, op)).1) := by
  show (match s.transaction? input.2 with
    | none => ((⟨s.ledger, s.nextLookups input.2⟩ : PostingState), none)
    | some op => _).1.ledger = _
  cases s.transaction? input.2 <;> rfl

/-! ## Commands left behind -/

/-- While the contact of its target is open, a command for the next contact that has not
expired is not held, and if it is sent it has an acknowledgement deadline. -/
def Ledger.NoneLeftBehind (l : Ledger) (now : ℕ) : Prop :=
  ∀ key c o, l.commands.find? key = some c → l.outbox.find? key = some o →
    c.deliveryMode = .nextContact → l.contactOpen c.targetSpacecraftInstanceId = true →
      now < c.effectiveExpiresAtUs →
        o.state ≠ .heldNoContact ∧ (o.state = .sent → o.ackDeadlineAtUs ≠ none)

/-- A row for the next contact of a spacecraft waits for a change of contact. -/
def Ledger.stuckNextContact (l : Ledger) (target : U64) (now : ℕ) : Bool :=
  l.outbox.rows.any fun row => row.2.targetSpacecraftInstanceId = target && row.2.stuck &&
    l.hasDeliveryMode row.1 .nextContact && now < row.2.expiresAtUs

/-- A command for the next contact is admitted as held only while the recorded contact is
not open; a registration, or a binding of another spacecraft than the bound one, opens
contact only while no live row of the spacecraft waits for it. -/
def leavesNoneBehind (l : Ledger) (now : ℕ) (op : LedgerOp) : Bool :=
  (op.admission?.all fun terms => terms.deliveryMode = .immediate || terms.contactAvailable ||
    !l.contactOpen terms.targetSpacecraftInstanceId) &&
  match op with
  | .registerInstance binding =>
      !binding.contactState.isOpen || l.contactOpen binding.spacecraftInstanceId ||
        !l.stuckNextContact binding.spacecraftInstanceId now
  | .bind current =>
      !current.contactState.isOpen || l.contactOpen current.spacecraftInstanceId ||
        l.boundTo current.spacecraftInstanceId ||
          !l.stuckNextContact current.spacecraftInstanceId now
  | _ => true

/-- A stuck row for the next contact of a spacecraft in contact expires by `horizon`. -/
def Ledger.StuckExpires (l : Ledger) (horizon : ℕ) : Prop :=
  ∀ k r, l.request? k = some r → r.command.deliveryMode = .nextContact →
    l.contactOpen r.outbox.targetSpacecraftInstanceId = true → r.outbox.stuck = true →
      r.outbox.expiresAtUs ≤ horizon

theorem Ledger.stuckNextContact_of_request? {l : Ledger} {k : RequestKey} {r : Request} {now : ℕ}
    (here : l.request? k = some r) (mode : r.command.deliveryMode = .nextContact)
    (stuck : r.outbox.stuck = true) (unexpired : now < r.outbox.expiresAtUs) :
    l.stuckNextContact r.outbox.targetSpacecraftInstanceId now = true := by
  refine List.any_eq_true.mpr
    ⟨(k, r.outbox), Table.mem_rows_iff.mpr (Ledger.request?_eq_some_iff.mp here).2, ?_⟩
  simp [stuck, unexpired, Ledger.hasDeliveryMode_of_request? here, mode]

/-- A step that leaves none behind keeps the bound on the rows that are stuck. -/
theorem Ledger.StuckExpires.step {cfg : LedgerConfig} {l l' : Ledger} {now horizon : ℕ}
    {op : LedgerOp} {value : LedgerResult} (before : l.StuckExpires horizon) (sound : l.Sound)
    (done : l.transact cfg now op = .ok (value, l')) (clock : now ≤ horizon)
    (leaves : leavesNoneBehind l now op = true) : l'.StuckExpires horizon := by
  obtain ⟨admission, leaves⟩ := Bool.and_eq_true_iff.mp leaves
  intro k r' after mode contact stuck
  cases here : l.request? k with
  | none =>
      obtain ⟨terms, ofOp, admitted⟩ := transact_admits done sound here after
      have quiet : op.changesContact = false := by
        cases op <;> first | rfl | cases ofOp
      have unavailable := contact_of_stuck admitted.waiting stuck
      rw [contactOpen_congr (transact_keepsContact done quiet).instances,
        admitted.target] at contact
      rw [admitted.mode] at mode
      rw [ofOp] at admission
      simp [mode, unavailable, contact] at admission
  | some r =>
      obtain ⟨r'', moved, step⟩ := (transact_change done sound).requests k r here
      obtain rfl := Option.some.inj (moved.symm.trans after)
      rw [step.deliveryMode_eq] at mode
      rw [step.sameTerms.target] at contact
      rw [step.sameTerms.expiry]
      by_contra late
      have unexpired : now < r.outbox.expiresAtUs := lt_of_le_of_lt clock (Nat.lt_of_not_le late)
      -- a row that was stuck in contact before expires in time
      have wasFree (wasOpen : l.contactOpen r.outbox.targetSpacecraftInstanceId = true)
          (wasStuck : r.outbox.stuck = true) : False := late (before k r here mode wasOpen wasStuck)
      cases op with
      | registerInstance binding =>
          obtain ⟨_, done, -⟩ := yields_eq_ok done
          obtain ⟨commands, outbox, recorded⟩ := registerInstance_contact done
          obtain rfl : r'' = r :=
            Option.some.inj (after.symm.trans ((request?_congr commands outbox k).trans here))
          rw [recorded] at contact
          split at contact
          · rename_i ofBinding
            have waits := stuckNextContact_of_request? here mode stuck unexpired
            rw [ofBinding] at waits
            have wasOpen : l.contactOpen binding.spacecraftInstanceId = true := by
              simpa [contact, waits] using leaves
            exact wasFree (by rw [ofBinding, wasOpen]) stuck
          · exact wasFree contact stuck
      | bind current =>
          obtain ⟨_, done, -⟩ := yields_eq_ok done
          have bound := bind_contact done
          obtain ⟨r', moved, row⟩ := bound.rows k r here
          obtain rfl := Option.some.inj (moved.symm.trans after)
          have kept : r'.outbox = r.outbox := row.stuck.resolve_right (by rw [stuck]; nofun)
          rw [kept] at stuck
          by_cases ofBinding : r.outbox.targetSpacecraftInstanceId = current.spacecraftInstanceId
          · rw [ofBinding, bound.contact] at contact
            have waits := stuckNextContact_of_request? here mode stuck unexpired
            rw [ofBinding] at waits
            have found : l.contactOpen current.spacecraftInstanceId = true ∨
                l.boundTo current.spacecraftInstanceId = true := by
              simpa [contact, waits] using leaves
            rcases found with wasOpen | isBound
            · exact wasFree (by rw [ofBinding, wasOpen]) stuck
            · rcases row.rebound isBound ofBinding with same | free
              · exact wasFree (by rw [ofBinding, same, contact]) stuck
              · rw [kept, stuck] at free
                cases free
          · rcases row.others ofBinding with same | ended
            · exact wasFree (same.symm.trans contact) stuck
            · rw [kept] at ended
              rw [not_stuck_of_terminal ended] at stuck
              cases stuck
      | setContactState changed state =>
          obtain ⟨_, done, -⟩ := yields_eq_ok done
          have noted := setContactState_contact done
          obtain ⟨r', moved, row⟩ := noted.rows k r here
          obtain rfl := Option.some.inj (moved.symm.trans after)
          rw [noted.recorded] at contact
          split at contact
          · rename_i ofTarget
            rcases row.opened ofTarget contact mode unexpired with ⟨kept, wasOpen⟩ | free
            · exact wasFree (by rw [ofTarget, wasOpen]) (kept ▸ stuck)
            · rw [free] at stuck
              cases stuck
          · rename_i other
            rw [row.others other] at stuck
            exact wasFree contact stuck
      | _ =>
          have keeps := transact_keepsContact done rfl
          obtain ⟨r', moved, row⟩ := keeps.rows k r here
          obtain rfl := Option.some.inj (moved.symm.trans after)
          rw [contactOpen_congr keeps.instances] at contact
          rcases row.stuck stuck with wasStuck | closed
          · exact wasFree contact wasStuck
          · rw [closed] at contact
            cases contact

/-- A bound on the stuck rows, for an instant not before it. -/
theorem Ledger.StuckExpires.noneLeftBehind {l : Ledger} {now : ℕ} (bound : l.StuckExpires now)
    (sound : l.Sound) : l.NoneLeftBehind now := by
  intro key c o command outbox mode contact unexpired
  have here : l.request? key = some ⟨c, o⟩ := Ledger.request?_eq_some_iff.mpr ⟨command, outbox⟩
  have consistent := sound.consistent key _ here
  have free : o.stuck = false := by
    rw [Bool.eq_false_iff]
    intro stuck
    have expires := bound key _ here mode (by rw [consistent.target]; exact contact) stuck
    rw [consistent.expiry] at expires
    exact absurd unexpired (Nat.not_lt_of_le expires)
  have free := Bool.or_eq_false_iff.mp free
  refine ⟨of_decide_eq_false free.1, fun isSent undated => ?_⟩
  simp [isSent, undated] at free

/-- **No command is left behind.**  In a run of posts and other transactions whose steps
all meet the condition, at no instant from the last step on does a live command for the
next contact wait behind an open contact. -/
theorem noneLeftBehind_of_leavesNoneBehind (cfg : LedgerConfig) {start : Ledger}
    (unused : start.Unused) (inputs : List (ℕ × PostingOp)) (now : ℕ)
    (clock : ∀ input ∈ inputs, input.1 ≤ now)
    (leaves : (postingMachine cfg).AllSteps (fun s input =>
      (s.transaction? input.2).all (leavesNoneBehind s.ledger input.1) = true)
      ⟨start, .empty⟩ inputs) :
    ((postingMachine cfg).exec ⟨start, .empty⟩ inputs).ledger.NoneLeftBehind now := by
  have invariant : ((postingMachine cfg).exec ⟨start, .empty⟩ inputs).ledger.Sound ∧
      ((postingMachine cfg).exec ⟨start, .empty⟩ inputs).ledger.StuckExpires now := by
    refine (postingMachine cfg).exec_invariant_of_allSteps
      (fun s => s.ledger.Sound ∧ s.ledger.StuckExpires now) ⟨unused.sound, fun k r here => ?_⟩
      (fun s input allowed holds => ?_) inputs
      ((postingMachine cfg).allSteps_and_mem clock leaves)
    · have stored := (Ledger.request?_eq_some_iff.mp here).1
      rw [unused.commands] at stored
      cases stored
    · obtain ⟨inTime, allowed⟩ := allowed
      rw [postingMachine_ledger]
      cases ofStep : s.transaction? input.2 with
      | none => exact holds
      | some op =>
          rw [ofStep] at allowed
          refine ⟨(gdsMachine_change cfg holds.1 (input.1, op)).sound holds.1, ?_⟩
          rcases gdsMachine_step cfg s.ledger (input.1, op) with
            ⟨value, l', done, stepped⟩ | ⟨failure, -, stepped⟩
          · show ((gdsMachine cfg).step s.ledger (input.1, op)).1.StuckExpires now
            rw [stepped]
            exact holds.2.step holds.1 done inTime allowed
          · show ((gdsMachine cfg).step s.ledger (input.1, op)).1.StuckExpires now
            rw [stepped]
            exact holds.2
  exact invariant.2.noneLeftBehind invariant.1

/-! ## Concrete runs -/

/-- The semantic body of a request for the next contact. -/
def nextContactBody : Bytes :=
  asciiBytes (Text.ofString ("\x7b\"delivery_mode\":\"next_contact\"," ++
    "\"expires_at\":\"1970-01-01T00:01:00Z\",\"opcode\":65538,\"payload\":\x7b\x7d," ++
      "\"target_spacecraft_instance_id\":\"0000000000000001\"\x7d"))

/-- A request for the scene catalogue at the next contact. -/
def nextContactRequest : AdmitRequest :=
  { sceneRequest with
    semantic := ⟨[], .nextContact, some 60000000, nextContactBody, sha256 nextContactBody⟩ }

/-- A call looks contact up before the spacecraft has any, contact opens, and the call
admits before or after it. -/
def postInputs (openedAt postedAt : ℕ) : List (ℕ × PostingOp) :=
  [(0, .transact (.initializeKeys fun i => if i = 0 then 11 else 12)),
    (0, .transact (.bind ⟨1, 1, 1, .noContact⟩)), (1, .lookUp 0 1)] ++
  if openedAt ≤ postedAt then
    [(openedAt, .transact (.setContactState 1 .contactOpen)), (postedAt, .post 0 nextContactRequest)]
  else
    [(postedAt, .post 0 nextContactRequest), (openedAt, .transact (.setContactState 1 .contactOpen))]

/-- The theorem applies to a request that is held and then released. -/
theorem noneLeftBehind_of_release :
    ((postingMachine ⟨defaultOutboxPolicy, 16⟩).exec ⟨.migrated, .empty⟩
      (postInputs 3 2)).ledger.NoneLeftBehind 3 :=
  noneLeftBehind_of_leavesNoneBehind _ Ledger.unused_migrated _ 3 (by decide +kernel)
    (by decide +kernel)

/-- Contact opens between the lookup of a post and its admission: the request is held. -/
theorem not_noneLeftBehind_of_staleLookup :
    ¬ ∀ (cfg : LedgerConfig) (start : Ledger), start.Unused → ∀ (inputs : List (ℕ × PostingOp)) now,
      (∀ input ∈ inputs, input.1 ≤ now) →
        ((postingMachine cfg).exec ⟨start, .empty⟩ inputs).ledger.NoneLeftBehind now := by
  intro always
  have held : ((((postingMachine ⟨defaultOutboxPolicy, 16⟩).exec ⟨.migrated, .empty⟩
      (postInputs 2 3)).ledger.request? sceneKey).any fun r =>
        r.outbox.state = .heldNoContact && r.command.deliveryMode = .nextContact &&
          r.command.effectiveExpiresAtUs = 60000000 &&
            ((postingMachine ⟨defaultOutboxPolicy, 16⟩).exec ⟨.migrated, .empty⟩
              (postInputs 2 3)).ledger.contactOpen r.command.targetSpacecraftInstanceId) = true := by
    decide +kernel
  obtain ⟨r, here, found⟩ := (Option.any_eq_true _ _).mp held
  simp only [Bool.and_eq_true, decide_eq_true_eq] at found
  obtain ⟨⟨⟨isHeld, mode⟩, expiry⟩, contact⟩ := found
  obtain ⟨command, outbox⟩ := Ledger.request?_eq_some_iff.mp here
  have free := always ⟨defaultOutboxPolicy, 16⟩ _ Ledger.unused_migrated (postInputs 2 3) 3
    (by decide +kernel) sceneKey _ _ command outbox mode contact (by rw [expiry]; decide)
  exact free.1 isHeld

end CubeNano

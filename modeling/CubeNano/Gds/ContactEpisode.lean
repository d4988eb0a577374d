import CubeNano.Gds.ContactChanges

/-!
# Immediate delivery and the contact episode

Immediate delivery is tied to the contact in which a command was admitted: a contact
that closes fails its row.  Of the three transactions that take contact away only
`set_contact_state` does so, and it skips the rows that have expired; `bind` to a new
session puts the row back to pending, `register_instance` leaves it.

## Main definitions

* `Ledger.ImmediateInContact` — live requests for immediate delivery have contact
* `SentInEpisode` — a request that lost contact is never marked sent
* `staysInEpisode` — a step that takes no contact away from a live immediate row

## Main statements

* `sentInEpisode_of_staysInEpisode` — runs whose steps all meet the condition
* `not_sentInEpisode_of_rebind` — a new session without contact
-/

namespace CubeNano

/-- The contact of every request for immediate delivery that has not ended is open. -/
def Ledger.ImmediateInContact (l : Ledger) : Prop :=
  ∀ k r, l.request? k = some r → r.command.deliveryMode = .immediate →
    r.outbox.state.nonterminal = true → l.contactOpen r.outbox.targetSpacecraftInstanceId = true

/-- Once the contact of its target was not open, no attempt of a command for immediate
delivery is marked sent. -/
def SentInEpisode (cfg : LedgerConfig) (start : Ledger) (inputs : List (ℕ × LedgerOp)) : Prop :=
  ∀ earlier later, inputs = earlier ++ later → ∀ key c,
    ((gdsMachine cfg).exec start earlier).commands.find? key = some c →
    c.deliveryMode = .immediate →
    ((gdsMachine cfg).exec start earlier).contactOpen c.targetSpacecraftInstanceId = false →
    ∀ id a, ((gdsMachine cfg).exec start inputs).attempts.find? id = some a →
      a.requestKey = key → a.sentAtUs ≠ none →
        ∃ a', ((gdsMachine cfg).exec start earlier).attempts.find? id = some a' ∧
          a'.sentAtUs = a.sentAtUs

/-- A row for immediate delivery to a spacecraft that has not ended. -/
def Ledger.liveImmediate (l : Ledger) (target : U64) (expiry : ℕ → Bool) : Bool :=
  l.outbox.rows.any fun row => row.2.targetSpacecraftInstanceId = target &&
    row.2.state.nonterminal && l.hasDeliveryMode row.1 .immediate && expiry row.2.expiresAtUs

/-- A command for immediate delivery is admitted in a recorded contact; a spacecraft is
bound or registered without contact only while it has no live immediate row, and its
contact closes only while no such row is past its expiry; a lease is marked sent with an
attempt of its own request. -/
def staysInEpisode (l : Ledger) (input : ℕ × LedgerOp) : Bool :=
  (input.2.admission?.all fun terms =>
    terms.deliveryMode = .nextContact || l.contactOpen terms.targetSpacecraftInstanceId) &&
  match input.2 with
  | .registerInstance binding | .bind binding =>
      binding.contactState.isOpen || !l.liveImmediate binding.spacecraftInstanceId fun _ => true
  | .setContactState target contact =>
      contact.isOpen || !l.liveImmediate target fun expiresAt => expiresAt ≤ input.1
  | .markSent lease attempt => attempt.requestKey = lease.requestKey
  | _ => true

theorem Ledger.liveImmediate_of_request? {l : Ledger} {k : RequestKey} {r : Request}
    (expiry : ℕ → Bool) (here : l.request? k = some r)
    (immediate : r.command.deliveryMode = .immediate)
    (nonterminal : r.outbox.state.nonterminal = true) (test : expiry r.outbox.expiresAtUs = true) :
    l.liveImmediate r.outbox.targetSpacecraftInstanceId expiry = true := by
  refine List.any_eq_true.mpr
    ⟨(k, r.outbox), Table.mem_rows_iff.mpr (Ledger.request?_eq_some_iff.mp here).2, ?_⟩
  simp [nonterminal, test, Ledger.hasDeliveryMode_of_request? here, immediate]

/-- A step that stays in the episode keeps live immediate requests in contact. -/
theorem Ledger.ImmediateInContact.step {cfg : LedgerConfig} {l : Ledger} {input : ℕ × LedgerOp}
    (before : l.ImmediateInContact) (sound : l.Sound) (stays : staysInEpisode l input = true) :
    ((gdsMachine cfg).step l input).1.ImmediateInContact := by
  rcases gdsMachine_step cfg l input with ⟨value, l', done, stepped⟩ | ⟨failure, -, stepped⟩
  swap
  · rw [stepped]
    exact before
  rw [stepped]
  obtain ⟨now, op⟩ := input
  obtain ⟨admission, stays⟩ := Bool.and_eq_true_iff.mp stays
  intro k r' after immediate nonterminal
  cases here : l.request? k with
  | none =>
      obtain ⟨terms, ofOp, admitted⟩ := transact_admits done sound here after
      simp only at ofOp
      have quiet : op.changesContact = false := by
        cases op <;> first | rfl | cases ofOp
      rw [contactOpen_congr (transact_keepsContact done quiet).instances, admitted.target]
      rw [admitted.mode] at immediate
      rw [ofOp] at admission
      simpa [immediate] using admission
  | some r =>
      obtain ⟨r'', moved, step⟩ := (transact_change done sound).requests k r here
      obtain rfl := Option.some.inj (moved.symm.trans after)
      rw [step.deliveryMode_eq] at immediate
      have live : r.outbox.state.nonterminal = true := by
        by_contra ended
        rw [step.eq_of_terminal (Bool.not_eq_true _ ▸ ended)] at nonterminal
        exact ended nonterminal
      have contact := before k r here immediate live
      have target := step.sameTerms.target
      cases op with
      | registerInstance binding =>
          obtain ⟨_, done, -⟩ := yields_eq_ok done
          rw [(registerInstance_contact done).2.2, target]
          split
          · rename_i ofBinding
            have found := liveImmediate_of_request? (fun _ => true) here immediate live rfl
            rw [ofBinding] at found
            simpa [found] using stays
          · exact contact
      | bind current =>
          obtain ⟨_, done, -⟩ := yields_eq_ok done
          have bound := bind_contact done
          obtain ⟨r'', moved, row⟩ := bound.rows k r here
          obtain rfl := Option.some.inj (moved.symm.trans after)
          rw [target]
          by_cases ofBinding : r.outbox.targetSpacecraftInstanceId = current.spacecraftInstanceId
          · have found := liveImmediate_of_request? (fun _ => true) here immediate live rfl
            rw [ofBinding] at found ⊢
            rw [bound.contact]
            simpa [found] using stays
          · rcases row.others ofBinding with same | ended
            · exact same.trans contact
            · rw [ended] at nonterminal
              cases nonterminal
      | setContactState changed state =>
          obtain ⟨_, done, -⟩ := yields_eq_ok done
          have noted := setContactState_contact done
          obtain ⟨r'', moved, row⟩ := noted.rows k r here
          obtain rfl := Option.some.inj (moved.symm.trans after)
          rw [target, noted.recorded]
          split
          · rename_i ofTarget
            by_contra shut
            have shut := Bool.not_eq_true _ ▸ shut
            by_cases expired : r.outbox.expiresAtUs ≤ now
            · have found := liveImmediate_of_request? (fun expiresAt => expiresAt ≤ now)
                here immediate live (decide_eq_true expired)
              rw [ofTarget] at found
              simp [found, shut] at stays
            · rcases row.closed ofTarget shut immediate (Nat.lt_of_not_le expired) with
                ⟨-, closed⟩ | ended
              · rw [ofTarget, closed] at contact
                cases contact
              · rw [ended] at nonterminal
                cases nonterminal
          · exact contact
      | _ =>
          rw [contactOpen_congr (transact_keepsContact done rfl).instances, target]
          exact contact

/-- A request that has ended stays, and none of its attempts is marked sent, as long as
leases are marked sent with their own attempts. -/
theorem Ledger.unsent_step {cfg : LedgerConfig} {l : Ledger} {input : ℕ × LedgerOp}
    {key : RequestKey} {r : Request} (regular : l.Regular) (here : l.request? key = some r)
    (ended : r.outbox.state.nonterminal = false) (stays : staysInEpisode l input = true) {id : ℕ}
    {a' : AttemptRow} (after : ((gdsMachine cfg).step l input).1.attempts.find? id = some a')
    (ofKey : a'.requestKey = key) (sent : a'.sentAtUs ≠ none) :
    ∃ a, l.attempts.find? id = some a ∧ a.requestKey = key ∧ a.sentAtUs = a'.sentAtUs := by
  have change := gdsMachine_change cfg regular.sound input
  cases stored : l.attempts.find? id with
  | none => exact absurd (change.prepared id a' stored after).1 sent
  | some a =>
      obtain ⟨a'', moved, step⟩ := change.attempts id a stored
      obtain rfl := Option.some.inj (moved.symm.trans after)
      refine ⟨a, rfl, ?_⟩
      cases step with
      | idle => exact ⟨ofKey, rfl⟩
      | closed open_ final => exact ⟨ofKey, rfl⟩
      | sent marks leased held selected =>
          -- the lease is of the ended request, whose row is not held
          obtain ⟨now, op⟩ := input
          cases marks
          simp only [Ledger.isAttempt, Bool.and_eq_true, decide_eq_true_eq] at selected
          have sameKey := of_decide_eq_true (Bool.and_eq_true_iff.mp stays).2
          have ofAttempt : a.requestKey = _ := selected.1.1.2
          rw [← sameKey, ← ofAttempt, show a.requestKey = key from ofKey,
            (Ledger.request?_eq_some_iff.mp here).2] at leased
          cases leased
          rw [(Ledger.heldBy_iff.mp held).1] at ended
          cases ended

/-- **Immediate delivery stays in its contact.**  In a run whose steps all meet the
condition, no attempt of a command for immediate delivery is marked sent once the contact
of its target was not open. -/
theorem sentInEpisode_of_staysInEpisode (cfg : LedgerConfig) {start : Ledger}
    (unused : start.Unused) (inputs : List (ℕ × LedgerOp))
    (stays : (gdsMachine cfg).AllSteps (fun l input => staysInEpisode l input = true)
      start inputs) : SentInEpisode cfg start inputs := by
  rintro earlier later rfl key c command immediate lost id a after ofKey sent
  obtain ⟨staysEarlier, staysLater⟩ := ((gdsMachine cfg).allSteps_append _ _ _ _).mp stays
  have reached : ((gdsMachine cfg).exec start earlier).Regular ∧
      ((gdsMachine cfg).exec start earlier).ImmediateInContact := by
    refine (gdsMachine cfg).exec_invariant_of_allSteps
      (fun l => l.Regular ∧ l.ImmediateInContact) ⟨unused.regular, fun k r here => ?_⟩
      (fun l input allowed holds => ⟨(gdsMachine_change cfg holds.1.sound input).regular holds.1,
        holds.2.step holds.1.sound allowed⟩) earlier staysEarlier
    have stored := (Ledger.request?_eq_some_iff.mp here).1
    rw [unused.commands] at stored
    cases stored
  obtain ⟨o, here⟩ := reached.1.sound.request?_of_command command
  have ended : o.state.nonterminal = false := by
    by_contra live
    have contact := reached.2 key _ here immediate (Bool.not_eq_false _ ▸ live)
    rw [(reached.1.sound.consistent key _ here).target, lost] at contact
    cases contact
  rw [Machine.exec_append] at after
  -- the request stays as it is, and its attempts were sent before or not at all
  have later_inv := (gdsMachine cfg).exec_invariant_of_allSteps
    (fun l => l.Regular ∧ l.request? key = some ⟨c, o⟩ ∧ ∀ id a, l.attempts.find? id = some a →
      a.requestKey = key → a.sentAtUs ≠ none →
        ∃ a', ((gdsMachine cfg).exec start earlier).attempts.find? id = some a' ∧
          a'.sentAtUs = a.sentAtUs)
    ⟨reached.1, here, fun id a stored _ _ => ⟨a, stored, rfl⟩⟩
    (fun l input allowed holds => by
      obtain ⟨regular, stored, unsent⟩ := holds
      have change := gdsMachine_change cfg regular.sound input
      refine ⟨change.regular regular, ?_, fun id a' after ofKey sent => ?_⟩
      · obtain ⟨r', moved, step⟩ := change.requests key _ stored
        rw [moved, step.eq_of_terminal ended]
      · obtain ⟨a, before, sameKey, sameTime⟩ :=
          Ledger.unsent_step regular stored ended allowed after ofKey sent
        obtain ⟨a'', first, same⟩ := unsent id a before sameKey (by rwa [sameTime])
        exact ⟨a'', first, same.trans sameTime⟩) later staysLater
  exact later_inv.2.2 id a after ofKey sent

/-! ## Concrete runs -/

/-- The theorem applies to a request whose contact is lost before it is sent. -/
theorem sentInEpisode_of_lostContact :
    SentInEpisode ⟨defaultOutboxPolicy, 16⟩ .migrated
      (openingInputs ++ [(1000000, .claim none none "dispatcher"),
        (1100000, .prepareAttempt (sceneLease "dispatcher" 1000000 0) sceneProfile none),
        (1200000, .setContactState 1 .noContact), (2000000, .setContactState 1 .contactOpen),
        (2100000, .markSent (sceneLease "dispatcher" 1000000 0) (sceneAttempt 1 1100000))]) :=
  sentInEpisode_of_staysInEpisode _ Ledger.unused_migrated _ (by decide +kernel)

/-- The spacecraft comes back on a new session, at first without contact. -/
def reboundInputs : List (ℕ × LedgerOp) :=
  openingInputs ++ [(1000000, .bind ⟨1, 2, 2, .noContact⟩)]

/-- The lease of a claim on the new session. -/
def reboundLease : OutboxLease :=
  { sceneLease "dispatcher" 3000000 0 with binding := ⟨1, 2, 2, .contactOpen⟩ }

/-- The contact after the one of the admission: the request is claimed and sent. -/
def nextContactInputs : List (ℕ × LedgerOp) :=
  [(2000000, .setContactState 1 .contactOpen), (3000000, .claim none none "dispatcher"),
    (3100000, .prepareAttempt reboundLease sceneProfile none),
    (3200000, .markSent reboundLease (sceneAttempt 1 3100000))]

/-- A new session without contact keeps the request for immediate delivery, and the next
contact sends it. -/
theorem not_sentInEpisode_of_rebind :
    ¬ ∀ (cfg : LedgerConfig) (start : Ledger), start.Unused → ∀ inputs,
      SentInEpisode cfg start inputs := by
  intro always
  have lost : ((((gdsMachine ⟨defaultOutboxPolicy, 16⟩).exec .migrated
      reboundInputs).commands.find? sceneKey).any fun c => c.deliveryMode = .immediate &&
        !((gdsMachine ⟨defaultOutboxPolicy, 16⟩).exec .migrated
          reboundInputs).contactOpen c.targetSpacecraftInstanceId) = true := by
    decide +kernel
  have unsent : ((gdsMachine ⟨defaultOutboxPolicy, 16⟩).exec .migrated
      reboundInputs).attempts.find? 1 = none := by
    decide +kernel
  have sent : ((((gdsMachine ⟨defaultOutboxPolicy, 16⟩).exec .migrated
      (reboundInputs ++ nextContactInputs)).attempts.find? 1).any fun a =>
        a.requestKey = sceneKey && a.sentAtUs = some 3200000) = true := by
    decide +kernel
  obtain ⟨c, command, found⟩ := (Option.any_eq_true _ _).mp lost
  obtain ⟨immediate, closed⟩ := Bool.and_eq_true_iff.mp found
  obtain ⟨a, stored, found⟩ := (Option.any_eq_true _ _).mp sent
  obtain ⟨ofKey, sentAt⟩ := Bool.and_eq_true_iff.mp found
  obtain ⟨a', before, -⟩ := always _ _ Ledger.unused_migrated _ reboundInputs nextContactInputs rfl
    sceneKey c command (of_decide_eq_true immediate) (by simpa using closed) 1 a stored
    (of_decide_eq_true ofKey) (by rw [of_decide_eq_true sentAt]; nofun)
  rw [unsent] at before
  cases before

end CubeNano

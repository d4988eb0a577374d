import CubeNano.Gds.RequestLifecycle

/-!
# The transactions stay within the life of a request

Every transaction of the ledger, seen at one request, is a step of
`RequestStep`, and seen at one attempt a step of `AttemptStep`.  The proofs go
statement by statement: what an `UPDATE` makes of one row, then what a transaction
makes of it.

## Main definitions

* `Ledger.Sound` — commands and outbox rows come in consistent pairs
* `Ledger.Change` — a committed transaction, seen at its requests and attempts

## Main statements

* `transact_change` — every transaction is such a change
* `requestEntries`, `attemptEntries` — the requests and attempts as entries of the machine
-/

namespace CubeNano

namespace Ledger

/-! ## One request -/

theorem request?_eq_some_iff {l : Ledger} {k : RequestKey} {r : Request} :
    l.request? k = some r ↔
      l.commands.find? k = some r.command ∧ l.outbox.find? k = some r.outbox := by
  obtain ⟨c, o⟩ := r
  unfold request?
  cases l.commands.find? k with
  | none => exact ⟨nofun, fun both => by cases both.1⟩
  | some c' =>
      cases l.outbox.find? k with
      | none => exact ⟨nofun, fun both => by cases both.2⟩
      | some o' =>
          constructor
          · intro same
            cases same
            exact ⟨rfl, rfl⟩
          · rintro ⟨commands, outbox⟩
            cases commands
            cases outbox
            rfl

theorem request?_congr {l l' : Ledger} (commands : l'.commands = l.commands)
    (outbox : l'.outbox = l.outbox) (k : RequestKey) : l'.request? k = l.request? k := by
  unfold request?
  rw [commands, outbox]

theorem hasDeliveryMode_of_request? {l : Ledger} {k : RequestKey} {r : Request}
    (here : l.request? k = some r) (mode : DeliveryMode) :
    l.hasDeliveryMode k mode = decide (r.command.deliveryMode = mode) := by
  rw [hasDeliveryMode, (request?_eq_some_iff.mp here).1]
  rfl

/-- The same commands and the same outbox rows, as keys. -/
structure SameKeys (l l' : Ledger) : Prop where
  commands : ∀ k, (l'.commands.find? k).isSome = (l.commands.find? k).isSome
  outbox : ∀ k, (l'.outbox.find? k).isSome = (l.outbox.find? k).isSome

namespace SameKeys

theorem of_eq {l l' : Ledger} (commands : l'.commands = l.commands)
    (outbox : l'.outbox = l.outbox) : SameKeys l l' :=
  ⟨fun _ => by rw [commands], fun _ => by rw [outbox]⟩

theorem trans {l l' l'' : Ledger} (first : SameKeys l l') (second : SameKeys l' l'') :
    SameKeys l l'' :=
  ⟨fun k => (second.commands k).trans (first.commands k),
    fun k => (second.outbox k).trans (first.outbox k)⟩

end SameKeys

/-! ## Statements -/

theorem updateOutbox_eq_ok {l l' : Ledger} {selects : RequestKey → OutboxRow → Bool}
    {assign : OutboxRow → OutboxRow} (done : l.updateOutbox selects assign = .ok l') :
    l' = { l with
      outbox := l.outbox.mapRows fun k row => if selects k row then assign row else row } := by
  unfold updateOutbox at done
  split at done
  · cases done
    rfl
  · cases done

/-- What `UPDATE command_outbox` makes of a request, and that it touches nothing else. -/
structure OutboxUpdate (l l' : Ledger) (selects : RequestKey → OutboxRow → Bool)
    (assign : OutboxRow → OutboxRow) : Prop where
  keys : SameKeys l l'
  request? : ∀ k r, l.request? k = some r →
    l'.request? k = some ⟨r.command, if selects k r.outbox then assign r.outbox else r.outbox⟩
  commands : l'.commands = l.commands
  attempts : l'.attempts = l.attempts
  instances : l'.instances = l.instances

theorem outboxUpdate_of_ok {l l' : Ledger} {selects : RequestKey → OutboxRow → Bool}
    {assign : OutboxRow → OutboxRow} (done : l.updateOutbox selects assign = .ok l') :
    OutboxUpdate l l' selects assign := by
  rw [updateOutbox_eq_ok done]
  refine ⟨⟨fun _ => rfl, fun k => ?_⟩, fun k r here => ?_, rfl, rfl, rfl⟩
  · show ((l.outbox.mapRows _).find? k).isSome = _
    rw [Table.find?_mapRows, Option.isSome_map]
  · obtain ⟨command, outbox⟩ := request?_eq_some_iff.mp here
    refine request?_eq_some_iff.mpr ⟨command, ?_⟩
    show (l.outbox.mapRows _).find? k = _
    rw [Table.find?_mapRows, outbox]
    rfl

namespace OutboxUpdate

variable {l l' : Ledger} {selects : RequestKey → OutboxRow → Bool}
  {assign : OutboxRow → OutboxRow} {k : RequestKey} {r : Request}

theorem selected (update : OutboxUpdate l l' selects assign) (here : l.request? k = some r)
    (yes : selects k r.outbox = true) : l'.request? k = some ⟨r.command, assign r.outbox⟩ := by
  rw [update.request? k r here, if_pos yes]

theorem skipped (update : OutboxUpdate l l' selects assign) (here : l.request? k = some r)
    (no : selects k r.outbox = false) : l'.request? k = some r := by
  rw [update.request? k r here, if_neg (by rw [no]; nofun)]

/-- The row is selected or stays. -/
theorem cases (update : OutboxUpdate l l' selects assign) (here : l.request? k = some r) :
    (selects k r.outbox = true ∧ l'.request? k = some ⟨r.command, assign r.outbox⟩) ∨
      (selects k r.outbox = false ∧ l'.request? k = some r) := by
  cases which : selects k r.outbox with
  | true => exact .inl ⟨rfl, update.selected here which⟩
  | false => exact .inr ⟨rfl, update.skipped here which⟩

end OutboxUpdate

/-- What `UPDATE commands` makes of a request. -/
theorem request?_updateCommands {l : Ledger} {selects : RequestKey → CommandRow → Bool}
    {assign : CommandRow → CommandRow} {k : RequestKey} {r : Request}
    (here : l.request? k = some r) : (l.updateCommands selects assign).request? k =
      some ⟨if selects k r.command then assign r.command else r.command, r.outbox⟩ := by
  obtain ⟨command, outbox⟩ := request?_eq_some_iff.mp here
  refine request?_eq_some_iff.mpr ⟨?_, outbox⟩
  show (l.commands.mapRows _).find? k = _
  rw [Table.find?_mapRows, command]
  rfl

theorem request?_updateCommands_selected {l : Ledger} {selects : RequestKey → CommandRow → Bool}
    {assign : CommandRow → CommandRow} {k : RequestKey} {r : Request}
    (here : l.request? k = some r) (yes : selects k r.command = true) :
    (l.updateCommands selects assign).request? k = some ⟨assign r.command, r.outbox⟩ := by
  rw [request?_updateCommands here, if_pos yes]

theorem request?_updateCommands_skipped {l : Ledger} {selects : RequestKey → CommandRow → Bool}
    {assign : CommandRow → CommandRow} {k : RequestKey} {r : Request}
    (here : l.request? k = some r) (no : selects k r.command = false) :
    (l.updateCommands selects assign).request? k = some r := by
  rw [request?_updateCommands here, if_neg (by rw [no]; nofun)]

theorem sameKeys_updateCommands (l : Ledger) (selects : RequestKey → CommandRow → Bool)
    (assign : CommandRow → CommandRow) : SameKeys l (l.updateCommands selects assign) := by
  refine ⟨fun k => ?_, fun _ => rfl⟩
  show ((l.commands.mapRows _).find? k).isSome = _
  rw [Table.find?_mapRows, Option.isSome_map]

theorem find?_updateAttempts (l : Ledger) (selects : ℕ → AttemptRow → Bool)
    (assign : AttemptRow → AttemptRow) (id : ℕ) :
    (l.updateAttempts selects assign).attempts.find? id =
      (l.attempts.find? id).map fun row => if selects id row then assign row else row :=
  Table.find?_mapRows ..

theorem updateInstance_eq_ok {l l' : Ledger} {id : U64} {now : ℕ}
    {assign : InstanceRow → InstanceRow} (done : l.updateInstance id now assign = .ok l') :
    ∃ instances, l' = { l with instances } := by
  unfold updateInstance at done
  split at done
  · cases done
    exact ⟨_, rfl⟩
  · cases done

theorem upsertInstance_eq_ok {l l' : Ledger} {binding : LinkBinding} {now : ℕ}
    (done : l.upsertInstance binding now = .ok l') : ∃ instances, l' = { l with instances } := by
  unfold upsertInstance at done
  simp only at done
  split at done
  · split at done
    · cases done
      exact ⟨_, rfl⟩
    · cases done
  · split at done
    · cases done
      exact ⟨_, rfl⟩
    · cases done

/-! ## Changes -/

/-- Commands and outbox rows come in consistent pairs. -/
structure Sound (l : Ledger) : Prop where
  paired : ∀ k, (l.commands.find? k).isSome = (l.outbox.find? k).isSome
  consistent : ∀ k r, l.request? k = some r → r.Consistent

/-- Attempts move by `AttemptStep`, and there are no new ones. -/
def AttemptsMove (l : Ledger) (now : ℕ) (op : LedgerOp) (l' : Ledger) : Prop :=
  ∀ id, (l.attempts.find? id = none → l'.attempts.find? id = none) ∧
    ∀ a, l.attempts.find? id = some a →
      ∃ a', l'.attempts.find? id = some a' ∧ AttemptStep l now op id a a'

theorem attemptsMove_of_eq {l l' : Ledger} {now : ℕ} {op : LedgerOp}
    (same : l'.attempts = l.attempts) : AttemptsMove l now op l' := by
  intro id
  rw [same]
  exact ⟨fun none => none, fun a found => ⟨a, found, .idle⟩⟩

/-- Requests and attempts move, and there are no new ones. -/
structure Moves (cfg : LedgerConfig) (l : Ledger) (now : ℕ) (op : LedgerOp)
    (result : Raises LedgerResult) (l' : Ledger) : Prop where
  keys : SameKeys l l'
  requests : ∀ k r, r.Consistent → l.request? k = some r →
    ∃ r', l'.request? k = some r' ∧ RequestStep cfg l now op result k r r'
  attempts : AttemptsMove l now op l'

/-- A committed transaction, seen at its requests and attempts. -/
structure Change (cfg : LedgerConfig) (l : Ledger) (now : ℕ) (op : LedgerOp)
    (result : Raises LedgerResult) (l' : Ledger) : Prop where
  paired : ∀ k, (l'.commands.find? k).isSome = (l'.outbox.find? k).isSome
  requests : ∀ k r, l.request? k = some r →
    ∃ r', l'.request? k = some r' ∧ RequestStep cfg l now op result k r r'
  admitted : ∀ k r, l.request? k = none → l'.request? k = some r → r.Fresh
  attempts : ∀ id a, l.attempts.find? id = some a →
    ∃ a', l'.attempts.find? id = some a' ∧ AttemptStep l now op id a a'
  prepared : ∀ id a, l.attempts.find? id = none → l'.attempts.find? id = some a →
    a.sentAtUs = none ∧ a.sendResult = .persistedNotSent ∧
      ∃ o, l'.outbox.find? a.requestKey = some o ∧ a.attemptNumber = o.attemptCount

variable {cfg : LedgerConfig} {l l' : Ledger} {now : ℕ} {op : LedgerOp}
  {result : Raises LedgerResult}

theorem request?_isSome (l : Ledger) (k : RequestKey) : (l.request? k).isSome =
    ((l.commands.find? k).isSome && (l.outbox.find? k).isSome) := by
  unfold request?
  cases l.commands.find? k <;> cases l.outbox.find? k <;> rfl

/-- A transaction without new requests is a change. -/
theorem Moves.change (moves : Moves cfg l now op result l') (sound : l.Sound) :
    Change cfg l now op result l' where
  paired k := by rw [moves.keys.commands, moves.keys.outbox, sound.paired]
  requests k r here := moves.requests k r (sound.consistent k r here) here
  admitted k r before after := by
    have same : (l'.request? k).isSome = (l.request? k).isSome := by
      rw [request?_isSome, request?_isSome, moves.keys.commands, moves.keys.outbox]
    rw [before, after] at same
    cases same
  attempts id := (moves.attempts id).2
  prepared id a before after := by
    rw [(moves.attempts id).1 before] at after
    cases after

/-- A transaction that leaves commands, rows and attempts alone. -/
theorem moves_of_eq (commands : l'.commands = l.commands) (outbox : l'.outbox = l.outbox)
    (attempts : l'.attempts = l.attempts) : Moves cfg l now op result l' where
  keys := .of_eq commands outbox
  requests k r _ here := ⟨r, (request?_congr commands outbox k).trans here, .idle⟩
  attempts := attemptsMove_of_eq attempts

/-! ## Instances and contact -/

theorem registerInstance_moves {binding binding' : LinkBinding}
    (done : l.registerInstance binding now = .ok (binding', l')) :
    Moves cfg l now op result l' := by
  have registered : ∃ instances, l' = { l with instances } := by
    unfold registerInstance at done
    split at done
    · obtain ⟨registered, upserted, done⟩ := bind_eq_ok_iff.mp done
      cases done
      exact upsertInstance_eq_ok upserted
    · split at done
      · cases done
      · obtain ⟨_, -, done⟩ := bind_eq_ok_iff.mp done
        obtain ⟨registered, upserted, done⟩ := bind_eq_ok_iff.mp done
        cases done
        exact upsertInstance_eq_ok upserted
  obtain ⟨instances, rfl⟩ := registered
  exact moves_of_eq rfl rfl rfl

/-- Contact opens: held rows become pending, sent rows get a deadline. -/
theorem openContact_moves {policy : OutboxPolicy} {target : U64} {noted opened : Ledger}
    (done : noted.openContact policy target now = .ok opened)
    (base : ∀ k, noted.request? k = l.request? k) (keys : SameKeys l noted)
    (attempts : noted.attempts = l.attempts) :
    Moves cfg l now op result opened := by
  obtain ⟨released, first, second⟩ := bind_eq_ok_iff.mp done
  have release := outboxUpdate_of_ok first
  have arm := outboxUpdate_of_ok second
  refine ⟨(keys.trans release.keys).trans arm.keys, fun k r consistent here => ?_,
    attemptsMove_of_eq (arm.attempts.trans (release.attempts.trans attempts))⟩
  have inNoted := (base k).trans here
  rcases release.cases inNoted with ⟨opens, inReleased⟩ | ⟨-, inReleased⟩
  · simp only [Bool.and_eq_true, decide_eq_true_eq] at opens
    obtain ⟨⟨⟨-, isHeld⟩, -⟩, -⟩ := opens
    -- a row that became pending is not sent
    refine ⟨_, arm.skipped inReleased (by simp [OutboxRow.openedAt]), ?_⟩
    refine .waits (by rw [isHeld]; rfl) ⟨rfl, rfl⟩ (.inr rfl) rfl
      (consistent.leaseOwner_eq_none (by rw [isHeld]; decide)) fun busy => ?_
    rw [isHeld] at busy
    rcases busy with busy | busy <;> cases busy
  · rcases arm.cases inReleased with ⟨arms, inOpened⟩ | ⟨-, inOpened⟩
    · simp only [Bool.and_eq_true, decide_eq_true_eq] at arms
      obtain ⟨⟨⟨⟨-, isSent⟩, -⟩, -⟩, -⟩ := arms
      exact ⟨_, inOpened, .deadline isSent ⟨rfl, rfl⟩ isSent rfl rfl⟩
    · exact ⟨_, inOpened, .idle⟩

/-- A consistent request is not an admitted command with a failed row. -/
theorem not_admitted_failed {r : Request} (consistent : r.Consistent)
    (admitted : r.command.commandState = .admitted) (failed : r.outbox.state = .deliveryFailed) :
    False := by
  have nonterminal := consistent.admitted_iff.mpr admitted
  rw [failed] at nonterminal
  cases nonterminal

/-- The update that closes the commands of the rows that a statement before it failed
with a code. -/
theorem closeCommands_moves {changed : Ledger} (target : U64) (code : String)
    (attempts : AttemptsMove l now op changed) (keys : SameKeys l changed)
    (rows : ∀ k r, r.Consistent → l.request? k = some r →
      (r.outbox.targetSpacecraftInstanceId = target ∧ r.outbox.state.nonterminal = true ∧
        changed.request? k = some ⟨r.command, r.outbox.failedAt code now⟩) ∨
      ∃ o, changed.request? k = some ⟨r.command, o⟩ ∧
        RequestStep cfg l now op result k r ⟨r.command, o⟩) :
    Moves cfg l now op result (changed.updateCommands
      (fun k c => c.targetSpacecraftInstanceId = target && c.commandState = .admitted &&
        (changed.outbox.find? k).any fun o =>
          o.state = .deliveryFailed && o.lastErrorCode = some code)
      (CommandRow.closedAt .failed now)) := by
  refine ⟨keys.trans (sameKeys_updateCommands ..), fun k r consistent here => ?_, attempts⟩
  rcases rows k r consistent here with ⟨ofTarget, nonterminal, failed⟩ | ⟨o, inChanged, step⟩
  · refine ⟨_, request?_updateCommands_selected failed ?_,
      .fails nonterminal ⟨rfl, rfl⟩ (.inr rfl) rfl rfl⟩
    rw [(request?_eq_some_iff.mp failed).2]
    simp [OutboxRow.failedAt, ← consistent.target, ofTarget,
      consistent.admitted_iff.mp nonterminal]
  · -- a consistent request has no failed row with an admitted command
    refine ⟨_, request?_updateCommands_skipped inChanged ?_, step⟩
    rw [(request?_eq_some_iff.mp inChanged).2]
    by_contra selected
    simp only [Bool.not_eq_false, Bool.and_eq_true, decide_eq_true_eq, Option.any_some] at selected
    exact not_admitted_failed (step.consistent consistent) selected.1.2 selected.2.1

/-- Contact closes: waiting and leased rows are held, rows for immediate delivery
fail with their commands. -/
theorem closeContact_moves {target : U64} {contact : GroundContactState} {noted closed : Ledger}
    (done : noted.closeContact target now = .ok closed)
    (base : ∀ k, noted.request? k = l.request? k) (keys : SameKeys l noted)
    (attempts : noted.attempts = l.attempts) (shut : contact.isOpen = false)
    (changes : (l.instances.find? target).any (·.contactState ≠ contact) = true) :
    Moves cfg l now (.setContactState target contact) result closed := by
  obtain ⟨held, first, done⟩ := bind_eq_ok_iff.mp done
  obtain ⟨paused, second, done⟩ := bind_eq_ok_iff.mp done
  obtain ⟨failed, third, done⟩ := bind_eq_ok_iff.mp done
  cases done
  have hold := outboxUpdate_of_ok first
  have pause := outboxUpdate_of_ok second
  have fail := outboxUpdate_of_ok third
  refine closeCommands_moves target "CONTACT_LOST"
    (attemptsMove_of_eq
      (fail.attempts.trans (pause.attempts.trans (hold.attempts.trans attempts))))
    ((keys.trans hold.keys).trans (pause.keys.trans fail.keys)) fun k r consistent here => ?_
  have inNoted := (base k).trans here
  have hasMode (mode : DeliveryMode) : noted.hasDeliveryMode k mode =
      decide (r.command.deliveryMode = mode) := hasDeliveryMode_of_request? inNoted mode
  rcases hold.cases inNoted with ⟨holds, inHeld⟩ | ⟨-, inHeld⟩
  · -- a held row is neither sent nor for immediate delivery
    simp only [Bool.and_eq_true, Bool.or_eq_true, decide_eq_true_eq, hasMode] at holds
    obtain ⟨⟨⟨ofTarget, waiting⟩, unexpired⟩, mode⟩ := holds
    have inPaused := pause.skipped inHeld (by simp [OutboxRow.heldAt])
    refine .inr ⟨_, fail.skipped inPaused (by simp [hasMode, mode]), ?_⟩
    refine .waits ?_ ⟨rfl, rfl⟩ (.inl rfl) rfl rfl fun busy => .inr ?_
    · rcases waiting with waiting | waiting <;> rw [waiting] <;> rfl
    · refine ⟨shut, changes, ?_, ofTarget, unexpired, mode⟩
      rcases waiting with waiting | waiting
      · rw [waiting] at busy
        rcases busy with busy | busy <;> cases busy
      · exact waiting
  rcases pause.cases inHeld with ⟨pauses, inPaused⟩ | ⟨-, inPaused⟩
  · simp only [Bool.and_eq_true, decide_eq_true_eq, hasMode] at pauses
    obtain ⟨⟨⟨-, isSent⟩, -⟩, mode⟩ := pauses
    exact .inr ⟨_, fail.skipped inPaused (by simp [hasMode, mode]),
      .deadline isSent ⟨rfl, rfl⟩ isSent rfl rfl⟩
  rcases fail.cases inPaused with ⟨fails, inFailed⟩ | ⟨-, inFailed⟩
  · simp only [Bool.and_eq_true, decide_eq_true_eq] at fails
    exact .inl ⟨fails.1.1.1, fails.1.1.2, inFailed⟩
  · exact .inr ⟨_, inFailed, .idle⟩

theorem setContactState_moves {policy : OutboxPolicy} {target : U64} {contact : GroundContactState}
    {binding : LinkBinding}
    (done : l.setContactState policy target contact now = .ok (binding, l')) :
    Moves cfg l now (.setContactState target contact) result l' := by
  unfold setContactState at done
  split at done
  · cases done
  · rename_i row found
    split at done
    · obtain ⟨noted, note, done⟩ := bind_eq_ok_iff.mp done
      obtain ⟨updated, update, done⟩ := bind_eq_ok_iff.mp done
      cases done
      obtain ⟨instances, rfl⟩ := updateInstance_eq_ok note
      split at update
      · cases update
        exact moves_of_eq rfl rfl rfl
      · rename_i changes
        split at update
        · exact openContact_moves update (fun _ => rfl) (.of_eq rfl rfl) rfl
        · rename_i shut
          refine closeContact_moves update (fun _ => rfl) (.of_eq rfl rfl) rfl
            (by simpa using shut) ?_
          rw [found]
          simpa using changes
    · cases done

end Ledger

end CubeNano

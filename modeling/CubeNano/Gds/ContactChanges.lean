import CubeNano.Gds.ContactFrame

/-!
# Changes of contact

What `register_instance`, `bind` and `set_contact_state` make of the recorded contact
and of the rows that depend on it.  Only `set_contact_state` looks at the delivery mode
of a row; `bind` puts every row of a rebound spacecraft back to pending and
`register_instance` leaves the rows alone.

## Main definitions

* `Ledger.BoundRow`, `Ledger.BindContact` — a binding
* `Ledger.ContactRow`, `Ledger.ContactSet` — a contact state that was set

## Main statements

* `Ledger.registerInstance_contact`, `Ledger.bind_contact`, `Ledger.setContactState_contact`
-/

namespace CubeNano

namespace Ledger

variable {l l' : Ledger} {now : ℕ}

/-! ## Registration and binding -/

/-- A new instance row carries the contact of its binding. -/
theorem upsertInstance_contactOpen {binding : LinkBinding}
    (done : l.upsertInstance binding now = .ok l') (target : U64) :
    l'.contactOpen target = if target = binding.spacecraftInstanceId then
      binding.contactState.isOpen else l.contactOpen target := by
  have stored : ∃ row : InstanceRow, row.contactState = binding.contactState ∧
      l'.instances = l.instances.set binding.spacecraftInstanceId row := by
    unfold upsertInstance at done
    simp only at done
    split at done
    · split at done
      · cases done
        exact ⟨_, rfl, rfl⟩
      · cases done
    · split at done
      · cases done
        exact ⟨_, rfl, rfl⟩
      · cases done
  obtain ⟨row, contact, instances⟩ := stored
  rw [contactOpen, instances, Table.find?_set]
  split
  · show decide (row.contactState = .contactOpen) = _
    rw [contact]
    rfl
  · rfl

/-- `register_instance` records a contact and leaves the rows alone. -/
theorem registerInstance_contact {binding binding' : LinkBinding}
    (done : l.registerInstance binding now = .ok (binding', l')) :
    l'.commands = l.commands ∧ l'.outbox = l.outbox ∧ ∀ target, l'.contactOpen target =
      if target = binding.spacecraftInstanceId then binding.contactState.isOpen
      else l.contactOpen target := by
  have upserted : l.upsertInstance binding now = .ok l' := by
    unfold registerInstance at done
    split at done
    · obtain ⟨registered, upserted, done⟩ := bind_eq_ok_iff.mp done
      cases done
      exact upserted
    · split at done
      · cases done
      · obtain ⟨_, -, done⟩ := bind_eq_ok_iff.mp done
        obtain ⟨registered, upserted, done⟩ := bind_eq_ok_iff.mp done
        cases done
        exact upserted
  obtain ⟨instances, same⟩ := upsertInstance_eq_ok upserted
  exact ⟨by rw [same], by rw [same], upsertInstance_contactOpen upserted⟩

/-- The new metadata and instance row of a binding record its contact. -/
theorem publishBinding_contactOpen {metadata : MetadataRow} {current : LinkBinding}
    (done : l.publishBinding metadata current now = .ok l') (target : U64) :
    l'.contactOpen target = if target = current.spacecraftInstanceId then
      current.contactState.isOpen else l.contactOpen target := by
  obtain ⟨published, upsert, done⟩ := bind_eq_ok_iff.mp done
  cases done
  exact upsertInstance_contactOpen upsert target

/-- The spacecraft of the metadata. -/
def boundTo (l : Ledger) (target : U64) : Bool :=
  (l.metadata.bind MetadataRow.bound).any fun b => b.spacecraftInstanceId = target

/-- What a binding makes of a row. -/
structure BoundRow (l l' : Ledger) (current : LinkBinding) (o o' : OutboxRow) : Prop where
  target : o'.targetSpacecraftInstanceId = o.targetSpacecraftInstanceId
  stuck : o' = o ∨ o'.stuck = false
  /-- Another link of the bound spacecraft leaves none of its rows stuck. -/
  rebound : l.boundTo current.spacecraftInstanceId = true →
    o.targetSpacecraftInstanceId = current.spacecraftInstanceId →
      l.contactOpen current.spacecraftInstanceId = current.contactState.isOpen ∨ o'.stuck = false
  /-- Another spacecraft keeps its contact, or its rows have ended. -/
  others : o.targetSpacecraftInstanceId ≠ current.spacecraftInstanceId →
    l'.contactOpen o.targetSpacecraftInstanceId = l.contactOpen o.targetSpacecraftInstanceId ∨
      o'.state.nonterminal = false

/-- What a binding makes of contact and rows. -/
structure BindContact (l l' : Ledger) (current : LinkBinding) : Prop where
  contact : l'.contactOpen current.spacecraftInstanceId = current.contactState.isOpen
  rows : ∀ k r, l.request? k = some r →
    ∃ r', l'.request? k = some r' ∧ BoundRow l l' current r.outbox r'.outbox

/-- A binding that leaves the rows alone. -/
theorem publishBinding_bindContact {metadata : MetadataRow} {current : LinkBinding}
    (done : l.publishBinding metadata current now = .ok l')
    (rebound : l.boundTo current.spacecraftInstanceId = true →
      l.contactOpen current.spacecraftInstanceId = current.contactState.isOpen) :
    BindContact l l' current := by
  obtain ⟨commands, outbox, -⟩ := publishBinding_eq_ok done
  have contact := publishBinding_contactOpen done
  refine ⟨by rw [contact, if_pos rfl],
    fun k r here => ⟨r, (request?_congr commands outbox k).trans here, rfl, .inl rfl,
      fun bound _ => .inl (rebound bound), fun other => .inl ?_⟩⟩
  rw [contact, if_neg other]

/-- The rows of a rebound spacecraft are pending. -/
theorem rebindRows_contact {old : U64} (done : l.rebindRows old now = .ok l') :
    l'.instances = l.instances ∧ ∀ k r, l.request? k = some r → ∃ r', l'.request? k = some r' ∧
      r'.outbox.targetSpacecraftInstanceId = r.outbox.targetSpacecraftInstanceId ∧
        (r'.outbox = r.outbox ∨ r'.outbox.stuck = false) ∧
          (r.outbox.targetSpacecraftInstanceId = old → r'.outbox.stuck = false) := by
  obtain ⟨rebound, update, done⟩ := bind_eq_ok_iff.mp done
  cases done
  have rebind := outboxUpdate_of_ok update
  refine ⟨rebind.instances, fun k r here => ?_⟩
  rcases rebind.cases here with ⟨-, inRebound⟩ | ⟨skipped, inRebound⟩
  · exact ⟨_, inRebound, rfl, .inr rfl, fun _ => rfl⟩
  · refine ⟨r, inRebound, rfl, .inl rfl, fun ofOld => not_stuck_of_terminal ?_⟩
    simpa [ofOld] using skipped

/-- An update of an instance row that records a contact. -/
theorem updateInstance_contactOpen {id : U64} {assign : InstanceRow → InstanceRow}
    {contact : GroundContactState} (done : l.updateInstance id now assign = .ok l')
    (records : ∀ row, (assign row).contactState = contact) (target : U64) :
    l'.contactOpen target = if target = id then (l.instances.find? id).isSome && contact.isOpen
      else l.contactOpen target := by
  unfold updateInstance at done
  split at done
  · cases done
    show ((l.instances.update id _).find? target).any _ = _
    rw [Table.find?_update]
    split
    · rename_i same
      subst same
      cases l.instances.find? target with
      | none => rfl
      | some row =>
          show decide ((assign row).contactState = .contactOpen) = _
          rw [records]
          rfl
    · rfl
  · cases done

/-- The rows of a retired spacecraft have ended. -/
theorem retireInstance_contact {old : U64} (done : l.retireInstance old now = .ok l') :
    (∀ target, target ≠ old → l'.contactOpen target = l.contactOpen target) ∧
      ∀ k r, l.request? k = some r → ∃ r', l'.request? k = some r' ∧
        r'.outbox.targetSpacecraftInstanceId = r.outbox.targetSpacecraftInstanceId ∧
          (r'.outbox = r.outbox ∨ r'.outbox.state.nonterminal = false) ∧
            (r.outbox.targetSpacecraftInstanceId = old → r'.outbox.state.nonterminal = false) := by
  obtain ⟨failed, update, done⟩ := bind_eq_ok_iff.mp done
  have fail := outboxUpdate_of_ok update
  refine ⟨fun target other => ?_, fun k r here => ?_⟩
  · have contact := updateInstance_contactOpen done (fun _ => rfl) target
    rw [if_neg other] at contact
    exact contact.trans (contactOpen_congr fail.instances target)
  · obtain ⟨instances, rfl⟩ := updateInstance_eq_ok done
    rcases fail.cases here with ⟨-, inFailed⟩ | ⟨skipped, inFailed⟩
    · exact ⟨_, request?_updateCommands inFailed, rfl, .inr rfl, fun _ => rfl⟩
    · refine ⟨_, request?_updateCommands inFailed, rfl, .inl rfl, fun ofOld => ?_⟩
      simpa [retiredRows, ofOld] using skipped

/-- The bound spacecraft of the metadata is the previous binding. -/
theorem boundTo_of_previousBinding {metadata : MetadataRow} {previous : LinkBinding}
    (initialized : l.metadata = some metadata)
    (bound : l.previousBinding metadata = some previous) (target : U64) :
    l.boundTo target = decide (previous.spacecraftInstanceId = target) := by
  obtain ⟨b, stored, rfl⟩ := Option.map_eq_some_iff.mp bound
  rw [boundTo, initialized, Option.bind_some, stored]
  rfl

/-- The contact of the previous binding is the recorded one. -/
theorem contactOpen_of_previousBinding {metadata : MetadataRow} {previous : LinkBinding}
    (bound : l.previousBinding metadata = some previous) :
    l.contactOpen previous.spacecraftInstanceId = previous.contactState.isOpen := by
  obtain ⟨b, -, rfl⟩ := Option.map_eq_some_iff.mp bound
  show (l.instances.find? b.spacecraftInstanceId).any _ =
    GroundContactState.isOpen (l.readContactState b.spacecraftInstanceId)
  unfold readContactState
  cases l.instances.find? b.spacecraftInstanceId <;> rfl

/-- What `bind` makes of contact and rows. -/
theorem bind_contact {current : LinkBinding} {migration : BindingMigration}
    (done : l.bind current now = .ok (migration, l')) : BindContact l l' current := by
  unfold bind at done
  split at done
  · cases done
  rename_i metadata initialized
  obtain ⟨_, -, done⟩ := bind_eq_ok_iff.mp done
  split at done
  · rename_i free
    obtain ⟨published, publish, done⟩ := bind_eq_ok_iff.mp done
    cases done
    refine publishBinding_bindContact publish fun bound => ?_
    rw [boundTo, initialized, Option.bind_some, Option.map_eq_none_iff.mp free] at bound
    cases bound
  rename_i previous bound
  split at done
  · cases done
  split at done
  · rename_i same
    subst same
    obtain ⟨published, publish, done⟩ := bind_eq_ok_iff.mp done
    cases done
    exact publishBinding_bindContact publish fun _ => contactOpen_of_previousBinding bound
  split at done
  · rename_i sameId
    obtain ⟨rebound, rebind, done⟩ := bind_eq_ok_iff.mp done
    obtain ⟨published, publish, done⟩ := bind_eq_ok_iff.mp done
    cases done
    rw [sameId] at rebind
    obtain ⟨instances, rows⟩ := rebindRows_contact rebind
    obtain ⟨commands, outbox, -⟩ := publishBinding_eq_ok publish
    have contact := publishBinding_contactOpen publish
    refine ⟨by rw [contact, if_pos rfl], fun k r here => ?_⟩
    obtain ⟨r', inRebound, target, kept, freed⟩ := rows k r here
    refine ⟨r', (request?_congr commands outbox k).trans inRebound, target, kept,
      fun _ ofTarget => .inr (freed ofTarget), fun other => .inl ?_⟩
    rw [contact, if_neg other, contactOpen_congr instances]
  · rename_i otherId
    obtain ⟨retired, retire, done⟩ := bind_eq_ok_iff.mp done
    obtain ⟨published, publish, done⟩ := bind_eq_ok_iff.mp done
    cases done
    obtain ⟨contactOfOthers, rows⟩ := retireInstance_contact retire
    obtain ⟨commands, outbox, -⟩ := publishBinding_eq_ok publish
    have contact := publishBinding_contactOpen publish
    refine ⟨by rw [contact, if_pos rfl], fun k r here => ?_⟩
    obtain ⟨r', inRetired, target, kept, ended⟩ := rows k r here
    refine ⟨r', (request?_congr commands outbox k).trans inRetired, target,
      kept.imp_right not_stuck_of_terminal, fun isBound => ?_, fun other => ?_⟩
    · rw [boundTo_of_previousBinding initialized bound] at isBound
      exact absurd (of_decide_eq_true isBound) otherId
    · by_cases ofOld : r.outbox.targetSpacecraftInstanceId = previous.spacecraftInstanceId
      · exact .inr (ended ofOld)
      · rw [contact, if_neg other]
        exact .inl (contactOfOthers _ ofOld)

/-! ## Contact states -/

/-- What `set_contact_state` makes of a row with a delivery mode. -/
structure ContactRow (l : Ledger) (target : U64) (contact : GroundContactState) (now : ℕ)
    (mode : DeliveryMode) (o o' : OutboxRow) : Prop where
  others : o.targetSpacecraftInstanceId ≠ target → o' = o
  sameTarget : o'.targetSpacecraftInstanceId = o.targetSpacecraftInstanceId
  /-- Rows for the next contact that are not expired move on when contact opens. -/
  opened : o.targetSpacecraftInstanceId = target → contact.isOpen = true → mode = .nextContact →
    now < o.expiresAtUs → o' = o ∧ l.contactOpen target = true ∨ o'.stuck = false
  /-- Rows for immediate delivery that are not expired fail when contact closes. -/
  closed : o.targetSpacecraftInstanceId = target → contact.isOpen = false → mode = .immediate →
    now < o.expiresAtUs → o' = o ∧ l.contactOpen target = false ∨ o'.state.nonterminal = false

/-- What `set_contact_state` makes of contact and rows. -/
structure ContactSet (l l' : Ledger) (target : U64) (contact : GroundContactState) (now : ℕ) :
    Prop where
  recorded : ∀ other, l'.contactOpen other =
    if other = target then contact.isOpen else l.contactOpen other
  rows : ∀ k r, l.request? k = some r → ∃ r', l'.request? k = some r' ∧
    ContactRow l target contact now r.command.deliveryMode r.outbox r'.outbox

theorem openContact_instances {policy : OutboxPolicy} {target : U64}
    (done : l.openContact policy target now = .ok l') : l'.instances = l.instances := by
  obtain ⟨released, first, second⟩ := bind_eq_ok_iff.mp done
  exact (outboxUpdate_of_ok second).instances.trans (outboxUpdate_of_ok first).instances

theorem closeContact_instances {target : U64} (done : l.closeContact target now = .ok l') :
    l'.instances = l.instances := by
  obtain ⟨held, first, done⟩ := bind_eq_ok_iff.mp done
  obtain ⟨paused, second, done⟩ := bind_eq_ok_iff.mp done
  obtain ⟨failed, third, done⟩ := bind_eq_ok_iff.mp done
  cases done
  have base := (outboxUpdate_of_ok second).instances.trans (outboxUpdate_of_ok first).instances
  exact (outboxUpdate_of_ok third).instances.trans base

/-- The rows of an opened contact: what waits for it moves on. -/
theorem openContact_rows {policy : OutboxPolicy} {target : U64} {opened : Ledger}
    (done : l.openContact policy target now = .ok opened) {k : RequestKey} {r : Request}
    (here : l.request? k = some r) : ∃ r', opened.request? k = some r' ∧
      r'.outbox.targetSpacecraftInstanceId = r.outbox.targetSpacecraftInstanceId ∧
      (r.outbox.targetSpacecraftInstanceId ≠ target → r'.outbox = r.outbox) ∧
      (r.outbox.targetSpacecraftInstanceId = target → r.command.deliveryMode = .nextContact →
        now < r.outbox.expiresAtUs → r'.outbox.stuck = false) := by
  obtain ⟨released, first, second⟩ := bind_eq_ok_iff.mp done
  have release := outboxUpdate_of_ok first
  have arm := outboxUpdate_of_ok second
  have hasMode := hasDeliveryMode_of_request? here
  rcases release.cases here with ⟨opens, inReleased⟩ | ⟨notHeld, inReleased⟩
  · have ofTarget : r.outbox.targetSpacecraftInstanceId = target := by
      simp only [Bool.and_eq_true, decide_eq_true_eq] at opens
      exact opens.1.1.1
    -- a row that became pending is not sent
    refine ⟨_, arm.skipped inReleased (by simp [OutboxRow.openedAt]), rfl, fun other => ?_,
      fun _ _ _ => rfl⟩
    exact absurd ofTarget other
  rcases arm.cases inReleased with ⟨arms, inOpened⟩ | ⟨notPaused, inOpened⟩
  · have ofTarget : r.outbox.targetSpacecraftInstanceId = target := by
      simp only [Bool.and_eq_true, decide_eq_true_eq] at arms
      exact arms.1.1.1.1
    have isSent : r.outbox.state = .sent := by
      simp only [Bool.and_eq_true, decide_eq_true_eq] at arms
      exact arms.1.1.1.2
    refine ⟨_, inOpened, rfl, fun other => absurd ofTarget other, fun _ _ _ => ?_⟩
    simp [OutboxRow.stuck, OutboxRow.withDeadline, isSent]
  · refine ⟨_, inOpened, rfl, fun _ => rfl, fun ofTarget mode unexpired => ?_⟩
    have held : r.outbox.state ≠ .heldNoContact := by
      simpa [ofTarget, unexpired, hasMode, mode] using notHeld
    have paused : r.outbox.state = .sent → r.outbox.ackDeadlineAtUs ≠ none := by
      simpa [ofTarget, unexpired, hasMode, mode] using notPaused
    rw [Bool.eq_false_iff]
    intro stuck
    rcases Bool.or_eq_true_iff.mp stuck with isHeld | isPaused
    · exact held (of_decide_eq_true isHeld)
    · obtain ⟨isSent, undated⟩ := Bool.and_eq_true_iff.mp isPaused
      exact paused (of_decide_eq_true isSent) (of_decide_eq_true undated)

/-- The rows of a closed contact: what is for immediate delivery has ended. -/
theorem closeContact_rows {target : U64} {closed : Ledger}
    (done : l.closeContact target now = .ok closed) {k : RequestKey} {r : Request}
    (here : l.request? k = some r) : ∃ r', closed.request? k = some r' ∧
      r'.outbox.targetSpacecraftInstanceId = r.outbox.targetSpacecraftInstanceId ∧
      (r.outbox.targetSpacecraftInstanceId ≠ target → r'.outbox = r.outbox) ∧
      (r.outbox.targetSpacecraftInstanceId = target → r.command.deliveryMode = .immediate →
        now < r.outbox.expiresAtUs → r'.outbox.state.nonterminal = false) := by
  obtain ⟨held, first, done⟩ := bind_eq_ok_iff.mp done
  obtain ⟨paused, second, done⟩ := bind_eq_ok_iff.mp done
  obtain ⟨failed, third, done⟩ := bind_eq_ok_iff.mp done
  cases done
  have hold := outboxUpdate_of_ok first
  have pause := outboxUpdate_of_ok second
  have fail := outboxUpdate_of_ok third
  have hasMode := hasDeliveryMode_of_request? here
  rcases hold.cases here with ⟨holds, inHeld⟩ | ⟨-, inHeld⟩
  · -- a held row is for the next contact
    simp only [Bool.and_eq_true, decide_eq_true_eq, hasMode] at holds
    obtain ⟨⟨⟨ofTarget, -⟩, -⟩, mode⟩ := holds
    have inPaused := pause.skipped inHeld (by simp [OutboxRow.heldAt])
    have inFailed := fail.skipped inPaused (by simp [hasMode, mode])
    refine ⟨_, request?_updateCommands inFailed, rfl, fun other => absurd ofTarget other,
      fun _ immediate => ?_⟩
    rw [mode] at immediate
    cases immediate
  rcases pause.cases inHeld with ⟨pauses, inPaused⟩ | ⟨-, inPaused⟩
  · simp only [Bool.and_eq_true, decide_eq_true_eq, hasMode] at pauses
    obtain ⟨⟨⟨ofTarget, -⟩, -⟩, mode⟩ := pauses
    have inFailed := fail.skipped inPaused (by simp [hasMode, mode])
    refine ⟨_, request?_updateCommands inFailed, rfl, fun other => absurd ofTarget other,
      fun _ immediate => ?_⟩
    rw [mode] at immediate
    cases immediate
  rcases fail.cases inPaused with ⟨fails, inFailed⟩ | ⟨survives, inFailed⟩
  · simp only [Bool.and_eq_true, decide_eq_true_eq] at fails
    exact ⟨_, request?_updateCommands inFailed, rfl, fun other => absurd fails.1.1.1 other,
      fun _ _ _ => rfl⟩
  · refine ⟨_, request?_updateCommands inFailed, rfl, fun _ => rfl,
      fun ofTarget immediate unexpired => ?_⟩
    simpa [ofTarget, unexpired, hasMode, immediate] using survives

/-- What `set_contact_state` makes of contact and rows. -/
theorem setContactState_contact {policy : OutboxPolicy} {target : U64}
    {contact : GroundContactState} {binding : LinkBinding}
    (done : l.setContactState policy target contact now = .ok (binding, l')) :
    ContactSet l l' target contact now := by
  unfold setContactState at done
  split at done
  · cases done
  rename_i row found
  split at done
  · obtain ⟨noted, note, done⟩ := bind_eq_ok_iff.mp done
    obtain ⟨updated, update, done⟩ := bind_eq_ok_iff.mp done
    cases done
    have noting := updateInstance_contactOpen note (fun _ => rfl)
    have here (other : U64) : noted.contactOpen other =
        if other = target then contact.isOpen else l.contactOpen other := by
      rw [noting, found]
      rfl
    obtain ⟨instances, rfl⟩ := updateInstance_eq_ok note
    split at update
    · rename_i same
      cases update
      have before : l.contactOpen target = contact.isOpen := by
        rw [contactOpen, found, ← same]
        rfl
      refine ⟨here, fun k r stored => ⟨r, stored, fun _ => rfl, rfl, fun _ isOpen _ _ => .inl ?_,
        fun _ isClosed _ _ => .inl ?_⟩⟩
      · exact ⟨rfl, before.trans isOpen⟩
      · exact ⟨rfl, before.trans isClosed⟩
    split at update
    · rename_i isOpen
      refine ⟨fun other => ?_, fun k r stored => ?_⟩
      · exact (contactOpen_congr (openContact_instances update) other).trans (here other)
      · obtain ⟨r', after, sameTarget, others, moved⟩ := openContact_rows update (r := r) stored
        exact ⟨r', after, others, sameTarget,
          fun ofTarget _ mode unexpired => .inr (moved ofTarget mode unexpired),
          fun _ isClosed => by rw [isOpen] at isClosed; cases isClosed⟩
    · rename_i isClosed
      refine ⟨fun other => ?_, fun k r stored => ?_⟩
      · exact (contactOpen_congr (closeContact_instances update) other).trans (here other)
      · obtain ⟨r', after, sameTarget, others, ended⟩ := closeContact_rows update (r := r) stored
        exact ⟨r', after, others, sameTarget, fun _ isOpen => absurd isOpen isClosed,
          fun ofTarget _ mode unexpired => .inr (ended ofTarget mode unexpired)⟩
  · cases done

end Ledger

end CubeNano

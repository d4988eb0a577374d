import CubeNano.Gds.ContactChanges
import CubeNano.Lib.Machine

/-!
# The history of the binding

`bind` and `register_instance` write the same rows of `spacecraft_instances`.  `BindingKept`
says what every call of them is meant to keep; a call does exactly when it `Respects` what the
other one checks.

## Main definitions

* `Ledger.link?`, `Ledger.boundLink` — what the two operations read and write
* `BindingKept` — generations, sessions, retirement and the bound instance
* `BindingOp.Respects` — the condition on an operation

## Main statements

* `bindingKept_iff` — one operation
* `bindingKept_iff_respects` — every run
-/

namespace CubeNano

/-- The link columns of an instance. -/
structure LinkRecord where
  generation : U64
  session : Option U64
  state : InstanceState
  deriving DecidableEq

namespace LinkRecord

/-- What `checkGeneration` accepts after a record. -/
def Accepts (r : LinkRecord) (generation session : U64) : Prop :=
  r.generation ≤ generation ∧
    (generation = r.generation → r.session = none ∨ r.session = some session)

/-- A later record of the same instance. -/
structure Follows (r r' : LinkRecord) : Prop where
  generation : r.generation ≤ r'.generation
  session : r'.session ≠ r.session → r.generation < r'.generation
  retired : r.state = .retired → r'.state = .retired

theorem Follows.refl (r : LinkRecord) : r.Follows r :=
  ⟨le_rfl, fun other => absurd rfl other, id⟩

end LinkRecord

namespace Ledger

variable {l l' : Ledger} {now : ℕ}

/-- The link columns of the row of an instance. -/
def link? (l : Ledger) (id : U64) : Option LinkRecord :=
  (l.instances.find? id).map fun row => ⟨row.linkGeneration, row.linkSessionId, row.state⟩

/-- The binding in the metadata. -/
def boundLink (l : Ledger) : Option BoundLink := l.metadata.bind MetadataRow.bound

/-- The record a binding writes. -/
def recordOf (binding : LinkBinding) : LinkRecord :=
  ⟨binding.linkGeneration, some binding.linkSessionId, .active⟩

/-- The row of an instance refuses a write: it is retired, or the clock is before it. -/
def refuses (l : Ledger) (id : U64) (now : ℕ) : Bool :=
  (l.instances.find? id).any fun row => row.state = .retired || now < row.firstSeenAtUs

/-! ## The effect of the transactions -/

theorem checkGeneration_eq_ok_iff {row : InstanceRow} {generation session : U64} :
    checkGeneration row generation session = .ok () ↔
      LinkRecord.Accepts ⟨row.linkGeneration, row.linkSessionId, row.state⟩ generation session := by
  unfold checkGeneration LinkRecord.Accepts
  split
  · rename_i stale
    refine ⟨fun h => (by cases h), fun accepts => ?_⟩
    rcases stale with older | ⟨same, recorded, other⟩
    · exact absurd accepts.1 (not_le.mpr older)
    · exact ((accepts.2 same).elim recorded other).elim
  · rename_i fresh
    rw [not_or, not_and, not_and, not_lt] at fresh
    exact ⟨fun _ => ⟨fresh.1, fun same => or_iff_not_imp_left.mpr fun recorded =>
      not_not.mp (fresh.2 same recorded)⟩, fun _ => rfl⟩

/-- A new instance row carries the link of its binding; the others stay. -/
theorem upsertInstance_link {binding : LinkBinding} (done : l.upsertInstance binding now = .ok l') :
    l'.boundLink = l.boundLink ∧
      l'.link? = Function.update l.link? binding.spacecraftInstanceId (some (recordOf binding)) := by
  have stored : ∃ firstSeen, l' = { l with
      instances := l.instances.set binding.spacecraftInstanceId
        ⟨binding.linkGeneration, some binding.linkSessionId, .active, firstSeen, now,
          binding.contactState⟩ } := by
    unfold upsertInstance at done
    dsimp only at done
    split at done
    · split at done
      · cases done
        exact ⟨_, rfl⟩
      · cases done
    · split at done
      · cases done
        exact ⟨_, rfl⟩
      · cases done
  obtain ⟨firstSeen, rfl⟩ := stored
  refine ⟨rfl, funext fun id => ?_⟩
  rw [Function.update_apply]
  change ((l.instances.set binding.spacecraftInstanceId _).find? id).map _ = _
  rw [Table.find?_set]
  by_cases same : id = binding.spacecraftInstanceId
  · rw [if_pos same, if_pos same]
    rfl
  · rw [if_neg same, if_neg same]
    rfl

/-- A row that was written had not been seen after the clock. -/
theorem upsertInstance_clock {binding : LinkBinding} (done : l.upsertInstance binding now = .ok l')
    {row : InstanceRow} (found : l.instances.find? binding.spacecraftInstanceId = some row) :
    row.firstSeenAtUs ≤ now := by
  unfold upsertInstance at done
  rw [found] at done
  by_contra before
  rw [if_neg before] at done
  cases done

/-- A row that does not refuse it can be written. -/
theorem exists_upsertInstance {binding : LinkBinding}
    (accepted : l.refuses binding.spacecraftInstanceId now = false) :
    ∃ l', l.upsertInstance binding now = .ok l' := by
  unfold refuses at accepted
  unfold upsertInstance
  cases found : l.instances.find? binding.spacecraftInstanceId with
  | none => exact ⟨_, if_pos le_rfl⟩
  | some row =>
      rw [found, Option.any_some, Bool.or_eq_false_iff, decide_eq_false_iff_not,
        decide_eq_false_iff_not, not_lt] at accepted
      exact ⟨_, if_pos accepted.2⟩

theorem link?_eq_some_iff {id : U64} {record : LinkRecord} :
    l.link? id = some record ↔ ∃ row, l.instances.find? id = some row ∧
      (⟨row.linkGeneration, row.linkSessionId, row.state⟩ : LinkRecord) = record :=
  Option.map_eq_some_iff

/-- A row that is active and was not seen after the clock does not refuse a write. -/
theorem refuses_eq_false {id : U64}
    (active : ∀ record, l.link? id = some record → record.state = .active)
    (clock : ∀ row, l.instances.find? id = some row → row.firstSeenAtUs ≤ now) :
    l.refuses id now = false := by
  unfold refuses
  cases found : l.instances.find? id with
  | none => rfl
  | some row =>
      have state := active _ (link?_eq_some_iff.mpr ⟨row, found, rfl⟩)
      change row.state = .active at state
      rw [Option.any_some, state, Bool.or_eq_false_iff, decide_eq_false_iff_not,
        decide_eq_false_iff_not, not_lt]
      exact ⟨InstanceState.noConfusion, clock row found⟩

/-- A retired row refuses every write. -/
theorem active_of_not_refuses {id : U64} (accepted : l.refuses id now = false) {record : LinkRecord}
    (here : l.link? id = some record) : record.state = .active := by
  obtain ⟨row, found, rfl⟩ := link?_eq_some_iff.mp here
  rw [refuses, found, Option.any_some, Bool.or_eq_false_iff, decide_eq_false_iff_not] at accepted
  cases state : row.state with
  | active => rfl
  | retired => exact absurd state accepted.1

/-- `register_instance` of a row that accepts it. -/
theorem registerInstance_link {binding binding' : LinkBinding}
    (done : l.registerInstance binding now = .ok (binding', l')) :
    l'.boundLink = l.boundLink ∧
      l'.link? =
        Function.update l.link? binding.spacecraftInstanceId (some (recordOf binding)) ∧
      (∀ record, l.link? binding.spacecraftInstanceId = some record → record.state = .active ∧
        record.Accepts binding.linkGeneration binding.linkSessionId) ∧
      l.refuses binding.spacecraftInstanceId now = false := by
  suffices upserts : l.upsertInstance binding now = .ok l' ∧
      ∀ record, l.link? binding.spacecraftInstanceId = some record → record.state = .active ∧
        record.Accepts binding.linkGeneration binding.linkSessionId by
    obtain ⟨bound, links⟩ := upsertInstance_link upserts.1
    exact ⟨bound, links, upserts.2, refuses_eq_false (fun record here => (upserts.2 record here).1)
      fun row found => upsertInstance_clock upserts.1 found⟩
  unfold registerInstance at done
  split at done
  · rename_i found
    obtain ⟨registered, upserted, done⟩ := bind_eq_ok_iff.mp done
    cases done
    refine ⟨upserted, fun record here => ?_⟩
    rw [link?, found] at here
    cases here
  · rename_i row found
    split at done
    · cases done
    rename_i active
    obtain ⟨⟨⟩, accepted, done⟩ := bind_eq_ok_iff.mp done
    obtain ⟨registered, upserted, done⟩ := bind_eq_ok_iff.mp done
    cases done
    refine ⟨upserted, fun record here => ?_⟩
    rw [link?, found] at here
    cases here
    refine ⟨?_, checkGeneration_eq_ok_iff.mp accepted⟩
    cases state : row.state with
    | active => exact state
    | retired => exact absurd state active

theorem exists_registerInstance {binding : LinkBinding}
    (accepted : l.refuses binding.spacecraftInstanceId now = false)
    (current : ∀ record, l.link? binding.spacecraftInstanceId = some record →
      record.Accepts binding.linkGeneration binding.linkSessionId) :
    ∃ l', l.registerInstance binding now = .ok (binding, l') := by
  obtain ⟨l', upserted⟩ := exists_upsertInstance accepted
  refine ⟨l', ?_⟩
  unfold registerInstance
  cases found : l.instances.find? binding.spacecraftInstanceId with
  | none =>
      dsimp only
      rw [upserted]
      rfl
  | some row =>
      rw [refuses, found, Option.any_some, Bool.or_eq_false_iff, decide_eq_false_iff_not] at accepted
      have checked := checkGeneration_eq_ok_iff.mpr (current _ (link?_eq_some_iff.mpr ⟨row, found, rfl⟩))
      dsimp only
      rw [if_neg accepted.1, checked, upserted]
      rfl

/-- The new row and the new metadata of a binding. -/
theorem publishBinding_link {metadata : MetadataRow} {current : LinkBinding}
    (done : l.publishBinding metadata current now = .ok l') :
    l'.boundLink = some ⟨current.spacecraftInstanceId, current.linkGeneration,
        current.linkSessionId⟩ ∧
      l'.link? =
        Function.update l.link? current.spacecraftInstanceId (some (recordOf current)) := by
  obtain ⟨published, upserted, done⟩ := bind_eq_ok_iff.mp done
  cases done
  exact ⟨rfl, (upsertInstance_link upserted).2⟩

/-- The rows of the instances during a rebind. -/
theorem rebindRows_link {old : U64} (done : l.rebindRows old now = .ok l') :
    l'.link? = l.link? := by
  have instances := (rebindRows_contact done).1
  unfold link?
  rw [instances]

/-- An update of an instance row that keeps its link and sets its state. -/
theorem updateInstance_link {id : U64} {assign : InstanceRow → InstanceRow} {state : InstanceState}
    (done : l.updateInstance id now assign = .ok l')
    (keeps : ∀ row, (assign row).linkGeneration = row.linkGeneration ∧
      (assign row).linkSessionId = row.linkSessionId ∧ (assign row).state = state) (target : U64) :
    l'.link? target = if target = id then (l.link? target).map fun r => { r with state := state }
      else l.link? target := by
  unfold updateInstance at done
  split at done
  · cases done
    change ((l.instances.update id _).find? target).map _ = _
    rw [Table.find?_update]
    unfold link?
    split
    · rw [Option.map_map, Option.map_map]
      refine congrArg (fun f => Option.map f (l.instances.find? target)) (funext fun row => ?_)
      obtain ⟨generation, session, set⟩ := keeps row
      change (⟨(assign row).linkGeneration, (assign row).linkSessionId, (assign row).state⟩ :
        LinkRecord) = _
      rw [generation, session, set]
      rfl
    · rfl
  · cases done

/-- A retirement retires the row and keeps its link. -/
theorem retireInstance_link {old : U64} (done : l.retireInstance old now = .ok l') (id : U64) :
    l'.link? id = if id = old then (l.link? id).map fun r => { r with state := .retired }
      else l.link? id := by
  obtain ⟨failed, update, done⟩ := bind_eq_ok_iff.mp done
  have links : failed.link? = l.link? := by
    unfold link?
    rw [(outboxUpdate_of_ok update).instances]
  rw [← links]
  exact updateInstance_link done (fun row => ⟨rfl, rfl, rfl⟩) id

/-- The target row of a binding is not retired, and accepts a binding that replaces one. -/
theorem checkTargetRow_eq_ok {metadata : MetadataRow} {current : LinkBinding}
    (checked : l.checkTargetRow metadata current = .ok ()) {record : LinkRecord}
    (here : l.link? current.spacecraftInstanceId = some record) :
    record.state = .active ∧ (metadata.bound.isSome = true →
      record.Accepts current.linkGeneration current.linkSessionId) := by
  obtain ⟨row, found, rfl⟩ := link?_eq_some_iff.mp here
  unfold checkTargetRow at checked
  rw [found] at checked
  dsimp only at checked
  split at checked
  · cases checked
  rename_i active
  constructor
  · cases state : row.state with
    | active => rfl
    | retired => exact absurd state active
  · intro bound
    rw [if_pos bound] at checked
    exact checkGeneration_eq_ok_iff.mp checked

/-- **A first binding** writes the row of its instance whatever generation it has. -/
theorem bind_unbound {current : LinkBinding} {metadata : MetadataRow}
    (initialized : l.metadata = some metadata) (unbound : metadata.bound = none)
    (accepted : l.refuses current.spacecraftInstanceId now = false) :
    ∃ migration l', l.bind current now = .ok (migration, l') := by
  have checked : l.checkTargetRow metadata current = .ok () := by
    unfold checkTargetRow
    cases found : l.instances.find? current.spacecraftInstanceId with
    | none => rfl
    | some row =>
        rw [refuses, found, Option.any_some, Bool.or_eq_false_iff, decide_eq_false_iff_not]
          at accepted
        dsimp only
        rw [if_neg accepted.1, unbound]
        rfl
  obtain ⟨published, upserted⟩ := exists_upsertInstance accepted
  refine ⟨⟨none, current, none, 0⟩, { published with metadata := some { metadata with
    bound := some ⟨current.spacecraftInstanceId, current.linkGeneration,
      current.linkSessionId⟩ } }, ?_⟩
  unfold bind
  rw [initialized]
  dsimp only
  rw [checked, previousBinding, unbound]
  change (l.publishBinding metadata current now >>= _) = _
  unfold publishBinding
  rw [upserted]
  rfl

/-- A first binding was not refused. -/
theorem not_refuses_of_bind {current : LinkBinding} {migration : BindingMigration}
    (done : l.bind current now = .ok (migration, l')) (unbound : l.boundLink = none) :
    l.refuses current.spacecraftInstanceId now = false := by
  unfold bind at done
  cases initialized : l.metadata with
  | none =>
      rw [initialized] at done
      cases done
  | some metadata =>
      have none : metadata.bound = none := by
        rw [Ledger.boundLink, initialized] at unbound
        exact unbound
      rw [initialized] at done
      dsimp only at done
      obtain ⟨⟨⟩, checked, done⟩ := bind_eq_ok_iff.mp done
      rw [previousBinding, none] at done
      obtain ⟨published, publish, done⟩ := bind_eq_ok_iff.mp done
      obtain ⟨upserted, upsert, -⟩ := bind_eq_ok_iff.mp publish
      exact refuses_eq_false (fun record here => (checkTargetRow_eq_ok checked here).1)
        fun row found => upsertInstance_clock upsert found

/-- **What a binding writes**: its instance, and the state of the instance it replaces. -/
theorem bind_link {current : LinkBinding} {migration : BindingMigration}
    (done : l.bind current now = .ok (migration, l')) :
    l'.boundLink = some ⟨current.spacecraftInstanceId, current.linkGeneration,
        current.linkSessionId⟩ ∧
      (∀ record, l.link? current.spacecraftInstanceId = some record → record.state = .active ∧
        (l.boundLink.isSome = true →
          record.Accepts current.linkGeneration current.linkSessionId)) ∧
      l'.link? current.spacecraftInstanceId = some (recordOf current) ∧
      ∀ id, id ≠ current.spacecraftInstanceId →
        l'.link? id = if l.boundLink.map BoundLink.spacecraftInstanceId = some id then
          (l.link? id).map fun record => { record with state := .retired } else l.link? id := by
  unfold bind at done
  cases initialized : l.metadata with
  | none =>
      rw [initialized] at done
      cases done
  | some metadata =>
      have boundLink : l.boundLink = metadata.bound := by
        rw [Ledger.boundLink, initialized]
        rfl
      rw [initialized] at done
      dsimp only at done
      obtain ⟨⟨⟩, checked, done⟩ := bind_eq_ok_iff.mp done
      rw [boundLink]
      have target : ∀ record, l.link? current.spacecraftInstanceId = some record →
          record.state = .active ∧ (metadata.bound.isSome = true →
            record.Accepts current.linkGeneration current.linkSessionId) :=
        fun record here => checkTargetRow_eq_ok checked here
      -- The other rows, where the replaced instance is the target or there is none.
      have others {before : Ledger} (links : before.link? = l.link?)
          (kept : ∀ id, id ≠ current.spacecraftInstanceId →
            metadata.bound.map BoundLink.spacecraftInstanceId ≠ some id)
          (published : before.publishBinding metadata current now = .ok l') :
          l'.link? current.spacecraftInstanceId = some (recordOf current) ∧
          ∀ id, id ≠ current.spacecraftInstanceId →
            l'.link? id = if metadata.bound.map BoundLink.spacecraftInstanceId = some id then
              (l.link? id).map fun record => { record with state := .retired }
              else l.link? id := by
        rw [(publishBinding_link published).2, links]
        refine ⟨Function.update_self .., fun id other => ?_⟩
        rw [Function.update_of_ne other, if_neg (kept id other)]
      cases bound : metadata.bound with
      | none =>
          rw [previousBinding, bound] at done
          obtain ⟨published, publish, done⟩ := bind_eq_ok_iff.mp done
          cases done
          rw [bound] at target others
          obtain ⟨own, rest⟩ := others rfl (fun _ _ replaced => by cases replaced) publish
          exact ⟨(publishBinding_link publish).1, target, own, rest⟩
      | some b =>
          rw [previousBinding, bound] at done
          rw [bound] at target others
          dsimp only [Option.map_some] at done
          split at done
          · cases done
          split at done
          · rename_i same
            obtain ⟨published, publish, done⟩ := bind_eq_ok_iff.mp done
            cases done
            obtain ⟨own, rest⟩ := others rfl (fun id other replaced => other <| by
              rw [← same]
              exact (Option.some.inj replaced).symm) publish
            exact ⟨(publishBinding_link publish).1, target, own, rest⟩
          split at done
          · rename_i same
            obtain ⟨rebound, rebind, done⟩ := bind_eq_ok_iff.mp done
            obtain ⟨published, publish, done⟩ := bind_eq_ok_iff.mp done
            cases done
            obtain ⟨own, rest⟩ := others (rebindRows_link rebind) (fun id other replaced =>
              other ((Option.some.inj replaced).symm.trans same)) publish
            exact ⟨(publishBinding_link publish).1, target, own, rest⟩
          · rename_i other
            obtain ⟨retired, retire, done⟩ := bind_eq_ok_iff.mp done
            obtain ⟨published, publish, done⟩ := bind_eq_ok_iff.mp done
            cases done
            obtain ⟨boundNow, links⟩ := publishBinding_link publish
            refine ⟨boundNow, target, ?_, fun id notTarget => ?_⟩
            · rw [links, Function.update_self]
            · rw [links, Function.update_of_ne notTarget, retireInstance_link retire, Option.map_some]
              by_cases replaced : id = b.spacecraftInstanceId
              · rw [if_pos replaced, if_pos (congrArg some replaced.symm)]
              · rw [if_neg replaced, if_neg fun same => replaced (Option.some.inj same).symm]

end Ledger

/-! ## What the history keeps -/

/-- **What a call keeps**: generations and sessions follow each other, retired instances stay
retired, and a bound instance is the only active one, with the link of the metadata. -/
structure BindingKept (l l' : Ledger) : Prop where
  rows : ∀ id record, l.link? id = some record →
    ∃ record', l'.link? id = some record' ∧ record.Follows record'
  single : l'.boundLink ≠ none → ∀ id id' record record', l'.link? id = some record →
    l'.link? id' = some record' → record.state = .active → record'.state = .active → id = id'
  bound : ∀ b, l'.boundLink = some b → ∃ record, l'.link? b.spacecraftInstanceId = some record ∧
    record.generation = b.linkGeneration ∧ record.session = some b.linkSessionId

/-- The two operations. -/
inductive BindingOp
  | registerInstance (binding : LinkBinding)
  | bind (current : LinkBinding)

/-- What a call that may raise leaves. -/
def Ledger.afterCall {α : Type} (l : Ledger) : Raises (α × Ledger) → Ledger
  | .ok result => result.2
  | .error _ => l

/-- Any calls of the two operations, each at an instant. -/
def registryMachine : Machine Ledger (ℕ × BindingOp) Unit where
  step l
    | (now, .registerInstance binding) => (l.afterCall (l.registerInstance binding now), ())
    | (now, .bind current) => (l.afterCall (l.bind current now), ())

/-- A ledger before any instance is registered. -/
def Ledger.unregistered (l : Ledger) : Ledger :=
  { l with
    instances := .empty
    metadata := l.metadata.map fun metadata => { metadata with bound := none } }

/-- **The condition on a call.**  Unless the row refuses it, a registration during a binding is
one of the bound instance without a newer generation, and a first binding passes the check of
the generation and finds no other active instance. -/
def BindingOp.Respects (l : Ledger) : ℕ × BindingOp → Prop
  | (now, .registerInstance binding) => l.refuses binding.spacecraftInstanceId now = true ∨
      ∀ b, l.boundLink = some b → binding.spacecraftInstanceId = b.spacecraftInstanceId ∧
        binding.linkGeneration ≤ b.linkGeneration
  | (now, .bind current) => l.refuses current.spacecraftInstanceId now = true ∨
      l.metadata = none ∨ l.boundLink ≠ none ∨
      (∀ record, l.link? current.spacecraftInstanceId = some record →
        record.Accepts current.linkGeneration current.linkSessionId) ∧
      ∀ id record, l.link? id = some record → record.state = .active →
        id = current.spacecraftInstanceId

/-- The invariant: the bound instance is the only active one, and every row has a session. -/
structure BindingSound (l : Ledger) : Prop where
  session : ∀ id record, l.link? id = some record → record.session ≠ none
  bound : ∀ b, l.boundLink = some b →
    l.link? b.spacecraftInstanceId = some ⟨b.linkGeneration, some b.linkSessionId, .active⟩
  single : ∀ b, l.boundLink = some b → ∀ id record, l.link? id = some record →
    record.state = .active → id = b.spacecraftInstanceId

theorem bindingSound_unregistered (l : Ledger) : BindingSound l.unregistered := by
  have unbound : l.unregistered.boundLink = none := by
    change (l.metadata.map _).bind MetadataRow.bound = none
    cases l.metadata <;> rfl
  refine ⟨fun id record here => ?_, fun b bound => ?_, fun b bound => ?_⟩
  · cases here
  · rw [unbound] at bound
    cases bound
  · rw [unbound] at bound
    cases bound

namespace LinkRecord

/-- A record that is accepted after another follows it. -/
theorem Accepts.follows {r : LinkRecord} {binding : LinkBinding}
    (accepts : r.Accepts binding.linkGeneration binding.linkSessionId) (active : r.state = .active)
    (session : r.session ≠ none) : r.Follows (Ledger.recordOf binding) := by
  refine ⟨accepts.1, fun other => ?_, fun retired => ?_⟩
  · refine lt_of_le_of_ne accepts.1 fun same => ?_
    rcases accepts.2 same.symm with none | same
    · exact session none
    · exact other same.symm
  · rw [active] at retired
    cases retired

/-- A record that follows another was accepted after it. -/
theorem Follows.accepts {r : LinkRecord} {binding : LinkBinding}
    (follows : r.Follows (Ledger.recordOf binding)) :
    r.Accepts binding.linkGeneration binding.linkSessionId := by
  refine ⟨follows.generation, fun same => .inr ?_⟩
  by_contra other
  exact absurd (follows.session fun h => other h.symm) (not_lt.mpr (le_of_eq same))

end LinkRecord

namespace BindingSound

variable {l l' : Ledger} {now : ℕ}

/-- In a sound ledger the bound instance is as the claim says. -/
theorem kept_of_rows (sound : BindingSound l')
    (rows : ∀ id record, l.link? id = some record →
      ∃ record', l'.link? id = some record' ∧ record.Follows record') : BindingKept l l' := by
  refine ⟨rows, fun bound id id' record record' here here' active active' => ?_,
    fun b bound => ⟨_, sound.bound b bound, rfl, rfl⟩⟩
  obtain ⟨b, bound⟩ := Option.ne_none_iff_exists'.mp bound
  exact (sound.single b bound id record here active).trans
    (sound.single b bound id' record' here' active').symm

/-- A call that changes nothing. -/
theorem kept_refl (sound : BindingSound l) : BindingKept l l :=
  sound.kept_of_rows fun _ record here => ⟨record, here, .refl _⟩

/-- The rows after an instance was written that accepts it. -/
theorem rows_update {binding : LinkBinding} (sound : BindingSound l)
    (links : l'.link? = Function.update l.link? binding.spacecraftInstanceId
      (some (Ledger.recordOf binding)))
    (accepted : ∀ record, l.link? binding.spacecraftInstanceId = some record →
      record.state = .active ∧ record.Accepts binding.linkGeneration binding.linkSessionId)
    (id : U64) (record : LinkRecord) (here : l.link? id = some record) :
    ∃ record', l'.link? id = some record' ∧ record.Follows record' := by
  rw [links]
  by_cases same : id = binding.spacecraftInstanceId
  · subst same
    rw [Function.update_self]
    obtain ⟨active, accepts⟩ := accepted record here
    exact ⟨_, rfl, accepts.follows active (sound.session _ record here)⟩
  · rw [Function.update_of_ne same]
    exact ⟨record, here, .refl _⟩

theorem session_update {binding : LinkBinding} (sound : BindingSound l)
    (links : l'.link? = Function.update l.link? binding.spacecraftInstanceId
      (some (Ledger.recordOf binding))) (id : U64) (record : LinkRecord)
    (here : l'.link? id = some record) : record.session ≠ none := by
  rw [links] at here
  by_cases same : id = binding.spacecraftInstanceId
  · subst same
    rw [Function.update_self] at here
    cases here
    exact Option.some_ne_none _
  · rw [Function.update_of_ne same] at here
    exact sound.session id record here

/-- **A registration.** -/
theorem register_iff (sound : BindingSound l) (now : ℕ) (binding : LinkBinding) :
    (BindingKept l (l.afterCall (l.registerInstance binding now)) ↔
      BindingOp.Respects l (now, .registerInstance binding)) ∧
    (BindingOp.Respects l (now, .registerInstance binding) →
      BindingSound (l.afterCall (l.registerInstance binding now))) := by
  suffices split : (BindingOp.Respects l (now, .registerInstance binding) →
      BindingSound (l.afterCall (l.registerInstance binding now)) ∧
      BindingKept l (l.afterCall (l.registerInstance binding now))) ∧
      (BindingKept l (l.afterCall (l.registerInstance binding now)) →
        BindingOp.Respects l (now, .registerInstance binding)) from
    ⟨⟨split.2, fun respects => (split.1 respects).2⟩, fun respects => (split.1 respects).1⟩
  constructor
  · intro respects
    cases done : l.registerInstance binding now with
    | error failure => exact ⟨sound, sound.kept_refl⟩
    | ok result =>
        obtain ⟨binding', l'⟩ := result
        obtain ⟨bound, links, accepted, notRefused⟩ := Ledger.registerInstance_link done
        rw [Ledger.afterCall]
        have current := respects.resolve_left fun refused => by
          rw [notRefused] at refused
          cases refused
        have sound' : BindingSound l' := by
          refine ⟨sound.session_update links, fun b boundNow => ?_, fun b boundNow => ?_⟩
          · rw [bound] at boundNow
            obtain ⟨same, notNewer⟩ := current b boundNow
            have here := sound.bound b boundNow
            obtain ⟨-, accepts⟩ := accepted _ (same ▸ here)
            have generation : binding.linkGeneration = b.linkGeneration :=
              le_antisymm notNewer accepts.1
            have session := (accepts.2 generation).resolve_left (Option.some_ne_none _)
            rw [links, ← same, Function.update_self, Ledger.recordOf, generation, ← session]
          · rw [bound] at boundNow
            intro id record here active
            rw [links] at here
            by_cases same : id = binding.spacecraftInstanceId
            · exact same.trans (current b boundNow).1
            · rw [Function.update_of_ne same] at here
              exact sound.single b boundNow id record here active
        exact ⟨sound', sound'.kept_of_rows (sound.rows_update links accepted)⟩
  · intro kept
    by_contra violates
    change ¬(_ ∨ _) at violates
    rw [not_or, Bool.not_eq_true] at violates
    obtain ⟨notRefused, violates⟩ := violates
    obtain ⟨b, violates⟩ := not_forall.mp violates
    obtain ⟨bound, other⟩ := Classical.not_imp.mp violates
    have here := sound.bound b bound
    by_cases same : binding.spacecraftInstanceId = b.spacecraftInstanceId
    · have newer := not_le.mp fun notNewer => other ⟨same, notNewer⟩
      obtain ⟨l', done⟩ := Ledger.exists_registerInstance notRefused fun record found => by
        rw [same, here] at found
        cases found
        exact ⟨le_of_lt newer, fun equal => absurd equal (ne_of_gt newer)⟩
      obtain ⟨bound', links, -⟩ := Ledger.registerInstance_link done
      rw [done] at kept
      obtain ⟨record, found, generation, -⟩ := kept.bound b (bound'.trans bound)
      change l'.link? _ = _ at found
      rw [links, ← same, Function.update_self] at found
      cases found
      exact absurd generation (ne_of_gt newer)
    · have fresh (record : LinkRecord)
          (found : l.link? binding.spacecraftInstanceId = some record) : False :=
        same (sound.single b bound _ record found (Ledger.active_of_not_refuses notRefused found))
      obtain ⟨l', done⟩ := Ledger.exists_registerInstance notRefused fun record found =>
        (fresh record found).elim
      obtain ⟨bound', links, -⟩ := Ledger.registerInstance_link done
      rw [done] at kept
      have own : l'.link? binding.spacecraftInstanceId = some (Ledger.recordOf binding) := by
        rw [links, Function.update_self]
      have boundRow : l'.link? b.spacecraftInstanceId =
          some ⟨b.linkGeneration, some b.linkSessionId, .active⟩ := by
        rw [links, Function.update_of_ne fun h => same h.symm, here]
      exact same (kept.single (by
        change l'.boundLink ≠ none
        rw [bound', bound]
        exact Option.some_ne_none _) _ _ _ _ own boundRow rfl rfl)

/-- **A binding.** -/
theorem bind_iff (sound : BindingSound l) (now : ℕ) (current : LinkBinding) :
    (BindingKept l (l.afterCall (l.bind current now)) ↔
      BindingOp.Respects l (now, .bind current)) ∧
    (BindingOp.Respects l (now, .bind current) →
      BindingSound (l.afterCall (l.bind current now))) := by
  suffices split : (BindingOp.Respects l (now, .bind current) →
      BindingSound (l.afterCall (l.bind current now)) ∧
      BindingKept l (l.afterCall (l.bind current now))) ∧
      (BindingKept l (l.afterCall (l.bind current now)) →
        BindingOp.Respects l (now, .bind current)) from
    ⟨⟨split.2, fun respects => (split.1 respects).2⟩, fun respects => (split.1 respects).1⟩
  constructor
  · intro respects
    cases done : l.bind current now with
    | error failure => exact ⟨sound, sound.kept_refl⟩
    | ok result =>
        obtain ⟨migration, l'⟩ := result
        obtain ⟨boundNow, target, own, others⟩ := Ledger.bind_link done
        rw [Ledger.afterCall]
        have first (unbound : l.boundLink = none) :
            (∀ record, l.link? current.spacecraftInstanceId = some record →
              record.Accepts current.linkGeneration current.linkSessionId) ∧
            ∀ id record, l.link? id = some record → record.state = .active →
              id = current.spacecraftInstanceId := by
          rcases respects with refused | noMetadata | bound | first
          · rw [Ledger.not_refuses_of_bind done unbound] at refused
            cases refused
          · unfold Ledger.bind at done
            rw [noMetadata] at done
            cases done
          · exact absurd unbound bound
          · exact first
        -- Whatever was bound, the target accepts the binding and no other row stays active.
        have accepted : ∀ record, l.link? current.spacecraftInstanceId = some record →
            record.state = .active ∧ record.Accepts current.linkGeneration current.linkSessionId :=
          fun record here => ⟨(target record here).1, by
            cases bound : l.boundLink with
            | some b => exact (target record here).2 (by rw [bound]; rfl)
            | none => exact (first bound).1 record here⟩
        have only : ∀ id record, id ≠ current.spacecraftInstanceId → l'.link? id = some record →
            record.state = .retired := by
          intro id record other here
          rw [others id other] at here
          split at here
          · obtain ⟨old, -, rfl⟩ := Option.map_eq_some_iff.mp here
            rfl
          · rename_i notReplaced
            cases state : record.state with
            | retired => rfl
            | active =>
                cases bound : l.boundLink with
                | some b =>
                    rw [bound] at notReplaced
                    exact absurd (congrArg some (sound.single b bound id record here state).symm)
                      notReplaced
                | none => exact absurd ((first bound).2 id record here state) other
        have rows : ∀ id record, l.link? id = some record →
            ∃ record', l'.link? id = some record' ∧ record.Follows record' := by
          intro id record here
          by_cases same : id = current.spacecraftInstanceId
          · subst same
            obtain ⟨active, accepts⟩ := accepted record here
            exact ⟨_, own, accepts.follows active (sound.session _ record here)⟩
          · rw [others id same]
            split
            · exact ⟨{ record with state := .retired }, by rw [here]; rfl, le_rfl,
                fun other => absurd rfl other, fun _ => rfl⟩
            · exact ⟨record, here, .refl _⟩
        have sound' : BindingSound l' := by
          refine ⟨fun id record here => ?_, fun b bound => ?_, fun b bound id record here active => ?_⟩
          · by_cases same : id = current.spacecraftInstanceId
            · rw [same, own] at here
              cases here
              exact Option.some_ne_none _
            · rw [others id same] at here
              split at here
              · obtain ⟨old, found, rfl⟩ := Option.map_eq_some_iff.mp here
                exact sound.session id old found
              · exact sound.session id record here
          · rw [boundNow] at bound
            cases bound
            exact own
          · rw [boundNow] at bound
            cases bound
            by_contra other
            rw [only id record other here] at active
            cases active
        exact ⟨sound', sound'.kept_of_rows rows⟩
  · intro kept
    by_contra violates
    change ¬(_ ∨ _ ∨ _ ∨ _) at violates
    rw [not_or, not_or, not_or, Bool.not_eq_true, not_not] at violates
    obtain ⟨notRefused, initialized, unbound, violates⟩ := violates
    obtain ⟨metadata, initialized⟩ := Option.ne_none_iff_exists'.mp initialized
    have noBinding : metadata.bound = none := by
      rw [Ledger.boundLink, initialized] at unbound
      exact unbound
    obtain ⟨migration, l', done⟩ := Ledger.bind_unbound initialized noBinding notRefused
    obtain ⟨boundNow, -, own, others⟩ := Ledger.bind_link done
    rw [done] at kept
    refine violates ⟨fun record here => ?_, fun id record here active => ?_⟩
    · obtain ⟨record', here', follows⟩ := kept.rows _ record here
      rw [show (l.afterCall (.ok (migration, l'))).link? _ = _ from own] at here'
      cases here'
      exact follows.accepts
    · by_contra other
      have kept' : l'.link? id = some record := by
        rw [others id other, unbound, if_neg (by simp), here]
      exact other (kept.single (by
        change l'.boundLink ≠ none
        rw [boundNow]
        exact Option.some_ne_none _) _ _ _ _ kept' own active rfl)

end BindingSound

/-! ## Every run -/

/-- **A call keeps the history exactly if it meets the condition.** -/
theorem bindingKept_iff {l : Ledger} (sound : BindingSound l) (input : ℕ × BindingOp) :
    (BindingKept l (registryMachine.step l input).1 ↔ BindingOp.Respects l input) ∧
      (BindingOp.Respects l input → BindingSound (registryMachine.step l input).1) := by
  obtain ⟨now, op⟩ := input
  cases op with
  | registerInstance binding => exact sound.register_iff now binding
  | bind current => exact sound.bind_iff now current

/-- **In a run of any calls the history is kept exactly if every call meets the condition.** -/
theorem bindingKept_iff_respects (l : Ledger) (inputs : List (ℕ × BindingOp)) :
    registryMachine.AllSteps (fun l input => BindingKept l (registryMachine.step l input).1)
        l.unregistered inputs ↔
      registryMachine.AllSteps BindingOp.Respects l.unregistered inputs :=
  registryMachine.allSteps_iff_of_invariant BindingSound
    (fun _ input sound => (bindingKept_iff sound input).1)
    (fun _ input sound => (bindingKept_iff sound input).2) (bindingSound_unregistered l) inputs

/-- A first binding replaces the generation of a registered instance by an older one. -/
theorem not_bindingKept_of_firstBinding :
    ¬registryMachine.AllSteps (fun l input => BindingKept l (registryMachine.step l input).1)
      { Ledger.migrated with metadata := some ⟨1, 1, none⟩ }.unregistered
      [(10, .registerInstance ⟨5, 3, 7, .noContact⟩), (20, .bind ⟨5, 2, 7, .contactOpen⟩)] := by
  rintro ⟨-, kept, -⟩
  obtain ⟨record, found, follows⟩ := kept.rows 5 ⟨3, some 7, .active⟩ rfl
  have older : record = ⟨2, some 7, .active⟩ := (Option.some.inj found).symm
  have monotone := follows.generation
  rw [older] at monotone
  exact absurd monotone (by decide)

end CubeNano

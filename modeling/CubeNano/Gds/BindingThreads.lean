import CubeNano.Gds.ContactChanges
import CubeNano.Lib.Machine
import CubeNano.Lib.ReadWriteFence

/-!
# Threads at the binding fence

`BindingFence` and the calls of `SpacecraftBindingManager` from `gds/binding.py`, by any
number of threads.  Every step of a thread is one database access or one section under the
lock of the fence.

`bind` holds the fence over its transaction and its publication.  `refresh` publishes what
it read before, without the fence.

## Main definitions

* `Ledger.activeBinding` — the durable binding
* `BindingFence`, `BindingThread`, `bindingMachine`
* `Coherent` — the invariant; `PublishesActive` — what a publication has to meet

## Main statements

* `bindingClaims_of_publishesActive` — readers see the durable binding, and an older one is
  not brought back, while no `refresh` publishes late
* `not_bindingClaims_of_lateRefresh`
-/

namespace CubeNano

/-! ## The durable binding -/

/-- What `refresh` reads: the bound link, while its spacecraft is active. -/
def Ledger.activeBinding (l : Ledger) : Option LinkBinding :=
  (l.metadata.bind MetadataRow.bound).bind fun b =>
    (l.instances.find? b.spacecraftInstanceId).bind fun row =>
      if row.state = .active then
        some ⟨b.spacecraftInstanceId, b.linkGeneration, b.linkSessionId, row.contactState⟩
      else none

/-! ## The fence -/

/-- `BindingFence`. -/
structure BindingFence extends ReadWriteFence where
  bindings : Table U64 LinkBinding

namespace BindingFence

/-- `publish`. -/
def publish (fence : BindingFence) (binding : LinkBinding) : BindingFence :=
  { fence with bindings := fence.bindings.set binding.spacecraftInstanceId binding }

/-- `retire`. -/
def retire (fence : BindingFence) (id : U64) : BindingFence :=
  { fence with bindings := fence.bindings.erase id }

/-- `current`. -/
def current (fence : BindingFence) (id : U64) : Option LinkBinding := fence.bindings.find? id

end BindingFence

/-- Where a thread is between its steps. -/
inductive BindingThread
  | idle
  /-- `refresh`, before its publication. -/
  | refreshed (binding : LinkBinding)
  /-- The body of `read`. -/
  | inside (binding : LinkBinding)
  /-- `bind`, waiting for the readers. -/
  | draining (current : LinkBinding)
  /-- `bind`, before its transaction. -/
  | writing (current : LinkBinding)
  | committed (migration : BindingMigration)
  | retired (migration : BindingMigration)
  | published (migration : BindingMigration)
  /-- `bind`, after a transaction that raised. -/
  | failed (failure : PyException)
  deriving DecidableEq

/-- The role at the fence. -/
def BindingThread.role : BindingThread → FenceRole
  | idle | refreshed _ => .outside
  | inside _ => .reading
  | draining _ => .draining
  | writing _ | committed _ | retired _ | published _ | failed _ => .writing

/-- The database, the fence, and the threads. -/
structure BindingService where
  ledger : Ledger
  fence : BindingFence
  threads : ℕ → BindingThread

/-- The calls, and the next step of a call.  A step that is a transaction has a clock, and
the writer may refuse it. -/
inductive BindingAction
  | bind (current : LinkBinding) (principal : String)
  | refresh
  | activeBinding
  | read (binding : LinkBinding)
  | proceed (now : ℕ) (refused : Option PyException)

/-- What calls return. -/
inductive BindingReply
  | migration (result : BindingMigration)
  | binding (result : Option LinkBinding)
  | left
  deriving DecidableEq

namespace BindingService

/-- A thread moves on. -/
def go (s : BindingService) (t : ℕ) (thread : BindingThread) : BindingService :=
  { s with threads := Function.update s.threads t thread }

/-- `with self.fence.write():` up to the readers; a thread that has to wait stays. -/
def startWrite (s : BindingService) (t : ℕ) (current : LinkBinding) : BindingService :=
  if s.fence.writeActive then s
  else { s with fence := { s.fence with writeActive := true } }.go t (.draining current)

/-- `with fence.read(binding):`. -/
def startRead (s : BindingService) (t : ℕ) (binding : LinkBinding) :
    BindingService × Option (Raises BindingReply) :=
  if s.fence.writeActive then (s, none)
  else if s.fence.current binding.spacecraftInstanceId ≠ some binding then
    (s, some (ledgerError .bindingChanged
      "link binding changed before the send read fence was acquired"))
  else ({ s with fence := { s.fence with readers := s.fence.readers + 1 } }.go t (.inside binding),
    none)

/-- The database read of `refresh`. -/
def startRefresh (s : BindingService) (t : ℕ) : BindingService × Option (Raises BindingReply) :=
  match s.ledger.activeBinding with
  | none => (s, some (.ok (.binding none)))
  | some binding => (s.go t (.refreshed binding), none)

/-- The transaction of `bind`. -/
def transact (s : BindingService) (t : ℕ) (current : LinkBinding) (now : ℕ)
    (refused : Option PyException) : BindingService :=
  match refused with
  | some failure => s.go t (.failed failure)
  | none =>
      match s.ledger.bind current now with
      | .error failure => s.go t (.failed failure)
      | .ok (migration, ledger) => { s with ledger }.go t (.committed migration)

/-- The end of `with self.fence.write():`. -/
def endWrite (s : BindingService) (t : ℕ) : BindingService :=
  { s with fence := { s.fence with writeActive := false } }.go t .idle

/-- The next step of a thread. -/
def proceed (s : BindingService) (t now : ℕ) (refused : Option PyException) :
    BindingService × Option (Raises BindingReply) :=
  match s.threads t with
  | .idle => (s, none)
  | .refreshed binding =>
      ({ s with fence := s.fence.publish binding }.go t .idle, some (.ok (.binding (some binding))))
  | .inside _ =>
      ({ s with fence := { s.fence with readers := s.fence.readers - 1 } }.go t .idle,
        some (.ok .left))
  | .draining current =>
      if s.fence.readers = 0 then (s.go t (.writing current), none) else (s, none)
  | .writing current => (s.transact t current now refused, none)
  | .committed migration =>
      match migration.retiredInstanceId with
      | none => (s.go t (.retired migration), none)
      | some id => ({ s with fence := s.fence.retire id }.go t (.retired migration), none)
  | .retired migration =>
      ({ s with fence := s.fence.publish migration.current }.go t (.published migration), none)
  | .published migration => (s.endWrite t, some (.ok (.migration migration)))
  | .failed failure => (s.endWrite t, some (.error failure))

/-- A call of an idle thread. -/
def call (s : BindingService) (t : ℕ) : BindingAction →
    BindingService × Option (Raises BindingReply)
  | .bind current principal =>
      if principal = "" then (s, some (valueError "principal must not be empty"))
      else (s.startWrite t current, none)
  | .refresh => s.startRefresh t
  | .activeBinding => s.startRefresh t
  | .read binding => s.startRead t binding
  | .proceed _ _ => (s, none)

/-- A step of a thread. -/
def step (s : BindingService) (t : ℕ) (action : BindingAction) :
    BindingService × Option (Raises BindingReply) :=
  match action with
  | .proceed now refused => s.proceed t now refused
  | action => if s.threads t = .idle then s.call t action else (s, none)

/-- `SpacecraftBindingManager(writer)`, which refreshes. -/
def start (ledger : Ledger) : BindingService where
  ledger := ledger
  fence :=
    { readers := 0
      writeActive := false
      bindings := match ledger.activeBinding with
        | none => .empty
        | some binding => Table.empty.set binding.spacecraftInstanceId binding }
  threads := fun _ => .idle

end BindingService

/-- The threads, in any interleaving. -/
def bindingMachine : Machine BindingService (ℕ × BindingAction) (Option (Raises BindingReply)) where
  step s input := s.step input.1 input.2

/-! ## The transaction -/

namespace Ledger

variable {l l' : Ledger} {now : ℕ}

/-- The new metadata and the new row are the new binding. -/
theorem publishBinding_activeBinding {metadata : MetadataRow} {current : LinkBinding}
    (done : l.publishBinding metadata current now = .ok l') :
    l'.activeBinding = some current := by
  obtain ⟨upserted, upsert, done⟩ := bind_eq_ok_iff.mp done
  cases done
  have stored : ∃ row : InstanceRow, row.state = .active ∧
      row.contactState = current.contactState ∧
        upserted.instances = l.instances.set current.spacecraftInstanceId row := by
    unfold upsertInstance at upsert
    simp only at upsert
    split at upsert
    · split at upsert
      · cases upsert
        exact ⟨_, rfl, rfl, rfl⟩
      · cases upsert
    · split at upsert
      · cases upsert
        exact ⟨_, rfl, rfl, rfl⟩
      · cases upsert
  obtain ⟨row, active, contact, instances⟩ := stored
  simp [activeBinding, instances, active, contact]

/-- A bound spacecraft that is active is the previous one of a binding. -/
theorem previousBinding_of_activeBinding {metadata : MetadataRow} {b : LinkBinding}
    (here : l.metadata = some metadata) (active : l.activeBinding = some b) :
    ∃ previous, l.previousBinding metadata = some previous ∧
      previous.spacecraftInstanceId = b.spacecraftInstanceId := by
  rw [activeBinding, here, Option.bind_some, Option.bind_eq_some_iff] at active
  obtain ⟨bound, stored, active⟩ := active
  obtain ⟨row, -, active⟩ := Option.bind_eq_some_iff.mp active
  split at active
  · cases active
    exact ⟨_, congrArg (Option.map _) stored, rfl⟩
  · cases active

/-- After a binding the durable one is the new one, and the one before was of the same
spacecraft or is retired. -/
theorem bind_activeBinding {current : LinkBinding} {migration : BindingMigration}
    (done : l.bind current now = .ok (migration, l')) :
    migration.current = current ∧ l'.activeBinding = some current ∧
      ∀ b, l.activeBinding = some b → b.spacecraftInstanceId = current.spacecraftInstanceId ∨
        migration.retiredInstanceId = some b.spacecraftInstanceId := by
  unfold bind at done
  split at done
  · cases done
  rename_i metadata here
  obtain ⟨_, -, done⟩ := bind_eq_ok_iff.mp done
  split at done
  · rename_i absent
    obtain ⟨published, publish, done⟩ := bind_eq_ok_iff.mp done
    cases done
    refine ⟨rfl, publishBinding_activeBinding publish, fun b active => ?_⟩
    obtain ⟨previous, stored, -⟩ := previousBinding_of_activeBinding here active
    rw [absent] at stored
    cases stored
  rename_i previous stored
  have ofPrevious (b : LinkBinding) (active : l.activeBinding = some b) :
      previous.spacecraftInstanceId = b.spacecraftInstanceId := by
    obtain ⟨previous', stored', same⟩ := previousBinding_of_activeBinding here active
    obtain rfl : previous = previous' := Option.some.inj (stored.symm.trans stored')
    exact same
  split at done
  · cases done
  split at done
  · rename_i same
    obtain ⟨published, publish, done⟩ := bind_eq_ok_iff.mp done
    cases done
    refine ⟨rfl, publishBinding_activeBinding publish, fun b active => .inl ?_⟩
    rw [← same, ofPrevious b active]
  split at done
  · rename_i same
    obtain ⟨rebound, -, done⟩ := bind_eq_ok_iff.mp done
    obtain ⟨published, publish, done⟩ := bind_eq_ok_iff.mp done
    cases done
    refine ⟨rfl, publishBinding_activeBinding publish, fun b active => .inl ?_⟩
    rw [← same, ofPrevious b active]
  · obtain ⟨retired, -, done⟩ := bind_eq_ok_iff.mp done
    obtain ⟨published, publish, done⟩ := bind_eq_ok_iff.mp done
    cases done
    refine ⟨rfl, publishBinding_activeBinding publish, fun b active => .inr ?_⟩
    rw [← ofPrevious b active]

end Ledger

/-! ## The invariant -/

/-- The thread has committed a binding and holds the fence. -/
def BindingThread.migrating : BindingThread → Option BindingMigration
  | committed migration | retired migration | published migration => some migration
  | _ => none

/-- The thread will still publish over a spacecraft, or retire it. -/
def BindingThread.Overwrites : BindingThread → U64 → Prop
  | committed migration, id =>
      migration.retiredInstanceId = some id ∨ migration.current.spacecraftInstanceId = id
  | retired migration, id => migration.current.spacecraftInstanceId = id
  | _, _ => False

namespace BindingService

/-- The fence has the durable binding and no other. -/
def Published (s : BindingService) : Prop :=
  ∀ id, s.fence.current id =
    s.ledger.activeBinding.filter fun b => b.spacecraftInstanceId = id

/-- What is published is durable, or will be overwritten. -/
def Settling (s : BindingService) (t : ℕ) : Prop :=
  ∀ id b, s.fence.current id = some b → b.spacecraftInstanceId = id ∧
    (s.ledger.activeBinding = some b ∨ (s.threads t).Overwrites id)

/-- The invariant. -/
structure Coherent (s : BindingService) : Prop where
  excludes : s.fence.toReadWriteFence.Excludes fun t => (s.threads t).role
  inside : ∀ t b, s.threads t = .inside b → s.ledger.activeBinding = some b
  quiet : (∀ t, (s.threads t).migrating = none) → s.Published
  migrating : ∀ t migration, (s.threads t).migrating = some migration →
    s.ledger.activeBinding = some migration.current ∧ s.Settling t
  published : ∀ t migration, s.threads t = .published migration → s.Published

/-- A publication of `refresh` is of the durable binding, or a `bind` has still to overwrite
it. -/
def PublishesActive (s : BindingService) (input : ℕ × BindingAction) : Prop :=
  ∀ b now refused, s.threads input.1 = .refreshed b → input.2 = .proceed now refused →
    s.ledger.activeBinding = some b ∨ ∃ t, (s.threads t).Overwrites b.spacecraftInstanceId

variable {s : BindingService} {t t' : ℕ} {thread : BindingThread}

theorem go_threads (s : BindingService) (t : ℕ) (thread : BindingThread) (t' : ℕ) :
    (s.go t thread).threads t' = if t' = t then thread else s.threads t' :=
  Function.update_apply ..

/-- The roles after a thread has moved on. -/
theorem go_role (s : BindingService) (t : ℕ) (thread : BindingThread) :
    (fun t' => ((s.go t thread).threads t').role) =
      Function.update (fun t' => (s.threads t').role) t thread.role := by
  funext t'
  rw [go_threads, Function.update_apply]
  split
  · rfl
  · rfl

theorem holdsFlag_of_migrating {migration : BindingMigration}
    (migrating : thread.migrating = some migration) : thread.role = .writing := by
  cases thread with
  | committed _ => rfl
  | retired _ => rfl
  | published _ => rfl
  | idle => cases migrating
  | refreshed _ => cases migrating
  | inside _ => cases migrating
  | draining _ => cases migrating
  | writing _ => cases migrating
  | failed _ => cases migrating

theorem migrating_of_overwrites {id : U64} (overwrites : thread.Overwrites id) :
    ∃ migration, thread.migrating = some migration := by
  cases thread with
  | committed migration => exact ⟨migration, rfl⟩
  | retired migration => exact ⟨migration, rfl⟩
  | published _ => exact overwrites.elim
  | idle => exact overwrites.elim
  | refreshed _ => exact overwrites.elim
  | inside _ => exact overwrites.elim
  | draining _ => exact overwrites.elim
  | writing _ => exact overwrites.elim
  | failed _ => exact overwrites.elim

namespace Coherent

/-- While no flag is taken nobody migrates. -/
theorem migrating_eq_none (coherent : s.Coherent) (free : s.fence.writeActive = false) (t : ℕ) :
    (s.threads t).migrating = none := by
  cases migrating : (s.threads t).migrating with
  | none => rfl
  | some migration =>
      have taken := coherent.excludes.flag t (.inr (holdsFlag_of_migrating migrating))
      rw [free] at taken
      cases taken

/-- The writer is the only thread that migrates. -/
theorem eq_of_migrating (coherent : s.Coherent) (writes : (s.threads t).role = .writing)
    {migration : BindingMigration} (migrating : (s.threads t').migrating = some migration) :
    t' = t :=
  coherent.excludes.one t' t (.inr (holdsFlag_of_migrating migrating)) (.inr writes)

/-- While a thread writes without having committed, nobody migrates. -/
theorem quiet_of_writing (coherent : s.Coherent) (writes : (s.threads t).role = .writing)
    (before : (s.threads t).migrating = none) : s.Published := by
  refine coherent.quiet fun t' => ?_
  cases migrating : (s.threads t').migrating with
  | none => rfl
  | some migration =>
      rw [coherent.eq_of_migrating writes migrating, before] at migrating
      cases migrating

/-- A thread that has not committed moves on, and the bindings stay. -/
theorem move (coherent : s.Coherent) (fence : ReadWriteFence)
    (before : (s.threads t).migrating = none) (after : thread.migrating = none)
    (inside : ∀ b, thread = .inside b → s.ledger.activeBinding = some b)
    (excludes : fence.Excludes (Function.update (fun t' => (s.threads t').role) t thread.role)) :
    Coherent (go { s with fence := ⟨fence, s.fence.bindings⟩ } t thread) where
  excludes := by
    rw [go_role]
    exact excludes
  inside t' b here := by
    rw [go_threads] at here
    split at here
    · exact inside b here
    · exact coherent.inside t' b here
  quiet none := by
    refine coherent.quiet fun t' => ?_
    by_cases same : t' = t
    · rw [same, before]
    · have other := none t'
      rwa [go_threads, if_neg same] at other
  migrating t' migration migrating := by
    rw [go_threads] at migrating
    split at migrating
    · rw [after] at migrating
      cases migrating
    · rename_i other
      obtain ⟨active, settling⟩ := coherent.migrating t' migration migrating
      refine ⟨active, fun id b here => ?_⟩
      rw [go_threads, if_neg other]
      exact settling id b here
  published t' migration here := by
    rw [go_threads] at here
    split at here
    · rw [here] at after
      cases after
    · exact coherent.published t' migration here

/-! ## The steps -/

theorem startWrite (coherent : s.Coherent) (idle : s.threads t = .idle) (current : LinkBinding) :
    (s.startWrite t current).Coherent := by
  unfold BindingService.startWrite
  split
  · exact coherent
  · rename_i free
    refine coherent.move ⟨s.fence.readers, true⟩ (by rw [idle]; rfl) rfl nofun ?_
    exact coherent.excludes.acquire (Bool.eq_false_of_not_eq_true free) (by rw [idle]; rfl)

theorem startRead (coherent : s.Coherent) (idle : s.threads t = .idle) (binding : LinkBinding) :
    (s.startRead t binding).1.Coherent := by
  unfold BindingService.startRead
  split
  · exact coherent
  rename_i free
  have free := Bool.eq_false_of_not_eq_true free
  split
  · exact coherent
  · rename_i published
    refine coherent.move ⟨s.fence.readers + 1, s.fence.writeActive⟩ (by rw [idle]; rfl) rfl ?_ ?_
    · rintro b ⟨⟩
      have quiet := coherent.quiet (coherent.migrating_eq_none free) binding.spacecraftInstanceId
      rw [not_not.mp published] at quiet
      exact (Option.filter_eq_some_iff.mp quiet.symm).1
    · exact coherent.excludes.enter free (by rw [idle]; rfl)

theorem startRefresh (coherent : s.Coherent) (idle : s.threads t = .idle) :
    (s.startRefresh t).1.Coherent := by
  unfold BindingService.startRefresh
  split
  · exact coherent
  · exact coherent.move s.fence.toReadWriteFence (by rw [idle]; rfl) rfl nofun
      (coherent.excludes.stay (by rw [idle]; rfl))

/-- A publication of `refresh`. -/
theorem publishRefreshed (coherent : s.Coherent) {b : LinkBinding}
    (refreshed : s.threads t = .refreshed b) (publishes : s.ledger.activeBinding = some b ∨
      ∃ t', (s.threads t').Overwrites b.spacecraftInstanceId) :
    (go { s with fence := s.fence.publish b } t .idle).Coherent := by
  have current (id : U64) : (s.fence.publish b).current id =
      if id = b.spacecraftInstanceId then some b else s.fence.current id :=
    Table.find?_set ..
  have ofActive (active : s.ledger.activeBinding = some b) (before : s.Published) :
      (go { s with fence := s.fence.publish b } t .idle).Published := by
    intro id
    show (s.fence.publish b).current id = s.ledger.activeBinding.filter _
    rw [current]
    split
    · rename_i same
      rw [active, same]
      exact (Option.filter_some_pos (by simp)).symm
    · exact before id
  have same (t' : ℕ) : ((go { s with fence := s.fence.publish b } t .idle).threads t').migrating =
      (s.threads t').migrating := by
    rw [go_threads]
    split
    · rename_i isT
      rw [isT, refreshed]
      rfl
    · rfl
  refine ⟨?_, fun t' b' here => ?_, fun none => ?_, fun t' migration migrating => ?_,
    fun t' migration here => ?_⟩
  · rw [go_role]
    exact coherent.excludes.stay (by rw [refreshed]; rfl)
  · rw [go_threads] at here
    split at here
    · cases here
    · exact coherent.inside t' b' here
  · have none (t' : ℕ) : (s.threads t').migrating = Option.none := (same t').symm.trans (none t')
    rcases publishes with active | ⟨t', overwrites⟩
    · exact ofActive active (coherent.quiet none)
    · obtain ⟨migration, migrating⟩ := migrating_of_overwrites overwrites
      rw [none] at migrating
      cases migrating
  · rw [same] at migrating
    obtain ⟨active, settling⟩ := coherent.migrating t' migration migrating
    refine ⟨active, fun id b' here => ?_⟩
    have other : t' ≠ t := by
      rintro rfl
      rw [refreshed] at migrating
      cases migrating
    rw [go_threads, if_neg other]
    change (s.fence.publish b).current id = some b' at here
    rw [current] at here
    split at here
    · rename_i ofB
      cases here
      refine ⟨ofB.symm, publishes.imp (fun active => active) fun overwritten => ?_⟩
      obtain ⟨t'', overwrites⟩ := overwritten
      obtain ⟨migration', migrating'⟩ := migrating_of_overwrites overwrites
      obtain rfl := coherent.eq_of_migrating (holdsFlag_of_migrating migrating) migrating'
      rw [ofB]
      exact overwrites
    · exact settling id b' here
  · have here : s.threads t' = .published migration := by
      rw [go_threads] at here
      split at here
      · cases here
      · exact here
    have migrating : (s.threads t').migrating = some migration := by
      rw [here]
      rfl
    rcases publishes with active | ⟨t'', overwrites⟩
    · exact ofActive active (coherent.published t' migration here)
    · obtain ⟨migration', migrating'⟩ := migrating_of_overwrites overwrites
      obtain rfl := coherent.eq_of_migrating (holdsFlag_of_migrating migrating) migrating'
      rw [here] at overwrites
      exact overwrites.elim

/-- A step of the writer after its commit: the durable binding stays. -/
theorem migrate (coherent : s.Coherent) {migration : BindingMigration}
    (before : (s.threads t).migrating = some migration)
    (after : thread.migrating = some migration) (bindings : Table U64 LinkBinding)
    (settling : ∀ id b, bindings.find? id = some b → b.spacecraftInstanceId = id ∧
      (s.ledger.activeBinding = some b ∨ thread.Overwrites id))
    (published : ∀ migration, thread = .published migration → ∀ id, bindings.find? id =
      s.ledger.activeBinding.filter fun b => b.spacecraftInstanceId = id) :
    Coherent (go { s with fence := { s.fence with bindings } } t thread) where
  excludes := by
    rw [go_role, holdsFlag_of_migrating after]
    exact coherent.excludes.stay (holdsFlag_of_migrating before)
  inside t' b here := by
    rw [go_threads] at here
    split at here
    · rw [here] at after
      cases after
    · exact coherent.inside t' b here
  quiet none := by
    have self := none t
    rw [go_threads, if_pos rfl, after] at self
    cases self
  migrating t' migration' migrating' := by
    have same : t' = t := by
      by_contra other
      rw [go_threads, if_neg other] at migrating'
      exact other (coherent.eq_of_migrating (holdsFlag_of_migrating before) migrating')
    rw [go_threads, if_pos same, after] at migrating'
    cases migrating'
    refine ⟨(coherent.migrating t migration before).1, fun id b here => ?_⟩
    rw [go_threads, if_pos same]
    exact settling id b here
  published t' migration' here := by
    have same : t' = t := by
      by_contra other
      rw [go_threads, if_neg other] at here
      exact other (coherent.eq_of_migrating (holdsFlag_of_migrating before) (by rw [here]; rfl))
    rw [go_threads, if_pos same] at here
    exact published migration' here

/-- The transaction: the fence still has the binding before, which the thread will
overwrite. -/
theorem transact (coherent : s.Coherent) {current : LinkBinding}
    (writing : s.threads t = .writing current) (now : ℕ) (refused : Option PyException) :
    (s.transact t current now refused).Coherent := by
  have writes : (s.threads t).role = .writing := by rw [writing]; rfl
  have before : (s.threads t).migrating = none := by rw [writing]; rfl
  have failed (failure : PyException) : (s.go t (.failed failure)).Coherent :=
    coherent.move s.fence.toReadWriteFence before rfl nofun (coherent.excludes.stay writes)
  unfold BindingService.transact
  split
  · exact failed _
  split
  · exact failed _
  rename_i migration ledger done
  obtain ⟨ofCurrent, active, overwritten⟩ := Ledger.bind_activeBinding done
  have quiet := coherent.quiet_of_writing writes before
  have alone {t' : ℕ} {migration' : BindingMigration}
      (migrating : ((go { s with ledger } t (.committed migration)).threads t').migrating =
        some migration') : t' = t := by
    by_contra other
    rw [go_threads, if_neg other] at migrating
    exact other (coherent.eq_of_migrating writes migrating)
  refine ⟨?_, fun t' b here => ?_, fun none => ?_, fun t' migration' migrating => ?_,
    fun t' migration' here => ?_⟩
  · rw [go_role]
    exact coherent.excludes.stay writes
  · rw [go_threads] at here
    split at here
    · cases here
    · refine absurd ?_ (coherent.excludes.not_reading writes t')
      show (s.threads t').role = .reading
      rw [show s.threads t' = .inside b from here]
      rfl
  · have self := none t
    rw [go_threads, if_pos rfl] at self
    cases self
  · have same := alone migrating
    rw [go_threads, if_pos same] at migrating
    cases migrating
    refine ⟨ofCurrent ▸ active, fun id b here => ?_⟩
    rw [go_threads, if_pos same]
    have stored := (quiet id).symm.trans here
    obtain ⟨durable, ofId⟩ := Option.filter_eq_some_iff.mp stored
    have ofId := of_decide_eq_true ofId
    refine ⟨ofId, .inr ?_⟩
    rcases overwritten b durable with same | retired
    · exact .inr (by rw [ofCurrent, ← same, ofId])
    · exact .inl (by rw [retired, ofId])
  · have migrating : ((go { s with ledger } t (.committed migration)).threads t').migrating =
        some migration' := by
      rw [here]
      rfl
    have same := alone migrating
    rw [go_threads, if_pos same] at here
    cases here

/-- The retirement of the previous spacecraft. -/
theorem retire (coherent : s.Coherent) {migration : BindingMigration}
    (committed : s.threads t = .committed migration) (now : ℕ) (refused : Option PyException) :
    (s.proceed t now refused).1.Coherent := by
  have before : (s.threads t).migrating = some migration := by rw [committed]; rfl
  obtain ⟨-, settling⟩ := coherent.migrating t migration before
  -- what is still published is durable, or of the spacecraft that is published next
  have settled (bindings : Table U64 LinkBinding)
      (fewer : ∀ id b, bindings.find? id = some b → s.fence.current id = some b ∧
        migration.retiredInstanceId ≠ some id) :
      (go { s with fence := { s.fence with bindings } } t (.retired migration)).Coherent := by
    refine coherent.migrate before rfl bindings (fun id b here => ?_) (fun _ => nofun)
    obtain ⟨here, kept⟩ := fewer id b here
    obtain ⟨ofId, held⟩ := settling id b here
    rw [committed] at held
    exact ⟨ofId, held.imp (fun active => active) fun overwrites => overwrites.resolve_left kept⟩
  rw [BindingService.proceed, committed]
  dsimp only
  split
  · rename_i none
    exact settled s.fence.bindings fun id b here => ⟨here, by rw [none]; nofun⟩
  · rename_i old retired
    refine settled (s.fence.bindings.erase old) fun id b here => ?_
    rw [Table.find?_erase] at here
    split at here
    · cases here
    · rename_i differs
      refine ⟨here, ?_⟩
      rw [retired]
      exact fun same => differs (Option.some.inj same).symm

/-- The publication of the new binding. -/
theorem publish (coherent : s.Coherent) {migration : BindingMigration}
    (retired : s.threads t = .retired migration) :
    (go { s with fence := s.fence.publish migration.current } t
      (.published migration)).Coherent := by
  have before : (s.threads t).migrating = some migration := by rw [retired]; rfl
  obtain ⟨active, settling⟩ := coherent.migrating t migration before
  have published (id : U64) : (s.fence.bindings.set migration.current.spacecraftInstanceId
      migration.current).find? id =
        s.ledger.activeBinding.filter fun b => b.spacecraftInstanceId = id := by
    rw [Table.find?_set, active]
    split
    · rename_i same
      rw [same, Option.filter_some_pos (by simp)]
    · rename_i differs
      rw [Option.filter_some_neg (by simpa using Ne.symm differs)]
      cases stored : s.fence.bindings.find? id with
      | none => rfl
      | some b =>
          obtain ⟨ofId, held⟩ := settling id b stored
          rw [retired] at held
          rcases held with durable | overwrites
          · obtain rfl := Option.some.inj (active.symm.trans durable)
            exact absurd ofId.symm differs
          · exact absurd overwrites.symm differs
  refine coherent.migrate before rfl _ (fun id b here => ?_) fun _ _ => published
  have stored := (published id).symm.trans here
  obtain ⟨durable, ofId⟩ := Option.filter_eq_some_iff.mp stored
  exact ⟨of_decide_eq_true ofId, .inl durable⟩

/-- The end of `bind`. -/
theorem endWrite (coherent : s.Coherent) (writes : (s.threads t).role = .writing)
    (published : s.Published) (done : ∀ t', t' ≠ t → (s.threads t').migrating = none) :
    (s.endWrite t).Coherent where
  excludes := by
    rw [BindingService.endWrite, go_role]
    exact coherent.excludes.release writes
  inside t' b here := by
    rw [BindingService.endWrite, go_threads] at here
    split at here
    · cases here
    · exact coherent.inside t' b here
  quiet _ := published
  migrating t' migration migrating := by
    rw [BindingService.endWrite, go_threads] at migrating
    split at migrating
    · cases migrating
    · rename_i other
      have none : (s.threads t').migrating = Option.none := done t' other
      change (s.threads t').migrating = some migration at migrating
      rw [none] at migrating
      cases migrating
  published _ _ _ := published

/-- The next step of a thread. -/
theorem proceed (coherent : s.Coherent) (now : ℕ) (refused : Option PyException)
    (publishes : s.PublishesActive (t, .proceed now refused)) :
    (s.proceed t now refused).1.Coherent := by
  cases here : s.threads t with
  | idle =>
      rw [BindingService.proceed, here]
      exact coherent
  | refreshed b =>
      rw [BindingService.proceed, here]
      exact coherent.publishRefreshed here (publishes b now refused here rfl)
  | inside b =>
      rw [BindingService.proceed, here]
      exact coherent.move ⟨s.fence.readers - 1, s.fence.writeActive⟩ (by rw [here]; rfl) rfl nofun
        (coherent.excludes.leave (by rw [here]; rfl))
  | draining current =>
      rw [BindingService.proceed, here]
      dsimp only
      split
      · rename_i empty
        exact coherent.move s.fence.toReadWriteFence (by rw [here]; rfl) rfl nofun
          (coherent.excludes.drained empty (by rw [here]; rfl))
      · exact coherent
  | writing current =>
      rw [BindingService.proceed, here]
      exact coherent.transact here now refused
  | committed migration => exact coherent.retire here now refused
  | retired migration =>
      rw [BindingService.proceed, here]
      exact coherent.publish here
  | published migration =>
      rw [BindingService.proceed, here]
      refine coherent.endWrite (by rw [here]; rfl) (coherent.published t migration here)
        fun t' other => ?_
      cases migrating : (s.threads t').migrating with
      | none => rfl
      | some migration' =>
          exact absurd (coherent.eq_of_migrating (by rw [here]; rfl) migrating) other
  | failed failure =>
      have writes : (s.threads t).role = .writing := by rw [here]; rfl
      rw [BindingService.proceed, here]
      refine coherent.endWrite writes (coherent.quiet_of_writing writes (by rw [here]; rfl))
        fun t' other => ?_
      cases migrating : (s.threads t').migrating with
      | none => rfl
      | some migration => exact absurd (coherent.eq_of_migrating writes migrating) other

/-- A call of an idle thread. -/
theorem call (coherent : s.Coherent) (idle : s.threads t = .idle) (action : BindingAction) :
    (s.call t action).1.Coherent := by
  cases action with
  | bind current principal =>
      rw [BindingService.call]
      split
      · exact coherent
      · exact coherent.startWrite idle current
  | refresh => exact coherent.startRefresh idle
  | activeBinding => exact coherent.startRefresh idle
  | read binding => exact coherent.startRead idle binding
  | proceed now refused => exact coherent

/-- Every step keeps the invariant while `refresh` publishes the durable binding. -/
theorem step (coherent : s.Coherent) (input : ℕ × BindingAction)
    (publishes : s.PublishesActive input) : (bindingMachine.step s input).1.Coherent := by
  obtain ⟨t, action⟩ := input
  have called (action : BindingAction) :
      (if s.threads t = .idle then s.call t action else (s, none)).1.Coherent := by
    split
    · rename_i idle
      exact coherent.call idle action
    · exact coherent
  cases action with
  | bind current principal => exact called _
  | refresh => exact called _
  | activeBinding => exact called _
  | read binding => exact called _
  | proceed now refused => exact coherent.proceed now refused publishes

end Coherent

/-- The manager at its start. -/
theorem coherent_start (ledger : Ledger) : (start ledger).Coherent where
  excludes := ReadWriteFence.excludes_initial fun _ => rfl
  inside _ _ := nofun
  quiet _ id := by
    show Table.find? (match ledger.activeBinding with
      | none => .empty
      | some binding => Table.empty.set binding.spacecraftInstanceId binding) id =
        ledger.activeBinding.filter _
    cases ledger.activeBinding with
    | none => rfl
    | some binding =>
        rw [Table.find?_set]
        split
        · rename_i same
          rw [same, Option.filter_some_pos (by simp)]
        · rename_i differs
          rw [Option.filter_some_neg (by simpa using Ne.symm differs)]
          rfl
  migrating _ _ := nofun
  published _ _ := nofun

end BindingService

/-! ## Runs -/

open BindingService

/-- What is claimed of a state.  A `bind` past its transaction has not returned. -/
structure BindingsHold (s : BindingService) : Prop where
  inside : ∀ t b, s.threads t = .inside b → s.ledger.activeBinding = some b
  current : (∀ t, (s.threads t).migrating = none) → ∀ id, s.fence.current id =
    s.ledger.activeBinding.filter fun b => b.spacecraftInstanceId = id

/-- A `bind` returns when the durable binding is its own, and published. -/
def BindReturns (s : BindingService) (input : ℕ × BindingAction) : Prop :=
  ∀ migration, (bindingMachine.step s input).2 = some (.ok (.migration migration)) →
    (bindingMachine.step s input).1.ledger.activeBinding = some migration.current ∧
    (bindingMachine.step s input).1.fence.current migration.current.spacecraftInstanceId =
      some migration.current

/-- What is claimed of a run. -/
structure BindingClaims (ledger : Ledger) (inputs : List (ℕ × BindingAction)) : Prop where
  everyState : ∀ before, before <+: inputs →
    BindingsHold (bindingMachine.exec (start ledger) before)
  returns : bindingMachine.AllSteps BindReturns (start ledger) inputs

variable {s : BindingService}

/-- Only the thread that has published returns a migration. -/
theorem published_of_migration {input : ℕ × BindingAction} {migration : BindingMigration}
    (returned : (bindingMachine.step s input).2 = some (.ok (.migration migration))) :
    s.threads input.1 = .published migration ∧
      (bindingMachine.step s input).1 = s.endWrite input.1 := by
  obtain ⟨t, action⟩ := input
  have notCalled (action : BindingAction) :
      (if s.threads t = .idle then s.call t action else (s, none)).2 ≠
        some (.ok (.migration migration)) := by
    split
    · cases action with
      | bind current principal =>
          rw [BindingService.call]
          split
          · nofun
          · nofun
      | refresh =>
          rw [BindingService.call, BindingService.startRefresh]
          split
          · nofun
          · nofun
      | activeBinding =>
          rw [BindingService.call, BindingService.startRefresh]
          split
          · nofun
          · nofun
      | read binding =>
          rw [BindingService.call, BindingService.startRead]
          split
          · nofun
          split
          · nofun
          · nofun
      | proceed now refused => nofun
    · nofun
  cases action with
  | bind current principal => exact absurd returned (notCalled _)
  | refresh => exact absurd returned (notCalled _)
  | activeBinding => exact absurd returned (notCalled _)
  | read binding => exact absurd returned (notCalled _)
  | proceed now refused =>
      change (s.proceed t now refused).2 = _ at returned
      show s.threads t = _ ∧ (s.proceed t now refused).1 = _
      unfold BindingService.proceed at returned ⊢
      cases here : s.threads t with
      | published migration' =>
          rw [here] at returned
          cases returned
          exact ⟨rfl, rfl⟩
      | draining current =>
          rw [here] at returned
          dsimp only at returned
          split at returned
          · cases returned
          · cases returned
      | committed migration' =>
          rw [here] at returned
          dsimp only at returned
          split at returned
          · cases returned
          · cases returned
      | idle => rw [here] at returned; cases returned
      | refreshed b => rw [here] at returned; cases returned
      | inside b => rw [here] at returned; cases returned
      | writing current => rw [here] at returned; cases returned
      | retired migration' => rw [here] at returned; cases returned
      | failed failure => rw [here] at returned; cases returned

/-- In a coherent state a `bind` that returns has published the durable binding. -/
theorem bindReturns_of_coherent (coherent : s.Coherent) (input : ℕ × BindingAction) :
    BindReturns s input := by
  intro migration returned
  obtain ⟨here, after⟩ := published_of_migration returned
  rw [after]
  have active := (coherent.migrating input.1 migration (by rw [here]; rfl)).1
  refine ⟨active, ?_⟩
  refine (coherent.published input.1 migration here _).trans ?_
  rw [active, Option.filter_some_pos (by simp)]

/-- **The binding fence.**  In every interleaving whose refreshes publish the durable
binding, or one that a `bind` under way has still to overwrite, a reader is inside with the
durable binding only, and every `bind` returns with it published; nothing else is published
but during a `bind`. -/
theorem bindingClaims_of_publishesActive (ledger : Ledger) (inputs : List (ℕ × BindingAction))
    (publishes : bindingMachine.AllSteps PublishesActive (start ledger) inputs) :
    BindingClaims ledger inputs where
  everyState before isPrefix := by
    obtain ⟨after, rfl⟩ := isPrefix
    have coherent := bindingMachine.exec_invariant_of_allSteps Coherent (coherent_start ledger)
      (fun _ input publishes coherent => coherent.step input publishes) before
      ((bindingMachine.allSteps_append _ _ before after).mp publishes).1
    exact ⟨coherent.inside, coherent.quiet⟩
  returns := by
    have both : bindingMachine.AllSteps
        (fun s input => s.PublishesActive input ∧ BindReturns s input) (start ledger) inputs :=
      (bindingMachine.allSteps_iff_of_invariant Coherent
        (fun s input coherent => ⟨fun both => both.1, fun publishes =>
          ⟨publishes, bindReturns_of_coherent coherent input⟩⟩)
        (fun _ input coherent publishes => coherent.step input publishes)
        (coherent_start ledger) inputs).mpr publishes
    exact bindingMachine.allSteps_of_invariant (fun _ => True) (fun _ _ _ => trivial)
      (fun _ _ _ both => both.2) trivial both

/-! ## A late publication -/

/-- A database whose spacecraft 1 is bound at generation 1. -/
def boundLedger : Ledger :=
  { Ledger.migrated with
    metadata := some ⟨1, 1, some ⟨1, 1, 1⟩⟩
    instances := Table.empty.set 1 ⟨1, some 1, .active, 0, 0, .contactOpen⟩ }

/-- Its binding. -/
def durableBinding : LinkBinding := ⟨1, 1, 1, .contactOpen⟩

/-- A new session of the spacecraft. -/
def newSessionBinding : LinkBinding := ⟨1, 2, 2, .contactOpen⟩

/-- The steps of a `bind` that nobody delays. -/
def bindSteps (t : ℕ) (current : LinkBinding) : List (ℕ × BindingAction) :=
  (t, .bind current "link-manager") :: List.replicate 5 (t, .proceed 0 none)

/-- The theorem applies to a refresh that publishes before the next `bind`. -/
theorem bindingClaims_of_publishesActive_inOrder : BindingClaims boundLedger
    ([(1, .refresh), (1, .proceed 0 none)] ++ bindSteps 2 newSessionBinding) := by
  refine bindingClaims_of_publishesActive boundLedger _ ?_
  refine ⟨?_, ?_, ?_, ?_, ?_, ?_, ?_, ?_, trivial⟩
  · nofun
  · rintro b now refused ⟨⟩ -
    exact .inl rfl
  · nofun
  · nofun
  · nofun
  · nofun
  · nofun
  · nofun

/-- Thread 1 reads the first binding, thread 2 binds the second, thread 1 publishes what it
read, and thread 3 reads behind the fence with the first. -/
theorem not_bindingClaims_of_lateRefresh : ¬ ∀ ledger inputs, BindingClaims ledger inputs := by
  intro always
  have claims := always boundLedger ([(1, .refresh)] ++ bindSteps 2 newSessionBinding ++
    [(1, .proceed 0 none), (3, .read durableBinding)])
  have durable := (claims.everyState _ (List.prefix_refl _)).inside 3 durableBinding (by rfl)
  exact absurd durable (by decide)

end CubeNano

import CubeNano.Lib.Machine
import CubeNano.Link.Sessions

/-!
# Runs of the session manager

Sessions are created, closed and asked about, and the process restarts from its
checkpoint, which keeps the two allocators and forgets the sessions.  The allocators
carry the identities over restarts; the link between the history and the active table
carries the rest.

A session that cannot be created has closed the one it was to replace.

## Main definitions

* `SessionManager.validatePacket`, `SessionManager.shouldDropPacket`
* `SessionManager.checkpoint`, `SessionManager.new`, `sessionMachine`
* `SessionManager.Linked` — the invariant of history, active table and allocators

## Main statements

* `sessionMachine_linked` — every operation keeps it
* `sessionClaims_iff` — the sessions of a run behave exactly when no creation is refused
  that had a session to replace
-/

namespace CubeNano

/-- `state.value`. -/
def SessionState.value : SessionState → String
  | active => "ACTIVE"
  | closing => "CLOSING"
  | closed => "CLOSED"

/-- What `checkpoint` returns. -/
structure SessionCheckpoint where
  nextSessionId : ℕ
  generationFloors : Table ℕ ℕ

namespace SessionManager

/-- `validate_packet`. -/
def validatePacket (m : SessionManager) (sessionId senderBootId instance' : ℕ) :
    Bool × Option String :=
  match m.getSession sessionId with
  | none => (false, some "UNKNOWN_SESSION")
  | some session =>
      if session.state ≠ .active then (false, some s!"SESSION_{session.state.value}")
      else if session.senderBootId ≠ senderBootId then (false, some "SENDER_BOOT_MISMATCH")
      else if session.spacecraftInstanceId ≠ instance' then (false, some "INSTANCE_MISMATCH")
      else if m.activeSessions.find? instance' ≠ some sessionId then (false, some "STALE_SESSION")
      else (true, none)

/-- `should_drop_packet`. -/
def shouldDropPacket (m : SessionManager) (sessionId senderBootId : ℕ) : Bool × String :=
  match m.getSession sessionId with
  | none => (true, "UNKNOWN_SESSION")
  | some session =>
      if session.state = .closed then (true, "SESSION_CLOSED")
      else if session.senderBootId ≠ senderBootId then (true, "BOOT_MISMATCH")
      else if session.state = .closing then (true, "SESSION_CLOSING")
      else (false, "ACTIVE")

/-- `checkpoint`. -/
def checkpoint (m : SessionManager) : SessionCheckpoint := ⟨m.nextSessionId, m.generationFloors⟩

/-- `SessionManager(next_session_id=…, generation_floors=…)`. -/
def new (nextSessionId : ℕ) (generationFloors : Table ℕ ℕ) : Raises SessionManager :=
  if ¬ (1 ≤ nextSessionId ∧ nextSessionId ≤ 0xFFFFFFFFFFFFFFFF) then
    valueError "next_session_id must fit U64 and be positive"
  else if generationFloors.rows.any fun row =>
      ¬ (1 ≤ row.1 ∧ row.1 ≤ 0xFFFFFFFFFFFFFFFF ∧ row.2 ≤ 0xFFFFFFFFFFFFFFFF) then
    valueError "generation_floors must contain U64 instance and generation values"
  else .ok ⟨.empty, .empty, nextSessionId, generationFloors⟩

end SessionManager

/-- The operations; a restart goes through the checkpoint. -/
inductive SessionOp
  | create (spacecraftInstanceId senderBootId currentTimeNs : ℕ)
  | close (sessionId currentTimeNs : ℕ)
  | validate (sessionId senderBootId spacecraftInstanceId : ℕ)
  | restart
  deriving DecidableEq

/-- What they return; for a creation the session under the returned id. -/
inductive SessionResult
  | created (session : Option Session)
  | closed (session : Option Session)
  | validated (isValid : Bool) (reason : Option String)
  | restarted
  deriving DecidableEq

/-- A restart from the checkpoint.  Of a process that does not come up again the
checkpoint stays. -/
def SessionManager.restart (m : SessionManager) : SessionManager × Raises SessionResult :=
  match new m.checkpoint.nextSessionId m.checkpoint.generationFloors with
  | .ok restarted => (restarted, .ok .restarted)
  | .error failure => (m, .error failure)

/-- The session manager. -/
def sessionMachine : Machine SessionManager SessionOp (Raises SessionResult) where
  step m op :=
    match op with
    | .create instance' boot time =>
        let outcome := m.createSession instance' boot time
        (outcome.2, outcome.1.map fun id => .created (outcome.2.getSession id))
    | .close sessionId time =>
        let outcome := m.closeSession sessionId time
        (outcome.2, .ok (.closed outcome.1))
    | .validate sessionId boot instance' =>
        let outcome := m.validatePacket sessionId boot instance'
        (m, .ok (.validated outcome.1 outcome.2))
    | .restart => m.restart

/-- The session of a creation. -/
def createdSession : Raises SessionResult → Option Session
  | .ok (.created session) => session
  | _ => none

namespace SessionManager

variable {m m' : SessionManager} {i boot time k k' : ℕ} {s s' : Session}

/-! ## Generations -/

/-- The floor of an instance. -/
def floor (m : SessionManager) (i : ℕ) : ℕ := (m.generationFloors.find? i).getD 0

/-- An allocator has no value left for an instance. -/
def Exhausted (m : SessionManager) (i : ℕ) : Prop :=
  0xFFFFFFFFFFFFFFFF ≤ m.nextSessionId ∨ 0xFFFFFFFFFFFFFFFF < m.nextGeneration i

instance decidableExhausted (m : SessionManager) (i : ℕ) : Decidable (m.Exhausted i) :=
  inferInstanceAs (Decidable (_ ∨ _))

theorem foldl_max_of_forall_le {generations : List ℕ} {floor : ℕ}
    (below : ∀ generation ∈ generations, generation ≤ floor) :
    generations.foldl max floor = floor := by
  induction generations with
  | nil => rfl
  | cons first rest ih =>
      rw [List.foldl_cons, Nat.max_eq_left (below first List.mem_cons_self)]
      exact ih fun generation mem => below generation (List.mem_cons_of_mem _ mem)

/-- When the floor of an instance bounds its sessions, the next generation follows it. -/
theorem nextGeneration_eq (below : ∀ k s, m.getSession k = some s → s.spacecraftInstanceId = i →
    s.generation ≤ m.floor i) : m.nextGeneration i = m.floor i + 1 := by
  unfold nextGeneration
  rw [foldl_max_of_forall_le]
  · rfl
  · intro generation mem
    obtain ⟨row, stored, rfl⟩ := List.mem_map.mp mem
    obtain ⟨stored, same⟩ := List.mem_filter.mp stored
    exact below row.1 row.2 (Table.mem_rows_iff.mp stored) (of_decide_eq_true same)

/-! ## The invariant -/

/-- How history, active table and allocators belong together. -/
structure Linked (m : SessionManager) : Prop where
  nextSessionId : 1 ≤ m.nextSessionId ∧ m.nextSessionId ≤ 0xFFFFFFFFFFFFFFFF
  ids : ∀ k s, m.getSession k = some s → s.sessionId = k ∧ k < m.nextSessionId
  belowFloor : ∀ k s, m.getSession k = some s → s.generation ≤ m.floor s.spacecraftInstanceId
  generations : ∀ k s k' s', m.getSession k = some s → m.getSession k' = some s' →
    s.spacecraftInstanceId = s'.spacecraftInstanceId → s.generation = s'.generation → k = k'
  activeIsListed : ∀ k s, m.getSession k = some s → s.state = .active →
    m.activeSessions.find? s.spacecraftInstanceId = some k
  listed : ∀ i k, m.activeSessions.find? i = some k → ∃ s, m.getSession k = some s ∧
    s.spacecraftInstanceId = i ∧ s.generation = m.floor i

/-- A new manager has no sessions. -/
theorem linked_of_new {nextSessionId : ℕ} {generationFloors : Table ℕ ℕ}
    (built : new nextSessionId generationFloors = .ok m) :
    m.Linked ∧ m.nextSessionId = nextSessionId ∧ m.generationFloors = generationFloors := by
  unfold new at built
  split at built
  · cases built
  rename_i fits
  split at built
  · cases built
  cases built
  exact ⟨⟨not_not.mp fits, by nofun, by nofun, by nofun, by nofun, by nofun⟩, rfl, rfl⟩

theorem Linked.nextGeneration (linked : m.Linked) (i : ℕ) :
    m.nextGeneration i = m.floor i + 1 :=
  nextGeneration_eq fun k s here same => same ▸ linked.belowFloor k s here

/-- The listed session of an instance is the one `get_active_session` returns. -/
theorem getActiveSession_eq_some (linked : m.Linked) (here : m.getActiveSession i = some s) :
    ∃ k, m.activeSessions.find? i = some k ∧ m.getSession k = some s ∧ s.sessionId = k ∧
      s.spacecraftInstanceId = i := by
  obtain ⟨k, listed, stored⟩ := Option.bind_eq_some_iff.mp here
  obtain ⟨t, stored', ofInstance, -⟩ := linked.listed i k listed
  obtain rfl : t = s := Option.some.inj (stored'.symm.trans stored)
  exact ⟨k, listed, stored, (linked.ids k t stored).1, ofInstance⟩

/-- Without an active session nothing of the instance is listed. -/
theorem getActiveSession_eq_none (linked : m.Linked) (absent : m.getActiveSession i = none) :
    m.activeSessions.find? i = none := by
  cases listed : m.activeSessions.find? i with
  | none => rfl
  | some k =>
      obtain ⟨s, stored, -⟩ := linked.listed i k listed
      rw [getActiveSession, listed, Option.bind_some, stored] at absent
      cases absent

/-- A restart keeps the allocators, or everything. -/
theorem restart_cases (m : SessionManager) :
    (∃ restarted, m.restart = (restarted, .ok .restarted) ∧ restarted.Linked ∧
      restarted.nextSessionId = m.nextSessionId ∧
        restarted.generationFloors = m.generationFloors) ∨
    ∃ failure, m.restart = (m, .error failure) := by
  unfold restart
  split
  · rename_i restarted built
    obtain ⟨linked, next, floors⟩ := linked_of_new built
    exact .inl ⟨restarted, rfl, linked, next, floors⟩
  · exact .inr ⟨_, rfl⟩

theorem restart_linked (linked : m.Linked) : m.restart.1.Linked := by
  rcases restart_cases m with ⟨restarted, done, linked', -⟩ | ⟨failure, refused⟩
  · rw [done]
    exact linked'
  · rw [refused]
    exact linked

/-! ## Changes of a stored session -/

/-- A session that changes neither its identity nor its generation. -/
structure SameIdentity (s s' : Session) : Prop where
  sessionId : s'.sessionId = s.sessionId
  spacecraftInstanceId : s'.spacecraftInstanceId = s.spacecraftInstanceId
  generation : s'.generation = s.generation

/-- A stored session leaves the active state; it may stay listed or not. -/
theorem Linked.retire (linked : m.Linked) (stored : m.getSession k = some s)
    (same : SameIdentity s s') (inactive : s'.state ≠ .active)
    (history : m'.sessionHistory = m.sessionHistory.set k s')
    (listed : ∀ i', m'.activeSessions.find? i' = m.activeSessions.find? i' ∨
      i' = s.spacecraftInstanceId ∧ m.activeSessions.find? i' = some k ∧
        m'.activeSessions.find? i' = none)
    (next : m'.nextSessionId = m.nextSessionId) (floors : m'.generationFloors = m.generationFloors) :
    m'.Linked := by
  have after (j : ℕ) : m'.getSession j = if j = k then some s' else m.getSession j := by
    rw [getSession, history, Table.find?_set]
    rfl
  have sameFloor (j : ℕ) : m'.floor j = m.floor j := by rw [floor, floor, floors]
  -- a session afterwards was there before, with the same identity
  have before (j : ℕ) (t : Session) (here : m'.getSession j = some t) :
      ∃ u, m.getSession j = some u ∧ SameIdentity u t ∧ (t.state = .active → u = t) := by
    rw [after] at here
    split at here
    · rename_i ofK
      cases here
      exact ⟨s, ofK ▸ stored, same, fun active => absurd active inactive⟩
    · exact ⟨t, here, ⟨rfl, rfl, rfl⟩, fun _ => rfl⟩
  refine ⟨next ▸ linked.nextSessionId, fun j t here => ?_, fun j t here => ?_,
    fun j t j' t' here here' ofInstance generation => ?_, fun j t here active => ?_,
    fun i' j here => ?_⟩
  · obtain ⟨u, here, same, -⟩ := before j t here
    rw [same.sessionId, next]
    exact linked.ids j u here
  · obtain ⟨u, here, same, -⟩ := before j t here
    rw [same.generation, same.spacecraftInstanceId, sameFloor]
    exact linked.belowFloor j u here
  · obtain ⟨u, here, same, -⟩ := before j t here
    obtain ⟨u', here', same', -⟩ := before j' t' here'
    rw [same.spacecraftInstanceId, same'.spacecraftInstanceId] at ofInstance
    rw [same.generation, same'.generation] at generation
    exact linked.generations j u j' u' here here' ofInstance generation
  · obtain ⟨u, here', -, stays⟩ := before j t here
    obtain rfl := stays active
    have listedBefore := linked.activeIsListed j u here' active
    rcases listed u.spacecraftInstanceId with kept | ⟨-, ofK, -⟩
    · rw [kept]
      exact listedBefore
    · -- the retired session was the listed one, so it is this one
      obtain rfl : j = k := Option.some.inj (listedBefore.symm.trans ofK)
      rw [after, if_pos rfl] at here
      cases here
      exact absurd active inactive
  · rcases listed i' with kept | ⟨-, -, gone⟩
    · rw [kept] at here
      obtain ⟨t, stored', ofInstance, generation⟩ := linked.listed i' j here
      rw [sameFloor, after]
      split
      · rename_i ofK
        rw [ofK] at stored'
        obtain rfl : t = s := Option.some.inj (stored'.symm.trans stored)
        exact ⟨s', rfl, same.spacecraftInstanceId.trans ofInstance,
          same.generation.trans generation⟩
      · exact ⟨t, stored', ofInstance, generation⟩
    · rw [gone] at here
      cases here

/-- The first lines of `create_session` keep everything linked. -/
theorem closeReplaced_linked (linked : m.Linked) (i time : ℕ) :
    (m.closeReplaced i time).Linked ∧ (m.closeReplaced i time).nextSessionId = m.nextSessionId ∧
      (m.closeReplaced i time).generationFloors = m.generationFloors := by
  unfold closeReplaced
  split
  · exact ⟨linked, rfl, rfl⟩
  · rename_i old active
    obtain ⟨k, -, stored, ofK, -⟩ := getActiveSession_eq_some linked active
    have same : SameIdentity old { old with state := .closing, closedAtNs := some time } :=
      ⟨rfl, rfl, rfl⟩
    refine ⟨linked.retire stored same nofun ?_ (fun _ => .inl rfl) rfl rfl, rfl, rfl⟩
    show m.sessionHistory.set old.sessionId _ = _
    rw [ofK]

/-- After them no session of the instance is active. -/
theorem not_active_of_closeReplaced (linked : m.Linked)
    (here : (m.closeReplaced i time).getSession k = some s)
    (ofInstance : s.spacecraftInstanceId = i) : s.state ≠ .active := by
  intro active
  unfold closeReplaced at here
  split at here
  · rename_i absent
    have listed := linked.activeIsListed k s here active
    rw [ofInstance, getActiveSession_eq_none linked absent] at listed
    cases listed
  · rename_i old isActive
    obtain ⟨j, listed, -, ofJ, -⟩ := getActiveSession_eq_some linked isActive
    rw [getSession, Table.find?_set] at here
    split at here
    · cases here
      cases active
    · rename_i differs
      have listed' := linked.activeIsListed k s here active
      rw [ofInstance, listed] at listed'
      exact differs (ofJ ▸ (Option.some.inj listed').symm)

/-- A new session is stored and listed. -/
theorem Linked.store (linked : m.Linked) {next : ℕ} {floors : Table ℕ ℕ}
    (noneActive : ∀ k s, m.getSession k = some s → s.spacecraftInstanceId = i → s.state ≠ .active)
    (sameNext : m.nextSessionId = next) (sameFloors : m.generationFloors = floors)
    (room : ¬ 0xFFFFFFFFFFFFFFFF ≤ next) :
    Linked
      { activeSessions := m.activeSessions.set i next
        sessionHistory := m.sessionHistory.set next
          ⟨next, i, boot, .active, (floors.find? i).getD 0 + 1, time, none⟩
        nextSessionId := next + 1
        generationFloors := floors.set i ((floors.find? i).getD 0 + 1) } := by
  subst sameNext sameFloors
  let new : Session := ⟨m.nextSessionId, i, boot, .active, m.floor i + 1, time, none⟩
  let after : SessionManager :=
    { activeSessions := m.activeSessions.set i m.nextSessionId
      sessionHistory := m.sessionHistory.set m.nextSessionId new
      nextSessionId := m.nextSessionId + 1
      generationFloors := m.generationFloors.set i (m.floor i + 1) }
  have stored (j : ℕ) : after.getSession j =
      if j = m.nextSessionId then some new else m.getSession j := Table.find?_set _ _ _ _
  have floorAfter (j : ℕ) : after.floor j = if j = i then m.floor i + 1 else m.floor j := by
    show (Table.find? (m.generationFloors.set i (m.floor i + 1)) j).getD 0 = _
    rw [Table.find?_set]
    split
    · rfl
    · rfl
  -- an old session has an older generation than the new one of its instance
  have old (j : ℕ) (t : Session) (here : after.getSession j = some t) :
      j = m.nextSessionId ∧ t = new ∨ j ≠ m.nextSessionId ∧ m.getSession j = some t ∧
        t.generation ≤ m.floor t.spacecraftInstanceId := by
    rw [stored] at here
    split at here
    · rename_i same
      exact .inl ⟨same, (Option.some.inj here).symm⟩
    · rename_i differs
      exact .inr ⟨differs, here, linked.belowFloor j t here⟩
  show after.Linked
  refine ⟨⟨Nat.succ_pos _, Nat.not_le.mp room⟩, fun j t here => ?_, fun j t here => ?_,
    fun j t j' t' here here' ofInstance generation => ?_, fun j t here active => ?_,
    fun i' j here => ?_⟩
  · rcases old j t here with ⟨rfl, rfl⟩ | ⟨-, here, -⟩
    · exact ⟨rfl, Nat.lt_succ_self _⟩
    · obtain ⟨ofJ, below⟩ := linked.ids j t here
      exact ⟨ofJ, Nat.lt_succ_of_lt below⟩
  · rw [floorAfter]
    rcases old j t here with ⟨-, rfl⟩ | ⟨-, -, below⟩
    · exact Nat.le_of_eq (if_pos rfl).symm
    · split
      · rename_i ofI
        rw [ofI] at below
        omega
      · exact below
  · rcases old j t here with ⟨rfl, rfl⟩ | ⟨-, here, below⟩
    · rcases old j' t' here' with ⟨rfl, -⟩ | ⟨-, -, below'⟩
      · rfl
      · rw [← ofInstance, ← generation] at below'
        exact absurd below' (Nat.not_succ_le_self _)
    · rcases old j' t' here' with ⟨-, rfl⟩ | ⟨-, here', -⟩
      · rw [ofInstance, generation] at below
        exact absurd below (Nat.not_succ_le_self _)
      · exact linked.generations j t j' t' here here' ofInstance generation
  · show (m.activeSessions.set i m.nextSessionId).find? _ = _
    rw [Table.find?_set]
    rcases old j t here with ⟨rfl, rfl⟩ | ⟨-, here, -⟩
    · rw [if_pos rfl]
    · rw [if_neg fun ofI => noneActive j t here ofI active]
      exact linked.activeIsListed j t here active
  · change (m.activeSessions.set i m.nextSessionId).find? i' = some j at here
    rw [Table.find?_set] at here
    split at here
    · rename_i ofI
      cases here
      refine ⟨new, (stored _).trans (if_pos rfl), ofI.symm, ?_⟩
      rw [ofI, floorAfter, if_pos rfl]
    · rename_i differs
      obtain ⟨t, here, ofInstance, generation⟩ := linked.listed i' j here
      have earlier : j ≠ m.nextSessionId := Nat.ne_of_lt (linked.ids j t here).2
      refine ⟨t, (stored j).trans ((if_neg earlier).trans here), ofInstance, ?_⟩
      rw [floorAfter, if_neg differs]
      exact generation

/-- **What `create_session` does**: it refuses when an allocator is exhausted, and the
replaced session is closing already; otherwise it stores the new session. -/
theorem createSession_cases (linked : m.Linked) (i boot time : ℕ) :
    (m.Exhausted i ∧ ∃ failure next, m.createSession i boot time =
      (.error failure, { m.closeReplaced i time with nextSessionId := next }) ∧
        m.nextSessionId ≤ next ∧ next ≤ 0xFFFFFFFFFFFFFFFF) ∨
    (¬ m.Exhausted i ∧ m.createSession i boot time = (.ok m.nextSessionId,
      { activeSessions := (m.closeReplaced i time).activeSessions.set i m.nextSessionId
        sessionHistory := (m.closeReplaced i time).sessionHistory.set m.nextSessionId
          ⟨m.nextSessionId, i, boot, .active, m.floor i + 1, time, none⟩
        nextSessionId := m.nextSessionId + 1
        generationFloors := m.generationFloors.set i (m.floor i + 1) })) := by
  obtain ⟨linked', next, floors⟩ := closeReplaced_linked linked i time
  have generation : (m.closeReplaced i time).nextGeneration i = m.floor i + 1 := by
    rw [linked'.nextGeneration, floor, floor, floors]
  have sameGeneration := linked.nextGeneration i
  unfold createSession Exhausted
  simp only [next]
  by_cases noId : m.nextSessionId ≥ 0xFFFFFFFFFFFFFFFF
  · rw [if_pos noId]
    refine .inl ⟨.inl noId, ⟨.runtimeError, "link session ID allocator exhausted"⟩,
      m.nextSessionId, ?_, Nat.le_refl _, linked.nextSessionId.2⟩
    rw [← next]
    rfl
  rw [if_neg noId]
  have counted : nextGeneration { m.closeReplaced i time with
      nextSessionId := m.nextSessionId + 1 } i = m.floor i + 1 := generation
  rw [counted]
  by_cases noGeneration : m.floor i + 1 > 0xFFFFFFFFFFFFFFFF
  · rw [if_pos noGeneration]
    exact .inl ⟨.inr (sameGeneration ▸ noGeneration),
      ⟨.runtimeError, "link generation allocator exhausted"⟩, m.nextSessionId + 1, rfl,
      Nat.le_succ _, by omega⟩
  · rw [if_neg noGeneration, floors]
    exact .inr ⟨fun exhausted => exhausted.elim noId (sameGeneration ▸ noGeneration), rfl⟩

/-- `create_session` keeps everything linked, also when it refuses. -/
theorem createSession_linked (linked : m.Linked) (i boot time : ℕ) :
    (m.createSession i boot time).2.Linked := by
  obtain ⟨linked', -, floors⟩ := closeReplaced_linked linked i time
  rcases createSession_cases linked i boot time with
    ⟨-, failure, next, refused, least, most⟩ | ⟨room, stored⟩
  · rw [refused]
    have wider {k : ℕ} {s : Session} (here : (m.closeReplaced i time).getSession k = some s) :
        s.sessionId = k ∧ k < next := by
      obtain ⟨ofK, below⟩ := linked'.ids k s here
      rw [(closeReplaced_linked linked i time).2.1] at below
      exact ⟨ofK, Nat.lt_of_lt_of_le below least⟩
    exact ⟨⟨Nat.le_trans linked.nextSessionId.1 least, most⟩, fun _ _ => wider, linked'.belowFloor,
      linked'.generations, linked'.activeIsListed, linked'.listed⟩
  · rw [stored]
    exact linked'.store (fun k s here ofInstance => not_active_of_closeReplaced linked here ofInstance)
      (closeReplaced_linked linked i time).2.1 floors (not_or.mp room).1

/-- `close_session` keeps everything linked. -/
theorem closeSession_linked (linked : m.Linked) (sessionId time : ℕ) :
    (m.closeSession sessionId time).2.Linked := by
  unfold closeSession
  split
  · exact linked
  rename_i session stored
  split
  · exact linked
  have same : SameIdentity session { session with state := .closed, closedAtNs := some time } :=
    ⟨rfl, rfl, rfl⟩
  refine linked.retire stored same (fun active => (by cases active)) rfl (fun i' => ?_) rfl rfl
  dsimp only
  split
  · rename_i listed
    by_cases same : i' = session.spacecraftInstanceId
    · rw [same, Table.find?_erase, if_pos rfl]
      exact .inr ⟨rfl, listed, rfl⟩
    · rw [Table.find?_erase, if_neg same]
      exact .inl rfl
  · exact .inl rfl

/-! ## What the sessions promise -/

/-- The promises of one state. -/
structure SessionsHold (m : SessionManager) : Prop where
  oneActive : ∀ k s k' s', m.getSession k = some s → m.getSession k' = some s' →
    s.state = .active → s'.state = .active →
      s.spacecraftInstanceId = s'.spacecraftInstanceId → k = k'
  newestActive : ∀ k s k' s', m.getSession k = some s → s.state = .active →
    m.getSession k' = some s' → s'.spacecraftInstanceId = s.spacecraftInstanceId → k' ≠ k →
      s'.generation < s.generation
  accepts : ∀ sessionId boot i, (m.validatePacket sessionId boot i).1 = true ↔
    ∃ s, m.getSession sessionId = some s ∧ s.state = .active ∧ s.senderBootId = boot ∧
      s.spacecraftInstanceId = i
  agree : ∀ sessionId s boot, m.getSession sessionId = some s →
    (m.shouldDropPacket sessionId boot).1 =
      !(m.validatePacket sessionId boot s.spacecraftInstanceId).1

/-- A packet is accepted on the triple of an active session. -/
theorem validatePacket_iff (linked : m.Linked) (sessionId boot i : ℕ) :
    (m.validatePacket sessionId boot i).1 = true ↔
      ∃ s, m.getSession sessionId = some s ∧ s.state = .active ∧ s.senderBootId = boot ∧
        s.spacecraftInstanceId = i := by
  unfold validatePacket
  cases stored : m.getSession sessionId with
  | none => simp
  | some s =>
      have only (P : Session → Prop) : (∃ t, some s = some t ∧ P t) ↔ P s := by simp
      rw [only]
      dsimp only
      split
      · rename_i inactive
        exact ⟨fun accepted => (by cases accepted), fun triple => absurd triple.1 inactive⟩
      split
      · rename_i otherBoot
        exact ⟨fun accepted => (by cases accepted), fun triple => absurd triple.2.1 otherBoot⟩
      split
      · rename_i otherInstance
        exact ⟨fun accepted => (by cases accepted), fun triple => absurd triple.2.2 otherInstance⟩
      rename_i active sameBoot sameInstance
      have listed := linked.activeIsListed sessionId s stored (not_not.mp active)
      rw [not_not.mp sameInstance] at listed
      rw [if_neg (not_not.mpr listed)]
      exact ⟨fun _ => ⟨not_not.mp active, not_not.mp sameBoot, not_not.mp sameInstance⟩,
        fun _ => rfl⟩

/-- A packet is delivered on the session and the boot of an active session. -/
theorem shouldDropPacket_iff (stored : m.getSession k = some s) (boot : ℕ) :
    (m.shouldDropPacket k boot).1 = false ↔ s.state = .active ∧ s.senderBootId = boot := by
  unfold shouldDropPacket
  rw [stored]
  dsimp only
  split
  · rename_i closed
    exact ⟨nofun, fun both => by rw [closed] at both; exact nomatch both.1⟩
  split
  · rename_i otherBoot
    exact ⟨nofun, fun both => absurd both.2 otherBoot⟩
  split
  · rename_i closing
    exact ⟨nofun, fun both => by rw [closing] at both; exact nomatch both.1⟩
  · rename_i notClosed sameBoot notClosing
    refine ⟨fun _ => ⟨?_, not_not.mp sameBoot⟩, fun _ => rfl⟩
    cases state : s.state with
    | active => rfl
    | closing => exact absurd state notClosing
    | closed => exact absurd state notClosed

/-- **The promises of a linked manager.** -/
theorem Linked.sessionsHold (linked : m.Linked) : m.SessionsHold where
  oneActive k s k' s' here here' active active' same := by
    have listed := linked.activeIsListed k s here active
    have listed' := linked.activeIsListed k' s' here' active'
    rw [same, listed'] at listed
    exact (Option.some.inj listed).symm
  newestActive k s k' s' here active here' same differs := by
    obtain ⟨t, stored, -, generation⟩ :=
      linked.listed _ k (linked.activeIsListed k s here active)
    obtain rfl : t = s := Option.some.inj (stored.symm.trans here)
    have below := linked.belowFloor k' s' here'
    rw [same, ← generation] at below
    exact Nat.lt_of_le_of_ne below fun equal =>
      differs (linked.generations k' s' k t here' here same equal)
  accepts := validatePacket_iff linked
  agree sessionId s boot here := by
    have accepted := validatePacket_iff linked sessionId boot s.spacecraftInstanceId
    have delivered := shouldDropPacket_iff here boot
    have same : (m.shouldDropPacket sessionId boot).1 = false ↔
        (m.validatePacket sessionId boot s.spacecraftInstanceId).1 = true := by
      rw [delivered, accepted]
      constructor
      · rintro ⟨active, ofBoot⟩
        exact ⟨s, here, active, ofBoot, rfl⟩
      · rintro ⟨t, stored, active, ofBoot, -⟩
        obtain rfl : s = t := Option.some.inj (here.symm.trans stored)
        exact ⟨active, ofBoot⟩
    cases drop : (m.shouldDropPacket sessionId boot).1 with
    | false => rw [same.mp drop]; rfl
    | true =>
        cases valid : (m.validatePacket sessionId boot s.spacecraftInstanceId).1 with
        | false => rfl
        | true => rw [same.mpr valid] at drop; cases drop

end SessionManager

/-! ## Runs -/

open SessionManager

variable {m : SessionManager} {op : SessionOp}

/-- Every operation keeps the sessions linked. -/
theorem sessionMachine_linked (linked : m.Linked) (op : SessionOp) :
    (sessionMachine.step m op).1.Linked := by
  cases op with
  | create i boot time => exact createSession_linked linked i boot time
  | close sessionId time => exact closeSession_linked linked sessionId time
  | validate sessionId boot i => exact linked
  | restart => exact restart_linked linked

/-- A later session: another id, and a higher generation of its spacecraft. -/
def LaterSession (s t : Session) : Prop :=
  s.sessionId < t.sessionId ∧
    (s.spacecraftInstanceId = t.spacecraftInstanceId → s.generation < t.generation)

/-- The sessions a run created, also in processes that are gone. -/
def sessionsOf (log : List (SessionOp × Raises SessionResult)) : List Session :=
  log.filterMap fun entry => createdSession entry.2

/-- An operation that raises leaves the sessions as they were. -/
def SessionsKept (m : SessionManager) (op : SessionOp) : Prop :=
  ∀ failure, (sessionMachine.step m op).2 = .error failure →
    (sessionMachine.step m op).1.sessionHistory = m.sessionHistory ∧
      (sessionMachine.step m op).1.activeSessions = m.activeSessions

/-- A creation that an exhausted allocator refuses has no session to close, or one it
closes again at the same instant. -/
def NothingToReplace (m : SessionManager) : SessionOp → Prop
  | .create i _ time => m.Exhausted i → ∀ old, m.getActiveSession i = some old →
      old.state = .closing ∧ old.closedAtNs = some time
  | _ => True

/-- What is claimed of a run. -/
structure SessionClaims (start : SessionManager) (inputs : List SessionOp) : Prop where
  everyState : ∀ before, before <+: inputs → (sessionMachine.exec start before).SessionsHold
  identities : (sessionsOf (sessionMachine.log start inputs)).Pairwise LaterSession
  raises : sessionMachine.AllSteps SessionsKept start inputs

/-- The allocators are past every session created so far. -/
structure Recorded (m : SessionManager) (log : List (SessionOp × Raises SessionResult)) :
    Prop where
  linked : m.Linked
  past : ∀ s ∈ sessionsOf log, s.sessionId < m.nextSessionId ∧
    s.generation ≤ m.floor s.spacecraftInstanceId
  ordered : (sessionsOf log).Pairwise LaterSession

/-- The allocators of a step, and the session it created. -/
theorem sessionMachine_allocators (linked : m.Linked) (op : SessionOp) :
    m.nextSessionId ≤ (sessionMachine.step m op).1.nextSessionId ∧
      (∀ i, m.floor i ≤ (sessionMachine.step m op).1.floor i) ∧
      ∀ s, createdSession (sessionMachine.step m op).2 = some s → s.sessionId = m.nextSessionId ∧
        s.sessionId < (sessionMachine.step m op).1.nextSessionId ∧
        m.floor s.spacecraftInstanceId < s.generation ∧
        s.generation ≤ (sessionMachine.step m op).1.floor s.spacecraftInstanceId := by
  cases op with
  | create i boot time =>
      obtain ⟨-, -, floors⟩ := closeReplaced_linked linked i time
      show m.nextSessionId ≤ (m.createSession i boot time).2.nextSessionId ∧
        (∀ j, m.floor j ≤ (m.createSession i boot time).2.floor j) ∧
        ∀ s, createdSession ((m.createSession i boot time).1.map fun id =>
          .created ((m.createSession i boot time).2.getSession id)) = some s → _
      rcases createSession_cases linked i boot time with
        ⟨-, failure, next, refused, least, -⟩ | ⟨-, stored⟩
      · rw [refused]
        refine ⟨least, fun j => ?_, fun s created => by cases created⟩
        show m.floor j ≤ (m.closeReplaced i time).floor j
        exact Nat.le_of_eq (by rw [floor, floor, floors])
      · have floorAfter (j : ℕ) : floor (m.createSession i boot time).2 j =
            if j = i then m.floor i + 1 else m.floor j := by
          rw [stored]
          show (Table.find? (m.generationFloors.set i (m.floor i + 1)) j).getD 0 = _
          rw [Table.find?_set]
          split
          · rfl
          · rfl
        refine ⟨by rw [stored]; exact Nat.le_succ _, fun j => ?_, fun s created => ?_⟩
        · rw [floorAfter]
          split
          · rename_i ofI
            exact ofI ▸ Nat.le_succ _
          · exact Nat.le_refl _
        · have new : createdSession ((m.createSession i boot time).1.map fun id =>
              .created ((m.createSession i boot time).2.getSession id)) =
                some ⟨m.nextSessionId, i, boot, .active, m.floor i + 1, time, none⟩ := by
            rw [stored]
            exact Table.find?_set_self _ _ _
          obtain rfl := Option.some.inj (new.symm.trans created)
          show m.nextSessionId = m.nextSessionId ∧
            m.nextSessionId < (m.createSession i boot time).2.nextSessionId ∧
            m.floor i < m.floor i + 1 ∧ m.floor i + 1 ≤ (m.createSession i boot time).2.floor i
          refine ⟨rfl, by rw [stored]; exact Nat.lt_succ_self _, Nat.lt_succ_self _, ?_⟩
          exact Nat.le_of_eq ((floorAfter i).trans (if_pos rfl)).symm
  | close sessionId time =>
      have kept : (m.closeSession sessionId time).2.nextSessionId = m.nextSessionId ∧
          (m.closeSession sessionId time).2.generationFloors = m.generationFloors := by
        unfold closeSession
        split
        · exact ⟨rfl, rfl⟩
        split
        · exact ⟨rfl, rfl⟩
        · exact ⟨rfl, rfl⟩
      refine ⟨Nat.le_of_eq kept.1.symm, fun j => ?_, fun s created => by cases created⟩
      show m.floor j ≤ (m.closeSession sessionId time).2.floor j
      exact Nat.le_of_eq (by rw [floor, floor, kept.2])
  | validate sessionId boot i =>
      exact ⟨Nat.le_refl _, fun _ => Nat.le_refl _, fun s created => by cases created⟩
  | restart =>
      show m.nextSessionId ≤ m.restart.1.nextSessionId ∧ (∀ j, m.floor j ≤ m.restart.1.floor j) ∧
        ∀ s, createdSession m.restart.2 = some s → _
      rcases restart_cases m with ⟨restarted, done, -, next, floors⟩ | ⟨failure, refused⟩
      · rw [done]
        refine ⟨Nat.le_of_eq next.symm, fun j => ?_, fun s created => by cases created⟩
        exact Nat.le_of_eq (by rw [floor, floor, floors])
      · rw [refused]
        exact ⟨Nat.le_refl _, fun _ => Nat.le_refl _, fun s created => by cases created⟩

/-- A step records what it creates. -/
theorem Recorded.step {log : List (SessionOp × Raises SessionResult)} (recorded : Recorded m log)
    (op : SessionOp) : Recorded (sessionMachine.step m op).1
      (log ++ [(op, (sessionMachine.step m op).2)]) := by
  obtain ⟨next, floors, new⟩ := sessionMachine_allocators recorded.linked op
  have sessions : sessionsOf (log ++ [(op, (sessionMachine.step m op).2)]) =
      sessionsOf log ++ (createdSession (sessionMachine.step m op).2).toList := by
    rw [sessionsOf, List.filterMap_append]
    cases created : createdSession (sessionMachine.step m op).2 with
    | none => simp [sessionsOf, created]
    | some s => simp [sessionsOf, created]
  have earlier (s : Session) (mem : s ∈ sessionsOf log) :
      s.sessionId < (sessionMachine.step m op).1.nextSessionId ∧
        s.generation ≤ (sessionMachine.step m op).1.floor s.spacecraftInstanceId :=
    ⟨Nat.lt_of_lt_of_le (recorded.past s mem).1 next,
      Nat.le_trans (recorded.past s mem).2 (floors _)⟩
  refine ⟨sessionMachine_linked recorded.linked op, fun s mem => ?_, ?_⟩
  · rw [sessions, List.mem_append, Option.mem_toList] at mem
    rcases mem with mem | created
    · exact earlier s mem
    · obtain ⟨-, below, -, reached⟩ := new s created
      exact ⟨below, reached⟩
  · rw [sessions, List.pairwise_append]
    refine ⟨recorded.ordered, ?_, fun s mem t created => ?_⟩
    · cases createdSession (sessionMachine.step m op).2 with
      | none => exact List.Pairwise.nil
      | some s => exact List.pairwise_singleton _ _
    · rw [Option.mem_toList] at created
      obtain ⟨ofNext, -, above, -⟩ := new t created
      obtain ⟨below, most⟩ := recorded.past s mem
      refine ⟨ofNext ▸ below, fun same => ?_⟩
      exact Nat.lt_of_le_of_lt most (same ▸ above)

/-- The first lines of `create_session` change nothing exactly when there is nothing to
replace, or only what they wrote before. -/
theorem closeReplaced_eq_iff (linked : m.Linked) (i time : ℕ) :
    (m.closeReplaced i time).sessionHistory = m.sessionHistory ↔
      ∀ old, m.getActiveSession i = some old →
        old.state = .closing ∧ old.closedAtNs = some time := by
  unfold closeReplaced
  cases active : m.getActiveSession i with
  | none => exact ⟨fun _ => nofun, fun _ => rfl⟩
  | some old =>
      obtain ⟨k, -, stored, ofK, -⟩ := getActiveSession_eq_some linked active
      dsimp only
      constructor
      · rintro same t found
        cases found
        have written : (m.sessionHistory.set old.sessionId
            { old with state := .closing, closedAtNs := some time }).find? k =
              some { old with state := .closing, closedAtNs := some time } := by
          rw [ofK]
          exact Table.find?_set_self _ _ _
        rw [same, ← getSession, stored] at written
        have fields := Option.some.inj written
        exact ⟨congrArg Session.state fields, congrArg Session.closedAtNs fields⟩
      · intro only
        obtain ⟨closing, closedAt⟩ := only old rfl
        have same : ({ old with state := .closing, closedAtNs := some time } : Session) = old := by
          cases old
          simp only at closing closedAt
          rw [closing, closedAt]
        rw [same, ofK]
        exact Table.set_of_stored stored

/-- A step that raises leaves the sessions as they were exactly when it had nothing to
replace. -/
theorem sessionsKept_iff (linked : m.Linked) (op : SessionOp) :
    SessionsKept m op ↔ NothingToReplace m op := by
  cases op with
  | create i boot time =>
      have listed : (m.closeReplaced i time).activeSessions = m.activeSessions := by
        unfold closeReplaced
        split
        · rfl
        · rfl
      rcases createSession_cases linked i boot time with
        ⟨exhausted, failure, next, refused, -⟩ | ⟨room, stored⟩
      · have step : sessionMachine.step m (.create i boot time) =
            ({ m.closeReplaced i time with nextSessionId := next }, .error failure) := by
          show ((m.createSession i boot time).2, (m.createSession i boot time).1.map _) = _
          rw [refused]
          rfl
        unfold SessionsKept
        rw [step]
        constructor
        · intro kept _
          exact (closeReplaced_eq_iff linked i time).mp (kept failure rfl).1
        · intro nothing _ _
          exact ⟨(closeReplaced_eq_iff linked i time).mpr (nothing exhausted), listed⟩
      · refine ⟨fun _ exhausted => absurd exhausted room, fun _ failure raised => ?_⟩
        have step : (sessionMachine.step m (.create i boot time)).2 =
            (m.createSession i boot time).1.map fun id =>
              .created ((m.createSession i boot time).2.getSession id) := rfl
        rw [step, stored] at raised
        cases raised
  | close sessionId time => exact ⟨fun _ => trivial, fun _ _ => nofun⟩
  | validate sessionId boot i => exact ⟨fun _ => trivial, fun _ _ => nofun⟩
  | restart =>
      refine ⟨fun _ => trivial, fun _ failure raised => ?_⟩
      change m.restart.2 = .error failure at raised
      show m.restart.1.sessionHistory = m.sessionHistory ∧
        m.restart.1.activeSessions = m.activeSessions
      rcases restart_cases m with ⟨restarted, done, -⟩ | ⟨failure', refused⟩
      · rw [done] at raised
        cases raised
      · rw [refused]
        exact ⟨rfl, rfl⟩

/-- **The sessions of a run.**  Over all operations and restarts: ids are never reused,
generations rise, at most one session of a spacecraft is active, it is the newest, and
packets are accepted on it alone.  A creation that raises leaves the sessions as they were
exactly when it had none to replace. -/
theorem sessionClaims_iff {nextSessionId : ℕ} {generationFloors : Table ℕ ℕ}
    {start : SessionManager} (built : SessionManager.new nextSessionId generationFloors = .ok start)
    (inputs : List SessionOp) : SessionClaims start inputs ↔
      sessionMachine.AllSteps NothingToReplace start inputs := by
  have linked := (linked_of_new built).1
  have agree := sessionMachine.allSteps_iff_of_invariant Linked
    (fun m op linked => sessionsKept_iff linked op)
    (fun m op linked _ => sessionMachine_linked linked op) linked inputs
  refine ⟨fun claims => agree.mp claims.raises, fun nothing => ⟨fun before _ => ?_, ?_,
    agree.mpr nothing⟩⟩
  · exact (sessionMachine.exec_invariant Linked linked
      (fun _ op linked => sessionMachine_linked linked op) before).sessionsHold
  · exact (sessionMachine.run_invariant Recorded
      ⟨linked, by simp [sessionsOf], List.Pairwise.nil⟩
      (fun _ _ op recorded => recorded.step op) inputs).ordered

/-! ## The last session id -/

/-- A manager whose checkpoint has one id left. -/
def lastIdManager : SessionManager := ⟨.empty, .empty, 0xFFFFFFFFFFFFFFFE, .empty⟩

theorem new_lastId : SessionManager.new 0xFFFFFFFFFFFFFFFE .empty = .ok lastIdManager := by
  rw [SessionManager.new, if_neg (by decide), if_neg (by decide)]
  rfl

/-- The theorem applies to a run that ends its session before the ids run out. -/
theorem sessionClaims_iff_lastId : SessionClaims lastIdManager
    [.create 7 1 0, .close 0xFFFFFFFFFFFFFFFE 5, .create 7 2 10] := by
  refine (sessionClaims_iff new_lastId _).mpr ⟨?_, trivial, ?_, trivial⟩
  · intro _ old active
    cases active
  · intro _ old active
    cases active

/-- A second boot finds no id left: its creation raises, and the session of the first boot
is closing. -/
theorem not_sessionClaims_of_exhausted :
    ¬ ∀ (nextSessionId : ℕ) (generationFloors : Table ℕ ℕ) (start : SessionManager),
      SessionManager.new nextSessionId generationFloors = .ok start →
        ∀ inputs, SessionClaims start inputs := by
  intro always
  have claims := always _ _ lastIdManager new_lastId [.create 7 1 0, .create 7 2 10]
  have kept := claims.raises.2.1 ⟨.runtimeError, "link session ID allocator exhausted"⟩ rfl
  exact absurd kept.1 (by decide)

end CubeNano

import CubeNano.Link.LinkSimulator

/-!
# Sessions and the file-epoch fence

`create_session` and `reset_session` give a spacecraft a new session and open its
sender boot at the file-epoch manager.  The epoch manager is keyed by the boot
alone and does nothing when that boot is open already, so an attempt of an
earlier session outlives a reset on an unchanged boot.

## Main definitions

* `LinkSimulator.FreshFence` — no attempt is current and a START is admitted
-/

namespace CubeNano

namespace LinkSimulator

/-- The fence is open for a new session: no attempt is current, so none refuses a
packet, and every START on the session is admitted. -/
structure FreshFence (s : LinkSimulator) (spacecraftInstanceId sessionId : ℕ) : Prop where
  noAttempt : s.fileEpochManager.currentAttempt = none
  startAdmitted : ∃ session, s.sessionManager.getSession sessionId = some session ∧
    s.sessionManager.getActiveSession spacecraftInstanceId = some session ∧
    ∀ linkFrameId info, info.packetType = .start →
      (s.fileEpochManager.admitPacket (some session) linkFrameId info).1.error = none

/-! ## What the parts leave -/

theorem checkpointChanged_ok {s t : LinkSimulator} {u : Unit}
    (h : checkpointChanged s = .ok u t) : t = s := by
  obtain ⟨a, s', get, h⟩ := Effect.bind_eq_ok_iff.mp h
  cases get
  exact (liftRaises_eq_ok_iff.mp h).2

theorem announceSession_ok {first : LinkControlType} {i sessionId : ℕ} {s t : LinkSimulator}
    {u : Unit} (h : announceSession first i sessionId s = .ok u t) :
    t.sessionManager = s.sessionManager ∧ t.fileEpochManager = s.fileEpochManager := by
  cases h
  exact ⟨rfl, rfl⟩

/-- The session manager's part of a session change. -/
theorem allocateSession_ok {i boot sessionId : ℕ} {s t : LinkSimulator}
    (h : allocateSession i boot s = .ok sessionId t) :
    s.sessionManager.createSession i boot s.clock.now = (.ok sessionId, t.sessionManager) ∧
      t.fileEpochManager = s.fileEpochManager := by
  obtain ⟨a, s', get, h⟩ := Effect.bind_eq_ok_iff.mp h
  cases get
  obtain ⟨a, s', set, h⟩ := Effect.bind_eq_ok_iff.mp h
  cases set
  obtain ⟨created, rfl⟩ := liftRaises_eq_ok_iff.mp h
  exact ⟨Prod.ext created rfl, rfl⟩

/-- **What `create_session` leaves.** -/
theorem createSession_ok {i boot sessionId : ℕ} {s t : LinkSimulator}
    (h : createSession i boot s = .ok sessionId t) :
    (∃ m, SessionManager.createSession m i boot s.clock.now = (.ok sessionId, t.sessionManager)) ∧
      t.fileEpochManager = s.fileEpochManager.openSession boot := by
  obtain ⟨allocated, s1, allocation, h1⟩ := Effect.bind_eq_ok_iff.mp h
  obtain ⟨_, s2, checkpoint, h2⟩ := Effect.bind_eq_ok_iff.mp h1
  obtain ⟨_, s3, opened, h3⟩ := Effect.bind_eq_ok_iff.mp h2
  obtain ⟨_, s4, announced, h4⟩ := Effect.bind_eq_ok_iff.mp h3
  cases h4
  cases opened
  rw [checkpointChanged_ok checkpoint] at announced
  obtain ⟨sessions, epochs⟩ := announceSession_ok announced
  obtain ⟨created, unchanged⟩ := allocateSession_ok allocation
  refine ⟨⟨_, sessions ▸ created⟩, ?_⟩
  rw [epochs, ← unchanged]

/-- **What `reset_session` leaves.** -/
theorem resetSession_ok {i boot sessionId : ℕ} {s t : LinkSimulator}
    (h : resetSession i boot s = .ok sessionId t) :
    (∃ m, SessionManager.createSession m i boot s.clock.now = (.ok sessionId, t.sessionManager)) ∧
      t.fileEpochManager = s.fileEpochManager.openSession boot := by
  obtain ⟨_, s1, closed, h1⟩ := Effect.bind_eq_ok_iff.mp h
  obtain ⟨_, s2, opened, h2⟩ := Effect.bind_eq_ok_iff.mp h1
  obtain ⟨allocated, s3, allocation, h3⟩ := Effect.bind_eq_ok_iff.mp h2
  obtain ⟨_, s4, checkpoint, h4⟩ := Effect.bind_eq_ok_iff.mp h3
  obtain ⟨_, s5, announced, h5⟩ := Effect.bind_eq_ok_iff.mp h4
  cases h5
  rw [checkpointChanged_ok checkpoint] at announced
  obtain ⟨sessions, epochs⟩ := announceSession_ok announced
  obtain ⟨created, unchanged⟩ := allocateSession_ok allocation
  have before : s2.clock = s.clock ∧
      s2.fileEpochManager = s.fileEpochManager.openSession boot := by
    cases closed
    cases opened
    dsimp only
    split <;> exact ⟨rfl, rfl⟩
  refine ⟨⟨s2.sessionManager, ?_⟩, ?_⟩
  · rw [sessions, ← before.1]
    exact created
  · rw [epochs, unchanged, before.2]

/-! ## The fence after a session change -/

/-- A START on an active boot without a current attempt passes the fence. -/
theorem admitPacket_start {m : FileEpochManager} {session : Session}
    (idle : m.currentAttempt = none) (active : m.activeSenderBootId = some session.senderBootId)
    (linkFrameId : ℕ) {info : FilePacket} (start : info.packetType = .start) :
    (m.admitPacket (some session) linkFrameId info).1.error = none := by
  have admitted := FileEpochManager.admitStart_of_idle idle active session.sessionId
    session.spacecraftInstanceId linkFrameId
  unfold FileEpochManager.admitPacket
  simp only [start, if_true]
  split
  · rename_i refused
    rw [refused] at admitted
    cases admitted
  · rfl

/-- **When a session change opens the fence.**  After `create_session` or
`reset_session` succeeded on any simulator state, no attempt is current and a
START on the new session is admitted, exactly when before the call another boot
was open or no attempt was current. -/
theorem freshFence_iff {s t : LinkSimulator} {i boot sessionId : ℕ}
    (changed : createSession i boot s = .ok sessionId t ∨ resetSession i boot s = .ok sessionId t) :
    FreshFence t i sessionId ↔
      s.fileEpochManager.activeSenderBootId ≠ some boot ∨
        s.fileEpochManager.currentAttempt = none := by
  have left : (∃ m, SessionManager.createSession m i boot s.clock.now =
      (.ok sessionId, t.sessionManager)) ∧
      t.fileEpochManager = s.fileEpochManager.openSession boot :=
    changed.elim createSession_ok resetSession_ok
  obtain ⟨⟨m, created⟩, epochs⟩ := left
  rw [← FileEpochManager.openSession_currentAttempt, ← epochs]
  refine ⟨fun fresh => fresh.noAttempt, fun idle => ⟨idle, ?_⟩⟩
  obtain ⟨session, stored, -, -, sameBoot, -, active⟩ :=
    SessionManager.getSession_of_createSession created
  refine ⟨session, stored, active, fun linkFrameId info start => ?_⟩
  refine admitPacket_start idle ?_ linkFrameId start
  rw [epochs, FileEpochManager.openSession_activeSenderBootId, sameBoot]

/-! ## A reset on an unchanged boot -/

/-- The TM frame of a file packet, as the flight side encodes it. -/
def encodedFileFrame (packet : FilePacket) : Bytes :=
  match (do encodeTmFrame (← encodeSpacePacket 3 (encodeFilePacket packet) 0) 7 1 0 0) with
  | .ok frame => frame
  | .error _ => []

/-- A file packet on its way into the simulator. -/
def fileFrame (sessionId senderFrameId : ℕ) (packet : FilePacket) : TransportFrame where
  envelope := ⟨SidebandEnvelope.magicValue, 1, .ingress, 0, 1, 0, sessionId, senderFrameId, 0, 0,
    (encodedFileFrame packet).length, 0⟩
  frameBytes := encodedFileFrame packet
  length_eq := rfl

/-- A START packet without metadata. -/
def startPacket : FilePacket := (FilePacket.new .start 0 0 []).toOption.get (by decide)

/-- A link without faults. -/
def faultless : LinkSimulator := .initial {} {} (.ofSeed 1 1 0) .empty none none

/-- The link after a session of boot 7 and its START. -/
def transferring : LinkSimulator :=
  linkMachine.exec faultless [.createSession 1 7, .admitFrame (fileFrame 1 1 startPacket) .egress {}]

/-- A check of the value and the state a program returned. -/
def returned {α : Type} (check : α → LinkSimulator → Bool)
    (result : EStateM.Result PyException LinkSimulator α) : Bool :=
  match result with
  | .ok value t => check value t
  | .error _ _ => false

theorem of_returned {α : Type} {check : α → LinkSimulator → Bool}
    {result : EStateM.Result PyException LinkSimulator α} (h : returned check result = true) :
    ∃ value t, result = .ok value t ∧ check value t = true := by
  cases result with
  | ok value t => exact ⟨value, t, rfl, h⟩
  | error failure t => cases h

/-- **A reset on an unchanged boot keeps the attempt.** -/
theorem not_freshFence_of_same_boot :
    ∃ t, resetSession 1 7 transferring = .ok 2 t ∧ ¬ FreshFence t 1 2 := by
  have kept : returned (fun sessionId t => sessionId = 2 ∧ t.fileEpochManager.currentAttempt.isSome)
      (resetSession 1 7 transferring) = true := by
    decide +kernel
  obtain ⟨sessionId, t, result, check⟩ := of_returned kept
  obtain ⟨rfl, attempt⟩ := of_decide_eq_true check
  refine ⟨t, result, fun fresh => ?_⟩
  rw [fresh.noAttempt] at attempt
  cases attempt

/-- A reset to another boot opens the fence. -/
theorem freshFence_of_other_boot :
    ∃ t, resetSession 1 8 transferring = .ok 2 t ∧ FreshFence t 1 2 := by
  have moved : returned (fun sessionId _ => sessionId = 2) (resetSession 1 8 transferring) =
      true := by
    decide +kernel
  obtain ⟨sessionId, t, result, check⟩ := of_returned moved
  obtain rfl : sessionId = 2 := of_decide_eq_true check
  exact ⟨t, result, (freshFence_iff (.inr result)).mpr (.inl (by decide +kernel))⟩

end LinkSimulator

end CubeNano

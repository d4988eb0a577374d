import CubeNano.Lib.Table
import CubeNano.Protocol.Exceptions

/-!
# Link sessions and file epochs

`link_sim/session_manager.py` and `link_sim/file_epoch.py`.  A session is keyed
by its id and a file attempt is fenced by a sender boot; the two managers do not
share a key, which is what their joint properties turn on.

Python's active-session dictionary and history share `Session` objects.  Here the
history holds the sessions and the active table holds their ids.

## Main definitions

* `SessionManager.createSession`, `SessionManager.closeSession`
* `FileEpochManager.openSession`, `FileEpochManager.closeSession`
* `FileEpochManager.admitStart`, `.admitData`, `.admitEnd`
* `FileEpochManager.completeAttempt`, `.abortAttempt`
-/

namespace CubeNano

/-- `SessionState`. -/
inductive SessionState
  | active
  | closing
  | closed
  deriving DecidableEq, Repr

/-- `Session`. -/
structure Session where
  sessionId : ℕ
  spacecraftInstanceId : ℕ
  senderBootId : ℕ
  state : SessionState
  generation : ℕ
  createdAtNs : ℕ
  closedAtNs : Option ℕ := none
  deriving DecidableEq

/-- `SessionManager`. -/
structure SessionManager where
  /-- `_active_sessions`, as session ids. -/
  activeSessions : Table ℕ ℕ
  sessionHistory : Table ℕ Session
  nextSessionId : ℕ
  generationFloors : Table ℕ ℕ

namespace SessionManager

/-- A manager without a checkpoint. -/
def initial : SessionManager := ⟨.empty, .empty, 1, .empty⟩

/-- `get_session`. -/
def getSession (m : SessionManager) (sessionId : ℕ) : Option Session :=
  m.sessionHistory.find? sessionId

/-- `get_active_session`. -/
def getActiveSession (m : SessionManager) (instance' : ℕ) : Option Session :=
  (m.activeSessions.find? instance').bind m.getSession

/-- The generation that follows every retained one of an instance. -/
def nextGeneration (m : SessionManager) (instance' : ℕ) : ℕ :=
  ((m.sessionHistory.rows.filter fun row => row.2.spacecraftInstanceId = instance').map
    fun row => row.2.generation).foldl max ((m.generationFloors.find? instance').getD 0) + 1

/-- The replaced session of an instance is `CLOSING` from the first line on,
whether or not a new one can be allocated. -/
def closeReplaced (m : SessionManager) (instance' currentTimeNs : ℕ) : SessionManager :=
  match m.getActiveSession instance' with
  | none => m
  | some old =>
      { m with
        sessionHistory := m.sessionHistory.set old.sessionId
          { old with state := .closing, closedAtNs := some currentTimeNs } }

/-- `create_session`: the new session id or the failure, and the manager left. -/
def createSession (m : SessionManager) (instance' senderBootId currentTimeNs : ℕ) :
    Raises ℕ × SessionManager :=
  let m := m.closeReplaced instance' currentTimeNs
  let sessionId := m.nextSessionId
  if sessionId ≥ 0xFFFFFFFFFFFFFFFF then
    (runtimeError "link session ID allocator exhausted", m)
  else
    let m := { m with nextSessionId := sessionId + 1 }
    let generation := m.nextGeneration instance'
    if generation > 0xFFFFFFFFFFFFFFFF then
      (runtimeError "link generation allocator exhausted", m)
    else
      let session : Session :=
        ⟨sessionId, instance', senderBootId, .active, generation, currentTimeNs, none⟩
      (.ok sessionId,
        { m with
          activeSessions := m.activeSessions.set instance' sessionId
          sessionHistory := m.sessionHistory.set sessionId session
          generationFloors := m.generationFloors.set instance' generation })

/-- `close_session`. -/
def closeSession (m : SessionManager) (sessionId currentTimeNs : ℕ) :
    Option Session × SessionManager :=
  match m.getSession sessionId with
  | none => (none, m)
  | some session =>
      if session.state = .closed then (some session, m)
      else
        let closed := { session with state := .closed, closedAtNs := some currentTimeNs }
        let activeSessions :=
          if m.activeSessions.find? session.spacecraftInstanceId = some sessionId then
            m.activeSessions.erase session.spacecraftInstanceId
          else m.activeSessions
        (some closed,
          { m with
            activeSessions := activeSessions
            sessionHistory := m.sessionHistory.set sessionId closed })

/-- A session that was created is the active one of its instance. -/
theorem getSession_of_createSession {m m' : SessionManager} {instance' boot time sessionId : ℕ}
    (h : m.createSession instance' boot time = (.ok sessionId, m')) :
    ∃ session, m'.getSession sessionId = some session ∧ session.sessionId = sessionId ∧
      session.spacecraftInstanceId = instance' ∧ session.senderBootId = boot ∧
      session.state = .active ∧ m'.getActiveSession instance' = some session := by
  unfold createSession at h
  simp only at h
  split at h
  · cases h
  split at h
  · cases h
  · cases h
    refine ⟨_, Table.find?_set_self _ _ _, rfl, rfl, rfl, rfl, ?_⟩
    simp [getActiveSession, getSession]

end SessionManager

/-! ## File epochs -/

/-- `EpochState`. -/
inductive EpochState
  | idle
  | started
  | draining
  | aborting
  | closed
  deriving DecidableEq, Repr

/-- `state.value`. -/
def EpochState.value : EpochState → String
  | idle => "IDLE"
  | started => "STARTED"
  | draining => "DRAINING"
  | aborting => "ABORTING"
  | closed => "CLOSED"

/-- `FileTransferAttempt`. -/
structure FileTransferAttempt where
  attemptId : ℕ
  epochId : ℕ
  sessionId : ℕ
  spacecraftInstanceId : ℕ
  senderBootId : ℕ
  state : EpochState
  startLinkFrameId : ℕ
  dataPacketsSent : ℕ := 0
  endLinkFrameId : Option ℕ := none
  abortLinkFrameId : Option ℕ := none
  deriving DecidableEq

/-- An entry of the reorder buffer. -/
structure DataEntry where
  linkFrameId : ℕ
  offset : ℕ
  length : ℕ
  deriving DecidableEq

/-- `FileEpochManager`. -/
structure FileEpochManager where
  nextAttemptId : ℕ
  currentAttempt : Option FileTransferAttempt
  activeSenderBootId : Option ℕ
  dataBuffer : List DataEntry
  deriving DecidableEq

namespace FileEpochManager

/-- `FileEpochManager()`. -/
def initial : FileEpochManager := ⟨1, none, none, []⟩

/-- `open_session`: nothing happens when the boot is open already. -/
def openSession (m : FileEpochManager) (senderBootId : ℕ) : FileEpochManager :=
  if m.activeSenderBootId = some senderBootId then m
  else
    { m with currentAttempt := none, activeSenderBootId := some senderBootId, dataBuffer := [] }

/-- `close_session`. -/
def closeSession (m : FileEpochManager) (senderBootId : ℕ) : FileEpochManager :=
  if m.activeSenderBootId ≠ some senderBootId then m
  else { m with currentAttempt := none, activeSenderBootId := none, dataBuffer := [] }

/-- The drain fence: a current attempt that is not closed. -/
def transferBusy (m : FileEpochManager) : Bool :=
  match m.currentAttempt with
  | none => false
  | some attempt =>
      attempt.state = .started ∨ attempt.state = .draining ∨ attempt.state = .aborting

/-- `admit_start`. -/
def admitStart (m : FileEpochManager) (sessionId instance' senderBootId linkFrameId : ℕ) :
    Option ℕ × FileEpochManager :=
  match m.activeSenderBootId with
  | none => (none, m)
  | some activeBoot =>
      if senderBootId ≠ activeBoot then (none, m)
      else if m.transferBusy then (none, m)
      else
        let attempt : FileTransferAttempt :=
          { attemptId := m.nextAttemptId, epochId := m.nextAttemptId, sessionId := sessionId,
            spacecraftInstanceId := instance', senderBootId := senderBootId, state := .started,
            startLinkFrameId := linkFrameId }
        (some m.nextAttemptId,
          { m with nextAttemptId := m.nextAttemptId + 1, currentAttempt := some attempt })

/-- The checks `admit_data` and `admit_end` share: the attempt that may take the
packet, or the reason. -/
def startedAttempt (m : FileEpochManager) (senderBootId : ℕ) :
    FileTransferAttempt ⊕ String :=
  if m.activeSenderBootId ≠ some senderBootId then .inr "STALE_SENDER_BOOT"
  else
    match m.currentAttempt with
    | none => .inr "NO_ACTIVE_TRANSFER"
    | some attempt =>
        if attempt.state ≠ .started then .inr s!"INVALID_STATE_{attempt.state.value}"
        else .inl attempt

/-- `admit_data`: the error reason, if any. -/
def admitData (m : FileEpochManager) (senderBootId linkFrameId dataOffset dataLength : ℕ) :
    Option String × FileEpochManager :=
  match m.startedAttempt senderBootId with
  | .inr reason => (some reason, m)
  | .inl attempt =>
      (none,
        { m with
          currentAttempt := some { attempt with dataPacketsSent := attempt.dataPacketsSent + 1 }
          dataBuffer := m.dataBuffer ++ [⟨linkFrameId, dataOffset, dataLength⟩] })

/-- `admit_end`: the error reason, if any. -/
def admitEnd (m : FileEpochManager) (senderBootId linkFrameId : ℕ) :
    Option String × FileEpochManager :=
  match m.startedAttempt senderBootId with
  | .inr reason => (some reason, m)
  | .inl attempt =>
      (none,
        { m with
          currentAttempt :=
            some { attempt with endLinkFrameId := some linkFrameId, state := .draining } })

/-- `complete_attempt`. -/
def completeAttempt (m : FileEpochManager) (attemptId : ℕ) : Bool × FileEpochManager :=
  match m.currentAttempt with
  | none => (false, m)
  | some attempt =>
      if attempt.attemptId ≠ attemptId then (false, m)
      else (true, { m with currentAttempt := none, dataBuffer := [] })

/-- `abort_attempt`. -/
def abortAttempt (m : FileEpochManager) (attemptId linkFrameId : ℕ) :
    Bool × FileEpochManager :=
  match m.currentAttempt with
  | none => (false, m)
  | some attempt =>
      if attempt.attemptId ≠ attemptId then (false, m)
      else
        (true,
          { m with
            currentAttempt :=
              some { attempt with state := .aborting, abortLinkFrameId := some linkFrameId } })

/-- Opening a boot leaves it the active one. -/
@[simp] theorem openSession_activeSenderBootId (m : FileEpochManager) (boot : ℕ) :
    (m.openSession boot).activeSenderBootId = some boot := by
  unfold openSession
  split
  · assumption
  · rfl

/-- **Opening a boot clears the current attempt unless the boot was open.** -/
theorem openSession_currentAttempt (m : FileEpochManager) (boot : ℕ) :
    (m.openSession boot).currentAttempt = none ↔
      m.activeSenderBootId ≠ some boot ∨ m.currentAttempt = none := by
  unfold openSession
  split
  · rename_i same
    simp [same]
  · rename_i other
    simp [other]

/-- Without a current attempt a START of the active boot is admitted. -/
theorem admitStart_of_idle {m : FileEpochManager} {boot : ℕ} (idle : m.currentAttempt = none)
    (active : m.activeSenderBootId = some boot) (sessionId instance' linkFrameId : ℕ) :
    (m.admitStart sessionId instance' boot linkFrameId).1 = some m.nextAttemptId := by
  simp [admitStart, active, transferBusy, idle]

end FileEpochManager

end CubeNano

import CubeNano.Link.Transmission

/-!
# Admissions that raise

`admit_frame` advances the file epoch before it reports the frame, draws its faults and
schedules its copies, and it moves the serializer with each draw.  So an admission that raises
leaves no trace exactly if it raises before that, or on a frame that moves no epoch before the
first draw returned.

## Main definitions

* `LinkSimulator.LeavesNoTrace` — an admission that raises changes nothing it should not
* `LinkSimulator.RaisesInTime` — the condition under which it does

## Main statements

* `leavesNoTrace_iff` — the condition is exact
* `not_leavesNoTrace_of_unfit_start` — a START whose corruption does not fit the frame
-/

namespace CubeNano

namespace LinkSimulator

/-- The file epochs, the serializers and the event queue are as they were. -/
structure SameFooting (s t : LinkSimulator) : Prop where
  epochs : t.fileEpochManager = s.fileEpochManager
  serializers : t.availableNs = s.availableNs
  queue : t.clock.eventQueue = s.clock.eventQueue

/-- **An admission that raises leaves no trace** in the epochs, the serializers and the queue. -/
def LeavesNoTrace (s : LinkSimulator) (frame : TransportFrame) (direction : Direction)
    (callbacks : LinkCallbacks) : Prop :=
  ∀ failure t, admitFrame frame direction callbacks s = .error failure t → SameFooting s t

/-- A copy is lost and `on_consumed` takes the report, or it can be scheduled. -/
def CopyLeaves (s : LinkSimulator) (a : AdmittedFrame) (copyIndex : ℕ) (decision : FaultDecision)
    (reason : String) : Prop :=
  decision.isLost = true ∧ consumedAnswer a.callbacks (lossMessage a copyIndex reason) = .ok () ∨
    CopyScheduled s a copyIndex decision

/-- Copy 0 leaves, and so does its duplicate, if there is to be one. -/
def CopiesLeave (s : LinkSimulator) (a : AdmittedFrame) (decision : FaultDecision) : Prop :=
  CopyLeaves s a 0 decision "FAULT_LOSS" ∧
    (decision.isLost = false → decision.hasDuplicate = true →
      ∃ duplicate, draw s a decision.releaseNs 1 false = .ok duplicate ∧
        CopyLeaves s a 1 duplicate "FAULT_DUPLICATE_COPY_LOSS")

/-- `on_accepted` returns and the faults of copy 0 can be drawn. -/
def Begins (s : LinkSimulator) (a : AdmittedFrame) : Prop :=
  acceptedAnswer a = .ok () ∧ ∃ decision, draw s a (s.availableNs a.direction) 0 true = .ok decision

/-- For a frame that passes the gates, the allocation and the fence: if it moves the file epoch,
`on_accepted` returns and its faults can be drawn, and once they are drawn its copies leave. -/
def RaisesInTime (s : LinkSimulator) (frame : TransportFrame) (direction : Direction)
    (callbacks : LinkCallbacks) : Prop :=
  ∀ session, s.ingressGate frame = some session → s.allocates = true →
    (s.epochAdmission direction session frame.frameBytes).1.error = none →
    ((s.epochAdmission direction session frame.frameBytes).2 ≠ s.fileEpochManager →
      Begins s (s.enteringFrame frame direction session callbacks)) ∧
    (acceptedAnswer (s.enteringFrame frame direction session callbacks) = .ok () →
      ∀ decision, draw s (s.enteringFrame frame direction session callbacks)
          (s.availableNs direction) 0 true = .ok decision →
        CopiesLeave s (s.enteringFrame frame direction session callbacks) decision)

/-! ## The transmission -/

section Transmission

variable {s : LinkSimulator} {a : AdmittedFrame} {decision : FaultDecision}

theorem ended_eq_error_iff {answer : Raises Unit} {failure : PyException} {t : LinkSimulator} :
    ended s answer = .error failure t ↔ answer = .error failure ∧ t = s := by
  cases answer with
  | ok u => exact ⟨fun same => (nomatch same), fun both => (nomatch both.1)⟩
  | error failure' =>
      constructor
      · intro same
        cases same
        exact ⟨rfl, rfl⟩
      · rintro ⟨same, rfl⟩
        cases same
        rfl

/-- The end of a copy raises exactly if the copy does not leave, and moves no serializer. -/
theorem CopyEnds.raises_iff {copyIndex : ℕ} {reason : String}
    {result : EStateM.Result PyException LinkSimulator Unit}
    (ends : CopyEnds s a copyIndex decision reason result) :
    (∀ failure t, result = .error failure t → t.availableNs = s.availableNs) ∧
      ((∃ failure t, result = .error failure t) ↔ ¬ CopyLeaves s a copyIndex decision reason) := by
  cases ends with
  | lost isLost =>
      refine ⟨fun failure t raised => ?_, ?_⟩
      · obtain ⟨-, rfl⟩ := ended_eq_error_iff.mp raised
        rfl
      · simp only [ended_eq_error_iff]
        constructor
        · rintro ⟨failure, t, raised, -⟩ (⟨-, returned⟩ | ⟨kept, -⟩)
          · rw [raised] at returned
            cases returned
          · exact absurd (kept.symm.trans isLost) (by decide)
        · intro stays
          cases answer : consumedAnswer a.callbacks (lossMessage a copyIndex reason) with
          | ok u => exact absurd (.inl ⟨isLost, answer⟩) stays
          | error failure => exact ⟨failure, _, rfl, rfl⟩
  | refused failure kept unscheduled =>
      refine ⟨fun _ t raised => by cases raised; rfl, fun _ => ?_, fun _ => ⟨failure, s, rfl⟩⟩
      rintro (⟨isLost, -⟩ | scheduled)
      · exact absurd (kept.symm.trans isLost) (by decide)
      · exact unscheduled scheduled
  | scheduled due d kept prepared future =>
      refine ⟨fun _ _ raised => (nomatch raised), fun ⟨_, _, raised⟩ => (nomatch raised),
        fun stays => absurd (.inr ⟨kept, due, d, prepared, future⟩) stays⟩

theorem Transmits.of_undrawn {result : EStateM.Result PyException LinkSimulator Unit}
    (transmits : Transmits s a result) {failure : PyException}
    (undrawn : draw s a (s.availableNs a.direction) 0 true = .error failure) :
    result = .error failure s := by
  cases transmits with
  | undrawn failure' drawn =>
      cases undrawn.symm.trans drawn
      rfl
  | alone _ _ drawn => cases undrawn.symm.trans drawn
  | undrawnDuplicate _ _ _ _ drawn => cases undrawn.symm.trans drawn
  | duplicated _ _ _ _ _ drawn => cases undrawn.symm.trans drawn

/-- Whether a copy leaves depends on the time of the clock only. -/
theorem copyLeaves_congr {t : LinkSimulator} (now : t.clock.now = s.clock.now) {copyIndex : ℕ}
    {reason : String} :
    CopyLeaves t a copyIndex decision reason ↔ CopyLeaves s a copyIndex decision reason := by
  unfold CopyLeaves CopyScheduled
  rw [now]

/-- A draw moves the serializer. -/
theorem release_ne_available {availableNs : ℤ} {copyIndex : ℕ} {includeDuplicate : Bool}
    (bits : 0 < a.frame.frameBytes.length)
    (drawn : draw s a availableNs copyIndex includeDuplicate = .ok decision) :
    availableNs < decision.releaseNs :=
  (FaultModel.available_lt_release (Nat.mul_pos bits (by decide)) drawn).1

theorem copiesLeave_iff_of_single (single : decision.isLost = true ∨ decision.hasDuplicate = false ∨
    ¬ CopyScheduled s a 0 decision) :
    CopiesLeave s a decision ↔ CopyLeaves s a 0 decision "FAULT_LOSS" := by
  refine ⟨And.left, fun leaves => ⟨leaves, fun kept duplicated => ?_⟩⟩
  rcases single with lost | none | unscheduled
  · exact absurd (kept.symm.trans lost) (by decide)
  · exact absurd (none.symm.trans duplicated) (by decide)
  · rcases leaves with ⟨lost, -⟩ | scheduled
    · exact absurd (kept.symm.trans lost) (by decide)
    · exact absurd scheduled unscheduled

/-- **The transmission of a frame whose first draw returned**: it raises exactly if a copy does
not leave, and then it has moved the serializer. -/
theorem Transmits.raises_iff {result : EStateM.Result PyException LinkSimulator Unit}
    (transmits : Transmits s a result) (bits : 0 < a.frame.frameBytes.length)
    (drawn : draw s a (s.availableNs a.direction) 0 true = .ok decision) :
    (∀ failure t, result = .error failure t →
        t.availableNs a.direction ≠ s.availableNs a.direction) ∧
      ((∃ failure t, result = .error failure t) ↔ ¬ CopiesLeave s a decision) := by
  have first := release_ne_available bits drawn
  cases transmits with
  | undrawn failure undrawn =>
      rw [undrawn] at drawn
      cases drawn
  | alone decision' _ drawn' single ends =>
      rw [drawn'] at drawn
      cases drawn
      obtain ⟨kept, raises⟩ := ends.raises_iff
      refine ⟨fun failure t raised => ?_, ?_⟩
      · rw [kept failure t raised, availableNs_setAvailableNs]
        exact first.ne'
      · rw [raises, copiesLeave_iff_of_single single,
          copyLeaves_congr (congrArg VirtualClock.now (s.clock_setAvailableNs _ _))]
  | undrawnDuplicate decision' due d failure drawn' kept duplicated prepared future undrawn =>
      rw [drawn'] at drawn
      cases drawn
      refine ⟨fun failure t raised => ?_, fun _ leaves => ?_, fun _ => ⟨_, _, rfl⟩⟩
      · cases raised
        have moved : (s.afterFirst a decision due d).availableNs a.direction = decision.releaseNs :=
          availableNs_setAvailableNs s a.direction decision.releaseNs
        rw [moved]
        exact first.ne'
      · obtain ⟨duplicate, drawnDuplicate, -⟩ := leaves.2 kept duplicated
        rw [undrawn] at drawnDuplicate
        cases drawnDuplicate
  | duplicated decision' due d duplicate _ drawn' kept duplicated prepared future second ends =>
      rw [drawn'] at drawn
      cases drawn
      obtain ⟨same, raises⟩ := ends.raises_iff
      refine ⟨fun failure t raised => ?_, ?_⟩
      · rw [same failure t raised, availableNs_setAvailableNs]
        exact (first.trans (release_ne_available bits second)).ne'
      · have now : ((s.afterFirst a decision due d).setAvailableNs a.direction
            duplicate.releaseNs).clock.now = s.clock.now := by
          simp [afterFirst, withCopy, VirtualClock.pushEvent]
        rw [raises, copyLeaves_congr now, not_iff_not]
        constructor
        · exact fun leaves => ⟨.inr ⟨kept, due, d, prepared, future⟩, fun _ _ =>
            ⟨duplicate, second, leaves⟩⟩
        · intro leaves
          obtain ⟨duplicate', second', leaves'⟩ := leaves.2 kept duplicated
          rw [second] at second'
          cases second'
          exact leaves'

end Transmission

/-! ## The admission -/

section Admission

variable {s : LinkSimulator} {frame : TransportFrame} {direction : Direction}
  {callbacks : LinkCallbacks} {session : Option Session}

/-- A frame that is behind the fence, but not yet drawn, has the footing of before exactly if the
file epoch has not moved. -/
theorem sameFooting_entered_iff (message : LinkControlMessage) :
    SameFooting s ((s.entered frame direction session).withControl message) ↔
      (s.epochAdmission direction session frame.frameBytes).2 = s.fileEpochManager :=
  ⟨SameFooting.epochs, fun same => ⟨same, rfl, rfl⟩⟩

/-- The condition for a frame that passed the fence. -/
theorem raisesInTime_iff_of_passed (gate : s.ingressGate frame = some session)
    (allocates : s.allocates = true)
    (passed : (s.epochAdmission direction session frame.frameBytes).1.error = none) :
    RaisesInTime s frame direction callbacks ↔
      ((s.epochAdmission direction session frame.frameBytes).2 ≠ s.fileEpochManager →
        Begins s (s.enteringFrame frame direction session callbacks)) ∧
      (acceptedAnswer (s.enteringFrame frame direction session callbacks) = .ok () →
        ∀ decision, draw s (s.enteringFrame frame direction session callbacks)
            (s.availableNs direction) 0 true = .ok decision →
          CopiesLeave s (s.enteringFrame frame direction session callbacks) decision) := by
  refine ⟨fun inTime => inTime session gate allocates passed, fun both session' gate' _ _ => ?_⟩
  obtain rfl : session = session' := Option.some.inj (gate.symm.trans gate')
  exact both

/-- **An admission that raises leaves no trace**, exactly under the condition. -/
theorem leavesNoTrace_iff (s : LinkSimulator) (frame : TransportFrame) (direction : Direction)
    (callbacks : LinkCallbacks) :
    LeavesNoTrace s frame direction callbacks ↔ RaisesInTime s frame direction callbacks := by
  have admission := admission_admitFrame s frame direction callbacks
  unfold LeavesNoTrace
  generalize admitFrame frame direction callbacks s = result at admission ⊢
  cases admission with
  | turnedAway gate =>
      refine ⟨fun _ session gate' => ?_, fun _ failure t raised => nomatch raised⟩
      rw [gate] at gate'
      cases gate'
  | exhausted failure full =>
      refine ⟨fun _ session _ allocates => absurd (lt_of_allocates allocates) full,
        fun _ failure t raised => ?_⟩
      cases raised
      exact ⟨rfl, rfl, rfl⟩
  | unsaved failure unsaved =>
      refine ⟨fun _ session _ allocates => absurd allocates unsaved, fun _ failure t raised => ?_⟩
      cases raised
      exact ⟨rfl, rfl, rfl⟩
  | rejectedSilently session reason gate allocates fenced silent =>
      refine ⟨fun _ session' gate' _ passed => ?_, fun _ failure t raised => nomatch raised⟩
      obtain rfl : session = session' := Option.some.inj (gate.symm.trans gate')
      rw [fenced] at passed
      cases passed
  | rejected session reason gate allocates fenced heard =>
      refine ⟨fun _ session' gate' _ passed => ?_, fun _ failure t raised => ?_⟩
      · obtain rfl : session = session' := Option.some.inj (gate.symm.trans gate')
        rw [fenced] at passed
        cases passed
      · cases answer : consumedAnswer callbacks
            (rejectionMessage (s.enteringFrame frame direction session callbacks) reason) with
        | ok u =>
            rw [answer] at raised
            cases raised
        | error failure' =>
            rw [answer] at raised
            cases raised
            exact ⟨rfl, rfl, rfl⟩
  | unaccepted session failure gate allocates passed raised =>
      rw [raisesInTime_iff_of_passed gate allocates passed]
      constructor
      · intro noTrace
        have same := (sameFooting_entered_iff _).mp (noTrace _ _ rfl)
        exact ⟨fun moved => absurd same moved, fun returned => nomatch raised.symm.trans returned⟩
      · rintro ⟨begins, -⟩ failure' t here
        cases here
        refine (sameFooting_entered_iff _).mpr (by_contra fun moved => ?_)
        cases raised.symm.trans (begins moved).1
  | transmitted session result gate allocates passed accepted transmits =>
      rw [raisesInTime_iff_of_passed gate allocates passed]
      have bits : 0 < frame.frameBytes.length := frame_ne_nil_of_ingressGate gate
      cases drawn : draw s (s.enteringFrame frame direction session callbacks)
          (s.availableNs direction) 0 true with
      | error failure =>
          have undrawn : result = .error failure ((s.entered frame direction session).withControl
              (acceptanceMessage (s.enteringFrame frame direction session callbacks))) :=
            transmits.of_undrawn drawn
          subst undrawn
          constructor
          · intro noTrace
            have same := (sameFooting_entered_iff _).mp (noTrace _ _ rfl)
            exact ⟨fun moved => absurd same moved, fun _ decision ok => nomatch ok⟩
          · rintro ⟨begins, -⟩ failure' t here
            cases here
            refine (sameFooting_entered_iff _).mpr (by_contra fun moved => ?_)
            obtain ⟨-, decision, ok⟩ := begins moved
            cases drawn.symm.trans ok
      | ok decision =>
          obtain ⟨moves, raises⟩ := transmits.raises_iff bits drawn
          have leaves : (∃ failure t, result = .error failure t) ↔
              ¬ CopiesLeave s (s.enteringFrame frame direction session callbacks) decision := raises
          constructor
          · intro noTrace
            refine ⟨fun _ => ⟨accepted, decision, drawn⟩, fun _ decision' same => ?_⟩
            cases same
            refine by_contra fun stays => ?_
            obtain ⟨failure, t, raised⟩ := leaves.mpr stays
            have footing := noTrace failure t (by rw [raised]; rfl)
            exact moves failure t raised (congrFun footing.serializers direction)
          · rintro ⟨-, leave⟩ failure t here
            cases result with
            | ok u t' => cases here
            | error failure' t' =>
                exact absurd (leave accepted decision rfl) (leaves.mp ⟨failure', t', rfl⟩)

end Admission

/-- A link that is to corrupt more bits of every downlink frame than a frame has. -/
def overcorrupting : LinkSimulator :=
  linkMachine.exec (.initial {} { corruptFrameRatePpm := 1000000, bitsPerCorruptFrame := 1000000 }
    (.ofSeed 1 1 0) .empty none none) [.createSession 1 7]

/-- **An admission that raises can open an attempt**: the profiles are valid, the corruption does
not fit the frame, and the START whose admission failed holds the fence. -/
theorem not_leavesNoTrace_of_unfit_start :
    overcorrupting.uplinkProfile.validate = .ok () ∧
      overcorrupting.downlinkProfile.validate = .ok () ∧
      ¬ LeavesNoTrace overcorrupting (fileFrame 1 1 startPacket) .egress {} := by
  refine ⟨by decide, by decide, fun noTrace => ?_⟩
  have raises : Effect.isOk (admitFrame (fileFrame 1 1 startPacket) .egress {} overcorrupting) =
      false := by
    decide +kernel
  have opened : (Effect.finalState (admitFrame (fileFrame 1 1 startPacket) .egress {}
      overcorrupting)).fileEpochManager ≠ overcorrupting.fileEpochManager := by
    decide +kernel
  cases ran : admitFrame (fileFrame 1 1 startPacket) .egress {} overcorrupting with
  | ok id t =>
      rw [ran] at raises
      cases raises
  | error failure t =>
      rw [ran] at opened
      exact opened (noTrace failure t ran).epochs

end LinkSimulator

end CubeNano

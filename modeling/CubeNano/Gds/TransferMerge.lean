import CubeNano.Gds.TransferLedger

/-!
# What a downlink transfer settles at

Receipts and observations of one transfer arrive in any order.  Until a receipt names the
transfer its observations wait in the pending table; from then on they are merged into the
row of the request.  Either way the states merge by rank, so the row ends in the highest
state that was reported.

## Main definitions

* `TransferStep` — what a transaction does
* `TransferLedger.Awaiting` — a request is admitted and nothing is known of its transfer
* `DownlinkSettles` — what is expected of a run

## Main statements

* `TransferLedger.settled_of_named` — the row settles at the highest reported state
* `settles_iff` — a run meets the expectation if and only if no receipt
  omits the transfer of a row that has none
-/

namespace CubeNano

/-! ## Transactions -/

/-- What a transaction does. -/
inductive TransferStep (l : TransferLedger) (e : TimedTransferEvent) :
    TransferLedger → Raises TransferAnswer → Prop
  | refused (failure : PyException) : TransferStep l e l (.error failure)
  | admitted {l' : TransferLedger} {key : RequestKey} {product : ProductRef}
      (event : e.event = .admission key product) (fresh : l.row? key = none)
      (rows : ∀ k, l'.row? k =
        if k = key then some ⟨product, none, .admitted, e.nowUs, e.nowUs⟩ else l.row? k)
      (pending : l'.pending = l.pending) (audit : l'.audit = l.audit) :
      TransferStep l e l' (.ok .admitted)
  | unknown {key : RequestKey} {transferId : Option U32} {state : ProgressState}
      (event : e.event = .receipt key transferId state) (absent : l.row? key = none) :
      TransferStep l e (l.reconcilePending e.nowUs).2 (.ok (.updated false))
  | received {l' : TransferLedger} {key : RequestKey} {transferId : Option U32}
      {state : ProgressState} {row : CorrelationRow} {t : U32}
      (event : e.event = .receipt key transferId state) (stored : l.row? key = some row)
      (merged : TransferLedger.Received e.nowUs key transferId state row t l l') :
      TransferStep l e l' (.ok (.updated true))
  | deferred {l' : TransferLedger} {file : FileIdentity} {state : ProgressState}
      (event : e.event = .observation file.productRef file.transferId state)
      (valid : state.ofFile = true)
      (waits : TransferLedger.Deferred e.nowUs file state l l') :
      TransferStep l e l' (.ok (.attached none))
  | attached {l' : TransferLedger} {file : FileIdentity} {state : ProgressState}
      {key : RequestKey} {row : CorrelationRow}
      (event : e.event = .observation file.productRef file.transferId state)
      (valid : state.ofFile = true)
      (merged : TransferLedger.Attached e.nowUs file state key row l l') :
      TransferStep l e l' (.ok (.attached (some key)))
  | reconciled (count : ℕ) (event : e.event = .reconcile) :
      TransferStep l e (l.reconcilePending e.nowUs).2 (.ok (.expired count))

namespace TransferLedger

variable {l l' : TransferLedger} {e : TimedTransferEvent}

theorem step_of_perform {answer : TransferAnswer} (performed : l.perform e = .ok (answer, l')) :
    l.step e = (l', .ok answer) := by rw [step, performed]

/-- **What a step does.** -/
theorem transferStep (l : TransferLedger) (e : TimedTransferEvent) :
    TransferStep l e (l.step e).1 (l.step e).2 := by
  cases performed : l.perform e with
  | error failure =>
      rw [step, performed]
      exact .refused failure
  | ok result =>
      obtain ⟨answer, l'⟩ := result
      rw [step_of_perform performed]
      unfold perform at performed
      cases event : e.event with
      | admission key product =>
          rw [event] at performed
          obtain ⟨inserted, wrote, returned⟩ := bind_eq_ok_iff.mp performed
          cases returned
          obtain ⟨fresh, rows, pending, audit⟩ := row?_of_insertRow wrote
          exact .admitted event fresh rows pending audit
      | receipt key transferId state =>
          rw [event] at performed
          obtain ⟨result, wrote, returned⟩ := bind_eq_ok_iff.mp performed
          cases returned
          rcases updateProductDownlinkTransfer_cases wrote with
            ⟨absent, found, same⟩ | ⟨row, t, stored, found, merged⟩
          · dsimp only
            rw [found, same]
            exact .unknown event absent
          · dsimp only
            rw [found]
            exact .received event stored merged
      | observation product transferId state =>
          rw [event] at performed
          obtain ⟨result, wrote, returned⟩ := bind_eq_ok_iff.mp performed
          cases returned
          obtain ⟨valid, ⟨none, waits⟩ | ⟨key, row, some, merged⟩⟩ :=
            updateProductDownlinkFileState_cases wrote
          · dsimp only
            rw [none]
            exact @TransferStep.deferred l e _ ⟨product, transferId⟩ _ event valid waits
          · dsimp only
            rw [some]
            exact @TransferStep.attached l e _ ⟨product, transferId⟩ _ _ _ event valid merged
      | reconcile =>
          rw [event] at performed
          cases performed
          exact .reconciled _ event

/-! ## A request and its transfer -/

/-- The rows are not younger than the instant. -/
def CreatedBy (l : TransferLedger) (now : ℕ) : Prop :=
  ∀ k r, l.row? k = some r → r.createdAtUs ≤ now

/-- No row of the spacecraft is correlated with the transfer. -/
def Unclaimed (l : TransferLedger) (file : FileIdentity) : Prop :=
  ∀ k r, l.row? k = some r →
    r.productRef.spacecraftInstanceId = file.productRef.spacecraftInstanceId →
      r.transferId ≠ some file.transferId

/-- The request is admitted for the product and nothing is known of the transfer. -/
structure Awaiting (l : TransferLedger) (key : RequestKey) (file : FileIdentity) (now : ℕ) :
    Prop where
  row : ∃ row, l.row? key = some row ∧ row.productRef = file.productRef ∧
    row.transferId = none ∧ row.transferState = .admitted
  unclaimed : l.Unclaimed file
  unobserved : l.pending.find? file = none
  created : l.CreatedBy now

/-- The state an event reports of the transfer of a request. -/
def ownState (key : RequestKey) (file : FileIdentity) : TransferEvent → Option ProgressState
  | .receipt k t state =>
      if k = key ∧ (t = none ∨ t = some file.transferId) then some state else none
  | .observation product t state =>
      if product = file.productRef ∧ t = file.transferId ∧ state.ofFile = true then some state
      else none
  | .admission _ _ | .reconcile => none

/-- The states a run reports of the transfer of a request. -/
def reported (key : RequestKey) (file : FileIdentity) (events : List TimedTransferEvent) :
    List ProgressState :=
  events.filterMap fun e => ownState key file e.event

/-- A receipt that names the transfer of the request. -/
def Names (key : RequestKey) (t : U32) (e : TransferEvent) : Prop :=
  ∃ state, e = .receipt key (some t) state

/-- Receipts name no other transfer for the request, and the transfer for no other request. -/
def Sole (key : RequestKey) (file : FileIdentity) (l : TransferLedger) (e : TimedTransferEvent) :
    Prop :=
  ∀ k t state, e.event = .receipt k (some t) state →
    (k = key → t = file.transferId) ∧ (t = file.transferId → ∀ row, l.row? k = some row →
      row.productRef.spacecraftInstanceId = file.productRef.spacecraftInstanceId → k = key)

/-- A receipt omits its transfer only for a row that has one. -/
def HasTransfer (l : TransferLedger) (e : TimedTransferEvent) : Prop :=
  ∀ k state row, e.event = .receipt k none state → l.row? k = some row → row.transferId ≠ none

section Own

variable {key : RequestKey} {file : FileIdentity}

theorem ownState_receipt_of_ne {k : RequestKey} {t : Option U32} {state : ProgressState}
    (ne : k ≠ key) : ownState key file (.receipt k t state) = none := if_neg fun both => ne both.1

theorem ownState_receipt {t : Option U32} {state : ProgressState}
    (named : t = none ∨ t = some file.transferId) :
    ownState key file (.receipt key t state) = some state := if_pos ⟨rfl, named⟩

theorem ownState_observation {state : ProgressState} (valid : state.ofFile = true) :
    ownState key file (.observation file.productRef file.transferId state) = some state :=
  if_pos ⟨rfl, rfl, valid⟩

theorem ownState_observation_of_ne {other : FileIdentity} {state : ProgressState}
    (ne : other ≠ file) :
    ownState key file (.observation other.productRef other.transferId state) = none :=
  if_neg fun all => ne (FileIdentity.ext all.1 all.2.1)

end Own

/-! ## The rows get older -/

theorem CreatedBy.mono {now later : ℕ} (created : l.CreatedBy now) (order : now ≤ later) :
    l.CreatedBy later := fun k r stored => (created k r stored).trans order

/-- A step writes no row that is younger than it. -/
theorem CreatedBy.step {now : ℕ} {answer : Raises TransferAnswer} (created : l.CreatedBy now)
    (order : now ≤ e.nowUs) (step : TransferStep l e l' answer) : l'.CreatedBy e.nowUs := by
  have old := created.mono order
  cases step with
  | refused failure => exact old
  | unknown event absent => exact fun k r stored => old k r (row?_reconcile ▸ stored)
  | reconciled count event => exact fun k r stored => old k r (row?_reconcile ▸ stored)
  | deferred event valid waits =>
      exact fun k r stored => old k r ((row?_of_downlinks waits.downlinks k).symm.trans stored)
  | admitted event fresh rows pending audit =>
      intro k r stored
      rw [rows] at stored
      split at stored
      · cases stored
        exact Nat.le_refl _
      · exact old k r stored
  | received event found merged =>
      intro k r stored
      rw [merged.row?] at stored
      split at stored
      · have before := old _ _ found
        cases stored
        exact before
      · exact old k r stored
  | attached event valid merged =>
      intro k r stored
      rw [merged.row?] at stored
      split at stored
      · have before := old _ _ merged.stored
        cases stored
        exact before
      · exact old k r stored

/-! ## Before a receipt names the transfer -/

/-- What waits is a highest of the states seen, from an observation of the window. -/
def WaitsFor (start now : ℕ) (seen : List ProgressState) : Option PendingFile → Prop
  | none => seen = []
  | some waiting => downlinkRanking.IsHighest waiting.transferState seen ∧
      waiting.firstObservedAtUs ≤ now ∧ start + pendingFileObservationTtl ≤ waiting.expiresAtUs

/-- The transfer is not named yet; its observations wait. -/
structure Waiting (l : TransferLedger) (key : RequestKey) (file : FileIdentity) (start now : ℕ)
    (seen : List ProgressState) : Prop where
  row : ∃ row, l.row? key = some row ∧ row.productRef = file.productRef ∧
    row.transferId = none ∧ row.transferState = .admitted
  unclaimed : l.Unclaimed file
  waits : WaitsFor start now seen (l.pending.find? file)
  created : l.CreatedBy now
  begun : start ≤ now

/-- The transfer is named; its states are merged into the row. -/
structure Joined (l : TransferLedger) (key : RequestKey) (file : FileIdentity) (now : ℕ)
    (seen : List ProgressState) : Prop where
  row : ∃ row, l.row? key = some row ∧ row.productRef = file.productRef ∧
    row.transferId = some file.transferId ∧ downlinkRanking.IsHighest row.transferState seen
  quiet : l.pending.find? file = none
  created : l.CreatedBy now

section Merge

variable {key : RequestKey} {file : FileIdentity} {start now : ℕ} {seen : List ProgressState}
  {answer : Raises TransferAnswer} {state : ProgressState}

theorem Awaiting.waiting (awaiting : l.Awaiting key file start) :
    l.Waiting key file start start [] := by
  refine ⟨awaiting.row, awaiting.unclaimed, ?_, awaiting.created, Nat.le_refl start⟩
  rw [awaiting.unobserved]
  exact rfl

theorem WaitsFor.mono {later : ℕ} {waiting : Option PendingFile}
    (waits : WaitsFor start now seen waiting) (order : now ≤ later) :
    WaitsFor start later seen waiting := by
  cases waiting with
  | none => exact waits
  | some row => exact ⟨waits.1, waits.2.1.trans order, waits.2.2⟩

/-- Within the window nothing that waits expires. -/
theorem WaitsFor.alive {instant : ℕ} {waiting : Option PendingFile}
    (waits : WaitsFor start now seen waiting)
    (window : instant < start + pendingFileObservationTtl) :
    (waiting.filter fun row => row.expiresAtUs > instant) = waiting := by
  cases waiting with
  | none => rfl
  | some row =>
      rw [Option.filter_some, if_pos]
      exact decide_eq_true (window.trans_le waits.2.2)

theorem isHighest_concat {state' : ProgressState}
    (highest : downlinkRanking.IsHighest state seen) :
    downlinkRanking.IsHighest (monotonicDownlinkState state state') (seen ++ [state']) :=
  highest.merge (.singleton state')

/-- An admission, or an event about another request, leaves the waiting alone. -/
theorem Waiting.of_same (waiting : l.Waiting key file start now seen) (order : now ≤ e.nowUs)
    (step : TransferStep l e l' answer) (row : l'.row? key = l.row? key)
    (unclaimed : l'.Unclaimed file) (pending : l'.pending.find? file = l.pending.find? file) :
    l'.Waiting key file start e.nowUs seen := by
  refine ⟨?_, unclaimed, ?_, waiting.created.step order step, waiting.begun.trans order⟩
  · rw [row]
    exact waiting.row
  · rw [pending]
    exact waiting.waits.mono order

/-- The rows that no receipt touches claim what they claimed. -/
theorem Unclaimed.of_rows (unclaimed : l.Unclaimed file) {k : RequestKey} {row : CorrelationRow}
    (rows : ∀ k', l'.row? k' = if k' = k then some row else l.row? k')
    (own : row.productRef.spacecraftInstanceId = file.productRef.spacecraftInstanceId →
      row.transferId ≠ some file.transferId) : l'.Unclaimed file := by
  intro k' r stored
  rw [rows] at stored
  split at stored
  · cases stored
    exact own
  · exact unclaimed k' r stored

/-- A refused event within the window reported no state of the transfer. -/
theorem Waiting.ownState_of_refused (waiting : l.Waiting key file start now seen)
    (order : now ≤ e.nowUs) (has : l.HasTransfer e)
    (unnamed : ¬ Names key file.transferId e.event) {failure : PyException}
    (refused : (l.step e).2 = .error failure) : ownState key file e.event = none := by
  obtain ⟨row, stored, owns, without, -⟩ := waiting.row
  cases event : e.event with
  | admission k product => rfl
  | reconcile => rfl
  | receipt k t state =>
      refine if_neg ?_
      rintro ⟨rfl, rfl | rfl⟩
      · exact has k state row event stored without
      · exact unnamed ⟨state, event⟩
  | observation product t state =>
      refine if_neg ?_
      rintro ⟨rfl, rfl, valid⟩
      have observed : ∀ w, l.pending.find? ⟨file.productRef, file.transferId⟩ = some w →
          w.firstObservedAtUs ≤ e.nowUs := fun w found => by
        have waits := waiting.waits
        rw [found] at waits
        exact waits.2.1.trans order
      obtain ⟨l', done⟩ := updateProductDownlinkFileState_of_absent valid
        (fun k r found product => waiting.unclaimed k r found (congrArg _ product)) observed
      have performed : l.perform e = .ok (.attached none, l') := by
        rw [perform, event]
        dsimp only
        rw [done, ok_bind]
      rw [step_of_perform performed] at refused
      cases refused

/-- **Before the transfer is named** an event of the window is collected, or leaves what waits
alone. -/
theorem Waiting.step (waiting : l.Waiting key file start now seen) (order : now ≤ e.nowUs)
    (window : e.nowUs < start + pendingFileObservationTtl) (sole : l.Sole key file e)
    (has : l.HasTransfer e) (unnamed : ¬ Names key file.transferId e.event) :
    (l.step e).1.Waiting key file start e.nowUs
      (seen ++ (ownState key file e.event).toList) := by
  have alive := waiting.waits.alive window
  obtain ⟨row, stored, owns, without, -⟩ := waiting.row
  have unreported (none : ownState key file e.event = none) :
      seen ++ (ownState key file e.event).toList = seen := by
    rw [none, Option.toList_none, List.append_nil]
  cases result : l.step e with
  | mk l' answer =>
  have step : TransferStep l e l' answer := by
    have taken := transferStep l e
    rwa [result] at taken
  have taken := step
  dsimp only
  cases step with
  | refused failure =>
      rw [unreported (waiting.ownState_of_refused order has unnamed (congrArg Prod.snd result))]
      exact waiting.of_same order taken rfl waiting.unclaimed rfl
  | admitted event fresh rows pending audit =>
      rw [unreported (by rw [event, ownState])]
      refine waiting.of_same order taken ?_ ?_ (by rw [pending])
      · rw [rows, if_neg]
        rintro rfl
        rw [fresh] at stored
        cases stored
      · exact waiting.unclaimed.of_rows rows fun _ claims => nomatch claims
  | @unknown k _ _ event absent =>
      have other : k ≠ key := by
        rintro rfl
        rw [absent] at stored
        cases stored
      rw [unreported (by rw [event, ownState_receipt_of_ne other])]
      exact waiting.of_same order taken row?_reconcile
        (fun k r found => waiting.unclaimed k r (row?_reconcile ▸ found))
        (find?_pending_reconcile.trans alive)
  | reconciled count event =>
      rw [unreported (by rw [event, ownState])]
      exact waiting.of_same order taken row?_reconcile
        (fun k r found => waiting.unclaimed k r (row?_reconcile ▸ found))
        (find?_pending_reconcile.trans alive)
  | @received _ k transferId state row' t event found merged =>
      have transfer := merged.transfer
      have other : k ≠ key := by
        rintro rfl
        cases Option.some.inj (stored.symm.trans found)
        rw [without, Option.none_or] at transfer
        rw [transfer] at event
        exact unnamed ⟨state, (sole k t state event).1 rfl ▸ event⟩
      have claims : row'.productRef.spacecraftInstanceId = file.productRef.spacecraftInstanceId →
          some t ≠ some file.transferId := by
        rintro craft ⟨⟩
        cases before : row'.transferId with
        | none =>
            rw [before, Option.none_or] at transfer
            rw [transfer] at event
            exact other ((sole k _ state event).2 rfl row' found craft)
        | some t' =>
            rw [before, Option.some_or] at transfer
            exact waiting.unclaimed k row' found craft (before.trans transfer)
      rw [unreported (by rw [event, ownState_receipt_of_ne other])]
      refine waiting.of_same order taken ?_ (waiting.unclaimed.of_rows merged.row? claims) ?_
      · rw [merged.row?, if_neg other.symm]
      · rw [merged.pending, if_neg, alive]
        rintro rfl
        exact claims rfl rfl
  | @deferred _ f state event valid waits =>
      by_cases same : f = file
      · subst same
        rw [event, ownState_observation valid]
        refine ⟨?_, ?_, ?_, waiting.created.step order taken, waiting.begun.trans order⟩
        · rw [row?_of_downlinks waits.downlinks]
          exact waiting.row
        · intro k r found
          exact waiting.unclaimed k r ((row?_of_downlinks waits.downlinks k).symm.trans found)
        · have before := waiting.waits
          cases found : l.pending.find? f with
          | none =>
              rw [found] at before
              rw [waits.first (by rw [found]; rfl), before]
              exact ⟨.singleton state, Nat.le_refl _,
                Nat.add_le_add_right (waiting.begun.trans order) _⟩
          | some w =>
              rw [found] at before
              obtain ⟨updatedAtUs, merged⟩ := waits.again w found (window.trans_le before.2.2)
              rw [merged]
              exact ⟨isHighest_concat before.1, before.2.1.trans order, before.2.2⟩
      · rw [unreported (by rw [event, ownState_observation_of_ne same])]
        refine waiting.of_same order taken (row?_of_downlinks waits.downlinks key) ?_ ?_
        · intro k r found
          exact waiting.unclaimed k r ((row?_of_downlinks waits.downlinks k).symm.trans found)
        · rw [waits.others file (Ne.symm same), alive]
  | @attached _ f state k row' event valid merged =>
      have differs : f ≠ file := by
        rintro rfl
        exact waiting.unclaimed k row' merged.stored (by rw [merged.product]) merged.transfer
      have other : k ≠ key := by
        rintro rfl
        cases Option.some.inj (stored.symm.trans merged.stored)
        exact Option.some_ne_none _ (merged.transfer.symm.trans without)
      rw [unreported (by rw [event, ownState_observation_of_ne differs])]
      refine waiting.of_same order taken ?_ (waiting.unclaimed.of_rows merged.row?
        fun craft => waiting.unclaimed k row' merged.stored craft) ?_
      · rw [merged.row?, if_neg other.symm]
      · rw [merged.pending, find?_pending_reconcile, alive]

/-! ## From the receipt that names the transfer on -/

theorem monotonicDownlinkState_admitted (candidate : ProgressState) :
    monotonicDownlinkState .admitted candidate = candidate := by
  cases candidate <;> rfl

theorem nextState_none (current candidate : ProgressState) :
    nextState current candidate none = monotonicDownlinkState current candidate := rfl

theorem nextState_some (current candidate waiting : ProgressState) :
    nextState current candidate (some waiting) =
      monotonicDownlinkState (monotonicDownlinkState current candidate) waiting := rfl

theorem sole_of_transfer {row : CorrelationRow} (stored : l.row? key = some row)
    (transfer : row.transferId = some file.transferId) (k : RequestKey) (r : CorrelationRow)
    (found : l.row? k = some r)
    (craft : r.productRef.spacecraftInstanceId = row.productRef.spacecraftInstanceId)
    (claims : r.transferId = some file.transferId) : k = key :=
  eq_of_sameTransfer found stored
    ⟨craft, claims ▸ Option.some_ne_none _, claims.trans transfer.symm⟩

/-- **The receipt that names the transfer** merges what waited into the row. -/
theorem Waiting.join (waiting : l.Waiting key file start now seen) (order : now ≤ e.nowUs)
    (window : e.nowUs < start + pendingFileObservationTtl)
    (names : Names key file.transferId e.event) :
    (l.step e).1.Joined key file e.nowUs (seen ++ (ownState key file e.event).toList) := by
  obtain ⟨state, event⟩ := names
  obtain ⟨row, stored, owns, without, fresh⟩ := waiting.row
  obtain ⟨l', wrote⟩ := exists_updateProductDownlinkTransfer (some file.transferId) state stored
    ((waiting.created key row stored).trans order) (by rw [without, Option.none_or])
    (fun t' same => (Option.some.inj same).symm)
    fun k r found craft claims =>
      absurd claims (waiting.unclaimed k r found (craft.trans (by rw [owns])))
  have performed : l.perform e = .ok (.updated true, l') := by
    rw [perform, event]
    dsimp only
    rw [wrote, ok_bind]
  have taken := transferStep l e
  rw [step_of_perform performed] at taken ⊢
  rcases updateProductDownlinkTransfer_cases wrote with ⟨absent, -⟩ | ⟨row', t, found, -, merged⟩
  · rw [absent] at stored
    cases stored
  cases Option.some.inj (stored.symm.trans found)
  have transfer := merged.transfer
  rw [without, Option.none_or] at transfer
  cases transfer
  have about : (⟨row.productRef, file.transferId⟩ : FileIdentity) = file :=
    FileIdentity.ext owns rfl
  have rows := merged.row? key
  rw [if_pos rfl, fresh, about, pendingState, waiting.waits.alive window] at rows
  rw [event, ownState_receipt (.inr rfl)]
  refine ⟨⟨_, rows, owns, rfl, ?_⟩, ?_, waiting.created.step order taken⟩
  · have before := waiting.waits
    cases found : l.pending.find? file with
    | none =>
        rw [found] at before
        rw [before, Option.map_none, nextState_none, monotonicDownlinkState_admitted]
        exact .singleton state
    | some w =>
        rw [found] at before
        rw [Option.map_some, nextState_some, monotonicDownlinkState_admitted]
        exact ((Ranking.IsHighest.singleton state).merge before.1).of_mem_iff fun s' => by
          rw [Option.toList_some, List.mem_append, List.mem_append, or_comm]
  · rw [merged.pending, if_pos about.symm]

/-- A refused event reported no state of a transfer that is named. -/
theorem Joined.ownState_of_refused (joined : l.Joined key file now seen) (order : now ≤ e.nowUs)
    {failure : PyException} (refused : (l.step e).2 = .error failure) :
    ownState key file e.event = none := by
  obtain ⟨row, stored, owns, transfer, -⟩ := joined.row
  have created := (joined.created key row stored).trans order
  cases event : e.event with
  | admission k product => rfl
  | reconcile => rfl
  | receipt k t state =>
      refine if_neg ?_
      rintro ⟨rfl, named⟩
      obtain ⟨l', wrote⟩ := exists_updateProductDownlinkTransfer t state stored created
        (by rw [transfer, Option.some_or])
        (fun t' same => by
          rcases named with none | some
          · rw [none] at same
            cases same
          · rw [some] at same
            exact (Option.some.inj same).symm)
        (sole_of_transfer stored transfer)
      have performed : l.perform e = .ok (.updated true, l') := by
        rw [perform, event]
        dsimp only
        rw [wrote, ok_bind]
      rw [step_of_perform performed] at refused
      cases refused
  | observation product t state =>
      refine if_neg ?_
      rintro ⟨rfl, rfl, valid⟩
      obtain ⟨l', done⟩ :=
        updateProductDownlinkFileState_of_attached valid stored created owns transfer
      have performed : l.perform e = .ok (.attached (some key), l') := by
        rw [perform, event]
        dsimp only
        rw [done, ok_bind]
      rw [step_of_perform performed] at refused
      cases refused

/-- An event that does not concern the transfer. -/
theorem Joined.of_same (joined : l.Joined key file now seen) (order : now ≤ e.nowUs)
    (step : TransferStep l e l' answer) (row : l'.row? key = l.row? key)
    (pending : l'.pending.find? file = none) : l'.Joined key file e.nowUs seen := by
  refine ⟨?_, pending, joined.created.step order step⟩
  rw [row]
  exact joined.row

/-- **Once the transfer is named** every state of it that is reported is merged into the row. -/
theorem Joined.step (joined : l.Joined key file now seen) (order : now ≤ e.nowUs)
    (sole : l.Sole key file e) :
    (l.step e).1.Joined key file e.nowUs (seen ++ (ownState key file e.event).toList) := by
  obtain ⟨row, stored, owns, transfer, highest⟩ := joined.row
  have quiet : (l.pending.find? file).filter (fun w => w.expiresAtUs > e.nowUs) = none := by
    rw [joined.quiet]
    rfl
  have unreported (none : ownState key file e.event = none) :
      seen ++ (ownState key file e.event).toList = seen := by
    rw [none, Option.toList_none, List.append_nil]
  cases result : l.step e with
  | mk l' answer =>
  have step : TransferStep l e l' answer := by
    have taken := transferStep l e
    rwa [result] at taken
  have taken := step
  dsimp only
  cases step with
  | refused failure =>
      rw [unreported (joined.ownState_of_refused order (congrArg Prod.snd result))]
      exact joined.of_same order taken rfl joined.quiet
  | admitted event fresh rows pending audit =>
      rw [unreported (by rw [event, ownState])]
      refine joined.of_same order taken ?_ (pending ▸ joined.quiet)
      rw [rows, if_neg]
      rintro rfl
      rw [fresh] at stored
      cases stored
  | @unknown k _ _ event absent =>
      have other : k ≠ key := by
        rintro rfl
        rw [absent] at stored
        cases stored
      rw [unreported (by rw [event, ownState_receipt_of_ne other])]
      exact joined.of_same order taken row?_reconcile (find?_pending_reconcile.trans quiet)
  | reconciled count event =>
      rw [unreported (by rw [event, ownState])]
      exact joined.of_same order taken row?_reconcile (find?_pending_reconcile.trans quiet)
  | @received _ k transferId state row' t event found merged =>
      by_cases same : k = key
      · subst same
        cases Option.some.inj (stored.symm.trans found)
        have named := merged.transfer
        rw [transfer, Option.some_or] at named
        cases named
        have about : (⟨row.productRef, file.transferId⟩ : FileIdentity) = file :=
          FileIdentity.ext owns rfl
        have rows := merged.row? k
        rw [if_pos rfl, about, pendingState, quiet, Option.map_none, nextState_none] at rows
        have own : transferId = none ∨ transferId = some file.transferId := by
          cases transferId with
          | none => exact .inl rfl
          | some t' => exact .inr (congrArg some (merged.named t' rfl))
        rw [event, ownState_receipt own]
        refine ⟨⟨_, rows, owns, rfl, isHighest_concat highest⟩, ?_, joined.created.step order taken⟩
        rw [merged.pending, if_pos about.symm]
      · rw [unreported (by rw [event, ownState_receipt_of_ne same])]
        refine joined.of_same order taken ?_ ?_
        · rw [merged.row?, if_neg (Ne.symm same)]
        · rw [merged.pending, quiet, ite_self]
  | @deferred _ f state event valid waits =>
      have differs : f ≠ file := by
        rintro rfl
        exact waits.absent key row stored owns transfer
      rw [unreported (by rw [event, ownState_observation_of_ne differs])]
      refine joined.of_same order taken (row?_of_downlinks waits.downlinks key) ?_
      rw [waits.others file differs.symm, quiet]
  | @attached _ f state k row' event valid merged =>
      have pending : l'.pending.find? file = none := by
        rw [merged.pending, find?_pending_reconcile, quiet]
      by_cases same : f = file
      · subst same
        have mine : k = key := sole_of_transfer stored transfer k row' merged.stored
          (by rw [merged.product, owns]) merged.transfer
        subst mine
        cases Option.some.inj (stored.symm.trans merged.stored)
        have rows := merged.row? k
        rw [if_pos rfl] at rows
        rw [event, ownState_observation valid]
        exact ⟨⟨_, rows, owns, transfer, isHighest_concat highest⟩, pending,
          joined.created.step order taken⟩
      · have other : k ≠ key := by
          rintro rfl
          cases Option.some.inj (stored.symm.trans merged.stored)
          exact same (FileIdentity.ext (merged.product.symm.trans owns)
            (Option.some.inj (merged.transfer.symm.trans transfer)))
        rw [unreported (by rw [event, ownState_observation_of_ne same])]
        refine joined.of_same order taken ?_ pending
        rw [merged.row?, if_neg other.symm]

end Merge

/-! ## Runs -/

section Runs

variable {key : RequestKey} {file : FileIdentity} {start now : ℕ} {seen : List ProgressState}
  {events : List TimedTransferEvent}

theorem reported_cons (e : TimedTransferEvent) (rest : List TimedTransferEvent) :
    reported key file (e :: rest) =
      (ownState key file e.event).toList ++ reported key file rest := by
  rw [reported, List.filterMap_cons]
  cases ownState key file e.event <;> rfl

theorem Names.ownState_isSome {event : TransferEvent} (names : Names key file.transferId event) :
    (ownState key file event).isSome = true := by
  obtain ⟨state, rfl⟩ := names
  rw [ownState_receipt (.inr rfl)]
  rfl

/-- A named transfer collects every state the run reports of it. -/
theorem Joined.exec (joined : l.Joined key file now seen)
    (ordered : (now :: events.map TimedTransferEvent.nowUs).Pairwise (· ≤ ·))
    (sole : transferMachine.AllSteps (Sole key file) l events) :
    ∃ later, (transferMachine.exec l events).Joined key file later
      (seen ++ reported key file events) := by
  induction events generalizing l now seen with
  | nil => exact ⟨now, by rw [reported, List.filterMap_nil, List.append_nil]; exact joined⟩
  | cons e rest ih =>
      rw [List.map_cons, List.pairwise_cons] at ordered
      rw [reported_cons, ← List.append_assoc]
      exact ih (joined.step (ordered.1 _ List.mem_cons_self) sole.1) ordered.2 sole.2

/-- **The run rule of a transfer**: what waits is collected until the transfer is named. -/
theorem Waiting.exec (waiting : l.Waiting key file start now seen)
    (ordered : (now :: events.map TimedTransferEvent.nowUs).Pairwise (· ≤ ·))
    (lifetime : ∀ e ∈ events, (ownState key file e.event).isSome = true →
      e.nowUs < start + pendingFileObservationTtl)
    (sole : transferMachine.AllSteps (Sole key file) l events)
    (has : transferMachine.AllSteps HasTransfer l events)
    (named : ∃ e ∈ events, Names key file.transferId e.event) :
    ∃ later, (transferMachine.exec l events).Joined key file later
      (seen ++ reported key file events) := by
  induction events generalizing l now seen with
  | nil =>
      obtain ⟨e, mem, -⟩ := named
      cases mem
  | cons e rest ih =>
      rw [List.map_cons, List.pairwise_cons] at ordered
      have order := ordered.1 e.nowUs List.mem_cons_self
      rw [List.forall_mem_cons] at lifetime
      rw [reported_cons, ← List.append_assoc]
      by_cases names : Names key file.transferId e.event
      · exact (waiting.join order (lifetime.1 names.ownState_isSome) names).exec ordered.2 sole.2
      · -- a later receipt of the window names the transfer
        have later : ∃ e' ∈ rest, Names key file.transferId e'.event := by
          obtain ⟨e', mem, names'⟩ := named
          rcases List.mem_cons.mp mem with rfl | mem
          · exact absurd names' names
          · exact ⟨e', mem, names'⟩
        have window : e.nowUs < start + pendingFileObservationTtl := by
          obtain ⟨e', mem, names'⟩ := later
          exact ((List.pairwise_cons.mp ordered.2).1 _ (List.mem_map_of_mem mem)).trans_lt
            (lifetime.2 e' mem names'.ownState_isSome)
        exact ih (waiting.step order window sole.1 has.1 names) ordered.2 lifetime.2 sole.2 has.2
          later

/-- **The row settles** at the highest state that was reported. -/
theorem settled_of_named (awaiting : l.Awaiting key file start)
    (ordered : (start :: events.map TimedTransferEvent.nowUs).Pairwise (· ≤ ·))
    (lifetime : ∀ e ∈ events, (ownState key file e.event).isSome = true →
      e.nowUs < start + pendingFileObservationTtl)
    (sole : transferMachine.AllSteps (Sole key file) l events)
    (has : transferMachine.AllSteps HasTransfer l events)
    (named : ∃ e ∈ events, Names key file.transferId e.event) :
    ∃ row, (transferMachine.exec l events).row? key = some row ∧
      row.transferId = some file.transferId ∧
        downlinkRanking.IsHighest row.transferState (reported key file events) := by
  obtain ⟨later, joined⟩ := awaiting.waiting.exec ordered lifetime sole has named
  obtain ⟨row, stored, -, transfer, highest⟩ := joined.row
  exact ⟨row, stored, transfer, highest⟩

/-! ## What observations are attached to -/

/-- The row had the transfer at the start, or a receipt of the run named it. -/
def NamedBy (l : TransferLedger) (log : List (TimedTransferEvent × Raises TransferAnswer))
    (key : RequestKey) (t : U32) : Prop :=
  (∃ row, l.row? key = some row ∧ row.transferId = some t) ∨
    ∃ entry ∈ log, Names key t entry.1.event ∧ entry.2 = .ok (.updated true)

/-- The transaction attached an observation of the file to the request: it answered the
observation with the request, or merged one that waited. -/
def Attaches (l l' : TransferLedger) (e : TimedTransferEvent) (answer : Raises TransferAnswer)
    (key : RequestKey) (file : FileIdentity) : Prop :=
  (∃ state, e.event = .observation file.productRef file.transferId state ∧
      answer = .ok (.attached (some key))) ∨
    ∃ old next, TransferAudit.correlated file old key next ∈ l.newAudit l'

/-- Every transfer of a row was named for it. -/
def AllNamed (l : TransferLedger) (s : TransferLedger)
    (log : List (TimedTransferEvent × Raises TransferAnswer)) : Prop :=
  ∀ k r t, s.row? k = some r → r.transferId = some t → l.NamedBy log k t

theorem NamedBy.append {log : List (TimedTransferEvent × Raises TransferAnswer)} {t : U32}
    (named : l.NamedBy log key t) (more : List (TimedTransferEvent × Raises TransferAnswer)) :
    l.NamedBy (log ++ more) key t := by
  rcases named with before | ⟨entry, mem, names⟩
  · exact .inl before
  · exact .inr ⟨entry, List.mem_append_left _ mem, names⟩

/-- A step keeps the transfers named. -/
theorem AllNamed.step {s s' : TransferLedger} {answer : Raises TransferAnswer}
    {log : List (TimedTransferEvent × Raises TransferAnswer)} (all : l.AllNamed s log)
    (step : TransferStep s e s' answer) : l.AllNamed s' (log ++ [(e, answer)]) := by
  have old (k : RequestKey) (r : CorrelationRow) (t : U32) (stored : s.row? k = some r)
      (transfer : r.transferId = some t) : l.NamedBy (log ++ [(e, answer)]) k t :=
    (all k r t stored transfer).append _
  cases step with
  | refused failure => exact old
  | unknown event absent => exact fun k r t stored => old k r t (row?_reconcile ▸ stored)
  | reconciled count event => exact fun k r t stored => old k r t (row?_reconcile ▸ stored)
  | deferred event valid waits =>
      exact fun k r t stored => old k r t ((row?_of_downlinks waits.downlinks k).symm.trans stored)
  | admitted event fresh rows pending audit =>
      intro k r t stored transfer
      rw [rows] at stored
      split at stored
      · cases stored
        cases transfer
      · exact old k r t stored transfer
  | attached event valid merged =>
      intro k r t stored transfer
      rw [merged.row?] at stored
      split at stored
      · rename_i same
        cases stored
        exact same ▸ old _ _ t merged.stored transfer
      · exact old k r t stored transfer
  | @received _ key transferId state row t' event found merged =>
      intro k r t stored transfer
      rw [merged.row?] at stored
      split at stored
      · rename_i same
        subst same
        cases stored
        cases transfer
        have named := merged.transfer
        cases before : row.transferId with
        | some t'' =>
            rw [before, Option.some_or] at named
            exact old _ row _ found (before.trans named)
        | none =>
            rw [before, Option.none_or] at named
            rw [named] at event
            exact .inr ⟨_, List.mem_append_right _ (List.mem_singleton_self _), ⟨state, event⟩, rfl⟩
      · exact old k r t stored transfer

theorem allNamed_exec (l : TransferLedger) (events : List TimedTransferEvent) :
    l.AllNamed (transferMachine.exec l events) (transferMachine.log l events) :=
  transferMachine.run_invariant (fun s log => l.AllNamed s log)
    (fun _ r _ stored transfer => .inl ⟨r, stored, transfer⟩)
    (fun s _ e all => all.step (transferStep s e)) events

end Runs

section Attachment

variable {key : RequestKey} {file : FileIdentity} {answer : Raises TransferAnswer}

theorem newAudit_of_same (same : l'.audit = l.audit) : l.newAudit l' = [] :=
  newAudit_of_append [] (same.trans (List.append_nil _).symm)

/-- An observation is attached to a row of its product that has its transfer. -/
theorem row_of_attaches (step : TransferStep l e l' answer)
    (attaches : l.Attaches l' e answer key file) :
    ∃ row, l'.row? key = some row ∧ row.productRef = file.productRef ∧
      row.transferId = some file.transferId := by
  rcases attaches with ⟨state, observed, answered⟩ | ⟨old, next, mem⟩
  · cases step with
    | @attached _ f _ _ row event valid merged =>
        rw [event] at observed
        cases answered
        obtain ⟨product, transfer, -⟩ := TransferEvent.observation.inj observed
        refine ⟨_, (merged.row? key).trans (if_pos rfl), ?_, ?_⟩
        · exact merged.product.trans product
        · exact merged.transfer.trans (congrArg some transfer)
    | refused failure => cases answered
    | admitted event => cases answered
    | unknown event => cases answered
    | received event => cases answered
    | deferred event => cases answered
    | reconciled count => cases answered
  · cases step with
    | refused failure =>
        rw [newAudit_of_same rfl] at mem
        cases mem
    | admitted event fresh rows pending audit =>
        rw [newAudit_of_same audit] at mem
        cases mem
    | unknown event absent =>
        obtain ⟨f, old', same⟩ := newAudit_reconcile rfl mem
        cases same
    | reconciled count event =>
        obtain ⟨f, old', same⟩ := newAudit_reconcile rfl mem
        cases same
    | deferred event valid waits =>
        obtain ⟨f, old', same⟩ | same := waits.audit _ mem
        · cases same
        · cases same
    | attached event valid merged =>
        obtain ⟨f, old', same⟩ := newAudit_reconcile merged.audit mem
        cases same
    | received event found merged =>
        obtain ⟨f, old', same⟩ | ⟨old', next', same⟩ := merged.audit _ mem
        · cases same
        · cases same
          exact ⟨_, (merged.row? key).trans (if_pos rfl), rfl, rfl⟩

/-- A row changes by its admission, by a receipt for it, or by an observation attached to it. -/
theorem attaches_of_changed (step : TransferStep l e l' answer)
    (changed : l'.row? key ≠ l.row? key) :
    (∃ product, e.event = .admission key product) ∨ (∃ t state, e.event = .receipt key t state) ∨
      ∃ file, l.Attaches l' e answer key file := by
  cases step with
  | refused failure => exact absurd rfl changed
  | unknown event absent => exact absurd row?_reconcile changed
  | reconciled count event => exact absurd row?_reconcile changed
  | deferred event valid waits => exact absurd (row?_of_downlinks waits.downlinks key) changed
  | @admitted _ k product event fresh rows pending audit =>
      by_cases same : key = k
      · exact .inl ⟨product, same ▸ event⟩
      · exact absurd ((rows key).trans (if_neg same)) changed
  | @received _ k transferId state row t event found merged =>
      by_cases same : key = k
      · exact .inr (.inl ⟨transferId, state, same ▸ event⟩)
      · exact absurd ((merged.row? key).trans (if_neg same)) changed
  | @attached _ f state k row event valid merged =>
      by_cases same : key = k
      · exact .inr (.inr ⟨f, .inl ⟨state, event, by rw [same]⟩⟩)
      · exact absurd ((merged.row? key).trans (if_neg same)) changed

end Attachment

/-! ## Receipts that omit the transfer -/

/-- A receipt that omits its transfer advances the row it is for. -/
def Advances (l : TransferLedger) (e : TimedTransferEvent) : Prop :=
  ∀ k state row, e.event = .receipt k none state → l.row? k = some row →
    (l.step e).2 = .ok (.updated true) ∧ ∃ row', (l.step e).1.row? k = some row' ∧
      row.transferState.rank ≤ row'.transferState.rank ∧ state.rank ≤ row'.transferState.rank

theorem rank_le_nextState (current candidate : ProgressState) (pending : Option ProgressState) :
    current.rank ≤ (nextState current candidate pending).rank ∧
      candidate.rank ≤ (nextState current candidate pending).rank := by
  have left : current.rank ≤ (monotonicDownlinkState current candidate).rank :=
    downlinkRanking.rank_le_merge_left current candidate
  have right : candidate.rank ≤ (monotonicDownlinkState current candidate).rank :=
    downlinkRanking.rank_le_merge_right current candidate
  cases pending with
  | none => exact ⟨left, right⟩
  | some waiting =>
      have waited : (monotonicDownlinkState current candidate).rank ≤
          (nextState current candidate (some waiting)).rank :=
        downlinkRanking.rank_le_merge_left _ waiting
      exact ⟨left.trans waited, right.trans waited⟩

/-- A receipt that omits its transfer advances its row if and only if the row has one. -/
theorem advances_iff (created : l.CreatedBy e.nowUs) : l.Advances e ↔ l.HasTransfer e := by
  refine ⟨fun advances k state row event stored without => ?_,
    fun has k state row event stored => ?_⟩
  · have performed : l.perform e = typeError ("int() argument must be a string, a bytes-like " ++
        "object or a real number, not 'NoneType'") := by
      rw [perform, event]
      dsimp only
      rw [updateProductDownlinkTransfer_of_unnamed stored without]
      rfl
    have answered := (advances k state row event stored).1
    rw [step, performed] at answered
    cases answered
  · obtain ⟨t, transfer⟩ := Option.ne_none_iff_exists'.mp (has k state row event stored)
    obtain ⟨l', wrote⟩ := exists_updateProductDownlinkTransfer none state stored
      (created k row stored) (by rw [transfer, Option.some_or]) (fun _ same => nomatch same)
      fun k' r found craft claims => eq_of_sameTransfer found stored
        ⟨craft, claims ▸ Option.some_ne_none t, claims.trans transfer.symm⟩
    have performed : l.perform e = .ok (.updated true, l') := by
      rw [perform, event]
      dsimp only
      rw [wrote, ok_bind]
    rcases updateProductDownlinkTransfer_cases wrote with ⟨absent, -⟩ | ⟨row', t', found, -, merged⟩
    · rw [absent] at stored
      cases stored
    cases Option.some.inj (stored.symm.trans found)
    rw [step_of_perform performed]
    exact ⟨rfl, _, (merged.row? k).trans (if_pos rfl), rank_le_nextState _ _ _⟩

theorem allSteps_advances_iff {now : ℕ} {events : List TimedTransferEvent}
    (created : l.CreatedBy now)
    (ordered : (now :: events.map TimedTransferEvent.nowUs).Pairwise (· ≤ ·)) :
    transferMachine.AllSteps Advances l events ↔ transferMachine.AllSteps HasTransfer l events := by
  induction events generalizing l now with
  | nil => exact Iff.rfl
  | cons e rest ih =>
      rw [List.map_cons, List.pairwise_cons] at ordered
      have order := ordered.1 e.nowUs List.mem_cons_self
      exact and_congr (advances_iff (created.mono order))
        (ih (created.step order (transferStep l e)) ordered.2)

end TransferLedger

open TransferLedger

/-! ## The expectation -/

/-- What is expected of a run that reports states of the transfer of a request. -/
structure DownlinkSettles (key : RequestKey) (file : FileIdentity) (l : TransferLedger)
    (events : List TimedTransferEvent) : Prop where
  /-- The row ends in the one highest state that was reported. -/
  settled : ∃ row, (transferMachine.exec l events).row? key = some row ∧
    row.transferId = some file.transferId ∧
      ∀ s, downlinkRanking.IsHighest s (reported key file events) ↔ s = row.transferState
  /-- An observation is attached to no request but the one whose receipt named its transfer. -/
  attached : ∀ past e rest, events = past ++ e :: rest → ∀ k f,
    let before := transferMachine.exec l past
    before.Attaches (before.step e).1 e (before.step e).2 k f →
      l.NamedBy (transferMachine.log l (past ++ [e])) k f.transferId ∧
        ∃ row, (before.step e).1.row? k = some row ∧ row.productRef = f.productRef
  /-- Nothing else but its own receipts changes the row of a request. -/
  changed : ∀ past e rest, events = past ++ e :: rest → ∀ k,
    let before := transferMachine.exec l past
    (before.step e).1.row? k ≠ before.row? k →
      (∃ product, e.event = .admission k product) ∨ (∃ t state, e.event = .receipt k t state) ∨
        ∃ f, before.Attaches (before.step e).1 e (before.step e).2 k f
  /-- A receipt that omits its transfer advances its row. -/
  advances : transferMachine.AllSteps Advances l events

/-- **A run settles as expected** if and only if no receipt omits the transfer of a row that has
none. -/
theorem settles_iff {l : TransferLedger} {key : RequestKey} {file : FileIdentity} {start : ℕ}
    {events : List TimedTransferEvent} (awaiting : l.Awaiting key file start)
    (ordered : (start :: events.map TimedTransferEvent.nowUs).Pairwise (· ≤ ·))
    (lifetime : ∀ e ∈ events, (ownState key file e.event).isSome = true →
      e.nowUs < start + pendingFileObservationTtl)
    (sole : transferMachine.AllSteps (Sole key file) l events)
    (named : ∃ e ∈ events, Names key file.transferId e.event)
    (oneTerminal : downlinkRanking.AtMostOneTop (reported key file events)) :
    DownlinkSettles key file l events ↔ transferMachine.AllSteps HasTransfer l events := by
  refine ⟨fun settles => (allSteps_advances_iff awaiting.created ordered).mp settles.advances,
    fun has => ⟨?_, fun past e rest _ k f attaches => ?_, fun past e rest _ k changed => ?_,
      (allSteps_advances_iff awaiting.created ordered).mpr has⟩⟩
  · obtain ⟨row, stored, transfer, highest⟩ :=
      settled_of_named awaiting ordered lifetime sole has named
    exact ⟨row, stored, transfer, fun s =>
      ⟨fun other => Ranking.IsHighest.unique oneTerminal other highest, fun same => same ▸ highest⟩⟩
  · obtain ⟨row, stored, product, transfer⟩ := row_of_attaches (transferStep _ e) attaches
    have all := l.allNamed_exec (past ++ [e])
    rw [Machine.exec_concat] at all
    exact ⟨all k row f.transferId stored transfer, row, stored, product⟩
  · exact attaches_of_changed (transferStep _ e) changed

/-! ## A run -/

/-- A request and the file it downlinks. -/
def downlinkKey : RequestKey := ⟨1, 1⟩

@[inherit_doc downlinkKey]
def downlinkFile : FileIdentity := ⟨⟨5, 1, 9⟩, 7⟩

/-- The ledger that has just admitted the request. -/
def admittedDownlink : TransferLedger where
  downlinks := Table.empty.append downlinkKey ⟨downlinkFile.productRef, none, .admitted, 0, 0⟩ rfl
  unique := TransferLedger.empty.unique_append rfl rfl
  pending := .empty
  audit := []

theorem row?_admittedDownlink {k : RequestKey} {r : CorrelationRow}
    (stored : admittedDownlink.row? k = some r) :
    r = ⟨downlinkFile.productRef, none, .admitted, 0, 0⟩ := by
  have found := Table.find?_append (Table.empty : Table RequestKey CorrelationRow) downlinkKey k
    ⟨downlinkFile.productRef, none, .admitted, 0, 0⟩ rfl
  have here : admittedDownlink.row? k = _ := found
  rw [here] at stored
  split at stored
  · exact (Option.some.inj stored).symm
  · cases stored

theorem awaiting_admittedDownlink : admittedDownlink.Awaiting downlinkKey downlinkFile 0 where
  row := ⟨_, rfl, rfl, rfl, rfl⟩
  unclaimed k r stored _ := by
    rw [row?_admittedDownlink stored]
    exact Option.some_ne_none _ |>.symm
  unobserved := rfl
  created k r stored := by rw [row?_admittedDownlink stored]

/-- The file is verified before the receipt of its dispatch arrives. -/
theorem settles_iff_sample : DownlinkSettles downlinkKey downlinkFile admittedDownlink
    [⟨1, .observation downlinkFile.productRef 7 .verified⟩,
      ⟨2, .receipt downlinkKey (some 7) .dispatched⟩,
      ⟨3, .receipt downlinkKey none .receiving⟩] := by
  refine (settles_iff awaiting_admittedDownlink (by decide) (by decide) ?_ ?_ ?_).mpr ?_
  · refine ⟨fun k t state event => (nomatch event), fun k t state event => ?_,
      fun k t state event => (nomatch event), trivial⟩
    cases event
    exact ⟨fun _ => rfl, fun _ _ _ _ => rfl⟩
  · exact ⟨_, List.mem_cons_of_mem _ List.mem_cons_self, .dispatched, rfl⟩
  · unfold Ranking.AtMostOneTop
    decide
  · refine ⟨fun k state row event => (nomatch event), fun k state row event => (nomatch event),
      fun k state row event stored => ?_, trivial⟩
    cases event
    cases stored
    exact Option.some_ne_none 7

/-- A receipt that omits the transfer of a row without one raises. -/
theorem not_settles_of_omitted :
    (admittedDownlink.step ⟨1, .receipt downlinkKey none .dispatched⟩).2 =
        typeError ("int() argument must be a string, a bytes-like object or a real number, " ++
          "not 'NoneType'") ∧
      ¬ DownlinkSettles downlinkKey downlinkFile admittedDownlink
        [⟨1, .receipt downlinkKey none .dispatched⟩,
          ⟨2, .receipt downlinkKey (some 7) .dispatched⟩] := by
  refine ⟨rfl, fun settles => ?_⟩
  have answered := (settles.advances.1 downlinkKey .dispatched _ rfl rfl).1
  cases answered

end CubeNano

import CubeNano.Flight.JobLifecycle

/-!
# Jobs and products over a run

Every command, callback and restart of the payload is a sequence of job effects, provided the
worker client reports a decision on a job only after it reported its start.

## Main definitions

* `PayloadInput.reports`, `ReportedByClient`
* `CompletedBy`, `JobClaims`

## Main statements

* `jobEffects_of_step`
* `job_claims` — the pairing of jobs and products in every run
-/

namespace CubeNano

open Effect

/-- The part of the journal the pairing is about. -/
def jobsView (j : SatelliteJournal) : Table RequestKey JobRow × Table ProductRef ProductRow :=
  (j.jobs, j.products)

theorem recordFrame_jobsView : RecordFrame jobsView := ⟨fun _ _ => rfl, fun _ _ => rfl⟩

theorem transferFrame_jobsView : TransferFrame jobsView :=
  ⟨fun _ _ => rfl, fun _ _ => rfl, fun _ _ => rfl⟩

variable {rs : List WorkerResult} {j₀ : SatelliteJournal}

/-! ## Transactions -/

/-- A method that leaves both tables alone adds no effect. -/
theorem keeps_of_unchanged {α : Type} {x : JournalProgram α} (unchanged : Unchanged jobsView x) :
    Keeps (JobEffects rs j₀) x := by
  intro j reached
  have this := unchanged (jobsView j) j rfl
  cases result : x j with
  | ok value j' =>
      rw [result] at this
      exact reached.tail (.same (congrArg Prod.fst this) (congrArg Prod.snd this))
  | error failure j' =>
      rw [result] at this
      exact reached.tail (.same (congrArg Prod.fst this) (congrArg Prod.snd this))

/-- A transaction that is one effect. -/
theorem keeps_of_effect {α : Type} {f : SatelliteJournal → Raises (α × SatelliteJournal)}
    (paired : JobsPaired j₀)
    (effect : ∀ j a j', f j = .ok (a, j') → JobsPaired j → JobEffect rs j j') :
    Keeps (JobEffects rs j₀) (transact f) :=
  keeps_transact fun j a j' done reached =>
    reached.tail (effect j a j' done (reached.paired paired))

theorem exists_of_jobIn {j : SatelliteJournal} {key : RequestKey} {expected : List JobState}
    (isIn : j.jobIn key expected = true) :
    ∃ row, j.jobs.find? key = some row ∧ row.state ∈ expected := by
  unfold SatelliteJournal.jobIn SatelliteJournal.getJob at isIn
  cases found : j.jobs.find? key with
  | none =>
      rw [found] at isIn
      cases isIn
  | some row =>
      rw [found] at isIn
      exact ⟨row, rfl, List.contains_iff_mem.mp isIn⟩

/-- The jobs after a transition. -/
theorem find?_updateJob {j : SatelliteJournal} {key : RequestKey} {row : JobRow}
    {state : JobState} {result : Option PyDict} {errorCode : Option String}
    (found : j.jobs.find? key = some row) (k : RequestKey) :
    (j.updateJob key state result errorCode).jobs.find? k =
      if k = key then some (SatelliteJournal.movedJob state result errorCode row)
      else j.jobs.find? k := by
  unfold SatelliteJournal.updateJob
  rw [Table.find?_update]
  split
  · rename_i same
    rw [same, found]
    rfl
  · rfl

/-- The products after a staging product was changed. -/
theorem find?_updateStaging {j : SatelliteJournal} {ref : ProductRef} {row : ProductRow}
    {f : ProductRow → ProductRow} (found : j.products.find? ref = some row)
    (staging : row.state = .staging) (r : ProductRef) :
    (j.updateStaging ref f).products.find? r =
      if r = ref then some (f row) else j.products.find? r := by
  unfold SatelliteJournal.updateStaging
  rw [Table.find?_update]
  split
  · rename_i same
    rw [same, found, Option.map_some, if_pos staging]
  · rfl

/-- A transition to an open state. -/
theorem effect_of_move {j j' : SatelliteJournal} {key : RequestKey} {expected : List JobState}
    {state : JobState} {result : Option PyDict} {errorCode : Option String} {changed : Bool}
    (opens : ∀ s ∈ expected, s.terminal = false)
    (target : (∀ s ∈ expected, s = .queued) ∧ state = .running ∨ state = .cancelRequested)
    (done : j.transitionJob key expected state result errorCode = .ok (changed, j')) :
    JobEffect rs j j' := by
  obtain ⟨isIn, rfl⟩ := SatelliteJournal.transitionJob_eq_ok done
  cases changed with
  | false => exact .same rfl rfl
  | true =>
      obtain ⟨row, found, mem⟩ := exists_of_jobIn isIn.symm
      refine .moved key row (SatelliteJournal.movedJob state result errorCode row) found
        (opens _ mem) ?_ rfl (find?_updateJob found) rfl
      rcases target with ⟨queued, running⟩ | noted
      · exact .inl ⟨queued _ mem, running⟩
      · exact .inr noted

/-- Failing the product of the job ends what began with its transition. -/
def HalfEnded (rs : List WorkerResult) (j₀ : SatelliteJournal) (key : RequestKey)
    (j : SatelliteJournal) : Prop :=
  JobEffects rs j₀ (j.failProductForJob key).2

/-- The job ends with its product when the transition and the failure of the product are
taken together. -/
theorem effect_of_end {j : SatelliteJournal} (paired : JobsPaired j) {key : RequestKey}
    {row : JobRow} (found : j.jobs.find? key = some row) (opened : row.state.terminal = false)
    {state : JobState} {result : Option PyDict} {errorCode : Option String}
    (terminal : state.terminal = true)
    (rejected : state = .succeeded → Reports rs key .rejected fun _ => True) :
    JobEffect rs j ((j.updateJob key state result errorCode).failProductForJob key).2 := by
  have found' : (j.updateJob key state result errorCode).getJob key =
      some (SatelliteJournal.movedJob state result errorCode row) :=
    (find?_updateJob found key).trans (if_pos rfl)
  rw [SatelliteJournal.failProductForJob_of_job found']
  obtain ⟨product, staged, origin, staging, -⟩ := paired.row found
  have isStaging := staging.mpr opened
  exact .ended key row (SatelliteJournal.movedJob state result errorCode row) product
    { product with state := .failed } found opened terminal rfl staged isStaging rfl
    (.failed rfl rejected) (find?_updateJob found)
    (find?_updateStaging (j := j.updateJob key state result errorCode) staged isStaging)

/-- The product of a job that has ended is not failed again. -/
theorem effect_of_settled {j : SatelliteJournal} (paired : JobsPaired j) {key : RequestKey}
    (settled : ∀ row, j.jobs.find? key = some row → row.state.terminal = true) :
    JobEffect rs j (j.failProductForJob key).2 := by
  cases found : j.getJob key with
  | none =>
      rw [SatelliteJournal.failProductForJob_of_none found]
      exact .same rfl rfl
  | some row =>
      rw [SatelliteJournal.failProductForJob_of_job found]
      obtain ⟨product, staged, origin, staging, -⟩ := paired.row found
      refine .same rfl ?_
      change (j.products.update row.productRef fun product =>
        if product.state = .staging then { product with state := .failed } else product) =
          j.products
      refine Table.update_of_fixed fun product here => if_neg fun isStaging => ?_
      rw [staged] at here
      cases here
      have opened := staging.mp isStaging
      rw [settled row found] at opened
      cases opened

/-! ## Ends of a job -/

section Ends

variable (paired : JobsPaired j₀)

include paired

/-- A transition to the end of a job, where something looks at whether it took place. -/
theorem triple_end {key : RequestKey} {expected : List JobState} {state : JobState}
    {result : Option PyDict} {errorCode : Option String}
    (opens : ∀ s ∈ expected, s.terminal = false) (terminal : state.terminal = true)
    (decided : state ≠ .succeeded) :
    Triple (JobEffects rs j₀)
      (transact fun j => j.transitionJob key expected state result errorCode)
      (fun changed j => if changed then HalfEnded rs j₀ key j else JobEffects rs j₀ j)
      fun _ => JobEffects rs j₀ := by
  intro j reached
  refine Triple.weaken (triple_transact (j := j)) (fun _ h => h) (fun changed j' done => ?_)
    (fun _ _ same => same ▸ reached) j rfl
  obtain ⟨isIn, rfl⟩ := SatelliteJournal.transitionJob_eq_ok done
  cases changed with
  | false => exact reached
  | true =>
      obtain ⟨row, found, mem⟩ := exists_of_jobIn isIn.symm
      exact reached.tail (effect_of_end (reached.paired paired) found (opens _ mem) terminal
        fun succeeded => absurd succeeded decided)

/-- A transition to the end of a job, where nothing looks at whether it took place: every job
that is still open is in an expected state. -/
theorem triple_end_of_expected {key : RequestKey} {expected : List JobState} {state : JobState}
    {result : Option PyDict} {errorCode : Option String} {P : SatelliteJournal → Prop}
    (reaches : ∀ j, P j → JobEffects rs j₀ j)
    (covered : ∀ j, P j → ∀ row, j.jobs.find? key = some row →
      row.state ∈ expected ∨ row.state.terminal = true)
    (opens : ∀ s ∈ expected, s.terminal = false) (terminal : state.terminal = true)
    (rejected : state = .succeeded → Reports rs key .rejected fun _ => True) :
    Triple P (transact fun j => j.transitionJob key expected state result errorCode)
      (fun _ => HalfEnded rs j₀ key) fun _ => JobEffects rs j₀ := by
  intro j holds
  have reached := reaches j holds
  refine Triple.weaken (triple_transact (j := j)) (fun _ h => h) (fun changed j' done => ?_)
    (fun _ _ same => same ▸ reached) j rfl
  obtain ⟨isIn, rfl⟩ := SatelliteJournal.transitionJob_eq_ok done
  cases changed with
  | false =>
      refine reached.tail (effect_of_settled (reached.paired paired) fun row found => ?_)
      rcases covered j holds row found with mem | ended
      · have isIn' : j.jobIn key expected = true := by
          unfold SatelliteJournal.jobIn SatelliteJournal.getJob
          rw [found]
          exact List.contains_iff_mem.mpr mem
        rw [← isIn] at isIn'
        cases isIn'
      · exact ended
  | true =>
      obtain ⟨row, found, mem⟩ := exists_of_jobIn isIn.symm
      exact reached.tail (effect_of_end (reached.paired paired) found (opens _ mem) terminal
        rejected)

end Ends

/-- The failure of the product completes the end of its job. -/
theorem triple_failProduct {key : RequestKey} {E : PyException → SatelliteJournal → Prop} :
    Triple (HalfEnded rs j₀ key) (transact fun j => .ok (j.failProductForJob key))
      (fun _ => JobEffects rs j₀) E := fun _ half => half

theorem triple_abandonProduct {key : RequestKey} {files : ProductFiles} :
    Triple (HalfEnded rs j₀ key) (abandonProduct files key) (fun _ => JobEffects rs j₀)
      fun _ => JobEffects rs j₀ :=
  Triple.bind triple_failProduct fun _ => Keeps.bind (keeps_liftRaises _ _) fun _ =>
    keeps_liftRaises _ _

theorem triple_afterJobEnded {key : RequestKey} {files : ProductFiles} {event : String}
    {body : PyDict} (changed : Bool) :
    Triple (fun j => if changed then HalfEnded rs j₀ key j else JobEffects rs j₀ j)
      (afterJobEnded files key event body changed) (fun _ => JobEffects rs j₀)
      fun _ => JobEffects rs j₀ := by
  cases changed with
  | false => exact Triple.pure fun _ reached => reached
  | true => exact Triple.bind triple_abandonProduct fun _ =>
      keeps_of_unchanged (unchanged_appendEvent recordFrame_jobsView _ _ _)

theorem openJobStates_open : ∀ s ∈ openJobStates, s.terminal = false := by decide

/-! ## Callbacks -/

section Callbacks

variable (paired : JobsPaired j₀)

include paired

theorem keeps_handleWorkerStarted (key : RequestKey) (deadline : ℕ) :
    Keeps (JobEffects rs j₀) (handleWorkerStarted key deadline) := by
  refine Keeps.bind (keeps_of_effect paired fun j changed j' done _ =>
    effect_of_move (by decide) (.inl ⟨by simp, rfl⟩) done) fun changed => ?_
  split
  · exact keeps_of_unchanged (unchanged_appendEvent recordFrame_jobsView _ _ _)
  · exact Keeps.pure _

/-- The publication of a product with the success of its job. -/
theorem effect_of_complete {j j' : SatelliteJournal} {r : WorkerResult} {row : JobRow}
    {summary : PyDict} {completed : Bool} (effects : JobEffects rs j₀ j) (mem : r ∈ rs)
    (state : r.state = .succeeded) (found : j.jobs.find? r.requestKey = some row)
    (opened : row.state.terminal = false)
    (read : resultProduct (orDefault r.result []) = .ok (summary, row.productRef))
    (done : j.completeJobWithProduct r.requestKey [.running, .cancelRequested]
      (orDefault r.result []) row.productRef summary = .ok (completed, j')) :
    JobEffect rs j j' := by
  obtain ⟨-, ⟨-, rfl⟩ | ⟨columns, -, -, rfl⟩⟩ :=
    SatelliteJournal.completeJobWithProduct_eq_ok done
  · exact .same rfl rfl
  obtain ⟨product, staged, origin, staging, -⟩ := (effects.paired paired).row found
  have isStaging := staging.mpr opened
  exact .ended r.requestKey row
    (SatelliteJournal.movedJob .succeeded (some (orDefault r.result [])) none row) product
    { product with state := .ready, summary := some columns } found opened rfl rfl staged
    isStaging rfl (.ready rfl rfl ⟨r, mem, rfl, state, summary, read⟩) (find?_updateJob found)
    (find?_updateStaging (j := j.updateJob _ _ _ _) staged isStaging)

/-- A `SUCCEEDED` result. -/
theorem triple_completeJob (files : ProductFiles) {j : SatelliteJournal} {r : WorkerResult}
    {row : JobRow} (effects : JobEffects rs j₀ j) (mem : r ∈ rs) (state : r.state = .succeeded)
    (found : j.jobs.find? r.requestKey = some row) (opened : row.state.terminal = false) :
    Triple (fun t => t = j) (completeJob files r row.productRef) (fun _ => JobEffects rs j₀)
      fun _ => JobEffects rs j₀ := by
  have stays : ∀ t, t = j → JobEffects rs j₀ t := fun t same => same ▸ effects
  refine Triple.bind (Triple.weaken (triple_liftRaises _) (fun _ h => h) (fun _ _ h => h)
    fun _ => stays) fun product => Triple.ofFact fun read => ?_
  obtain ⟨summary, productRef⟩ := product
  dsimp only
  split
  · exact Triple.weaken (Keeps.bind (keeps_liftRaises _ _) fun _ => keeps_liftRaises _ _) stays
      (fun _ _ h => h) fun _ _ h => h
  · rename_i same
    rw [not_not] at same
    subst same
    refine Triple.bind (R := fun _ => JobEffects rs j₀) (Triple.weaken triple_transact
      (fun _ h => h) (fun completed t done => effects.tail
        (effect_of_complete paired effects mem state found opened read done)) fun _ => stays)
      fun completed => ?_
    unfold afterPublication
    split
    · exact keeps_of_unchanged (unchanged_appendEvent recordFrame_jobsView _ _ _)
    · exact keeps_liftRaises _ _

/-- A `REJECTED` result. -/
theorem triple_rejectJob (files : ProductFiles) {j : SatelliteJournal} {r : WorkerResult}
    {row : JobRow} (effects : JobEffects rs j₀ j) (mem : r ∈ rs) (state : r.state = .rejected)
    (found : j.jobs.find? r.requestKey = some row) (started : row.state ≠ .queued) :
    Triple (fun t => t = j) (rejectJob files r) (fun _ => JobEffects rs j₀)
      fun _ => JobEffects rs j₀ := by
  refine Triple.bind (triple_end_of_expected paired (fun t same => same ▸ effects)
    (fun t same other here => ?_) (by decide) rfl fun _ => ⟨r, mem, rfl, state, trivial⟩)
    fun changed => Triple.bind triple_failProduct fun ref =>
      Keeps.bind (keeps_liftRaises _ _) fun _ =>
        keeps_of_unchanged (unchanged_appendEvent recordFrame_jobsView _ _ _)
  rw [same, found] at here
  cases here
  cases now : row.state with
  | queued => exact absurd now started
  | running | cancelRequested => exact .inl (by decide)
  | succeeded | failed | timeout | canceled => exact .inr rfl

/-- A `FAILED`, `TIMEOUT` or `CANCELED` result. -/
theorem keeps_endJob (files : ProductFiles) (r : WorkerResult) {target : JobState}
    (terminal : target.terminal = true) (decided : target ≠ .succeeded) :
    Keeps (JobEffects rs j₀) (endJob files r target) := by
  have opens : ∀ s ∈ expectedStates target, s.terminal = false := by
    unfold expectedStates
    split
    · decide
    · exact openJobStates_open
  exact Triple.bind (triple_end paired opens terminal decided) triple_afterJobEnded

/-- **A result has an effect on its job.** -/
theorem keeps_handleWorkerResult (files : ProductFiles) {r : WorkerResult} (mem : r ∈ rs)
    (started : r.state = .rejected → ∃ row, j₀.jobs.find? r.requestKey = some row ∧
      row.state ≠ .queued) :
    Keeps (JobEffects rs j₀) (handleWorkerResult files r) := by
  refine Keeps.tryCatch (Triple.withState fun j effects => ?_) fun failure =>
    Triple.withState fun j effects => ?_
  · have stays : ∀ t, t = j → JobEffects rs j₀ t := fun t same => same ▸ effects
    split
    · exact Triple.weaken (keeps_liftRaises _ _) stays (fun _ _ h => h) fun _ _ h => h
    rename_i row found
    split
    · exact Triple.weaken (keeps_liftRaises _ _) stays (fun _ _ h => h) fun _ _ h => h
    rename_i opened
    rw [Bool.not_eq_true] at opened
    have ends {target : JobState} (terminal : target.terminal = true)
        (decided : target ≠ .succeeded) : Triple (fun t => t = j) (endJob files r target)
          (fun _ => JobEffects rs j₀) fun _ => JobEffects rs j₀ :=
      Triple.weaken (keeps_endJob paired files r terminal decided) stays (fun _ _ h => h)
        fun _ _ h => h
    unfold settleJob
    cases state : r.state with
    | succeeded => exact triple_completeJob paired files effects mem state found opened
    | rejected =>
        obtain ⟨now, here, left⟩ := effects.not_queued (started state)
        rw [show j.jobs.find? r.requestKey = some row from found] at here
        cases here
        exact triple_rejectJob paired files effects mem state found left
    | failed => exact ends rfl (by decide)
    | canceled => exact ends rfl (by decide)
    | timeout => exact ends rfl (by decide)
  · have stays : ∀ t, t = j → JobEffects rs j₀ t := fun t same => same ▸ effects
    refine Triple.weaken (?_ : Keeps (JobEffects rs j₀) _) stays (fun _ _ h => h) fun _ _ h => h
    split
    · exact Keeps.pure _
    split
    · exact Keeps.pure _
    · exact Triple.bind (triple_end paired openJobStates_open rfl (by decide))
        triple_afterJobEnded

end Callbacks

/-! ## Commands -/

/-- What the worker client may report during a command. -/
def ReportsStarted (rs : List WorkerResult) (j : SatelliteJournal) : Prop :=
  ∀ r ∈ rs, r.state = .rejected →
    ∃ row, j.jobs.find? r.requestKey = some row ∧ row.state ≠ .queued

/-- The results delivered during an operation. -/
def PayloadInput.reports : PayloadInput → List WorkerResult
  | .command _ answers => (answers.delivered.map WorkerReport.result).toList
  | .result report => [report.result]
  | _ => []

theorem ReportsStarted.later {j : SatelliteJournal} (started : ReportsStarted rs j₀)
    (effects : JobEffects rs j₀ j) : ReportsStarted rs j := fun r mem state =>
  effects.not_queued (started r mem state)

section Commands

variable (paired : JobsPaired j₀) {answers : WorkerAnswers}
  (reports : ∀ report ∈ answers.delivered, report.result ∈ rs)
  (started : ReportsStarted rs j₀)

include paired reports started

/-- The client's part in a cancellation. -/
theorem keeps_deliverResult : Keeps (JobEffects rs j₀) (deliverResult answers.delivered) := by
  unfold deliverResult
  split
  · exact Keeps.pure _
  · rename_i report delivered
    have mem := reports report delivered
    exact Keeps.tryCatch (keeps_handleWorkerResult paired report.files mem (started _ mem))
      fun _ => Keeps.pure _

/-- A delivery does not take back a cancellation. -/
theorem keeps_deliverResult_of_noted (target : RequestKey) :
    Keeps (fun j => JobEffects rs j₀ j ∧ CancelNoted target j)
      (deliverResult answers.delivered) := by
  rintro j ⟨effects, noted⟩
  have delivers := keeps_deliverResult (effects.paired paired) reports (started.later effects) j
    Relation.ReflTransGen.refl
  cases result : deliverResult answers.delivered j with
  | ok value j' =>
      rw [result] at delivers
      exact ⟨effects.trans delivers, JobEffects.cancelNoted delivers noted⟩
  | error failure j' =>
      rw [result] at delivers
      exact ⟨effects.trans delivers, JobEffects.cancelNoted delivers noted⟩

omit paired reports started in
/-- A cancellation is noted for a job that is open. -/
theorem triple_noteCancel {j : SatelliteJournal} {target : RequestKey} {row : JobRow}
    (effects : JobEffects rs j₀ j) (found : j.jobs.find? target = some row)
    (opened : row.state.terminal = false) :
    Triple (fun t => t = j)
      (transact fun j => j.transitionJob target [.queued, .running] .cancelRequested none
        (some "CANCEL_REQUESTED"))
      (fun _ t => JobEffects rs j₀ t ∧ CancelNoted target t) fun _ => JobEffects rs j₀ := by
  refine Triple.weaken triple_transact (fun _ h => h) (fun changed t done => ?_)
    fun _ t same => same ▸ effects
  refine ⟨effects.tail (effect_of_move (by decide) (.inr rfl) done), ?_⟩
  obtain ⟨isIn, rfl⟩ := SatelliteJournal.transitionJob_eq_ok done
  cases changed with
  | true => exact ⟨_, (find?_updateJob found target).trans (if_pos rfl), .inl rfl⟩
  | false =>
      refine ⟨row, found, .inl ?_⟩
      unfold SatelliteJournal.jobIn SatelliteJournal.getJob at isIn
      rw [found] at isIn
      cases now : row.state with
      | cancelRequested => rfl
      | queued | running =>
          rw [Option.any_some, now] at isIn
          cases isIn
      | succeeded | failed | timeout | canceled =>
          rw [now] at opened
          cases opened

omit reports started in
/-- The end of a job whose cancellation is noted. -/
theorem triple_endNoted {target : RequestKey} {state : JobState} {result : Option PyDict}
    {errorCode : Option String} (terminal : state.terminal = true) (decided : state ≠ .succeeded)
    (outcome : String) :
    Triple (fun j => JobEffects rs j₀ j ∧ CancelNoted target j)
      (do
        let _ ← transact fun j => j.transitionJob target [.cancelRequested] state result errorCode
        let _ ← transact fun j => .ok (j.failProductForJob target)
        pure outcome)
      (fun _ => JobEffects rs j₀) fun _ => JobEffects rs j₀ := by
  refine Triple.bind (triple_end_of_expected paired (fun j both => both.1)
    (fun j both row here => ?_) (by decide) terminal fun succeeded => absurd succeeded decided)
    fun changed => Triple.bind triple_failProduct fun ref => Keeps.pure _
  obtain ⟨noted, found, state⟩ := both.2
  rw [here] at found
  cases found
  exact state.imp (fun requested => by rw [requested]; simp) id

/-- The cancellation of an open job. -/
theorem triple_cancelOpenJob {j : SatelliteJournal} {target : RequestKey} {row : JobRow}
    (effects : JobEffects rs j₀ j) (found : j.jobs.find? target = some row)
    (opened : row.state.terminal = false) :
    Triple (fun t => t = j) (PayloadDeployment.cancelOpenJob answers.port target)
      (fun _ => JobEffects rs j₀) fun _ => JobEffects rs j₀ := by
  refine Triple.bind (triple_noteCancel effects found opened) fun changed => ?_
  unfold WorkerAnswers.port
  split
  · rename_i client attached
    split at attached
    · cases attached
      refine Triple.tryCatch (R := fun _ t => JobEffects rs j₀ t ∧ CancelNoted target t)
        (Triple.bind (keeps_deliverResult_of_noted paired reports started target) fun _ =>
          Triple.weaken (keeps_liftRaises _ _) (fun _ h => h) (fun _ _ h => h.1) fun _ _ h => h)
        fun failure => ?_
      unfold PayloadDeployment.failCancel
      split
      · exact Triple.pure fun _ both => both.1
      split
      · exact triple_endNoted paired rfl (by decide) _
      · exact Triple.raise fun _ both => both.1
    · cases attached
  · exact triple_endNoted paired rfl (by decide) _

theorem keeps_jobCancel (command : Command) (digest : Text) :
    Keeps (JobEffects rs j₀) (PayloadDeployment.jobCancel answers.port command digest) := by
  refine Keeps.bind (keeps_liftRaises _ _) fun target => Keeps.bind ?_ fun result =>
    keeps_of_unchanged (unchanged_recordExecuted recordFrame_jobsView command digest result)
  refine Triple.withState fun j effects => ?_
  have stays : ∀ t, t = j → JobEffects rs j₀ t := fun t same => same ▸ effects
  split
  · exact Triple.pure stays
  rename_i row found
  split
  · exact Triple.pure stays
  rename_i opened
  rw [Bool.not_eq_true] at opened
  exact Triple.bind (triple_cancelOpenJob paired reports started effects found opened)
    fun outcome => Keeps.getBind fun t => Keeps.pure _

omit paired reports started in
/-- A submission touches nothing of the journal. -/
theorem keeps_trySubmit {I : SatelliteJournal → Prop} (key : RequestKey) (snapshot : PyDict) :
    Keeps I (PayloadDeployment.trySubmit answers.port key snapshot) := by
  refine Keeps.tryCatch (Keeps.bind ?_ fun _ => Keeps.pure _) fun failure => ?_
  · unfold PayloadDeployment.submitJob WorkerAnswers.port
    split
    · exact keeps_liftRaises _ _
    · rename_i client attached
      split at attached
      · cases attached
        exact keeps_liftRaises _ _
      · cases attached
  · split
    · exact Keeps.pure _
    · exact Keeps.raise failure

omit reports started in
theorem triple_rejectSubmission (command : Command) (failure : PyException) :
    Triple (fun j => JobEffects rs j₀ j ∧
        ∃ row, j.jobs.find? command.requestKey = some row ∧ row.state = .queued)
      (PayloadDeployment.rejectSubmission command failure) (fun _ => JobEffects rs j₀)
      fun _ => JobEffects rs j₀ := by
  refine Triple.bind (triple_end_of_expected paired (fun j both => both.1)
    (fun j both row here => ?_) (by decide) rfl (by simp)) fun changed =>
      Triple.bind triple_failProduct fun ref =>
        Keeps.bind (keeps_of_unchanged (Unchanged.commit fun j j' done => ?_)) fun _ =>
          Keeps.bind (keeps_of_unchanged (unchanged_appendEvent recordFrame_jobsView _ _ _))
            fun _ => Keeps.pure _
  · obtain ⟨queued, found, state⟩ := both.2
    rw [here] at found
    cases found
    exact .inl (by rw [state]; simp)
  · rw [SatelliteJournal.updateCommandResult_eq_ok done]
    rfl

omit reports started in
theorem keeps_admitAnalysis (p : PayloadDeployment) (command : Command) (digest : Text) :
    Keeps (JobEffects rs j₀) (p.admitAnalysis answers.port command digest) := by
  refine Keeps.getBind fun j => Keeps.bind (keeps_liftRaises _ _) fun plan =>
    Keeps.bind (keeps_of_effect paired fun t id t' done _ => ?_) fun productId =>
      Keeps.bind (keeps_liftRaises _ _) fun deadline =>
        Keeps.bind (keeps_liftRaises _ _) fun snapshot => ?_
  · obtain ⟨-, -, rfl⟩ := SatelliteJournal.allocateProductId_eq_ok done
    exact .same rfl rfl
  refine Triple.bind (R := fun _ t => JobEffects rs j₀ t ∧
    ∃ row, t.jobs.find? command.requestKey = some row ∧ row.state = .queued)
    (fun t effects => ?_) fun result => Triple.bind (Triple.weaken (keeps_trySubmit _ _)
      (fun _ h => h) (fun _ _ h => h) fun _ _ h => h.1) fun refused => ?_
  · refine Triple.weaken (triple_transact (j := t)) (fun _ h => h) (fun result t' done => ?_)
      (fun _ _ same => same ▸ effects) t rfl
    obtain ⟨-, commands, products, jobs, -, product, job, rfl⟩ :=
      SatelliteJournal.admitAnalysis_eq_ok done
    exact ⟨effects.tail (.admitted command.requestKey _ job product), _,
      (Table.find?_insert job _).trans (if_pos rfl), rfl⟩
  · split
    · exact triple_rejectSubmission paired command _
    · refine Triple.weaken (?_ : Keeps (JobEffects rs j₀) _) (fun _ both => both.1)
        (fun _ _ h => h) fun _ _ h => h
      exact Keeps.bind
        (keeps_of_unchanged (unchanged_appendEvent recordFrame_jobsView _ _ _)) fun _ =>
          Keeps.bind (keeps_of_unchanged (unchanged_appendEvent recordFrame_jobsView _ _ _))
            fun _ => Keeps.pure _

omit paired reports started in
/-- A method of the payload that leaves both tables alone adds no effect. -/
theorem keeps_of_view {α : Type} {x : PayloadProgram α}
    (view : ∀ v, Keeps (fun s : PayloadState => jobsView s.journal = v) x) :
    Keeps (fun s : PayloadState => JobEffects rs j₀ s.journal) x := by
  intro s reached
  have this := view (jobsView s.journal) s rfl
  cases result : x s with
  | ok value s' =>
      rw [result] at this
      exact reached.tail (.same (congrArg Prod.fst this) (congrArg Prod.snd this))
  | error failure s' =>
      rw [result] at this
      exact reached.tail (.same (congrArg Prod.fst this) (congrArg Prod.snd this))

/-- **A command has an effect on jobs and products.** -/
theorem keeps_handleCommand_effects (p : PayloadDeployment) (command : Command) :
    Keeps (fun s : PayloadState => JobEffects rs j₀ s.journal)
      (p.handleCommand answers.port command) := by
  have executes (digest : Text) : Keeps (fun s : PayloadState => JobEffects rs j₀ s.journal)
      (p.executeCommand answers.port command digest) := by
    by_cases onJobs : command.opcode.onJobs = true
    · unfold PayloadDeployment.executeCommand
      cases opcode : command.opcode with
      | sceneAnalyze => exact keeps_onJournal (keeps_admitAnalysis paired p command digest)
      | roiRequest => exact keeps_onJournal (keeps_admitAnalysis paired p command digest)
      | jobCancel => exact keeps_onJournal (keeps_jobCancel paired reports started command digest)
      | cloudSetConfig | sceneRequestCatalog | sceneRequestPreview | jobGetStatus
      | productRequestDownlink | productCancelDownlink =>
          rw [opcode] at onJobs
          cases onJobs
    · exact keeps_of_view (keeps_executeCommand recordFrame_jobsView p answers digest
        (fun _ _ _ => rfl) (fun same => absurd same onJobs) fun _ => transferFrame_jobsView)
  refine Keeps.bind (keeps_liftRaises _ _) fun digest => ?_
  split
  · exact keeps_onJournal
      (keeps_of_unchanged (unchanged_recordRejection recordFrame_jobsView command digest _))
  refine Keeps.getBind fun s => ?_
  unfold PayloadDeployment.answerRequest
  split
  · exact Keeps.pure _
  · exact Keeps.pure _
  · exact Keeps.pure _
  · exact Keeps.tryCatch (executes digest) fun failure => keeps_onJournal
      (keeps_of_unchanged (unchanged_rejectFailure recordFrame_jobsView command digest failure))

end Commands

/-! ## Runs -/

/-- The worker client reports a decision on a job only after it reported its start. -/
def ReportedByClient (run : PayloadRun) (input : PayloadInput) : Prop :=
  ∀ r ∈ input.reports, r.state = .succeeded ∨ r.state = .rejected → r.requestKey ∈ run.started

instance (run : PayloadRun) (input : PayloadInput) : Decidable (ReportedByClient run input) :=
  inferInstanceAs (Decidable (∀ r ∈ input.reports,
    r.state = .succeeded ∨ r.state = .rejected → r.requestKey ∈ run.started))

/-- What holds of the payload during a run. -/
structure JobsSound (run : PayloadRun) : Prop where
  paired : JobsPaired run.state.journal
  started : ∀ key ∈ run.started,
    ∃ row, run.state.journal.jobs.find? key = some row ∧ row.state ≠ .queued

section Runs

variable (p : PayloadDeployment) (fileDownlink : FileDownlinkCoordinator)

theorem jobEffect_of_restart {j j' : SatelliteJournal} (restarted : j.restart = .ok j') :
    JobEffect rs j j' := by
  obtain ⟨booted, boot, restarted⟩ := bind_eq_ok_iff.mp restarted
  cases restarted
  unfold SatelliteJournal.incrementBootId at boot
  split at boot
  · cases boot
  · cases boot
    exact .reconciled rfl rfl

/-- **Every operation is a sequence of effects.** -/
theorem jobEffects_of_step {run : PayloadRun} (sound : JobsSound run) {input : PayloadInput}
    (client : ReportedByClient run input) :
    JobEffects input.reports run.state.journal
      ((payloadMachine p fileDownlink).step run input).1.state.journal := by
  have started : ReportsStarted input.reports run.state.journal := fun r mem rejected =>
    sound.started r.requestKey (client r mem (.inr rejected))
  cases input with
  | command command answers =>
      refine (keeps_handleCommand_effects sound.paired (fun report delivered => ?_) started p
        command).finalState Relation.ReflTransGen.refl
      change report.result ∈ (answers.delivered.map WorkerReport.result).toList
      rw [Option.mem_def.mp delivered]
      exact List.mem_singleton_self _
  | started key deadline =>
      exact (keeps_onJournal (keeps_handleWorkerStarted sound.paired key deadline)).finalState
        Relation.ReflTransGen.refl
  | result report =>
      have mem : report.result ∈ (PayloadInput.result report).reports := List.mem_singleton_self _
      exact (keeps_onJournal (keeps_handleWorkerResult sound.paired report.files mem
        (started _ mem))).finalState Relation.ReflTransGen.refl
  | restart =>
      change JobEffects _ run.state.journal (run.restart fileDownlink).state.journal
      unfold PayloadRun.restart
      split
      · exact Relation.ReflTransGen.refl
      · rename_i journal restarted
        exact Relation.ReflTransGen.single (jobEffect_of_restart restarted)

/-- A job that was reported started is not queued. -/
theorem not_queued_of_started {j : SatelliteJournal} {key : RequestKey} (deadline : ℕ)
    {row : JobRow} (found : j.jobs.find? key = some row) :
    ∃ row, (finalState (handleWorkerStarted key deadline j)).jobs.find? key = some row ∧
      row.state ≠ .queued := by
  let Left (view : Table RequestKey JobRow × Table ProductRef ProductRow) : Prop :=
    ∃ row, view.1.find? key = some row ∧ row.state ≠ .queued
  have changes : Triple (fun t => t = j)
      (transact fun j => j.transitionJob key [.queued] .running none none)
      (fun _ t => Left (jobsView t)) fun _ t => Left (jobsView t) := by
    rintro t rfl
    unfold transact SatelliteJournal.transitionJob
    by_cases isIn : t.jobIn key [.queued] = true
    · simp only [isIn, if_true]
      exact ⟨_, (find?_updateJob found key).trans (if_pos rfl), fun queued => by cases queued⟩
    · simp only [isIn]
      refine ⟨row, found, fun queued => isIn ?_⟩
      unfold SatelliteJournal.jobIn SatelliteJournal.getJob
      rw [found, Option.any_some, queued]
      rfl
  refine Triple.finalState (I := fun t => Left (jobsView t)) (P := fun t => t = j)
    (Triple.bind changes fun changed => ?_) rfl
  split
  · exact (unchanged_appendEvent recordFrame_jobsView _ _ _).keeps Left
  · exact Keeps.pure _

theorem jobsSound_firstBoot : JobsSound (firstBoot fileDownlink) where
  paired := ⟨nofun, nofun, nofun, nofun⟩
  started := nofun

/-- **Every operation keeps the pairing**, and what was started stays so. -/
theorem JobsSound.step {run : PayloadRun} (sound : JobsSound run) {input : PayloadInput}
    (client : ReportedByClient run input) :
    JobsSound ((payloadMachine p fileDownlink).step run input).1 := by
  have effects := jobEffects_of_step p fileDownlink sound client
  have before (key : RequestKey) (mem : key ∈ run.started) :=
    effects.not_queued (sound.started key mem)
  refine ⟨effects.paired sound.paired, ?_⟩
  cases input with
  | command command answers => exact before
  | result report => exact before
  | started key deadline =>
      intro key' mem
      change key' ∈ run.noteStarted key at mem
      unfold PayloadRun.noteStarted at mem
      split at mem
      · rename_i known
        rcases List.mem_cons.mp mem with rfl | old
        · obtain ⟨row, found⟩ := Option.isSome_iff_exists.mp known
          obtain ⟨row', found', left⟩ := not_queued_of_started deadline found
          refine ⟨row', ?_, left⟩
          change (finalState (onJournal (handleWorkerStarted key' deadline)
            run.state)).journal.jobs.find? key' = some row'
          unfold onJournal
          cases result : handleWorkerStarted key' deadline run.state.journal with
          | ok value j =>
              rw [result] at found'
              exact found'
          | error failure j =>
              rw [result] at found'
              exact found'
        · exact before key' old
      · exact before key' mem
  | restart =>
      change ∀ key ∈ (run.restart fileDownlink).started, _
      unfold PayloadRun.restart
      split
      · exact before
      · exact fun key mem => absurd mem List.not_mem_nil

/-! ## Claims -/

/-- The journal after a run from the first boot. -/
def journalOf (inputs : List PayloadInput) : SatelliteJournal :=
  journalAfter p fileDownlink (firstBoot fileDownlink) inputs

/-- A job succeeded when a `SUCCEEDED` result that carries the product was delivered for it. -/
def CompletedBy (inputs : List PayloadInput) (key : RequestKey) (ref : ProductRef) : Prop :=
  ∃ past input rest, inputs = past ++ input :: rest ∧
    Reports input.reports key .succeeded (Carries ref) ∧
    (∀ job, (journalOf p fileDownlink past).getJob key = some job →
      job.state.terminal = false) ∧
    ∃ job, (journalOf p fileDownlink (past ++ [input])).getJob key = some job ∧
      job.state = .succeeded

/-- The claims about jobs and products after a run. -/
structure JobClaims (inputs : List PayloadInput) : Prop where
  /-- Each job has a product. -/
  product : ∀ key job, (journalOf p fileDownlink inputs).getJob key = some job →
    ∃ row, (journalOf p fileDownlink inputs).getProduct job.productRef = some row ∧
      row.origin = key
  /-- Each product has a job. -/
  job : ∀ ref row, (journalOf p fileDownlink inputs).getProduct ref = some row →
    ∃ job, (journalOf p fileDownlink inputs).getJob row.origin = some job ∧ job.productRef = ref
  /-- No two jobs share a product. -/
  distinct : ∀ key key' job job', (journalOf p fileDownlink inputs).getJob key = some job →
    (journalOf p fileDownlink inputs).getJob key' = some job' →
    job.productRef = job'.productRef → key = key'
  /-- A product is ready exactly when a `SUCCEEDED` result that carries it completed its job. -/
  ready : ∀ key job row, (journalOf p fileDownlink inputs).getJob key = some job →
    (journalOf p fileDownlink inputs).getProduct job.productRef = some row →
    (row.state = .ready ↔
      job.state = .succeeded ∧ CompletedBy p fileDownlink inputs key job.productRef)
  /-- A product is staging exactly while its job is open. -/
  staging : ∀ key job row, (journalOf p fileDownlink inputs).getJob key = some job →
    (journalOf p fileDownlink inputs).getProduct job.productRef = some row →
    (row.state = .staging ↔
      job.state = .queued ∨ job.state = .running ∨ job.state = .cancelRequested)
  /-- A job that has ended never changes again. -/
  jobFinal : ∀ past later key job, inputs = past ++ later →
    (journalOf p fileDownlink past).getJob key = some job → job.state.terminal = true →
    (journalOf p fileDownlink inputs).getJob key = some job
  /-- A product that is ready or failed never changes again. -/
  productFinal : ∀ past later ref row, inputs = past ++ later →
    (journalOf p fileDownlink past).getProduct ref = some row →
    row.state = .ready ∨ row.state = .failed →
    (journalOf p fileDownlink inputs).getProduct ref = some row

variable {p fileDownlink}

/-- The invariant after each part of a run. -/
theorem jobsSound_of_run {inputs : List PayloadInput}
    (client : (payloadMachine p fileDownlink).AllSteps ReportedByClient (firstBoot fileDownlink)
      inputs) :
    JobsSound ((payloadMachine p fileDownlink).exec (firstBoot fileDownlink) inputs) :=
  (payloadMachine p fileDownlink).exec_invariant_of_allSteps JobsSound
    (jobsSound_firstBoot fileDownlink)
    (fun _ _ reported sound => sound.step p fileDownlink reported) inputs client

/-- The effects of the later part of a run. -/
theorem jobFinal_of_run {run : PayloadRun} (sound : JobsSound run) {later : List PayloadInput}
    (client : (payloadMachine p fileDownlink).AllSteps ReportedByClient run later) :
    (∀ key job, run.state.journal.getJob key = some job → job.state.terminal = true →
        (journalAfter p fileDownlink run later).getJob key = some job) ∧
      ∀ ref row, run.state.journal.getProduct ref = some row → row.state ≠ .staging →
        (journalAfter p fileDownlink run later).getProduct ref = some row := by
  induction later generalizing run with
  | nil => exact ⟨fun _ _ found _ => found, fun _ _ found _ => found⟩
  | cons input rest ih =>
      obtain ⟨reported, client⟩ := client
      have effects := jobEffects_of_step p fileDownlink sound reported
      have rest := ih (sound.step p fileDownlink reported) client
      exact ⟨fun key job found terminal =>
          rest.1 key job (effects.job_of_terminal found terminal) terminal,
        fun ref row found settled =>
          rest.2 ref row (effects.product_of_settled found settled) settled⟩

/-- Two results of one operation are the same. -/
theorem eq_of_mem_reports {input : PayloadInput} {r r' : WorkerResult} (mem : r ∈ input.reports)
    (mem' : r' ∈ input.reports) : r = r' := by
  cases input with
  | command command answers =>
      have here := Option.mem_toList.mp mem
      have here' := Option.mem_toList.mp mem'
      exact Option.some.inj (here.symm.trans here')
  | result report =>
      rw [List.mem_singleton.mp mem, List.mem_singleton.mp mem']
  | started key deadline => cases mem
  | restart => cases mem

/-- **A product is ready exactly when its job was completed.** -/
theorem ready_iff_completedBy {inputs : List PayloadInput}
    (client : (payloadMachine p fileDownlink).AllSteps ReportedByClient (firstBoot fileDownlink)
      inputs) {key : RequestKey} {job : JobRow} {row : ProductRow}
    (found : (journalOf p fileDownlink inputs).getJob key = some job)
    (here : (journalOf p fileDownlink inputs).getProduct job.productRef = some row) :
    row.state = .ready ↔
      job.state = .succeeded ∧ CompletedBy p fileDownlink inputs key job.productRef := by
  constructor
  · intro ready
    have succeeded := (jobsSound_of_run client).paired.ready key job row found here ready
    refine ⟨succeeded, ?_⟩
    induction inputs using List.reverseRecOn with
    | nil => cases found
    | append_singleton inputs input ih =>
        obtain ⟨client, reported, -⟩ := (Machine.allSteps_append _ _ _ inputs [input]).mp client
        have sound := jobsSound_of_run client
        have effects := jobEffects_of_step p fileDownlink sound reported
        have stepped : journalOf p fileDownlink (inputs ++ [input]) = _ :=
          journalAfter_concat p fileDownlink (firstBoot fileDownlink) inputs input
        by_cases opened : ∀ job, (journalOf p fileDownlink inputs).getJob key = some job →
          job.state.terminal = false
        · have found' := found
          rw [stepped] at found' here
          obtain ⟨product, here', outcome⟩ := effects.succeeded sound.paired opened found' succeeded
          cases here.symm.trans here'
          cases outcome with
          | failed failed =>
              rw [failed] at ready
              cases ready
          | ready _ _ reported => exact ⟨inputs, input, [], rfl, reported, opened, job, found,
              succeeded⟩
        · simp only [not_forall, Bool.not_eq_false] at opened
          obtain ⟨before, foundBefore, terminal⟩ := opened
          rw [stepped] at found here
          cases found.symm.trans (effects.job_of_terminal foundBefore terminal)
          obtain ⟨product, hereBefore, -, staging, -⟩ := sound.paired.row foundBefore
          have settled : product.state ≠ .staging := fun isStaging => by
            rw [staging.mp isStaging] at terminal
            cases terminal
          cases here.symm.trans (effects.product_of_settled hereBefore settled)
          obtain ⟨past, completing, rest, rfl, completed⟩ := ih client foundBefore hereBefore
          exact ⟨past, completing, rest ++ [input], by simp, completed⟩
  · rintro ⟨succeeded, past, input, rest, rfl, ⟨r, mem, ofKey, state, carries⟩, opened, job', found',
      succeeded'⟩
    obtain ⟨clientPast, reported, clientRest⟩ :=
      (Machine.allSteps_append _ _ _ past (input :: rest)).mp client
    have sound := jobsSound_of_run clientPast
    have effects := jobEffects_of_step p fileDownlink sound reported
    have stepped : journalOf p fileDownlink (past ++ [input]) = _ :=
      journalAfter_concat p fileDownlink (firstBoot fileDownlink) past input
    rw [stepped] at found'
    obtain ⟨product, here', outcome⟩ := effects.succeeded sound.paired opened found' succeeded'
    have final := jobFinal_of_run (sound.step p fileDownlink reported) clientRest
    have later : journalOf p fileDownlink (past ++ input :: rest) =
        journalAfter p fileDownlink ((payloadMachine p fileDownlink).step
          ((payloadMachine p fileDownlink).exec (firstBoot fileDownlink) past) input).1 rest :=
      journalAfter_append p fileDownlink (firstBoot fileDownlink) past (input :: rest)
    rw [later] at found here
    cases found.symm.trans (final.1 key job' found' (by rw [succeeded']; rfl))
    cases outcome with
    | failed failed rejected =>
        obtain ⟨r', mem', -, state', -⟩ := rejected succeeded'
        rw [eq_of_mem_reports mem mem', state'] at state
        cases state
    | ready ready =>
        cases here.symm.trans (final.2 _ product here' (by rw [ready]; simp))
        exact ready

/-- **Jobs and products in every run.**  They correspond one to one, a product is ready exactly
when its job was completed with it, and what has ended stays. -/
theorem job_claims {inputs : List PayloadInput}
    (client : (payloadMachine p fileDownlink).AllSteps ReportedByClient (firstBoot fileDownlink)
      inputs) : JobClaims p fileDownlink inputs := by
  have paired := (jobsSound_of_run client).paired
  have final {past later : List PayloadInput} (split : inputs = past ++ later) :=
    jobFinal_of_run (jobsSound_of_run
      ((Machine.allSteps_append _ _ _ past later).mp (split ▸ client)).1)
      ((Machine.allSteps_append _ _ _ past later).mp (split ▸ client)).2
  refine ⟨paired.product, paired.job, fun key key' job job' found found' same =>
    paired.productRef_injective found found' same, fun key job row found here =>
      ready_iff_completedBy client found here, fun key job row found here => ?_,
    fun past later key job split found terminal => ?_,
    fun past later ref row split found settled => ?_⟩
  · rw [paired.staging key job row found here]
    cases job.state <;> simp [JobState.terminal]
  · have stays := (final split).1 key job found terminal
    rwa [← journalAfter_append, ← split] at stays
  · have stays := (final split).2 ref row found (by
      rcases settled with settled | settled <;> rw [settled] <;> simp)
    rwa [← journalAfter_append, ← split] at stays

end Runs

/-! ## A completed job -/

/-- A deployment with one scene. -/
def oneSceneDeployment : PayloadDeployment where
  spacecraftInstanceId := 7
  catalog := ⟨1, Table.empty.set 1 ⟨⟨1, 1, 1⟩, 64, 64, "VERIFIED", .dict [], .ok []⟩, []⟩
  decisionSpec := none
  domainStatus := fun _ => "IN_DOMAIN"
  jobDeadlineMs := fun _ _ => .ok (1, 60000)
  releaseSnapshot := []

/-- The coordinator of a new process. -/
def idleFileDownlink : FileDownlinkCoordinator :=
  ⟨1, 1, 1, fun _ _ _ => .ok (), none, none, [], 1, 1⟩

/-- The request for an analysis of the scene. -/
def sceneAnalysis : Command :=
  ⟨.sceneAnalyze, 7, ⟨3, 1⟩,
    [(strKey "scene_ref", (⟨1, 1, 1⟩ : SceneRef).asDict), (strKey "expected_config_epoch", .int 0),
      (strKey "expected_config_revision", .int 0), (strKey "model_threshold_bp", .int 5000),
      (strKey "coverage_limit_bp", .int 6000)]⟩

/-- The result of its job. -/
def sceneAnalysisResult : WorkerResult where
  requestKey := ⟨3, 1⟩
  state := .succeeded
  result := some [(strKey "product", .dict
    [(strKey "product_ref", (⟨7, 1, 1⟩ : ProductRef).asDict), (strKey "product_directory", .none),
      (strKey "manifest_sha256", .none), (strKey "bundle_sha256", .none),
      (strKey "bundle_size", .none)])]
  errorCode := none
  code_known := rfl
  code_present := fun needed => by cases needed

/-- An analysis that is admitted, started and completed, and a restart. -/
def completedAnalysis : List PayloadInput :=
  [.command sceneAnalysis ⟨true, .ok (), none, .ok ""⟩, .started ⟨3, 1⟩ 0,
    .result ⟨sceneAnalysisResult, ⟨.ok (), .ok (), .ok ()⟩⟩, .restart]

theorem job_claims_completedAnalysis :
    ((journalOf oneSceneDeployment idleFileDownlink completedAnalysis).getJob ⟨3, 1⟩).map
        JobRow.state = some .succeeded ∧
      JobClaims oneSceneDeployment idleFileDownlink completedAnalysis :=
  ⟨by decide +kernel, job_claims (by decide +kernel)⟩

end CubeNano

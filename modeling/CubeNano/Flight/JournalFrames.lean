import CubeNano.Flight.WorkerResults

/-!
# What the commands leave alone

A view of the journal is a part of it that an invariant speaks about.  A handler keeps every
view that ignores the columns it writes: `RecordFrame` lists the columns every handler
writes, `ConfigFrame`, `JobFrame` and `TransferFrame` those of one kind of command.

## Main definitions

* `Unchanged`, `RecordFrame`, `JobFrame`, `TransferFrame`

## Main statements

* `unchanged_handleSetConfig`, `unchanged_admitAnalysis`, `unchanged_jobCancel`,
  `unchanged_handleWorkerResult`, `unchanged_admitDownlink`
-/

namespace CubeNano

open Effect

variable {β : Type} {view : SatelliteJournal → β}

/-- A method leaves a view of the journal as it is, however it ends. -/
def Unchanged {α : Type} (view : SatelliteJournal → β) (x : JournalProgram α) : Prop :=
  ∀ v, Keeps (fun j => view j = v) x

/-- The view ignores the command records and the events. -/
structure RecordFrame (view : SatelliteJournal → β) : Prop where
  commands : ∀ j c, view { j with commands := c } = view j
  events : ∀ j e, view { j with events := e } = view j

/-- The view ignores the configuration. -/
def ConfigFrame (view : SatelliteJournal → β) : Prop :=
  ∀ j c, view { j with config := c } = view j

/-- The view ignores jobs and products. -/
structure JobFrame (view : SatelliteJournal → β) : Prop where
  jobs : ∀ j t, view { j with jobs := t } = view j
  products : ∀ j t, view { j with products := t } = view j
  nextProductId : ∀ j n, view { j with nextProductId := n } = view j

/-- The view ignores transfers and the counters their frames draw. -/
structure TransferFrame (view : SatelliteJournal → β) : Prop where
  transfers : ∀ j t, view { j with transfers := t } = view j
  nextTransferId : ∀ j n, view { j with nextTransferId := n } = view j
  counters : ∀ j c, view { j with counters := c } = view j

/-! ## Programs -/

theorem keeps_transact {α : Type} {I : SatelliteJournal → Prop}
    {f : SatelliteJournal → Raises (α × SatelliteJournal)}
    (step : ∀ j a j', f j = .ok (a, j') → I j → I j') : Keeps I (transact f) := by
  intro j holds
  unfold transact
  cases result : f j with
  | error failure => exact holds
  | ok answer => exact step j answer.1 answer.2 result holds

theorem keeps_commit {I : SatelliteJournal → Prop}
    {f : SatelliteJournal → Raises SatelliteJournal}
    (step : ∀ j j', f j = .ok j' → I j → I j') : Keeps I (commit f) := by
  refine keeps_transact fun j a j' done holds => ?_
  cases result : f j with
  | error failure =>
      rw [result] at done
      cases done
  | ok left =>
      rw [result] at done
      cases done
      exact step j j' result holds

/-- A transaction from a known journal. -/
theorem triple_transact {α : Type} {f : SatelliteJournal → Raises (α × SatelliteJournal)}
    {j : SatelliteJournal} : Triple (fun t => t = j) (transact f)
      (fun a j' => f j = .ok (a, j')) fun _ j' => j' = j := by
  rintro t rfl
  unfold transact
  cases result : f t with
  | error failure => rfl
  | ok answer => rfl

/-- A transaction without a value from a known journal. -/
theorem triple_commit {f : SatelliteJournal → Raises SatelliteJournal} {j : SatelliteJournal} :
    Triple (fun t => t = j) (commit f) (fun _ j' => f j = .ok j') fun _ j' => j' = j := by
  refine Triple.weaken triple_transact (fun _ h => h) (fun _ j' done => ?_) fun _ _ h => h
  cases result : f j with
  | error failure =>
      rw [result] at done
      cases done
  | ok left =>
      rw [result] at done
      cases done
      rfl

/-- A method of the journal from a known state. -/
theorem triple_onJournal {α : Type} {x : JournalProgram α} {Q : α → SatelliteJournal → Prop}
    {E : PyException → SatelliteJournal → Prop} {P : SatelliteJournal → Prop}
    (triple : Triple P x Q E) : Triple (fun s : PayloadState => P s.journal) (onJournal x)
      (fun a s => Q a s.journal) fun e s => E e s.journal := by
  intro s holds
  have this := triple s.journal holds
  unfold onJournal
  cases result : x s.journal with
  | ok value j =>
      rw [result] at this
      exact this
  | error failure j =>
      rw [result] at this
      exact this

theorem keeps_onJournal {α : Type} {I : SatelliteJournal → Prop} {x : JournalProgram α}
    (keeps : Keeps I x) : Keeps (fun s : PayloadState => I s.journal) (onJournal x) :=
  triple_onJournal keeps

namespace Unchanged

variable {α γ : Type}

theorem transact {f : SatelliteJournal → Raises (α × SatelliteJournal)}
    (step : ∀ j a j', f j = .ok (a, j') → view j' = view j) :
    Unchanged view (CubeNano.transact f) := fun _ =>
  keeps_transact fun j a j' done holds => (step j a j' done).trans holds

theorem commit {f : SatelliteJournal → Raises SatelliteJournal}
    (step : ∀ j j', f j = .ok j' → view j' = view j) : Unchanged view (CubeNano.commit f) :=
  fun _ => keeps_commit fun j j' done holds => (step j j' done).trans holds

theorem pure (a : α) : Unchanged view (Pure.pure a : JournalProgram α) := fun _ => Keeps.pure a

theorem lift (r : Raises α) : Unchanged view (liftRaises r : JournalProgram α) :=
  fun _ => keeps_liftRaises r _

theorem raise (failure : PyException) : Unchanged view (throw failure : JournalProgram α) :=
  fun _ => Keeps.raise failure

theorem bind {x : JournalProgram α} {f : α → JournalProgram γ} (first : Unchanged view x)
    (rest : ∀ a, Unchanged view (f a)) : Unchanged view (x >>= f) := fun v =>
  Keeps.bind (first v) fun a => rest a v

theorem getBind {f : SatelliteJournal → JournalProgram α} (rest : ∀ j, Unchanged view (f j)) :
    Unchanged view (MonadState.get >>= f) := fun v => Keeps.getBind fun j => rest j v

theorem tryCatch {x : JournalProgram α} {handler : PyException → JournalProgram α}
    (body : Unchanged view x) (handled : ∀ failure, Unchanged view (handler failure)) :
    Unchanged view (MonadExcept.tryCatch x handler) := fun v =>
  Keeps.tryCatch (body v) fun failure => handled failure v

/-- A method keeps what depends on the view alone. -/
theorem keeps {x : JournalProgram α} (unchanged : Unchanged view x) (P : β → Prop) :
    Keeps (fun j => P (view j)) x := by
  intro j holds
  have this := unchanged (view j) j rfl
  cases result : x j with
  | ok value j' =>
      rw [result] at this
      change P (view j')
      rwa [show view j' = view j from this]
  | error failure j' =>
      rw [result] at this
      change P (view j')
      rwa [show view j' = view j from this]

end Unchanged

/-! ## Records -/

namespace SatelliteJournal

theorem insertCommand_eq_ok {j j' : SatelliteJournal} {key : RequestKey} {row : CommandRecord}
    (done : j.insertCommand key row = .ok j') :
    ∃ commands, j.commands.insert key row = some commands ∧
      j' = { j with commands := commands } := by
  unfold insertCommand at done
  split at done
  · cases done
  · rename_i commands inserted
    cases done
    exact ⟨commands, inserted, rfl⟩

/-- **Everything a record can do.** -/
theorem recordCommand_eq_ok {j j' : SatelliteJournal} {key : RequestKey} {opcode : CommandOpcode}
    {digest : Text} {payload : PyDict} {state : RecordState} {result : PyDict}
    (done : j.recordCommand key opcode digest payload state result = .ok j') :
    ∃ commands, j.commands.insert key ⟨opcode, digest, state, result⟩ = some commands ∧
      j' = { j with commands := commands } := by
  obtain ⟨-, -, done⟩ := bind_eq_ok_iff.mp done
  obtain ⟨-, -, done⟩ := bind_eq_ok_iff.mp done
  exact insertCommand_eq_ok done

theorem updateCommandResult_eq_ok {j j' : SatelliteJournal} {key : RequestKey}
    {state : RecordState} {result : PyDict}
    (done : j.updateCommandResult key state result = .ok j') :
    j' = { j with commands := j.commands.update key fun row =>
      { row with state := state, result := result } } := by
  obtain ⟨-, -, done⟩ := bind_eq_ok_iff.mp done
  cases done
  rfl

theorem appendEvent_eq_ok {j j' : SatelliteJournal} {name : String} {body : PyDict}
    {requestKey : Option RequestKey} (done : j.appendEvent name body requestKey = .ok j') :
    j' = { j with events := j.events ++ [⟨name, requestKey, body⟩] } := by
  obtain ⟨-, -, done⟩ := bind_eq_ok_iff.mp done
  cases done
  rfl

end SatelliteJournal

section Records

variable (frame : RecordFrame view)

include frame

theorem unchanged_appendEvent (name : String) (body : PyDict) (requestKey : Option RequestKey) :
    Unchanged view (appendEvent name body requestKey) := by
  refine Unchanged.commit fun j j' done => ?_
  rw [SatelliteJournal.appendEvent_eq_ok done]
  exact frame.events j _

theorem unchanged_recordCommand (command : Command) (digest : Text) (state : RecordState)
    (result : PyDict) : Unchanged view (recordCommand command digest state result) := by
  refine Unchanged.commit fun j j' done => ?_
  obtain ⟨commands, -, rfl⟩ := SatelliteJournal.recordCommand_eq_ok done
  exact frame.commands j commands

theorem unchanged_recordExecuted (command : Command) (digest : Text) (result : PyDict) :
    Unchanged view (recordExecuted command digest result) :=
  Unchanged.bind (unchanged_recordCommand frame command digest _ result) fun _ =>
    Unchanged.pure result

theorem unchanged_recordRejection (command : Command) (digest : Text) (errorCode : String) :
    Unchanged view (recordRejection command digest errorCode) :=
  Unchanged.bind (unchanged_recordCommand frame command digest _ _) fun _ =>
    Unchanged.bind (unchanged_appendEvent frame _ _ _) fun _ => Unchanged.pure _

theorem unchanged_rejectFailure (command : Command) (digest : Text) (failure : PyException) :
    Unchanged view (rejectFailure command digest failure) := by
  unfold rejectFailure
  split
  · exact unchanged_recordRejection frame command digest _
  · exact Unchanged.raise failure

end Records

/-! ## Configuration -/

namespace SatelliteJournal

/-- **Everything `apply_config_command` can do.** -/
theorem applyConfigCommand_eq_ok {j j' : SatelliteJournal} {key : RequestKey}
    {opcode : CommandOpcode} {digest : Text} {payload result : PyDict} {fields : ConfigFields}
    {snapshot : ConfigSnapshot}
    (done : j.applyConfigCommand key opcode digest payload fields =
      .ok ((snapshot, result), j')) :
    j.config.identity = (fields.epoch, fields.revision) ∧
      nextIdentity j.config = .ok snapshot.identity ∧
      (snapshot.modelThresholdBp = fields.modelBp ∧
        snapshot.coverageLimitBp = fields.coverageBp) ∧
      result = configResult snapshot ∧ checkJson result = .ok () ∧
      ∃ commands,
        j.commands.insert key ⟨opcode, digest, .executed, result⟩ = some commands ∧
        j' = { j with config := snapshot, commands := commands } := by
  unfold applyConfigCommand at done
  split at done
  · cases done
  rename_i expected
  obtain ⟨next, identity, done⟩ := bind_eq_ok_iff.mp done
  obtain ⟨config, checked, done⟩ := bind_eq_ok_iff.mp done
  obtain ⟨-, -, done⟩ := bind_eq_ok_iff.mp done
  obtain ⟨_, json, done⟩ := bind_eq_ok_iff.mp done
  obtain ⟨recorded, record, done⟩ := bind_eq_ok_iff.mp done
  cases done
  obtain ⟨commands, inserted, same⟩ := insertCommand_eq_ok record
  unfold ConfigSnapshot.new at checked
  split at checked
  · cases checked
    exact ⟨not_not.mp expected, identity, ⟨rfl, rfl⟩, rfl, json, commands, inserted, same⟩
  · cases checked

end SatelliteJournal

theorem unchanged_handleSetConfig (frame : RecordFrame view) (config : ConfigFrame view)
    (p : PayloadDeployment) (command : Command) (digest : Text) :
    Unchanged view (p.handleSetConfig command digest) := by
  refine Unchanged.bind (Unchanged.lift _) fun fields => ?_
  split
  · exact unchanged_recordRejection frame command digest _
  · refine Unchanged.bind (Unchanged.transact fun j applied j' done => ?_) fun applied =>
      Unchanged.bind (unchanged_appendEvent frame _ _ _) fun _ => Unchanged.pure _
    obtain ⟨-, -, -, -, -, commands, -, rfl⟩ :=
      SatelliteJournal.applyConfigCommand_eq_ok done
    exact (frame.commands { j with config := applied.1 } commands).trans (config j applied.1)

/-! ## Jobs -/

namespace SatelliteJournal

theorem transitionJob_eq_ok {j j' : SatelliteJournal} {key : RequestKey} {expected : List JobState}
    {state : JobState} {result : Option PyDict} {errorCode : Option String} {changed : Bool}
    (done : j.transitionJob key expected state result errorCode = .ok (changed, j')) :
    changed = j.jobIn key expected ∧
      j' = if changed then j.updateJob key state result errorCode else j := by
  obtain ⟨-, -, done⟩ := bind_eq_ok_iff.mp done
  split at done
  · rename_i isIn
    cases done
    exact ⟨isIn.symm, rfl⟩
  · rename_i isNotIn
    cases done
    exact ⟨(Bool.not_eq_true _ ▸ isNotIn).symm, rfl⟩

/-- **Everything `complete_job_with_product` can do.** -/
theorem completeJobWithProduct_eq_ok {j j' : SatelliteJournal} {key : RequestKey}
    {expected : List JobState} {result summary : PyDict} {ref : ProductRef} {completed : Bool}
    (done : j.completeJobWithProduct key expected result ref summary = .ok (completed, j')) :
    completed = j.jobIn key expected ∧
      ((completed = false ∧ j' = j) ∨ ∃ columns, completed = true ∧
        (j.getProduct ref).any (fun row => row.state = .staging) = true ∧
        j' = (j.updateJob key .succeeded (some result) none).updateStaging ref fun row =>
          { row with state := .ready, summary := some columns }) := by
  obtain ⟨-, -, done⟩ := bind_eq_ok_iff.mp done
  split at done
  · rename_i isIn
    obtain ⟨columns, -, done⟩ := bind_eq_ok_iff.mp done
    split at done
    · rename_i staging
      cases done
      exact ⟨isIn.symm, .inr ⟨columns, rfl, staging, rfl⟩⟩
    · cases done
  · rename_i isNotIn
    cases done
    exact ⟨(Bool.not_eq_true _ ▸ isNotIn).symm, .inl ⟨rfl, rfl⟩⟩

theorem failProductForJob_of_none {j : SatelliteJournal} {key : RequestKey}
    (missing : j.getJob key = none) : j.failProductForJob key = (none, j) := by
  unfold failProductForJob
  rw [missing]

theorem failProductForJob_of_job {j : SatelliteJournal} {key : RequestKey} {job : JobRow}
    (found : j.getJob key = some job) : j.failProductForJob key = (some job.productRef,
      j.updateStaging job.productRef fun row => { row with state := .failed }) := by
  unfold failProductForJob
  rw [found]

/-- **Everything `admit_analysis` can do.** -/
theorem admitAnalysis_eq_ok {j j' : SatelliteJournal} {key : RequestKey} {opcode : CommandOpcode}
    {digest : Text} {payload snapshot result : PyDict} {ref : ProductRef}
    (done : j.admitAnalysis key opcode digest payload snapshot ref = .ok (result, j')) :
    result = analysisResult key ref ∧ ∃ commands products jobs,
      j.commands.insert key ⟨opcode, digest, .dispatched, result⟩ = some commands ∧
      j.products.insert ref ⟨key, .staging, none⟩ = some products ∧
      j.jobs.insert key ⟨.queued, ref, none, none⟩ = some jobs ∧
      j' = { j with commands := commands, products := products, jobs := jobs } := by
  obtain ⟨recorded, record, done⟩ := bind_eq_ok_iff.mp done
  obtain ⟨staged, stage, done⟩ := bind_eq_ok_iff.mp done
  obtain ⟨-, -, done⟩ := bind_eq_ok_iff.mp done
  obtain ⟨queued, queue, done⟩ := bind_eq_ok_iff.mp done
  cases done
  obtain ⟨commands, inserted, rfl⟩ := recordCommand_eq_ok record
  unfold insertProduct at stage
  split at stage
  · cases stage
  rename_i products productInserted
  cases stage
  unfold insertJob at queue
  split at queue
  · cases queue
  rename_i jobs jobInserted
  cases queue
  exact ⟨rfl, commands, products, jobs, inserted, productInserted, jobInserted, rfl⟩

theorem allocateProductId_eq_ok {j j' : SatelliteJournal} {id : U32}
    (done : j.allocateProductId = .ok (id, j')) :
    id = j.nextProductId ∧ j.nextProductId.val ≠ 0xFFFFFFFF ∧
      j' = { j with nextProductId := j.nextProductId + 1 } := by
  unfold allocateProductId at done
  split at done
  · cases done
  · rename_i room
    cases done
    exact ⟨rfl, room, rfl⟩

end SatelliteJournal

section Jobs

variable (frame : RecordFrame view) (jobs : JobFrame view)

include jobs

theorem unchanged_transitionJob (key : RequestKey) (expected : List JobState) (state : JobState)
    (result : Option PyDict) (errorCode : Option String) :
    Unchanged view (transact fun j => j.transitionJob key expected state result errorCode) := by
  refine Unchanged.transact fun j changed j' done => ?_
  rw [(SatelliteJournal.transitionJob_eq_ok done).2]
  split
  · exact jobs.jobs j _
  · rfl

theorem unchanged_failProductForJob (key : RequestKey) :
    Unchanged view (transact fun j => .ok (j.failProductForJob key)) := by
  refine Unchanged.transact fun j ref j' done => ?_
  have left := Except.ok.inj done
  cases found : j.getJob key with
  | none =>
      rw [SatelliteJournal.failProductForJob_of_none found] at left
      cases left
      rfl
  | some job =>
      rw [SatelliteJournal.failProductForJob_of_job found] at left
      cases left
      exact jobs.products j _

theorem unchanged_allocateProductId :
    Unchanged view (transact SatelliteJournal.allocateProductId) := by
  refine Unchanged.transact fun j id j' done => ?_
  obtain ⟨-, -, rfl⟩ := SatelliteJournal.allocateProductId_eq_ok done
  exact jobs.nextProductId j _

theorem unchanged_abandonProduct (files : ProductFiles) (key : RequestKey) :
    Unchanged view (abandonProduct files key) :=
  Unchanged.bind (unchanged_failProductForJob jobs key) fun _ =>
    Unchanged.bind (Unchanged.lift _) fun _ => Unchanged.lift _

include frame

theorem unchanged_rejectSubmission (command : Command) (failure : PyException) :
    Unchanged view (PayloadDeployment.rejectSubmission command failure) := by
  refine Unchanged.bind (unchanged_transitionJob jobs _ _ _ _ _) fun _ =>
    Unchanged.bind (unchanged_failProductForJob jobs _) fun _ =>
      Unchanged.bind (Unchanged.commit fun j j' done => ?_) fun _ =>
        Unchanged.bind (unchanged_appendEvent frame _ _ _) fun _ => Unchanged.pure _
  rw [SatelliteJournal.updateCommandResult_eq_ok done]
  exact frame.commands j _

theorem unchanged_admitAnalysis (p : PayloadDeployment) {worker : Option WorkerPort}
    (submits : ∀ client ∈ worker, ∀ key snapshot, Unchanged view (client.submit key snapshot))
    (command : Command) (digest : Text) :
    Unchanged view (p.admitAnalysis worker command digest) := by
  refine Unchanged.getBind fun j => Unchanged.bind (Unchanged.lift _) fun plan =>
    Unchanged.bind (unchanged_allocateProductId jobs) fun productId =>
      Unchanged.bind (Unchanged.lift _) fun deadline =>
        Unchanged.bind (Unchanged.lift _) fun snapshot =>
          Unchanged.bind (Unchanged.transact fun j result j' done => ?_) fun result =>
            Unchanged.bind (Unchanged.tryCatch
              (Unchanged.bind ?_ fun _ => Unchanged.pure _) fun failure => ?_) fun refused => ?_
  · obtain ⟨-, commands, products, table, -, -, -, rfl⟩ :=
      SatelliteJournal.admitAnalysis_eq_ok done
    exact (jobs.jobs { j with commands := commands, products := products } table).trans
      ((jobs.products { j with commands := commands } products).trans (frame.commands j commands))
  · unfold PayloadDeployment.submitJob
    split
    · exact Unchanged.lift _
    · exact submits _ rfl _ _
  · split
    · exact Unchanged.pure _
    · exact Unchanged.raise failure
  · split
    · exact unchanged_rejectSubmission frame jobs command _
    · exact Unchanged.bind (unchanged_appendEvent frame _ _ _) fun _ =>
        Unchanged.bind (unchanged_appendEvent frame _ _ _) fun _ => Unchanged.pure _

theorem unchanged_jobCancel {worker : Option WorkerPort}
    (cancels : ∀ client ∈ worker, ∀ key, Unchanged view (client.cancel key))
    (command : Command) (digest : Text) :
    Unchanged view (PayloadDeployment.jobCancel worker command digest) := by
  refine Unchanged.bind (Unchanged.lift _) fun target => Unchanged.bind ?_ fun result =>
    unchanged_recordExecuted frame command digest result
  refine Unchanged.getBind fun j => ?_
  split
  · exact Unchanged.pure _
  split
  · exact Unchanged.pure _
  refine Unchanged.bind (Unchanged.bind (unchanged_transitionJob jobs _ _ _ _ _) fun _ => ?_)
    fun outcome => Unchanged.getBind fun j => Unchanged.pure _
  split
  · refine Unchanged.tryCatch (cancels _ rfl target) fun failure => ?_
    unfold PayloadDeployment.failCancel
    split
    · exact Unchanged.pure _
    split
    · exact Unchanged.bind (unchanged_transitionJob jobs _ _ _ _ _) fun _ =>
        Unchanged.bind (unchanged_failProductForJob jobs _) fun _ => Unchanged.pure _
    · exact Unchanged.raise failure
  · exact Unchanged.bind (unchanged_transitionJob jobs _ _ _ _ _) fun _ =>
      Unchanged.bind (unchanged_failProductForJob jobs _) fun _ => Unchanged.pure _

/-! ## Callbacks -/

theorem unchanged_handleWorkerStarted (key : RequestKey) (deadline : ℕ) :
    Unchanged view (handleWorkerStarted key deadline) := by
  refine Unchanged.bind (unchanged_transitionJob jobs _ _ _ _ _) fun changed => ?_
  split
  · exact unchanged_appendEvent frame _ _ _
  · exact Unchanged.pure _

theorem unchanged_afterJobEnded (files : ProductFiles) (key : RequestKey) (event : String)
    (body : PyDict) (changed : Bool) :
    Unchanged view (afterJobEnded files key event body changed) := by
  cases changed with
  | false => exact Unchanged.pure _
  | true => exact Unchanged.bind (unchanged_abandonProduct jobs files key) fun _ =>
      unchanged_appendEvent frame _ _ _

theorem unchanged_settleJob (files : ProductFiles) (r : WorkerResult) (row : JobRow) :
    Unchanged view (settleJob files r row) := by
  have ends (target : JobState) : Unchanged view (endJob files r target) :=
    Unchanged.bind (unchanged_transitionJob jobs _ _ _ _ _) fun changed =>
      unchanged_afterJobEnded frame jobs _ _ _ _ changed
  unfold settleJob
  split
  · refine Unchanged.bind (Unchanged.lift _) fun product => ?_
    obtain ⟨summary, ref⟩ := product
    dsimp only
    split
    · exact Unchanged.bind (Unchanged.lift _) fun _ => Unchanged.lift _
    · refine Unchanged.bind (Unchanged.transact fun j completed j' done => ?_) fun completed => ?_
      · obtain ⟨-, unchanged | ⟨columns, -, -, rfl⟩⟩ :=
          SatelliteJournal.completeJobWithProduct_eq_ok done
        · rw [unchanged.2]
        · exact (jobs.products (j.updateJob _ _ _ _) _).trans (jobs.jobs j _)
      · unfold afterPublication
        split
        · exact unchanged_appendEvent frame _ _ _
        · exact Unchanged.lift _
  · exact Unchanged.bind (unchanged_transitionJob jobs _ _ _ _ _) fun _ =>
      Unchanged.bind (unchanged_failProductForJob jobs _) fun _ =>
        Unchanged.bind (Unchanged.lift _) fun _ => unchanged_appendEvent frame _ _ _
  · exact ends _
  · exact ends _
  · exact ends _

theorem unchanged_handleWorkerResult (files : ProductFiles) (r : WorkerResult) :
    Unchanged view (handleWorkerResult files r) := by
  refine Unchanged.tryCatch (Unchanged.getBind fun j => ?_) fun failure =>
    Unchanged.getBind fun j => ?_
  · split
    · exact Unchanged.lift _
    split
    · exact Unchanged.lift _
    · exact unchanged_settleJob frame jobs files r _
  · split
    · exact Unchanged.pure _
    split
    · exact Unchanged.pure _
    · exact Unchanged.bind (unchanged_transitionJob jobs _ _ _ _ _) fun changed =>
        unchanged_afterJobEnded frame jobs _ _ _ _ changed

/-- The client of a command keeps the view. -/
theorem unchanged_port (answers : WorkerAnswers) {client : WorkerPort}
    (attached : client ∈ answers.port) :
    (∀ key snapshot, Unchanged view (client.submit key snapshot)) ∧
      ∀ key, Unchanged view (client.cancel key) := by
  unfold WorkerAnswers.port at attached
  split at attached
  · cases attached
    refine ⟨fun _ _ => Unchanged.lift _, fun _ => Unchanged.bind ?_ fun _ => Unchanged.lift _⟩
    unfold deliverResult
    split
    · exact Unchanged.pure _
    · exact Unchanged.tryCatch (unchanged_handleWorkerResult frame jobs _ _) fun _ =>
        Unchanged.pure _
  · cases attached

end Jobs

/-! ## Transfers -/

namespace SatelliteJournal

theorem allocateTransferId_eq_ok {j j' : SatelliteJournal} {id : U32}
    (done : j.allocateTransferId = .ok (id, j')) :
    id = j.nextTransferId ∧ j.nextTransferId.val ≠ 0xFFFFFFFF ∧
      j' = { j with nextTransferId := j.nextTransferId + 1 } := by
  unfold allocateTransferId at done
  split at done
  · cases done
  · rename_i room
    cases done
    exact ⟨rfl, room, rfl⟩

/-- **Everything `admit_downlink` can do.** -/
theorem admitDownlink_eq_ok {j j' : SatelliteJournal} {key : RequestKey} {opcode : CommandOpcode}
    {digest : Text} {payload result : PyDict} {transferId : U32} {ref : ProductRef}
    (done : j.admitDownlink key opcode digest payload transferId ref = .ok (result, j')) :
    result = downlinkResult transferId ref ∧ ∃ commands transfers,
      j.commands.insert key ⟨opcode, digest, .dispatched, result⟩ = some commands ∧
      j.transfers.insert transferId ⟨ref, .queued⟩ = some transfers ∧
      j' = { j with commands := commands, transfers := transfers } := by
  obtain ⟨recorded, record, done⟩ := bind_eq_ok_iff.mp done
  obtain ⟨queued, queue, done⟩ := bind_eq_ok_iff.mp done
  cases done
  obtain ⟨commands, inserted, rfl⟩ := recordCommand_eq_ok record
  unfold insertTransfer at queue
  split at queue
  · cases queue
  rename_i transfers transferInserted
  cases queue
  exact ⟨rfl, commands, transfers, inserted, transferInserted, rfl⟩

end SatelliteJournal

theorem unchanged_admitDownlink (frame : RecordFrame view) (transfers : TransferFrame view)
    (p : PayloadDeployment) (command : Command) (digest : Text) :
    Unchanged view (p.admitDownlink command digest) := by
  refine Unchanged.getBind fun j => Unchanged.bind (Unchanged.lift _) fun product =>
    Unchanged.bind (Unchanged.transact fun j id j' done => ?_) fun transferId =>
      Unchanged.bind (Unchanged.transact fun j result j' done => ?_) fun result =>
        Unchanged.bind (unchanged_appendEvent frame _ _ _) fun _ => Unchanged.pure _
  · obtain ⟨-, -, rfl⟩ := SatelliteJournal.allocateTransferId_eq_ok done
    exact transfers.nextTransferId j _
  · obtain ⟨-, commands, table, -, -, rfl⟩ := SatelliteJournal.admitDownlink_eq_ok done
    exact (transfers.transfers { j with commands := commands } table).trans
      (frame.commands j commands)

theorem keeps_onDownlink {α : Type} (transfers : TransferFrame view) (x : DownlinkProgram α)
    (v : β) : Keeps (fun s : PayloadState => view s.journal = v) (onDownlink x) := by
  have kept (s : PayloadState) (d : DownlinkState) :
      view (s.withDownlink d).journal = view s.journal := by
    unfold PayloadState.withDownlink
    simp only
    split
    · exact transfers.counters s.journal d.counters
    split
    · exact transfers.counters s.journal d.counters
    · exact (transfers.transfers { s.journal with counters := d.counters } _).trans
        (transfers.counters s.journal d.counters)
  intro s holds
  unfold onDownlink
  cases x ⟨s.fileDownlink, s.journal.counters⟩ with
  | ok value d => exact (kept s d).trans holds
  | error failure d => exact (kept s d).trans holds

theorem keeps_cancelDownlink (transfers : TransferFrame view) (p : PayloadDeployment)
    (command : Command) (v : β) :
    Keeps (fun s : PayloadState => view s.journal = v) (p.cancelDownlink command) := by
  have idle (product : ProductRef) (transferId : U32) :
      Unchanged view (PayloadDeployment.cancelIdleTransfer product transferId) := by
    refine Unchanged.getBind fun j => ?_
    split
    · exact Unchanged.lift _
    split
    · exact Unchanged.lift _
    split
    · refine Unchanged.bind (Unchanged.commit fun j j' done => ?_) fun _ => Unchanged.pure _
      cases done
      exact transfers.transfers j _
    · exact Unchanged.pure _
  refine Keeps.bind (keeps_liftRaises _ _) fun product => ?_
  split
  · exact keeps_liftRaises _ _
  refine Keeps.bind (keeps_liftRaises _ _) fun transferId => Keeps.bind (Keeps.getBind fun s => ?_)
    fun _ => Keeps.pure _
  split
  · exact keeps_onJournal (idle _ _ v)
  split
  · split
    · exact keeps_liftRaises _ _
    · exact keeps_onDownlink transfers _ v
  · exact keeps_onJournal (idle _ _ v)

/-! ## The dispatcher -/

/-- A command that works on jobs. -/
def CommandOpcode.onJobs : CommandOpcode → Bool
  | sceneAnalyze | roiRequest | jobCancel => true
  | _ => false

/-- A command that works on transfers. -/
def CommandOpcode.onTransfers : CommandOpcode → Bool
  | productRequestDownlink | productCancelDownlink => true
  | _ => false

/-- **A command keeps every view that ignores what its kind writes.** -/
theorem keeps_executeCommand (frame : RecordFrame view) (p : PayloadDeployment)
    (answers : WorkerAnswers) {command : Command} (digest : Text)
    (config : command.opcode = .cloudSetConfig → ConfigFrame view)
    (jobs : command.opcode.onJobs = true → JobFrame view)
    (transfers : command.opcode.onTransfers = true → TransferFrame view) (v : β) :
    Keeps (fun s : PayloadState => view s.journal = v)
      (p.executeCommand answers.port command digest) := by
  unfold PayloadDeployment.executeCommand
  cases opcode : command.opcode with
  | cloudSetConfig =>
      exact keeps_onJournal (unchanged_handleSetConfig frame (config opcode) p command digest v)
  | sceneRequestCatalog =>
      exact keeps_onJournal (unchanged_recordExecuted frame command digest _ v)
  | sceneRequestPreview =>
      exact Keeps.bind (keeps_liftRaises _ _) fun result =>
        keeps_onJournal (unchanged_recordExecuted frame command digest result v)
  | sceneAnalyze =>
      have ignores := jobs (by rw [opcode]; rfl)
      exact keeps_onJournal (unchanged_admitAnalysis frame ignores p
        (fun client attached => (unchanged_port frame ignores answers attached).1) command digest v)
  | roiRequest =>
      have ignores := jobs (by rw [opcode]; rfl)
      exact keeps_onJournal (unchanged_admitAnalysis frame ignores p
        (fun client attached => (unchanged_port frame ignores answers attached).1) command digest v)
  | jobGetStatus =>
      exact keeps_onJournal ((Unchanged.bind (Unchanged.lift _) fun target =>
        Unchanged.getBind fun j => unchanged_recordExecuted frame command digest _) v)
  | jobCancel =>
      have ignores := jobs (by rw [opcode]; rfl)
      exact keeps_onJournal (unchanged_jobCancel frame ignores
        (fun client attached => (unchanged_port frame ignores answers attached).2) command digest v)
  | productRequestDownlink =>
      exact keeps_onJournal (unchanged_admitDownlink frame (transfers (by rw [opcode]; rfl)) p
        command digest v)
  | productCancelDownlink =>
      exact Keeps.bind (keeps_cancelDownlink (transfers (by rw [opcode]; rfl)) p command v)
        fun result => keeps_onJournal (unchanged_recordExecuted frame command digest result v)

/-- The dispatcher itself writes records and events only. -/
theorem keeps_handleCommand (frame : RecordFrame view) (p : PayloadDeployment)
    {worker : Option WorkerPort} {command : Command} {v : β}
    (executes : ∀ digest, Keeps (fun s : PayloadState => view s.journal = v)
      (p.executeCommand worker command digest)) :
    Keeps (fun s : PayloadState => view s.journal = v) (p.handleCommand worker command) := by
  refine Keeps.bind (keeps_liftRaises _ _) fun digest => ?_
  split
  · exact keeps_onJournal (unchanged_recordRejection frame command digest _ v)
  refine Keeps.getBind fun s => ?_
  unfold PayloadDeployment.answerRequest
  split
  · exact Keeps.pure _
  · exact Keeps.pure _
  · exact Keeps.pure _
  · exact Keeps.tryCatch (executes digest) fun failure =>
      keeps_onJournal (unchanged_rejectFailure frame command digest failure v)

end CubeNano

import CubeNano.Flight.JournalFrames
import Mathlib.Data.Prod.Lex

/-!
# The history of the mission configuration

The configuration of the payload changes by compare-and-set: a `CLOUD_SET_CONFIG` command
names the identity `(epoch, revision)` it expects, and the transaction that executes it
records the command and moves to the next identity.

`ConfigStep` is everything an operation can do to the configuration and to the record of a
configuration command; the history of a run follows from it.

## Main definitions

* `ExecutesConfig`, `ConfigClaims`

## Main statements

* `configStep_of_command`
* `config_history` — identities only grow, and never name two configurations
-/

namespace CubeNano

open Effect

/-! ## Steps -/

/-- The identity a configuration command expects. -/
def expectedIdentity (command : Command) : Raises (U32 × U32) :=
  (configFromPayload command.payload).map fun fields => (fields.epoch, fields.revision)

/-- The operation executed a configuration command, with the record it left. -/
def ExecutesConfig (before after : SatelliteJournal) (input : PayloadInput) (command : Command)
    (row : CommandRecord) : Prop :=
  (∃ answers, input = .command command answers) ∧ command.opcode = .cloudSetConfig ∧
    before.commands.find? command.requestKey = none ∧
    after.commands.find? command.requestKey = some row ∧ row.state = .executed

/-- The records are as they were, but for a rejection of the command. -/
def OnlyRejection (before after : SatelliteJournal) (command : Command) : Prop :=
  after.commands = before.commands ∨ ∃ row, row.state = .commandRejected ∧
    before.commands.insert command.requestKey row = some after.commands

/-- **Everything a configuration command can do** to the configuration and the records. -/
inductive ConfigStep (before after : SatelliteJournal) (command : Command) : Prop
  /-- The command was refused. -/
  | refused (config : after.config = before.config) (records : OnlyRejection before after command)
  /-- The command was executed. -/
  | executed (row : CommandRecord)
      (expected : expectedIdentity command = .ok before.config.identity)
      (next : SatelliteJournal.nextIdentity before.config = .ok after.config.identity)
      (state : row.state = .executed)
      (result : row.result = SatelliteJournal.configResult after.config)
      (recorded : before.commands.insert command.requestKey row = some after.commands)

theorem ConfigStep.refl (j : SatelliteJournal) (command : Command) : ConfigStep j j command :=
  .refused rfl (.inl rfl)

/-! ## The command -/

/-- A body that was recorded can be logged. -/
theorem triple_appendEvent {j : SatelliteJournal} {name : String} {body : PyDict}
    {requestKey : Option RequestKey} {E : PyException → SatelliteJournal → Prop}
    (json : checkJson body = .ok ()) : Triple (fun t => t = j) (appendEvent name body requestKey)
      (fun _ j' => j'.config = j.config ∧ j'.commands = j.commands) E := by
  rintro t rfl
  have appended : t.appendEvent name body requestKey =
      .ok { t with events := t.events ++ [⟨name, requestKey, body⟩] } := by
    unfold SatelliteJournal.appendEvent
    rw [json]
    rfl
  have ran : appendEvent name body requestKey t =
      .ok () { t with events := t.events ++ [⟨name, requestKey, body⟩] } := by
    unfold appendEvent commit transact
    simp only [appended, Except.map]
  rw [ran]
  exact ⟨rfl, rfl⟩

/-- A rejection is recorded or nothing is. -/
theorem triple_recordRejection {j : SatelliteJournal} {command : Command} {digest : Text}
    {errorCode : String} : Triple (fun t => t = j) (recordRejection command digest errorCode)
      (fun _ j' => j'.config = j.config ∧ OnlyRejection j j' command) fun _ j' => j' = j := by
  refine Triple.bindKnown triple_commit fun _ j₁ recorded => ?_
  have json : checkJson (errorResponse command errorCode) = .ok () := by
    obtain ⟨-, -, rest⟩ := bind_eq_ok_iff.mp recorded
    obtain ⟨⟨⟩, json, -⟩ := bind_eq_ok_iff.mp rest
    exact json
  obtain ⟨commands, inserted, rfl⟩ := SatelliteJournal.recordCommand_eq_ok recorded
  refine Triple.bind (triple_appendEvent json) fun _ => Triple.pure fun j' same => ?_
  exact ⟨same.1, .inr ⟨_, rfl, inserted.trans (by rw [same.2])⟩⟩

/-- **A configuration command is executed, rejected, or changes nothing.** -/
theorem triple_handleSetConfig (p : PayloadDeployment) {j : SatelliteJournal} {command : Command}
    {digest : Text} : Triple (fun t => t = j) (p.handleSetConfig command digest)
      (fun _ j' => ConfigStep j j' command) fun _ j' => j' = j := by
  unfold PayloadDeployment.handleSetConfig
  refine Triple.bind (triple_liftRaises _) fun fields => ?_
  refine Triple.ofFact fun read => ?_
  split
  · exact Triple.weaken triple_recordRejection (fun _ h => h)
      (fun _ _ h => .refused h.1 h.2) fun _ _ h => h
  · refine Triple.bindKnown triple_transact fun applied j₁ done => ?_
    obtain ⟨snapshot, result⟩ := applied
    obtain ⟨expected, next, -, same, json, commands, inserted, rfl⟩ :=
      SatelliteJournal.applyConfigCommand_eq_ok done
    refine Triple.bind (triple_appendEvent json) fun _ => Triple.pure fun j' left => ?_
    have asExpected : expectedIdentity command = .ok j.config.identity := by
      unfold expectedIdentity
      rw [read, expected]
      rfl
    exact .executed ⟨command.opcode, digest, .executed, result⟩ asExpected
      (next.trans (by rw [left.1])) rfl (same.trans (by rw [left.1]))
      (inserted.trans (by rw [left.2]))

/-- The step of a configuration command. -/
theorem configStep_of_command (p : PayloadDeployment) (worker : Option WorkerPort)
    {command : Command} (opcode : command.opcode = .cloudSetConfig) (s : PayloadState) :
    ConfigStep s.journal (finalState (p.handleCommand worker command s)).journal command := by
  have rejects (digest : Text) (errorCode : String) :
      Triple (fun t : PayloadState => t.journal = s.journal)
        (onJournal (recordRejection command digest errorCode))
        (fun _ t => ConfigStep s.journal t.journal command)
        fun _ t => ConfigStep s.journal t.journal command :=
    Triple.weaken (triple_onJournal triple_recordRejection) (fun _ h => h)
      (fun _ _ h => .refused h.1 h.2) fun _ _ h => h ▸ ConfigStep.refl _ command
  refine Triple.finalState (I := fun t => ConfigStep s.journal t.journal command)
    (P := fun t => t = s) ?_ rfl
  unfold PayloadDeployment.handleCommand
  refine Triple.bind (R := fun _ t => t = s) ?_ fun digest => ?_
  · rintro t rfl
    cases missionDigest command with
    | error failure => exact ConfigStep.refl _ command
    | ok digest => exact rfl
  split
  · exact Triple.weaken (rejects digest _) (fun _ h => congrArg _ h) (fun _ _ h => h)
      fun _ _ h => h
  refine Triple.withState fun t same => ?_
  cases same
  have settled (answer : PyDict) : Triple (fun t => t = s) (pure answer : PayloadProgram PyDict)
      (fun _ t => ConfigStep s.journal t.journal command)
      fun _ t => ConfigStep s.journal t.journal command :=
    Triple.pure fun t same => same ▸ ConfigStep.refl _ command
  unfold PayloadDeployment.answerRequest
  split
  · exact settled _
  · exact settled _
  · exact settled _
  · refine Triple.tryCatch (R := fun _ t => t.journal = s.journal) ?_ fun failure => ?_
    · unfold PayloadDeployment.executeCommand
      rw [opcode]
      exact Triple.weaken (triple_onJournal (triple_handleSetConfig p)) (fun _ h => congrArg _ h)
        (fun _ _ h => h) fun _ _ h => h
    · unfold rejectFailure
      split
      · exact rejects digest _
      · exact Triple.weaken (triple_onJournal (P := fun j => j = s.journal)
          (Q := fun _ j => ConfigStep s.journal j command)
          (E := fun _ j => ConfigStep s.journal j command)
          (Triple.raise fun j same => same ▸ ConfigStep.refl _ command)) (fun _ h => h)
          (fun _ _ h => h) fun _ _ h => h

/-! ## Other operations -/

theorem recordFrame_config : RecordFrame fun j => j.config := ⟨fun _ _ => rfl, fun _ _ => rfl⟩

theorem jobFrame_config : JobFrame fun j => j.config :=
  ⟨fun _ _ => rfl, fun _ _ => rfl, fun _ _ => rfl⟩

theorem transferFrame_config : TransferFrame fun j => j.config :=
  ⟨fun _ _ => rfl, fun _ _ => rfl, fun _ _ => rfl⟩

theorem config_reconcileAfterRestart {j j' : SatelliteJournal} (restarted : j.restart = .ok j') :
    j'.config = j.config := by
  obtain ⟨booted, boot, restarted⟩ := bind_eq_ok_iff.mp restarted
  cases restarted
  unfold SatelliteJournal.incrementBootId at boot
  split at boot
  · cases boot
  · cases boot
    rfl

section Runs

variable (p : PayloadDeployment) (fileDownlink : FileDownlinkCoordinator)

/-- An operation is no configuration command, or makes the step of one. -/
theorem config_of_step (run : PayloadRun) (input : PayloadInput) :
    (((payloadMachine p fileDownlink).step run input).1.state.journal.config =
        run.state.journal.config ∧
      ∀ command answers, input = .command command answers →
        command.opcode ≠ .cloudSetConfig) ∨
    ∃ command answers, input = .command command answers ∧ command.opcode = .cloudSetConfig ∧
      ConfigStep run.state.journal
        ((payloadMachine p fileDownlink).step run input).1.state.journal command := by
  cases input with
  | command command answers =>
      by_cases opcode : command.opcode = .cloudSetConfig
      · exact .inr ⟨command, answers, rfl, opcode,
          configStep_of_command p answers.port opcode run.state⟩
      · refine .inl ⟨?_, fun other answers' same => ?_⟩
        · have keeps : Keeps (fun s : PayloadState => s.journal.config = run.state.journal.config)
              (p.handleCommand answers.port command) :=
            keeps_handleCommand recordFrame_config p fun digest =>
              keeps_executeCommand recordFrame_config p answers digest
                (fun same => absurd same opcode) (fun _ => jobFrame_config)
                (fun _ => transferFrame_config) run.state.journal.config
          exact keeps.finalState rfl
        · cases same
          exact opcode
  | started key deadline =>
      refine .inl ⟨?_, fun _ _ same => by cases same⟩
      exact (keeps_onJournal (unchanged_handleWorkerStarted recordFrame_config jobFrame_config key
        deadline run.state.journal.config)).finalState rfl
  | result report =>
      refine .inl ⟨?_, fun _ _ same => by cases same⟩
      exact (keeps_onJournal (unchanged_handleWorkerResult recordFrame_config jobFrame_config
        report.files report.result run.state.journal.config)).finalState rfl
  | restart =>
      refine .inl ⟨?_, fun _ _ same => by cases same⟩
      change (run.restart fileDownlink).state.journal.config = run.state.journal.config
      unfold PayloadRun.restart
      split
      · rfl
      · rename_i journal restarted
        exact config_reconcileAfterRestart restarted

/-! ## Runs -/

theorem lt_nextIdentity {config : ConfigSnapshot} {next : U32 × U32}
    (moved : SatelliteJournal.nextIdentity config = .ok next) :
    toLex config.identity < toLex next := by
  unfold SatelliteJournal.nextIdentity at moved
  rw [Prod.Lex.toLex_lt_toLex]
  split at moved
  · split at moved
    · cases moved
    · rename_i room
      cases moved
      left
      show config.epoch < config.epoch + 1
      rw [Fin.lt_def, Fin.val_add_one_of_lt' (by omega)]
      omega
  · rename_i room
    cases moved
    right
    refine ⟨rfl, ?_⟩
    show config.revision < config.revision + 1
    rw [Fin.lt_def, Fin.val_add_one_of_lt' (by omega)]
    omega

/-- The identity grows or the configuration stays. -/
def ConfigGrows (before after : ConfigSnapshot) : Prop :=
  toLex before.identity < toLex after.identity ∨ after = before

theorem ConfigGrows.trans {c c' c'' : ConfigSnapshot} (first : ConfigGrows c c')
    (second : ConfigGrows c' c'') : ConfigGrows c c'' := by
  rcases first with grows | rfl
  · rcases second with grows' | rfl
    · exact .inl (grows.trans grows')
    · exact .inl grows
  · exact second

theorem configGrows_of_step (run : PayloadRun) (input : PayloadInput) :
    ConfigGrows run.state.journal.config
      ((payloadMachine p fileDownlink).step run input).1.state.journal.config := by
  rcases config_of_step p fileDownlink run input with
    ⟨same, -⟩ | ⟨command, answers, -, -, step⟩
  · exact .inr same
  · cases step with
    | refused config => exact .inr config
    | executed row expected next => exact .inl (lt_nextIdentity next)

theorem configGrows_of_run (run : PayloadRun) (inputs : List PayloadInput) :
    ConfigGrows run.state.journal.config (journalAfter p fileDownlink run inputs).config :=
  (payloadMachine p fileDownlink).exec_invariant
    (fun t => ConfigGrows run.state.journal.config t.state.journal.config) (.inr rfl)
    (fun t input grows => grows.trans (configGrows_of_step p fileDownlink t input)) inputs

/-- The claims about the configuration during a run. -/
structure ConfigClaims (run : PayloadRun) : Prop where
  /-- An executed command moves to a greater identity, and its result is the configuration that
  became current. -/
  executed : ∀ inputs input command row,
    ExecutesConfig (journalAfter p fileDownlink run inputs)
      (journalAfter p fileDownlink run (inputs ++ [input])) input command row →
    toLex (journalAfter p fileDownlink run inputs).config.identity <
        toLex (journalAfter p fileDownlink run (inputs ++ [input])).config.identity ∧
      row.result =
        SatelliteJournal.configResult (journalAfter p fileDownlink run (inputs ++ [input])).config
  /-- Nothing else changes the configuration. -/
  unchanged : ∀ inputs input,
    (∀ command row, ¬ ExecutesConfig (journalAfter p fileDownlink run inputs)
      (journalAfter p fileDownlink run (inputs ++ [input])) input command row) →
    (journalAfter p fileDownlink run (inputs ++ [input])).config =
      (journalAfter p fileDownlink run inputs).config
  /-- An identity never names two configurations. -/
  identified : ∀ first second,
    (journalAfter p fileDownlink run (first ++ second)).config.identity =
      (journalAfter p fileDownlink run first).config.identity →
    (journalAfter p fileDownlink run (first ++ second)).config =
      (journalAfter p fileDownlink run first).config
  /-- Two executed commands expect different identities. -/
  once : ∀ past input between later command row command' row',
    ExecutesConfig (journalAfter p fileDownlink run past)
      (journalAfter p fileDownlink run (past ++ [input])) input command row →
    ExecutesConfig (journalAfter p fileDownlink run (past ++ [input] ++ between))
      (journalAfter p fileDownlink run (past ++ [input] ++ between ++ [later])) later command'
      row' →
    expectedIdentity command ≠ expectedIdentity command'
  /-- A command that is not executed leaves the records, but for its own rejection. -/
  refused : ∀ inputs command answers, command.opcode = .cloudSetConfig →
    (∀ row, ¬ ExecutesConfig (journalAfter p fileDownlink run inputs)
      (journalAfter p fileDownlink run (inputs ++ [.command command answers]))
      (.command command answers) command row) →
    OnlyRejection (journalAfter p fileDownlink run inputs)
      (journalAfter p fileDownlink run (inputs ++ [.command command answers])) command

/-- The step of a run that executes a configuration command. -/
theorem step_of_executesConfig {run : PayloadRun} {inputs : List PayloadInput}
    {input : PayloadInput} {command : Command} {row : CommandRecord}
    (executes : ExecutesConfig (journalAfter p fileDownlink run inputs)
      (journalAfter p fileDownlink run (inputs ++ [input])) input command row) :
    expectedIdentity command =
        .ok (journalAfter p fileDownlink run inputs).config.identity ∧
      toLex (journalAfter p fileDownlink run inputs).config.identity <
        toLex (journalAfter p fileDownlink run (inputs ++ [input])).config.identity ∧
      row.result =
        SatelliteJournal.configResult (journalAfter p fileDownlink run (inputs ++ [input])).config
    := by
  obtain ⟨⟨answers, rfl⟩, opcode, fresh, found, state⟩ := executes
  rw [journalAfter_concat] at found ⊢
  rcases config_of_step p fileDownlink ((payloadMachine p fileDownlink).exec run inputs)
    (.command command answers) with ⟨-, other⟩ | ⟨command', answers', same, -, step⟩
  · exact absurd opcode (other command answers rfl)
  cases same
  cases step with
  | refused config records =>
      rcases records with same | ⟨rejection, rejected, inserted⟩
      · rw [same] at found
        exact absurd (fresh.symm.trans found) (by simp)
      · rw [Table.find?_insert inserted, if_pos rfl] at found
        cases found
        rw [rejected] at state
        cases state
  | executed row' expected next state' result recorded =>
      rw [Table.find?_insert recorded, if_pos rfl] at found
      cases found
      exact ⟨expected, lt_nextIdentity next, result⟩

/-- **The history of the configuration.** -/
theorem config_history (run : PayloadRun) : ConfigClaims p fileDownlink run where
  executed inputs input command row executes :=
    (step_of_executesConfig p fileDownlink executes).2
  unchanged inputs input none := by
    rw [journalAfter_concat] at none ⊢
    rcases config_of_step p fileDownlink ((payloadMachine p fileDownlink).exec run inputs)
      input with ⟨same, -⟩ | ⟨command, answers, rfl, opcode, step⟩
    · exact same
    cases step with
    | refused config => exact config
    | executed row expected next state result recorded =>
        have found := (Table.find?_insert recorded command.requestKey).trans (if_pos rfl)
        exact absurd ⟨⟨answers, rfl⟩, opcode, Table.fresh_of_insert recorded, found, state⟩
          (none command row)
  identified first second same := by
    rw [journalAfter_append] at same ⊢
    rcases configGrows_of_run p fileDownlink ((payloadMachine p fileDownlink).exec run first)
      second with grows | unchanged
    · rw [same] at grows
      exact absurd grows (lt_irrefl _)
    · exact unchanged
  once past input between later command row command' row' executes executes' same := by
    obtain ⟨expected, grows, -⟩ := step_of_executesConfig p fileDownlink executes
    obtain ⟨expected', -, -⟩ := step_of_executesConfig p fileDownlink executes'
    rw [expected, expected'] at same
    have identity := Except.ok.inj same
    have stays := configGrows_of_run p fileDownlink
      ((payloadMachine p fileDownlink).exec run (past ++ [input])) between
    rw [← journalAfter_append] at stays
    rw [identity] at grows
    rcases stays with further | same'
    · exact absurd (grows.trans further) (lt_irrefl _)
    · rw [same'] at grows
      exact absurd grows (lt_irrefl _)
  refused inputs command answers opcode none := by
    rw [journalAfter_concat] at none ⊢
    rcases config_of_step p fileDownlink ((payloadMachine p fileDownlink).exec run inputs)
      (.command command answers) with ⟨-, other⟩ | ⟨command', answers', same, -, step⟩
    · exact absurd opcode (other command answers rfl)
    cases same
    cases step with
    | refused config records => exact records
    | executed row expected next state result recorded =>
        have found := (Table.find?_insert recorded command.requestKey).trans (if_pos rfl)
        exact absurd ⟨⟨answers, rfl⟩, opcode, Table.fresh_of_insert recorded, found, state⟩
          (none row)

end Runs

end CubeNano
